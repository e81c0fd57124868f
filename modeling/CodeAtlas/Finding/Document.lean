import CodeAtlas.Finding.Basic
import CodeAtlas.Json.Basic

/-!
# Findings as JSON

Every field is written, in its declared order, except the line of a risk that has none.
-/

namespace CodeAtlas

/-- Files and folders as JSON. -/
def Inventory.document (data : Inventory) : Json :=
  .object [("folders", .texts data.folders), ("files", .texts data.files)]

/-- A function as JSON. -/
def FunctionRecord.document (f : FunctionRecord) : Json :=
  .object [
    ("id", .text f.id), ("name", .text f.name), ("file", .text f.file),
    ("startLine", .nat f.startLine.toNat), ("calls", .texts f.calls)]

/-- An import as JSON. -/
def ImportPair.document (pair : ImportPair) : Json :=
  .object [("from", .text pair.source), ("to", .text pair.target)]

/-- A commit as JSON. -/
def Commit.document (c : Commit) : Json :=
  .object [
    ("file", .text c.file), ("commit", .text c.commit), ("author", .text c.author),
    ("date", .text c.date), ("message", .text c.message)]

/-- A risk as JSON. -/
def Risk.document (r : Risk) : Json :=
  .object (
    [("file", .text r.file), ("category", .text r.category), ("severity", .text r.severity.name),
      ("message", .text r.message)] ++
    (r.line.map fun line => ("line", Json.nat line.toNat)).toList)

/-- An object whose one member is a list. -/
def listDocument {α : Type} (field : String) (document : α → Json) (items : List α) : Json :=
  .object [(field, .array (items.map document))]

/-- An envelope as JSON. -/
def Envelope.document {α : Type} (data : α → Json) (e : Envelope α) : Json :=
  .object [
    ("source", .text e.source), ("timestamp", .int e.timestamp.toInt), ("data", data e.data)]

/-- A finding as JSON. -/
def Finding.document : Finding → Json
  | .structural e => e.document Inventory.document
  | .extraction e => e.document (listDocument "functions" FunctionRecord.document)
  | .dependencies e => e.document (listDocument "dependencies" ImportPair.document)
  | .history e => e.document (listDocument "entries" Commit.document)
  | .risks e => e.document (listDocument "risks" Risk.document)

end CodeAtlas
