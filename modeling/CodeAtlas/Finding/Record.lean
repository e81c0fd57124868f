import CodeAtlas.Finding.Basic
import CodeAtlas.Json.Reader
import CodeAtlas.Json.Record

/-!
# Reading findings

Each structure of a finding is a record of JSON. A field with a default may be left out, and so may
the whole content of the data; every other field is required. Each record is filled in slot by slot,
and a required slot that stays empty is a missing field.
-/

namespace CodeAtlas.Json

/-- A field that fills a slot of its own. -/
def Field.slot {σ β : Type} (name : String) (required : Bool) (get : σ → Option β)
    (put : σ → β → σ) (read : Outline → Except Problem β) : Field σ where
  name := name
  required := required
  filled := fun slots => (get slots).isSome
  fill := fun item slots => (read item).map (put slots)

/-- The content of a required slot, or the name of the field. -/
def need {β : Type} (name : String) : Option β → Except String β
  | some value => .ok value
  | none => .error name

end CodeAtlas.Json

namespace CodeAtlas

open Json (Field Record Outline Problem need)

/-- Reads a number of 32 bits. -/
def readLine (item : Outline) : Except Problem UInt32 :=
  (item.readInt "u32" 0 4294967295).map fun n => UInt32.ofNat n.toNat

/-- Reads a list of texts. -/
def readTexts : Outline → Except Problem (List String) := Outline.readList Outline.readText

/-! ## Files and folders -/

/-- The slots of an inventory. -/
structure InventorySlots where
  folders : Option (List String) := none
  files : Option (List String) := none

/-- The record of an inventory. -/
def Inventory.record : Record InventorySlots Inventory where
  name := "StructureData"
  fields := [
    .slot "folders" false (·.folders) (fun s v => { s with folders := some v }) readTexts,
    .slot "files" false (·.files) (fun s v => { s with files := some v }) readTexts]
  empty := {}
  finish := fun s => .ok ⟨s.folders.getD [], s.files.getD []⟩

/-! ## Functions -/

/-- The slots of a function. -/
structure FunctionSlots where
  id : Option String := none
  name : Option String := none
  file : Option String := none
  startLine : Option UInt32 := none
  calls : Option (List String) := none

/-- The record of a function. -/
def FunctionRecord.record : Record FunctionSlots FunctionRecord where
  name := "ExtractedFunction"
  fields := [
    .slot "id" true (·.id) (fun s v => { s with id := some v }) Outline.readText,
    .slot "name" true (·.name) (fun s v => { s with name := some v }) Outline.readText,
    .slot "file" true (·.file) (fun s v => { s with file := some v }) Outline.readText,
    .slot "startLine" false (·.startLine) (fun s v => { s with startLine := some v }) readLine,
    .slot "calls" false (·.calls) (fun s v => { s with calls := some v }) readTexts]
  empty := {}
  finish := fun s => do
    return {
      id := ← need "id" s.id
      name := ← need "name" s.name
      file := ← need "file" s.file
      startLine := s.startLine.getD 0
      calls := s.calls.getD [] }

/-- A record whose one field is a list that may be left out. -/
def listRecord {α : Type} (name field : String) (read : Outline → Except Problem α) :
    Record (Option (List α)) (List α) where
  name := name
  fields := [.slot field false id (fun _ v => some v) (Outline.readList read)]
  empty := none
  finish := fun items => .ok (items.getD [])

/-! ## Imports -/

/-- The slots of an import. -/
structure ImportSlots where
  source : Option String := none
  target : Option String := none

/-- The record of an import. -/
def ImportPair.record : Record ImportSlots ImportPair where
  name := "DependencyPair"
  fields := [
    .slot "from" true (·.source) (fun s v => { s with source := some v }) Outline.readText,
    .slot "to" true (·.target) (fun s v => { s with target := some v }) Outline.readText]
  empty := {}
  finish := fun s => do
    return { source := ← need "from" s.source, target := ← need "to" s.target }

/-! ## Commits -/

/-- The slots of a commit. -/
structure CommitSlots where
  file : Option String := none
  commit : Option String := none
  author : Option String := none
  date : Option String := none
  message : Option String := none

/-- The record of a commit. -/
def Commit.record : Record CommitSlots Commit where
  name := "HistoryEntry"
  fields := [
    .slot "file" true (·.file) (fun s v => { s with file := some v }) Outline.readText,
    .slot "commit" true (·.commit) (fun s v => { s with commit := some v }) Outline.readText,
    .slot "author" false (·.author) (fun s v => { s with author := some v }) Outline.readText,
    .slot "date" false (·.date) (fun s v => { s with date := some v }) Outline.readText,
    .slot "message" false (·.message) (fun s v => { s with message := some v }) Outline.readText]
  empty := {}
  finish := fun s => do
    return {
      file := ← need "file" s.file
      commit := ← need "commit" s.commit
      author := s.author.getD ""
      date := s.date.getD ""
      message := s.message.getD "" }

/-! ## Risks -/

/-- Reads a severity. -/
def Severity.read : Outline → Except Problem Severity :=
  Outline.readChoice (Severity.all.map fun severity => (severity.name, severity))

/-- The slots of a risk. -/
structure RiskSlots where
  file : Option String := none
  category : Option String := none
  severity : Option Severity := none
  message : Option String := none
  line : Option (Option UInt32) := none

/-- The record of a risk. -/
def Risk.record : Record RiskSlots Risk where
  name := "RiskEntry"
  fields := [
    .slot "file" true (·.file) (fun s v => { s with file := some v }) Outline.readText,
    .slot "category" true (·.category) (fun s v => { s with category := some v })
      Outline.readText,
    .slot "severity" true (·.severity) (fun s v => { s with severity := some v }) Severity.read,
    .slot "message" false (·.message) (fun s v => { s with message := some v }) Outline.readText,
    .slot "line" false (·.line) (fun s v => { s with line := some v })
      (Outline.readOptional readLine)]
  empty := {}
  finish := fun s => do
    return {
      file := ← need "file" s.file
      category := ← need "category" s.category
      severity := ← need "severity" s.severity
      message := s.message.getD ""
      line := s.line.getD none }

/-! ## Findings -/

/-- The slots of an envelope. -/
structure EnvelopeSlots (α : Type) where
  source : Option String := none
  timestamp : Option Int64 := none
  data : Option α := none

/-- Reads a number of 64 bits with its sign. -/
def readTimestamp (item : Outline) : Except Problem Int64 :=
  (item.readInt "i64" (-9223372036854775808) 9223372036854775807).map Int64.ofInt

/-- The record of an envelope around data that `read` reads. -/
def Envelope.record {α : Type} (read : Outline → Except Problem α) :
    Record (EnvelopeSlots α) (Envelope α) where
  name := "AgentFinding"
  fields := [
    .slot "source" true (·.source) (fun s v => { s with source := some v }) Outline.readText,
    .slot "timestamp" true (·.timestamp) (fun s v => { s with timestamp := some v })
      readTimestamp,
    .slot "data" true (·.data) (fun s v => { s with data := some v }) read]
  empty := {}
  finish := fun s => do
    return {
      source := ← need "source" s.source
      timestamp := ← need "timestamp" s.timestamp
      data := ← need "data" s.data }

/-- Reads the functions of an extraction. -/
def readFunctions : Outline → Except Problem (List FunctionRecord) :=
  (listRecord "ExtractionData" "functions" FunctionRecord.record.read).read

/-- Reads the imports between files. -/
def readImports : Outline → Except Problem (List ImportPair) :=
  (listRecord "DependencyData" "dependencies" ImportPair.record.read).read

/-- Reads the commits of a history. -/
def readCommits : Outline → Except Problem (List Commit) :=
  (listRecord "HistoryData" "entries" Commit.record.read).read

/-- Reads the risks of a scan. -/
def readRisks : Outline → Except Problem (List Risk) :=
  (listRecord "RiskData" "risks" Risk.record.read).read

namespace Finding

/-- Reads a finding of a kind. -/
def read (kind : FindingKind) (item : Outline) : Except Problem Finding :=
  match kind with
  | .structural => ((Envelope.record Inventory.record.read).read item).map .structural
  | .extraction => ((Envelope.record readFunctions).read item).map .extraction
  | .dependencies => ((Envelope.record readImports).read item).map .dependencies
  | .history => ((Envelope.record readCommits).read item).map .history
  | .risks => ((Envelope.record readRisks).read item).map .risks

/-- Reads the text of a finding of a kind. -/
def parse (kind : FindingKind) (text : String) : Except Problem Finding :=
  (Json.Document.read text).read? (read kind)

end Finding

end CodeAtlas
