import CodeAtlas.Finding.Basic
import CodeAtlas.Path

/-!
# The findings of a run

At most one finding of each kind is kept, the last one.
-/

namespace CodeAtlas

/-- At most one finding of each kind. -/
structure Findings where
  structural : Option (Envelope Inventory) := none
  extraction : Option (Envelope (List FunctionRecord)) := none
  dependencies : Option (Envelope (List ImportPair)) := none
  history : Option (Envelope (List Commit)) := none
  risks : Option (Envelope (List Risk)) := none
deriving DecidableEq

namespace Findings

/-- No findings. -/
def empty : Findings := {}

/-- Keeps a finding in place of the one of its kind. -/
def insert (fs : Findings) : Finding → Findings
  | .structural e => { fs with structural := some e }
  | .extraction e => { fs with extraction := some e }
  | .dependencies e => { fs with dependencies := some e }
  | .history e => { fs with history := some e }
  | .risks e => { fs with risks := some e }

/-- The finding of a kind. -/
def get? (fs : Findings) : FindingKind → Option Finding
  | .structural => fs.structural.map .structural
  | .extraction => fs.extraction.map .extraction
  | .dependencies => fs.dependencies.map .dependencies
  | .history => fs.history.map .history
  | .risks => fs.risks.map .risks

/-- Whether there is a finding of a kind. -/
def contains (fs : Findings) (kind : FindingKind) : Bool := (fs.get? kind).isSome

/-- The kinds without a finding. -/
def missing (fs : Findings) : List FindingKind := FindingKind.all.filter (!fs.contains ·)

/-- Keeps findings one after the other. -/
def ofList (findings : List Finding) : Findings := findings.foldl insert empty

/-- Whether a path that a collaborator reports means the file with an id: it is the id, or the last
parts of it. Every leading `./` of the path is dropped. -/
def sameFile (id reported : String) : Bool := Path.isTail id (Path.plain reported)

/-- The commits that touched a file; none without a history. -/
def historyFor (fs : Findings) (id : String) : Option (List Commit) :=
  fs.history.map fun e => e.data.filter (sameFile id ·.file)

/-- The risks seen in a file, the most serious first; none without a scan for risks. -/
def risksFor (fs : Findings) (id : String) : Option (List Risk) :=
  fs.risks.map fun e =>
    (e.data.filter (sameFile id ·.file)).mergeSort fun a b => b.severity.rank ≤ a.severity.rank

theorem get?_insert (fs : Findings) (finding : Finding) (kind : FindingKind) :
    (fs.insert finding).get? kind = if finding.kind = kind then some finding else fs.get? kind := by
  cases finding <;> cases kind <;> simp [insert, get?, Finding.kind]

end Findings

end CodeAtlas
