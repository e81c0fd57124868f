/-!
# Findings

Collaborators look at a code base and hand over what they find: the files and folders, the
functions, the imports, the history, and the risks. A finding carries the name of its collaborator
and the time at which it was made.
-/

namespace CodeAtlas

/-- What a finding is about. -/
inductive FindingKind where
  /-- The files and folders. -/
  | structural
  /-- The functions and what they call. -/
  | extraction
  /-- The imports between files. -/
  | dependencies
  /-- The commits that touched files. -/
  | history
  /-- The risks seen in files. -/
  | risks
deriving DecidableEq, Repr

namespace FindingKind

/-- All kinds, in the order in which a build uses them. -/
def all : List FindingKind := [structural, extraction, dependencies, history, risks]

/-- The name of a kind. -/
def name : FindingKind → String
  | structural => "structure"
  | extraction => "extraction"
  | dependencies => "dependencies"
  | history => "history"
  | risks => "risks"

end FindingKind

/-- The files and folders of a code base. -/
structure Inventory where
  folders : List String
  files : List String
deriving DecidableEq, Repr

/-- A function as its extractor reports it. -/
structure FunctionRecord where
  id : String
  name : String
  file : String
  startLine : UInt32
  calls : List String
deriving DecidableEq, Repr

/-- An import of one file by another. -/
structure ImportPair where
  source : String
  target : String
deriving DecidableEq, Repr

/-- A commit that touched a file. -/
structure Commit where
  file : String
  commit : String
  author : String
  date : String
  message : String
deriving DecidableEq, Repr

/-- How serious a risk is. -/
inductive Severity where
  | low
  | medium
  | high
  | critical
deriving DecidableEq, Repr

namespace Severity

/-- All severities, the least serious first. -/
def all : List Severity := [low, medium, high, critical]

/-- The name of a severity. -/
def name : Severity → String
  | low => "low"
  | medium => "medium"
  | high => "high"
  | critical => "critical"

/-- The place of a severity among all. -/
def rank : Severity → Nat
  | low => 0
  | medium => 1
  | high => 2
  | critical => 3

end Severity

/-- A risk seen in a file, with its line where one is known. -/
structure Risk where
  file : String
  category : String
  severity : Severity
  message : String
  line : Option UInt32
deriving DecidableEq, Repr

/-- What a collaborator hands over: its name, the time in milliseconds, and the data. -/
structure Envelope (α : Type) where
  source : String
  timestamp : Int64
  data : α
deriving DecidableEq, Repr

/-- A finding. -/
inductive Finding where
  | structural (envelope : Envelope Inventory)
  | extraction (envelope : Envelope (List FunctionRecord))
  | dependencies (envelope : Envelope (List ImportPair))
  | history (envelope : Envelope (List Commit))
  | risks (envelope : Envelope (List Risk))
deriving DecidableEq

namespace Finding

/-- What the finding is about. -/
def kind : Finding → FindingKind
  | structural _ => .structural
  | extraction _ => .extraction
  | dependencies _ => .dependencies
  | history _ => .history
  | risks _ => .risks

/-- The name of the collaborator. -/
def source : Finding → String
  | structural e => e.source
  | extraction e => e.source
  | dependencies e => e.source
  | history e => e.source
  | risks e => e.source

end Finding

end CodeAtlas
