import CodeAtlas.Finding.Basic

/-!
# Errors

Why an operation fails as a whole, and why one collaborator hands over no finding. The second never
stops an operation: the finding is missing, and the failure is reported.
-/

namespace CodeAtlas

/-- Why an operation fails. -/
inductive Error where
  /-- The file system refuses, with its reason. -/
  | io (reason : String)
  /-- The configuration is not valid. -/
  | config (reason : String)
  /-- The finding without which there is nothing to analyse is missing. -/
  | noWorkspace (kind : FindingKind)
deriving DecidableEq, Repr

namespace Error

/-- The text of an error. -/
def message : Error → String
  | io reason => "I/O error: " ++ reason
  | config reason => "configuration error: " ++ reason
  | noWorkspace kind => "no workspace to analyze: the " ++ kind.name ++ " finding is missing"

/-- The texts of the errors behind an error. -/
def causes : Error → List String
  | io reason => [reason]
  | config _ | noWorkspace _ => []

end Error

/-- What keeps a collaborator from handing over a finding. -/
inductive Obstacle where
  /-- Its input cannot be read, with the reason. -/
  | io (reason : String)
  /-- Its output is no finding of its kind, with the reason. -/
  | malformed (reason : String)
  /-- It ran past its deadline. -/
  | timedOut
deriving DecidableEq, Repr

/-- The failure of a collaborator. -/
structure Failure where
  /-- The kind of the collaborator that failed. -/
  kind : FindingKind
  obstacle : Obstacle
deriving DecidableEq, Repr

namespace Failure

/-- The text of a failure. -/
def message (f : Failure) : String :=
  f.kind.name ++
    match f.obstacle with
    | .io reason => " collaborator I/O failure: " ++ reason
    | .malformed reason => " collaborator produced malformed output: " ++ reason
    | .timedOut => " collaborator timed out"

/-- The texts of the errors behind a failure. -/
def causes (f : Failure) : List String :=
  match f.obstacle with
  | .io reason => [reason]
  | .malformed _ | .timedOut => []

end Failure

end CodeAtlas
