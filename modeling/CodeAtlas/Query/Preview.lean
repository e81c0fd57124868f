import CodeAtlas.Query.Answer

/-!
# Previews of answers

An explainer turns a question and its answer into a preview in prose, into nothing, or fails.
-/

namespace CodeAtlas

/-- Why an explainer gives no preview. -/
inductive ExplainError where
  | unavailable (reason : String)
  | failed (reason : String)
deriving DecidableEq, Repr

/-- The text of a failure to explain. -/
def ExplainError.message : ExplainError → String
  | unavailable reason => "explainer unavailable: " ++ reason
  | failed reason => "explanation failed: " ++ reason

/-- What explains answers. -/
abbrev Explainer : Type := String → Answer → Except ExplainError (Option String)

namespace Explainer

/-- Adds nothing. -/
def silent : Explainer := fun _ _ => .ok none

/-- A number of things. -/
def countOf (n : Nat) (one many : String) : String :=
  toString n ++ " " ++ if n = 1 then one else many

/-- One line: the reason why there is no answer, or how much there is in it. -/
def summary : Explainer := fun _ a =>
  match a.error? with
  | some reason => .ok (some ("Nothing found: " ++ reason))
  | none =>
    if a.files.isEmpty && a.functions.isEmpty then .ok none
    else
      .ok (some
        (a.intent ++ " answer: " ++ countOf a.files.length "file" "files" ++ ", " ++
          countOf a.functions.length "function" "functions"))

end Explainer

end CodeAtlas
