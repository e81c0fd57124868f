import CodeAtlas.Proofs.Query.Candidates
import CodeAtlas.Proofs.Query.Refusals

/-!
# The plan of a question

A plan by keywords names a function exactly if its operation is about one, so it is never refused for
the lack of a name (`plan_names`). The name is the candidate of the question.
-/

namespace CodeAtlas.Query

variable {question name : String}

/-- A candidate is a piece of its question, an identifier and no stop word. -/
theorem candidate?_piece (h : candidate? question = some name) :
    name.toList <:+: question.toList ∧ isIdentifier name.toList = true ∧
      isAmong stopWords name.toList = false := by
  obtain ⟨i, rank, ⟨w, at_i, hname, eligible, -⟩, -⟩ := candidate?_eq_some_iff.1 h
  rw [Token.isEligible, Bool.and_eq_true, Bool.not_eq_true', hname] at eligible
  refine ⟨?_, eligible⟩
  rw [← hname]
  exact (Token.isInfix_name w).trans (Text.infix_of_mem_words (List.mem_of_getElem? at_i))

/-- Whether a plan names a function exactly if its operation is about one, and the name is a piece of
the question that can be the name of a function. -/
structure NamesFor (question : String) (plan : Plan) : Prop where
  named : plan.function ≠ none ↔ plan.operation = .reach ∨ plan.operation = .find
  piece : ∀ name, plan.function = some name → name.toList <:+: question.toList
  identifier : ∀ name, plan.function = some name → isIdentifier name.toList = true
  proper : ∀ name, plan.function = some name → ∀ w ∈ stopWords, Text.lower name.toList ≠ w.toList

/-- A plan of an operation that is about no function. -/
theorem NamesFor.general {operation : Operation}
    (other : operation ≠ .reach ∧ operation ≠ .find) : NamesFor question ⟨operation, none⟩ where
  named := iff_of_false (fun named => named rfl) (by simpa using other)
  piece := nofun
  identifier := nofun
  proper := nofun

/-- A plan of an operation on the candidate of the question, if there is one. -/
theorem NamesFor.planFor {operation : Operation} (about : operation = .reach ∨ operation = .find) :
    NamesFor question (planFor operation (candidate? question)) := by
  cases h : candidate? question with
  | none => exact .general (by decide)
  | some name =>
    obtain ⟨piece, identifier, proper⟩ := candidate?_piece h
    refine ⟨iff_of_true (Option.some_ne_none name) about, ?_, ?_, ?_⟩
    · rintro _ ⟨⟩
      exact piece
    · rintro _ ⟨⟩
      exact identifier
    · rintro _ ⟨⟩ w mem small
      rw [isAmong_iff.2 ⟨w, mem, small⟩] at proper
      cases proper

theorem namesFor_plan (question : String) : NamesFor question (plan question) := by
  unfold plan
  dsimp only
  split_ifs
  · exact .planFor (Or.inl rfl)
  · exact .general (by decide)
  · exact .general (by decide)
  · exact .planFor (Or.inr rfl)
  · exact .general (by decide)

/-- **Plans by keywords.** A plan names a function exactly if its operation is about one, so no answer
is an error for the lack of a name. The names of a question are ranked by their signs: the first with
a sign of the highest rank is its candidate, and there is none exactly if there is no sign. -/
theorem plan_names (question : String) :
    NamesFor question (plan question) ∧
    (∀ (r : Responder) (context : Context),
      (({ r with plan := Query.plan } : Responder).answer context question).error? ≠
        some "no function name in question") ∧
    (∀ name, candidate? question = some name ↔
      IsNominee (Text.words question.toList) name.toList) ∧
    (candidate? question = none ↔
      ∀ i name rank, ¬ Nominates (Text.words question.toList) i name rank) := by
  have names := namesFor_plan question
  refine ⟨names, fun r context refused => ?_, fun _ => candidate?_eq_some_iff,
    candidate?_eq_none_iff⟩
  obtain ⟨-, lacking, about⟩ := (Responder.error?_answer_iff _ context question).1 refused
  exact names.named.2 about lacking

/-- A call beats the marks inside a name before it. -/
example : candidate? "does fooBar call baz()" = some "baz" ∧
    candidate? "the function run" = some "run" ∧ candidate? "see src/app.ts" = none := by
  decide +kernel

end CodeAtlas.Query
