import CodeAtlas.Proofs.Query.Usage

/-!
# Why there is no answer

Every handler that refuses gives one reason, which names what it does not know. One reason names
nothing: that a plan about a function lacks the name of one. `error?_answer_iff` says that
it comes from such plans only, whatever the planner.

1. `error?_answerRequest`: the reasons of the handlers by intent.
2. `error?_reach`, `error?_find`: when the handlers of plans about a function refuse.
-/

namespace CodeAtlas

namespace Query

open Answer

/-! ## Reasons -/

/-- Why a file is not known. -/
def fileReason (target : String) : String := "file not found: " ++ target

/-- Why neither a function nor a file is known. -/
def targetReason (target : String) : String := "no function or file named " ++ target

/-- Why a function is not known. -/
def functionReason (name : String) : String := "function not found: " ++ name

/-- Why a plan about a function is not followed. -/
def nameReason : String := "no function name in question"

/-- A text does not begin in two ways. -/
theorem append_ne {opening text : String} (h : opening.toList.isPrefixOf text.toList = false)
    (rest : String) : opening ++ rest ≠ text := by
  rintro rfl
  rw [String.toList_append, List.isPrefixOf_iff_prefix.2 (List.prefix_append _ _)] at h
  cases h

theorem fileReason_ne (target : String) : fileReason target ≠ nameReason :=
  append_ne (by decide) target

theorem targetReason_ne (target : String) : targetReason target ≠ nameReason :=
  append_ne (by decide) target

theorem functionReason_ne (name : String) : functionReason name ≠ nameReason :=
  append_ne (by decide) name

/-! ## Handlers -/

variable {reason : String}

theorem error?_onFile {intent : Intent} {g : Graph} {target : String} {about : String → Answer}
    (found : ∀ file, (about file).Found) (h : (onFile intent g target about).error? = some reason) :
    reason = fileReason target := by
  unfold onFile at h
  split at h
  · exact ((found _).error?_ne h).elim
  · exact (Option.some.inj h).symm

theorem error?_explain {g : Graph} {target : String}
    (h : (explain g target).error? = some reason) : reason = targetReason target := by
  unfold explain at h
  split at h
  · exact ((found_explainFunction g _).error?_ne h).elim
  · split at h
    · exact ((found_explainFile g _).error?_ne h).elim
    · exact (Option.some.inj h).symm

/-- A handler by intent refuses what is no file, or neither a function nor a file. -/
theorem error?_answerRequest {context : Context} {request : Request}
    (h : (answerRequest context request).error? = some reason) :
    reason = fileReason request.target ∨ reason = targetReason request.target := by
  unfold answerRequest at h
  rw [error?_withFact_of_ne _ (by decide)] at h
  cases hi : request.intent with rw [hi] at h
  | dependencies => exact Or.inl (error?_onFile (found_dependencies _) h)
  | usage =>
    rw [error?_usage] at h
    split at h
    · exact Or.inr (Option.some.inj h).symm
    · cases h
  | history => exact Or.inl (error?_onFile (found_history _) h)
  | risks => exact Or.inl (error?_onFile (found_risks _) h)
  | explain => exact Or.inr (error?_explain h)

/-- The reach of a function is refused exactly if the function is not known. -/
theorem error?_reach (g : Graph) (name : String) : (reach g name).error? =
    if g.functionIds name = [] then some (functionReason name) else none := by
  split
  case isTrue unknown =>
    rw [reach_of_unknown unknown]
    rfl
  case isFalse known => exact (found_reach known).error?_eq_none

theorem error?_find (g : Graph) (name : String) : (find g name).error? =
    if g.functionsNamed name = [] then some (functionReason name) else none := by
  split
  case isTrue unknown =>
    rw [find_of_unknown unknown]
    rfl
  case isFalse known => exact (found_find known).error?_eq_none

end Query

namespace Responder

open Query

variable (r : Responder)

/-- The plan of an operation on a function that lacks its name. -/
def Lacks (plan : Plan) : Prop :=
  plan.function = none ∧ (plan.operation = .reach ∨ plan.operation = .find)

/-- A plan is refused for the lack of a name exactly if it lacks one. -/
theorem error?_answerPlan_iff (g : Graph) (plan : Plan) :
    (r.answerPlan g plan).error? = some nameReason ↔ Lacks plan := by
  have named : ∀ {a : Answer} {name : String} {unknown : Prop} [Decidable unknown],
      a.error? = (if unknown then some (functionReason name) else none) →
        a.error? ≠ some nameReason := by
    intro a name unknown _ told refused
    rw [told] at refused
    split at refused
    · exact functionReason_ne name (Option.some.inj refused)
    · cases refused
  unfold answerPlan Lacks
  obtain ⟨operation, function⟩ := plan
  cases operation with
  | reach => cases function with
    | some name => exact iff_of_false (named (error?_reach g name)) (by simp)
    | none => exact iff_of_true rfl ⟨rfl, Or.inl rfl⟩
  | find => cases function with
    | some name => exact iff_of_false (named (error?_find g name)) (by simp)
    | none => exact iff_of_true rfl ⟨rfl, Or.inr rfl⟩
  | central => exact iff_of_false (found_central _ g).error?_ne (by simp)
  | important => exact iff_of_false (found_important _ _ g).error?_ne (by simp)
  | unknown => exact iff_of_false (found_general g).error?_ne (by simp)

/-- An answer is refused for the lack of a name exactly if the plan of its question lacks one. -/
theorem error?_answer_iff (context : Context) (question : String) :
    (r.answer context question).error? = some nameReason ↔
      parse? question = none ∧ Lacks (r.plan question) := by
  have told := (r.wellFormed_answer context question).others "error" (by decide) (by decide)
  rw [Answer.error?, told, ← Answer.error?, facts]
  cases parse? question with
  | none => exact (r.error?_answerPlan_iff context.graph _).trans (and_iff_right rfl).symm
  | some request =>
    refine iff_of_false (fun refused => ?_) nofun
    rcases error?_answerRequest refused with same | same
    · exact fileReason_ne _ same.symm
    · exact targetReason_ne _ same.symm

end Responder

end CodeAtlas
