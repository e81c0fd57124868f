import CodeAtlas.Proofs.Query.Facts
import CodeAtlas.Session

/-!
# Previews and facts

An explainer works last. No handler writes a preview and the cut writes none, so what an explainer
sees is the answer as it is given back, only without its preview; and of an explainer nothing but a
preview comes back.

1. `preview_facts`: an answer has no preview before it is explained.
2. `withoutPreview_answer`: without its preview an answer is the cut of its handler's facts, which
   no explainer enters.
3. `answer_enriched`: what two explainers make of one question.
-/

namespace CodeAtlas

namespace Answer

/-! ## Answers without a preview -/

/-- The answer without its preview. -/
def withoutPreview (a : Answer) : Answer := { a with preview := none }

theorem withoutPreview_explained (a : Answer) (preview : Option String) :
    ({ a with preview } : Answer).withoutPreview = a.withoutPreview := rfl

theorem withoutPreview_eq_self {a : Answer} (h : a.preview = none) : a.withoutPreview = a := by
  unfold withoutPreview
  rw [← h]

variable (a : Answer)

@[simp] theorem preview_withFact (name : String) (value : Json) :
    (a.withFact name value).preview = a.preview := rfl

@[simp] theorem preview_withFacts (facts : List (String × Json)) :
    (a.withFacts facts).preview = a.preview := by rw [withFacts_eq]

@[simp] theorem preview_addFiles (files : List String) :
    (a.addFiles files).preview = a.preview := by rw [addFiles_eq]

@[simp] theorem preview_notFound (intent reason : String) :
    (notFound intent reason).preview = none := rfl

@[simp] theorem preview_cut (limit : Nat) : (a.cut limit).preview = a.preview := by
  have files : (a.cutFiles limit).preview = a.preview := by
    unfold cutFiles
    split <;> rfl
  rw [← files]
  unfold cut cutFunctions
  split <;> rfl

end Answer

/-! ## Handlers -/

namespace Query

theorem preview_onFile (intent : Intent) (g : Graph) (target : String) {about : String → Answer}
    (h : ∀ file, (about file).preview = none) : (onFile intent g target about).preview = none := by
  unfold onFile
  split
  · exact h _
  · rfl

theorem preview_usage (g : Graph) (target : String) : (usage g target).preview = none := by
  unfold usage
  dsimp only
  split
  · rfl
  · simp

theorem preview_explain (g : Graph) (target : String) : (explain g target).preview = none := by
  unfold explain
  split
  · simp [explainFunction]
  · split
    · simp [explainFile]
    · rfl

theorem preview_answerRequest (context : Context) (r : Request) :
    (answerRequest context r).preview = none := by
  unfold answerRequest
  rw [Answer.preview_withFact]
  cases r.intent with
  | dependencies => exact preview_onFile _ _ _ fun _ => by simp [dependencies]
  | usage => exact preview_usage _ _
  | history => exact preview_onFile _ _ _ fun _ => by simp [history]
  | risks => exact preview_onFile _ _ _ fun _ => by simp [risks]
  | explain => exact preview_explain _ _

theorem preview_reach (g : Graph) (name : String) : (reach g name).preview = none := by
  unfold reach
  split
  · rfl
  · simp

theorem preview_find (g : Graph) (name : String) : (find g name).preview = none := by
  unfold find
  dsimp only
  split
  · rfl
  · simp

end Query

namespace Responder

variable (r : Responder)

theorem preview_answerPlan (g : Graph) (plan : Plan) : (r.answerPlan g plan).preview = none := by
  unfold answerPlan
  obtain ⟨operation, function⟩ := plan
  cases operation with
  | reach => cases function with
    | some name => exact Query.preview_reach g name
    | none => rfl
  | find => cases function with
    | some name => exact Query.preview_find g name
    | none => rfl
  | central => simp [Query.central]
  | important => simp [Query.important]
  | unknown => simp [Query.general]

/-- No handler writes a preview. -/
theorem preview_facts (context : Context) (question : String) :
    (r.facts context question).preview = none := by
  unfold facts
  split
  · exact Query.preview_answerRequest _ _
  · exact r.preview_answerPlan _ _

/-- The handlers do not know the explainer. -/
theorem facts_explain (explain : Explainer) (context : Context) (question : String) :
    ({ r with explain } : Responder).facts context question = r.facts context question := by
  unfold facts
  cases Query.parse? question with
  | some request => rfl
  | none => rfl

/-- Without its preview an answer is what was cut from the facts of its handler. -/
theorem withoutPreview_answer (context : Context) (question : String) :
    (r.answer context question).withoutPreview = (r.facts context question).cut r.limit := by
  unfold answer
  rw [Answer.withoutPreview_explained, Answer.withoutPreview_eq_self]
  rw [Answer.preview_cut, preview_facts]

end Responder

/-! ## Explainers -/

namespace Answer

/-- Whether two answers state the same facts. -/
structure SameFacts (a b : Answer) : Prop where
  intent : a.intent = b.intent
  files : a.files = b.files
  functions : a.functions = b.functions
  metadata : a.metadata = b.metadata

/-- Whether an answer is what was cut from the facts of its handler, with the preview that an
explainer makes of just that, or with no preview where the explainer fails. -/
structure Enriches (explain : Explainer) (question : String) (limit : Nat) (given a : Answer) :
    Prop where
  facts : a.withoutPreview = given.cut limit
  preview_ok : ∀ text, explain question a.withoutPreview = .ok text → a.preview = text
  preview_error : ∀ e, explain question a.withoutPreview = .error e → a.preview = none

/-- Equal answers but for their previews state the same facts. -/
theorem sameFacts_of_withoutPreview {a b : Answer} (h : a.withoutPreview = b.withoutPreview) :
    a.SameFacts b := by
  simp only [withoutPreview, Answer.mk.injEq, and_true] at h
  exact ⟨h.1, h.2.1, h.2.2.1, h.2.2.2⟩

end Answer

theorem Responder.enriches_answer (r : Responder) (context : Context) (question : String) :
    Answer.Enriches r.explain question r.limit (r.facts context question)
      (r.answer context question) := by
  have seen : (r.answer context question).preview =
      r.preview question (r.answer context question).withoutPreview := by
    rw [withoutPreview_answer]
    rfl
  refine ⟨r.withoutPreview_answer context question, ?_, ?_⟩
  · intro text h
    rw [seen, preview, h]
  · intro e h
    rw [seen, preview, h]

/-- **Enrichment alters no facts and sees those that are given back.** Whatever two explainers do
with a question, the two answers differ in their previews only, and each preview was made of the
answer beside it: the same cut of the same facts. -/
theorem Config.answer_enriched (c : Config) (plan : String → Plan) (context : Context)
    (question : String) (one other : Explainer) :
    let r : Responder := { c.responder with plan }
    let answer := fun explain => ({ r with explain } : Responder).answer context question
    let enriched := fun explain => Answer.Enriches explain question (max 1 c.maxResults.toNat)
      (r.facts context question) (answer explain)
    (answer one).SameFacts (answer other) ∧ enriched one ∧ enriched other := by
  intro r answer enriched
  have all : ∀ explain, enriched explain := by
    intro explain
    have h := ({ r with explain } : Responder).enriches_answer context question
    rwa [Responder.facts_explain] at h
  refine ⟨Answer.sameFacts_of_withoutPreview ?_, all one, all other⟩
  rw [(all one).facts, (all other).facts]

end CodeAtlas
