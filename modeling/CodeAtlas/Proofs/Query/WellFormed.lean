import CodeAtlas.Proofs.Graph.Distinct
import CodeAtlas.Proofs.Query.Facts
import CodeAtlas.Session

/-!
# Well-formed answers

Every handler either finds something, and then lists nothing twice and leaves the names alone that
are reserved for errors and totals, or gives nothing but the reason why it does not. The cut comes
after the handler and is the same for all of them.

1. `Answer.Found`: what an answer is that found something.
2. `facts_cases`: every handler's answer is found or a refusal, perhaps with a confidence.
3. `ranksBy_central`, `ranksBy_important`: the entries of a ranking stand for what is listed.
4. `answer_wellFormed`: what holds of every answer.
-/

namespace CodeAtlas

namespace Answer

/-- The names of facts that no handler sets on an answer that found something. -/
def reserved : List String := ["error", "totalFiles", "totalFunctions"]

/-- Whether an answer lists nothing twice and has no fact under a reserved name. -/
structure Found (a : Answer) : Prop where
  files : a.files.Nodup
  functions : a.functions.Nodup
  hasFacts : a.HasFacts
  unset : ∀ name ∈ reserved, a.metadata.get? name = none

/-- Two lists without repeats are an answer. -/
theorem found_of_lists {a : Answer} (metadata : a.metadata = .object []) (files : a.files.Nodup)
    (functions : a.functions.Nodup) : a.Found :=
  ⟨files, functions, ⟨[], metadata⟩, fun _ _ => by rw [metadata]; rfl⟩

namespace Found

variable {a : Answer}

theorem withFact (h : a.Found) {name : String} (free : name ∉ reserved) (value : Json) :
    (a.withFact name value).Found where
  files := h.files
  functions := h.functions
  hasFacts := h.hasFacts.withFact name value
  unset := by
    intro other hr
    have hne : other ≠ name := fun he => free (he ▸ hr)
    rw [get?_withFact_of_ne a hne, h.unset other hr]

theorem withFacts (h : a.Found) {facts : List (String × Json)}
    (free : ∀ fact ∈ facts, fact.1 ∉ reserved) : (a.withFacts facts).Found := by
  unfold Answer.withFacts
  induction facts generalizing a with
  | nil => exact h
  | cons fact rest ih =>
    exact ih (h.withFact (free fact List.mem_cons_self) fact.2) fun f hf =>
      free f (List.mem_cons_of_mem _ hf)

theorem addFiles (h : a.Found) (files : List String) : (a.addFiles files).Found where
  files := nodup_files_addFiles h.files files
  functions := by
    rw [functions_addFiles]
    exact h.functions
  hasFacts := by
    unfold HasFacts
    rw [metadata_addFiles]
    exact h.hasFacts
  unset := by
    rw [metadata_addFiles]
    exact h.unset

theorem error?_eq_none (h : a.Found) : a.error? = none := by
  unfold error?
  rw [h.unset "error" (by decide)]
  rfl

theorem error?_ne (h : a.Found) {reason : String} : a.error? ≠ some reason := by
  rw [h.error?_eq_none]
  exact nofun

end Found

/-- Whether an answer is nothing but the reason of a refusal, perhaps with a confidence. -/
def Refused (a : Answer) : Prop :=
  ∃ intent reason, a = notFound intent reason ∨
    ∃ confidence, a = (notFound intent reason).withFact "confidence" confidence

/-- Whether the ranking among the facts of an answer names these ids, in order. -/
def RanksBy (a : Answer) (ids : List String) : Prop :=
  ∃ entries, a.metadata.get? "ranking" = some (.array entries) ∧
    entries.map (·.get? "id") = ids.map fun id => some (.text id)

end Answer

namespace Query

open Answer

/-! ## Handlers by intent -/

theorem found_dependencies (g : Graph) (file : String) : (dependencies g file).Found := by
  refine Found.withFacts (found_of_lists rfl (nodup_eraseDups _) (nodup_eraseDups _)) ?_
  simp [reserved]

theorem found_usage {g : Graph} {target : String}
    (h : ((g.functionIds target).isEmpty && (g.resolveFile target).isNone) = false) :
    (usage g target).Found := by
  unfold usage
  dsimp only
  rw [if_neg (Bool.eq_false_iff.1 h)]
  refine Found.withFacts (Found.withFacts (Found.addFiles (found_of_lists rfl
    List.nodup_nil (nodup_eraseDups _)) _) ?_) ?_
  · intro fact hf
    cases hfile : g.resolveFile target with
    | none =>
      rw [hfile] at hf
      cases hf
    | some file =>
      rw [hfile] at hf
      rw [List.mem_singleton.1 hf]
      show "file" ∉ reserved
      decide
  · simp [reserved]

theorem usage_cases (g : Graph) (target : String) :
    (usage g target).Found ∨ ∃ reason, usage g target = notFound Intent.usage.name reason := by
  cases h : (g.functionIds target).isEmpty && (g.resolveFile target).isNone with
  | true => exact Or.inr ⟨_, if_pos h⟩
  | false => exact Or.inl (found_usage h)

theorem found_history (fs : Findings) (file : String) : (history fs file).Found := by
  have only : ({ intent := Intent.history.name, files := [file] : Answer }).Found :=
    found_of_lists rfl (by simp) List.nodup_nil
  refine Found.withFacts (only.withFact (by decide) _) ?_
  cases fs.historyFor file <;> simp [reserved]

theorem found_risks (fs : Findings) (file : String) : (risks fs file).Found := by
  have only : ({ intent := Intent.risks.name, files := [file] : Answer }).Found :=
    found_of_lists rfl (by simp) List.nodup_nil
  refine Found.withFacts (only.withFact (by decide) _) ?_
  cases fs.risksFor file <;> simp [reserved]

theorem found_explainFunction (g : Graph) (id : String) : (explainFunction g id).Found := by
  refine Found.withFacts (found_of_lists rfl ?_ (by simp)) (by simp [reserved])
  cases g.definingFile id <;> simp

theorem found_explainFile (g : Graph) (file : String) : (explainFile g file).Found := by
  refine Found.withFacts (Found.addFiles (found_of_lists rfl List.nodup_nil (nodup_eraseDups _)) _) ?_
  simp [reserved]

theorem explain_cases (g : Graph) (target : String) :
    (explain g target).Found ∨ ∃ reason, explain g target = notFound Intent.explain.name reason := by
  unfold explain
  split
  · exact Or.inl (found_explainFunction g _)
  · split
    · exact Or.inl (found_explainFile g _)
    · exact Or.inr ⟨_, rfl⟩

theorem onFile_cases (intent : Intent) (g : Graph) (target : String) {about : String → Answer}
    (h : ∀ file, (about file).Found) :
    (onFile intent g target about).Found ∨
      ∃ reason, onFile intent g target about = notFound intent.name reason := by
  unfold onFile
  split
  · exact Or.inl (h _)
  · exact Or.inr ⟨_, rfl⟩

theorem answerRequest_cases (context : Context) (r : Request) :
    (answerRequest context r).Found ∨ (answerRequest context r).Refused := by
  have known : ∀ {a : Answer} {intent : String}, (a.Found ∨ ∃ reason, a = notFound intent reason) →
      (a.withFact "confidence" (.float r.confidence.value)).Found ∨
        (a.withFact "confidence" (.float r.confidence.value)).Refused := by
    rintro a intent (found | ⟨reason, rfl⟩)
    · exact Or.inl (found.withFact (by decide) _)
    · exact Or.inr ⟨intent, reason, Or.inr ⟨_, rfl⟩⟩
  unfold answerRequest
  cases r.intent with
  | dependencies => exact known (onFile_cases _ _ _ (found_dependencies _))
  | usage => exact known (usage_cases _ _)
  | history => exact known (onFile_cases _ _ _ (found_history _))
  | risks => exact known (onFile_cases _ _ _ (found_risks _))
  | explain => exact known (explain_cases _ _)

/-! ## Handlers by plan -/

theorem reach_of_unknown {g : Graph} {name : String} (unknown : g.functionIds name = []) :
    reach g name = noFunction .reach name := by
  rw [reach, unknown]

theorem found_reach {g : Graph} {name : String} (known : g.functionIds name ≠ []) :
    (reach g name).Found := by
  unfold reach
  split
  · exact (known ‹_›).elim
  · refine Found.withFacts (Found.withFacts (found_of_lists rfl (g.nodup_files_reach _)
      (g.nodup_functions_reach _)) (by simp [reserved])) ?_
    split <;> simp [reserved]

theorem reach_cases (g : Graph) (name : String) : (reach g name).Found ∨ (reach g name).Refused := by
  by_cases unknown : g.functionIds name = []
  · exact Or.inr ⟨_, _, Or.inl (reach_of_unknown unknown)⟩
  · exact Or.inl (found_reach unknown)

theorem find_of_unknown {g : Graph} {name : String} (unknown : g.functionsNamed name = []) :
    find g name = noFunction .find name := by
  rw [find, unknown]
  rfl

theorem found_find {g : Graph} {name : String} (known : g.functionsNamed name ≠ []) :
    (find g name).Found := by
  unfold find
  dsimp only
  rw [if_neg (fun none => known (List.isEmpty_iff.1 none))]
  exact Found.withFact (Found.addFiles (found_of_lists rfl List.nodup_nil
    (g.nodup_ids_functionsNamed name)) _) (by decide) _

theorem find_cases (g : Graph) (name : String) : (find g name).Found ∨ (find g name).Refused := by
  by_cases unknown : g.functionsNamed name = []
  · exact Or.inr ⟨_, _, Or.inl (find_of_unknown unknown)⟩
  · exact Or.inl (found_find unknown)

theorem found_central (limit : Nat) (g : Graph) : (central limit g).Found :=
  Found.withFact (Found.addFiles (found_of_lists rfl List.nodup_nil g.nodup_ids_centralities) _)
    (by decide) _

theorem found_important (limit : Nat) (weights : Weights) (g : Graph) :
    (important limit weights g).Found :=
  Found.withFact (Found.addFiles (found_of_lists rfl List.nodup_nil List.nodup_nil) _) (by decide) _

theorem found_general (g : Graph) : (general g).Found :=
  Found.withFacts (found_of_lists rfl List.nodup_nil List.nodup_nil) (by simp [reserved])

/-! ## Rankings -/

/-- A ranking that is kept as a fact has the ids of its entries. -/
theorem ranksBy_withFact {a : Answer} (h : a.HasFacts) {α : Type} (entries : List α)
    (document : α → Json) (id : α → String)
    (hid : ∀ entry, (document entry).sorted.get? "id" = some (.text (id entry))) :
    (a.withFact "ranking" (.array (entries.map document))).RanksBy (entries.map id) := by
  refine ⟨(entries.map document).map Json.sorted, ?_, ?_⟩
  · rw [h.get?_withFact, Json.sorted, Json.sortedItems_eq_map]
  · rw [List.map_map, List.map_map, List.map_map]
    exact List.map_congr_left fun entry _ => hid entry

theorem get?_id_centrality (c : Centrality) :
    c.document.sorted.get? "id" = some (.text c.id) := by
  unfold Centrality.document
  rw [Json.get?_sorted_object]
  simp [List.lookup, Json.sorted]

theorem get?_id_importance (i : Importance) :
    i.document.sorted.get? "id" = some (.text i.id) := by
  unfold Importance.document
  rw [Json.get?_sorted_object]
  simp [List.lookup, Json.sorted]

theorem ranksBy_central (limit : Nat) (g : Graph) :
    (central limit g).RanksBy ((central limit g).functions.take limit) := by
  have listed : (central limit g).functions = g.centralities.map Centrality.id := by
    unfold central
    exact functions_addFiles _ _
  have facts : ((({ intent := Operation.central.name
                    functions := g.centralities.map Centrality.id : Answer }).addFiles
      ((g.centralities.map Centrality.file).filter (!·.isEmpty)))).HasFacts := by
    refine ⟨[], ?_⟩
    rw [metadata_addFiles]
  rw [listed, ← List.map_take]
  exact ranksBy_withFact facts _ _ _ get?_id_centrality

theorem ranksBy_important (limit : Nat) (weights : Weights) (g : Graph) :
    (important limit weights g).RanksBy ((important limit weights g).files.take limit) := by
  have listed : (important limit weights g).files =
      (g.importances weights).map Importance.id := by
    unfold important
    exact files_addFiles_of_nodup (g.nodup_ids_importances weights)
  have facts : (({ intent := Operation.important.name : Answer }).addFiles
      ((g.importances weights).map Importance.id)).HasFacts := by
    refine ⟨[], ?_⟩
    rw [metadata_addFiles]
  rw [listed, ← List.map_take]
  exact ranksBy_withFact facts _ _ _ get?_id_importance

/-! ## Intents -/

theorem intent_onFile (intent : Intent) (g : Graph) (target : String) {about : String → Answer}
    (h : ∀ file, (about file).intent = intent.name) :
    (onFile intent g target about).intent = intent.name := by
  unfold onFile
  split
  · exact h _
  · rfl

theorem intent_usage (g : Graph) (target : String) : (usage g target).intent = Intent.usage.name := by
  unfold usage
  dsimp only
  split
  · rfl
  · rw [intent_withFacts, intent_withFacts, intent_addFiles]

theorem intent_explain (g : Graph) (target : String) :
    (explain g target).intent = Intent.explain.name := by
  unfold explain
  split
  · exact intent_withFacts _ _
  · split
    · unfold explainFile
      rw [intent_withFacts, intent_addFiles]
    · rfl

theorem intent_answerRequest (context : Context) (r : Request) :
    (answerRequest context r).intent = r.intent.name := by
  unfold answerRequest
  cases r.intent with
  | dependencies => exact intent_onFile _ _ _ fun _ => intent_withFacts _ _
  | usage => exact intent_usage _ _
  | history => exact intent_onFile _ _ _ fun _ => intent_withFacts _ _
  | risks => exact intent_onFile _ _ _ fun _ => intent_withFacts _ _
  | explain => exact intent_explain _ _

theorem intent_reach (g : Graph) (name : String) : (reach g name).intent = Operation.reach.name := by
  unfold reach
  split
  · rfl
  · rw [intent_withFacts, intent_withFacts]

theorem intent_find (g : Graph) (name : String) : (find g name).intent = Operation.find.name := by
  unfold find
  dsimp only
  split
  · rfl
  · exact intent_addFiles _ _

end Query

namespace Responder

open Answer

variable (r : Responder)

theorem intent_answerPlan (g : Graph) (plan : Plan) :
    (r.answerPlan g plan).intent = plan.operation.name := by
  unfold answerPlan
  obtain ⟨operation, function⟩ := plan
  cases operation with
  | reach => cases function with
    | some name => exact Query.intent_reach g name
    | none => rfl
  | find => cases function with
    | some name => exact Query.intent_find g name
    | none => rfl
  | central => exact intent_addFiles _ _
  | important => exact intent_addFiles _ _
  | unknown => exact intent_withFacts _ _

theorem answerPlan_cases (g : Graph) (plan : Plan) :
    (r.answerPlan g plan).Found ∨ (r.answerPlan g plan).Refused := by
  unfold answerPlan
  obtain ⟨operation, function⟩ := plan
  cases operation with
  | reach => cases function with
    | some name => exact Query.reach_cases g name
    | none => exact Or.inr ⟨_, _, Or.inl rfl⟩
  | find => cases function with
    | some name => exact Query.find_cases g name
    | none => exact Or.inr ⟨_, _, Or.inl rfl⟩
  | central => exact Or.inl (Query.found_central _ _)
  | important => exact Or.inl (Query.found_important _ _ _)
  | unknown => exact Or.inl (Query.found_general _)

/-! ## The answers of handlers -/

/-- Every handler finds something or refuses. -/
theorem facts_cases (context : Context) (question : String) :
    (r.facts context question).Found ∨ (r.facts context question).Refused := by
  unfold facts
  split
  · exact Query.answerRequest_cases _ _
  · exact r.answerPlan_cases _ _

/-- An answer with the name of an operation comes from a plan with that operation. -/
theorem facts_of_intent {context : Context} {question : String} {operation : Operation}
    (h : (r.facts context question).intent = operation.name) :
    ∃ plan : Plan, plan.operation = operation ∧
      r.facts context question = r.answerPlan context.graph plan := by
  unfold facts at h ⊢
  split at h
  · rename_i request _
    rw [Query.intent_answerRequest] at h
    cases hi : request.intent <;> rw [hi] at h <;> cases operation <;> exact absurd h (by decide)
  · rw [intent_answerPlan] at h
    refine ⟨_, ?_, rfl⟩
    cases ho : (r.plan question).operation <;> rw [ho] at h <;> cases operation <;>
      first
      | rfl
      | exact absurd h (by decide)

theorem ranksBy_functions_facts {context : Context} {question : String}
    (h : (r.facts context question).intent = Operation.central.name) :
    (r.facts context question).RanksBy ((r.facts context question).functions.take r.limit) := by
  obtain ⟨⟨_, _⟩, rfl, hfacts⟩ := r.facts_of_intent h
  rw [hfacts]
  exact Query.ranksBy_central r.limit context.graph

theorem ranksBy_files_facts {context : Context} {question : String}
    (h : (r.facts context question).intent = Operation.important.name) :
    (r.facts context question).RanksBy ((r.facts context question).files.take r.limit) := by
  obtain ⟨⟨_, _⟩, rfl, hfacts⟩ := r.facts_of_intent h
  rw [hfacts]
  exact Query.ranksBy_important r.limit r.weights context.graph

end Responder

/-! ## The cut -/

namespace Answer

/-- What an answer is that was cut to a limit after its handler gave it. -/
structure WellFormed (limit : Nat) (given a : Answer) : Prop where
  intent : a.intent = given.intent
  /-- The files are the first of the handler's. -/
  files : a.files = given.files.take limit
  /-- The functions are the first of the handler's. -/
  functions : a.functions = given.functions.take limit
  nodup_files : a.files.Nodup
  nodup_functions : a.functions.Nodup
  length_files : a.files.length ≤ limit
  length_functions : a.functions.length ≤ limit
  /-- How many files there were is told exactly if some were cut. -/
  totalFiles : a.metadata.get? "totalFiles" =
    if a.files.length < given.files.length then some (.nat given.files.length) else none
  /-- How many functions there were is told exactly if some were cut. -/
  totalFunctions : a.metadata.get? "totalFunctions" =
    if a.functions.length < given.functions.length then some (.nat given.functions.length) else none
  /-- All other facts are as the handler set them. -/
  others : ∀ name, name ≠ "totalFiles" → name ≠ "totalFunctions" →
    a.metadata.get? name = given.metadata.get? name
  /-- An error comes alone, but for a confidence. -/
  error : ∀ reason, a.error? = some reason → a.files = [] ∧ a.functions = [] ∧
    (a.metadata = .object [("error", .text reason)] ∨
      ∃ confidence, a.metadata = .object [("confidence", confidence), ("error", .text reason)])
  /-- A ranking of functions ranks what is listed. -/
  central : a.intent = Operation.central.name → a.RanksBy a.functions
  /-- A ranking of files ranks what is listed. -/
  important : a.intent = Operation.important.name → a.RanksBy a.files

variable {a : Answer}

/-- What is known of a refusal. -/
theorem Refused.cases (h : a.Refused) :
    ∃ reason, a.error? = some reason ∧ a.files = [] ∧ a.functions = [] ∧
      (a.metadata = .object [("error", .text reason)] ∨
        ∃ confidence, a.metadata = .object [("confidence", confidence), ("error", .text reason)]) := by
  obtain ⟨intent, reason, rfl | ⟨confidence, rfl⟩⟩ := h
  · exact ⟨reason, rfl, rfl, rfl, Or.inl rfl⟩
  · have placed : ((notFound intent reason).withFact "confidence" confidence).metadata =
        .object [("confidence", confidence.sorted), ("error", .text reason)] := by
      show Json.object (Json.insertMember "confidence" confidence.sorted [("error", .text reason)]) = _
      rw [Json.insertMember, if_neg (by decide), if_pos (by decide)]
    refine ⟨reason, ?_, rfl, rfl, Or.inr ⟨_, placed⟩⟩
    unfold error?
    rw [placed]
    rfl

/-- Whether an answer lists nothing twice and tells no totals. -/
structure Uncut (a : Answer) : Prop where
  files : a.files.Nodup
  functions : a.functions.Nodup
  hasFacts : a.HasFacts
  totalFiles : a.metadata.get? "totalFiles" = none
  totalFunctions : a.metadata.get? "totalFunctions" = none

theorem Found.uncut (h : a.Found) : a.Uncut :=
  ⟨h.files, h.functions, h.hasFacts, h.unset _ (by decide), h.unset _ (by decide)⟩

theorem Refused.uncut (h : a.Refused) : a.Uncut := by
  obtain ⟨reason, _, files, functions, metadata⟩ := h.cases
  refine ⟨files ▸ List.nodup_nil, functions ▸ List.nodup_nil, ?_, ?_, ?_⟩
  · rcases metadata with hm | ⟨confidence, hm⟩
    · exact ⟨_, hm⟩
    · exact ⟨_, hm⟩
  · rcases metadata with hm | ⟨confidence, hm⟩
    · rw [hm]
      rfl
    · rw [hm]
      rfl
  · rcases metadata with hm | ⟨confidence, hm⟩
    · rw [hm]
      rfl
    · rw [hm]
      rfl

/-- An error comes alone, whatever the limit. -/
theorem error_alone (h : a.Found ∨ a.Refused) {limit : Nat} {reason : String}
    (he : (a.cut limit).error? = some reason) :
    (a.cut limit).files = [] ∧ (a.cut limit).functions = [] ∧
      ((a.cut limit).metadata = .object [("error", .text reason)] ∨
        ∃ confidence, (a.cut limit).metadata =
          .object [("confidence", confidence), ("error", .text reason)]) := by
  rw [error?_cut] at he
  rcases h with found | refused
  · exact (found.error?_ne he).elim
  · obtain ⟨told, ht, files, functions, metadata⟩ := refused.cases
    obtain rfl : told = reason := Option.some.inj (ht.symm.trans he)
    -- there is nothing to cut
    have whole : a.cut limit = a := by
      have first : a.cutFiles limit = a := if_neg (by rw [files]; exact Nat.not_lt_zero limit)
      unfold cut
      rw [first]
      exact if_neg (by rw [functions]; exact Nat.not_lt_zero limit)
    rw [whole]
    exact ⟨files, functions, metadata⟩

theorem RanksBy.cut {ids : List String} (h : a.RanksBy ids) (limit : Nat) :
    (a.cut limit).RanksBy ids := by
  obtain ⟨entries, hr, hids⟩ := h
  refine ⟨entries, ?_, hids⟩
  rw [get?_cut_of_ne limit (by decide) (by decide)]
  exact hr

/-- A list is cut to a limit exactly if it gets shorter. -/
theorem length_take_lt_iff {α : Type} (items : List α) (limit : Nat) :
    (items.take limit).length < items.length ↔ limit < items.length := by
  rw [List.length_take]
  omega

/-- What a handler gave is well formed once its lists are cut. -/
theorem wellFormed_cut (limit : Nat) (known : a.Found ∨ a.Refused)
    (central : a.intent = Operation.central.name → a.RanksBy (a.functions.take limit))
    (important : a.intent = Operation.important.name → a.RanksBy (a.files.take limit)) :
    WellFormed limit a (a.cut limit) := by
  have uncut : a.Uncut := known.elim Found.uncut Refused.uncut
  refine
    { intent := intent_cut limit
      files := files_cut limit
      functions := functions_cut limit
      others := fun name files functions => get?_cut_of_ne limit files functions
      error := fun reason => error_alone known
      nodup_files := ?_
      nodup_functions := ?_
      length_files := ?_
      length_functions := ?_
      totalFiles := ?_
      totalFunctions := ?_
      central := ?_
      important := ?_ }
  · rw [files_cut]
    exact (List.take_sublist limit a.files).nodup uncut.files
  · rw [functions_cut]
    exact (List.take_sublist limit a.functions).nodup uncut.functions
  · rw [files_cut]
    exact List.length_take_le limit a.files
  · rw [functions_cut]
    exact List.length_take_le limit a.functions
  · rw [files_cut]
    simp only [length_take_lt_iff]
    exact uncut.hasFacts.get?_totalFiles_cut limit uncut.totalFiles
  · rw [functions_cut]
    simp only [length_take_lt_iff]
    exact uncut.hasFacts.get?_totalFunctions_cut limit uncut.totalFunctions
  · intro h
    rw [intent_cut] at h
    rw [functions_cut]
    exact (central h).cut limit
  · intro h
    rw [intent_cut] at h
    rw [files_cut]
    exact (important h).cut limit

/-- The preview of an answer is no matter of its form. -/
theorem WellFormed.withPreview {limit : Nat} {given : Answer} (h : WellFormed limit given a)
    (preview : Option String) : WellFormed limit given { a with preview } :=
  { h with }

end Answer

theorem Responder.wellFormed_answer (r : Responder) (context : Context) (question : String) :
    Answer.WellFormed r.limit (r.facts context question) (r.answer context question) := by
  have cut : Answer.WellFormed r.limit (r.facts context question)
      ((r.facts context question).cut r.limit) :=
    Answer.wellFormed_cut r.limit (r.facts_cases context question)
      r.ranksBy_functions_facts r.ranksBy_files_facts
  exact cut.withPreview _

/-- **Every answer is well formed.** Whatever the configuration, the planner, the explainer, the
context and the question, an answer is what its handler gave, cut to the limit. -/
theorem Config.answer_wellFormed (c : Config) (plan : String → Plan) (explain : Explainer)
    (context : Context) (question : String) :
    Answer.WellFormed (max 1 c.maxResults.toNat)
      ({ c.responder with plan, explain : Responder }.facts context question)
      ({ c.responder with plan, explain : Responder }.answer context question) :=
  Responder.wellFormed_answer { c.responder with plan, explain } context question

end CodeAtlas
