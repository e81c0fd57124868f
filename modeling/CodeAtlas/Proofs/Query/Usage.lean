import CodeAtlas.Proofs.Query.WellFormed
import Std.Data.ExtTreeSet

/-!
# The usages of a target

A target may name functions, a file, or both. The callers of the functions are gathered in one pass:
function by function and call by call, a caller where it is first seen, and its file with it. The
files that import the file come last. No caller is lost to those that were seen before, so the
lists are those of all callers and of all their files with the repetitions dropped.

1. `functionIds_eq`, `targets_eq`, `sources_eq`: the look-ups of a usage, read off the two lists of
   the graph.
2. `Gathering.Holds.note`, `Gathering.Holds.run`: what one caller and what a run of callers adds.
3. `usage_eq_inTurn`: the answer is gathered in one pass.
4. `listsUsages_answerRequest`: what the answer lists, and when it is an error.
-/

namespace CodeAtlas

namespace Graph

variable (g : Graph)

/-! ## Look-ups -/

/-- The functions that a target means, read off the nodes: the one with that id, or else all with
that name. -/
def functionsMeant (target : String) : List String :=
  if ∃ node ∈ g.nodes.toList, node.kind = .function ∧ node.id = target then [target]
  else (g.nodes.toList.filter fun n => n.kind == .function && n.label == target).map Node.id

theorem functionIds_eq (target : String) : g.functionIds target = g.functionsMeant target := by
  have by_id : g.hasKind .function target = true ↔
      ∃ node ∈ g.nodes.toList, node.kind = .function ∧ node.id = target := by
    rw [hasKind_iff, nodesOf_eq]
    simp only [List.mem_filter, beq_iff_eq, and_assoc]
  have by_name : ∀ node : Node, (node.function?.any (·.name == target) && node.kind == .function) =
      (node.kind == .function && node.label == target) := by
    rintro ⟨id, place | place | info⟩
    · rfl
    · rfl
    · exact Bool.and_comm _ _
  unfold functionIds functionsMeant functionsNamed
  rw [nodesOf_eq, List.filter_filter]
  simp only [by_id, by_name]

/-- A target means no function exactly if no function has it for its id or name. -/
theorem functionsMeant_eq_nil_iff (target : String) :
    g.functionsMeant target = [] ↔
      ∀ node ∈ g.nodes.toList, node.kind = .function → node.id ≠ target ∧ node.label ≠ target := by
  unfold functionsMeant
  split
  · rename_i known
    obtain ⟨node, mem, kind, id⟩ := known
    refine iff_of_false (List.cons_ne_nil _ _) fun none => ?_
    exact (none node mem kind).1 id
  · rename_i unknown
    rw [List.map_eq_nil_iff, List.filter_eq_nil_iff]
    refine forall₂_congr fun node mem => ?_
    rw [Bool.and_eq_true, beq_iff_eq, beq_iff_eq, not_and]
    refine forall_congr' fun kind => ?_
    exact (and_iff_right fun id => unknown ⟨node, mem, kind, id⟩).symm

theorem targets_eq (kind : EdgeKind) (id : String) :
    g.targets kind id = ((g.edgesOf kind).filter (·.source == id)).map Edge.target := by
  unfold targets leavingOf edgesOf
  rw [leaving_eq, List.filter_comm]

theorem sources_eq (kind : EdgeKind) (id : String) :
    g.sources kind id = ((g.edgesOf kind).filter (·.target == id)).map Edge.source := by
  unfold sources enteringOf edgesOf
  rw [entering_eq, List.filter_comm]

end Graph

namespace Query

open Answer

/-! ## One pass -/

/-- An answer while callers are gathered, with those that were seen. -/
structure Gathering where
  seen : Std.ExtTreeSet String
  answer : Answer

namespace Gathering

variable (g : Graph)

/-- One more caller: unless it was seen before it is listed, and the file that defines it is
added. -/
def note (s : Gathering) (caller : String) : Gathering :=
  if s.seen.contains caller then s
  else
    let listed : Answer := { s.answer with functions := s.answer.functions ++ [caller] }
    { seen := s.seen.insert caller
      answer :=
        match g.definingFile caller with
        | some file => listed.addFile file
        | none => listed }

/-- The callers of functions, function by function. -/
def notes (s : Gathering) (ids : List String) : Gathering :=
  ids.foldl (fun s id => (g.callers id).foldl (note g) s) s

/-- The answer that lists callers and their files. -/
def listing (callers : List String) : Answer :=
  { intent := Intent.usage.name, functions := callers : Answer }.addFiles
    (callers.filterMap g.definingFile)

/-- What has been gathered once callers are done: each is seen, and listed where it occurs first. -/
structure Holds (s : Gathering) (done : List String) : Prop where
  seen : ∀ id, id ∈ s.seen ↔ id ∈ done
  answer : s.answer = listing g done.eraseDups

/-- Files are added alike whatever functions are listed. -/
theorem addFiles_functions (a : Answer) (files functions : List String) :
    { a.addFiles files with functions := functions } =
      { a with functions := functions }.addFiles files := by
  unfold Answer.addFiles
  induction files generalizing a with
  | nil => rfl
  | cons file rest ih =>
    have step : { a.addFile file with functions := functions } =
        { a with functions := functions }.addFile file := by
      unfold Answer.addFile
      split <;> rfl
    rw [List.foldl_cons, List.foldl_cons, ih, step]

/-- One more caller brings the file that defines it, if there is one. -/
theorem listing_concat (callers : List String) (caller : String) :
    listing g (callers ++ [caller]) =
      { listing g callers with functions := callers ++ [caller] }.addFiles
        (g.definingFile caller).toList := by
  have file : [caller].filterMap g.definingFile = (g.definingFile caller).toList := by
    cases h : g.definingFile caller with
    | none => exact List.filterMap_cons_none h
    | some file => exact List.filterMap_cons_some h
  unfold listing
  rw [addFiles_functions, List.filterMap_append, file, Answer.addFiles_append]

variable {g} {s : Gathering} {done : List String}

theorem Holds.note (h : Holds g s done) (caller : String) :
    Holds g (s.note g caller) (done ++ [caller]) := by
  unfold Gathering.note
  by_cases again : caller ∈ done
  · have known : s.seen.contains caller = true := (h.seen caller).2 again
    rw [if_pos known]
    refine ⟨fun id => ?_, ?_⟩
    · rw [h.seen, List.mem_append, List.mem_singleton]
      exact (or_iff_left_of_imp fun same => same ▸ again).symm
    · rw [h.answer, eraseDups_concat, if_pos again]
  · have new : ¬ s.seen.contains caller = true := fun known => again ((h.seen caller).1 known)
    rw [if_neg new]
    refine ⟨fun id => ?_, ?_⟩
    · rw [Std.ExtTreeSet.mem_insert, Std.compare_eq_iff_eq, h.seen, List.mem_append,
        List.mem_singleton, or_comm, eq_comm]
    · rw [eraseDups_concat, if_neg again, listing_concat, h.answer]
      have listed : (listing g done.eraseDups).functions = done.eraseDups :=
        Answer.functions_addFiles _ _
      rw [listed]
      cases g.definingFile caller <;> rfl

theorem Holds.run (h : Holds g s done) (callers : List String) :
    Holds g (callers.foldl (Gathering.note g) s) (done ++ callers) := by
  induction callers generalizing s done with
  | nil =>
    rw [List.append_nil]
    exact h
  | cons caller rest ih =>
    have last := ih (h.note caller)
    rwa [List.append_assoc, List.singleton_append] at last

/-- The functions that call some of the given ones are all gathered. -/
theorem answer_notes (g : Graph) (ids : List String) :
    (notes g ⟨∅, { intent := Intent.usage.name }⟩ ids).answer = listing g (callersOfAll g ids) := by
  have start : Holds g ⟨∅, { intent := Intent.usage.name }⟩ [] :=
    ⟨fun id => iff_of_false Std.ExtTreeSet.not_mem_empty List.not_mem_nil, rfl⟩
  have last := start.run (ids.flatMap g.callers)
  rw [List.foldl_flatMap] at last
  exact last.answer

end Gathering

/-- The answer about the usages of a target, gathered in one pass. -/
def usageInTurn (g : Graph) (target : String) : Answer :=
  let found := g.functionIds target
  let file := g.resolveFile target
  if found.isEmpty && file.isNone then noTarget .usage target
  else
    let called := (Gathering.notes g ⟨∅, { intent := Intent.usage.name }⟩ found).answer
    let used :=
      match file with
      | some file => ((g.importersOf file).foldl Answer.addFile called).withFact "file" (.text file)
      | none => called
    (used.withFact "matches" (.texts found)).withFact "callerCount" (.nat used.functions.length)

theorem usage_eq_inTurn (g : Graph) (target : String) : usage g target = usageInTurn g target := by
  unfold usage usageInTurn
  dsimp only
  rw [Gathering.answer_notes, Answer.addFiles_append]
  cases g.resolveFile target with
  | none =>
    refine if_congr Iff.rfl rfl ?_
    show _ = Answer.withFact _ _ (.nat (Gathering.listing g _).functions.length)
    unfold Gathering.listing
    rw [Answer.functions_addFiles]
    rfl
  | some file =>
    refine if_congr Iff.rfl rfl ?_
    show _ = Answer.withFact _ _ (.nat ((Gathering.listing g _).addFiles _).functions.length)
    unfold Gathering.listing
    rw [Answer.functions_addFiles, Answer.functions_addFiles]
    rfl

/-! ## What is listed -/

theorem functions_usage (g : Graph) (target : String) :
    (usage g target).functions = callersOfAll g (g.functionIds target) := by
  unfold usage
  dsimp only
  split
  · rename_i unknown
    have none : g.functionIds target = [] := List.isEmpty_iff.1 (Bool.and_eq_true_iff.1 unknown).1
    rw [none]
    rfl
  · rw [functions_withFacts, functions_withFacts, functions_addFiles]

theorem files_usage (g : Graph) (target : String) :
    (usage g target).files = ((usage g target).functions.filterMap g.definingFile ++
      ((g.resolveFile target).map g.importersOf).getD []).eraseDups := by
  rw [functions_usage]
  unfold usage
  dsimp only
  split
  · rename_i unknown
    obtain ⟨found, file⟩ := Bool.and_eq_true_iff.1 unknown
    rw [List.isEmpty_iff.1 found, Option.isNone_iff_eq_none.1 file]
    rfl
  · rw [files_withFacts, files_withFacts, files_addFiles List.nodup_nil]
    rfl

theorem error?_usage (g : Graph) (target : String) :
    (usage g target).error? =
      if g.functionIds target = [] ∧ g.resolveFile target = none then
        some ("no function or file named " ++ target)
      else none := by
  cases h : (g.functionIds target).isEmpty && (g.resolveFile target).isNone with
  | true =>
    obtain ⟨found, file⟩ := Bool.and_eq_true_iff.1 h
    have refused : usage g target = noTarget .usage target := if_pos h
    rw [refused, if_pos ⟨List.isEmpty_iff.1 found, Option.isNone_iff_eq_none.1 file⟩]
    rfl
  | false =>
    rw [(found_usage h).error?_eq_none, if_neg]
    rintro ⟨found, file⟩
    rw [found, file] at h
    cases h

/-- Unless it is an error, the answer names the functions that the target means and counts their
callers. -/
theorem get?_usage {g : Graph} {target : String} (h : (usage g target).error? = none) :
    (usage g target).metadata.get? "matches" = some (.texts (g.functionIds target)) ∧
    (usage g target).metadata.get? "callerCount" =
      some (.nat (usage g target).functions.length) := by
  have found : ¬ ((g.functionIds target).isEmpty && (g.resolveFile target).isNone) = true := by
    rw [error?_usage] at h
    rw [Bool.and_eq_true, List.isEmpty_iff, Option.isNone_iff_eq_none]
    intro unknown
    rw [if_pos unknown] at h
    cases h
  have numbered : ∃ given : Answer, given.HasFacts ∧ usage g target = given.withFacts [
      ("matches", .texts (g.functionIds target)),
      ("callerCount", .nat (callersOfAll g (g.functionIds target)).length)] := by
    refine ⟨_, HasFacts.withFacts ?_ _, if_neg found⟩
    exact ⟨[], metadata_addFiles _ _⟩
  rw [functions_usage]
  obtain ⟨given, hasFacts, numbered⟩ := numbered
  rw [numbered, hasFacts.get?_withFacts, hasFacts.get?_withFacts]
  refine ⟨?_, rfl⟩
  show some (Json.texts _).sorted = _
  rw [Json.sorted_texts]

end Query

namespace Graph

variable (g : Graph)

/-- The callers of the functions that a target means, call by call; some may repeat. -/
def callersMeant (target : String) : List String :=
  (g.functionsMeant target).flatMap fun f =>
    ((g.edgesOf .calls).filter (·.source == f)).map Edge.target

/-- The files that import the file that a target means, import by import; some may repeat. -/
def importersMeant (target : String) : List String :=
  (g.resolveFile target).toList.flatMap fun file =>
    ((g.edgesOf .imports).filter (·.target == file)).map Edge.source

theorem callersOfAll_eq (target : String) :
    Query.callersOfAll g (g.functionIds target) = (g.callersMeant target).eraseDups := by
  unfold Query.callersOfAll callersMeant callers
  simp only [functionIds_eq, targets_eq]
  exact eraseDups_flatMap_eraseDups _ _

/-- The files that import a file count once anyway. -/
theorem eraseDups_importers (files : List String) (target : String) :
    (files ++ ((g.resolveFile target).map g.importersOf).getD []).eraseDups =
      (files ++ g.importersMeant target).eraseDups := by
  unfold importersMeant
  cases g.resolveFile target with
  | none => rfl
  | some file =>
    show (files ++ (g.sources .imports file).eraseDups).eraseDups = _
    rw [eraseDups_append_eraseDups, sources_eq, Option.toList_some, List.flatMap_singleton]

end Graph

namespace Answer

/-- What the answer about the usages of a target is before its lists are cut. -/
structure ListsUsages (g : Graph) (target : String) (a : Answer) : Prop where
  /-- The functions are those that call one of the functions that the target means. -/
  mem_functions : ∀ caller, caller ∈ a.functions ↔
    ∃ called ∈ g.functionsMeant target, ⟨called, caller, .calls⟩ ∈ g.edges.toList
  nodup_functions : a.functions.Nodup
  /-- They stand where they are first seen, function by function and call by call. -/
  functions : a.functions = (g.callersMeant target).eraseDups
  /-- The files define a caller or import the file that the target means. -/
  mem_files : ∀ file, file ∈ a.files ↔
    (∃ caller ∈ a.functions, g.definingFile caller = some file) ∨
      ∃ imported, g.resolveFile target = some imported ∧ ⟨file, imported, .imports⟩ ∈ g.edges.toList
  nodup_files : a.files.Nodup
  /-- The files of the callers stand before those that import. -/
  files : a.files =
    (a.functions.filterMap g.definingFile ++ g.importersMeant target).eraseDups
  /-- The answer is an error exactly if no function has the id or name and no file is meant. -/
  error : ∀ reason, a.error? = some reason ↔
    reason = "no function or file named " ++ target ∧
      (∀ node ∈ g.nodes.toList, node.kind = .function → node.id ≠ target ∧ node.label ≠ target) ∧
      g.resolveFile target = none
  found : a.error? = none → a.metadata.get? "matches" = some (.texts (g.functionsMeant target))
  counted : a.error? = none → a.metadata.get? "callerCount" = some (.nat a.functions.length)

variable {g : Graph} {target : String} {a : Answer}

theorem ListsUsages.withConfidence (h : a.ListsUsages g target) (confidence : Json) :
    (a.withFact "confidence" confidence).ListsUsages g target := by
  have kept : ∀ name, name ≠ "confidence" →
      (a.withFact "confidence" confidence).metadata.get? name = a.metadata.get? name :=
    fun name hne => get?_withFact_of_ne a hne confidence
  have same := a.error?_withFact_of_ne (by decide : "error" ≠ "confidence") confidence
  refine
    { mem_functions := h.mem_functions
      nodup_functions := h.nodup_functions
      functions := h.functions
      mem_files := h.mem_files
      nodup_files := h.nodup_files
      files := h.files
      error := fun reason => same ▸ h.error reason
      found := fun none => ?_
      counted := fun none => ?_ }
  · rw [kept "matches" (by decide)]
    exact h.found (same ▸ none)
  · rw [kept "callerCount" (by decide)]
    exact h.counted (same ▸ none)

theorem listsUsages_usage (g : Graph) (target : String) :
    (Query.usage g target).ListsUsages g target where
  mem_functions := by
    intro caller
    rw [Query.functions_usage, Query.callersOfAll, List.mem_eraseDups, List.mem_flatMap,
      Graph.functionIds_eq]
    unfold Graph.callers
    simp only [List.mem_eraseDups, Graph.mem_targets_iff]
  nodup_functions := by
    rw [Query.functions_usage]
    exact nodup_eraseDups _
  functions := by rw [Query.functions_usage, Graph.callersOfAll_eq]
  mem_files := by
    intro file
    rw [Query.files_usage, List.mem_eraseDups, List.mem_append, List.mem_filterMap]
    refine or_congr_right ?_
    cases g.resolveFile target with
    | none => simp
    | some imported =>
      show file ∈ (g.sources .imports imported).eraseDups ↔ _
      rw [List.mem_eraseDups, Graph.mem_sources_iff]
      simp
  nodup_files := by
    rw [Query.files_usage]
    exact nodup_eraseDups _
  files := by rw [Query.files_usage, Graph.eraseDups_importers]
  error := by
    intro reason
    rw [Query.error?_usage, ← g.functionsMeant_eq_nil_iff, Graph.functionIds_eq]
    split
    · rename_i unknown
      rw [Option.some.injEq, and_iff_left unknown, eq_comm]
    · rename_i known
      exact iff_of_false nofun fun h => known h.2
  found := by
    intro h
    rw [← Graph.functionIds_eq]
    exact (Query.get?_usage h).1
  counted := fun h => (Query.get?_usage h).2

end Answer

/-- **All usages are found.** Whatever the graph and the target, the answer lists each function that
calls one of those the target means, with its file, and each file that imports the one it means; it
is an error exactly if the target means nothing. -/
theorem Query.listsUsages_answerRequest (context : Context) (target : String)
    (confidence : Confidence) :
    (answerRequest context ⟨.usage, target, confidence⟩).ListsUsages context.graph target :=
  (Answer.listsUsages_usage context.graph target).withConfidence _

/-- A caller that two functions of one name have in common is listed once. -/
example :
    let g := (Graph.empty.addNodes [
        .file "a", .function "a::f" ⟨"f", "a", 1, []⟩, .function "b::f" ⟨"f", "b", 1, []⟩,
        .function "a::g" ⟨"g", "a", 2, ["f"]⟩]).addEdges [
        ⟨"b", "a", .imports⟩, ⟨"a::f", "a::g", .calls⟩, ⟨"b::f", "a::g", .calls⟩]
    (Query.usage g "f").functions = ["a::g"] ∧ (Query.usage g "f").files = ["a"] ∧
      (Query.usage g "a").functions = [] ∧ (Query.usage g "./a").files = ["b"] := by
  decide +kernel

end CodeAtlas
