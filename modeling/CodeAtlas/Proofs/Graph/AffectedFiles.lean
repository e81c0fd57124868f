import CodeAtlas.Proofs.Build.Endpoints
import CodeAtlas.Proofs.Graph.Queue

/-!
# The files of a reach

The search asks for the file of each id that it lists. A function names its file. An id that is no
function names none, but an edge may define it, and then the source of the first such edge is listed
as its file. So the files are those that the listed functions name only as long as no edge defines
an id that is reached through a dangling edge. A build has no such edge, so there they are.

1. `namedFile`: the file that a function names, and nothing for an id that is no function.
2. `definingFile_eq_some_iff`, `definingFile_eq_namedFile_iff`: what an edge adds to it.
3. `files_reach`: the files of a reach.
4. `not_named_lent`: an edge may add a file that no function names.
5. `files_reach_graph`: the files of a reach in a build.
-/

namespace CodeAtlas

namespace Graph

variable (g : Graph)

/-- The file that a function names; an id that is no function names none. -/
def namedFile (id : String) : Option String := (g.function? id).map FunctionInfo.file

variable {g} {id : String}

theorem definingFile_of_function {info : FunctionInfo} (h : g.function? id = some info) :
    g.definingFile id = some info.file := by
  rw [definingFile, h]

theorem definingFile_of_no_function (h : g.function? id = none) :
    g.definingFile id = (g.sources .defines id).head? := by
  rw [definingFile, h]

theorem namedFile_of_function {info : FunctionInfo} (h : g.function? id = some info) :
    g.namedFile id = some info.file := by
  rw [namedFile, h]
  rfl

theorem namedFile_of_no_function (h : g.function? id = none) : g.namedFile id = none := by
  rw [namedFile, h]
  rfl

/-- The file of an id is named by its function, or lent by an edge if there is no function. -/
theorem definingFile_eq_some_iff {file : String} : g.definingFile id = some file ↔
    g.namedFile id = some file ∨
      g.function? id = none ∧ (g.sources .defines id).head? = some file := by
  cases h : g.function? id with
  | some info => simp [definingFile_of_function h, namedFile_of_function h]
  | none => simp [definingFile_of_no_function h, namedFile_of_no_function h]

/-- Nothing is lent to an id exactly if it is a function or no edge defines it. -/
theorem definingFile_eq_namedFile_iff : g.definingFile id = g.namedFile id ↔
    (g.function? id = none → ∀ source, ⟨source, id, .defines⟩ ∉ g.edges.toList) := by
  cases h : g.function? id with
  | some info =>
    rw [definingFile_of_function h, namedFile_of_function h]
    simp
  | none =>
    rw [definingFile_of_no_function h, namedFile_of_no_function h, List.head?_eq_none_iff,
      List.eq_nil_iff_forall_not_mem]
    simp only [mem_sources_iff, forall_const]

/-- Where one test gives whatever another one gives, both give the same list only if they agree on
every entry. -/
theorem filterMap_eq_filterMap_iff {α β : Type} {p q : α → Option β} {entries : List α}
    (more : ∀ a b, q a = some b → p a = some b) :
    entries.filterMap p = entries.filterMap q ↔ ∀ a ∈ entries, p a = q a := by
  constructor
  · intro same a ha
    cases hq : q a with
    | some b => exact more a b hq
    | none =>
      cases hp : p a with
      | none => rfl
      | some b =>
        have fewer : entries.countP (fun c => (q c).isSome) < entries.countP fun c => (p c).isSome := by
          refine countP_lt_countP (fun c _ hc => ?_) ha (by simp [hq]) (by simp [hp])
          obtain ⟨b, hb⟩ := Option.isSome_iff_exists.1 hc
          exact Option.isSome_iff_exists.2 ⟨b, more c b hb⟩
        rw [← List.length_filterMap_eq_countP, ← List.length_filterMap_eq_countP, same] at fewer
        exact absurd fewer (Nat.lt_irrefl _)
  · exact List.filterMap_congr

/-! ## The files -/

/-- Whether an edge defines an id of a reach that is no function. -/
def Lends (g : Graph) (r : Reach) : Prop :=
  ∃ id ∈ r.functions, g.function? id = none ∧ ∃ source, ⟨source, id, .defines⟩ ∈ g.edges.toList

theorem filterMap_definingFile_eq_iff (r : Reach) :
    r.functions.filterMap g.definingFile = r.functions.filterMap g.namedFile ↔ ¬ Lends g r := by
  rw [filterMap_eq_filterMap_iff fun _ _ h => definingFile_eq_some_iff.2 (Or.inl h)]
  simp only [definingFile_eq_namedFile_iff, Lends, not_exists, not_and]

/-- What the files of a reach are. -/
structure FilesListed (g : Graph) (r : Reach) : Prop where
  /-- The files of the listed ids, in order and each once. -/
  files_eq : r.files = (r.functions.filterMap g.definingFile).eraseDups
  /-- A function gives the file that it names, and any other id the source of the first edge that
  defines it. -/
  mem_iff : ∀ file, file ∈ r.files ↔ ∃ id ∈ r.functions,
    g.namedFile id = some file ∨
      g.function? id = none ∧ (g.sources .defines id).head? = some file
  /-- Only functions give files exactly if no edge defines a listed id that is no function. -/
  named_iff : r.functions.filterMap g.definingFile = r.functions.filterMap g.namedFile ↔ ¬ Lends g r
  /-- In that case the files are those that the listed functions name, in order and each once. -/
  files_named : ¬ Lends g r → r.files = (r.functions.filterMap g.namedFile).eraseDups

theorem files_of_reach (g : Graph) (x : String) :
    (g.reach x).files = ((g.reach x).functions.filterMap g.definingFile).eraseDups := by
  unfold reach
  split <;> rfl

/-- **Affected files.** The search with a queue lists the files of the ids that it lists, and those
are the files that functions name unless an edge defines a listed id that is no function. -/
theorem files_reach (g : Graph) (x : String) :
    g.reach x = g.swept x ∧ FilesListed g (g.reach x) := by
  refine ⟨g.reach_eq_swept x, g.files_of_reach x, fun file => ?_,
    filterMap_definingFile_eq_iff (g.reach x), fun alone => ?_⟩
  · rw [files_of_reach, List.mem_eraseDups, List.mem_filterMap]
    simp only [definingFile_eq_some_iff]
  · rw [files_of_reach, (filterMap_definingFile_eq_iff (g.reach x)).2 alone]

/-- A function with a caller that has no node and that a file defines. -/
def lent : Graph :=
  (empty.addNode (.function "f" ⟨"f", "app.rs", 1, []⟩)).addEdges
    [⟨"f", "ghost", .calls⟩, ⟨"lib.rs", "ghost", .defines⟩]

/-- The file is listed although no function names it. -/
theorem not_named_lent :
    lent.hasKind .function "f" = true ∧ (lent.reach "f").functions = ["ghost"] ∧
    lent.function? "ghost" = none ∧ (lent.reach "f").files = ["lib.rs"] ∧
    (lent.reach "f").files ≠ ((lent.reach "f").functions.filterMap lent.namedFile).eraseDups := by
  decide +kernel

/-! ## Builds -/

/-- Every listed id is the target of a call. -/
theorem exists_call_of_mem_levels {seen level : List String} {y : String}
    (h : y ∈ (g.levels seen level).flatten) : ∃ callee, ⟨callee, y, .calls⟩ ∈ g.edges.toList := by
  fun_induction g.levels seen level with
  | case1 => exact absurd h List.not_mem_nil
  | case2 seen level _ ih =>
    rcases List.mem_append.1 h with next | further
    · obtain ⟨⟨callee, -, call⟩, -⟩ := mem_nextLevel.1 next
      exact ⟨callee, call⟩
    · exact ih further

theorem exists_call_of_mem_functions {x y : String} (h : y ∈ (g.reach x).functions) :
    ∃ callee, ⟨callee, y, .calls⟩ ∈ g.edges.toList := by
  unfold reach at h
  split at h
  · exact exists_call_of_mem_levels h
  · cases h

end Graph

namespace Findings

/-- Every id that is listed in a build is a function. -/
theorem hasKind_of_mem_functions (fs : Findings) {x y : String}
    (h : y ∈ (fs.graph.reach x).functions) : fs.graph.hasKind .function y = true := by
  obtain ⟨callee, call⟩ := Graph.exists_call_of_mem_functions h
  exact ((Edge.fits_calls rfl).1 (ends_graph (Array.mem_toList_iff.1 call)).2.2).2

/-- In a build no file is lent, and the files are those that the listed functions name. -/
theorem files_reach_graph (fs : Findings) (x : String) :
    (fs.graph.reach x).files =
      ((fs.graph.reach x).functions.filterMap fs.graph.namedFile).eraseDups := by
  rw [Graph.files_of_reach, (Graph.filterMap_definingFile_eq_iff _).2]
  rintro ⟨y, listed, no_function, -⟩
  obtain ⟨node, known, same⟩ := (Option.any_eq_true _ _).1 (fs.hasKind_of_mem_functions listed)
  obtain ⟨info, found⟩ := (Node.kind_eq_function_iff node).1 (eq_of_beq same)
  rw [Graph.function?, known, Option.bind_some, found] at no_function
  cases no_function

end Findings

end CodeAtlas
