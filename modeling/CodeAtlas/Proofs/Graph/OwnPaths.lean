import CodeAtlas.Graph.Neighbours
import Mathlib.Data.List.Basic

/-!
# The own paths of files

A path is resolved after every leading `./` is dropped. So the id of a file is looked up as it is
only if it does not begin with `./`, and then it always means its file. The id of any other file
means whatever file has the rest of the path for its id, and otherwise the first one that ends with
it, which may be another file.

1. `Path.plain_eq_self_iff`, `Path.BeginsHere.endsWith`: what is left of a path.
2. `find?_eq_some_iff_of_mem`: when a search finds one entry and none before it.
3. `resolvesOwn`: what the id of a file is resolved to.
4. `not_own_passedOver`: the id of a file may be resolved to another file.
-/

namespace CodeAtlas

namespace Path

/-- Whether a path begins with `./`. -/
def BeginsHere (path : String) : Prop := ['.', '/'] <+: path.toList

instance : DecidablePred BeginsHere := fun path =>
  inferInstanceAs (Decidable (['.', '/'] <+: path.toList))

theorem dropHere_of_not_prefix {cs : List Char} (h : ¬ ['.', '/'] <+: cs) : dropHere cs = cs := by
  fun_cases dropHere cs with
  | case1 rest => exact absurd (List.prefix_append ['.', '/'] rest) h
  | case2 => rfl

/-- However often `./` is dropped, what is left stands behind a slash. -/
theorem slash_dropHere_suffix (cs : List Char) : '/' :: dropHere cs <:+ '/' :: cs := by
  fun_induction dropHere cs with
  | case1 rest ih => exact ih.trans (List.suffix_append ['/', '.'] ('/' :: rest))
  | case2 cs => exact List.suffix_rfl

theorem BeginsHere.suffix {path : String} (h : BeginsHere path) :
    '/' :: (plain path).toList <:+ path.toList := by
  obtain ⟨rest, split⟩ := h
  have left : (plain path).toList = dropHere rest := by
    rw [plain, String.toList_ofList, ← split]
    rfl
  rw [left, ← split]
  exact (slash_dropHere_suffix rest).trans (List.suffix_append ['.'] ('/' :: rest))

/-- A path is left as it is exactly if it does not begin with `./`. -/
theorem plain_eq_self_iff {path : String} : plain path = path ↔ ¬ BeginsHere path := by
  constructor
  · intro same begins
    have shorter := begins.suffix.length_le
    rw [same, List.length_cons] at shorter
    omega
  · intro h
    rw [plain, dropHere_of_not_prefix h, String.ofList_toList]

theorem BeginsHere.endsWith {path : String} (h : BeginsHere path) :
    endsWith path ("/" ++ plain path) = true := by
  rw [Path.endsWith, List.isSuffixOf_iff_suffix, String.toList_append]
  exact h.suffix

theorem isTail_self (path : String) : isTail path path = true := by
  rw [isTail, beq_self_eq_true, Bool.true_or]

end Path

/-- A search finds an entry that would do exactly if none before it would. -/
theorem find?_eq_some_iff_of_mem {α : Type} [BEq α] [LawfulBEq α] {p : α → Bool} {l : List α} {a : α}
    (mem : a ∈ l) (ha : p a = true) :
    l.find? p = some a ↔ ∀ b ∈ l.takeWhile (· != a), p b = false := by
  induction l with
  | nil => cases mem
  | cons first rest ih =>
    by_cases same : first = a
    · subst same
      simp [ha]
    · have later : a ∈ rest := (List.mem_cons.1 mem).resolve_left (Ne.symm same)
      rw [List.takeWhile_cons_of_pos (by simpa using same), List.forall_mem_cons, List.find?_cons]
      cases hp : p first with
      | true => simp [same]
      | false => simpa using ih later

namespace Graph

variable {g : Graph} {id : String}

/-- The files that are listed before the one with an id. -/
def filesBefore (g : Graph) (id : String) : List String :=
  ((g.nodesOf .file).map Node.id).takeWhile (· != id)

theorem resolveFile_of_plain {path : String} (h : g.hasKind .file (Path.plain path) = true) :
    g.resolveFile path = some (Path.plain path) := by
  rw [resolveFile]
  exact if_pos h

/-- What the id of a file is resolved to. -/
structure ResolvesOwn (g : Graph) (id : String) : Prop where
  /-- An id that does not begin with `./` wins, whatever other nodes there are. -/
  wins : ¬ Path.BeginsHere id → g.resolveFile id = some id
  /-- Any other id wins exactly if no file has the rest of the path for its id and no earlier one
  ends with it. -/
  wins_iff : Path.BeginsHere id → (g.resolveFile id = some id ↔
    g.hasKind .file (Path.plain id) = false ∧
    ∀ other ∈ g.filesBefore id, Path.endsWith other ("/" ++ Path.plain id) = false)
  /-- A file is found in any case, and it has the rest of the path for its id or ends with it. -/
  found : ∃ file, g.resolveFile id = some file ∧ g.hasKind .file file = true ∧
    Path.isTail file (Path.plain id) = true

theorem mem_ids_files_iff : id ∈ (g.nodesOf .file).map Node.id ↔ g.hasKind .file id = true := by
  rw [List.mem_map, hasKind_iff]

/-- The id of a file ends with the rest of its path, so some file is found that does. -/
theorem resolveFile_of_beginsHere (file : g.hasKind .file id = true) (here : Path.BeginsHere id)
    (other : g.hasKind .file (Path.plain id) = false) :
    ∃ first, g.resolveFile id = some first ∧
      ((g.nodesOf .file).map Node.id).find? (Path.endsWith · ("/" ++ Path.plain id)) =
        some first := by
  obtain ⟨node, mem, rfl⟩ := (g.hasKind_iff .file id).1 file
  have some_ends : ((g.nodesOf .file).find? fun n =>
      Path.endsWith n.id ("/" ++ Path.plain node.id)).isSome = true :=
    List.find?_isSome.2 ⟨node, mem, here.endsWith⟩
  obtain ⟨first, hf⟩ := Option.isSome_iff_exists.1 some_ends
  refine ⟨first.id, ?_, ?_⟩
  · rw [resolveFile]
    simp only [other, Bool.false_eq_true, if_false, hf, Option.some_or, Option.map_some]
  · rw [List.find?_map]
    exact congrArg (Option.map Node.id) hf

/-- **Own paths.** The id of a file is resolved to that file if it does not begin with `./`; if it
does, exactly if the rest of the path is no file and ends no file before this one. -/
theorem resolvesOwn (file : g.hasKind .file id = true) : g.ResolvesOwn id where
  wins := by
    intro elsewhere
    have plain : Path.plain id = id := Path.plain_eq_self_iff.2 elsewhere
    rw [resolveFile_of_plain (plain.symm ▸ file), plain]
  wins_iff := by
    intro here
    cases other : g.hasKind .file (Path.plain id) with
    | true =>
      rw [resolveFile_of_plain other, Option.some_inj, Path.plain_eq_self_iff]
      simp [here]
    | false =>
      obtain ⟨first, resolved, search⟩ := resolveFile_of_beginsHere file here other
      rw [resolved, ← search, find?_eq_some_iff_of_mem (mem_ids_files_iff.2 file) here.endsWith]
      simp only [true_and, filesBefore]
  found := by
    cases other : g.hasKind .file (Path.plain id) with
    | true => exact ⟨_, resolveFile_of_plain other, other, Path.isTail_self _⟩
    | false =>
      have here : Path.BeginsHere id := by
        by_contra elsewhere
        rw [Path.plain_eq_self_iff.2 elsewhere, file] at other
        cases other
      obtain ⟨first, resolved, search⟩ := resolveFile_of_beginsHere file here other
      have ends := List.find?_some search
      refine ⟨first, resolved, mem_ids_files_iff.1 (List.mem_of_find?_eq_some search), ?_⟩
      rw [Path.isTail, Bool.or_eq_true]
      exact Or.inr ends

/-- A graph with two files for each of two names, one of them behind `w/`, and with a folder and a
function that are called like files. -/
def crowded : Graph :=
  empty.addNodes [.file "w/a.rs", .folder "b.rs", .file "././b.rs", .file "a.rs", .file "w/b.rs",
    .function "/b.rs" ⟨"a.rs", "w/a.rs", 1, []⟩]

theorem resolvesOwn_crowded :
    crowded.hasKind .file "a.rs" = true ∧ ¬ Path.BeginsHere "a.rs" ∧
    crowded.hasKind .file "././b.rs" = true ∧ Path.BeginsHere "././b.rs" ∧
    crowded.resolveFile "a.rs" = some "a.rs" ∧
    crowded.resolveFile "././b.rs" = some "././b.rs" := by
  have plain : crowded.hasKind .file "a.rs" = true := by decide +kernel
  have here : crowded.hasKind .file "././b.rs" = true := by decide +kernel
  refine ⟨plain, by decide +kernel, here, by decide +kernel, ?_, ?_⟩
  · exact (resolvesOwn plain).wins (by decide +kernel)
  · exact ((resolvesOwn here).wins_iff (by decide +kernel)).2 (by decide +kernel)

/-- A file in another directory that is listed first. -/
def passedOver : Graph := empty.addNodes [.file "x/a.rs", .file "./a.rs"]

/-- The id of a file is resolved to the other one. -/
theorem not_own_passedOver :
    passedOver.hasKind .file "./a.rs" = true ∧
    passedOver.resolveFile "./a.rs" = some "x/a.rs" ∧
    passedOver.resolveFile "./a.rs" ≠ some "./a.rs" := by
  decide +kernel

end Graph

end CodeAtlas
