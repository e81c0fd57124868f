import CodeAtlas.Proofs.Cycle.Turns
import CodeAtlas.Proofs.Graph.Degrees
import CodeAtlas.Proofs.List.Occurrences

/-!
# A search in depth exhausts its relation

Over all turns of the search of a relation each id is put on the path once and the pair at each place
is tried once, and then the search is over.

1. `Stage.toGo`: how many turns are still to come. A turn takes one off (`Regular.toGo_turn`), so the
   search is over after a turn for each start, for each id that is left, and for each pair
   (`isOver_stage_iff`).
2. `existsUnique_change`: what comes to hold and stays comes to hold at one turn. So each id is put on
   the path once (`existsUnique_pushes`), and each pair is tried once (`existsUnique_examines`).
3. `stage_exhausts`: all of this, with what holds at every turn.
-/

namespace CodeAtlas

/-- What does not hold at first, stays once it holds, and holds in the end, comes to hold once. -/
theorem existsUnique_change {p : Nat → Prop} {last : Nat} (first : ¬ p 0)
    (stays : ∀ n, p n → p (n + 1)) (ends : p last) :
    ∃! n, ¬ p n ∧ p (n + 1) := by
  have later : Monotone p := monotone_nat_of_le_succ stays
  have some_change : ∃ n, ¬ p n ∧ p (n + 1) := by
    by_contra none
    have never : ∀ n, ¬ p n := by
      intro n
      induction n with
      | zero => exact first
      | succ n ih => exact fun next => none ⟨n, ih, next⟩
    exact never last ends
  obtain ⟨n, before, after⟩ := some_change
  refine ⟨n, ⟨before, after⟩, ?_⟩
  rintro m ⟨before', after'⟩
  rcases Nat.lt_trichotomy m n with lt | eq | gt
  · exact absurd (later lt after') before
  · exact eq
  · exact absurd (later gt after) before'

namespace Pairs

theorem nodup_ids (pairs : Pairs) : (ids pairs).Nodup := nodup_eraseDups _

theorem length_successors (pairs : Pairs) (id : String) :
    (successors pairs id).length = (pairs.map Prod.fst).count id := by
  rw [successors, List.length_map, ← List.countP_eq_length_filter, List.count, List.countP_map]
  rfl

end Pairs

namespace Search

variable {pairs : Pairs}

/-! ## How many turns are still to come -/

/-- How many steps the ids cost that are not visited: one for each of them, and one for each of its
successors. -/
def unentered (pairs : Pairs) (visited : Std.ExtTreeSet String) : Nat :=
  (((Pairs.ids pairs).filter (· ∉ visited)).map
    fun id => 1 + (Pairs.successors pairs id).length).sum

theorem unentered_insert {visited : Std.ExtTreeSet String} {id : String} (new : id ∉ visited)
    (hid : id ∈ Pairs.ids pairs) :
    unentered pairs (visited.insert id) + (1 + (Pairs.successors pairs id).length) =
      unentered pairs visited := by
  have others : (Pairs.ids pairs).filter (· ∉ visited.insert id) =
      ((Pairs.ids pairs).filter (· ∉ visited)).erase id := by
    rw [((Pairs.nodup_ids pairs).filter _).erase_eq_filter, List.filter_filter]
    refine List.filter_congr fun x _ => ?_
    rw [Bool.eq_iff_iff]
    simp [ne_comm]
  have mem : id ∈ (Pairs.ids pairs).filter (· ∉ visited) := by
    simp [hid, new]
  unfold unentered
  rw [others, Nat.add_comm]
  exact List.sum_map_erase (fun id => 1 + (Pairs.successors pairs id).length) mem

/-- How many steps are still to come, with those from other starts. -/
def toGo (s : Search pairs) : Nat := unentered pairs s.visited + pending s.frames

/-- An id that is entered has a frame for what it still costs. -/
theorem toGo_enter (s : Search pairs) {id : String} (new : id ∉ s.visited)
    (hid : id ∈ Pairs.ids pairs) : (s.enter id).toGo = s.toGo := by
  show unentered pairs (s.visited.insert id) +
    (1 + (Pairs.successors pairs id).length + pending s.frames) = _
  rw [← Nat.add_assoc, unentered_insert new hid]
  rfl

theorem Coherent.toGo_attempt {s : Search pairs} (h : s.Coherent) {id : String}
    (hid : id ∈ Pairs.ids pairs) : (s.attempt id).toGo = s.toGo := by
  obtain ⟨-, c, -, he⟩ | ⟨-, -, he⟩ | ⟨new, he⟩ := h.attempt_cases id
  · rw [he]
    rfl
  · rw [he]
  · rw [he]
    exact s.toGo_enter new hid

/-- A step leaves an id or tries a pair. -/
theorem Coherent.toGo_step {s t : Search pairs} (h : s.Coherent) (ht : s.step? = some t) :
    t.toGo + 1 = s.toGo := by
  obtain ⟨id, below, hf, rfl⟩ | ⟨id, next, rest, below, hf, rfl⟩ := step_cases ht
  · rw [toGo, toGo, hf]
    show unentered pairs s.visited + pending below + 1 =
      unentered pairs s.visited + (1 + 0 + pending below)
    omega
  · have known := s.rest_known ⟨id, next :: rest⟩ (by simp [hf]) next (List.mem_cons_self ..)
    rw [(h.advance hf).toGo_attempt known, toGo, toGo, hf]
    show unentered pairs s.visited + (1 + rest.length + pending below) + 1 =
      unentered pairs s.visited + (1 + (rest.length + 1) + pending below)
    omega

/-- At first, every id is to be left and every pair is to be tried. -/
theorem toGo_start (pairs : Pairs) :
    (start : Search pairs).toGo = (Pairs.ids pairs).length + pairs.length := by
  have known : ∀ id ∈ pairs.map Prod.fst, id ∈ Pairs.ids pairs := by
    intro id hid
    obtain ⟨p, hp, rfl⟩ := List.mem_map.1 hid
    exact Pairs.mem_ids.2 ⟨p, hp, Or.inl rfl⟩
  have all : (Pairs.ids pairs).filter (· ∉ (∅ : Std.ExtTreeSet String)) = Pairs.ids pairs :=
    List.filter_eq_self.2 fun id _ => by simp
  have sources := sum_count_eq_length (Pairs.nodup_ids pairs) known
  rw [List.length_map] at sources
  show unentered pairs ∅ + 0 = _
  rw [unentered, all, List.sum_map_add]
  simp only [Pairs.length_successors, sources]
  simp

namespace Stage

variable {g t : Stage pairs}

/-- How many turns are still to come. -/
def toGo (g : Stage pairs) : Nat := g.starts.length + g.search.toGo

theorem Regular.isOver_iff (h : g.Regular) : g.IsOver ↔ g.toGo = 0 := by
  constructor
  · rintro ⟨idle, none⟩
    obtain ⟨taken, all, visited, -⟩ := h.searched
    rw [none, List.append_nil] at all
    have seen : (Pairs.ids pairs).filter (· ∉ g.search.visited) = [] :=
      List.filter_eq_nil_iff.2 fun id hid => by simpa using visited id (all ▸ hid)
    rw [Stage.toGo, Search.toGo, unentered, seen, idle, none]
    rfl
  · intro none
    unfold Stage.toGo Search.toGo at none
    refine ⟨?_, List.eq_nil_of_length_eq_zero (by omega)⟩
    rcases hf : g.search.frames with _ | ⟨frame, below⟩
    · rfl
    · simp only [hf, pending] at none
      omega

/-- A turn takes one off those that are still to come. -/
theorem Regular.toGo_turn (h : g.Regular) (ht : Turn g t) : t.toGo = g.toGo - 1 := by
  cases ht with
  | stay ended => rw [h.isOver_iff.1 ended]
  | step ht =>
    have := h.coherent.toGo_step ht
    simp only [Stage.toGo] at this ⊢
    omega
  | skip =>
    simp only [Stage.toGo, List.length_cons]
    omega
  | enter idle new =>
    have := Search.toGo_enter _ new (h.start_known (List.mem_cons_self ..))
    simp only [Stage.toGo, List.length_cons, this]
    omega

/-- Where no frame is left, the starts that were taken were searched one after the other. -/
theorem Regular.search_of_idle (h : g.Regular) (idle : g.search.frames = []) :
    ∃ taken, taken ++ g.starts = Pairs.ids pairs ∧ g.search = taken.foldl explore start := by
  obtain ⟨taken, all, -, run⟩ := h.searched
  exact ⟨taken, all, (run_of_idle idle).symm.trans run⟩

theorem Regular.search_of_isOver (h : g.Regular) (ended : g.IsOver) : g.search = whole pairs := by
  obtain ⟨taken, all, search⟩ := h.search_of_idle ended.1
  rw [ended.2, List.append_nil] at all
  rw [search, all]
  rfl

end Stage

theorem toGo_stage (pairs : Pairs) (n : Nat) :
    (stage pairs n).toGo = 2 * (Pairs.ids pairs).length + pairs.length - n := by
  induction n with
  | zero =>
    simp only [stage, Stage.toGo, toGo_start]
    omega
  | succ n ih =>
    rw [(regular_stage pairs n).toGo_turn (turn_stage pairs n), ih]
    omega

/-- The search is over after a turn for each start, for each id that is left, and for each pair. -/
theorem isOver_stage_iff (pairs : Pairs) (n : Nat) :
    (stage pairs n).IsOver ↔ 2 * (Pairs.ids pairs).length + pairs.length ≤ n := by
  rw [(regular_stage pairs n).isOver_iff, toGo_stage, Nat.sub_eq_zero_iff_le]

/-- In the end the search is the one that the cycles are found by. -/
theorem search_stage (pairs : Pairs) {n : Nat} (ended : (stage pairs n).IsOver) :
    (stage pairs n).search = whole pairs :=
  (regular_stage pairs n).search_of_isOver ended

/-! ## Once each -/

/-- What holds of no search at first, is kept, and holds in the end, comes to hold at one turn. -/
theorem existsUnique_turn {p : Search pairs → Prop} (first : ¬ p start)
    (stays : ∀ n, p (stage pairs n).search → p (stage pairs (n + 1)).search)
    (ends : p (whole pairs)) :
    ∃! n, ¬ p (stage pairs n).search ∧ p (stage pairs (n + 1)).search := by
  have last := search_stage pairs ((isOver_stage_iff pairs _).2 (Nat.le_refl _))
  rw [← last] at ends
  exact existsUnique_change (p := fun n => p (stage pairs n).search) first stays ends

/-- Whether a turn puts an id on the path. -/
def Pushes (pairs : Pairs) (n : Nat) (id : String) : Prop :=
  (stage pairs (n + 1)).search.path = id :: (stage pairs n).search.path

theorem existsUnique_pushes {id : String} (hid : id ∈ Pairs.ids pairs) :
    ∃! n, Pushes pairs n id := by
  have once : ∃! n, id ∉ (stage pairs n).search.visited ∧
      id ∈ (stage pairs (n + 1)).search.visited :=
    existsUnique_turn (p := fun s => id ∈ s.visited) Std.ExtTreeSet.not_mem_empty
      (fun n => Stage.visited_turn (turn_stage pairs n)) (visited_whole hid)
  refine (existsUnique_congr fun n => ?_).2 once
  exact (regular_stage pairs n).path_turn_iff (turn_stage pairs n) id

theorem tried_whole (i : Fin pairs.length) : (whole pairs).Tried i := by
  refine ⟨visited_whole (Pairs.mem_ids.2 ⟨pairs[i], List.getElem_mem i.isLt, Or.inl rfl⟩), ?_⟩
  rw [frames_whole]
  exact fun _ hm => absurd hm List.not_mem_nil

theorem existsUnique_examines (i : Fin pairs.length) :
    ∃! n, (stage pairs n).search.Examines i := by
  have once : ∃! n, ¬ (stage pairs n).search.Tried i ∧ (stage pairs (n + 1)).search.Tried i :=
    existsUnique_turn (p := fun s => s.Tried i)
      (fun h => absurd h.entered Std.ExtTreeSet.not_mem_empty)
      (fun n h => ((regular_stage pairs n).tried_turn (turn_stage pairs n) i).2 (Or.inl h))
      (tried_whole i)
  refine (existsUnique_congr fun n => ?_).2 once
  exact (regular_stage pairs n).examines_iff (turn_stage pairs n) i

/-! ## All turns -/

/-- What the search of a relation does over all its turns. -/
structure Exhausts (pairs : Pairs) : Prop where
  /-- The path is that of the frames, without repeats and along pairs, and the set of ids on the path
  is that of its ids, all of which are visited. -/
  coherent : ∀ n, (stage pairs n).search.Coherent
  /-- The successors of an id that was left are visited. -/
  left : ∀ n, ∀ x ∈ (stage pairs n).search.visited, x ∉ (stage pairs n).search.path →
    ∀ y ∈ Pairs.successors pairs x, y ∈ (stage pairs n).search.visited
  /-- Between two starts there is neither a path nor a frame. -/
  idle : ∀ k, (((Pairs.ids pairs).take k).foldl explore (start : Search pairs)).Idle
  /-- Where no frame is left, the starts that were taken were searched one after the other. -/
  between : ∀ n, (stage pairs n).search.frames = [] →
    ∃ taken, taken ++ (stage pairs n).starts = Pairs.ids pairs ∧
      (stage pairs n).search = taken.foldl explore start
  /-- Each id is put on the path at one turn. -/
  pushed : ∀ id ∈ Pairs.ids pairs, ∃! n, Pushes pairs n id
  /-- The pair at each place is tried at one turn. -/
  examined : ∀ i : Fin pairs.length, ∃! n, (stage pairs n).search.Examines i
  /-- A successor that is on the path is found there, and the cycle that it closes is reported. -/
  reported : ∀ n {id next rest below},
    (stage pairs n).search.frames = ⟨id, next :: rest⟩ :: below →
    next ∈ (stage pairs n).search.onPath →
    ∃ c, closed? (stage pairs n).search.path next = some c ∧
      Closes (stage pairs n).search.path next c ∧
      (stage pairs (n + 1)).search.found = (stage pairs n).search.found.push c
  /-- There is a turn for each start, one for each id that is left, and one for each pair. -/
  ends : ∀ n, (stage pairs n).IsOver ↔ 2 * (Pairs.ids pairs).length + pairs.length ≤ n
  /-- In the end the cycles are found. -/
  found : ∀ n, (stage pairs n).IsOver → (stage pairs n).search.found.toList = Pairs.cycles pairs

/-- **Turn by turn.** The parts of a search in depth stay in step, each id is put on the path once,
each pair is tried once and then the search is over, and no cycle that is closed is lost. -/
theorem stage_exhausts (pairs : Pairs) : Exhausts pairs where
  coherent n := (regular_stage pairs n).coherent
  left n _ hx off _ hy := (regular_stage pairs n).mem_visited_of_left hx off hy
  idle _ := (coherent_foldl _).idle (frames_foldl _)
  between n idle := (regular_stage pairs n).search_of_idle idle
  pushed _ hid := existsUnique_pushes hid
  examined i := existsUnique_examines i
  reported n _ _ _ _ hf on := (regular_stage pairs n).push_of_onPath (turn_stage pairs n) hf on
  ends n := isOver_stage_iff pairs n
  found _ ended := congrArg (fun s => s.found.toList) (search_stage pairs ended)

/-- `"a"` is entered as a start and then `"b"` from it, and the pair back to `"a"` closes a cycle; `"b"`
is left, then `"a"`, and the start `"b"` is passed over. -/
example :
    (stage [("a", "b"), ("b", "a")] 2).search.path = ["b", "a"] ∧
    (stage [("a", "b"), ("b", "a")] 3).search.found = #[⟨["a", "b", "a"]⟩] ∧
    (stage [("a", "b"), ("b", "a")] 5).starts = ["b"] ∧
    (stage [("a", "b"), ("b", "a")] 6).starts = [] := by
  decide +kernel

end Search

end CodeAtlas
