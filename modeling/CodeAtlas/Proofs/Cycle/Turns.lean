import CodeAtlas.Proofs.Cycle.Examination

/-!
# The search in depth, turn by turn

The search of a relation goes on by one step or from one more start at each turn. `stage` is where
it stands after a number of turns.

1. `Stage.Turn`: what a turn may do.
2. `Stage.Regular`: what holds at every turn; `Stage.Searched` is the part that ties the stages to
   the search from one start after the other. `Regular.turn` says that a turn keeps it, and
   `regular_stage` that it holds after any number of turns.
3. `Regular.path_turn_iff`, `Regular.examines_iff`: an id is put on the path when it is visited, and a
   pair is tried when it comes to be one of those that were tried.
-/

namespace CodeAtlas

namespace Search

variable {pairs : Pairs}

/-- Where the search of a relation stands: the ids that are still to be tried as starts, and the
search so far. -/
structure Stage (pairs : Pairs) where
  starts : List String
  search : Search pairs

namespace Stage

/-- The next turn is a step, or the next start if no frame is left. In the end nothing changes. -/
def next (g : Stage pairs) : Stage pairs :=
  match g.search.step? with
  | some s => ⟨g.starts, s⟩
  | none =>
    match g.starts with
    | [] => g
    | root :: rest =>
      ⟨rest, if root ∈ g.search.visited then g.search else g.search.enter root⟩

/-- Whether neither a frame nor a start is left. -/
def IsOver (g : Stage pairs) : Prop := g.search.frames = [] ∧ g.starts = []

/-- What a turn may do. -/
inductive Turn : Stage pairs → Stage pairs → Prop
  | stay {g : Stage pairs} (h : g.IsOver) : Turn g g
  | step {starts : List String} {s t : Search pairs} (ht : s.step? = some t) :
      Turn ⟨starts, s⟩ ⟨starts, t⟩
  | skip {root : String} {rest : List String} {s : Search pairs} (idle : s.frames = [])
      (seen : root ∈ s.visited) : Turn ⟨root :: rest, s⟩ ⟨rest, s⟩
  | enter {root : String} {rest : List String} {s : Search pairs} (idle : s.frames = [])
      (new : root ∉ s.visited) : Turn ⟨root :: rest, s⟩ ⟨rest, s.enter root⟩

theorem turn_next (g : Stage pairs) : Turn g g.next := by
  obtain ⟨starts, s⟩ := g
  unfold next
  split
  · rename_i t ht
    exact .step ht
  · rename_i ht
    have idle := frames_of_step?_eq_none ht
    split
    · exact .stay ⟨idle, by assumption⟩
    · rename_i root rest he
      obtain rfl : starts = root :: rest := he
      split
      · exact .skip idle (by assumption)
      · exact .enter idle (by assumption)

/-! ## At every turn -/

/-- Whether the starts that were taken were searched one after the other, but for what the search
still does before the next start. -/
def Searched (g : Stage pairs) : Prop :=
  ∃ taken, taken ++ g.starts = Pairs.ids pairs ∧ (∀ id ∈ taken, id ∈ g.search.visited) ∧
    g.search.run = taken.foldl explore start

/-- One more start is taken. -/
theorem Searched.take {root : String} {rest : List String} {s t : Search pairs}
    (h : Searched ⟨root :: rest, s⟩) (idle : s.frames = [])
    (grows : ∀ id ∈ s.visited, id ∈ t.visited) (entered : root ∈ t.visited)
    (run : t.run = explore s root) : Searched ⟨rest, t⟩ := by
  obtain ⟨taken, all, visited, before⟩ := h
  have here : s = taken.foldl explore start := (run_of_idle idle).symm.trans before
  refine ⟨taken ++ [root], ?_, fun id hid => ?_, ?_⟩
  · rw [← all, List.append_assoc]
    rfl
  · rcases List.mem_append.1 hid with hid | hid
    · exact grows id (visited id hid)
    · exact List.mem_singleton.1 hid ▸ entered
  · rw [List.foldl_append, ← here]
    exact run

/-- What holds at every turn. -/
structure Regular (g : Stage pairs) : Prop where
  coherent : g.search.Coherent
  known : ∀ id ∈ g.search.visited, id ∈ Pairs.ids pairs
  reached : g.search.Reached
  searched : g.Searched

theorem regular_start : Regular (⟨Pairs.ids pairs, start⟩ : Stage pairs) where
  coherent := coherent_start
  known _ h := absurd h Std.ExtTreeSet.not_mem_empty
  reached _ h := absurd h.entered Std.ExtTreeSet.not_mem_empty
  searched := ⟨[], rfl, fun _ h => absurd h List.not_mem_nil, run_of_idle rfl⟩

variable {g t : Stage pairs}

theorem Regular.start_known (h : g.Regular) {root : String} (hr : root ∈ g.starts) :
    root ∈ Pairs.ids pairs := by
  obtain ⟨taken, all, -, -⟩ := h.searched
  exact all ▸ List.mem_append_right taken hr

theorem known_step {s t : Search pairs} (h : s.Coherent)
    (known : ∀ id ∈ s.visited, id ∈ Pairs.ids pairs) (ht : s.step? = some t) :
    ∀ id ∈ t.visited, id ∈ Pairs.ids pairs := by
  obtain ⟨id, below, hf, rfl⟩ | ⟨id, next, rest, below, hf, rfl⟩ := step_cases ht
  · exact known
  · intro x hx
    rcases ((h.advance hf).visited_attempt_iff next x).1 hx with rfl | hx
    · exact s.rest_known ⟨id, x :: rest⟩ (by simp [hf]) x (List.mem_cons_self ..)
    · exact known x hx

theorem Regular.turn (h : g.Regular) (ht : Turn g t) : t.Regular := by
  cases ht with
  | stay => exact h
  | step ht =>
    refine ⟨h.coherent.step ht, known_step h.coherent h.known ht, h.reached.step h.coherent ht, ?_⟩
    obtain ⟨taken, all, visited, run⟩ := h.searched
    exact ⟨taken, all, fun id hid => visited_step ht (visited id hid), run_of_step ht ▸ run⟩
  | @skip root rest s idle seen =>
    refine ⟨h.coherent, h.known, h.reached, h.searched.take idle (fun _ hid => hid) seen ?_⟩
    rw [run_of_idle idle, explore, if_pos seen]
  | @enter root rest s idle new =>
    have grows : ∀ id ∈ s.visited, id ∈ (s.enter root).visited := fun _ hid =>
      mem_insert.2 (Or.inr hid)
    refine ⟨h.coherent.enter_root idle new, fun id hid => ?_, h.reached.enter new, ?_⟩
    · rcases mem_insert.1 hid with rfl | hid
      · exact h.start_known (List.mem_cons_self ..)
      · exact h.known id hid
    · refine h.searched.take idle grows (mem_insert.2 (Or.inl rfl)) ?_
      rw [explore, if_neg new]

/-- The successors of an id that was left are visited. -/
theorem Regular.mem_visited_of_left (h : g.Regular) {x y : String} (hx : x ∈ g.search.visited)
    (off : x ∉ g.search.path) (hy : y ∈ Pairs.successors pairs x) : y ∈ g.search.visited := by
  obtain ⟨i, lt, hi⟩ := List.getElem_of_mem (Pairs.mem_successors.1 hy)
  -- a frame of `x` would keep `x` on the path, so the pair is no longer to be tried
  have tried : g.search.Tried ⟨i, lt⟩ := by
    refine ⟨by simpa [hi] using hx, fun frame hm same => absurd ?_ off⟩
    rw [h.coherent.path_eq]
    have same : frame.id = x := by simpa [hi] using same
    exact same ▸ List.mem_map_of_mem hm
  simpa [hi] using h.reached ⟨i, lt⟩ tried

/-! ## What a turn adds -/

theorem visited_turn (ht : Turn g t) {x : String} (hx : x ∈ g.search.visited) :
    x ∈ t.search.visited := by
  cases ht with
  | stay => exact hx
  | step ht => exact visited_step ht hx
  | skip => exact hx
  | enter => exact mem_insert.2 (Or.inr hx)

/-- A turn puts an id on the path exactly if it visits this id. -/
theorem Regular.path_turn_iff (h : g.Regular) (ht : Turn g t) (x : String) :
    t.search.path = x :: g.search.path ↔ x ∉ g.search.visited ∧ x ∈ t.search.visited := by
  cases ht with
  | stay | skip =>
    exact iff_of_false (List.cons_ne_self x _).symm fun ⟨new, seen⟩ => new seen
  | step ht => exact h.coherent.path_step_iff ht x
  | @enter root rest s idle new =>
    show root :: s.path = x :: s.path ↔ x ∉ s.visited ∧ x ∈ s.visited.insert root
    rw [mem_insert, List.cons.injEq, and_iff_left rfl]
    constructor
    · rintro rfl
      exact ⟨new, Or.inl rfl⟩
    · rintro ⟨other, same | seen⟩
      · exact same.symm
      · exact absurd seen other

theorem not_examines_of_idle {s : Search pairs} (idle : s.frames = []) (i : Fin pairs.length) :
    ¬ s.Examines i := by
  rintro ⟨below, hf⟩
  cases idle.symm.trans hf

/-- A turn tries one pair or none. -/
theorem Regular.tried_turn (h : g.Regular) (ht : Turn g t) (i : Fin pairs.length) :
    t.search.Tried i ↔ g.search.Tried i ∨ g.search.Examines i := by
  cases ht with
  | stay ended => exact (or_iff_left (not_examines_of_idle ended.1 i)).symm
  | step ht => exact h.coherent.tried_step ht
  | skip idle => exact (or_iff_left (not_examines_of_idle idle i)).symm
  | enter idle new =>
    exact (tried_enter new).trans (or_iff_left (not_examines_of_idle idle i)).symm

theorem Regular.examines_iff (h : g.Regular) (ht : Turn g t) (i : Fin pairs.length) :
    g.search.Examines i ↔ ¬ g.search.Tried i ∧ t.search.Tried i := by
  rw [h.tried_turn ht]
  constructor
  · exact fun now => ⟨now.not_tried, Or.inr now⟩
  · exact fun ⟨before, after⟩ => after.resolve_left before

/-- A successor that is on the path is found there, and the cycle that it closes is reported. -/
theorem Regular.push_of_onPath (h : g.Regular) (ht : Turn g t) {id next : String}
    {rest : List String} {below : List Frame} (hf : g.search.frames = ⟨id, next :: rest⟩ :: below)
    (on : next ∈ g.search.onPath) :
    ∃ c, closed? g.search.path next = some c ∧ Closes g.search.path next c ∧
      t.search.found = g.search.found.push c := by
  cases ht with
  | stay ended => cases ended.1.symm.trans hf
  | step ht => exact h.coherent.push_of_onPath hf on ht
  | skip idle => cases idle.symm.trans hf
  | enter idle => cases idle.symm.trans hf

end Stage

/-! ## The turns of a search -/

/-- Where the search of a relation stands after a number of turns. -/
def stage (pairs : Pairs) : Nat → Stage pairs
  | 0 => ⟨Pairs.ids pairs, start⟩
  | n + 1 => (stage pairs n).next

theorem turn_stage (pairs : Pairs) (n : Nat) : (stage pairs n).Turn (stage pairs (n + 1)) :=
  (stage pairs n).turn_next

theorem regular_stage (pairs : Pairs) (n : Nat) : (stage pairs n).Regular := by
  induction n with
  | zero => exact Stage.regular_start
  | succ n ih => exact ih.turn (turn_stage pairs n)

end Search

end CodeAtlas
