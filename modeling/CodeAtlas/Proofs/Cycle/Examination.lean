import CodeAtlas.Proofs.Cycle.Stack

/-!
# The pairs that are tried

A frame holds the targets of those pairs of its id that are still to be tried, in their order. So
what it holds tells which pairs of its id were tried, also where pairs are repeated: a pair is known
by its place in the relation, and what comes after it are the targets of the later pairs.

1. `Examines`: the pair that the next step tries. `Tried`: the pairs that were tried before.
2. `tried_step`: a step adds the pair that it tries to those that were tried, and no other.
3. `Reached.step`: the targets of the pairs that were tried are visited.
4. `push_of_onPath`: a tried successor that is on the path is found there, and the cycle is reported.
-/

namespace CodeAtlas

namespace Pairs

variable (pairs : Pairs)

/-- The targets of the later pairs of the same id. -/
def later (i : Fin pairs.length) : List String := successors (pairs.drop (i + 1)) pairs[i].1

/-- The successors of an id end with those of any of its pairs and of the later ones. -/
theorem suffix_successors (i : Fin pairs.length) :
    pairs[i].2 :: later pairs i <:+ successors pairs pairs[i].1 := by
  have here : successors (pairs.drop i) pairs[i].1 = pairs[i].2 :: later pairs i := by
    rw [List.drop_eq_getElem_cons i.isLt, successors, List.filter_cons_of_pos (by simp)]
    rfl
  refine ⟨successors (pairs.take i) pairs[i].1, ?_⟩
  rw [← here, successors, successors, successors, ← List.map_append, ← List.filter_append,
    List.take_append_drop]

end Pairs

namespace Search

variable {pairs : Pairs} {s t : Search pairs} {i : Fin pairs.length}

/-- Whether the next step tries the pair at a place. -/
def Examines (s : Search pairs) (i : Fin pairs.length) : Prop :=
  ∃ below, s.frames = ⟨pairs[i].1, pairs[i].2 :: Pairs.later pairs i⟩ :: below

/-- Whether the pair at a place was tried: its id was entered, and if there still is a frame of this
id, then it holds later pairs only. -/
structure Tried (s : Search pairs) (i : Fin pairs.length) : Prop where
  entered : pairs[i].1 ∈ s.visited
  passed : ∀ frame ∈ s.frames, frame.id = pairs[i].1 →
    frame.rest.length ≤ (Pairs.later pairs i).length

/-- Whether the targets of the pairs that were tried are visited. -/
def Reached (s : Search pairs) : Prop := ∀ i : Fin pairs.length, s.Tried i → pairs[i].2 ∈ s.visited

theorem Examines.not_tried (h : s.Examines i) : ¬ s.Tried i := by
  obtain ⟨below, hf⟩ := h
  intro tried
  have passed := tried.passed _ (hf ▸ List.mem_cons_self ..) rfl
  exact Nat.not_succ_le_self _ passed

section Steps

variable {id next : String} {rest : List String} {below : List Frame}

/-- The id that is left has no pair that is still to be tried. -/
theorem tried_leave (hf : s.frames = ⟨id, []⟩ :: below) : (s.leave hf).Tried i ↔ s.Tried i := by
  constructor
  · intro h
    refine ⟨h.entered, fun frame hm same => ?_⟩
    rw [hf] at hm
    rcases List.mem_cons.1 hm with rfl | hm
    · exact Nat.zero_le _
    · exact h.passed frame hm same
  · intro h
    refine ⟨h.entered, fun frame hm same => h.passed frame ?_ same⟩
    rw [hf]
    exact List.mem_cons_of_mem _ hm

/-- The pair that is taken off the frame is known by the number of those that follow it. -/
theorem Coherent.examines_of_length (h : Coherent s) (hf : s.frames = ⟨id, next :: rest⟩ :: below)
    (same : id = pairs[i].1) (length : rest.length = (Pairs.later pairs i).length) :
    s.Examines i := by
  have suffix := h.rest_suffix ⟨id, next :: rest⟩ (by simp [hf])
  have suffix' := Pairs.suffix_successors pairs i
  rw [← same] at suffix'
  have equal : (next :: rest).length = (pairs[i].2 :: Pairs.later pairs i).length :=
    congrArg Nat.succ length
  have all : next :: rest = pairs[i].2 :: Pairs.later pairs i :=
    (List.suffix_of_suffix_length_le suffix suffix' equal.le).eq_of_length equal
  exact ⟨below, by rw [hf, same, all]⟩

/-- The frame that the pair is taken off holds the later ones, and no other frame is of its id. -/
theorem Coherent.tried_of_examines (h : Coherent s) (hf : s.frames = ⟨id, next :: rest⟩ :: below)
    (now : s.Examines i) : (s.advance hf).Tried i := by
  obtain ⟨below', hf'⟩ := now
  have same := hf.symm.trans hf'
  rw [List.cons.injEq, Frame.mk.injEq, List.cons.injEq] at same
  obtain ⟨⟨hid, -, hrest⟩, -⟩ := same
  have path := h.path_of_frames hf
  have nodup := h.nodup
  rw [path, List.nodup_cons] at nodup
  refine ⟨?_, fun frame hm same => ?_⟩
  · refine h.visited_of_path _ ?_
    rw [path, ← hid]
    exact List.mem_cons_self ..
  · rcases List.mem_cons.1 hm with rfl | hm
    · exact hrest ▸ Nat.le_refl _
    · have again : frame.id ∈ below.map Frame.id := List.mem_map_of_mem hm
      rw [same, ← hid] at again
      exact absurd again nodup.1

theorem Coherent.tried_advance (h : Coherent s) (hf : s.frames = ⟨id, next :: rest⟩ :: below) :
    (s.advance hf).Tried i ↔ s.Tried i ∨ s.Examines i := by
  constructor
  · intro tried
    -- the frame holds one pair less, so what is new is the pair that has as many after it
    by_cases now : id = pairs[i].1 ∧ rest.length = (Pairs.later pairs i).length
    · exact Or.inr (h.examines_of_length hf now.1 now.2)
    · refine Or.inl ⟨tried.entered, fun frame hm same => ?_⟩
      rw [hf] at hm
      rcases List.mem_cons.1 hm with rfl | hm
      · have le := tried.passed ⟨id, rest⟩ (List.mem_cons_self ..) same
        exact Nat.lt_of_le_of_ne le fun eq => now ⟨same, eq⟩
      · exact tried.passed frame (List.mem_cons_of_mem _ hm) same
  · rintro (tried | now)
    · refine ⟨tried.entered, fun frame hm same => ?_⟩
      rcases List.mem_cons.1 hm with rfl | hm
      · have le := tried.passed ⟨id, next :: rest⟩ (by simp [hf]) same
        exact Nat.le_of_succ_le le
      · exact tried.passed frame (by simp [hf, hm]) same
    · exact h.tried_of_examines hf now

/-- Of an id that is entered no pair was tried yet. -/
theorem tried_enter (new : id ∉ s.visited) : (s.enter id).Tried i ↔ s.Tried i := by
  constructor
  · intro tried
    have other : pairs[i].1 ≠ id := by
      intro same
      have le := tried.passed ⟨id, Pairs.successors pairs id⟩ (List.mem_cons_self ..) same.symm
      have longer := (Pairs.suffix_successors pairs i).length_le
      rw [same] at longer
      exact Nat.not_succ_le_self _ (longer.trans le)
    refine ⟨(mem_insert.1 tried.entered).resolve_left other, fun frame hm same => ?_⟩
    exact tried.passed frame (List.mem_cons_of_mem _ hm) same
  · intro tried
    refine ⟨mem_insert.2 (Or.inr tried.entered), fun frame hm same => ?_⟩
    rcases List.mem_cons.1 hm with rfl | hm
    · have seen := tried.entered
      rw [← same] at seen
      exact absurd seen new
    · exact tried.passed frame hm same

theorem Coherent.tried_attempt (h : Coherent s) (id : String) :
    (s.attempt id).Tried i ↔ s.Tried i := by
  obtain ⟨-, c, -, he⟩ | ⟨-, -, he⟩ | ⟨new, he⟩ := h.attempt_cases id
  · rw [he]
    exact ⟨fun tried => ⟨tried.entered, tried.passed⟩, fun tried => ⟨tried.entered, tried.passed⟩⟩
  · rw [he]
  · rw [he]
    exact tried_enter new

/-- A tried id is visited afterwards. -/
theorem Coherent.visited_attempt_iff (h : Coherent s) (id x : String) :
    x ∈ (s.attempt id).visited ↔ x = id ∨ x ∈ s.visited := by
  obtain ⟨on, c, -, he⟩ | ⟨-, seen, he⟩ | ⟨-, he⟩ := h.attempt_cases id
  · rw [he]
    refine ⟨Or.inr, fun hx => hx.elim (fun same => ?_) fun hx => hx⟩
    exact same ▸ h.visited_of_path id on
  · rw [he]
    refine ⟨Or.inr, fun hx => hx.elim (fun same => ?_) fun hx => hx⟩
    exact same ▸ seen
  · rw [he]
    exact mem_insert

/-- A tried id is put on the path unless it was visited before. -/
theorem Coherent.path_attempt_iff (h : Coherent s) (id x : String) :
    (s.attempt id).path = x :: s.path ↔ x = id ∧ id ∉ s.visited := by
  have same : s.path ≠ x :: s.path := (List.cons_ne_self x s.path).symm
  obtain ⟨on, c, -, he⟩ | ⟨-, seen, he⟩ | ⟨new, he⟩ := h.attempt_cases id
  · rw [he]
    exact iff_of_false same fun ⟨_, new⟩ => new (h.visited_of_path id on)
  · rw [he]
    exact iff_of_false same fun ⟨_, new⟩ => new seen
  · rw [he]
    show id :: s.path = x :: s.path ↔ _
    rw [List.cons.injEq, and_iff_left rfl, and_iff_left new, eq_comm]

end Steps

/-! ## Steps -/

/-- The step that tries a successor. -/
theorem eq_attempt_of_step {id next : String} {rest : List String} {below : List Frame}
    (hf : s.frames = ⟨id, next :: rest⟩ :: below) (ht : s.step? = some t) :
    t = (s.advance hf).attempt next := by
  obtain ⟨id', below', hf', rfl⟩ | ⟨id', next', rest', below', hf', rfl⟩ := step_cases ht
  · cases hf.symm.trans hf'
  · cases hf.symm.trans hf'
    rfl

/-- A step tries one pair or none. -/
theorem Coherent.tried_step (h : Coherent s) (ht : s.step? = some t) :
    t.Tried i ↔ s.Tried i ∨ s.Examines i := by
  obtain ⟨id, below, hf, rfl⟩ | ⟨id, next, rest, below, hf, rfl⟩ := step_cases ht
  · have none : ¬ s.Examines i := by
      rintro ⟨below', hf'⟩
      cases hf.symm.trans hf'
    rw [tried_leave hf, or_iff_left none]
  · rw [(h.advance hf).tried_attempt, h.tried_advance hf]

/-- The target of the pair that a step tries is visited afterwards. -/
theorem Coherent.mem_visited_of_examines (h : Coherent s) (ht : s.step? = some t)
    (now : s.Examines i) : pairs[i].2 ∈ t.visited := by
  obtain ⟨below, hf⟩ := now
  rw [eq_attempt_of_step hf ht]
  exact ((h.advance hf).visited_attempt_iff _ _).2 (Or.inl rfl)

theorem Reached.step (h : Reached s) (hs : Coherent s) (ht : s.step? = some t) : Reached t := by
  intro i tried
  rcases (hs.tried_step ht).1 tried with before | now
  · exact visited_step ht (h i before)
  · exact hs.mem_visited_of_examines ht now

theorem Reached.enter {id : String} (h : Reached s) (new : id ∉ s.visited) :
    Reached (s.enter id) := by
  intro i tried
  exact mem_insert.2 (Or.inr (h i ((tried_enter new).1 tried)))

/-- A step puts an id on the path exactly if it visits this id. -/
theorem Coherent.path_step_iff (h : Coherent s) (ht : s.step? = some t) (x : String) :
    t.path = x :: s.path ↔ x ∉ s.visited ∧ x ∈ t.visited := by
  obtain ⟨id, below, hf, rfl⟩ | ⟨id, next, rest, below, hf, rfl⟩ := step_cases ht
  · have shorter : s.path.tail ≠ x :: s.path := by
      intro same
      have := congrArg List.length same
      simp at this
    exact iff_of_false shorter fun ⟨new, seen⟩ => new seen
  · refine ((h.advance hf).path_attempt_iff next x).trans ?_
    rw [(h.advance hf).visited_attempt_iff]
    constructor
    · rintro ⟨rfl, new⟩
      exact ⟨new, Or.inl rfl⟩
    · rintro ⟨new, rfl | seen⟩
      · exact ⟨rfl, new⟩
      · exact absurd seen new

/-- A tried successor that is on the path is found there, and the cycle that it closes is
reported. -/
theorem Coherent.push_of_onPath (h : Coherent s) {id next : String} {rest : List String}
    {below : List Frame} (hf : s.frames = ⟨id, next :: rest⟩ :: below) (on : next ∈ s.onPath)
    (ht : s.step? = some t) :
    ∃ c, closed? s.path next = some c ∧ Closes s.path next c ∧ t.found = s.found.push c := by
  obtain ⟨c, hc, closes⟩ := closed?_of_mem ((h.mem_onPath next).1 on)
  refine ⟨c, hc, closes, ?_⟩
  have on : next ∈ (s.advance hf).onPath := on
  have hc : closed? (s.advance hf).path next = some c := hc
  rw [eq_attempt_of_step hf ht, Search.attempt, if_pos on, hc]
  rfl

end Search

end CodeAtlas
