import CodeAtlas.Graph.Cycle
import Mathlib.Data.List.Chain
import Mathlib.Data.List.Nodup

/-!
# The stack of a search in depth

`Coherent` is what holds of a search before and after each step: the path lists the ids of the
frames, without repeats and along pairs; the set of ids on the path is the set of its ids; and every
cycle found so far is elementary.

1. `attempt_cases`: an id on the path closes a cycle, for it is found there (`closed?_of_mem`); one
   off the path was visited before or is entered.
2. `Coherent.step`: a step keeps a search coherent.
3. `Coherent.idle`, `coherent_foldl`: between two starts nothing is on the path.
4. `coherent_whole`: the search that a relation is given to ends coherent, with an empty stack and
   every id visited, so every cycle that it finds is elementary (`isElementary_of_mem_cycles`).
5. `cycles_sound`: the same of the lists of ids that are reported.
-/

namespace CodeAtlas

namespace Cycle

/-- Whether the last hop of a cycle leads from `x` to `y`. -/
def EndsWith (c : Cycle) (x y : String) : Prop := [x, y] <:+ c.nodes

/-- A closed walk along pairs that comes to no id twice before it closes. -/
structure IsElementary (pairs : Pairs) (c : Cycle) : Prop where
  two_le : 2 ≤ c.nodes.length
  closed : c.nodes.head? = c.nodes.getLast?
  nodup : c.nodes.dropLast.Nodup
  hops : c.nodes.IsChain fun x y => (x, y) ∈ pairs

/-- An elementary cycle begins and ends with the same id. -/
theorem IsElementary.exists_eq {pairs : Pairs} {c : Cycle} (h : c.IsElementary pairs) :
    ∃ first mid, c.nodes = first :: (mid ++ [first]) := by
  have two := h.two_le
  have closed := h.closed
  rcases hn : c.nodes with _ | ⟨first, rest⟩
  · rw [hn] at two
    cases two
  · rw [hn] at two closed
    rcases List.eq_nil_or_concat rest with rfl | ⟨mid, last, rfl⟩
    · simp at two
    · rw [List.concat_eq_append] at closed ⊢
      rw [← List.cons_append, List.getLast?_concat] at closed
      obtain rfl := Option.some.inj closed
      exact ⟨first, mid, rfl⟩

end Cycle

namespace Search

variable {pairs : Pairs}

/-! ## Closing a cycle -/

/-- What an id closes on a path, deepest id first: the part of the path from that id on. -/
def Closes (path : List String) (id : String) (c : Cycle) : Prop :=
  ∃ before inner, path.reverse = before ++ id :: inner ∧ c.nodes = id :: inner ++ [id]

theorem closed?_of_mem {path : List String} {id : String} (h : id ∈ path) :
    ∃ c, closed? path id = some c ∧ Closes path id c := by
  have hr : id ∈ path.reverse := List.mem_reverse.2 h
  obtain ⟨i, hi⟩ := Option.isSome_iff_exists.1 (List.isSome_idxOf?.2 hr)
  obtain ⟨hlt, hid, -⟩ := List.idxOf?_eq_some_iff.1 hi
  refine ⟨⟨path.reverse.drop i ++ [id]⟩, ?_, ?_⟩
  · unfold closed?
    rw [hi]
  · refine ⟨path.reverse.take i, path.reverse.drop (i + 1), ?_, ?_⟩
    · rw [← hid, ← List.drop_eq_getElem_cons hlt, List.take_append_drop]
    · rw [← hid, ← List.drop_eq_getElem_cons hlt]

/-- The deepest id comes last in every part of the path that is closed. -/
theorem Closes.exists_eq {deep id : String} {above : List String} {c : Cycle}
    (h : Closes (deep :: above) id c) :
    ∃ before part, (deep :: above).reverse = before ++ part ++ [deep] ∧
      c.nodes = part ++ [deep, id] ∧ (part ++ [deep]).head? = some id := by
  obtain ⟨before, inner, hp, hc⟩ := h
  rw [List.reverse_cons] at hp ⊢
  rcases List.eq_nil_or_concat inner with rfl | ⟨init, last, rfl⟩
  · obtain ⟨hb, hd⟩ := List.append_inj' hp rfl
    obtain rfl := List.singleton_inj.1 hd
    exact ⟨before, [], by rw [hb, List.append_nil], hc, rfl⟩
  · rw [List.concat_eq_append, ← List.cons_append, ← List.append_assoc] at hp
    obtain ⟨hb, hd⟩ := List.append_inj' hp rfl
    obtain rfl := List.singleton_inj.1 hd
    refine ⟨before, id :: init, by rw [hb], ?_, rfl⟩
    rw [hc, List.concat_eq_append]
    simp

theorem Closes.endsWith {deep id : String} {above : List String} {c : Cycle}
    (h : Closes (deep :: above) id c) : c.EndsWith deep id := by
  obtain ⟨before, part, -, hc, -⟩ := h.exists_eq
  exact ⟨part, hc.symm⟩

theorem Closes.isElementary {deep id : String} {above : List String} {c : Cycle}
    (h : Closes (deep :: above) id c) (nodup : (deep :: above).Nodup)
    (hops : (deep :: above).IsChain fun x y => (y, x) ∈ pairs) (last : (deep, id) ∈ pairs) :
    c.IsElementary pairs := by
  obtain ⟨before, part, hp, hc, hd⟩ := h.exists_eq
  have suffix : part ++ [deep] <:+ (deep :: above).reverse :=
    ⟨before, by rw [hp, List.append_assoc]⟩
  have split : c.nodes = (part ++ [deep]) ++ [id] := by rw [hc]; simp
  refine ⟨?_, ?_, ?_, ?_⟩
  · rw [hc, List.length_append]
    exact Nat.le_add_left ..
  · rw [split, List.getLast?_concat, List.head?_append, hd]
    rfl
  · rw [split, List.dropLast_concat]
    exact (List.nodup_reverse.2 nodup).sublist suffix.sublist
  · rw [split]
    refine List.IsChain.append ?_ (List.isChain_singleton id) ?_
    · exact (List.isChain_reverse.2 hops).suffix suffix
    · intro x hx y hy
      rw [List.getLast?_concat] at hx
      obtain rfl := Option.some.inj hx
      obtain rfl := Option.some.inj hy
      exact last

/-! ## Coherence -/

/-- What holds of a search before and after each step. -/
structure Coherent (s : Search pairs) : Prop where
  path_eq : s.path = s.frames.map Frame.id
  nodup : s.path.Nodup
  mem_onPath : ∀ id, id ∈ s.onPath ↔ id ∈ s.path
  visited_of_path : ∀ id ∈ s.path, id ∈ s.visited
  hops : s.path.IsChain fun x y => (y, x) ∈ pairs
  rest_suffix : ∀ frame ∈ s.frames, frame.rest <:+ Pairs.successors pairs frame.id
  elementary : ∀ c ∈ s.found, c.IsElementary pairs

theorem coherent_start : Coherent (start : Search pairs) := by
  refine ⟨rfl, List.nodup_nil, ?_, ?_, List.isChain_nil, ?_, ?_⟩ <;> simp [start]

section Steps

variable {s : Search pairs} {id next : String} {rest : List String} {below : List Frame}

theorem Coherent.path_of_frames {frame : Frame} (h : Coherent s) (hf : s.frames = frame :: below) :
    s.path = frame.id :: below.map Frame.id := by
  rw [h.path_eq, hf]
  rfl

/-- A successor that is not yet tried is one along a pair. -/
theorem Coherent.next_mem (h : Coherent s) (hf : s.frames = ⟨id, next :: rest⟩ :: below) :
    (id, next) ∈ pairs := by
  have suffix := h.rest_suffix ⟨id, next :: rest⟩ (by simp [hf])
  exact Pairs.mem_successors.1 (suffix.subset (List.mem_cons_self ..))

theorem Coherent.leave (h : Coherent s) (hf : s.frames = ⟨id, []⟩ :: below) :
    Coherent (s.leave hf) := by
  have hp := h.path_of_frames hf
  have tail : (s.leave hf).path = below.map Frame.id := by
    show s.path.tail = _
    rw [hp]
    rfl
  have nodup := h.nodup
  rw [hp, List.nodup_cons] at nodup
  refine ⟨tail, ?_, ?_, ?_, ?_, ?_, h.elementary⟩
  · rw [tail]
    exact nodup.2
  · intro x
    show x ∈ s.onPath.erase id ↔ _
    rw [Std.ExtTreeSet.mem_erase, h.mem_onPath, tail, hp, List.mem_cons, ne_eq,
      Std.compare_eq_iff_eq]
    constructor
    · rintro ⟨hne, he | hx⟩
      · exact absurd he.symm hne
      · exact hx
    · intro hx
      exact ⟨fun he => nodup.1 (by rwa [he]), Or.inr hx⟩
  · intro x hx
    exact h.visited_of_path x (List.mem_of_mem_tail hx)
  · exact h.hops.tail
  · intro frame hm
    exact h.rest_suffix frame (by rw [hf]; exact List.mem_cons_of_mem _ hm)

theorem Coherent.advance (h : Coherent s) (hf : s.frames = ⟨id, next :: rest⟩ :: below) :
    Coherent (s.advance hf) := by
  have path : s.path = id :: below.map Frame.id := h.path_of_frames hf
  refine ⟨path, h.nodup, h.mem_onPath, h.visited_of_path, h.hops, ?_, h.elementary⟩
  · intro frame hm
    rcases List.mem_cons.1 hm with rfl | hm
    · have suffix := h.rest_suffix ⟨id, next :: rest⟩ (by simp [hf])
      exact (List.suffix_cons next rest).trans suffix
    · exact h.rest_suffix frame (by rw [hf]; exact List.mem_cons_of_mem _ hm)

/-- An id that was not visited goes on from the deepest id of the path. -/
theorem Coherent.enter (h : Coherent s) (new : id ∉ s.visited)
    (hop : ∀ deep ∈ s.path.head?, (deep, id) ∈ pairs) : Coherent (s.enter id) := by
  have off : id ∉ s.path := fun hm => new (h.visited_of_path id hm)
  refine ⟨?_, ?_, ?_, ?_, ?_, ?_, h.elementary⟩
  · show id :: s.path = id :: s.frames.map Frame.id
    rw [h.path_eq]
  · exact List.nodup_cons.2 ⟨off, h.nodup⟩
  · intro x
    show x ∈ s.onPath.insert id ↔ x ∈ id :: s.path
    rw [mem_insert, h.mem_onPath, List.mem_cons]
  · intro x hx
    refine mem_insert.2 ?_
    rcases List.mem_cons.1 hx with rfl | hx
    · exact Or.inl rfl
    · exact Or.inr (h.visited_of_path x hx)
  · exact h.hops.cons fun deep hd => hop deep hd
  · intro frame hm
    rcases List.mem_cons.1 hm with rfl | hm
    · exact List.suffix_refl _
    · exact h.rest_suffix frame hm

/-- A tried id closes a cycle if it is on the path, is passed over if it was visited before, and is
entered otherwise. -/
theorem Coherent.attempt_cases (h : Coherent s) (id : String) :
    (id ∈ s.path ∧ ∃ c, Closes s.path id c ∧
      s.attempt id = { s with found := s.found.push c }) ∨
    (id ∉ s.path ∧ id ∈ s.visited ∧ s.attempt id = s) ∨
    (id ∉ s.visited ∧ s.attempt id = s.enter id) := by
  by_cases on : id ∈ s.onPath
  · have mem := (h.mem_onPath id).1 on
    obtain ⟨c, hc, closes⟩ := closed?_of_mem mem
    refine Or.inl ⟨mem, c, closes, ?_⟩
    unfold attempt
    rw [if_pos on, hc]
  · by_cases seen : id ∈ s.visited
    · refine Or.inr (Or.inl ⟨fun hm => on ((h.mem_onPath id).2 hm), seen, ?_⟩)
      unfold attempt
      rw [if_neg on, if_pos seen]
    · refine Or.inr (Or.inr ⟨seen, ?_⟩)
      unfold attempt
      rw [if_neg on, if_neg seen]

theorem Coherent.attempt (h : Coherent s) {deep : String} {above : List String}
    (hp : s.path = deep :: above) (hop : (deep, id) ∈ pairs) : Coherent (s.attempt id) := by
  obtain ⟨-, c, closes, he⟩ | ⟨-, -, he⟩ | ⟨new, he⟩ := h.attempt_cases id
  · rw [he]
    refine ⟨h.path_eq, h.nodup, h.mem_onPath, h.visited_of_path, h.hops, h.rest_suffix, ?_⟩
    intro c' hc'
    rcases Array.mem_push.1 hc' with hc' | rfl
    · exact h.elementary c' hc'
    · have nodup := h.nodup
      have hops := h.hops
      rw [hp] at closes nodup hops
      exact closes.isElementary nodup hops hop
  · rwa [he]
  · rw [he]
    refine h.enter new ?_
    intro d hd
    rw [hp] at hd
    obtain rfl := Option.some.inj hd
    exact hop

end Steps

theorem Coherent.step {s t : Search pairs} (h : Coherent s) (ht : s.step? = some t) :
    Coherent t := by
  obtain ⟨id, below, hf, rfl⟩ | ⟨id, next, rest, below, hf, rfl⟩ := step_cases ht
  · exact h.leave hf
  · exact (h.advance hf).attempt (h.path_of_frames hf) (h.next_mem hf)

/-! ## Runs -/

/-- What every step keeps holds at the end of a run. -/
theorem run_induction {motive : Search pairs → Prop}
    (step : ∀ s t, s.step? = some t → motive s → motive t) (s : Search pairs) (h : motive s) :
    motive s.run := by
  fun_induction run s with
  | case1 s hs => exact h
  | case2 s t hs ih => exact ih (step s t hs h)

theorem frames_run (s : Search pairs) : s.run.frames = [] := by
  fun_induction run s with
  | case1 s hs => exact frames_of_step?_eq_none hs
  | case2 s t hs ih => exact ih

theorem step?_of_idle {s : Search pairs} (idle : s.frames = []) : s.step? = none := by
  rcases h : s.step? with _ | t
  · rfl
  · obtain ⟨id, below, hf, -⟩ | ⟨id, next, rest, below, hf, -⟩ := step_cases h
    · cases idle.symm.trans hf
    · cases idle.symm.trans hf

theorem run_of_idle {s : Search pairs} (idle : s.frames = []) : s.run = s := by
  rw [run]
  split
  · rfl
  · rename_i ht
    cases (step?_of_idle idle).symm.trans ht

theorem run_of_step {s t : Search pairs} (ht : s.step? = some t) : s.run = t.run := by
  rw [run]
  split
  · rename_i hs
    cases ht.symm.trans hs
  · rename_i t' ht'
    obtain rfl := Option.some.inj (ht.symm.trans ht')
    rfl

theorem visited_attempt {s : Search pairs} {id x : String} (h : x ∈ s.visited) :
    x ∈ (s.attempt id).visited := by
  unfold attempt
  split
  · split <;> exact h
  · split
    · exact h
    · exact mem_insert.2 (Or.inr h)

theorem visited_step {s t : Search pairs} (ht : s.step? = some t) {x : String}
    (h : x ∈ s.visited) : x ∈ t.visited := by
  obtain ⟨id, below, hf, rfl⟩ | ⟨id, next, rest, below, hf, rfl⟩ := step_cases ht
  · exact h
  · exact visited_attempt h

/-- No id is forgotten. -/
theorem visited_run {s : Search pairs} {x : String} (h : x ∈ s.visited) : x ∈ s.run.visited :=
  run_induction (motive := fun s => x ∈ s.visited) (fun _ _ ht hx => visited_step ht hx) s h

theorem visited_explore {s : Search pairs} {root x : String} (h : x ∈ s.visited ∨ x = root) :
    x ∈ (s.explore root).visited := by
  unfold explore
  split
  · rename_i seen
    rcases h with h | rfl
    · exact h
    · exact seen
  · refine visited_run (mem_insert.2 ?_)
    exact h.symm

theorem frames_explore {s : Search pairs} (idle : s.frames = []) (root : String) :
    (s.explore root).frames = [] := by
  unfold explore
  split
  · exact idle
  · exact frames_run _

theorem Coherent.path_of_idle {s : Search pairs} (h : Coherent s) (idle : s.frames = []) :
    s.path = [] := by
  rw [h.path_eq, idle]
  rfl

/-- Whether nothing is on the path. -/
structure Idle (s : Search pairs) : Prop where
  frames : s.frames = []
  path : s.path = []
  onPath : s.onPath = ∅

theorem Coherent.idle {s : Search pairs} (h : Coherent s) (idle : s.frames = []) : Idle s := by
  have path := h.path_of_idle idle
  refine ⟨idle, path, Std.ExtTreeSet.eq_empty_iff_forall_not_mem.2 fun id hid => ?_⟩
  rw [h.mem_onPath, path] at hid
  cases hid

theorem Coherent.enter_root {s : Search pairs} (h : Coherent s) (idle : s.frames = [])
    {root : String} (new : root ∉ s.visited) : Coherent (s.enter root) := by
  refine h.enter new fun deep hd => ?_
  rw [h.path_of_idle idle] at hd
  cases hd

/-- The search from one more start keeps what the start and every step keep. -/
theorem explore_induction {motive : Search pairs → Prop} {s : Search pairs} {root : String}
    (enter : root ∉ s.visited → motive (s.enter root))
    (step : ∀ s t, s.step? = some t → motive s → motive t) (h : motive s) :
    motive (s.explore root) := by
  unfold explore
  split
  · exact h
  · rename_i new
    exact run_induction step _ (enter new)

/-- The search that the cycles of a relation are found by. -/
def whole (pairs : Pairs) : Search pairs := (Pairs.ids pairs).foldl explore start

/-- What holds of the start and is kept by the search from one more start, between the starts where
the stack is empty, holds after any starts. -/
theorem foldl_induction {motive : Search pairs → Prop} (base : motive start)
    (explore : ∀ (s : Search pairs) (root : String), s.frames = [] → motive s →
      motive (s.explore root)) (roots : List String) : motive (roots.foldl Search.explore start) := by
  have go : ∀ (ids : List String) (s : Search pairs), s.frames = [] → motive s →
      motive (ids.foldl Search.explore s) := by
    intro ids
    induction ids with
    | nil => exact fun s _ h => h
    | cons root rest ih =>
      exact fun s idle h => ih _ (frames_explore idle root) (explore s root idle h)
  exact go roots start rfl base

theorem frames_foldl (roots : List String) :
    (roots.foldl explore (start : Search pairs)).frames = [] :=
  foldl_induction (motive := fun s => s.frames = []) rfl
    (fun _ root idle _ => frames_explore idle root) roots

theorem coherent_foldl (roots : List String) :
    Coherent (roots.foldl explore (start : Search pairs)) :=
  foldl_induction coherent_start
    (fun _ _ idle h => explore_induction (h.enter_root idle) (fun _ _ ht h => h.step ht) h) roots

/-- What the search from one more start keeps holds at the end. -/
theorem whole_induction {motive : Search pairs → Prop} (base : motive start)
    (explore : ∀ (s : Search pairs) (root : String), s.frames = [] → motive s →
      motive (s.explore root)) : motive (whole pairs) :=
  foldl_induction base explore (Pairs.ids pairs)

theorem frames_whole (pairs : Pairs) : (whole pairs).frames = [] := frames_foldl _

theorem coherent_whole (pairs : Pairs) : Coherent (whole pairs) := coherent_foldl _

/-- Every id of the relation is visited. -/
theorem visited_whole {id : String} (h : id ∈ Pairs.ids pairs) : id ∈ (whole pairs).visited := by
  have go : ∀ (ids : List String) (s : Search pairs), id ∈ s.visited ∨ id ∈ ids →
      id ∈ (ids.foldl explore s).visited := by
    intro ids
    induction ids with
    | nil => exact fun s h => h.resolve_right List.not_mem_nil
    | cons root rest ih =>
      intro s h
      refine ih _ ?_
      rcases h with h | h
      · exact Or.inl (visited_explore (Or.inl h))
      · rcases List.mem_cons.1 h with rfl | h
        · exact Or.inl (visited_explore (Or.inr rfl))
        · exact Or.inr h
  exact go _ start (Or.inr h)

end Search

namespace Pairs

theorem mem_cycles {pairs : Pairs} {c : Cycle} :
    c ∈ cycles pairs ↔ c ∈ (Search.whole pairs).found := Array.mem_toList_iff

/-- Every cycle that is found is elementary. -/
theorem isElementary_of_mem_cycles {pairs : Pairs} {c : Cycle} (h : c ∈ cycles pairs) :
    c.IsElementary pairs :=
  (Search.coherent_whole pairs).elementary c (mem_cycles.1 h)

/-- **Soundness.** Every cycle that is found is closed, follows the pairs from entry to entry, and
comes to no id twice before its end. -/
theorem cycles_sound (pairs : Pairs) :
    ∀ c ∈ cycles pairs, 2 ≤ c.nodes.length ∧ c.nodes.head? = c.nodes.getLast? ∧
      c.nodes.dropLast.Nodup ∧
      ∀ (i : Nat) (_ : i + 1 < c.nodes.length), (c.nodes[i], c.nodes[i + 1]) ∈ pairs := by
  intro c hc
  obtain ⟨two, closed, nodup, hops⟩ := isElementary_of_mem_cycles hc
  exact ⟨two, closed, nodup, List.isChain_iff_getElem.1 hops⟩

/-- Two cycles through one id, behind an entry that lies on none. -/
theorem cycles_sound_entry :
    ⟨["a", "c", "a"]⟩ ∈ cycles [("e", "a"), ("a", "b"), ("b", "a"), ("a", "c"), ("c", "a")] ∧
    2 ≤ ["a", "c", "a"].length ∧ ["a", "c", "a"].head? = ["a", "c", "a"].getLast? ∧
    ["a", "c", "a"].dropLast.Nodup ∧
    ∀ (i : Nat) (_ : i + 1 < ["a", "c", "a"].length), (["a", "c", "a"][i], ["a", "c", "a"][i + 1]) ∈
      [("e", "a"), ("a", "b"), ("b", "a"), ("a", "c"), ("c", "a")] := by
  have found : ⟨["a", "c", "a"]⟩ ∈
      cycles [("e", "a"), ("a", "b"), ("b", "a"), ("a", "c"), ("c", "a")] := by
    decide +kernel
  exact ⟨found, cycles_sound _ _ found⟩

end Pairs

end CodeAtlas
