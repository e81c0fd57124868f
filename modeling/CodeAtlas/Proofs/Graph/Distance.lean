import CodeAtlas.Proofs.Graph.Distinct
import CodeAtlas.Proofs.Graph.Queue
import Mathlib.Logic.Relation
import Mathlib.Order.Nat

/-!
# Distances

The distance of an id is the number of edges on a shortest walk to it. The levels of a reach are the
ids at distance 1, 2 and so on: an id is first seen one level after the last id before it on a
shortest walk.

1. `Walk`, `distance`: walks along edges of a kind, and the length of a shortest one.
2. `IsDistance.exists_pred`, `IsDistance.exists_of_le`: on a shortest walk no distance is left out.
3. `layered_levels`: the levels are the ids at each distance.
4. `reach_breadthFirst`: what this says of a reach.
-/

namespace CodeAtlas.Graph

open Relation (TransGen)

/-! ## Walks and distances -/

/-- Whether an edge of a kind joins two ids. -/
def Joins (g : Graph) (kind : EdgeKind) (x y : String) : Prop := ⟨x, y, kind⟩ ∈ g.edges.toList

/-- Whether a number of edges of a kind lead from `x` to an id, one after the other. -/
inductive Walk (g : Graph) (kind : EdgeKind) (x : String) : Nat → String → Prop where
  | here : Walk g kind x 0 x
  | edge {n : Nat} {y z : String} (walk : Walk g kind x n y) (joins : g.Joins kind y z) :
      Walk g kind x (n + 1) z

/-- The length of a shortest walk from `x` to `y`, and zero if there is none. -/
noncomputable def distance (g : Graph) (kind : EdgeKind) (x y : String) : Nat :=
  sInf {n | Walk g kind x n y}

/-- Whether there is a walk of this length and none is shorter. -/
structure IsDistance (g : Graph) (kind : EdgeKind) (x y : String) (n : Nat) : Prop where
  walk : Walk g kind x n y
  le : ∀ m, Walk g kind x m y → n ≤ m

variable {g : Graph} {kind : EdgeKind} {x y z : String} {m n : Nat}

theorem Walk.isDistance (h : Walk g kind x n y) : IsDistance g kind x y (g.distance kind x y) where
  walk := Nat.sInf_mem (s := {n | Walk g kind x n y}) ⟨n, h⟩
  le _ hm := Nat.sInf_le hm

theorem Walk.distance_le (h : Walk g kind x n y) : g.distance kind x y ≤ n := Nat.sInf_le h

theorem IsDistance.distance_eq (h : IsDistance g kind x y n) : g.distance kind x y = n :=
  Nat.le_antisymm h.walk.distance_le (h.le _ h.walk.isDistance.walk)

theorem Walk.transGen (h : Walk g kind x (n + 1) y) : TransGen (g.Joins kind) x y := by
  generalize hm : n + 1 = m at h
  induction h generalizing n with
  | here => cases hm
  | @edge k y z walk joins ih =>
    obtain rfl := Nat.succ.inj hm
    cases n with
    | zero =>
      cases walk
      exact TransGen.single joins
    | succ n => exact (ih rfl).tail joins

theorem exists_walk (h : TransGen (g.Joins kind) x y) : ∃ n, Walk g kind x (n + 1) y := by
  induction h with
  | single joins => exact ⟨0, .edge .here joins⟩
  | tail _ joins ih =>
    obtain ⟨n, walk⟩ := ih
    exact ⟨n + 1, .edge walk joins⟩

theorem isDistance_zero_iff : IsDistance g kind x y 0 ↔ y = x := by
  constructor
  · intro h
    cases h.walk
    rfl
  · rintro rfl
    exact ⟨.here, fun m _ => Nat.zero_le m⟩

/-- The last id before the end of a shortest walk is one edge nearer. -/
theorem IsDistance.exists_pred (h : IsDistance g kind x z (n + 1)) :
    ∃ y, IsDistance g kind x y n ∧ g.Joins kind y z := by
  cases h.walk with
  | @edge _ y _ walk joins =>
    refine ⟨y, ⟨walk, fun m other => ?_⟩, joins⟩
    exact Nat.le_of_succ_le_succ (h.le (m + 1) (.edge other joins))

/-- On the way to an id every smaller distance occurs. -/
theorem IsDistance.exists_of_le (h : IsDistance g kind x y n) (hm : m ≤ n) :
    ∃ z, IsDistance g kind x z m := by
  induction n generalizing y with
  | zero =>
    obtain rfl := Nat.le_zero.1 hm
    exact ⟨y, h⟩
  | succ n ih =>
    rcases Nat.of_le_succ hm with hm | rfl
    · obtain ⟨z, hz, -⟩ := h.exists_pred
      exact ih hz hm
    · exact ⟨y, h⟩

/-- The ids at some distance but zero are the other ids that are reached. -/
theorem exists_isDistance_iff :
    (∃ n, 1 ≤ n ∧ IsDistance g kind x y n) ↔ y ≠ x ∧ TransGen (g.Joins kind) x y := by
  constructor
  · rintro ⟨n, pos, h⟩
    obtain ⟨k, rfl⟩ := Nat.exists_eq_add_of_le' pos
    refine ⟨?_, h.walk.transGen⟩
    rintro rfl
    exact absurd (h.le 0 .here) (Nat.not_succ_le_zero k)
  · rintro ⟨hne, h⟩
    obtain ⟨n, walk⟩ := exists_walk h
    refine ⟨_, Nat.one_le_iff_ne_zero.2 fun hz => hne ?_, walk.isDistance⟩
    have := walk.isDistance
    rw [hz] at this
    exact isDistance_zero_iff.1 this

/-! ## Levels -/

/-- Whether lists hold the ids at distance `n`, `n + 1` and so on up to the last distance. -/
def Layered (g : Graph) (x : String) : Nat → List (List String) → Prop
  | n, [] => ∀ y, ¬ IsDistance g .calls x y n
  | n, level :: further =>
    level ≠ [] ∧ (∀ y, y ∈ level ↔ IsDistance g .calls x y n) ∧ Layered g x (n + 1) further

/-- Whether the seen ids are those up to distance `n`, and a level those at distance `n`. -/
structure Surveyed (g : Graph) (x : String) (n : Nat) (seen level : List String) : Prop where
  mem_seen : ∀ y, y ∈ seen ↔ ∃ m ≤ n, Walk g .calls x m y
  mem_level : ∀ y, y ∈ level ↔ IsDistance g .calls x y n

theorem surveyed_start (g : Graph) (x : String) : Surveyed g x 0 [x] [x] := by
  refine ⟨fun y => ?_, fun y => ?_⟩
  · rw [List.mem_singleton]
    constructor
    · rintro rfl
      exact ⟨0, Nat.le_refl 0, .here⟩
    · rintro ⟨m, hm, walk⟩
      obtain rfl := Nat.le_zero.1 hm
      cases walk
      rfl
  · rw [List.mem_singleton, isDistance_zero_iff]

variable {seen level : List String}

/-- The next level holds the ids that are one edge further away. -/
theorem Surveyed.mem_nextLevel (h : Surveyed g x n seen level) (y : String) :
    y ∈ g.nextLevel seen level ↔ IsDistance g .calls x y (n + 1) := by
  rw [Graph.mem_nextLevel, h.mem_seen]
  constructor
  · rintro ⟨⟨z, hz, joins⟩, far⟩
    refine ⟨.edge ((h.mem_level z).1 hz).walk joins, fun m walk => ?_⟩
    exact Nat.lt_of_not_le fun hm => far ⟨m, hm, walk⟩
  · intro hy
    obtain ⟨z, hz, joins⟩ := hy.exists_pred
    refine ⟨⟨z, (h.mem_level z).2 hz, joins⟩, ?_⟩
    rintro ⟨m, hm, walk⟩
    exact absurd (hy.le m walk) (Nat.not_le_of_lt (Nat.lt_succ_of_le hm))

theorem Surveyed.next (h : Surveyed g x n seen level) :
    Surveyed g x (n + 1) (seen ++ g.nextLevel seen level) (g.nextLevel seen level) := by
  refine ⟨fun y => ?_, h.mem_nextLevel⟩
  rw [List.mem_append, h.mem_seen, h.mem_nextLevel]
  constructor
  · rintro (⟨m, hm, walk⟩ | hy)
    · exact ⟨m, Nat.le_succ_of_le hm, walk⟩
    · exact ⟨n + 1, Nat.le_refl _, hy.walk⟩
  · rintro ⟨m, hm, walk⟩
    have near := Nat.le_trans walk.distance_le hm
    rcases Nat.of_le_succ near with near | last
    · exact Or.inl ⟨_, near, walk.isDistance.walk⟩
    · have hy := walk.isDistance
      rw [last] at hy
      exact Or.inr hy

/-- The levels that follow are the ids at the distances that follow. -/
theorem Surveyed.layered (h : Surveyed g x n seen level) :
    Layered g x (n + 1) (g.levels seen level) := by
  fun_induction g.levels seen level generalizing n with
  | case1 seen level last =>
    intro y hy
    have := (h.mem_nextLevel y).2 hy
    rw [last] at this
    cases this
  | case2 seen level more ih => exact ⟨more, h.mem_nextLevel, ih h.next⟩

theorem layered_levels (g : Graph) (x : String) : Layered g x 1 (g.levels [x] [x]) :=
  (surveyed_start g x).layered

/-! ## All levels together -/

variable {ls : List (List String)}

theorem Layered.mem_flatten (h : Layered g x n ls) (y : String) :
    y ∈ ls.flatten ↔ ∃ m, n ≤ m ∧ IsDistance g .calls x y m := by
  induction ls generalizing n with
  | nil =>
    rw [List.flatten_nil]
    refine ⟨fun hy => absurd hy List.not_mem_nil, ?_⟩
    rintro ⟨m, hm, hy⟩
    obtain ⟨z, hz⟩ := hy.exists_of_le hm
    exact absurd hz (h z)
  | cons level further ih =>
    obtain ⟨-, mem, later⟩ := h
    rw [List.flatten_cons, List.mem_append, mem, ih later]
    constructor
    · rintro (hy | ⟨m, hm, hy⟩)
      · exact ⟨n, Nat.le_refl n, hy⟩
      · exact ⟨m, Nat.le_of_succ_le hm, hy⟩
    · rintro ⟨m, hm, hy⟩
      rcases Nat.eq_or_lt_of_le hm with rfl | hm
      · exact Or.inl hy
      · exact Or.inr ⟨m, hm, hy⟩

/-- No id of the levels is nearer than the first one. -/
theorem Layered.le_distance (h : Layered g x n ls) (hy : y ∈ ls.flatten) :
    n ≤ g.distance .calls x y := by
  obtain ⟨m, hm, hd⟩ := (h.mem_flatten y).1 hy
  rwa [hd.distance_eq]

/-- Distances never decrease along the levels. -/
theorem Layered.pairwise (h : Layered g x n ls) :
    ls.flatten.Pairwise fun y z => g.distance .calls x y ≤ g.distance .calls x z := by
  induction ls generalizing n with
  | nil => exact List.Pairwise.nil
  | cons level further ih =>
    obtain ⟨-, mem, later⟩ := h
    have here : ∀ y ∈ level, g.distance .calls x y = n := fun y hy => ((mem y).1 hy).distance_eq
    rw [List.flatten_cons, List.pairwise_append]
    refine ⟨List.pairwise_of_forall_mem_list fun y hy z hz => ?_, ih later, fun y hy z hz => ?_⟩
    · exact Nat.le_of_eq ((here y hy).trans (here z hz).symm)
    · rw [here y hy]
      exact Nat.le_of_succ_le (later.le_distance hz)

/-- The ids at the first distance are the first level. -/
theorem Layered.filter_distance (h : Layered g x n ls) :
    ls.flatten.filter (g.distance .calls x · = n) = ls.headD [] := by
  cases ls with
  | nil => rfl
  | cons level further =>
    obtain ⟨-, mem, later⟩ := h
    have here : level.filter (g.distance .calls x · = n) = level :=
      List.filter_eq_self.2 fun y hy => decide_eq_true ((mem y).1 hy).distance_eq
    have there : further.flatten.filter (g.distance .calls x · = n) = [] := by
      refine List.filter_eq_nil_iff.2 fun y hy he => ?_
      have := later.le_distance hy
      rw [of_decide_eq_true he] at this
      exact absurd this (Nat.not_succ_le_self n)
    rw [List.flatten_cons, List.filter_append, here, there, List.append_nil]
    rfl

/-- No id of the levels is further away than the last level, where there are some. -/
theorem Layered.distance_lt (h : Layered g x n ls) (hy : y ∈ ls.flatten) :
    g.distance .calls x y < n + ls.length := by
  induction ls generalizing n with
  | nil => cases hy
  | cons level further ih =>
    obtain ⟨-, mem, later⟩ := h
    rw [List.length_cons]
    rcases List.mem_append.1 hy with hy | hy
    · rw [((mem y).1 hy).distance_eq]
      omega
    · have := ih later hy
      omega

theorem Layered.exists_distance (h : Layered g x n ls) (some : ls ≠ []) :
    ∃ y ∈ ls.flatten, g.distance .calls x y + 1 = n + ls.length := by
  induction ls generalizing n with
  | nil => exact absurd rfl some
  | cons level further ih =>
    obtain ⟨nonempty, mem, later⟩ := h
    by_cases more : further = []
    · obtain ⟨y, hy⟩ := List.exists_mem_of_ne_nil _ nonempty
      refine ⟨y, List.mem_append_left _ hy, ?_⟩
      rw [((mem y).1 hy).distance_eq, more]
      rfl
    · obtain ⟨y, hy, hd⟩ := ih later more
      refine ⟨y, List.mem_append_right _ hy, ?_⟩
      rw [hd, List.length_cons]
      omega

/-! ## The reach -/

/-- Whether a reach lists the ids that are reached from a start along calls, each once and nearer
ones first, and how far away they are. -/
structure BreadthFirst (g : Graph) (x : String) (r : Reach) : Prop where
  mem_iff : ∀ y, y ∈ r.functions ↔ y ≠ x ∧ TransGen (g.Joins .calls) x y
  nodup : r.functions.Nodup
  nearer_first : r.functions.Pairwise fun y z => g.distance .calls x y ≤ g.distance .calls x z
  nearest : r.functions.filter (g.distance .calls x · = 1) = (g.callers x).filter (· ≠ x)
  distance_le : ∀ y ∈ r.functions, g.distance .calls x y ≤ r.depth
  exists_distance : r.functions ≠ [] → ∃ y ∈ r.functions, g.distance .calls x y = r.depth
  depth_eq_zero_iff : r.depth = 0 ↔ r.functions = []

theorem reach_of_function (h : g.hasKind .function x = true) :
    (g.reach x).functions = (g.levels [x] [x]).flatten ∧
      (g.reach x).depth = (g.levels [x] [x]).length := by
  rw [reach, if_pos h]
  exact ⟨rfl, rfl⟩

/-- The first level holds the callers of the start. -/
theorem headD_levels (g : Graph) (x : String) :
    (g.levels [x] [x]).headD [] = (g.callers x).filter (· ≠ x) := by
  have first : (g.levels [x] [x]).headD [] = g.nextLevel [x] [x] := by
    rw [levels]
    split
    · rename_i none
      rw [none]
      rfl
    · rfl
  rw [first, nextLevel, List.flatMap_singleton, eraseDups_filter]
  refine List.filter_congr fun y _ => ?_
  simp

/-- **Reachability in breadth.** The reach of a function, which a search with a queue finds, lists
what is reached from it along calls, nearest first; that of any other id is empty. -/
theorem reach_breadthFirst (g : Graph) (x : String) :
    g.reach x = g.swept x ∧
    (g.hasKind .function x = true → BreadthFirst g x (g.reach x)) ∧
    (g.hasKind .function x = false → g.reach x = {}) := by
  refine ⟨g.reach_eq_swept x, fun known => ?_, fun other => ?_⟩
  · obtain ⟨functions, depth⟩ := reach_of_function known
    have layered := layered_levels g x
    refine ⟨fun y => ?_, g.nodup_functions_reach x, ?_, ?_, fun y hy => ?_, fun some => ?_, ?_⟩
    · rw [functions, layered.mem_flatten, exists_isDistance_iff]
    · rw [functions]
      exact layered.pairwise
    · rw [functions, layered.filter_distance, headD_levels]
    · rw [functions] at hy
      have := layered.distance_lt hy
      omega
    · rw [functions] at some ⊢
      obtain ⟨y, hy, hd⟩ := layered.exists_distance fun none => some (by rw [none]; rfl)
      exact ⟨y, hy, by omega⟩
    · rw [functions, depth, List.length_eq_zero_iff]
      constructor
      · intro none
        rw [none]
        rfl
      · intro none
        by_contra some
        obtain ⟨y, hy, -⟩ := layered.exists_distance some
        rw [none] at hy
        cases hy
  · rw [reach, if_neg (by simp [other])]

/-- A function that calls itself, another one on a cycle with it, and a caller without a node. -/
def entangled : Graph :=
  (empty.addNodes [.function "f" ⟨"f", "a.rs", 1, []⟩, .function "h" ⟨"h", "b.rs", 1, []⟩]).addEdges
    [⟨"f", "f", .calls⟩, ⟨"f", "h", .calls⟩, ⟨"h", "f", .calls⟩, ⟨"h", "lost", .calls⟩]

theorem reach_breadthFirst_entangled :
    (entangled.hasKind .function "f" = true ∧
      BreadthFirst entangled "f" (entangled.reach "f")) ∧
    (entangled.hasKind .function "lost" = false ∧ entangled.reach "lost" = {}) := by
  have known : entangled.hasKind .function "f" = true := by decide +kernel
  have lost : entangled.hasKind .function "lost" = false := by decide +kernel
  exact ⟨⟨known, (reach_breadthFirst entangled "f").2.1 known⟩,
    ⟨lost, (reach_breadthFirst entangled "lost").2.2 lost⟩⟩

end CodeAtlas.Graph
