import Std.Data.ExtTreeSet
import CodeAtlas.Graph.Basic

/-!
# Cycles

A search in depth finds the cycles of a relation that is given as a list of pairs. It starts from
each id in order of first appearance that no earlier search came to, and tries the successors of an
id in the order of their pairs. Whenever a successor lies on the path from the start, the path from
there on and the successor again are a cycle.

The search keeps its own stack of frames, so that the length of a path is not bounded by the stack
of the machine. A step handles one successor or takes a frame off; `Search.work` bounds the steps.
-/

namespace CodeAtlas

/-- A closed walk: the first id is repeated at the end. -/
structure Cycle where
  nodes : List String
deriving DecidableEq, Repr

namespace Cycle

/-- The number of hops. -/
def length (c : Cycle) : Nat := c.nodes.length - 1

/-- Whether there is no hop. -/
def isEmpty (c : Cycle) : Bool := c.length == 0

/-- The ids without the closing one. -/
def opened (c : Cycle) : List String := c.nodes.take c.length

/-- The ids of a sequence without the last one, if there are several and the last one closes it. -/
def openOf : List String → List String
  | [] => []
  | first :: rest =>
    if rest.getLast? = some first then first :: rest.dropLast else first :: rest

/-- Whether a sequence, open or closed, is the cycle read from any of its ids on. -/
def sameAs (c : Cycle) (other : List String) : Bool :=
  c.opened.length == (openOf other).length &&
    (List.range c.opened.length).any fun n =>
      c.opened.drop n ++ c.opened.take n == openOf other

end Cycle

/-- A relation on ids, pair by pair; a pair may be repeated. -/
abbrev Pairs : Type := List (String × String)

namespace Pairs

/-- The ids of the pairs in order of first appearance. -/
def ids (pairs : Pairs) : List String := (pairs.flatMap fun p => [p.1, p.2]).eraseDups

/-- The successors of an id, pair by pair. -/
def successors (pairs : Pairs) (id : String) : List String :=
  (pairs.filter (·.1 == id)).map Prod.snd

theorem mem_ids {pairs : Pairs} {id : String} :
    id ∈ ids pairs ↔ ∃ p ∈ pairs, id = p.1 ∨ id = p.2 := by
  simp [ids, List.mem_eraseDups, List.mem_flatMap]

theorem mem_successors {pairs : Pairs} {x y : String} :
    y ∈ successors pairs x ↔ (x, y) ∈ pairs := by
  simp [successors, List.mem_map, List.mem_filter]

theorem mem_ids_of_mem_successors {pairs : Pairs} {x y : String} (h : y ∈ successors pairs x) :
    y ∈ ids pairs :=
  mem_ids.2 ⟨_, mem_successors.1 h, Or.inr rfl⟩

end Pairs

/-- An id on the path and its successors that are not yet tried. -/
structure Frame where
  id : String
  rest : List String
deriving DecidableEq, Repr

/-- A search in depth over the pairs of a relation. -/
structure Search (pairs : Pairs) where
  /-- The ids that were entered. -/
  visited : Std.ExtTreeSet String
  /-- The ids on the path. -/
  onPath : Std.ExtTreeSet String
  /-- The path from the start, the deepest id first. -/
  path : List String
  /-- The frames of the ids on the path, the deepest first. -/
  frames : List Frame
  /-- The cycles found so far. -/
  found : Array Cycle
  rest_known : ∀ frame ∈ frames, ∀ id ∈ frame.rest, id ∈ Pairs.ids pairs

namespace Search

variable {pairs : Pairs}

/-- The search before its first step. -/
def start : Search pairs := ⟨∅, ∅, [], [], #[], by simp⟩

/-- Enters an id: it is visited, and the path goes on through it. -/
def enter (s : Search pairs) (id : String) : Search pairs where
  visited := s.visited.insert id
  onPath := s.onPath.insert id
  path := id :: s.path
  frames := ⟨id, Pairs.successors pairs id⟩ :: s.frames
  found := s.found
  rest_known := by
    intro frame hf x hx
    rcases List.mem_cons.1 hf with rfl | hf
    · exact Pairs.mem_ids_of_mem_successors hx
    · exact s.rest_known frame hf x hx

/-- The part of a path, deepest id first, that an id on it closes, read from that id on. -/
def closed? (path : List String) (id : String) : Option Cycle :=
  match path.reverse.idxOf? id with
  | none => none
  | some i => some ⟨path.reverse.drop i ++ [id]⟩

/-- Tries a successor: one on the path closes a cycle, and one not visited is entered. -/
def attempt (s : Search pairs) (id : String) : Search pairs :=
  if id ∈ s.onPath then
    match closed? s.path id with
    | none => s
    | some cycle => { s with found := s.found.push cycle }
  else if id ∈ s.visited then s
  else s.enter id

/-- Leaves the deepest id, which has no successor left. -/
def leave (s : Search pairs) {id : String} {below : List Frame}
    (h : s.frames = ⟨id, []⟩ :: below) : Search pairs where
  visited := s.visited
  onPath := s.onPath.erase id
  path := s.path.tail
  frames := below
  found := s.found
  rest_known := fun frame hf => s.rest_known frame (h ▸ List.mem_cons_of_mem _ hf)

/-- Takes the next successor off the frame of the deepest id. -/
def advance (s : Search pairs) {id next : String} {rest : List String} {below : List Frame}
    (h : s.frames = ⟨id, next :: rest⟩ :: below) : Search pairs where
  visited := s.visited
  onPath := s.onPath
  path := s.path
  frames := ⟨id, rest⟩ :: below
  found := s.found
  rest_known := by
    intro frame hf x hx
    rcases List.mem_cons.1 hf with rfl | hf
    · exact s.rest_known ⟨id, next :: rest⟩ (by simp [h]) x (List.mem_cons_of_mem _ hx)
    · exact s.rest_known frame (by simp [h, hf]) x hx

/-- One step: tries the next successor of the deepest id, or leaves that id if none is left. -/
def step? (s : Search pairs) : Option (Search pairs) :=
  match h : s.frames with
  | [] => none
  | ⟨_, []⟩ :: _ => some (s.leave h)
  | ⟨_, next :: _⟩ :: _ => some ((s.advance h).attempt next)

/-- A step leaves the deepest id or tries its next successor. -/
theorem step_cases {s t : Search pairs} (h : s.step? = some t) :
    (∃ (id : String) (below : List Frame) (hf : s.frames = ⟨id, []⟩ :: below), t = s.leave hf) ∨
      ∃ (id next : String) (rest : List String) (below : List Frame)
        (hf : s.frames = ⟨id, next :: rest⟩ :: below), t = (s.advance hf).attempt next := by
  unfold step? at h
  split at h
  · cases h
  · rename_i id below hf
    exact Or.inl ⟨id, below, hf, (Option.some.inj h).symm⟩
  · rename_i id next rest below hf
    exact Or.inr ⟨id, next, rest, below, hf, (Option.some.inj h).symm⟩

theorem frames_of_step?_eq_none {s : Search pairs} (h : s.step? = none) : s.frames = [] := by
  unfold step? at h
  split at h
  · assumption
  · cases h
  · cases h

/-! ## The steps end -/

/-- What a list of ids can still cost: two steps for each id that is not visited, and one for each
of its successors. -/
def ahead (pairs : Pairs) (visited : Std.ExtTreeSet String) : List String → Nat
  | [] => 0
  | id :: rest =>
    (if id ∈ visited then 0 else 2 + (Pairs.successors pairs id).length) + ahead pairs visited rest

/-- What the open frames still cost. -/
def pending : List Frame → Nat
  | [] => 0
  | frame :: frames => 1 + frame.rest.length + pending frames

/-- A bound on the steps that are left. -/
def work (s : Search pairs) : Nat :=
  ahead pairs s.visited (Pairs.ids pairs) + pending s.frames

theorem mem_insert {visited : Std.ExtTreeSet String} {id x : String} :
    x ∈ visited.insert id ↔ x = id ∨ x ∈ visited := by
  rw [Std.ExtTreeSet.mem_insert, Std.compare_eq_iff_eq]
  exact or_congr_left eq_comm

theorem ahead_insert_le (pairs : Pairs) (visited : Std.ExtTreeSet String) (id : String)
    (ids : List String) : ahead pairs (visited.insert id) ids ≤ ahead pairs visited ids := by
  induction ids with
  | nil => exact Nat.le_refl _
  | cons x rest ih =>
    simp only [ahead, mem_insert]
    by_cases seen : x ∈ visited
    · simp only [seen, or_true, if_true]
      omega
    · by_cases hx : x = id
      · simp only [hx, true_or, if_true]
        omega
      · simp only [hx, seen, or_self, if_false]
        omega

theorem ahead_insert (pairs : Pairs) (visited : Std.ExtTreeSet String) {id : String}
    (hid : id ∉ visited) {ids : List String} (hmem : id ∈ ids) :
    ahead pairs (visited.insert id) ids + (2 + (Pairs.successors pairs id).length) ≤
      ahead pairs visited ids := by
  induction ids with
  | nil => cases hmem
  | cons x rest ih =>
    simp only [ahead, mem_insert]
    by_cases hx : x = id
    · subst hx
      have hle := ahead_insert_le pairs visited x rest
      simp only [true_or, if_true, hid, if_false]
      omega
    · have hrest := ih ((List.mem_cons.1 hmem).resolve_left (Ne.symm hx))
      simp only [hx, false_or]
      omega

theorem work_enter_lt (s : Search pairs) {id : String} (hid : id ∉ s.visited)
    (hmem : id ∈ Pairs.ids pairs) : (s.enter id).work < s.work := by
  have := ahead_insert pairs s.visited hid hmem
  simp only [work, enter, pending] at this ⊢
  omega

theorem work_attempt_le (s : Search pairs) {id : String} (hmem : id ∈ Pairs.ids pairs) :
    (s.attempt id).work ≤ s.work := by
  unfold attempt
  split
  · split <;> exact Nat.le_refl _
  · split
    · exact Nat.le_refl _
    · rename_i hid
      exact Nat.le_of_lt (s.work_enter_lt hid hmem)

theorem work_step_lt {s t : Search pairs} (h : s.step? = some t) : t.work < s.work := by
  obtain ⟨id, below, hf, rfl⟩ | ⟨id, next, rest, below, hf, rfl⟩ := step_cases h
  · simp only [work, leave, hf, pending]
    omega
  · refine Nat.lt_of_le_of_lt (work_attempt_le _ ?_) ?_
    · exact s.rest_known ⟨id, next :: rest⟩ (by simp [hf]) next (List.mem_cons_self ..)
    · simp only [work, advance, hf, pending, List.length_cons]
      omega

/-- Steps until no frame is left. -/
def run (s : Search pairs) : Search pairs :=
  match _h : s.step? with
  | none => s
  | some t => run t
termination_by s.work
decreasing_by exact work_step_lt _h

/-- Searches from an id, unless an earlier search came to it. -/
def explore (s : Search pairs) (root : String) : Search pairs :=
  if root ∈ s.visited then s else (s.enter root).run

end Search

namespace Pairs

/-- The cycles of a relation, in the order in which a search in depth closes them. -/
def cycles (pairs : Pairs) : List Cycle :=
  ((ids pairs).foldl Search.explore (Search.start : Search pairs)).found.toList

end Pairs

namespace Graph

/-- The pairs of importing and imported file, edge by edge. -/
def importPairs (g : Graph) : Pairs :=
  (g.edges.toList.filter (·.kind == .imports)).map fun e => (e.source, e.target)

/-- The cycles of imports. -/
def cycles (g : Graph) : List Cycle := Pairs.cycles g.importPairs

end Graph

end CodeAtlas
