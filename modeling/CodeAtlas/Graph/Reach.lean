import CodeAtlas.Graph.Neighbours

/-!
# The reach of a change

A change to a function affects its callers, their callers, and so on. The affected functions are
found level by level: the first level holds the callers, and each further level the callers of the
level before that no earlier level holds. Levels end because every new id is the target of an edge.
-/

namespace CodeAtlas

/-- What a change to a function affects. -/
structure Reach where
  /-- The affected functions, nearer ones first. -/
  functions : List String := []
  /-- The files that define them, each once. -/
  files : List String := []
  /-- The number of levels. -/
  depth : Nat := 0
deriving DecidableEq, Repr

namespace Reach

/-- Whether nothing is affected. -/
def isEmpty (r : Reach) : Bool := r.functions.isEmpty

end Reach

namespace Graph

/-- The callers of a level that were not seen before, each once, in order of discovery. -/
def nextLevel (g : Graph) (seen level : List String) : List String :=
  ((level.flatMap (g.targets .calls)).filter (!seen.contains ·)).eraseDups

/-- How many edges have a target that was not seen. -/
def unseenEdges (g : Graph) (seen : List String) : Nat :=
  g.edges.toList.countP (!seen.contains ·.target)

theorem mem_nextLevel {g : Graph} {seen level : List String} {y : String} :
    y ∈ g.nextLevel seen level ↔ (∃ x ∈ level, ⟨x, y, .calls⟩ ∈ g.edges.toList) ∧ y ∉ seen := by
  simp [nextLevel, List.mem_eraseDups, List.mem_filter, List.mem_flatMap, mem_targets_iff]

/-- Fewer edges are unseen when the target of one of them is seen too. -/
theorem unseenEdges_append_lt {g : Graph} {seen more : List String} {e : Edge}
    (mem : e ∈ g.edges.toList) (new : e.target ∉ seen) (found : e.target ∈ more) :
    g.unseenEdges (seen ++ more) < g.unseenEdges seen := by
  refine countP_lt_countP (fun x _ hx => ?_) mem (by simp [found]) (by simpa using new)
  simp only [List.contains_eq_mem, List.mem_append, Bool.not_eq_true', decide_eq_false_iff_not,
    not_or] at hx ⊢
  exact hx.1

theorem unseenEdges_nextLevel {g : Graph} {seen level : List String}
    (h : g.nextLevel seen level ≠ []) :
    g.unseenEdges (seen ++ g.nextLevel seen level) < g.unseenEdges seen := by
  obtain ⟨y, hy⟩ := List.exists_mem_of_ne_nil _ h
  obtain ⟨⟨x, -, mem⟩, new⟩ := mem_nextLevel.1 hy
  exact unseenEdges_append_lt mem new hy

/-- The levels that follow a level. -/
def levels (g : Graph) (seen level : List String) : List (List String) :=
  if _h : g.nextLevel seen level = [] then []
  else
    g.nextLevel seen level ::
      levels g (seen ++ g.nextLevel seen level) (g.nextLevel seen level)
termination_by g.unseenEdges seen
decreasing_by exact unseenEdges_nextLevel _h

/-- What a change to a function affects; nothing for an id that is no function. An id that no node
has is affected like any other. -/
def reach (g : Graph) (id : String) : Reach :=
  if g.hasKind .function id then
    let levels := g.levels [id] [id]
    { functions := levels.flatten
      files := (levels.flatten.filterMap g.definingFile).eraseDups
      depth := levels.length }
  else {}

end Graph

end CodeAtlas
