import CodeAtlas.Graph.Heap
import CodeAtlas.Graph.Neighbours

/-!
# Chains of imports

A shortest way from one file to another along the import edges. Ids are reached in order of their
distance, an open id with the least distance first; an id keeps the distance and the predecessor
with which it was first reached. The search ends because an id is opened when it is first reached
and never again.
-/

namespace CodeAtlas

/-- How an id was reached: its distance from the start and the id before it. -/
structure Step where
  distance : Nat
  previous : Option String
deriving DecidableEq, Repr

/-- A search for a shortest way: what was reached, and what of it is still open. -/
structure ChainSearch where
  reached : Std.ExtTreeMap String Step
  frontier : Heap String

namespace ChainSearch

/-- The search at its start. -/
def start (source : String) : ChainSearch :=
  ⟨(∅ : Std.ExtTreeMap String Step).insert source ⟨0, none⟩, Heap.empty.push 0 source⟩

/-- Reaches an id from an id at a distance; one that was reached before stays as it is. -/
def visit (distance : Nat) (source : String) (s : ChainSearch) (id : String) : ChainSearch :=
  if id ∈ s.reached then s
  else ⟨s.reached.insert id ⟨distance + 1, some source⟩, s.frontier.push (distance + 1) id⟩

/-- The ids on the way to an id at a distance. -/
def wayTo (reached : Std.ExtTreeMap String Step) : Nat → String → List String
  | 0, id => [id]
  | distance + 1, id =>
    match (reached[id]?).bind Step.previous with
    | none => [id]
    | some previous => wayTo reached distance previous ++ [id]

/-- How many ids of a list are not reached. -/
def unreached (ids : List String) (s : ChainSearch) : Nat := ids.countP (· ∉ s.reached)

/-- What is still to do: ids to reach and ids to take from the open ones. -/
def work (ids : List String) (s : ChainSearch) : Nat := s.unreached ids + s.frontier.size

theorem work_visit_le {ids : List String} {id : String} (h : id ∈ ids) (distance : Nat)
    (source : String) (s : ChainSearch) : (visit distance source s id).work ids ≤ s.work ids := by
  unfold visit
  split
  · exact Nat.le_refl _
  · rename_i hnew
    have fewer : ids.countP (· ∉ s.reached.insert id ⟨distance + 1, some source⟩) <
        ids.countP (· ∉ s.reached) := by
      refine countP_lt_countP (fun x _ hx => ?_) h (by simp) (by simpa using hnew)
      rw [decide_eq_true_eq] at hx ⊢
      exact fun hin => hx (Std.ExtTreeMap.mem_insert.2 (Or.inr hin))
    simp only [work, unreached, Heap.size_push]
    omega

theorem work_foldl_visit_le {ids : List String} (next : List String) (h : ∀ id ∈ next, id ∈ ids)
    (distance : Nat) (source : String) (s : ChainSearch) :
    (next.foldl (visit distance source) s).work ids ≤ s.work ids := by
  induction next generalizing s with
  | nil => exact Nat.le_refl _
  | cons id rest ih =>
    refine Nat.le_trans (ih (fun x hx => h x (List.mem_cons_of_mem _ hx)) _) ?_
    exact work_visit_le (h id (List.mem_cons_self ..)) distance source s

end ChainSearch

namespace Graph

/-- The ids at which an edge ends. -/
def edgeTargets (g : Graph) : List String := g.edges.toList.map Edge.target

theorem importsOf_subset (g : Graph) (id : String) :
    ∀ next ∈ (g.importsOf id).reverse, next ∈ g.edgeTargets := by
  intro next h
  rw [List.mem_reverse, importsOf, List.mem_eraseDups, mem_targets_iff] at h
  exact List.mem_map.2 ⟨_, h, rfl⟩

/-- Continues a search for an id: takes the nearest open id and opens what it imports, newest
first. -/
def searchChain (g : Graph) (goal : String) (s : ChainSearch) : Option (List String) :=
  match _h : s.frontier.pop? with
  | none => none
  | some ((distance, id), rest) =>
    if id = goal then some (ChainSearch.wayTo s.reached distance id)
    else
      searchChain g goal
        ((g.importsOf id).reverse.foldl (ChainSearch.visit distance id) ⟨s.reached, rest⟩)
termination_by s.work g.edgeTargets
decreasing_by
  refine Nat.lt_of_le_of_lt
    (ChainSearch.work_foldl_visit_le _ (g.importsOf_subset id) distance id _) ?_
  have := Heap.size_of_pop? _h
  simp only [ChainSearch.work, ChainSearch.unreached]
  omega

/-- A shortest chain of imports from one id to another, both included. The chain from an id to
itself is the id alone, for an id that is a node. -/
def chain (g : Graph) (source target : String) : Option (List String) :=
  if source = target then if g.contains source then some [source] else none
  else g.searchChain target (ChainSearch.start source)

end Graph

end CodeAtlas
