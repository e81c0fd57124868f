import CodeAtlas.Graph.Basic

/-!
# Counts by kind

The numbers of nodes and edges of each kind, and the two totals.
-/

namespace CodeAtlas

/-- How many nodes and edges of each kind a graph has. -/
structure Counts where
  files : Nat
  folders : Nat
  functions : Nat
  imports : Nat
  defines : Nat
  calls : Nat
deriving DecidableEq, Repr

namespace Counts

/-- The number of nodes. -/
def nodes (c : Counts) : Nat := c.files + c.folders + c.functions

/-- The number of edges. -/
def edges (c : Counts) : Nat := c.imports + c.defines + c.calls

end Counts

namespace Graph

/-- The number of nodes of a kind. -/
def countNodes (g : Graph) (kind : NodeKind) : Nat := (g.byKind.get kind).size

/-- The number of edges of a kind. -/
def countEdges (g : Graph) (kind : EdgeKind) : Nat := g.edges.toList.countP (·.kind == kind)

/-- The numbers of nodes and edges by kind. -/
def counts (g : Graph) : Counts where
  files := g.countNodes .file
  folders := g.countNodes .folder
  functions := g.countNodes .function
  imports := g.countEdges .imports
  defines := g.countEdges .defines
  calls := g.countEdges .calls

theorem length_nodesOf (g : Graph) (kind : NodeKind) :
    (g.nodesOf kind).length = g.countNodes kind := by
  have ids : ∀ id ∈ (g.byKind.get kind).toList, id ∈ g.order := by
    intro id h
    rw [g.nodes_agree.byKind_eq] at h
    exact (Array.mem_filter.1 (Array.mem_toList_iff.1 h)).1
  have := congrArg List.length (g.map_id_filterMap_find? ids)
  rwa [List.length_map] at this

theorem countNodes_eq (g : Graph) (kind : NodeKind) :
    g.countNodes kind = g.nodes.toList.countP (·.kind == kind) := by
  rw [← length_nodesOf, nodesOf_eq, List.countP_eq_length_filter]

theorem counts_nodes (g : Graph) : g.counts.nodes = g.nodeCount := by
  rw [nodeCount_eq, ← Array.length_toList]
  simp only [Counts.nodes, counts, countNodes_eq]
  induction g.nodes.toList with
  | nil => rfl
  | cons node rest ih =>
    simp only [List.countP_cons, List.length_cons]
    cases node.kind <;> simp <;> omega

theorem counts_edges (g : Graph) : g.counts.edges = g.edgeCount := by
  rw [edgeCount, ← Array.length_toList]
  simp only [Counts.edges, counts, countEdges]
  induction g.edges.toList with
  | nil => rfl
  | cons edge rest ih =>
    simp only [List.countP_cons, List.length_cons]
    cases edge.kind <;> simp <;> omega

end Graph

end CodeAtlas
