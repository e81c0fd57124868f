import CodeAtlas.Graph.Basic
import Mathlib.Data.List.Basic

/-!
# Runs of insertions

Many nodes or many edges are inserted one after the other. What one insertion does is carried over
to a run of them by induction on the list.

1. `hasKind_addNodes_of_ne`: nodes of other kinds change no check of a kind.
2. `contains_addNodes`: after a run the id of each of its nodes is known.
3. `addNode_addEdge`, `addNodes_addEdge`: nodes may as well be inserted before edges.
4. `edges_addEdges`: a run of edges goes to the end of the edges, and no node is changed.
-/

namespace CodeAtlas

namespace Graph

/-! ## Kinds -/

/-- A node of another kind changes no check of a kind. -/
theorem hasKind_addNode_of_ne (g : Graph) {node : Node} {kind : NodeKind} (h : node.kind ≠ kind)
    (id : String) : (g.addNode node).hasKind kind id = g.hasKind kind id := by
  unfold hasKind
  rw [find?_addNode]
  by_cases hid : node.id = id
  · cases g.find? id with
    | none => simp [hid, h]
    | some stored =>
      by_cases hk : stored.kind = node.kind
      · simp [hid, hk]
      · simp [hid, hk]
  · simp [hid]

theorem hasKind_addNodes_of_ne (g : Graph) {nodes : List Node} {kind : NodeKind}
    (h : ∀ node ∈ nodes, node.kind ≠ kind) (id : String) :
    (g.addNodes nodes).hasKind kind id = g.hasKind kind id := by
  unfold addNodes
  induction nodes generalizing g with
  | nil => rfl
  | cons node rest ih =>
    rw [List.foldl_cons, ih _ fun n hn => h n (List.mem_cons_of_mem _ hn),
      g.hasKind_addNode_of_ne (h node List.mem_cons_self)]

theorem contains_of_hasKind {g : Graph} {kind : NodeKind} {id : String}
    (h : g.hasKind kind id = true) : g.contains id = true := by
  rw [contains_eq]
  exact Option.isSome_of_any h

theorem contains_addNode (g : Graph) (node : Node) (id : String) :
    (g.addNode node).contains id = true ↔ node.id = id ∨ g.contains id = true := by
  rw [contains_eq, contains_eq, find?_addNode]
  by_cases hid : node.id = id
  · cases g.find? id with
    | none => simp [hid]
    | some stored =>
      by_cases hk : stored.kind = node.kind
      · simp [hid, hk]
      · simp [hid, hk]
  · simp [hid]

theorem contains_addNodes (g : Graph) (nodes : List Node) (id : String) :
    (g.addNodes nodes).contains id = true ↔
      (∃ node ∈ nodes, node.id = id) ∨ g.contains id = true := by
  unfold addNodes
  induction nodes generalizing g with
  | nil => simp
  | cons node rest ih =>
    rw [List.foldl_cons, ih, contains_addNode, List.exists_mem_cons_iff, or_assoc, or_left_comm]

theorem addEdges_append (g : Graph) (edges more : List Edge) :
    g.addEdges (edges ++ more) = (g.addEdges edges).addEdges more := List.foldl_append

/-! ## Nodes and edges -/

/-- An insertion of a node does not read the edges. -/
theorem addNode_addEdge (g : Graph) (node : Node) (edge : Edge) :
    (g.addEdge edge).addNode node = (g.addNode node).addEdge edge := by
  have order : ((g.addEdge edge).addNode node).order = (g.addNode node).order := by
    rw [order_addNode, order_addNode, find?_addEdge]
    rfl
  have found : ((g.addEdge edge).addNode node).find? = (g.addNode node).find? := by
    funext id
    rw [find?_addNode, find?_addNode, find?_addEdge]
  refine ext_lists ?_ ?_
  · rw [addEdge_nodes, nodes, nodes, order, found]
  · rw [addNode_edges, addEdge_edges, addEdge_edges, addNode_edges]

theorem addNodes_addEdge (g : Graph) (nodes : List Node) (edge : Edge) :
    (g.addEdge edge).addNodes nodes = (g.addNodes nodes).addEdge edge := by
  unfold addNodes
  induction nodes generalizing g with
  | nil => rfl
  | cons node rest ih => rw [List.foldl_cons, addNode_addEdge, ih, List.foldl_cons]

theorem edges_addNodes (g : Graph) (nodes : List Node) : (g.addNodes nodes).edges = g.edges := by
  unfold addNodes
  induction nodes generalizing g with
  | nil => rfl
  | cons node rest ih => rw [List.foldl_cons, ih, addNode_edges]

theorem edges_addEdges (g : Graph) (edges : List Edge) :
    (g.addEdges edges).edges.toList = g.edges.toList ++ edges := by
  unfold addEdges
  induction edges generalizing g with
  | nil => simp
  | cons edge rest ih => rw [List.foldl_cons, ih, addEdge_edges, Array.toList_push,
      List.append_assoc, List.singleton_append]

theorem find?_addEdges (g : Graph) (edges : List Edge) (id : String) :
    (g.addEdges edges).find? id = g.find? id := by
  unfold addEdges
  induction edges generalizing g with
  | nil => rfl
  | cons edge rest ih => rw [List.foldl_cons, ih, find?_addEdge]

theorem nodes_addEdges (g : Graph) (edges : List Edge) : (g.addEdges edges).nodes = g.nodes := by
  unfold addEdges
  induction edges generalizing g with
  | nil => rfl
  | cons edge rest ih => rw [List.foldl_cons, ih, addEdge_nodes]

theorem hasKind_addEdges (g : Graph) (edges : List Edge) (kind : NodeKind) (id : String) :
    (g.addEdges edges).hasKind kind id = g.hasKind kind id := by
  unfold hasKind
  rw [find?_addEdges]

theorem contains_addEdges (g : Graph) (edges : List Edge) (id : String) :
    (g.addEdges edges).contains id = g.contains id := by
  rw [contains_eq, contains_eq, find?_addEdges]

theorem nodesOf_addEdges (g : Graph) (edges : List Edge) (kind : NodeKind) :
    (g.addEdges edges).nodesOf kind = g.nodesOf kind := by
  rw [nodesOf_eq, nodesOf_eq, nodes_addEdges]

end Graph

end CodeAtlas
