import CodeAtlas.Graph.Index

/-!
# The graph

A graph keeps its nodes in the order of their first insertion and its edges in the order of
insertion. No look-up walks over the whole graph: nodes are found by id and listed by kind, and the
edges at an id by their places. A look-up passes over an id without a node and a place without an
edge; the graph carries the proof that its collections agree, so that there is neither.

* `find?_eq`, `nodesOf_eq`, `leaving_eq` and `entering_eq` read the look-ups off the lists.
* `find?_addNode` and `order_addNode` say what the insertion of a node does, `addEdge_edges` what
  that of an edge does.
* `ext_lists` says that the lists of nodes and edges determine the graph.
-/

namespace CodeAtlas

/-- Nodes and edges in order, with what finds them. -/
structure Graph where
  /-- The nodes by id. -/
  byId : Std.ExtTreeMap String Node
  /-- The ids of the nodes in the order of their first insertion. -/
  order : Array String
  /-- The ids of the nodes of each kind in that order. -/
  byKind : KindOrder
  /-- The edges in the order of insertion. -/
  edges : Array Edge
  /-- The places of the edges by source. -/
  bySource : PlaceMap
  /-- The places of the edges by target. -/
  byTarget : PlaceMap
  nodes_agree : NodesAgree byId order byKind
  bySource_indexes : PlaceMap.Indexes Edge.source edges bySource
  byTarget_indexes : PlaceMap.Indexes Edge.target edges byTarget

namespace Graph

/-- The graph without nodes and edges. -/
def empty : Graph where
  byId := ∅
  order := #[]
  byKind := {}
  edges := #[]
  bySource := ∅
  byTarget := ∅
  nodes_agree := .empty
  bySource_indexes := .empty
  byTarget_indexes := .empty

instance : Inhabited Graph := ⟨empty⟩

/-! ## Look-ups -/

/-- The node with an id. -/
def find? (g : Graph) (id : String) : Option Node := g.byId[id]?

/-- Whether an id is the id of a node. -/
def contains (g : Graph) (id : String) : Bool := g.byId.contains id

/-- The number of nodes. -/
def nodeCount (g : Graph) : Nat := g.byId.size

/-- The number of edges. -/
def edgeCount (g : Graph) : Nat := g.edges.size

/-- The nodes in the order of their first insertion. -/
def nodes (g : Graph) : Array Node := g.order.filterMap g.find?

/-- The nodes of a kind, in order. -/
def nodesOf (g : Graph) (kind : NodeKind) : List Node :=
  (g.byKind.get kind).toList.filterMap g.find?

/-- Whether an id is the id of a node of a kind. -/
def hasKind (g : Graph) (kind : NodeKind) (id : String) : Bool :=
  (g.find? id).any (·.kind == kind)

/-- The edges that leave an id, in order. -/
def leaving (g : Graph) (id : String) : List Edge :=
  (PlaceMap.edgesAt g.bySource g.edges id).toList

/-- The edges that enter an id, in order. -/
def entering (g : Graph) (id : String) : List Edge :=
  (PlaceMap.edgesAt g.byTarget g.edges id).toList

/-- The edges of a kind that leave an id, in order. -/
def leavingOf (g : Graph) (kind : EdgeKind) (id : String) : List Edge :=
  (g.leaving id).filter (·.kind == kind)

/-- The edges of a kind that enter an id, in order. -/
def enteringOf (g : Graph) (kind : EdgeKind) (id : String) : List Edge :=
  (g.entering id).filter (·.kind == kind)

/-- The targets of the edges of a kind that leave an id, in order. -/
def targets (g : Graph) (kind : EdgeKind) (id : String) : List String :=
  (g.leavingOf kind id).map Edge.target

/-- The sources of the edges of a kind that enter an id, in order. -/
def sources (g : Graph) (kind : EdgeKind) (id : String) : List String :=
  (g.enteringOf kind id).map Edge.source

/-! ## Insertion -/

/-- Inserts a node. An id keeps its kind: a node of another kind is not inserted, and one of the
same kind replaces what is known about the id without moving it. -/
def addNode (g : Graph) (node : Node) : Graph :=
  match h : g.byId[node.id]? with
  | none =>
    { g with
      byId := g.byId.insert node.id node
      order := g.order.push node.id
      byKind := g.byKind.push node.kind node.id
      nodes_agree := g.nodes_agree.append h }
  | some stored =>
    if hk : stored.kind = node.kind then
      { g with
        byId := g.byId.insert node.id node
        nodes_agree := g.nodes_agree.replace h hk }
    else g

/-- Inserts an edge. Its ends need not be nodes, and equal edges are all kept. -/
def addEdge (g : Graph) (edge : Edge) : Graph :=
  { g with
    edges := g.edges.push edge
    bySource := PlaceMap.add g.bySource edge.source g.edges.size
    byTarget := PlaceMap.add g.byTarget edge.target g.edges.size
    bySource_indexes := g.bySource_indexes.push edge
    byTarget_indexes := g.byTarget_indexes.push edge }

/-- Inserts nodes one after the other. -/
def addNodes (g : Graph) (nodes : List Node) : Graph := nodes.foldl addNode g

/-- Inserts edges one after the other. -/
def addEdges (g : Graph) (edges : List Edge) : Graph := edges.foldl addEdge g

/-! ## The look-ups and the lists -/

theorem leaving_eq (g : Graph) (id : String) :
    g.leaving id = g.edges.toList.filter (·.source == id) := by
  rw [leaving, g.bySource_indexes.edgesAt_eq, Array.toList_filter]

theorem entering_eq (g : Graph) (id : String) :
    g.entering id = g.edges.toList.filter (·.target == id) := by
  rw [entering, g.byTarget_indexes.edgesAt_eq, Array.toList_filter]

theorem id_of_find? {g : Graph} {id : String} {node : Node} (h : g.find? id = some node) :
    node.id = id :=
  g.nodes_agree.id_eq id node h

theorem mem_order_iff (g : Graph) (id : String) : id ∈ g.order ↔ (g.find? id).isSome :=
  g.nodes_agree.mem_order id

theorem find?_eq_some_iff (g : Graph) (id : String) (node : Node) :
    g.find? id = some node ↔ node ∈ g.nodes.toList ∧ node.id = id := by
  rw [Array.mem_toList_iff, nodes, Array.mem_filterMap]
  constructor
  · intro h
    exact ⟨⟨id, (g.mem_order_iff id).2 (by rw [h]; rfl), h⟩, id_of_find? h⟩
  · rintro ⟨⟨found, _, h⟩, rfl⟩
    rwa [id_of_find? h]

/-- A list of ids of nodes gives back the ids of the nodes that it finds. -/
theorem map_id_filterMap_find? (g : Graph) {ids : List String} (h : ∀ id ∈ ids, id ∈ g.order) :
    (ids.filterMap g.find?).map Node.id = ids := by
  induction ids with
  | nil => rfl
  | cons id rest ih =>
    obtain ⟨node, hn⟩ := Option.isSome_iff_exists.1 ((g.mem_order_iff id).1 (h id (by simp)))
    rw [List.filterMap_cons_some hn, List.map_cons, id_of_find? hn,
      ih fun x hx => h x (List.mem_cons_of_mem _ hx)]

theorem map_id_nodes (g : Graph) : g.nodes.toList.map Node.id = g.order.toList := by
  rw [nodes, Array.toList_filterMap]
  exact g.map_id_filterMap_find? fun id h => Array.mem_toList_iff.1 h

/-- The ids of the nodes are pairwise different. -/
theorem nodup_ids (g : Graph) : (g.nodes.toList.map Node.id).Nodup := by
  rw [map_id_nodes]
  exact g.nodes_agree.nodup

theorem find?_eq (g : Graph) (id : String) :
    g.find? id = g.nodes.toList.find? (·.id == id) := by
  cases h : g.nodes.toList.find? (·.id == id) with
  | some node =>
    have hp := List.find?_some h
    exact (g.find?_eq_some_iff id node).2 ⟨List.mem_of_find?_eq_some h, by simpa using hp⟩
  | none =>
    cases hf : g.find? id with
    | none => rfl
    | some node =>
      have ⟨hm, hid⟩ := (g.find?_eq_some_iff id node).1 hf
      have := List.find?_eq_none.1 h node hm
      simp [hid] at this

theorem contains_eq (g : Graph) (id : String) : g.contains id = (g.find? id).isSome :=
  Std.ExtTreeMap.contains_eq_isSome_getElem?

theorem nodeCount_eq (g : Graph) : g.nodeCount = g.nodes.size := by
  have := congrArg List.length g.map_id_nodes
  rw [List.length_map, Array.length_toList, Array.length_toList] at this
  rw [nodeCount, g.nodes_agree.size_eq, this]

theorem nodesOf_eq (g : Graph) (kind : NodeKind) :
    g.nodesOf kind = g.nodes.toList.filter (·.kind == kind) := by
  rw [nodesOf, g.nodes_agree.byKind_eq, Array.toList_filter, nodes, Array.toList_filterMap,
    List.filterMap_filter, List.filter_filterMap]
  congr 1
  funext id
  show (if (g.find? id).any (·.kind == kind) then g.find? id else none) = _
  cases g.find? id <;> rfl

theorem mem_nodesOf_iff (g : Graph) (kind : NodeKind) (node : Node) :
    node ∈ g.nodesOf kind ↔ g.find? node.id = some node ∧ node.kind = kind := by
  rw [nodesOf_eq, List.mem_filter, find?_eq_some_iff]
  simp

theorem hasKind_iff (g : Graph) (kind : NodeKind) (id : String) :
    g.hasKind kind id = true ↔ ∃ node ∈ g.nodesOf kind, node.id = id := by
  rw [hasKind, Option.any_eq_true]
  constructor
  · rintro ⟨node, hn, hk⟩
    have hid := id_of_find? hn
    subst hid
    exact ⟨node, (g.mem_nodesOf_iff kind node).2 ⟨hn, eq_of_beq hk⟩, rfl⟩
  · rintro ⟨node, hn, rfl⟩
    obtain ⟨hf, hk⟩ := (g.mem_nodesOf_iff kind node).1 hn
    exact ⟨node, hf, beq_iff_eq.2 hk⟩

/-- The lists of nodes and edges determine the graph. -/
theorem ext_lists {g h : Graph} (nodes : g.nodes = h.nodes) (edges : g.edges = h.edges) :
    g = h := by
  have byId : g.byId = h.byId := Std.ExtTreeMap.ext_getElem? fun id => by
    show g.find? id = h.find? id
    rw [find?_eq, find?_eq, nodes]
  have order : g.order = h.order := Array.toList_inj.1 (by
    rw [← map_id_nodes, ← map_id_nodes, nodes])
  have byKind : g.byKind = h.byKind := KindOrder.ext_get fun kind => by
    rw [g.nodes_agree.byKind_eq, h.nodes_agree.byKind_eq, byId, order]
  have bySource := g.bySource_indexes.unique (edges ▸ h.bySource_indexes)
  have byTarget := g.byTarget_indexes.unique (edges ▸ h.byTarget_indexes)
  obtain ⟨_, _, _, _, _, _, _, _, _⟩ := g
  obtain ⟨_, _, _, _, _, _, _, _, _⟩ := h
  simp only at byId order byKind edges bySource byTarget
  subst byId order byKind edges bySource byTarget
  rfl

/-! ## What an insertion does -/

@[simp] theorem addEdge_edges (g : Graph) (edge : Edge) :
    (g.addEdge edge).edges = g.edges.push edge := rfl

@[simp] theorem find?_addEdge (g : Graph) (edge : Edge) (id : String) :
    (g.addEdge edge).find? id = g.find? id := rfl

@[simp] theorem addEdge_nodes (g : Graph) (edge : Edge) : (g.addEdge edge).nodes = g.nodes := rfl

@[simp] theorem addNode_edges (g : Graph) (node : Node) : (g.addNode node).edges = g.edges := by
  unfold addNode
  split
  · rfl
  · split <;> rfl

/-- An id without a node gets the node, and a node of the stored kind replaces the stored one. -/
theorem find?_addNode (g : Graph) (node : Node) (id : String) :
    (g.addNode node).find? id =
      if node.id = id ∧ (g.find? id).all (·.kind == node.kind) then some node
      else g.find? id := by
  unfold addNode
  split
  · rename_i h
    show (g.byId.insert node.id node)[id]? = _
    rw [getElem?_insert_eq]
    by_cases hid : node.id = id
    · subst hid
      have new : g.find? node.id = none := h
      simp [new]
    · simp [hid, find?]
  · rename_i stored h
    have found : g.find? node.id = some stored := h
    split
    · rename_i hk
      show (g.byId.insert node.id node)[id]? = _
      rw [getElem?_insert_eq]
      by_cases hid : node.id = id
      · subst hid
        simp [found, hk]
      · simp [hid, find?]
    · rename_i hk
      by_cases hid : node.id = id
      · subst hid
        simp [found, hk]
      · simp [hid]

theorem find?_addNode_of_ne (g : Graph) {node : Node} {id : String} (h : node.id ≠ id) :
    (g.addNode node).find? id = g.find? id := by
  rw [find?_addNode, if_neg fun hid => h hid.1]

/-- A new id goes to the end of the order, and a known one stays where it is. -/
theorem order_addNode (g : Graph) (node : Node) :
    (g.addNode node).order =
      if (g.find? node.id).isSome then g.order else g.order.push node.id := by
  unfold addNode
  split
  · rename_i h
    have new : g.find? node.id = none := h
    rw [new]
    rfl
  · rename_i stored h
    have found : g.find? node.id = some stored := h
    rw [found]
    split <;> rfl

end Graph

end CodeAtlas
