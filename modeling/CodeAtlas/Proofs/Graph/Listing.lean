import CodeAtlas.Graph.Counts
import Mathlib.Data.List.Basic

/-!
# Graphs and plain listings

A listing keeps a graph as two lists and answers every read by a scan. The graph and the listing of
the same insertions agree on every read.

1. `nodes_addNode`: the insertion of a node is `Listing.put` on the list of nodes.
2. `readsAs_listing`: the reads of a graph are the scans of its own two lists.
3. `listing_ofInsertions`: the two lists of a graph are the listing of its insertions.
-/

namespace CodeAtlas

/-- One insertion. -/
inductive Insertion where
  | node (node : Node)
  | edge (edge : Edge)
deriving DecidableEq, Repr

/-- Nodes in the order of their first insertion and edges in the order of insertion. -/
structure Listing where
  nodes : List Node := []
  edges : List Edge := []
deriving DecidableEq, Repr

namespace Listing

/-- Nodes with one more inserted: a node of the same id and kind takes over its data, one of the
same id and another kind stays as it is, and without one of the same id it goes to the end. -/
def put (node : Node) : List Node → List Node
  | [] => [node]
  | stored :: rest =>
    if stored.id = node.id then
      (if stored.kind = node.kind then { stored with data := node.data } else stored) :: rest
    else stored :: put node rest

/-- The listing after one more insertion. -/
def insert (l : Listing) : Insertion → Listing
  | .node node => { l with nodes := put node l.nodes }
  | .edge edge => { l with edges := l.edges ++ [edge] }

/-- The listing of insertions. -/
def ofInsertions (xs : List Insertion) : Listing := xs.foldl insert {}

/-- The numbers of nodes and edges by kind. -/
def counts (l : Listing) : Counts where
  files := l.nodes.countP (·.kind == .file)
  folders := l.nodes.countP (·.kind == .folder)
  functions := l.nodes.countP (·.kind == .function)
  imports := l.edges.countP (·.kind == .imports)
  defines := l.edges.countP (·.kind == .defines)
  calls := l.edges.countP (·.kind == .calls)

theorem put_of_forall_ne {node : Node} {nodes : List Node} (h : ∀ stored ∈ nodes, stored.id ≠ node.id) :
    put node nodes = nodes ++ [node] := by
  induction nodes with
  | nil => rfl
  | cons stored rest ih =>
    rw [put, if_neg (h stored (by simp)), ih fun x hx => h x (List.mem_cons_of_mem _ hx)]
    rfl

end Listing

namespace Graph

/-- A graph after one more insertion. -/
def insert (g : Graph) : Insertion → Graph
  | .node node => g.addNode node
  | .edge edge => g.addEdge edge

/-- The graph of insertions. -/
def ofInsertions (xs : List Insertion) : Graph := xs.foldl insert empty

/-- The two lists of a graph. -/
def listing (g : Graph) : Listing := ⟨g.nodes.toList, g.edges.toList⟩

/-! ## Insertions -/

/-- A known id takes over the data of a node of its kind and keeps its own otherwise. -/
theorem find?_addNode_self (g : Graph) {node stored : Node} (found : g.find? node.id = some stored) :
    (g.addNode node).find? node.id =
      some (if stored.kind = node.kind then node else stored) := by
  rw [find?_addNode, found]
  by_cases hk : stored.kind = node.kind
  · simp [hk]
  · simp [hk]

/-- The same wherever the known id stands among other ids. -/
theorem filterMap_find?_addNode (g : Graph) {node : Node} {ids : List String} (nodup : ids.Nodup)
    (known : ∀ id ∈ ids, id ∈ g.order) (hid : node.id ∈ ids) :
    ids.filterMap (g.addNode node).find? = Listing.put node (ids.filterMap g.find?) := by
  induction ids with
  | nil => cases hid
  | cons id rest ih =>
    obtain ⟨first, hf⟩ := Option.isSome_iff_exists.1 ((g.mem_order_iff id).1 (known id (by simp)))
    obtain ⟨notin, nodup⟩ := List.nodup_cons.1 nodup
    rw [List.filterMap_cons_some hf, Listing.put, id_of_find? hf]
    by_cases he : id = node.id
    · subst he
      have same : rest.filterMap (g.addNode node).find? = rest.filterMap g.find? :=
        List.filterMap_congr fun x hx => g.find?_addNode_of_ne fun h => notin (by rwa [h])
      rw [if_pos rfl, List.filterMap_cons_some (g.find?_addNode_self hf), same]
    · have later : node.id ∈ rest := (List.mem_cons.1 hid).resolve_left (Ne.symm he)
      have kept : (g.addNode node).find? id = some first := by
        rw [g.find?_addNode_of_ne (Ne.symm he), hf]
      rw [if_neg he, List.filterMap_cons_some kept,
        ih nodup (fun x hx => known x (List.mem_cons_of_mem _ hx)) later]

theorem nodes_addNode (g : Graph) (node : Node) :
    (g.addNode node).nodes.toList = Listing.put node g.nodes.toList := by
  rw [nodes, nodes, Array.toList_filterMap, Array.toList_filterMap, order_addNode]
  cases found : g.find? node.id with
  | some stored =>
    rw [Option.isSome_some, if_pos rfl]
    refine g.filterMap_find?_addNode g.nodes_agree.nodup
      (fun id h => Array.mem_toList_iff.1 h) ?_
    rw [Array.mem_toList_iff, mem_order_iff, found]
    rfl
  | none =>
    have new : ∀ id ∈ g.order.toList, node.id ≠ id := by
      intro id hid he
      rw [Array.mem_toList_iff, mem_order_iff, ← he, found] at hid
      cases hid
    have same : g.order.toList.filterMap (g.addNode node).find? =
        g.order.toList.filterMap g.find? :=
      List.filterMap_congr fun id hid => g.find?_addNode_of_ne (new id hid)
    have last : (g.addNode node).find? node.id = some node := by
      rw [find?_addNode, found]
      simp
    have others : ∀ stored ∈ g.order.toList.filterMap g.find?, stored.id ≠ node.id := by
      intro stored hs
      obtain ⟨id, hid, hf⟩ := List.mem_filterMap.1 hs
      rw [id_of_find? hf]
      exact Ne.symm (new id hid)
    rw [if_neg (by simp), Array.toList_push, List.filterMap_append, same,
      List.filterMap_cons_some last, List.filterMap_nil, Listing.put_of_forall_ne others]

theorem listing_insert (g : Graph) (x : Insertion) :
    (g.insert x).listing = g.listing.insert x := by
  cases x with
  | node node =>
    show Listing.mk (g.addNode node).nodes.toList (g.addNode node).edges.toList = _
    rw [nodes_addNode, addNode_edges]
    rfl
  | edge edge =>
    show Listing.mk (g.addEdge edge).nodes.toList (g.addEdge edge).edges.toList = _
    rw [addEdge_nodes, addEdge_edges, Array.toList_push]
    rfl

/-- The two lists of a graph are the listing of its insertions. -/
theorem listing_ofInsertions (xs : List Insertion) :
    (ofInsertions xs).listing = Listing.ofInsertions xs := by
  have run : ∀ (g : Graph) (l : Listing), g.listing = l →
      (xs.foldl insert g).listing = xs.foldl Listing.insert l := by
    induction xs with
    | nil => exact fun g l h => h
    | cons x rest ih => exact fun g l h => ih _ _ (by rw [listing_insert, h])
  exact run empty {} rfl

/-! ## Reads -/

/-- Whether every read of a graph is the scan of a listing. -/
structure ReadsAs (g : Graph) (l : Listing) : Prop where
  nodes : g.nodes.toList = l.nodes
  find? : ∀ id, g.find? id = l.nodes.find? (·.id == id)
  contains : ∀ id, g.contains id = l.nodes.any (·.id == id)
  nodeCount : g.nodeCount = l.nodes.length
  nodesOf : ∀ kind, g.nodesOf kind = l.nodes.filter (·.kind == kind)
  edges : g.edges.toList = l.edges
  edgeCount : g.edgeCount = l.edges.length
  leaving : ∀ id, g.leaving id = l.edges.filter (·.source == id)
  entering : ∀ id, g.entering id = l.edges.filter (·.target == id)
  leavingOf : ∀ kind id,
    g.leavingOf kind id = l.edges.filter fun e => e.source == id && e.kind == kind
  enteringOf : ∀ kind id,
    g.enteringOf kind id = l.edges.filter fun e => e.target == id && e.kind == kind
  counts : g.counts = l.counts
  counts_nodes : g.counts.nodes = g.nodeCount
  counts_edges : g.counts.edges = g.edgeCount

theorem counts_eq_listing (g : Graph) : g.counts = g.listing.counts := by
  unfold counts
  rw [countNodes_eq, countNodes_eq, countNodes_eq]
  rfl

/-- The reads of a graph are the scans of its own two lists. -/
theorem readsAs_listing (g : Graph) : g.ReadsAs g.listing where
  nodes := rfl
  find? := g.find?_eq
  contains := by
    intro id
    rw [contains_eq, find?_eq, List.isSome_find?]
    rfl
  nodeCount := by
    rw [nodeCount_eq, ← Array.length_toList]
    rfl
  nodesOf := g.nodesOf_eq
  edges := rfl
  edgeCount := (Array.length_toList ..).symm
  leaving := g.leaving_eq
  entering := g.entering_eq
  leavingOf := by
    intro kind id
    rw [leavingOf, leaving_eq, List.filter_filter]
    exact List.filter_congr fun e _ => Bool.and_comm ..
  enteringOf := by
    intro kind id
    rw [enteringOf, entering_eq, List.filter_filter]
    exact List.filter_congr fun e _ => Bool.and_comm ..
  counts := g.counts_eq_listing
  counts_nodes := g.counts_nodes
  counts_edges := g.counts_edges

/-- **Two lists.** Whatever was inserted in whatever order, every read of the graph is the scan of
the plain listing of the same insertions. -/
theorem ofInsertions_readsAs (xs : List Insertion) :
    (ofInsertions xs).ReadsAs (Listing.ofInsertions xs) := by
  rw [← listing_ofInsertions]
  exact readsAs_listing _

end Graph

end CodeAtlas
