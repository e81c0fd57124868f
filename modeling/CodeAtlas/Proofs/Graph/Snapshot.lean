import CodeAtlas.Graph.Chain
import CodeAtlas.Graph.Document
import CodeAtlas.Proofs.Json.RoundTrip
import CodeAtlas.Proofs.Json.Sorted
import Mathlib.Tactic.TFAE

/-!
# Snapshots lose nothing

A snapshot lists the nodes and edges of a graph and leaves out all that finds them. What is left out
comes back from the two lists, since these determine the graph, and the lists come back from the
document: the attributes of a node are read off by name, and its type tells which there are.

1. `Node.eq_of_sorted_document`, `Edge.eq_of_sorted_document`: nodes and edges of equal documents.
2. `Graph.eq_of_sorted_document`: graphs of equal documents.
3. `Graph.snapshot_tfae`: equal snapshots are equal answers to everything that is read off a graph.
-/

namespace CodeAtlas

open Json (sorted_eq_of_lookup)

/-! ## Values with one spelling -/

theorem NodeKind.name_injective {a b : NodeKind} (h : a.name = b.name) : a = b := by
  cases a <;> cases b <;> first | rfl | exact absurd h (by decide)

theorem EdgeKind.name_injective {a b : EdgeKind} (h : a.name = b.name) : a = b := by
  cases a <;> cases b <;> first | rfl | exact absurd h (by decide)

namespace Json

theorem eq_of_sorted_text {s t : String} (h : (Json.text s).sorted = (Json.text t).sorted) :
    s = t := by
  rw [sorted, sorted] at h
  · exact Json.text.inj h
  all_goals simp

theorem eq_of_sorted_line {m n : UInt32}
    (h : (Json.nat m.toNat).sorted = (Json.nat n.toNat).sorted) : m = n := by
  rw [nat, nat, sorted, sorted] at h
  · exact UInt32.toNat_inj.1 (Int.ofNat.inj (Json.int.inj h))
  all_goals simp

theorem eq_of_sorted_texts {ss ts : List String} (h : (texts ss).sorted = (texts ts).sorted) :
    ss = ts := by
  rw [sorted_texts, sorted_texts] at h
  exact (List.map_inj_right fun _ _ => Json.text.inj).1 (Json.array.inj h)

end Json

/-! ## Nodes and edges -/

/-- Places whose attributes are told by the same members are the same. -/
theorem Place.eq_of_sorted {p q : Place}
    (path : (Json.text p.path).sorted = (Json.text q.path).sorted)
    (name : (Json.text p.name).sorted = (Json.text q.name).sorted) : p = q := by
  obtain ⟨_, _⟩ := p
  obtain ⟨_, _⟩ := q
  obtain rfl : _ = _ := Json.eq_of_sorted_text path
  obtain rfl : _ = _ := Json.eq_of_sorted_text name
  rfl

/-- Files and folders are told by the same members, so it takes the type to tell them apart. -/
theorem NodeData.eq_of_members {a b : NodeData} (kind : a.kind = b.kind)
    (same : ∀ name value other, a.members.reverse.lookup name = some value →
      b.members.reverse.lookup name = some other → value.sorted = other.sorted) : a = b := by
  cases a with
  | file p => cases b with
    | file q =>
      rw [Place.eq_of_sorted (same "path" _ _ rfl rfl) (same "name" _ _ rfl rfl)]
    | folder _ => cases kind
    | function _ => cases kind
  | folder p => cases b with
    | file _ => cases kind
    | folder q =>
      rw [Place.eq_of_sorted (same "path" _ _ rfl rfl) (same "name" _ _ rfl rfl)]
    | function _ => cases kind
  | function f => cases b with
    | file _ => cases kind
    | folder _ => cases kind
    | function g =>
      have name := Json.eq_of_sorted_text (same "name" _ _ rfl rfl)
      have file := Json.eq_of_sorted_text (same "file" _ _ rfl rfl)
      have line := Json.eq_of_sorted_line (same "startLine" _ _ rfl rfl)
      have calls := Json.eq_of_sorted_texts (same "calls" _ _ rfl rfl)
      obtain ⟨_, _, _, _⟩ := f
      obtain ⟨_, _, _, _⟩ := g
      obtain rfl : _ = _ := name
      obtain rfl : _ = _ := file
      obtain rfl : _ = _ := line
      obtain rfl : _ = _ := calls
      rfl

namespace Node

/-- The members of the document of a node. -/
def members (node : Node) : List (String × Json) :=
  [("id", .text node.id), ("label", .text node.label), ("type", .text node.kind.name)] ++
    node.data.members

theorem document_eq (node : Node) : node.document = .object node.members := rfl

theorem lookup_id (node : Node) : node.members.reverse.lookup "id" = some (.text node.id) := by
  obtain ⟨_, data⟩ := node
  cases data <;> rfl

theorem lookup_type (node : Node) :
    node.members.reverse.lookup "type" = some (.text node.kind.name) := by
  obtain ⟨_, data⟩ := node
  cases data <;> rfl

theorem lookup_data {node : Node} {name : String} {value : Json}
    (h : node.data.members.reverse.lookup name = some value) :
    node.members.reverse.lookup name = some value := by
  rw [members, List.reverse_append, List.lookup_append, h]
  rfl

theorem eq_of_sorted_document {a b : Node} (h : a.document.sorted = b.document.sorted) :
    a = b := by
  rw [document_eq, document_eq] at h
  have id : a.id = b.id :=
    Json.eq_of_sorted_text (sorted_eq_of_lookup "id" h a.lookup_id b.lookup_id)
  have kind : a.kind = b.kind := NodeKind.name_injective
    (Json.eq_of_sorted_text (sorted_eq_of_lookup "type" h a.lookup_type b.lookup_type))
  have data : a.data = b.data := NodeData.eq_of_members kind fun name value other ha hb =>
    sorted_eq_of_lookup name h (lookup_data ha) (lookup_data hb)
  obtain ⟨_, _⟩ := a
  obtain ⟨_, _⟩ := b
  obtain rfl : _ = _ := id
  obtain rfl : _ = _ := data
  rfl

@[simp] theorem exact_document (node : Node) : node.document.Exact := by
  obtain ⟨_, data⟩ := node
  cases data <;> simp [document, NodeData.members]

end Node

theorem Edge.eq_of_sorted_document {a b : Edge} (h : a.document.sorted = b.document.sorted) :
    a = b := by
  have source := Json.eq_of_sorted_text (sorted_eq_of_lookup "source" h rfl rfl)
  have target := Json.eq_of_sorted_text (sorted_eq_of_lookup "target" h rfl rfl)
  have kind := EdgeKind.name_injective
    (Json.eq_of_sorted_text (sorted_eq_of_lookup "type" h rfl rfl))
  obtain ⟨_, _, _⟩ := a
  obtain ⟨_, _, _⟩ := b
  obtain rfl : _ = _ := source
  obtain rfl : _ = _ := target
  obtain rfl : _ = _ := kind
  rfl

@[simp] theorem Edge.exact_document (edge : Edge) : edge.document.Exact := by
  simp [document]

/-! ## Graphs -/

namespace Graph

theorem exact_document (g : Graph) : g.document.Exact := by
  simp [document]

theorem eq_of_sorted_document {g h : Graph} (e : g.document.sorted = h.document.sorted) :
    g = h := by
  have nodes := sorted_eq_of_lookup "nodes" e rfl rfl
  have links := sorted_eq_of_lookup "links" e rfl rfl
  rw [Json.sorted_array, Json.sorted_array, List.map_map, List.map_map] at nodes links
  refine ext_lists (Array.toList_inj.1 ?_) (Array.toList_inj.1 ?_)
  · exact (List.map_inj_right fun _ _ => Node.eq_of_sorted_document).1 (Json.array.inj nodes)
  · exact (List.map_inj_right fun _ _ => Edge.eq_of_sorted_document).1 (Json.array.inj links)

/-- Whether two graphs give the same answers to everything that is read off a graph, and whether
every analysis finds the same in both. -/
structure SameReads (g h : Graph) : Prop where
  find? : ∀ id, g.find? id = h.find? id
  contains : ∀ id, g.contains id = h.contains id
  hasKind : ∀ kind id, g.hasKind kind id = h.hasKind kind id
  nodes : g.nodes = h.nodes
  nodeCount : g.nodeCount = h.nodeCount
  nodesOf : ∀ kind, g.nodesOf kind = h.nodesOf kind
  edges : g.edges = h.edges
  edgeCount : g.edgeCount = h.edgeCount
  leaving : ∀ id, g.leaving id = h.leaving id
  entering : ∀ id, g.entering id = h.entering id
  leavingOf : ∀ kind id, g.leavingOf kind id = h.leavingOf kind id
  enteringOf : ∀ kind id, g.enteringOf kind id = h.enteringOf kind id
  counts : g.counts = h.counts
  functionsNamed : ∀ name, g.functionsNamed name = h.functionsNamed name
  definingFile : ∀ id, g.definingFile id = h.definingFile id
  callers : ∀ id, g.callers id = h.callers id
  callees : ∀ id, g.callees id = h.callees id
  functionsIn : ∀ id, g.functionsIn id = h.functionsIn id
  importsOf : ∀ id, g.importsOf id = h.importsOf id
  importersOf : ∀ id, g.importersOf id = h.importersOf id
  resolveFile : ∀ path, g.resolveFile path = h.resolveFile path
  reach : ∀ id, g.reach id = h.reach id
  centralities : g.centralities = h.centralities
  importances : ∀ weights, g.importances weights = h.importances weights
  cycles : g.cycles = h.cycles
  chain : ∀ source target, g.chain source target = h.chain source target

theorem sameReads_self (g : Graph) : g.SameReads g := by
  constructor <;> intros <;> rfl

/-- A snapshot is made of two reads. -/
theorem SameReads.document_eq {g h : Graph} (same : g.SameReads h) : g.document = h.document := by
  rw [document, document, same.nodes, same.edges]

/-- **Snapshots lose nothing.** Two graphs have the same snapshot, be it the text or what the text
says in whatever order of the members, exactly if every read and every analysis gives the same on
both. -/
theorem snapshot_tfae (g h : Graph) :
    [g.document.compact = h.document.compact, g.document.sorted = h.document.sorted,
      g.SameReads h].TFAE := by
  tfae_have 1 → 2 := by
    intro text
    rw [Json.compact_injective g.exact_document h.exact_document text]
  tfae_have 2 → 3 := by
    intro value
    rw [eq_of_sorted_document value]
    exact h.sameReads_self
  tfae_have 3 → 1 := by
    intro same
    rw [same.document_eq]
  tfae_finish

end Graph

end CodeAtlas
