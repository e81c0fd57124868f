import CodeAtlas.Graph.Node
import Std.Data.ExtTreeMap

/-!
# Indexes of nodes and edges

Nodes are kept in a map by id; the order of their first insertion is kept apart, once for all nodes
and once for each kind. Edges are kept in one array; a map gives the places of the edges at an id.

* `NodesAgree` says that the map and the orders speak of the same nodes, and `PlaceMap.Indexes` that
  a map gives the places of the edges at each id.
* `NodesAgree.append`, `NodesAgree.replace` and `PlaceMap.Indexes.push` keep them so.
* `PlaceMap.Indexes.edgesAt_eq` reads the edges at an id off the array.
-/

namespace CodeAtlas

theorem getElem?_insert_eq {β : Type} (map : Std.ExtTreeMap String β) (key id : String) (value : β) :
    (map.insert key value)[id]? = if key = id then some value else map[id]? := by
  rw [Std.ExtTreeMap.getElem?_insert]
  simp only [Std.compare_eq_iff_eq]

theorem filter_congr_of_mem {α : Type} {xs : Array α} {p q : α → Bool} (h : ∀ x ∈ xs, p x = q x) :
    xs.filter p = xs.filter q := by
  apply Array.toList_inj.1
  rw [Array.toList_filter, Array.toList_filter]
  exact List.filter_congr fun x hx => h x (Array.mem_toList_iff.1 hx)

/-- Fewer entries are counted by a stronger condition that one of those entries fails. -/
theorem countP_lt_countP {α : Type} {p q : α → Bool} {l : List α} (weaker : ∀ b ∈ l, p b → q b)
    {a : α} (mem : a ∈ l) (fails : ¬ p a) (holds : q a) : l.countP p < l.countP q := by
  obtain ⟨before, after, rfl⟩ := List.append_of_mem mem
  have first : before.countP p ≤ before.countP q :=
    List.countP_mono_left fun b hb => weaker b (by simp [hb])
  have last : after.countP p ≤ after.countP q :=
    List.countP_mono_left fun b hb => weaker b (by simp [hb])
  rw [List.countP_append, List.countP_append, List.countP_cons_of_neg fails,
    List.countP_cons_of_pos holds]
  omega

/-! ## Nodes -/

/-- The ids of each kind in the order of their first insertion. -/
structure KindOrder where
  files : Array String := #[]
  folders : Array String := #[]
  functions : Array String := #[]

namespace KindOrder

/-- The ids of a kind. -/
def get (order : KindOrder) : NodeKind → Array String
  | .file => order.files
  | .folder => order.folders
  | .function => order.functions

/-- Appends an id to those of a kind. -/
def push (order : KindOrder) (kind : NodeKind) (id : String) : KindOrder :=
  match kind with
  | .file => { order with files := order.files.push id }
  | .folder => { order with folders := order.folders.push id }
  | .function => { order with functions := order.functions.push id }

@[simp] theorem get_empty (kind : NodeKind) : ({} : KindOrder).get kind = #[] := by
  cases kind <;> rfl

theorem get_push (order : KindOrder) (kind other : NodeKind) (id : String) :
    (order.push kind id).get other =
      if kind = other then (order.get other).push id else order.get other := by
  cases kind <;> cases other <;> rfl

theorem ext_get {a b : KindOrder} (h : ∀ kind, a.get kind = b.get kind) : a = b := by
  obtain ⟨_, _, _⟩ := a
  obtain ⟨_, _, _⟩ := b
  have files := h .file
  have folders := h .folder
  have functions := h .function
  simp only [get] at files folders functions
  rw [files, folders, functions]

end KindOrder

/-- Whether a map of nodes, an order of ids and the orders by kind speak of the same nodes: every
node is under its id, and each order holds each of its ids once. -/
structure NodesAgree (byId : Std.ExtTreeMap String Node) (order : Array String)
    (byKind : KindOrder) : Prop where
  nodup : order.toList.Nodup
  mem_order : ∀ id, id ∈ order ↔ (byId[id]?).isSome
  size_eq : byId.size = order.size
  id_eq : ∀ (id : String) (node : Node), byId[id]? = some node → node.id = id
  byKind_eq : ∀ kind, byKind.get kind = order.filter fun id => (byId[id]?).any (·.kind == kind)

namespace NodesAgree

variable {byId : Std.ExtTreeMap String Node} {order : Array String} {byKind : KindOrder}

theorem empty : NodesAgree ∅ #[] {} where
  nodup := by simp
  mem_order := by simp
  size_eq := by simp
  id_eq := by simp
  byKind_eq := by simp

theorem id_eq_insert (h : NodesAgree byId order byKind) (node : Node) (id : String) (found : Node)
    (hf : (byId.insert node.id node)[id]? = some found) : found.id = id := by
  rw [getElem?_insert_eq] at hf
  split at hf
  · rename_i hid
    rw [← Option.some.inj hf, hid]
  · exact h.id_eq id found hf

/-- A node with a new id goes to the end of the order and of the order of its kind. -/
theorem append (h : NodesAgree byId order byKind) {node : Node} (new : byId[node.id]? = none) :
    NodesAgree (byId.insert node.id node) (order.push node.id)
      (byKind.push node.kind node.id) := by
  have hn : node.id ∉ order := fun hm => by
    have := (h.mem_order node.id).1 hm
    rw [new] at this
    cases this
  refine ⟨?_, ?_, ?_, h.id_eq_insert node, ?_⟩
  · rw [Array.toList_push, List.nodup_append]
    refine ⟨h.nodup, by simp, ?_⟩
    intro a ha b hb hab
    rw [List.mem_singleton.1 hb] at hab
    exact hn (hab ▸ Array.mem_toList_iff.1 ha)
  · intro id
    rw [Array.mem_push, getElem?_insert_eq, h.mem_order id]
    by_cases hid : node.id = id
    · simp [hid]
    · simp [hid, Ne.symm hid]
  · rw [Std.ExtTreeMap.size_insert, Std.ExtTreeMap.contains_eq_isSome_getElem?, new, Array.size_push,
      h.size_eq]
    rfl
  · intro kind
    have old : (order.filter fun id => ((byId.insert node.id node)[id]?).any (·.kind == kind)) =
        order.filter fun id => (byId[id]?).any (·.kind == kind) := by
      refine filter_congr_of_mem fun id hid => ?_
      have hne : node.id ≠ id := fun he => hn (by rwa [he])
      rw [getElem?_insert_eq, if_neg hne]
    rw [Array.filter_push, old, getElem?_insert_eq, if_pos rfl, KindOrder.get_push, h.byKind_eq]
    simp

/-- A node of the stored kind takes the place of the one with its id. -/
theorem replace (h : NodesAgree byId order byKind) {node stored : Node}
    (found : byId[node.id]? = some stored) (kind : stored.kind = node.kind) :
    NodesAgree (byId.insert node.id node) order byKind := by
  refine ⟨h.nodup, ?_, ?_, h.id_eq_insert node, ?_⟩
  · intro id
    rw [getElem?_insert_eq, h.mem_order id]
    by_cases hid : node.id = id
    · rw [if_pos hid, ← hid, found]
      rfl
    · rw [if_neg hid]
  · rw [Std.ExtTreeMap.size_insert, Std.ExtTreeMap.contains_eq_isSome_getElem?, found,
      ← h.size_eq]
    rfl
  · intro other
    rw [h.byKind_eq other]
    refine filter_congr_of_mem fun id _ => ?_
    rw [getElem?_insert_eq]
    by_cases hid : node.id = id
    · rw [if_pos hid, ← hid, found]
      simp [kind]
    · rw [if_neg hid]

end NodesAgree

/-! ## Edges -/

/-- The places of edges by the id at one of their ends. -/
abbrev PlaceMap : Type := Std.ExtTreeMap String (Array Nat)

namespace PlaceMap

/-- The places of the edges with that `key`, in order. -/
def placesOf (key : Edge → String) (edges : Array Edge) (id : String) : Array Nat :=
  (Array.range edges.size).filter fun i => (edges[i]?).any (key · == id)

/-- Whether a map gives for each id the places of the edges with that `key`, and nothing for an id
without edges. -/
def Indexes (key : Edge → String) (edges : Array Edge) (map : PlaceMap) : Prop :=
  ∀ id : String, map[id]? =
    if edges.any (key · == id) then some (placesOf key edges id) else none

/-- The places at an id. -/
def placesAt (map : PlaceMap) (id : String) : Array Nat := (map[id]?).getD #[]

/-- The edges at the places of an id; a place without an edge is passed over. -/
def edgesAt (map : PlaceMap) (edges : Array Edge) (id : String) : Array Edge :=
  (placesAt map id).filterMap (edges[·]?)

/-- The map with one more place at an id. -/
def add (map : PlaceMap) (id : String) (place : Nat) : PlaceMap :=
  map.insert id ((placesAt map id).push place)

variable {key : Edge → String} {edges : Array Edge} {map : PlaceMap}

theorem placesOf_push (key : Edge → String) (edges : Array Edge) (edge : Edge) (id : String) :
    placesOf key (edges.push edge) id =
      if key edge = id then (placesOf key edges id).push edges.size
      else placesOf key edges id := by
  have old : ((Array.range edges.size).filter fun i =>
      ((edges.push edge)[i]?).any (key · == id)) = placesOf key edges id := by
    refine filter_congr_of_mem fun i hi => ?_
    rw [Array.getElem?_push, if_neg (Nat.ne_of_lt (Array.mem_range.1 hi))]
  have last : Array.range (edges.size + 1) = (Array.range edges.size).push edges.size := by
    rw [Array.range_succ, Array.push_eq_append]
  rw [placesOf, Array.size_push, last, Array.filter_push, old, Array.getElem?_push, if_pos rfl]
  simp

theorem filterMap_range (edges : List Edge) :
    (List.range edges.length).filterMap (edges[·]?) = edges := by
  induction edges with
  | nil => rfl
  | cons edge rest ih =>
    rw [List.length_cons, List.range_succ_eq_map, List.filterMap_cons, List.filterMap_map]
    simpa [Function.comp_def] using ih

/-- The edges at the places of an id are the edges with that key. -/
theorem filterMap_placesOf (key : Edge → String) (edges : Array Edge) (id : String) :
    (placesOf key edges id).filterMap (edges[·]?) = edges.filter (key · == id) := by
  apply Array.toList_inj.1
  calc ((placesOf key edges id).filterMap (edges[·]?)).toList
      = (List.range edges.toList.length).filterMap fun i =>
          (edges.toList[i]?).filter (key · == id) := by
        rw [placesOf, Array.toList_filterMap, Array.toList_filter, Array.toList_range,
          List.filterMap_filter, ← Array.length_toList]
        congr 1
        funext i
        rw [Array.getElem?_toList]
        cases edges[i]? <;> rfl
    _ = ((List.range edges.toList.length).filterMap (edges.toList[·]?)).filter (key · == id) :=
        (List.filter_filterMap ..).symm
    _ = (edges.filter (key · == id)).toList := by rw [filterMap_range, Array.toList_filter]

theorem placesOf_eq_empty {id : String} (h : ¬ edges.any (key · == id) = true) :
    placesOf key edges id = #[] := by
  refine Array.filter_eq_empty_iff.2 fun i _ hi => h ?_
  obtain ⟨edge, he, hk⟩ := (Option.any_eq_true _ _).1 hi
  exact Array.any_eq_true'.2 ⟨edge, Array.mem_of_getElem? he, hk⟩

theorem Indexes.placesAt_eq (h : Indexes key edges map) (id : String) :
    placesAt map id = placesOf key edges id := by
  rw [placesAt, h id]
  split
  · rfl
  · rename_i hn
    exact (placesOf_eq_empty hn).symm

theorem Indexes.edgesAt_eq (h : Indexes key edges map) (id : String) :
    edgesAt map edges id = edges.filter (key · == id) := by
  rw [edgesAt, h.placesAt_eq, filterMap_placesOf]

theorem Indexes.empty : Indexes key #[] ∅ := fun id => by simp

theorem Indexes.push (h : Indexes key edges map) (edge : Edge) :
    Indexes key (edges.push edge) (add map (key edge) edges.size) := by
  intro id
  rw [add, getElem?_insert_eq, Array.any_push, placesOf_push, h.placesAt_eq, h id]
  by_cases hk : key edge = id
  · simp [hk]
  · have hb : (key edge == id) = false := by simpa using hk
    simp [hb, hk]

theorem Indexes.unique {map' : PlaceMap} (h : Indexes key edges map)
    (h' : Indexes key edges map') : map = map' :=
  Std.ExtTreeMap.ext_getElem? fun id => (h id).trans (h' id).symm

end PlaceMap

end CodeAtlas
