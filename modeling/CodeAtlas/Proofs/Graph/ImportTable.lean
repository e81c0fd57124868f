import CodeAtlas.Graph.Neighbours
import CodeAtlas.Proofs.List.Occurrences

/-!
# The table of imports

A search between numbers needs a table: the ids at the ends of imports are numbered in the order of
their first appearance, and the imports are links between numbers, each kept once and the newest
first. The table says no more and no less than the import edges of the graph.

1. `ImportTable.add`: how an import is entered.
2. `Tabulates`: a table agrees with the imports that were entered. `Tabulates.number` and
   `Tabulates.add` keep it so.
3. `map_neighbours`: the neighbours of a number are what its id imports, newest first.
-/

namespace CodeAtlas

/-- The imports of a graph as links between numbers. -/
structure ImportTable where
  /-- The numbers of the ids. -/
  numbers : Std.ExtTreeMap String Nat := ∅
  /-- The ids by number. -/
  ids : Array String := #[]
  /-- The linked numbers, newest first. -/
  links : List (Nat × Nat) := []

namespace ImportTable

/-- The number of an id, the next one for a new id. -/
def number (t : ImportTable) (id : String) : ImportTable × Nat :=
  match t.numbers[id]? with
  | some n => (t, n)
  | none =>
    ({ t with numbers := t.numbers.insert id t.ids.size, ids := t.ids.push id }, t.ids.size)

/-- Links two numbers, unless they are linked. -/
def link (t : ImportTable) (n m : Nat) : ImportTable :=
  if (n, m) ∈ t.links then t else { t with links := (n, m) :: t.links }

/-- Enters the ends of an edge and links them. -/
def add (t : ImportTable) (edge : Edge) : ImportTable :=
  let source := t.number edge.source
  let target := source.1.number edge.target
  target.1.link source.2 target.2

/-- The id with a number. -/
def name (t : ImportTable) (n : Nat) : String := (t.ids[n]?).getD ""

/-- The numbers that a number is linked to, newest first. -/
def neighbours (t : ImportTable) (n : Nat) : List Nat :=
  (t.links.filter (·.1 == n)).map Prod.snd

/-- The ids with two numbers. -/
def names (t : ImportTable) (link : Nat × Nat) : String × String := (t.name link.1, t.name link.2)

/-- Whether a table holds the ids of some pairs and links them. -/
structure Tabulates (t : ImportTable) (pairs : List (String × String)) : Prop where
  numbers_iff : ∀ (id : String) (n : Nat), t.numbers[id]? = some n ↔ t.ids[n]? = some id
  links_lt : ∀ link ∈ t.links, link.1 < t.ids.size ∧ link.2 < t.ids.size
  links_eq : t.links.reverse.map t.names = pairs.eraseDups

variable {t : ImportTable} {pairs : List (String × String)} {id : String} {n m : Nat}

theorem name_eq (h : t.ids[n]? = some id) : t.name n = id := by
  rw [name, h]
  rfl

theorem ids_getElem? (h : n < t.ids.size) : t.ids[n]? = some (t.name n) := by
  rw [name, Array.getElem?_eq_getElem h]
  rfl

theorem Tabulates.numbers_name (h : Tabulates t pairs) (hn : n < t.ids.size) :
    t.numbers[t.name n]? = some n := (h.numbers_iff _ n).2 (ids_getElem? hn)

theorem Tabulates.number_lt (h : Tabulates t pairs) (hid : t.numbers[id]? = some n) :
    n < t.ids.size := (Array.getElem?_eq_some_iff.1 ((h.numbers_iff id n).1 hid)).1

/-- Different numbers have different ids. -/
theorem Tabulates.name_inj (h : Tabulates t pairs) (hn : n < t.ids.size) (hm : m < t.ids.size) :
    t.name n = t.name m ↔ n = m := by
  constructor
  · intro same
    have := h.numbers_name hn
    rw [same, h.numbers_name hm] at this
    exact (Option.some.inj this).symm
  · rintro rfl
    rfl

theorem tabulates_empty : Tabulates {} [] where
  numbers_iff id n := by simp
  links_lt _ h := absurd h List.not_mem_nil
  links_eq := rfl

/-- Numbers keep their ids in a table that grows. -/
def Extends (t' t : ImportTable) : Prop :=
  ∀ (n : Nat) (id : String), t.ids[n]? = some id → t'.ids[n]? = some id

theorem Extends.lt {t' : ImportTable} (h : t'.Extends t) (hn : n < t.ids.size) :
    n < t'.ids.size := (Array.getElem?_eq_some_iff.1 (h n _ (ids_getElem? hn))).1

theorem Extends.name_eq {t' : ImportTable} (h : t'.Extends t) (hn : n < t.ids.size) :
    t'.name n = t.name n := ImportTable.name_eq (h n _ (ids_getElem? hn))

/-- A table that extends another one by ids alone tabulates the same pairs. -/
theorem Tabulates.extend {t' : ImportTable} (h : Tabulates t pairs) (grows : t'.Extends t)
    (links : t'.links = t.links)
    (numbers : ∀ (id : String) (n : Nat), t'.numbers[id]? = some n ↔ t'.ids[n]? = some id) :
    Tabulates t' pairs where
  numbers_iff := numbers
  links_lt link hl := by
    rw [links] at hl
    obtain ⟨first, second⟩ := h.links_lt link hl
    exact ⟨grows.lt first, grows.lt second⟩
  links_eq := by
    rw [links, ← h.links_eq]
    refine List.map_congr_left fun link hl => ?_
    obtain ⟨first, second⟩ := h.links_lt link (List.mem_reverse.1 hl)
    rw [names, names, grows.name_eq first, grows.name_eq second]

/-- A new id goes to the end of the ids and changes no other number. -/
theorem Tabulates.number (h : Tabulates t pairs) (id : String) :
    Tabulates (t.number id).1 pairs ∧ (t.number id).1.ids[(t.number id).2]? = some id ∧
      (t.number id).1.Extends t := by
  unfold ImportTable.number
  split
  · rename_i n known
    exact ⟨h, (h.numbers_iff id n).1 known, fun k x hk => hk⟩
  · rename_i new
    have unnumbered : ∀ n : Nat, t.ids[n]? ≠ some id := by
      intro n hn
      rw [(h.numbers_iff id n).2 hn] at new
      cases new
    have grows : Extends { t with
        numbers := t.numbers.insert id t.ids.size, ids := t.ids.push id } t := by
      intro k x hk
      obtain ⟨hlt, -⟩ := Array.getElem?_eq_some_iff.1 hk
      show (t.ids.push id)[k]? = some x
      rw [Array.getElem?_push, if_neg (Nat.ne_of_lt hlt), hk]
    refine ⟨h.extend grows rfl fun x n => ?_, ?_, grows⟩
    · rw [getElem?_insert_eq, Array.getElem?_push]
      by_cases last : n = t.ids.size
      · subst last
        have none : t.numbers[x]? ≠ some t.ids.size := by
          rw [Ne, h.numbers_iff, Array.getElem?_eq_none (Nat.le_refl _)]
          nofun
        by_cases same : id = x <;> simp [same, none]
      · by_cases same : id = x
        · subst same
          simp [last, unnumbered n, Ne.symm last]
        · simp [last, same, h.numbers_iff]
    · rw [Array.getElem?_push, if_pos rfl]

theorem Tabulates.link (h : Tabulates t pairs) {source target : String}
    (hn : t.ids[n]? = some source) (hm : t.ids[m]? = some target) :
    Tabulates (t.link n m) (pairs ++ [(source, target)]) := by
  have first := (Array.getElem?_eq_some_iff.1 hn).1
  have second := (Array.getElem?_eq_some_iff.1 hm).1
  have named : t.names (n, m) = (source, target) := by rw [names, name_eq hn, name_eq hm]
  have linked : (source, target) ∈ pairs ↔ (n, m) ∈ t.links := by
    rw [← List.mem_eraseDups, ← h.links_eq, List.mem_map]
    constructor
    · rintro ⟨link, hl, same⟩
      obtain ⟨lt, lt'⟩ := h.links_lt link (List.mem_reverse.1 hl)
      rw [← named] at same
      obtain ⟨hfst, hsnd⟩ := Prod.mk.inj same
      rw [← (h.name_inj lt first).1 hfst, ← (h.name_inj lt' second).1 hsnd]
      exact List.mem_reverse.1 hl
    · exact fun hl => ⟨(n, m), List.mem_reverse.2 hl, named⟩
  unfold ImportTable.link
  by_cases old : (n, m) ∈ t.links
  · rw [if_pos old]
    refine ⟨h.numbers_iff, h.links_lt, ?_⟩
    rw [h.links_eq, eraseDups_concat, if_pos (linked.2 old)]
  · rw [if_neg old]
    refine ⟨h.numbers_iff, fun link hl => ?_, ?_⟩
    · rcases List.mem_cons.1 hl with rfl | hl
      · exact ⟨first, second⟩
      · exact h.links_lt link hl
    · rw [eraseDups_concat, if_neg fun hp => old (linked.1 hp), List.reverse_cons,
        List.map_append, ← h.links_eq]
      exact congrArg (_ ++ [·]) named

theorem Tabulates.add (h : Tabulates t pairs) (edge : Edge) :
    Tabulates (t.add edge) (pairs ++ [(edge.source, edge.target)]) := by
  obtain ⟨first, source, -⟩ := h.number edge.source
  obtain ⟨second, target, grows⟩ := first.number edge.target
  exact second.link (grows _ _ source) target

theorem Tabulates.adds (h : Tabulates t pairs) (edges : List Edge) :
    Tabulates (edges.foldl ImportTable.add t)
      (pairs ++ edges.map fun edge => (edge.source, edge.target)) := by
  induction edges generalizing t pairs with
  | nil => rwa [List.map_nil, List.append_nil]
  | cons edge rest ih =>
    rw [List.foldl_cons, List.map_cons, List.append_cons]
    exact ih (h.add edge)

/-! ## What is linked -/

theorem Tabulates.neighbours_lt (h : Tabulates t pairs) (hm : m ∈ t.neighbours n) : m < t.ids.size := by
  obtain ⟨link, hl, rfl⟩ := List.mem_map.1 hm
  exact (h.links_lt link (List.mem_filter.1 hl).1).2

/-- The neighbours of a number are the ids that its id is paired with, newest first. -/
theorem Tabulates.map_neighbours (h : Tabulates t pairs) (hn : n < t.ids.size) :
    (t.neighbours n).map t.name =
      ((pairs.eraseDups.filter (·.1 == t.name n)).map Prod.snd).reverse := by
  have ends : ∀ link ∈ t.links, (link.1 == n) = ((t.names link).1 == t.name n) := by
    intro link hl
    rw [Bool.eq_iff_iff, beq_iff_eq, beq_iff_eq]
    exact (h.name_inj (h.links_lt link hl).1 hn).symm
  calc (t.neighbours n).map t.name
      = ((t.links.filter fun link => (t.names link).1 == t.name n).map t.names).map Prod.snd := by
        rw [neighbours, List.filter_congr ends, List.map_map, List.map_map]
        rfl
    _ = (((t.links.map t.names).filter (·.1 == t.name n)).map Prod.snd) := by
        rw [List.filter_map]
        rfl
    _ = ((pairs.eraseDups.filter (·.1 == t.name n)).map Prod.snd).reverse := by
        rw [← h.links_eq, List.map_reverse, List.filter_reverse, List.map_reverse,
          List.reverse_reverse]

end ImportTable

namespace Graph

/-- The table of the import edges of a graph. -/
def importTable (g : Graph) : ImportTable :=
  (g.edges.toList.filter (·.kind == .imports)).foldl ImportTable.add {}

variable (g : Graph)

theorem tabulates_importTable : g.importTable.Tabulates
    ((g.edges.toList.filter (·.kind == .imports)).map fun edge => (edge.source, edge.target)) :=
  ImportTable.tabulates_empty.adds _

/-- The neighbours of a number in the table of a graph are what its id imports, newest first. -/
theorem map_neighbours {n : Nat} (hn : n < g.importTable.ids.size) :
    (g.importTable.neighbours n).map g.importTable.name =
      (g.importsOf (g.importTable.name n)).reverse := by
  rw [g.tabulates_importTable.map_neighbours hn]
  generalize g.importTable.name n = x
  have leaving : (((g.edges.toList.filter (·.kind == .imports)).map
      fun edge => (edge.source, edge.target)).filter (·.1 == x)) =
        (g.leavingOf .imports x).map fun edge => (edge.source, edge.target) := by
    rw [List.filter_map, leavingOf, leaving_eq, List.filter_filter, List.filter_filter]
    refine congrArg _ (List.filter_congr fun edge _ => ?_)
    exact Bool.and_comm _ _
  have apart : ∀ p ∈ (g.leavingOf .imports x).map fun edge => (edge.source, edge.target),
      ∀ q ∈ (g.leavingOf .imports x).map fun edge => (edge.source, edge.target),
        p.2 = q.2 → p = q := by
    intro p hp q hq same
    rw [← leaving] at hp hq
    have hfst := eq_of_beq (List.mem_filter.1 hp).2
    have hfst' := eq_of_beq (List.mem_filter.1 hq).2
    exact Prod.ext (hfst.trans hfst'.symm) same
  rw [← eraseDups_filter, leaving, ← eraseDups_map apart, List.map_map]
  rfl

variable {g}

/-- The ends of an import have numbers. -/
theorem numbers_of_import {x y : String} (h : ⟨x, y, .imports⟩ ∈ g.edges.toList) :
    (∃ n, g.importTable.numbers[x]? = some n) ∧ ∃ n, g.importTable.numbers[y]? = some n := by
  have table := g.tabulates_importTable
  have entered : (x, y) ∈ g.importTable.links.reverse.map g.importTable.names := by
    rw [table.links_eq, List.mem_eraseDups, List.mem_map]
    exact ⟨⟨x, y, .imports⟩, List.mem_filter.2 ⟨h, rfl⟩, rfl⟩
  obtain ⟨link, hl, same⟩ := List.mem_map.1 entered
  obtain ⟨rfl, rfl⟩ := Prod.mk.inj same
  obtain ⟨first, second⟩ := table.links_lt link (List.mem_reverse.1 hl)
  exact ⟨⟨_, table.numbers_name first⟩, ⟨_, table.numbers_name second⟩⟩

end Graph

end CodeAtlas
