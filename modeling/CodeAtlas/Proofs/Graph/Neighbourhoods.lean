import CodeAtlas.Graph.Neighbours
import CodeAtlas.Proofs.List.Occurrences
import Mathlib.Data.List.Induction

/-!
# Neighbourhoods

Each direction of a kind of edges is looked up in an index of its own. Both indexes give back the
one list of edges, so what is a neighbour of what along the edges is a neighbour against them, be
the ids nodes or not. The neighbours of an id are in the order of the edges that give them first.

1. `firstGiven_eraseDups`: what is kept of a list of answers is in the order of the first givers.
2. `targets_eq_filterMap`, `sources_eq_filterMap`: the neighbours that the edges give.
3. `neighbours_inverse`: both directions of each kind, and the order of each list.
-/

namespace CodeAtlas

/-! ## First givers -/

section FirstGiven

variable {α β : Type} [BEq β] [LawfulBEq β] {gives : α → Option β} {entries : List α} {b : β}

/-- Whether a list holds all that some entries give, each once and in the order of the entries that
give it first. -/
structure FirstGiven (gives : α → Option β) (entries : List α) (kept : List β) : Prop where
  mem_iff : ∀ b, b ∈ kept ↔ ∃ a ∈ entries, gives a = some b
  nodup : kept.Nodup
  ordered : kept.Pairwise fun b c =>
    entries.findIdx (gives · == some b) < entries.findIdx (gives · == some c)

theorem findIdx_lt_length_of_given (given : b ∈ entries.filterMap gives) :
    entries.findIdx (gives · == some b) < entries.length := by
  obtain ⟨a, ha, hb⟩ := List.mem_filterMap.1 given
  exact List.findIdx_lt_length.2 ⟨a, ha, beq_iff_eq.2 hb⟩

/-- A later entry gives nothing first that was given before. -/
theorem findIdx_concat_of_given (given : b ∈ entries.filterMap gives) (last : α) :
    (entries ++ [last]).findIdx (gives · == some b) = entries.findIdx (gives · == some b) := by
  rw [List.findIdx_append, if_pos (findIdx_lt_length_of_given given)]

theorem findIdx_concat_of_new (new : b ∉ entries.filterMap gives) {last : α}
    (h : gives last = some b) :
    (entries ++ [last]).findIdx (gives · == some b) = entries.length := by
  have none_before : entries.findIdx (gives · == some b) = entries.length := by
    rw [List.findIdx_eq_length]
    intro a ha
    rw [beq_eq_false_iff_ne]
    exact fun hb => new (List.mem_filterMap.2 ⟨a, ha, hb⟩)
  have first : [last].findIdx (gives · == some b) = 0 := by
    rw [List.findIdx_cons, h, beq_self_eq_true, cond_true]
  rw [List.findIdx_append, none_before, if_neg (Nat.lt_irrefl _), first, Nat.zero_add]

theorem pairwise_findIdx_eraseDups (gives : α → Option β) (entries : List α) :
    (entries.filterMap gives).eraseDups.Pairwise fun b c =>
      entries.findIdx (gives · == some b) < entries.findIdx (gives · == some c) := by
  induction entries using List.reverseRecOn with
  | nil => exact List.Pairwise.nil
  | append_singleton entries last ih =>
    have earlier : (entries.filterMap gives).eraseDups.Pairwise fun b c =>
        (entries ++ [last]).findIdx (gives · == some b) <
          (entries ++ [last]).findIdx (gives · == some c) := by
      refine ih.imp_of_mem fun {b c} hb hc lt => ?_
      rwa [findIdx_concat_of_given (List.mem_eraseDups.1 hb),
        findIdx_concat_of_given (List.mem_eraseDups.1 hc)]
    rw [List.filterMap_append]
    cases h : gives last with
    | none => rwa [List.filterMap_cons_none h, List.filterMap_nil, List.append_nil]
    | some b =>
      rw [List.filterMap_cons_some h, List.filterMap_nil, eraseDups_concat]
      split
      · exact earlier
      · rename_i new
        rw [List.pairwise_append]
        refine ⟨earlier, List.pairwise_singleton _ _, fun c hc d hd => ?_⟩
        have given : c ∈ entries.filterMap gives := List.mem_eraseDups.1 hc
        rw [List.mem_singleton.1 hd, findIdx_concat_of_given given, findIdx_concat_of_new new h]
        exact findIdx_lt_length_of_given given

theorem firstGiven_eraseDups (gives : α → Option β) (entries : List α) :
    FirstGiven gives entries (entries.filterMap gives).eraseDups where
  mem_iff := fun b => by rw [List.mem_eraseDups, List.mem_filterMap]
  nodup := nodup_eraseDups _
  ordered := pairwise_findIdx_eraseDups gives entries

end FirstGiven

namespace Edge

/-- The target of an edge of a kind that leaves an id. -/
def targetFrom (kind : EdgeKind) (id : String) (e : Edge) : Option String :=
  if e.source = id ∧ e.kind = kind then some e.target else none

/-- The source of an edge of a kind that enters an id. -/
def sourceTo (kind : EdgeKind) (id : String) (e : Edge) : Option String :=
  if e.target = id ∧ e.kind = kind then some e.source else none

end Edge

namespace Graph

variable (g : Graph)

theorem targets_eq_filterMap (kind : EdgeKind) (id : String) :
    g.targets kind id = g.edges.toList.filterMap (Edge.targetFrom kind id) := by
  rw [targets, leavingOf, leaving_eq, ← List.filterMap_eq_map, List.filterMap_filter,
    List.filterMap_filter]
  congr 1
  funext e
  simp only [Edge.targetFrom, beq_iff_eq, Function.comp_apply, ite_and]

theorem sources_eq_filterMap (kind : EdgeKind) (id : String) :
    g.sources kind id = g.edges.toList.filterMap (Edge.sourceTo kind id) := by
  rw [sources, enteringOf, entering_eq, ← List.filterMap_eq_map, List.filterMap_filter,
    List.filterMap_filter]
  congr 1
  funext e
  simp only [Edge.sourceTo, beq_iff_eq, Function.comp_apply, ite_and]

theorem firstGiven_targets (kind : EdgeKind) (id : String) :
    FirstGiven (Edge.targetFrom kind id) g.edges.toList (g.targets kind id).eraseDups := by
  rw [targets_eq_filterMap]
  exact firstGiven_eraseDups _ _

theorem firstGiven_sources (kind : EdgeKind) (id : String) :
    FirstGiven (Edge.sourceTo kind id) g.edges.toList (g.sources kind id).eraseDups := by
  rw [sources_eq_filterMap]
  exact firstGiven_eraseDups _ _

/-- A neighbour along the edges is one against them. -/
theorem mem_targets_iff_mem_sources (kind : EdgeKind) (x y : String) :
    y ∈ (g.targets kind x).eraseDups ↔ x ∈ (g.sources kind y).eraseDups := by
  rw [List.mem_eraseDups, List.mem_eraseDups, mem_targets_iff, mem_sources_iff]

/-- How the lists of neighbours are related to each other and to the edges. -/
structure NeighboursAgree : Prop where
  /-- What calls an id is what the id is called by. -/
  calls : ∀ x y, y ∈ g.callers x ↔ x ∈ g.callees y
  /-- What an id imports is what is imported by it. -/
  imports : ∀ x y, y ∈ g.importsOf x ↔ x ∈ g.importersOf y
  callers : ∀ x, FirstGiven (Edge.targetFrom .calls x) g.edges.toList (g.callers x)
  callees : ∀ x, FirstGiven (Edge.sourceTo .calls x) g.edges.toList (g.callees x)
  functionsIn : ∀ x, FirstGiven (Edge.targetFrom .defines x) g.edges.toList (g.functionsIn x)
  importsOf : ∀ x, FirstGiven (Edge.targetFrom .imports x) g.edges.toList (g.importsOf x)
  importersOf : ∀ x, FirstGiven (Edge.sourceTo .imports x) g.edges.toList (g.importersOf x)

/-- **Neighbours.** Callers and called functions are inverse to each other, and so are imports and
importers; each list holds what the edges give, once and in the order of the first edges. -/
theorem neighbours_inverse : g.NeighboursAgree where
  calls := g.mem_targets_iff_mem_sources .calls
  imports := g.mem_targets_iff_mem_sources .imports
  callers := g.firstGiven_targets .calls
  callees := g.firstGiven_sources .calls
  functionsIn := g.firstGiven_targets .defines
  importsOf := g.firstGiven_targets .imports
  importersOf := g.firstGiven_sources .imports

end Graph

end CodeAtlas
