import CodeAtlas.Graph.Counts
import CodeAtlas.Graph.Ranking
import Mathlib

/-!
# Degrees

The edges at the nodes of a kind add up to all edges, if each edge has an end among those nodes:
no id is the id of two nodes, so no edge is counted twice. A ranking reorders the nodes of a kind
and drops none.

1. `length_targets`, `length_sources`: the degrees of an id count its occurrences as an end.
2. `sum_targets`, `sum_sources`: the degrees of the nodes of a kind, added up.
3. `sum_score_centralities`, `sum_functionCount_importances`: the same for the rankings.
-/

namespace CodeAtlas

/-- The occurrences of pairwise different ids add up to the length of a list of such ids. -/
theorem sum_count_eq_length {ids occurring : List String} (nodup : ids.Nodup)
    (h : ∀ id ∈ occurring, id ∈ ids) :
    (ids.map fun id => occurring.count id).sum = occurring.length := by
  have known : ∀ id ∈ (occurring : Multiset String), id ∈ ids.toFinset := fun id hm =>
    List.mem_toFinset.2 (h id hm)
  have total := Multiset.sum_count_eq_card known
  simp only [Multiset.coe_count, Multiset.coe_card] at total
  rw [← List.sum_toFinset _ nodup, total]

namespace Graph

/-! ## Degrees -/

theorem nodup_ids_nodesOf (g : Graph) (kind : NodeKind) :
    ((g.nodesOf kind).map Node.id).Nodup := by
  rw [nodesOf_eq]
  exact (List.filter_sublist.map Node.id).nodup g.nodup_ids

/-- The edges of a kind, in order. -/
def edgesOf (g : Graph) (kind : EdgeKind) : List Edge := g.edges.toList.filter (·.kind == kind)

theorem length_edgesOf (g : Graph) (kind : EdgeKind) :
    (g.edgesOf kind).length = g.countEdges kind := List.countP_eq_length_filter.symm

theorem length_targets (g : Graph) (kind : EdgeKind) (id : String) :
    (g.targets kind id).length = ((g.edgesOf kind).map Edge.source).count id := by
  unfold targets leavingOf edgesOf
  rw [leaving_eq, List.length_map, List.filter_comm, List.count, List.countP_map,
    List.countP_eq_length_filter]
  rfl

theorem length_sources (g : Graph) (kind : EdgeKind) (id : String) :
    (g.sources kind id).length = ((g.edgesOf kind).map Edge.target).count id := by
  unfold sources enteringOf edgesOf
  rw [entering_eq, List.length_map, List.filter_comm, List.count, List.countP_map,
    List.countP_eq_length_filter]
  rfl

/-- The counts of the edges at the nodes of a kind add up if each edge has one end there. -/
theorem sum_ends (g : Graph) {kind : NodeKind} {along : EdgeKind} (ends : Edge → String)
    (h : ∀ e ∈ g.edges, e.kind = along → g.hasKind kind (ends e)) :
    ((g.nodesOf kind).map fun node => ((g.edgesOf along).map ends).count node.id).sum =
      g.countEdges along := by
  have known : ∀ id ∈ (g.edgesOf along).map ends, id ∈ (g.nodesOf kind).map Node.id := by
    intro id hm
    obtain ⟨e, he, rfl⟩ := List.mem_map.1 hm
    obtain ⟨inside, hk⟩ := List.mem_filter.1 he
    obtain ⟨node, hn, hid⟩ :=
      (g.hasKind_iff kind _).1 (h e (Array.mem_toList_iff.1 inside) (eq_of_beq hk))
    exact List.mem_map.2 ⟨node, hn, hid⟩
  have total := sum_count_eq_length (g.nodup_ids_nodesOf kind) known
  rw [List.map_map, List.length_map, length_edgesOf] at total
  exact total

/-- The edges that leave the nodes of a kind. -/
theorem sum_targets (g : Graph) {kind : NodeKind} {along : EdgeKind}
    (h : ∀ e ∈ g.edges, e.kind = along → g.hasKind kind e.source) :
    ((g.nodesOf kind).map fun node => (g.targets along node.id).length).sum =
      g.countEdges along := by
  simp only [length_targets]
  exact g.sum_ends Edge.source h

/-- The edges that enter the nodes of a kind. -/
theorem sum_sources (g : Graph) {kind : NodeKind} {along : EdgeKind}
    (h : ∀ e ∈ g.edges, e.kind = along → g.hasKind kind e.target) :
    ((g.nodesOf kind).map fun node => (g.sources along node.id).length).sum =
      g.countEdges along := by
  simp only [length_sources]
  exact g.sum_ends Edge.target h

/-! ## Rankings -/

/-- A ranking orders the functions and drops none, so each call is counted at its two ends. -/
theorem sum_score_centralities (g : Graph)
    (sources : ∀ e ∈ g.edges, e.kind = .calls → g.hasKind .function e.source)
    (targets : ∀ e ∈ g.edges, e.kind = .calls → g.hasKind .function e.target) :
    (g.centralities.map Centrality.score).sum = 2 * g.countEdges .calls := by
  unfold centralities
  rw [((List.mergeSort_perm _ _).map Centrality.score).sum_eq, List.map_map]
  calc ((g.nodesOf .function).map fun node =>
          (g.sources .calls node.id).length + (g.targets .calls node.id).length).sum
      = ((g.nodesOf .function).map fun node => (g.sources .calls node.id).length).sum +
          ((g.nodesOf .function).map fun node => (g.targets .calls node.id).length).sum :=
        List.sum_map_add
    _ = g.countEdges .calls + g.countEdges .calls := by
        rw [g.sum_sources targets, g.sum_targets sources]
    _ = 2 * g.countEdges .calls := (Nat.two_mul _).symm

theorem sum_functionCount_importances (g : Graph) (weights : Weights)
    (sources : ∀ e ∈ g.edges, e.kind = .defines → g.hasKind .file e.source) :
    ((g.importances weights).map Importance.functionCount).sum = g.countEdges .defines := by
  unfold importances
  rw [((List.mergeSort_perm _ _).map Importance.functionCount).sum_eq, List.map_map]
  exact g.sum_targets sources

end Graph

end CodeAtlas
