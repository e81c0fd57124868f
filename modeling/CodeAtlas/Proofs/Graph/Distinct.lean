import CodeAtlas.Graph.Reach
import CodeAtlas.Proofs.Graph.Degrees
import CodeAtlas.Proofs.List.Occurrences

/-!
# Lists without repeats

No look-up and no analysis of a graph lists an id twice, although edges may repeat: neighbours are
kept once, a level of a reach holds nothing that was seen before, and no id is that of two nodes.

1. `nodup_functions_reach`: the affected functions.
2. `nodup_ids_centralities`, `nodup_ids_importances`: the ranked functions and files.
-/

namespace CodeAtlas

namespace Graph

variable (g : Graph)

/-! ## Levels -/

theorem nodup_nextLevel (seen level : List String) : (g.nextLevel seen level).Nodup :=
  nodup_eraseDups _

/-- The levels that follow are pairwise disjoint and hold nothing that was seen. -/
theorem nodup_levels (seen level : List String) :
    (g.levels seen level).flatten.Nodup ∧ ∀ id ∈ (g.levels seen level).flatten, id ∉ seen := by
  fun_induction g.levels seen level with
  | case1 seen level _ => exact ⟨List.nodup_nil, fun id hid => absurd hid List.not_mem_nil⟩
  | case2 seen level _ ih =>
    obtain ⟨nodup, later⟩ := ih
    rw [List.flatten_cons]
    refine ⟨?_, fun id hid => ?_⟩
    · rw [List.nodup_append]
      refine ⟨g.nodup_nextLevel seen level, nodup, ?_⟩
      rintro x hx y hy rfl
      exact later x hy (List.mem_append_right _ hx)
    · rcases List.mem_append.1 hid with next | further
      · exact (mem_nextLevel.1 next).2
      · exact fun hseen => later id further (List.mem_append_left _ hseen)

theorem nodup_functions_reach (id : String) : (g.reach id).functions.Nodup := by
  unfold reach
  split
  · exact (g.nodup_levels [id] [id]).1
  · exact List.nodup_nil

theorem nodup_files_reach (id : String) : (g.reach id).files.Nodup := by
  unfold reach
  split
  · exact nodup_eraseDups _
  · exact List.nodup_nil

/-! ## Rankings -/

theorem nodup_ids_centralities : (g.centralities.map Centrality.id).Nodup := by
  have ranked := (List.mergeSort_perm ((g.nodesOf .function).map g.centralityOf)
    Centrality.before).map Centrality.id
  rw [List.map_map] at ranked
  exact ranked.nodup_iff.2 (g.nodup_ids_nodesOf .function)

theorem nodup_ids_importances (weights : Weights) :
    ((g.importances weights).map Importance.id).Nodup := by
  have ranked := (List.mergeSort_perm ((g.nodesOf .file).map (g.importanceOf weights))
    Importance.before).map Importance.id
  rw [List.map_map] at ranked
  exact ranked.nodup_iff.2 (g.nodup_ids_nodesOf .file)

theorem nodup_ids_functionsNamed (name : String) :
    ((g.functionsNamed name).map Node.id).Nodup :=
  (List.filter_sublist.map Node.id).nodup (g.nodup_ids_nodesOf .function)

end Graph

end CodeAtlas
