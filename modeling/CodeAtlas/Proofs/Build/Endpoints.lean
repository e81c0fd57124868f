import CodeAtlas.Proofs.Build.Layers
import CodeAtlas.Proofs.Graph.Degrees

/-!
# The ends of the edges of a build

The graph checks no edge. A build inserts none that lacks an end, whatever was reported, and the
ends of an edge are nodes of the kinds that the edge speaks of. A reported function may have the id
of a file or folder, and then it is no function node; so a definition only has a node as its target,
and a call has two functions since a name means function nodes alone.

1. `CallIndex.mem_of_resolve`: a name means a node of the index.
2. `edge_cases`: an edge of a build is a definition, a call or an import.
3. `ends_definition`, `ends_call`, `ends_import`: the ends of each of them.
4. `edges_join_nodes`: the ends of all edges.
5. `edgesOf_graph`: each kind of edge is the list of one layer.
-/

namespace CodeAtlas

/-- What is looked up is filed under its name. -/
theorem mem_of_lookup {entries : List (String × String)} {name id : String}
    (h : entries.lookup name = some id) : (name, id) ∈ entries := by
  obtain ⟨before, after, rfl, _⟩ := List.lookup_eq_some_iff.1 h
  exact List.mem_append_right _ List.mem_cons_self

namespace CallIndex

/-- A name means one of the nodes of which the index was made. -/
theorem mem_of_resolve {nodes : List Node} {name id : String}
    (h : (ofNodes nodes).resolve name = some id) : ∃ node ∈ nodes, node.id = id := by
  unfold resolve ofNodes at h
  rcases Option.or_eq_some_iff.1 h with hn | ⟨_, hs⟩
  · obtain ⟨node, hm, hp⟩ := List.mem_filterMap.1 (mem_of_lookup hn)
    obtain ⟨info, _, hi⟩ := Option.map_eq_some_iff.1 hp
    exact ⟨node, hm, congrArg Prod.snd hi⟩
  · obtain ⟨node, hm, hp⟩ := List.mem_flatMap.1 (mem_of_lookup hs)
    obtain ⟨suffix, _, hi⟩ := List.mem_map.1 hp
    exact ⟨node, hm, congrArg Prod.snd hi⟩

end CallIndex

namespace Edge

variable {g : Graph} {e : Edge}

/-- Whether the ends of an edge are nodes of the kinds that the edge speaks of. -/
def Fits (g : Graph) (e : Edge) : Prop :=
  match e.kind with
  | .imports => g.hasKind .file e.source ∧ g.hasKind .file e.target
  | .calls => g.hasKind .function e.source ∧ g.hasKind .function e.target
  | .defines => g.hasKind .file e.source

theorem fits_imports (h : e.kind = .imports) :
    e.Fits g ↔ g.hasKind .file e.source ∧ g.hasKind .file e.target := by
  rw [Fits, h]

theorem fits_calls (h : e.kind = .calls) :
    e.Fits g ↔ g.hasKind .function e.source ∧ g.hasKind .function e.target := by
  rw [Fits, h]

theorem fits_defines (h : e.kind = .defines) : e.Fits g ↔ g.hasKind .file e.source := by
  rw [Fits, h]

end Edge

namespace Findings

variable {fs : Findings} {e : Edge}

/-! ## The skeleton and the graph -/

theorem hasKind_graph (fs : Findings) (kind : NodeKind) (id : String) :
    fs.graph.hasKind kind id = fs.skeleton.hasKind kind id := Graph.hasKind_addEdges _ _ _ _

theorem contains_graph (fs : Findings) (id : String) :
    fs.graph.contains id = fs.skeleton.contains id := Graph.contains_addEdges _ _ _

theorem nodesOf_graph (fs : Findings) (kind : NodeKind) :
    fs.graph.nodesOf kind = fs.skeleton.nodesOf kind := Graph.nodesOf_addEdges _ _ _

/-- The id of a reported function is the id of a node, but perhaps not of a function. -/
theorem contains_skeleton {f : FunctionRecord} (h : f ∈ fs.functions) :
    fs.skeleton.contains f.id = true := by
  unfold skeleton
  rw [Graph.contains_addNodes]
  exact Or.inl ⟨f.node, List.mem_map_of_mem h, rfl⟩

/-! ## The three lists -/

theorem mem_definitions_iff : e ∈ fs.definitions ↔
    ∃ f ∈ fs.functions, f.placed fs.skeleton = true ∧ f.edge = e := by
  unfold definitions
  simp only [List.mem_map, List.mem_filter, and_assoc]

theorem mem_imports_iff : e ∈ fs.imports ↔
    ∃ pair ∈ fs.pairs, pair.inside fs.skeleton = true ∧ pair.edge = e := by
  unfold imports
  simp only [List.mem_map, List.mem_filter, and_assoc]

/-- A call runs from the function that a name means to the function that names it. -/
theorem of_mem_calls (h : some e ∈ fs.calls) :
    ∃ callee ∈ fs.skeleton.nodesOf .function, ∃ caller ∈ fs.skeleton.nodesOf .function,
      e = ⟨callee.id, caller.id, .calls⟩ := by
  unfold calls at h
  obtain ⟨caller, hc, hm⟩ := List.mem_flatMap.1 h
  unfold Build.callsBy at hm
  obtain ⟨name, _, hn⟩ := List.mem_map.1 hm
  obtain ⟨id, hr, rfl⟩ := Option.map_eq_some_iff.1 hn
  obtain ⟨callee, hf, rfl⟩ := CallIndex.mem_of_resolve hr
  exact ⟨callee, hf, caller, hc, rfl⟩

theorem edge_cases (h : e ∈ fs.graph.edges.toList) :
    e ∈ fs.definitions ∨ some e ∈ fs.calls ∨ e ∈ fs.imports := by
  rw [edges_graph] at h
  simp only [List.mem_append, List.mem_filterMap, id, exists_eq_right] at h
  rwa [or_assoc] at h

/-! ## The ends -/

theorem ends_definition (h : e ∈ fs.definitions) :
    fs.skeleton.hasKind .file e.source ∧ fs.skeleton.contains e.target ∧ e.kind = .defines := by
  obtain ⟨f, hf, hp, rfl⟩ := mem_definitions_iff.1 h
  exact ⟨hp, contains_skeleton hf, rfl⟩

theorem ends_call (h : some e ∈ fs.calls) :
    fs.skeleton.hasKind .function e.source ∧ fs.skeleton.hasKind .function e.target ∧
      e.kind = .calls := by
  obtain ⟨callee, hf, caller, hc, rfl⟩ := of_mem_calls h
  exact ⟨(Graph.hasKind_iff _ _ _).2 ⟨callee, hf, rfl⟩,
    (Graph.hasKind_iff _ _ _).2 ⟨caller, hc, rfl⟩, rfl⟩

theorem ends_import (h : e ∈ fs.imports) :
    fs.skeleton.hasKind .file e.source ∧ fs.skeleton.hasKind .file e.target ∧
      e.kind = .imports := by
  obtain ⟨pair, _, hi, rfl⟩ := mem_imports_iff.1 h
  have ⟨hs, ht⟩ := Bool.and_eq_true_iff.1 hi
  exact ⟨hs, ht, rfl⟩

theorem ends_graph (h : e ∈ fs.graph.edges) :
    fs.graph.contains e.source ∧ fs.graph.contains e.target ∧ e.Fits fs.graph := by
  rcases edge_cases (Array.mem_toList_iff.2 h) with hd | hc | hi
  · obtain ⟨file, node, kind⟩ := ends_definition hd
    rw [Edge.fits_defines kind, contains_graph, contains_graph, hasKind_graph]
    exact ⟨Graph.contains_of_hasKind file, node, file⟩
  · obtain ⟨callee, caller, kind⟩ := ends_call hc
    rw [Edge.fits_calls kind, contains_graph, contains_graph, hasKind_graph, hasKind_graph]
    exact ⟨Graph.contains_of_hasKind callee, Graph.contains_of_hasKind caller, callee, caller⟩
  · obtain ⟨source, target, kind⟩ := ends_import hi
    rw [Edge.fits_imports kind, contains_graph, contains_graph, hasKind_graph, hasKind_graph]
    exact ⟨Graph.contains_of_hasKind source, Graph.contains_of_hasKind target, source, target⟩

/-- No edge of a build lacks an end, and the ends of each edge fit it. -/
theorem edges_join_nodes {size : Nat} {b : Build} (h : fs.build size = .ok b) :
    ∀ e ∈ b.graph.edges,
      b.graph.contains e.source ∧ b.graph.contains e.target ∧ e.Fits b.graph := by
  obtain ⟨_, rfl⟩ := build_eq_ok_iff.1 h
  intro e he
  exact ends_graph he

/-- Two functions of one id, one with the id of a file, one whose file is not known, calls of all of
them, and an import of what is no file. -/
def shared : Findings where
  structural := some ⟨"walker", 0, ⟨["src"], ["src/a.rs", "src/b.rs"]⟩⟩
  extraction := some ⟨"reader", 0, [
    ⟨"src/a.rs::f", "f", "src/a.rs", 1, ["g", "f"]⟩,
    ⟨"src/a.rs::f", "g", "src/b.rs", 2, ["g", "missing"]⟩,
    ⟨"src/a.rs", "h", "src/b.rs", 3, ["g"]⟩,
    ⟨"lost::k", "k", "lost", 4, ["h", "g"]⟩]⟩
  dependencies := some ⟨"linker", 0, [⟨"src/a.rs", "src/b.rs"⟩, ⟨"src/a.rs", "src"⟩]⟩

theorem edges_join_nodes_shared :
    shared.build 2 = .ok ⟨shared.graph, shared.report⟩ ∧
    shared.graph.edges = #[
      ⟨"src/a.rs", "src/a.rs::f", .defines⟩, ⟨"src/b.rs", "src/a.rs::f", .defines⟩,
      ⟨"src/b.rs", "src/a.rs", .defines⟩, ⟨"src/a.rs::f", "src/a.rs::f", .calls⟩,
      ⟨"src/a.rs::f", "lost::k", .calls⟩, ⟨"src/a.rs", "src/b.rs", .imports⟩] ∧
    ∀ e ∈ shared.graph.edges,
      shared.graph.contains e.source ∧ shared.graph.contains e.target ∧ e.Fits shared.graph := by
  have built : shared.build 2 = .ok ⟨shared.graph, shared.report⟩ := build_eq 2 rfl
  refine ⟨built, ?_, edges_join_nodes built⟩
  decide +kernel

/-! ## One kind of edge -/

/-- The edges of a kind are those that one layer of the build inserts. -/
theorem edgesOf_graph (fs : Findings) (kind : EdgeKind) :
    fs.graph.edgesOf kind =
      match kind with
      | .defines => fs.definitions
      | .calls => fs.calls.filterMap id
      | .imports => fs.imports := by
  have defines : ∀ e ∈ fs.definitions, e.kind = .defines := fun e he => (ends_definition he).2.2
  have calls : ∀ e ∈ fs.calls.filterMap id, e.kind = .calls := by
    intro e he
    obtain ⟨call, hm, rfl⟩ := List.mem_filterMap.1 he
    exact (ends_call hm).2.2
  have imports : ∀ e ∈ fs.imports, e.kind = .imports := fun e he => (ends_import he).2.2
  -- the list of another layer has no edge of the kind
  have others : ∀ {edges : List Edge} {own : EdgeKind}, (∀ e ∈ edges, e.kind = own) → own ≠ kind →
      edges.filter (·.kind == kind) = [] := by
    intro edges own h hne
    refine List.filter_eq_nil_iff.2 fun e he => ?_
    rw [h e he, beq_iff_eq]
    exact hne
  have own : ∀ {edges : List Edge}, (∀ e ∈ edges, e.kind = kind) →
      edges.filter (·.kind == kind) = edges := by
    intro edges h
    refine List.filter_eq_self.2 fun e he => ?_
    rw [h e he, beq_self_eq_true]
  unfold Graph.edgesOf
  rw [edges_graph, List.filter_append, List.filter_append]
  cases kind with
  | defines => rw [own defines, others calls nofun, others imports nofun, List.append_nil,
      List.append_nil]
  | calls => rw [others defines nofun, own calls, others imports nofun, List.nil_append,
      List.append_nil]
  | imports => rw [others defines nofun, others calls nofun, own imports, List.nil_append,
      List.nil_append]

end Findings

end CodeAtlas
