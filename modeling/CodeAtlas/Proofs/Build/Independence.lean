import CodeAtlas.Proofs.Build.Endpoints
import CodeAtlas.Proofs.Graph.Listing

/-!
# The independence of the layers

Two builds are compared whose findings agree on some kinds and differ at will on all others. What a
layer adds to the graph depends on the findings of that layer and on the first layer alone. The
imports are the hard case, for they are checked against a graph that already holds the functions,
and a function may be reported under the id of a file, of a folder or of an end of an import.

1. `filter_nodes_addNodes`: nodes of other kinds leave the nodes of a kind as they are.
2. `places_skeleton`, `imports_congr`: folders, files and imports without the functions.
3. `layers_independent`: the three comparisons.
-/

namespace CodeAtlas

/-! ## Nodes of other kinds -/

/-- A node of a kind that is passed over does not show in the listing, wherever it is put. -/
theorem Listing.filter_put {p : NodeKind → Bool} {node : Node} (h : p node.kind = false)
    (nodes : List Node) :
    (put node nodes).filter (p ·.kind) = nodes.filter (p ·.kind) := by
  induction nodes with
  | nil => rw [put, List.filter_cons_of_neg (by simp [h])]
  | cons stored rest ih =>
    unfold put
    by_cases hid : stored.id = node.id
    · rw [if_pos hid]
      by_cases hk : stored.kind = node.kind
      · have taken : p { stored with data := node.data : Node }.kind = false := h
        have old : p stored.kind = false := by rw [hk, h]
        rw [if_pos hk, List.filter_cons_of_neg (by simp [taken]),
          List.filter_cons_of_neg (by simp [old])]
      · rw [if_neg hk]
    · rw [if_neg hid, List.filter_cons, List.filter_cons, ih]

namespace Graph

/-- The folders and files, in order. -/
def places (g : Graph) : List Node := g.nodes.toList.filter (·.kind != .function)

theorem filter_nodes_addNodes (g : Graph) {p : NodeKind → Bool} {nodes : List Node}
    (h : ∀ node ∈ nodes, p node.kind = false) :
    (g.addNodes nodes).nodes.toList.filter (p ·.kind) = g.nodes.toList.filter (p ·.kind) := by
  unfold addNodes
  induction nodes generalizing g with
  | nil => rfl
  | cons node rest ih =>
    rw [List.foldl_cons, ih _ fun n hn => h n (List.mem_cons_of_mem _ hn), nodes_addNode,
      Listing.filter_put (h node List.mem_cons_self)]

end Graph

namespace Findings

/-! ## What the first layer decides -/

/-- The functions do not show among the folders and files. -/
theorem places_skeleton (fs : Findings) :
    fs.skeleton.places = (Build.ofInventory fs.missing fs.inventory).graph.places := by
  have functions : ∀ node ∈ fs.functions.map FunctionRecord.node,
      (node.kind != NodeKind.function) = false :=
    List.forall_mem_map.2 fun _ _ => rfl
  exact Graph.filter_nodes_addNodes (p := (· != .function)) _ functions

theorem places_graph (fs : Findings) : fs.graph.places = fs.skeleton.places := by
  unfold Graph.places graph
  rw [Graph.nodes_addEdges]

variable {fs other : Findings}

/-- Whether an import is kept does not depend on the functions. -/
theorem inside_congr (h : fs.inventory = other.inventory) :
    ImportPair.inside fs.skeleton = ImportPair.inside other.skeleton := by
  have files : ∀ id, fs.skeleton.hasKind .file id = other.skeleton.hasKind .file id := by
    intro id
    rw [hasKind_skeleton fs NodeKind.noConfusion, hasKind_skeleton other NodeKind.noConfusion, h]
    rfl
  funext pair
  unfold ImportPair.inside
  rw [files, files]

theorem imports_congr (inventory : fs.inventory = other.inventory) (pairs : fs.pairs = other.pairs) :
    fs.imports = other.imports := by
  unfold imports
  rw [inside_congr inventory, pairs]

theorem skeleton_congr (inventory : fs.inventory = other.inventory)
    (functions : fs.functions = other.functions) : fs.skeleton = other.skeleton := by
  unfold skeleton
  rw [inventory, functions]

/-! ## Findings that agree -/

/-- Whether two runs have the same findings of some kinds. -/
def AgreeOn (fs other : Findings) (kinds : List FindingKind) : Prop :=
  ∀ kind ∈ kinds, fs.get? kind = other.get? kind

variable {kinds : List FindingKind}

theorem AgreeOn.structural (h : fs.AgreeOn other kinds) (hk : .structural ∈ kinds) :
    fs.structural = other.structural :=
  Option.map_injective (fun _ _ => Finding.structural.inj) (h _ hk)

theorem AgreeOn.inventory (h : fs.AgreeOn other kinds) (hk : .structural ∈ kinds) :
    fs.inventory = other.inventory := by
  unfold Findings.inventory
  rw [h.structural hk]

theorem AgreeOn.functions (h : fs.AgreeOn other kinds) (hk : .extraction ∈ kinds) :
    fs.functions = other.functions := by
  have same : fs.extraction = other.extraction :=
    Option.map_injective (fun _ _ => Finding.extraction.inj) (h _ hk)
  unfold Findings.functions
  rw [same]

theorem AgreeOn.pairs (h : fs.AgreeOn other kinds) (hk : .dependencies ∈ kinds) :
    fs.pairs = other.pairs := by
  have same : fs.dependencies = other.dependencies :=
    Option.map_injective (fun _ _ => Finding.dependencies.inj) (h _ hk)
  unfold Findings.pairs
  rw [same]

end Findings

/-! ## Builds that are alike -/

namespace Build

/-- Whether two runs of a build fail with the same error or give builds in a relation. -/
def Alike (related : Build → Build → Prop) : Except Error Build → Except Error Build → Prop
  | .ok b, .ok c => related b c
  | .error e, .error f => e = f
  | _, _ => False

/-- Whether two builds have the same folders and files and the same imports between them. -/
structure SameFiles (b c : Build) : Prop where
  places : b.graph.places = c.graph.places
  imports : b.graph.edgesOf .imports = c.graph.edgesOf .imports
  kept : b.report.imports = c.report.imports
  dropped : b.report.importsDropped = c.report.importsDropped

/-- Whether two builds have the same nodes and the same definitions and calls between them. -/
structure SameFunctions (b c : Build) : Prop where
  nodes : b.graph.nodes = c.graph.nodes
  defines : b.graph.edgesOf .defines = c.graph.edgesOf .defines
  calls : b.graph.edgesOf .calls = c.graph.edgesOf .calls

/-- Whether two builds have the same graph and, but for what was missing, the same report. -/
structure SameButMissing (b c : Build) : Prop where
  graph : b.graph = c.graph
  report : { b.report with missing := c.report.missing } = c.report

end Build

namespace Findings

open Build

variable {fs other : Findings} {kinds : List FindingKind}

/-- Two runs that agree on the structure both fail or are both the builds of their findings. -/
theorem alike_build {related : Build → Build → Prop} (same : fs.structural = other.structural)
    (h : related ⟨fs.graph, fs.report⟩ ⟨other.graph, other.report⟩) (size otherSize : Nat) :
    Alike related (fs.build size) (other.build otherSize) := by
  cases hs : fs.structural with
  | none =>
    have hother : other.structural = none := by rw [← same, hs]
    unfold build
    rw [hs, hother]
    rfl
  | some envelope =>
    have found : fs.structural.isSome := by rw [hs]; rfl
    rw [build_eq size found, build_eq otherSize (by rw [← same]; exact found)]
    exact h

theorem sameFiles_build (h : fs.AgreeOn other [.structural, .dependencies]) :
    SameFiles ⟨fs.graph, fs.report⟩ ⟨other.graph, other.report⟩ := by
  have inventory := h.inventory (by decide)
  have pairs := h.pairs (by decide)
  refine ⟨?_, ?_, ?_, ?_⟩
  · show fs.graph.places = other.graph.places
    rw [places_graph, places_graph, places_skeleton, places_skeleton, inventory]
    rfl
  · show fs.graph.edgesOf .imports = other.graph.edgesOf .imports
    rw [edgesOf_graph, edgesOf_graph]
    exact imports_congr inventory pairs
  · show fs.pairs.countP (ImportPair.inside fs.skeleton) = _
    rw [inside_congr inventory, pairs]
    rfl
  · show fs.pairs.countP (!ImportPair.inside fs.skeleton ·) = _
    rw [inside_congr inventory, pairs]
    rfl

theorem sameFunctions_build (h : fs.AgreeOn other [.structural, .extraction]) :
    SameFunctions ⟨fs.graph, fs.report⟩ ⟨other.graph, other.report⟩ := by
  have functions := h.functions (by decide)
  have skeleton := skeleton_congr (h.inventory (by decide)) functions
  refine ⟨?_, ?_, ?_⟩
  · show fs.graph.nodes = other.graph.nodes
    unfold graph
    rw [Graph.nodes_addEdges, Graph.nodes_addEdges, skeleton]
  · show fs.graph.edgesOf .defines = other.graph.edgesOf .defines
    rw [edgesOf_graph, edgesOf_graph]
    show fs.definitions = other.definitions
    unfold definitions
    rw [skeleton, functions]
  · show fs.graph.edgesOf .calls = other.graph.edgesOf .calls
    rw [edgesOf_graph, edgesOf_graph]
    show fs.calls.filterMap id = other.calls.filterMap id
    unfold calls
    rw [skeleton]

theorem sameButMissing_build (h : fs.AgreeOn other [.structural, .extraction, .dependencies]) :
    SameButMissing ⟨fs.graph, fs.report⟩ ⟨other.graph, other.report⟩ := by
  have inventory := h.inventory (by decide)
  have functions := h.functions (by decide)
  have pairs := h.pairs (by decide)
  have skeleton := skeleton_congr inventory functions
  refine ⟨?_, ?_⟩
  · show fs.graph = other.graph
    unfold graph definitions calls imports
    rw [skeleton, functions, pairs]
  · show { fs.report with missing := other.missing } = other.report
    unfold report calls
    rw [skeleton, inventory, functions, pairs]

/-- **No layer shows in another.** Runs with the same structure and dependencies have the same
folders, files and imports; runs with the same structure and extraction have the same nodes,
definitions and calls; and nothing but the report of what was missing depends on the history and the
risks. -/
theorem layers_independent (fs other : Findings) (size otherSize : Nat) :
    (fs.AgreeOn other [.structural, .dependencies] →
      Alike SameFiles (fs.build size) (other.build otherSize)) ∧
    (fs.AgreeOn other [.structural, .extraction] →
      Alike SameFunctions (fs.build size) (other.build otherSize)) ∧
    (fs.AgreeOn other [.structural, .extraction, .dependencies] →
      Alike SameButMissing (fs.build size) (other.build otherSize)) := by
  refine ⟨fun h => ?_, fun h => ?_, fun h => ?_⟩
  · exact alike_build (h.structural (by decide)) (sameFiles_build h) size otherSize
  · exact alike_build (h.structural (by decide)) (sameFunctions_build h) size otherSize
  · exact alike_build (h.structural (by decide)) (sameButMissing_build h) size otherSize

/-- A run without functions, one without imports, and one with a history beside all else. The
functions left out of the first have the ids of files and of ends of imports. -/
theorem layers_independent_shared :
    (shared.AgreeOn { shared with extraction := none } [.structural, .dependencies] ∧
      Alike SameFiles (shared.build 2) ({ shared with extraction := none }.build 0)) ∧
    (shared.AgreeOn { shared with dependencies := none } [.structural, .extraction] ∧
      Alike SameFunctions (shared.build 2) ({ shared with dependencies := none }.build 0)) ∧
    (shared.AgreeOn { shared with history := some ⟨"miner", 0, []⟩ }
        [.structural, .extraction, .dependencies] ∧
      Alike SameButMissing (shared.build 2)
        ({ shared with history := some ⟨"miner", 0, []⟩ }.build 0)) := by
  have extraction : shared.AgreeOn { shared with extraction := none }
      [.structural, .dependencies] := by
    unfold AgreeOn
    decide
  have dependencies : shared.AgreeOn { shared with dependencies := none }
      [.structural, .extraction] := by
    unfold AgreeOn
    decide
  have history : shared.AgreeOn { shared with history := some ⟨"miner", 0, []⟩ }
      [.structural, .extraction, .dependencies] := by
    unfold AgreeOn
    decide
  exact ⟨⟨extraction, (layers_independent _ _ 2 0).1 extraction⟩,
    ⟨dependencies, (layers_independent _ _ 2 0).2.1 dependencies⟩,
    ⟨history, (layers_independent _ _ 2 0).2.2 history⟩⟩

end Findings

end CodeAtlas
