import CodeAtlas.Build.Basic
import CodeAtlas.Proofs.Graph.Runs

/-!
# The layers of a build

Only the layer of folders and files makes file nodes, so every check of a file during a build gives
what it gives on the graph of all reported nodes. That graph, the skeleton, has no edges, and the
insertions of nodes and edges commute. Hence a build is its skeleton with three lists of edges, and
its report counts what the lists hold and leave out.

1. `Build.addFunctions_eq`, `Build.foldl_addImport`: what the layers of functions and of imports do.
2. `hasKind_skeleton`: the folders and files of a skeleton are those of the first layer.
3. `build_eq`, `build_eq_ok_iff`: the graph and the report of a build.
-/

namespace CodeAtlas

/-! ## What findings report -/

/-- The edge from the file of a reported function. -/
def FunctionRecord.edge (f : FunctionRecord) : Edge := ⟨f.file, f.id, .defines⟩

/-- The edge of a reported import. -/
def ImportPair.edge (pair : ImportPair) : Edge := ⟨pair.source, pair.target, .imports⟩

/-- Whether the file of a reported function is a file node. -/
def FunctionRecord.placed (g : Graph) (f : FunctionRecord) : Bool := g.hasKind .file f.file

/-- Whether both ends of a reported import are file nodes. -/
def ImportPair.inside (g : Graph) (pair : ImportPair) : Bool :=
  g.hasKind .file pair.source && g.hasKind .file pair.target

namespace Findings

/-- The reported folders and files. -/
def inventory (fs : Findings) : Inventory := (fs.structural.map Envelope.data).getD ⟨[], []⟩

/-- The reported functions. -/
def functions (fs : Findings) : List FunctionRecord := (fs.extraction.map Envelope.data).getD []

/-- The reported imports. -/
def pairs (fs : Findings) : List ImportPair := (fs.dependencies.map Envelope.data).getD []

/-- The graph of the reported nodes, without edges. -/
def skeleton (fs : Findings) : Graph :=
  ((Graph.empty.addNodes (fs.inventory.folders.map Node.folder)).addNodes
    (fs.inventory.files.map Node.file)).addNodes (fs.functions.map FunctionRecord.node)

/-- The edges to the reported functions whose file is known. -/
def definitions (fs : Findings) : List Edge :=
  (fs.functions.filter (FunctionRecord.placed fs.skeleton)).map FunctionRecord.edge

/-- The calls between the reported functions, each as its edge if its name means a function. -/
def calls (fs : Findings) : List (Option Edge) :=
  (fs.skeleton.nodesOf .function).flatMap
    (Build.callsBy (CallIndex.ofNodes (fs.skeleton.nodesOf .function)))

/-- The edges of the reported imports between known files. -/
def imports (fs : Findings) : List Edge :=
  (fs.pairs.filter (ImportPair.inside fs.skeleton)).map ImportPair.edge

/-- The graph of a build. -/
def graph (fs : Findings) : Graph :=
  fs.skeleton.addEdges (fs.definitions ++ fs.calls.filterMap id ++ fs.imports)

/-- The report of a build. -/
def report (fs : Findings) : Report where
  files := fs.inventory.files.length
  folders := fs.inventory.folders.length
  functions := fs.functions.length
  orphanFunctions := fs.functions.countP (!FunctionRecord.placed fs.skeleton ·)
  callsResolved := fs.calls.countP Option.isSome
  callsUnresolved := fs.calls.countP Option.isNone
  imports := fs.pairs.countP (ImportPair.inside fs.skeleton)
  importsDropped := fs.pairs.countP (!ImportPair.inside fs.skeleton ·)
  missing := fs.missing

end Findings

namespace FunctionRecord

theorem kind_node_ne (f : FunctionRecord) {kind : NodeKind} (h : kind ≠ .function) :
    f.node.kind ≠ kind := Ne.symm h

/-- A function node does not change which functions have a known file. -/
theorem placed_addNode (g : Graph) (f : FunctionRecord) : placed (g.addNode f.node) = placed g := by
  funext other
  exact g.hasKind_addNode_of_ne (f.kind_node_ne NodeKind.noConfusion) other.file

end FunctionRecord

namespace Build

/-! ## Functions -/

theorem addFunction_of_placed (b : Build) {f : FunctionRecord} (h : f.placed b.graph = true) :
    b.addFunction f =
      { graph := (b.graph.addNode f.node).addEdge f.edge
        report := { b.report with functions := b.report.functions + 1 } } := by
  have known : (b.graph.addNode f.node).hasKind .file f.file = true := by
    rw [← h, ← f.placed_addNode b.graph]
    rfl
  unfold addFunction
  dsimp only
  rw [if_pos known]
  rfl

theorem addFunction_of_not_placed (b : Build) {f : FunctionRecord} (h : f.placed b.graph = false) :
    b.addFunction f =
      { graph := b.graph.addNode f.node
        report := { b.report with
          functions := b.report.functions + 1
          orphanFunctions := b.report.orphanFunctions + 1 } } := by
  have unknown : (b.graph.addNode f.node).hasKind .file f.file = false := by
    rw [← h, ← f.placed_addNode b.graph]
    rfl
  unfold addFunction
  dsimp only
  rw [if_neg (by rw [unknown]; decide)]

theorem placed_addFunction (b : Build) (f : FunctionRecord) :
    FunctionRecord.placed (b.addFunction f).graph = FunctionRecord.placed b.graph := by
  cases h : f.placed b.graph with
  | true =>
    rw [addFunction_of_placed b h, ← f.placed_addNode b.graph]
    rfl
  | false => rw [addFunction_of_not_placed b h, f.placed_addNode b.graph]

/-- The layer of functions: all nodes, and the edges from the known files. -/
theorem addFunctions_eq (size : Nat) (b : Build) (fs : List FunctionRecord) :
    b.addFunctions size fs =
      { graph := (b.graph.addNodes (fs.map FunctionRecord.node)).addEdges
          ((fs.filter (FunctionRecord.placed b.graph)).map FunctionRecord.edge)
        report := { b.report with
          functions := b.report.functions + fs.length
          orphanFunctions := b.report.orphanFunctions +
            fs.countP (!FunctionRecord.placed b.graph ·) } } := by
  unfold addFunctions
  rw [foldl_batches]
  induction fs generalizing b with
  | nil => rfl
  | cons f rest ih =>
    -- the rest is checked against a graph with one more function, which has the same files
    rw [List.foldl_cons, ih, placed_addFunction]
    cases h : f.placed b.graph with
    | true =>
      rw [addFunction_of_placed b h, List.filter_cons_of_pos h, List.countP_cons_of_neg (by simp [h])]
      simp only [Graph.addNodes_addEdge, List.length_cons, List.map_cons]
      refine congrArg₂ Build.mk rfl ?_
      rw [Nat.add_assoc, Nat.add_comm 1]
    | false =>
      rw [addFunction_of_not_placed b h, List.filter_cons_of_neg (by simp [h]),
        List.countP_cons_of_pos (by simp [h])]
      simp only [List.length_cons, List.map_cons]
      refine congrArg₂ Build.mk rfl ?_
      rw [Nat.add_assoc, Nat.add_comm 1, Nat.add_assoc, Nat.add_comm 1]

/-! ## Calls -/

theorem callsIn_eq (size : Nat) (g : Graph) :
    callsIn size g =
      (g.nodesOf .function).flatMap (callsBy (CallIndex.ofNodes (g.nodesOf .function))) :=
  flatMap_batches _ size _

/-! ## Imports -/

theorem inside_addEdge (g : Graph) (edge : Edge) :
    ImportPair.inside (g.addEdge edge) = ImportPair.inside g := rfl

theorem inside_addEdges (g : Graph) (edges : List Edge) :
    ImportPair.inside (g.addEdges edges) = ImportPair.inside g := by
  funext pair
  unfold ImportPair.inside
  rw [Graph.hasKind_addEdges, Graph.hasKind_addEdges]

/-- The layer of imports: the edges between known files. -/
theorem foldl_addImport (b : Build) (pairs : List ImportPair) :
    pairs.foldl addImport b =
      { graph := b.graph.addEdges ((pairs.filter (ImportPair.inside b.graph)).map ImportPair.edge)
        report := { b.report with
          imports := b.report.imports + pairs.countP (ImportPair.inside b.graph)
          importsDropped := b.report.importsDropped +
            pairs.countP (!ImportPair.inside b.graph ·) } } := by
  induction pairs generalizing b with
  | nil => rfl
  | cons pair rest ih =>
    cases h : pair.inside b.graph with
    | true =>
      have step : b.addImport pair =
          { graph := b.graph.addEdge pair.edge
            report := { b.report with imports := b.report.imports + 1 } } := if_pos h
      rw [List.foldl_cons, ih, step, inside_addEdge, List.filter_cons_of_pos h,
        List.countP_cons_of_pos h, List.countP_cons_of_neg (by simp [h])]
      refine congrArg₂ Build.mk rfl ?_
      rw [Nat.add_assoc, Nat.add_comm 1]
    | false =>
      have step : b.addImport pair =
          { b with report := { b.report with importsDropped := b.report.importsDropped + 1 } } :=
        if_neg (by rw [← ImportPair.inside, h]; decide)
      rw [List.foldl_cons, ih, step, List.filter_cons_of_neg (by simp [h]),
        List.countP_cons_of_neg (by simp [h]), List.countP_cons_of_pos (by simp [h])]
      refine congrArg₂ Build.mk rfl ?_
      rw [Nat.add_assoc, Nat.add_comm 1]

end Build

/-! ## The build -/

namespace Findings

/-- The folders and files of a skeleton. -/
theorem hasKind_skeleton (fs : Findings) {kind : NodeKind} (h : kind ≠ .function) (id : String) :
    fs.skeleton.hasKind kind id =
      (Build.ofInventory fs.missing fs.inventory).graph.hasKind kind id := by
  refine Graph.hasKind_addNodes_of_ne _ ?_ id
  exact List.forall_mem_map.2 fun record _ => record.kind_node_ne h

theorem placed_skeleton (fs : Findings) :
    FunctionRecord.placed (Build.ofInventory fs.missing fs.inventory).graph =
      FunctionRecord.placed fs.skeleton := by
  funext f
  exact (fs.hasKind_skeleton NodeKind.noConfusion f.file).symm

/-- Only the layer of functions makes function nodes. -/
theorem nodesOf_function_ofInventory (missing : List FindingKind) (inventory : Inventory) :
    (Build.ofInventory missing inventory).graph.nodesOf .function = [] := by
  have folders : ∀ node ∈ inventory.folders.map Node.folder, node.kind ≠ .function :=
    List.forall_mem_map.2 fun _ _ => NodeKind.noConfusion
  have files : ∀ node ∈ inventory.files.map Node.file, node.kind ≠ .function :=
    List.forall_mem_map.2 fun _ _ => NodeKind.noConfusion
  refine List.eq_nil_iff_forall_not_mem.2 fun node hn => ?_
  have known := (Graph.hasKind_iff _ .function node.id).2 ⟨node, hn, rfl⟩
  unfold Build.ofInventory at known
  rw [Graph.hasKind_addNodes_of_ne _ files, Graph.hasKind_addNodes_of_ne _ folders] at known
  cases known

/-- Without an extraction there are no calls, as if no function were extracted. -/
theorem addExtraction_eq (size : Nat) (fs : Findings) :
    (Build.ofInventory fs.missing fs.inventory).addExtraction size
        (fs.extraction.map Envelope.data) =
      ((Build.ofInventory fs.missing fs.inventory).addFunctions size fs.functions).addCalls
        size := by
  unfold functions
  cases fs.extraction with
  | some envelope => rfl
  | none =>
    have quiet : Build.callsIn size (Build.ofInventory fs.missing fs.inventory).graph = [] := by
      rw [Build.callsIn_eq, nodesOf_function_ofInventory]
      rfl
    show _ = (Build.addFunctions size _ []).addCalls size
    unfold Build.addFunctions
    rw [foldl_batches, List.foldl_nil, Build.addCalls, quiet]
    rfl

/-- The graph and the report after the layer of calls. -/
theorem addCalls_addFunctions_eq (size : Nat) (fs : Findings) :
    ((Build.ofInventory fs.missing fs.inventory).addFunctions size fs.functions).addCalls size =
      { graph := fs.skeleton.addEdges (fs.definitions ++ fs.calls.filterMap id)
        report := { fs.report with imports := 0, importsDropped := 0 } } := by
  have functions : (fs.skeleton.addEdges fs.definitions).nodesOf .function =
      fs.skeleton.nodesOf .function := Graph.nodesOf_addEdges _ _ _
  have calls : Build.callsIn size (fs.skeleton.addEdges fs.definitions) = fs.calls := by
    rw [Build.callsIn_eq, functions]
    rfl
  have defined : (Build.ofInventory fs.missing fs.inventory).addFunctions size fs.functions =
      { graph := fs.skeleton.addEdges fs.definitions
        report := { fs.report with
          callsResolved := 0, callsUnresolved := 0, imports := 0, importsDropped := 0 } } := by
    rw [Build.addFunctions_eq, placed_skeleton]
    refine congrArg₂ Build.mk rfl ?_
    simp only [Build.ofInventory, report, Nat.zero_add]
  rw [defined, Build.addCalls, calls, Graph.addEdges_append]
  rfl

/-- The graph and the report of a build. -/
theorem build_eq (size : Nat) {fs : Findings} (h : fs.structural.isSome) :
    fs.build size = .ok ⟨fs.graph, fs.report⟩ := by
  obtain ⟨envelope, he⟩ := Option.isSome_iff_exists.1 h
  have found : fs.inventory = envelope.data := by
    unfold inventory
    rw [he]
    rfl
  have imports : ∀ b : Build, b.addImports (fs.dependencies.map Envelope.data) =
      fs.pairs.foldl Build.addImport b := by
    intro b
    unfold pairs
    cases fs.dependencies <;> rfl
  have layers : ((Build.ofInventory fs.missing fs.inventory).addExtraction size
        (fs.extraction.map Envelope.data)).addImports (fs.dependencies.map Envelope.data) =
      ⟨fs.graph, fs.report⟩ := by
    rw [addExtraction_eq, imports, addCalls_addFunctions_eq, Build.foldl_addImport]
    dsimp only
    rw [Build.inside_addEdges, ← Graph.addEdges_append, Nat.zero_add, Nat.zero_add]
    rfl
  unfold build
  rw [he]
  dsimp only
  rw [← found, layers]

/-- A build succeeds exactly with an inventory. -/
theorem build_eq_ok_iff {size : Nat} {fs : Findings} {b : Build} :
    fs.build size = .ok b ↔ fs.structural.isSome ∧ b = ⟨fs.graph, fs.report⟩ := by
  constructor
  · intro h
    have some_inventory : fs.structural.isSome := by
      unfold build at h
      cases hs : fs.structural with
      | none =>
        rw [hs] at h
        cases h
      | some envelope => rfl
    rw [build_eq size some_inventory] at h
    cases h
    exact ⟨some_inventory, rfl⟩
  · rintro ⟨h, rfl⟩
    exact build_eq size h

theorem edges_graph (fs : Findings) :
    fs.graph.edges.toList = fs.definitions ++ fs.calls.filterMap id ++ fs.imports := by
  have bare : fs.skeleton.edges = #[] := by
    unfold skeleton
    rw [Graph.edges_addNodes, Graph.edges_addNodes, Graph.edges_addNodes]
    rfl
  unfold graph
  rw [Graph.edges_addEdges, bare, List.nil_append]

end Findings

end CodeAtlas
