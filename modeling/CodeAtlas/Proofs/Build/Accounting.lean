import CodeAtlas.Proofs.Build.Endpoints

/-!
# The accounts of a build

A build counts while it inserts, the counts by kind walk over the finished graph, and the rankings
read the edges at one node after the other. All three give the same totals: no end of a call or of a
definition escapes the nodes that are ranked.

1. `countEdges_calls`, `countEdges_imports`, `countEdges_defines`: what is reported of each layer is
   what it inserts.
2. `callsResolved_add_callsUnresolved`, `imports_add_importsDropped`: the rest is counted as left out.
3. `balances_of_build`: the report, the counts and the rankings agree.
-/

namespace CodeAtlas

/-- The items that a test keeps and those that it drops. -/
theorem countP_add_countP_not {α : Type} (p : α → Bool) (items : List α) :
    items.countP p + items.countP (!p ·) = items.length := by
  rw [List.length_eq_countP_add_countP p]
  refine congrArg _ (List.countP_congr fun item _ => ?_)
  rw [decide_eq_true_iff, Bool.not_eq_true', Bool.not_eq_true]

namespace Findings

variable (fs : Findings)

/-! ## The edges of a build by kind -/

theorem countEdges_calls : fs.graph.countEdges .calls = fs.report.callsResolved := by
  rw [← Graph.length_edgesOf, edgesOf_graph]
  exact List.length_filterMap_eq_countP

theorem countEdges_imports : fs.graph.countEdges .imports = fs.report.imports := by
  rw [← Graph.length_edgesOf, edgesOf_graph]
  show fs.imports.length = _
  rw [Findings.imports, List.length_map, ← List.countP_eq_length_filter]
  rfl

/-- Each reported function is defined by its file or is an orphan. -/
theorem countEdges_defines :
    fs.graph.countEdges .defines + fs.report.orphanFunctions = fs.report.functions := by
  rw [← Graph.length_edgesOf, edgesOf_graph]
  show fs.definitions.length + _ = _
  rw [definitions, List.length_map, ← List.countP_eq_length_filter]
  exact countP_add_countP_not _ fs.functions

/-! ## The calls and imports that were reported -/

theorem length_callsBy (index : CallIndex) (node : Node) :
    (Build.callsBy index node).length =
      ((node.function?.map FunctionInfo.calls).getD []).length := List.length_map _

/-- Each name that a function node calls is resolved or not. -/
theorem callsResolved_add_callsUnresolved :
    fs.report.callsResolved + fs.report.callsUnresolved =
      ((fs.skeleton.nodesOf .function).map fun node =>
        ((node.function?.map FunctionInfo.calls).getD []).length).sum := by
  have split : fs.calls.countP Option.isSome + fs.calls.countP Option.isNone = fs.calls.length := by
    rw [← countP_add_countP_not Option.isSome fs.calls]
    simp only [Option.not_isSome]
  show fs.calls.countP Option.isSome + fs.calls.countP Option.isNone = _
  rw [split, calls, List.length_flatMap]
  simp only [length_callsBy]

theorem imports_add_importsDropped :
    fs.report.imports + fs.report.importsDropped = fs.pairs.length :=
  countP_add_countP_not _ fs.pairs

/-! ## The accounts -/

/-- What the report of a build, the counts by kind of its graph and the rankings have in common. -/
structure Balances (b : Build) : Prop where
  calls : b.graph.counts.calls = b.report.callsResolved
  imports : b.graph.counts.imports = b.report.imports
  orphans : b.report.orphanFunctions ≤ b.report.functions
  defines : b.graph.counts.defines = b.report.functions - b.report.orphanFunctions
  /-- Every reported import is kept or dropped. -/
  pairs : b.report.imports + b.report.importsDropped = fs.pairs.length
  /-- Every name that a function calls is resolved or not. -/
  names : b.report.callsResolved + b.report.callsUnresolved =
    ((b.graph.nodesOf .function).map fun node =>
      ((node.function?.map FunctionInfo.calls).getD []).length).sum
  /-- Every call is at two functions, or twice at one. -/
  scores : (b.graph.centralities.map Centrality.score).sum = 2 * b.report.callsResolved
  /-- Every definition is at one file. -/
  functionCounts : ∀ weights,
    ((b.graph.importances weights).map Importance.functionCount).sum = b.graph.counts.defines

theorem balances_graph : fs.Balances ⟨fs.graph, fs.report⟩ := by
  have calls : ∀ e ∈ fs.graph.edges, e.kind = .calls →
      fs.graph.hasKind .function e.source ∧ fs.graph.hasKind .function e.target :=
    fun e he hk => (Edge.fits_calls hk).1 (ends_graph he).2.2
  have file : ∀ e ∈ fs.graph.edges, e.kind = .defines → fs.graph.hasKind .file e.source :=
    fun e he hk => (Edge.fits_defines hk).1 (ends_graph he).2.2
  have defined := fs.countEdges_defines
  refine
    { calls := fs.countEdges_calls
      imports := fs.countEdges_imports
      orphans := ?_
      defines := ?_
      pairs := fs.imports_add_importsDropped
      names := ?_
      scores := ?_
      functionCounts := fun weights => fs.graph.sum_functionCount_importances weights file }
  · show fs.report.orphanFunctions ≤ fs.report.functions
    omega
  · show fs.graph.countEdges .defines = fs.report.functions - fs.report.orphanFunctions
    omega
  · rw [nodesOf_graph]
    exact fs.callsResolved_add_callsUnresolved
  · rw [fs.graph.sum_score_centralities (fun e he hk => (calls e he hk).1)
      (fun e he hk => (calls e he hk).2), countEdges_calls]

/-- The report, the counts and the rankings of a build agree. -/
theorem balances_of_build {fs : Findings} {size : Nat} {b : Build} (h : fs.build size = .ok b) :
    fs.Balances b := by
  obtain ⟨_, rfl⟩ := build_eq_ok_iff.1 h
  exact fs.balances_graph

theorem balances_of_build_shared :
    shared.build 2 = .ok ⟨shared.graph, shared.report⟩ ∧
    shared.report = {
      files := 2, folders := 1, functions := 4, orphanFunctions := 1
      callsResolved := 2, callsUnresolved := 2, imports := 1, importsDropped := 1
      missing := [.history, .risks] } ∧
    shared.Balances ⟨shared.graph, shared.report⟩ := by
  have built : shared.build 2 = .ok ⟨shared.graph, shared.report⟩ := build_eq 2 rfl
  refine ⟨built, ?_, balances_of_build built⟩
  decide +kernel

end Findings

end CodeAtlas
