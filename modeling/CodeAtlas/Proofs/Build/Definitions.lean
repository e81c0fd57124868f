import CodeAtlas.Proofs.Build.Independence

/-!
# Where functions are defined

A build records twice where a function is defined: the function names a file, and an edge runs to it
from a file. The name is that of the last report of the function, since a later report takes over
what is known, while every report leaves its edge. The two records agree for a function that is
always reported in one file.

1. `find?_addNodes_of_kind`, `find?_skeleton`: the last of several reports is the one that is known.
2. `mem_functionsIn_iff`, `count_definitions`: the edges from a file count its reports.
3. `definingFile_graph`: the file that a function names is the one of its last report.
4. `definitions_of_build`: how the two records are related.
5. `not_definesOnce_retold`: they may differ where reports repeat the id of a function.
-/

namespace CodeAtlas

/-- A run of nodes of one kind: an id of that kind or without a node gets the last node of the run,
and an id of another kind keeps its node. -/
theorem Graph.find?_addNodes_of_kind (g : Graph) {nodes : List Node} {kind : NodeKind}
    (same : ∀ node ∈ nodes, node.kind = kind) (id : String) :
    (g.addNodes nodes).find? id =
      if (g.find? id).all (·.kind == kind) then
        (nodes.reverse.find? (·.id == id)).or (g.find? id)
      else g.find? id := by
  unfold addNodes
  induction nodes generalizing g with
  | nil => rw [List.foldl_nil, List.reverse_nil, List.find?_nil, Option.none_or, ite_self]
  | cons node rest ih =>
    have hkind : node.kind = kind := same node List.mem_cons_self
    rw [List.foldl_cons, ih (g.addNode node) fun n hn => same n (List.mem_cons_of_mem _ hn),
      List.reverse_cons, List.find?_append]
    by_cases hid : node.id = id
    · have last : [node].find? (·.id == id) = some node := by simp [hid]
      by_cases hk : (g.find? id).all (·.kind == kind) = true
      · have step : (g.addNode node).find? id = some node := by
          rw [find?_addNode, if_pos ⟨hid, by rw [hkind]; exact hk⟩]
        rw [step, last, if_pos hk, if_pos (by simp [hkind]), Option.or_assoc]
        rfl
      · have step : (g.addNode node).find? id = g.find? id := by
          rw [find?_addNode, if_neg fun h => hk (by rw [← hkind]; exact h.2)]
        rw [step, if_neg hk, if_neg hk]
    · have last : [node].find? (·.id == id) = none := by simp [hid]
      rw [g.find?_addNode_of_ne hid, last, Option.or_none]

namespace Findings

/-! ## The last report -/

/-- The last report of a function. -/
def lastReport? (fs : Findings) (id : String) : Option FunctionRecord :=
  fs.functions.reverse.find? (·.id == id)

variable {fs : Findings} {file id : String}

theorem lastReport?_eq_some {f : FunctionRecord} (h : fs.lastReport? id = some f) :
    f ∈ fs.functions ∧ f.id = id := by
  unfold lastReport? at h
  have same := List.find?_some h
  exact ⟨List.mem_reverse.1 (List.mem_of_find?_eq_some h), eq_of_beq same⟩

theorem lastReport?_isSome {f : FunctionRecord} (h : f ∈ fs.functions) :
    (fs.lastReport? f.id).isSome := by
  unfold lastReport?
  rw [List.find?_isSome]
  exact ⟨f, List.mem_reverse.2 h, beq_self_eq_true f.id⟩

/-- A reported folder or file keeps its node, and any other id has the node of its last report. -/
theorem find?_skeleton (fs : Findings) (id : String) :
    fs.skeleton.find? id =
      ((Build.ofInventory fs.missing fs.inventory).graph.find? id).or
        ((fs.lastReport? id).map FunctionRecord.node) := by
  have functions : ∀ node ∈ fs.functions.map FunctionRecord.node, node.kind = .function :=
    List.forall_mem_map.2 fun _ _ => rfl
  have last : (fs.functions.map FunctionRecord.node).reverse.find? (·.id == id) =
      (fs.lastReport? id).map FunctionRecord.node := by
    rw [← List.map_reverse, List.find?_map]
    rfl
  have run := (Build.ofInventory fs.missing fs.inventory).graph.find?_addNodes_of_kind functions id
  rw [last] at run
  show ((Build.ofInventory fs.missing fs.inventory).graph.addNodes _).find? id = _
  rw [run]
  cases hf : (Build.ofInventory fs.missing fs.inventory).graph.find? id with
  | none => simp
  | some stored =>
    -- the first layer holds no function
    have place : stored.kind ≠ .function := by
      intro hk
      have listed : stored ∈
          (Build.ofInventory fs.missing fs.inventory).graph.nodesOf .function := by
        rw [Graph.mem_nodesOf_iff, Graph.id_of_find? hf]
        exact ⟨hf, hk⟩
      rw [nodesOf_function_ofInventory] at listed
      cases listed
    simp [place]

theorem contains_ofInventory (missing : List FindingKind) (inventory : Inventory) (id : String) :
    (Build.ofInventory missing inventory).graph.contains id = true ↔
      id ∈ inventory.files ∨ id ∈ inventory.folders := by
  unfold Build.ofInventory
  rw [Graph.contains_addNodes, Graph.contains_addNodes]
  have none_known : Graph.empty.contains id = false := by
    rw [Graph.contains_eq]
    rfl
  simp [none_known, Node.file, Node.folder]

/-- The function nodes are the reported functions whose id is not that of a file or folder. -/
theorem hasKind_function_skeleton (fs : Findings) (id : String) :
    fs.skeleton.hasKind .function id = true ↔
      (∃ f ∈ fs.functions, f.id = id) ∧ id ∉ fs.inventory.files ∧ id ∉ fs.inventory.folders := by
  rw [← not_or, ← contains_ofInventory fs.missing, Graph.contains_eq]
  unfold Graph.hasKind
  rw [find?_skeleton]
  cases hf : (Build.ofInventory fs.missing fs.inventory).graph.find? id with
  | some stored =>
    have place : (Build.ofInventory fs.missing fs.inventory).graph.hasKind .function id = false := by
      rw [Bool.eq_false_iff]
      intro known
      obtain ⟨node, hn, _⟩ := (Graph.hasKind_iff _ _ _).1 known
      rw [nodesOf_function_ofInventory] at hn
      cases hn
    unfold Graph.hasKind at place
    rw [hf] at place
    simpa using place
  | none =>
    rw [Option.none_or]
    cases hl : fs.lastReport? id with
    | some f =>
      have reported : ∃ f ∈ fs.functions, f.id = id := ⟨f, lastReport?_eq_some hl⟩
      simpa [FunctionRecord.node] using reported
    | none =>
      have unreported : ¬ ∃ f ∈ fs.functions, f.id = id := by
        rintro ⟨f, reported, rfl⟩
        have found := lastReport?_isSome reported
        rw [hl] at found
        cases found
      simpa using unreported

/-! ## The edges of a file -/

/-- The edge that the report of a function leaves. -/
theorem mem_edges_defines_iff (known : fs.graph.hasKind .file file) :
    ⟨file, id, .defines⟩ ∈ fs.graph.edges.toList ↔
      ∃ f ∈ fs.functions, f.id = id ∧ f.file = file := by
  have layer : ⟨file, id, .defines⟩ ∈ fs.graph.edges.toList ↔
      ⟨file, id, .defines⟩ ∈ fs.graph.edgesOf .defines := by
    unfold Graph.edgesOf
    rw [List.mem_filter]
    simp
  rw [layer, edgesOf_graph, mem_definitions_iff]
  constructor
  · rintro ⟨f, hf, _, he⟩
    exact ⟨f, hf, congrArg Edge.target he, congrArg Edge.source he⟩
  · rintro ⟨f, hf, rfl, rfl⟩
    rw [hasKind_graph] at known
    exact ⟨f, hf, known, rfl⟩

theorem mem_functionsIn_iff (known : fs.graph.hasKind .file file) :
    id ∈ fs.graph.functionsIn file ↔ ∃ f ∈ fs.functions, f.id = id ∧ f.file = file := by
  unfold Graph.functionsIn
  rw [List.mem_eraseDups, Graph.mem_targets_iff, mem_edges_defines_iff known]

/-- A file has as many edges to a function as there are reports of the function in the file. -/
theorem count_definitions (known : fs.graph.hasKind .file file) (id : String) :
    fs.graph.edges.toList.count ⟨file, id, .defines⟩ =
      fs.functions.countP fun f => f.id == id && f.file == file := by
  rw [hasKind_graph] at known
  have layer : fs.graph.edges.toList.count ⟨file, id, .defines⟩ =
      (fs.graph.edgesOf .defines).count ⟨file, id, .defines⟩ :=
    (List.count_filter (by rfl)).symm
  rw [layer, edgesOf_graph]
  show fs.definitions.count _ = _
  unfold definitions List.count
  rw [List.countP_map, List.countP_filter]
  refine List.countP_congr fun f _ => ?_
  simp only [Function.comp_apply, FunctionRecord.edge, FunctionRecord.placed, Bool.and_eq_true,
    beq_iff_eq, Edge.mk.injEq, and_true]
  constructor
  · rintro ⟨⟨hfile, hid⟩, _⟩
    exact ⟨hid, hfile⟩
  · rintro ⟨hid, hfile⟩
    exact ⟨⟨hfile, hid⟩, by rw [hfile, known]⟩

/-! ## The file of a function -/

/-- A function names the file of its last report. -/
theorem definingFile_graph (known : fs.graph.hasKind .function id) :
    ∃ f, fs.lastReport? id = some f ∧ fs.graph.definingFile id = some f.file := by
  rw [hasKind_graph, hasKind_function_skeleton] at known
  obtain ⟨⟨f, hf, rfl⟩, hfiles, hfolders⟩ := known
  obtain ⟨last, hl⟩ := Option.isSome_iff_exists.1 (lastReport?_isSome hf)
  have new : (Build.ofInventory fs.missing fs.inventory).graph.find? f.id = none := by
    rw [← Option.not_isSome_iff_eq_none, ← Graph.contains_eq, contains_ofInventory]
    exact not_or.2 ⟨hfiles, hfolders⟩
  have found : fs.graph.find? f.id = some last.node := by
    unfold graph
    rw [Graph.find?_addEdges, find?_skeleton, new, hl]
    rfl
  refine ⟨last, hl, ?_⟩
  unfold Graph.definingFile Graph.function?
  rw [found]
  rfl

/-- The file that a function names lists the function. -/
theorem mem_functionsIn_definingFile (hfile : fs.graph.hasKind .file file)
    (hid : fs.graph.hasKind .function id) (h : fs.graph.definingFile id = some file) :
    id ∈ fs.graph.functionsIn file := by
  obtain ⟨last, hl, named⟩ := definingFile_graph hid
  obtain ⟨hm, rfl⟩ := lastReport?_eq_some hl
  rw [mem_functionsIn_iff hfile]
  exact ⟨last, hm, rfl, Option.some.inj (named.symm.trans h)⟩

/-- A file that lists a function is the one that the function names, if no report of the function
names another file. -/
theorem definingFile_of_mem_functionsIn (hfile : fs.graph.hasKind .file file)
    (hid : fs.graph.hasKind .function id) (h : id ∈ fs.graph.functionsIn file)
    (one : ∀ f ∈ fs.functions, ∀ f' ∈ fs.functions, f.id = id → f'.id = id → f.file = f'.file) :
    fs.graph.definingFile id = some file := by
  obtain ⟨last, hl, named⟩ := definingFile_graph hid
  obtain ⟨hm, hlast⟩ := lastReport?_eq_some hl
  obtain ⟨f, hf, hfid, rfl⟩ := (mem_functionsIn_iff hfile).1 h
  rw [named, one last hm f hf hlast hfid]

/-! ## The two records -/

/-- How the two records of a graph are related to the reports of functions. -/
structure DefinesReported (fs : Findings) (g : Graph) : Prop where
  /-- A file lists what some report places in it. -/
  listed : ∀ file id, g.hasKind .file file →
    (id ∈ g.functionsIn file ↔ ∃ f ∈ fs.functions, f.id = id ∧ f.file = file)
  /-- A function names the file of its last report. -/
  named : ∀ id, g.hasKind .function id →
    ∃ f, fs.lastReport? id = some f ∧ g.definingFile id = some f.file
  /-- Every report leaves an edge. -/
  count : ∀ file id, g.hasKind .file file →
    g.edges.toList.count ⟨file, id, .defines⟩ =
      fs.functions.countP fun f => f.id == id && f.file == file
  /-- The file that a function names lists it. -/
  lists_named : ∀ file id, g.hasKind .file file → g.hasKind .function id →
    g.definingFile id = some file → id ∈ g.functionsIn file
  /-- The two records agree unless two reports of the function name different files. -/
  listed_iff_named : ∀ file id, g.hasKind .file file → g.hasKind .function id →
    (∀ f ∈ fs.functions, ∀ f' ∈ fs.functions, f.id = id → f'.id = id → f.file = f'.file) →
    (id ∈ g.functionsIn file ↔ g.definingFile id = some file)
  /-- There is one edge unless the function is reported in the file again. -/
  count_eq_one : ∀ file id, g.hasKind .file file → id ∈ g.functionsIn file →
    (fs.functions.countP fun f => f.id == id && f.file == file) ≤ 1 →
    g.edges.toList.count ⟨file, id, .defines⟩ = 1
  /-- What a file defines is a function unless its id was reported as that of a file or folder. -/
  targets : ∀ e ∈ g.edges, e.kind = .defines → e.target ∉ fs.inventory.files →
    e.target ∉ fs.inventory.folders → g.hasKind .function e.target

theorem definesReported_graph (fs : Findings) : fs.DefinesReported fs.graph where
  listed := fun _ _ => mem_functionsIn_iff
  named := fun _ => definingFile_graph
  count := fun _ id known => count_definitions known id
  lists_named := fun _ _ => mem_functionsIn_definingFile
  listed_iff_named := fun _ _ hfile hid one =>
    ⟨fun h => definingFile_of_mem_functionsIn hfile hid h one,
      mem_functionsIn_definingFile hfile hid⟩
  count_eq_one := by
    intro file id known listed single
    have some_edge : 0 < fs.graph.edges.toList.count ⟨file, id, .defines⟩ := by
      rw [List.count_pos_iff, mem_edges_defines_iff known, ← mem_functionsIn_iff known]
      exact listed
    rw [count_definitions known] at some_edge ⊢
    omega
  targets := by
    intro e he hk hfiles hfolders
    have layer : e ∈ fs.graph.edgesOf .defines := by
      unfold Graph.edgesOf
      rw [List.mem_filter, Array.mem_toList_iff, beq_iff_eq]
      exact ⟨he, hk⟩
    rw [edgesOf_graph] at layer
    obtain ⟨f, hf, _, rfl⟩ := mem_definitions_iff.1 layer
    rw [hasKind_graph, hasKind_function_skeleton]
    exact ⟨⟨f, hf, rfl⟩, hfiles, hfolders⟩

/-- **Two records of one fact.** In every build the edges from the files and the files that the
functions name are the traces of the same reports. -/
theorem definitions_of_build {fs : Findings} {size : Nat} {b : Build} (h : fs.build size = .ok b) :
    fs.DefinesReported b.graph := by
  obtain ⟨_, rfl⟩ := build_eq_ok_iff.1 h
  exact fs.definesReported_graph

theorem definitions_of_build_shared :
    shared.build 2 = .ok ⟨shared.graph, shared.report⟩ ∧
    shared.graph.functionsIn "src/b.rs" = ["src/a.rs::f", "src/a.rs"] ∧
    shared.DefinesReported shared.graph := by
  have built : shared.build 2 = .ok ⟨shared.graph, shared.report⟩ := build_eq 2 rfl
  refine ⟨built, ?_, definitions_of_build built⟩
  decide +kernel

end Findings

/-- Whether the two records of a graph are one: a file lists a function exactly if the function
names the file, by one edge, and files define nothing but functions. -/
structure Graph.DefinesOnce (g : Graph) : Prop where
  listed_iff_named : ∀ file id, g.hasKind .file file → g.hasKind .function id →
    (id ∈ g.functionsIn file ↔ g.definingFile id = some file)
  count_eq_one : ∀ file id, g.hasKind .file file → g.hasKind .function id →
    id ∈ g.functionsIn file → g.edges.toList.count ⟨file, id, .defines⟩ = 1
  targets : ∀ e ∈ g.edges, e.kind = .defines → g.hasKind .function e.target

namespace Findings

/-- A function that is reported in two files, in the second one twice, and one with the id of a
file. -/
def retold : Findings :=
  { shared with
    extraction := some ⟨"reader", 0,
      shared.functions ++ [⟨"src/a.rs::f", "g", "src/b.rs", 2, ["g", "missing"]⟩]⟩ }

/-- The first file lists the function although the function does not name it, the second one has two
edges to it, and one to the file. -/
theorem not_definesOnce_retold :
    retold.build 2 = .ok ⟨retold.graph, retold.report⟩ ∧
    retold.graph.functionsIn "src/a.rs" = ["src/a.rs::f"] ∧
    retold.graph.definingFile "src/a.rs::f" = some "src/b.rs" ∧
    retold.graph.leavingOf .defines "src/b.rs" =
      [⟨"src/b.rs", "src/a.rs::f", .defines⟩, ⟨"src/b.rs", "src/a.rs", .defines⟩,
        ⟨"src/b.rs", "src/a.rs::f", .defines⟩] ∧
    ¬ retold.graph.DefinesOnce := by
  have built : retold.build 2 = .ok ⟨retold.graph, retold.report⟩ := build_eq 2 rfl
  have listed : retold.graph.functionsIn "src/a.rs" = ["src/a.rs::f"] := by decide +kernel
  have named : retold.graph.definingFile "src/a.rs::f" = some "src/b.rs" := by decide +kernel
  refine ⟨built, listed, named, by decide +kernel, fun once => ?_⟩
  have mem : "src/a.rs::f" ∈ retold.graph.functionsIn "src/a.rs" := by
    rw [listed]
    exact List.mem_singleton.2 rfl
  have agree := (once.listed_iff_named "src/a.rs" "src/a.rs::f" (by decide +kernel)
    (by decide +kernel)).1 mem
  rw [named] at agree
  exact absurd agree (by decide)

end Findings

end CodeAtlas
