import CodeAtlas.Proofs.Build.Callees
import CodeAtlas.Proofs.Build.Independence
import CodeAtlas.Proofs.List.Occurrences

/-!
# The nodes of a report

A report counts the folders, files and functions that were reported. The graph has one node for an
id, however often the id is reported, and the first layer that reports it decides its kind. So the
counts of a report are those of its graph exactly if no id is reported twice, and no count of a
report is too small.

1. `ids_nodesOf_graph`: the ids of the nodes of each kind, in order.
2. `nodesCounted_graph`: when a count of the report is that of the graph.
3. `nodes_of_build`: the counts of a build.
4. `not_counted_repeated`: a report may count nodes that the graph does not have.
-/

namespace CodeAtlas

/-- The nodes of a kind that a report counts. -/
def Report.ofKind (r : Report) : NodeKind → Nat
  | .file => r.files
  | .folder => r.folders
  | .function => r.functions

/-- The nodes of a kind. -/
def Counts.ofKind (c : Counts) : NodeKind → Nat
  | .file => c.files
  | .folder => c.folders
  | .function => c.functions

namespace Graph

variable (g : Graph) {kind : NodeKind}

theorem ofKind_counts (kind : NodeKind) : g.counts.ofKind kind = (g.nodesOf kind).length := by
  rw [length_nodesOf]
  cases kind <;> rfl

/-- Nodes of other kinds leave the nodes of a kind as they are. -/
theorem nodesOf_addNodes_of_ne {nodes : List Node} (others : ∀ node ∈ nodes, node.kind ≠ kind) :
    (g.addNodes nodes).nodesOf kind = g.nodesOf kind := by
  rw [nodesOf_eq, nodesOf_eq]
  exact g.filter_nodes_addNodes (p := (· == kind)) fun node hn => beq_false_of_ne (others node hn)

end Graph

namespace Findings

variable (fs : Findings)

/-! ## The ids of the nodes -/

/-- The ids that are reported for a kind, in order. -/
def reported : NodeKind → List String
  | .folder => fs.inventory.folders
  | .file => fs.inventory.files
  | .function => fs.functions.map FunctionRecord.id

/-- The ids that are reported for the kinds that are inserted before a kind. -/
def taken : NodeKind → List String
  | .folder => []
  | .file => fs.inventory.folders
  | .function => fs.inventory.files ++ fs.inventory.folders

/-- The ids of the nodes of a kind: those that are reported for it and not taken, each once. -/
def inserted (kind : NodeKind) : List String :=
  ((fs.reported kind).filter (· ∉ fs.taken kind)).eraseDups

/-- The graph after the folders. -/
theorem ids_folders (paths : List String) :
    ((Graph.empty.addNodes (paths.map Node.folder)).nodesOf .folder).map Node.id =
      paths.eraseDups := by
  have folders : ∀ node ∈ paths.map Node.folder, node.kind = .folder :=
    List.forall_mem_map.2 fun _ _ => rfl
  have free : ∀ id, (!Graph.empty.contains id) = true := by
    intro id
    rw [Graph.contains_eq]
    rfl
  rw [Graph.ids_nodesOf_addNodes _ folders, List.map_map]
  simp only [free, List.filter_true]
  exact congrArg List.eraseDups (List.map_id paths)

/-- The graph after the files. -/
theorem ids_files (inventory : Inventory) :
    (((Graph.empty.addNodes (inventory.folders.map Node.folder)).addNodes
        (inventory.files.map Node.file)).nodesOf .file).map Node.id =
      (inventory.files.filter (· ∉ inventory.folders)).eraseDups := by
  have free : ∀ id, (!(Graph.empty.addNodes (inventory.folders.map Node.folder)).contains id) =
      decide (id ∉ inventory.folders) := by
    intro id
    have none_known : Graph.empty.contains id = false := by
      rw [Graph.contains_eq]
      rfl
    rw [Bool.eq_iff_iff, Bool.not_eq_true', ← Bool.not_eq_true, Graph.contains_addNodes,
      none_known]
    simp [Node.folder]
  have none_yet : (Graph.empty.addNodes (inventory.folders.map Node.folder)).nodesOf .file = [] :=
    Graph.nodesOf_addNodes_of_ne _ (List.forall_mem_map.2 fun _ _ => NodeKind.noConfusion)
  have files : ∀ node ∈ inventory.files.map Node.file, node.kind = .file :=
    List.forall_mem_map.2 fun _ _ => rfl
  rw [Graph.ids_nodesOf_addNodes _ files, none_yet, List.map_map]
  simp only [free]
  exact congrArg (fun ids => (List.filter _ ids).eraseDups) (List.map_id inventory.files)

theorem ids_nodesOf_graph (kind : NodeKind) :
    (fs.graph.nodesOf kind).map Node.id = fs.inserted kind := by
  have functions : ∀ {kind : NodeKind}, kind ≠ .function →
      ∀ node ∈ fs.functions.map FunctionRecord.node, node.kind ≠ kind := by
    intro kind hne
    exact List.forall_mem_map.2 fun record _ => record.kind_node_ne hne
  have files : ∀ node ∈ fs.inventory.files.map Node.file, node.kind ≠ .folder :=
    List.forall_mem_map.2 fun _ _ => NodeKind.noConfusion
  rw [nodesOf_graph]
  unfold inserted
  cases kind with
  | folder =>
    unfold skeleton
    rw [Graph.nodesOf_addNodes_of_ne _ (functions NodeKind.noConfusion),
      Graph.nodesOf_addNodes_of_ne _ files, ids_folders]
    simp [reported, taken]
  | file =>
    unfold skeleton
    rw [Graph.nodesOf_addNodes_of_ne _ (functions NodeKind.noConfusion), ids_files]
    rfl
  | function =>
    rw [ids_function_skeleton]
    simp only [reported, taken, List.mem_append, not_or]

/-! ## The counts -/

theorem ofKind_report (kind : NodeKind) : fs.report.ofKind kind = (fs.reported kind).length := by
  cases kind with
  | file => rfl
  | folder => rfl
  | function => exact (List.length_map _).symm

theorem ofKind_counts_graph (kind : NodeKind) :
    fs.graph.counts.ofKind kind = (fs.inserted kind).length := by
  rw [Graph.ofKind_counts, ← ids_nodesOf_graph, List.length_map]

/-- How the nodes that a report counts are related to the nodes of the graph. -/
structure NodesCounted (fs : Findings) (b : Build) : Prop where
  /-- The report counts what was reported. -/
  reported : ∀ kind, b.report.ofKind kind = (fs.reported kind).length
  /-- The graph has a node for each id that was reported for a kind and not for one before it. -/
  inserted : ∀ kind, (b.graph.nodesOf kind).map Node.id = fs.inserted kind
  counts : ∀ kind, b.graph.counts.ofKind kind = (fs.inserted kind).length
  /-- No node is left out of the report. -/
  counts_le : ∀ kind, b.graph.counts.ofKind kind ≤ b.report.ofKind kind
  /-- The count of a kind is right exactly if its ids are pairwise different and new. -/
  report_eq_iff : ∀ kind, b.report.ofKind kind = b.graph.counts.ofKind kind ↔
    (fs.reported kind).Nodup ∧ ∀ id ∈ fs.reported kind, id ∉ fs.taken kind
  /-- All three counts are right exactly if all reported ids are pairwise different. -/
  agree_iff : (b.report.files = b.graph.counts.files ∧ b.report.folders = b.graph.counts.folders ∧
      b.report.functions = b.graph.counts.functions) ↔
    (fs.inventory.folders ++ fs.inventory.files ++ fs.functions.map FunctionRecord.id).Nodup

theorem report_eq_iff (kind : NodeKind) :
    fs.report.ofKind kind = fs.graph.counts.ofKind kind ↔
      (fs.reported kind).Nodup ∧ ∀ id ∈ fs.reported kind, id ∉ fs.taken kind := by
  rw [ofKind_report, ofKind_counts_graph, eq_comm]
  unfold inserted
  rw [length_eraseDups_filter_eq_iff]
  simp only [decide_eq_true_iff]

theorem nodesCounted_graph : fs.NodesCounted ⟨fs.graph, fs.report⟩ where
  reported := fs.ofKind_report
  inserted := fs.ids_nodesOf_graph
  counts := fs.ofKind_counts_graph
  counts_le := by
    intro kind
    rw [fs.ofKind_counts_graph, fs.ofKind_report]
    exact (eraseDups_sublist _).length_le.trans (List.length_filter_le _ _)
  report_eq_iff := fs.report_eq_iff
  agree_iff := by
    have files := fs.report_eq_iff .file
    have folders := fs.report_eq_iff .folder
    have functions := fs.report_eq_iff .function
    simp only [Report.ofKind, Counts.ofKind, Findings.reported, taken] at files folders functions
    rw [files, folders, functions, List.nodup_append', List.nodup_append']
    simp only [List.not_mem_nil, not_false_eq_true, implies_true, and_true, List.mem_append, not_or,
      List.disjoint_append_left]
    constructor
    · rintro ⟨⟨nodup_files, new_files⟩, nodup_folders, nodup_functions, new_functions⟩
      exact ⟨⟨nodup_folders, nodup_files, fun id folder file => new_files id file folder⟩,
        nodup_functions, fun id folder function => (new_functions id function).2 folder,
        fun id file function => (new_functions id function).1 file⟩
    · rintro ⟨⟨nodup_folders, nodup_files, new_files⟩, nodup_functions, folders, files⟩
      exact ⟨⟨nodup_files, fun id file folder => new_files folder file⟩, nodup_folders,
        nodup_functions, fun id function => ⟨fun file => files file function,
          fun folder => folders folder function⟩⟩

/-- **The nodes of a report.** A build counts what is reported, and its graph has as many nodes of
each kind exactly if no id is reported twice. -/
theorem nodes_of_build {fs : Findings} {size : Nat} {b : Build} (h : fs.build size = .ok b) :
    fs.NodesCounted b := by
  obtain ⟨_, rfl⟩ := build_eq_ok_iff.1 h
  exact fs.nodesCounted_graph

theorem nodes_of_build_shared :
    shared.build 2 = .ok ⟨shared.graph, shared.report⟩ ∧
    shared.inserted .file = ["src/a.rs", "src/b.rs"] ∧ shared.inserted .folder = ["src"] ∧
    shared.inserted .function = ["src/a.rs::f", "lost::k"] ∧ shared.report.functions = 4 ∧
    shared.NodesCounted ⟨shared.graph, shared.report⟩ := by
  have built : shared.build 2 = .ok ⟨shared.graph, shared.report⟩ := build_eq 2 rfl
  refine ⟨built, ?_, ?_, ?_, ?_, nodes_of_build built⟩ <;> decide +kernel

/-- A folder and a function that are reported twice, and a file with the id of the folder. -/
def repeated : Findings where
  structural := some ⟨"walker", 0, ⟨["src", "src"], ["a.rs", "src"]⟩⟩
  extraction := some ⟨"reader", 0,
    [⟨"a.rs::f", "f", "a.rs", 1, []⟩, ⟨"a.rs::f", "f", "a.rs", 2, []⟩]⟩

/-- The report counts two nodes of each kind, and the graph has one. -/
theorem not_counted_repeated :
    repeated.build 2 = .ok ⟨repeated.graph, repeated.report⟩ ∧
    ∀ kind ∈ NodeKind.all,
      repeated.report.ofKind kind = 2 ∧ repeated.graph.counts.ofKind kind = 1 := by
  have built : repeated.build 2 = .ok ⟨repeated.graph, repeated.report⟩ := build_eq 2 rfl
  refine ⟨built, ?_⟩
  decide +kernel

end Findings

end CodeAtlas
