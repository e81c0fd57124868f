import CodeAtlas.Proofs.Build.Definitions

/-!
# The functions that calls mean

The calls of a build are read off its function nodes: these stand in the order in which their ids
were first reported, and each carries the name and the calls of its last report. A name that a node
calls means the first node of that name. If no node has the name, it means at most a node whose id
ends in a separator and the name, and each name that means no node is counted.

1. `ids_nodesOf_addNodes`, `nodesOf_function_graph`: the function nodes in order.
2. `lookup_byName`: the look-up by name finds the first node of a name.
3. `endsIn_of_mem_idSuffixes`: what the index files under the end of an id.
4. `calls_follow_names`: the layer of calls.
-/

namespace CodeAtlas

/-! ## Function nodes in order -/

namespace Graph

variable (g : Graph) {kind : NodeKind}

theorem map_id_nodesOf (kind : NodeKind) :
    (g.nodesOf kind).map Node.id = (g.byKind.get kind).toList := by
  refine g.map_id_filterMap_find? fun id h => ?_
  rw [g.nodes_agree.byKind_eq] at h
  exact (Array.mem_filter.1 (Array.mem_toList_iff.1 h)).1

theorem filterMap_find?_nodesOf (kind : NodeKind) :
    ((g.nodesOf kind).map Node.id).filterMap g.find? = g.nodesOf kind := by
  rw [map_id_nodesOf, nodesOf]

/-- A new id goes to the end of the ids of its kind, and a known one stays where it is. -/
theorem ids_nodesOf_addNode (node : Node) :
    ((g.addNode node).nodesOf node.kind).map Node.id =
      (g.nodesOf node.kind).map Node.id ++ if g.contains node.id then [] else [node.id] := by
  rw [map_id_nodesOf, map_id_nodesOf, contains_eq, addNode]
  split
  · rename_i new
    have unknown : g.find? node.id = none := new
    rw [unknown, KindOrder.get_push, if_pos rfl, Array.toList_push]
    rfl
  · rename_i stored h
    have known : g.find? node.id = some stored := h
    rw [known]
    split <;> exact (List.append_nil _).symm

/-- Nodes of one kind go to its end in order, and an id that occurred before stays where it is. -/
theorem ids_nodesOf_addNodes {nodes : List Node} (same : ∀ node ∈ nodes, node.kind = kind) :
    ((g.addNodes nodes).nodesOf kind).map Node.id =
      (g.nodesOf kind).map Node.id ++ ((nodes.map Node.id).filter (!g.contains ·)).eraseDups := by
  unfold addNodes
  induction nodes generalizing g with
  | nil => exact (List.append_nil _).symm
  | cons node rest ih =>
    obtain rfl := same node List.mem_cons_self
    have known_later : ∀ id, (g.addNode node).contains id = (id == node.id || g.contains id) := by
      intro id
      rw [Bool.eq_iff_iff, contains_addNode, Bool.or_eq_true, beq_iff_eq, eq_comm]
    rw [List.foldl_cons, ih _ fun n hn => same n (List.mem_cons_of_mem _ hn), ids_nodesOf_addNode,
      List.append_assoc, List.map_cons, List.filter_cons]
    cases known : g.contains node.id with
    | true =>
      have contains : (g.addNode node).contains = g.contains := by
        funext id
        rw [known_later, Bool.or_eq_right_iff_imp, beq_iff_eq]
        rintro rfl
        exact known
      rw [contains]
      rfl
    | false =>
      -- the later ids that are new are those that were new before and are not this one
      have later : (rest.map Node.id).filter (!(g.addNode node).contains ·) =
          ((rest.map Node.id).filter (!g.contains ·)).filter (!· == node.id) := by
        rw [List.filter_filter]
        refine List.filter_congr fun id _ => ?_
        rw [known_later, Bool.not_or]
      rw [later, Bool.not_false, if_pos rfl, List.eraseDups_cons]
      rfl

end Graph

namespace Findings

/-- The last report of each reported id that is not the id of a file or folder, in the order in
which the ids were first reported. -/
def functionNodes (fs : Findings) : List Node :=
  ((fs.functions.map FunctionRecord.id).filter fun id =>
      id ∉ fs.inventory.files ∧ id ∉ fs.inventory.folders).eraseDups.filterMap
    fun id => (fs.lastReport? id).map FunctionRecord.node

/-- The first layer leaves free the ids that it does not report. -/
theorem not_contains_ofInventory (missing : List FindingKind) (inventory : Inventory) (id : String) :
    (!(Build.ofInventory missing inventory).graph.contains id) =
      decide (id ∉ inventory.files ∧ id ∉ inventory.folders) := by
  rw [Bool.eq_iff_iff, Bool.not_eq_true', ← Bool.not_eq_true, contains_ofInventory, not_or,
    decide_eq_true_iff]

/-- The ids of the function nodes. -/
theorem ids_function_skeleton (fs : Findings) :
    (fs.skeleton.nodesOf .function).map Node.id =
      ((fs.functions.map FunctionRecord.id).filter fun id =>
        id ∉ fs.inventory.files ∧ id ∉ fs.inventory.folders).eraseDups := by
  have functions : ∀ node ∈ fs.functions.map FunctionRecord.node, node.kind = .function :=
    List.forall_mem_map.2 fun _ _ => rfl
  have run := (Build.ofInventory fs.missing fs.inventory).graph.ids_nodesOf_addNodes functions
  rw [nodesOf_function_ofInventory, List.map_nil, List.nil_append, List.map_map] at run
  simp only [not_contains_ofInventory] at run
  exact run

theorem nodesOf_function_skeleton (fs : Findings) :
    fs.skeleton.nodesOf .function = fs.functionNodes := by
  rw [← Graph.filterMap_find?_nodesOf, ids_function_skeleton, functionNodes]
  refine List.filterMap_congr fun id h => ?_
  have new := (List.mem_filter.1 (List.mem_eraseDups.1 h)).2
  rw [← not_contains_ofInventory fs.missing, Bool.not_eq_true', Graph.contains_eq,
    Option.isSome_eq_false_iff, Option.isNone_iff_eq_none] at new
  rw [find?_skeleton, new, Option.none_or]

end Findings

/-! ## What a name means -/

/-- Whether an id ends in a separator of namespaces and a name. -/
def EndsIn (id name : String) : Prop :=
  Path.endsWith id ("::" ++ name) = true ∨ Path.endsWith id ("." ++ name) = true

/-- What follows a separator ends the text together with it. -/
theorem suffix_of_mem_afterEach {separator text after : List Char} (some_char : separator ≠ [])
    (h : after ∈ afterEach separator text) : separator ++ after <:+ text := by
  revert h
  refine afterEach_induction (fun h => ?_) (fun following ih h => ?_) (fun c rest passed ih h => ?_)
    some_char text
  · rw [afterEach] at h
    cases h
  · rw [afterEach_separator some_char] at h
    rcases List.mem_cons.1 h with rfl | later
    · exact List.suffix_rfl
    · exact (ih later).trans (List.suffix_append _ _)
  · rw [afterEach_of_apart passed] at h
    exact (ih h).trans (List.suffix_cons c rest)

/-- The index files an id under the names in which it ends. -/
theorem endsIn_of_mem_idSuffixes {id name : String} (h : name ∈ idSuffixes id) : EndsIn id name := by
  obtain ⟨after, hm, rfl⟩ := List.mem_map.1 h
  obtain ⟨separator, hs, ha⟩ := List.mem_flatMap.1 hm
  have found := (List.mem_filter.1 ha).1
  unfold namespaceSeparators at hs
  unfold EndsIn Path.endsWith
  simp only [List.isSuffixOf_iff_suffix, String.toList_append, String.toList_ofList]
  rcases List.mem_cons.1 hs with rfl | hs
  · exact Or.inl (suffix_of_mem_afterEach (List.cons_ne_nil _ _) found)
  · obtain rfl := List.mem_singleton.1 hs
    exact Or.inr (suffix_of_mem_afterEach (List.cons_ne_nil _ _) found)

namespace CallIndex

variable (nodes : List Node) (name : String)

/-- The look-up by name finds the first node of the name. -/
theorem lookup_byName :
    (ofNodes nodes).byName.lookup name =
      (nodes.filter fun node => node.function?.any (·.name == name)).head?.map Node.id := by
  unfold ofNodes
  induction nodes with
  | nil => rfl
  | cons node rest ih =>
    cases hf : node.function? with
    | none =>
      rw [List.filterMap_cons_none (by rw [hf]; rfl), List.filter_cons_of_neg (by simp [hf])]
      exact ih
    | some info =>
      rw [List.filterMap_cons_some (by rw [hf]; rfl), List.lookup_cons]
      by_cases hn : info.name = name
      · rw [List.filter_cons_of_pos (by simp [hf, hn]), hn, beq_self_eq_true]
        rfl
      · rw [List.filter_cons_of_neg (by simp [hf, hn]), beq_eq_false_iff_ne.2 (Ne.symm hn)]
        exact ih

variable {nodes name}

/-- The look-up by the end of an id finds a node whose id ends in the name. -/
theorem endsIn_of_lookup_bySuffix {id : String}
    (h : (ofNodes nodes).bySuffix.lookup name = some id) : EndsIn id name := by
  obtain ⟨node, _, hp⟩ := List.mem_flatMap.1 (mem_of_lookup h)
  obtain ⟨suffix, hs, hi⟩ := List.mem_map.1 hp
  obtain ⟨rfl, rfl⟩ := Prod.mk.inj hi
  exact endsIn_of_mem_idSuffixes hs

end CallIndex

namespace Graph

/-- The function that a name means among the functions of a graph. -/
def meant? (g : Graph) (name : String) : Option String :=
  (CallIndex.ofNodes (g.nodesOf .function)).resolve name

variable {g : Graph} {name : String}

theorem meant?_of_named {node : Node} (h : (g.functionsNamed name).head? = some node) :
    g.meant? name = some node.id := by
  have first := CallIndex.lookup_byName (g.nodesOf .function) name
  rw [← functionsNamed, h] at first
  rw [meant?, CallIndex.resolve, first]
  rfl

theorem endsIn_of_meant? {id : String} (unnamed : g.functionsNamed name = [])
    (h : g.meant? name = some id) : g.hasKind .function id ∧ EndsIn id name := by
  have known : g.hasKind .function id = true :=
    (g.hasKind_iff .function id).2 (CallIndex.mem_of_resolve h)
  have first := CallIndex.lookup_byName (g.nodesOf .function) name
  rw [← functionsNamed, unnamed] at first
  rw [meant?, CallIndex.resolve, first] at h
  exact ⟨known, CallIndex.endsIn_of_lookup_bySuffix h⟩

end Graph

/-! ## The layer of calls -/

/-- The names that a node calls. -/
def Node.called (node : Node) : List String := (node.function?.map FunctionInfo.calls).getD []

/-- The names that functions call, each with the node that calls it, in order. -/
def Graph.namesCalled (g : Graph) : List (Node × String) :=
  (g.nodesOf .function).flatMap fun caller => caller.called.map (caller, ·)

namespace Findings

variable {fs : Findings}

/-- How the calls of a build follow from the names that its functions call. -/
structure CallsFollow (fs : Findings) (b : Build) : Prop where
  /-- The functions stand in the order of their first reports and are known by their last ones. -/
  functions : b.graph.nodesOf .function = fs.functionNodes
  /-- Each name that means a function gives an edge, in order. -/
  edges : b.graph.edgesOf .calls = b.graph.namesCalled.filterMap fun (caller, name) =>
    (b.graph.meant? name).map fun callee => ⟨callee, caller.id, .calls⟩
  resolved : b.report.callsResolved =
    b.graph.namesCalled.countP fun (_, name) => (b.graph.meant? name).isSome
  unresolved : b.report.callsUnresolved =
    b.graph.namesCalled.countP fun (_, name) => (b.graph.meant? name).isNone
  /-- The name of a function means the first function of that name. -/
  named : ∀ {name node}, (b.graph.functionsNamed name).head? = some node →
    b.graph.meant? name = some node.id
  /-- Any other name means at most a function whose id ends in it. -/
  unnamed : ∀ {name id}, b.graph.functionsNamed name = [] → b.graph.meant? name = some id →
    b.graph.hasKind .function id ∧ EndsIn id name

/-- The calls of a build, one for each name that a function calls. -/
theorem calls_eq (fs : Findings) :
    fs.calls = fs.graph.namesCalled.map fun (caller, name) =>
      (fs.graph.meant? name).map fun callee => ⟨callee, caller.id, .calls⟩ := by
  unfold Graph.namesCalled Graph.meant?
  rw [nodesOf_graph, List.map_flatMap, calls]
  simp only [List.map_map]
  rfl

theorem callsFollow_graph (fs : Findings) : fs.CallsFollow ⟨fs.graph, fs.report⟩ where
  functions := by rw [nodesOf_graph, nodesOf_function_skeleton]
  edges := by
    rw [edgesOf_graph, calls_eq, List.filterMap_map]
    rfl
  resolved := by
    show fs.calls.countP Option.isSome = _
    rw [calls_eq, List.countP_map]
    simp only [Function.comp_def, Option.isSome_map]
  unresolved := by
    show fs.calls.countP Option.isNone = _
    rw [calls_eq, List.countP_map]
    simp only [Function.comp_def, Option.isNone_map]
  named := Graph.meant?_of_named
  unnamed := Graph.endsIn_of_meant?

/-- **Calls follow names.** Every name that a function calls becomes an edge or is counted, and
which function it means is settled by names first and by the ends of ids after that. -/
theorem calls_follow_names {size : Nat} {b : Build} (h : fs.build size = .ok b) :
    fs.CallsFollow b := by
  obtain ⟨_, rfl⟩ := build_eq_ok_iff.1 h
  exact fs.callsFollow_graph

/-- A function that gives up a name for another, two of one name, and a call by the end of an id. -/
def renamed : Findings where
  structural := some ⟨"walker", 0, ⟨[], ["a.rs", "c.rs"]⟩⟩
  extraction := some ⟨"reader", 0, [
    ⟨"a.rs::f", "g", "a.rs", 1, []⟩,
    ⟨"b.rs::g", "g", "b.rs", 1, ["g", "open", "f", "rs"]⟩,
    ⟨"c.rs::Store.open", "Store.open", "c.rs", 1, ["Store.open", "lost"]⟩,
    ⟨"d.rs::g", "g", "d.rs", 1, ["g"]⟩,
    ⟨"a.rs::f", "f", "a.rs", 2, ["g"]⟩]⟩
  dependencies := none

theorem calls_follow_names_renamed :
    renamed.build 2 = .ok ⟨renamed.graph, renamed.report⟩ ∧
    renamed.graph.edgesOf .calls = [
      ⟨"b.rs::g", "a.rs::f", .calls⟩, ⟨"b.rs::g", "b.rs::g", .calls⟩,
      ⟨"c.rs::Store.open", "b.rs::g", .calls⟩, ⟨"a.rs::f", "b.rs::g", .calls⟩,
      ⟨"c.rs::Store.open", "c.rs::Store.open", .calls⟩, ⟨"b.rs::g", "d.rs::g", .calls⟩] ∧
    renamed.report.callsUnresolved = 2 ∧ renamed.CallsFollow ⟨renamed.graph, renamed.report⟩ := by
  have built : renamed.build 2 = .ok ⟨renamed.graph, renamed.report⟩ := build_eq 2 rfl
  refine ⟨built, ?_, ?_, calls_follow_names built⟩ <;> decide +kernel

end Findings

end CodeAtlas
