import CodeAtlas.Proofs.Build.Layers

/-!
# Batch sizes

Functions are added in batches, and then the calls of the function nodes are looked up in batches,
which are others since two reported functions may be one node. The edges found so far and the two
counts of names are carried from one batch to the next. None of this shows in what is built: after
every batch the tally is that of the functions up to there, wherever the batches end.

1. `eq_batches_iff`: the batches of a list are the only lists of their lengths that make it up.
2. `CallTally.note_eq`, `CallTally.foldl_ofBatch_eq`: what one name adds to a tally, and what a run
   over batches adds.
3. `Build.tallyCalls_eq`: the layer of calls is the run over the batches.
4. `build_batch_sizes`: builds with two batch sizes.
-/

namespace CodeAtlas

/-! ## The batches of a list -/

/-- Batches of a size: none is empty, and only the last one may hold fewer items. -/
inductive Portioned {α : Type} (size : Nat) : List (List α) → Prop
  | nil : Portioned size []
  | last {batch : List α} (some_item : batch ≠ []) (few : batch.length ≤ size) :
      Portioned size [batch]
  | cons {batch : List α} {rest : List (List α)} (full : batch.length = size)
      (portioned : Portioned size rest) : Portioned size (batch :: rest)

variable {α : Type} {size : Nat} {items : List α}

theorem portioned_batches (size : Nat) (items : List α) :
    Portioned (max size 1) (batches size items) := by
  fun_induction batches size items with
  | case1 => exact .nil
  | case2 item rest ih =>
    by_cases long : size - 1 ≤ rest.length
    · refine .cons ?_ ih
      rw [List.length_cons, List.length_take]
      omega
    · have all : rest.drop (size - 1) = [] := List.drop_eq_nil_of_le (by omega)
      rw [all, batches]
      refine .last (List.cons_ne_nil _ _) ?_
      rw [List.length_cons, List.length_take]
      omega

/-- The first batch, and the batches of what is left. -/
theorem batches_append {batch : List α} (full : batch.length = max size 1) (rest : List α) :
    batches size (batch ++ rest) = batch :: batches size rest := by
  cases batch with
  | nil => rw [List.length_nil] at full; omega
  | cons item others =>
    have len : others.length = size - 1 := by rw [List.length_cons] at full; omega
    rw [List.cons_append, batches, List.take_left' len, List.drop_left' len]

/-- A list that fits one batch is the only one. -/
theorem batches_of_length_le (some_item : items ≠ []) (few : items.length ≤ max size 1) :
    batches size items = [items] := by
  cases items with
  | nil => exact absurd rfl some_item
  | cons item others =>
    have len : others.length ≤ size - 1 := by rw [List.length_cons] at few; omega
    rw [batches, List.take_of_length_le len, List.drop_eq_nil_of_le len, batches]

/-- The batches of a list make it up in order, and there are no others of these lengths. -/
theorem eq_batches_iff {portions : List (List α)} :
    portions = batches size items ↔ portions.flatten = items ∧ Portioned (max size 1) portions := by
  constructor
  · rintro rfl
    exact ⟨flatten_batches size items, portioned_batches size items⟩
  · rintro ⟨rfl, h⟩
    induction h with
    | nil => rw [List.flatten_nil, batches]
    | last some_item few =>
      rw [List.flatten_singleton, batches_of_length_le some_item few]
    | cons full _ ih => rw [List.flatten_cons, batches_append full, ← ih]

/-! ## The tally of calls -/

/-- The calls looked up so far: the edges of those that mean a function, and how many names meant
one and how many did not. -/
structure CallTally where
  edges : Array Edge
  resolved : Nat
  unresolved : Nat

namespace CallTally

/-- Looks up one name that a function calls. -/
def note (index : CallIndex) (caller : Node) (t : CallTally) (name : String) : CallTally :=
  match index.resolve name with
  | some callee =>
    { t with edges := t.edges.push ⟨callee, caller.id, .calls⟩, resolved := t.resolved + 1 }
  | none => { t with unresolved := t.unresolved + 1 }

/-- Looks up the names that a node calls, if it is a function. -/
def ofCaller (index : CallIndex) (t : CallTally) (caller : Node) : CallTally :=
  match caller.function? with
  | some info => info.calls.foldl (note index caller) t
  | none => t

/-- Looks up what the functions of a batch call. -/
def ofBatch (index : CallIndex) (t : CallTally) (batch : List Node) : CallTally :=
  batch.foldl (ofCaller index) t

/-- A tally with more calls. -/
def add (t : CallTally) (calls : List (Option Edge)) : CallTally where
  edges := t.edges ++ calls.filterMap id
  resolved := t.resolved + calls.countP Option.isSome
  unresolved := t.unresolved + calls.countP Option.isNone

variable (index : CallIndex) (t : CallTally)

@[simp] theorem add_nil : t.add [] = t := by simp [add]

theorem add_add (calls others : List (Option Edge)) :
    (t.add calls).add others = t.add (calls ++ others) := by
  simp [add, ← Array.toList_inj, Nat.add_assoc]

/-- Where each item adds calls to a tally, a run over items adds the calls of all. -/
theorem foldl_eq_add {β : Type} {step : CallTally → β → CallTally} {found : β → List (Option Edge)}
    (h : ∀ t item, step t item = t.add (found item)) (items : List β) (t : CallTally) :
    items.foldl step t = t.add (items.flatMap found) := by
  induction items generalizing t with
  | nil => rw [List.foldl_nil, List.flatMap_nil, add_nil]
  | cons item rest ih => rw [List.foldl_cons, ih, h, add_add, List.flatMap_cons]

theorem note_eq (caller : Node) (name : String) :
    t.note index caller name =
      t.add [(index.resolve name).map fun callee => ⟨callee, caller.id, .calls⟩] := by
  unfold note
  cases index.resolve name with
  | none => simp [add]
  | some callee => simp [add]

theorem ofCaller_eq (caller : Node) :
    t.ofCaller index caller = t.add (Build.callsBy index caller) := by
  unfold ofCaller Build.callsBy
  cases caller.function? with
  | none => exact t.add_nil.symm
  | some info =>
    dsimp only [Option.map_some, Option.getD_some]
    rw [foldl_eq_add fun t name => t.note_eq index caller name, ← List.map_eq_flatMap]

/-- What is carried past any number of batches is the tally of the calls by all functions in them. -/
theorem foldl_ofBatch_eq (portions : List (List Node)) :
    portions.foldl (ofBatch index) t = t.add (portions.flatten.flatMap (Build.callsBy index)) := by
  rw [← foldl_eq_add (fun t caller => t.ofCaller_eq index caller), List.foldl_flatten]
  rfl

end CallTally

/-! ## The layer of calls -/

namespace Build

/-- The layer of calls with a tally that is carried from batch to batch. -/
def tallyCalls (size : Nat) (b : Build) : Build :=
  let functions := b.graph.nodesOf .function
  let tally := (batches size functions).foldl (CallTally.ofBatch (CallIndex.ofNodes functions))
    ⟨#[], b.report.callsResolved, b.report.callsUnresolved⟩
  { graph := b.graph.addEdges tally.edges.toList
    report := { b.report with
      callsResolved := tally.resolved, callsUnresolved := tally.unresolved } }

theorem tallyCalls_eq (size : Nat) {b : Build} (resolved : b.report.callsResolved = 0)
    (unresolved : b.report.callsUnresolved = 0) : b.tallyCalls size = b.addCalls size := by
  unfold tallyCalls addCalls
  dsimp only
  rw [CallTally.foldl_ofBatch_eq, flatten_batches, ← callsIn_eq size, resolved, unresolved]
  simp [CallTally.add]

end Build

/-! ## The build -/

namespace Findings

/-- Builds a graph from findings in batches of functions, and then in batches of function nodes. -/
def buildInBatches (size : Nat) (fs : Findings) : Except Error Build :=
  match fs.structural with
  | none => .error (.noWorkspace .structural)
  | some inventory =>
    let nodes := Build.ofInventory fs.missing inventory.data
    let called :=
      match fs.extraction with
      | none => nodes
      | some extraction => (nodes.addFunctions size extraction.data).tallyCalls size
    match fs.dependencies with
    | none => .ok called
    | some dependencies => .ok (dependencies.data.foldl Build.addImport called)

theorem build_eq_buildInBatches (size : Nat) (fs : Findings) :
    fs.build size = fs.buildInBatches size := by
  unfold build buildInBatches
  cases fs.structural with
  | none => rfl
  | some inventory =>
    -- nothing has been counted as a call before the layer of calls
    have calls : ∀ functions,
        ((Build.ofInventory fs.missing inventory.data).addFunctions size functions).tallyCalls size =
        ((Build.ofInventory fs.missing inventory.data).addFunctions size functions).addCalls size :=
      fun functions => Build.tallyCalls_eq size (by rw [Build.addFunctions_eq]; rfl)
        (by rw [Build.addFunctions_eq]; rfl)
    cases fs.extraction with
    | none => cases fs.dependencies <;> rfl
    | some extraction =>
      dsimp only
      rw [calls]
      cases fs.dependencies <;> rfl

/-- **Batching never shows.** A build is the run over the batches, and with any two batch sizes both
builds lack an inventory or both give the same graph and the same report. -/
theorem build_batch_sizes (fs : Findings) (size other : Nat) :
    fs.build size = fs.buildInBatches size ∧
    ((fs.build size = .error (.noWorkspace .structural) ∧
        fs.build other = .error (.noWorkspace .structural)) ∨
      ∃ b, fs.build size = .ok b ∧ fs.build other = .ok b) := by
  refine ⟨fs.build_eq_buildInBatches size, ?_⟩
  cases h : fs.structural.isSome with
  | true => exact Or.inr ⟨_, build_eq size h, build_eq other h⟩
  | false =>
    have none_inventory : fs.structural = none := by simpa using h
    refine Or.inl ⟨?_, ?_⟩ <;>
    · unfold build
      rw [none_inventory]

end Findings

end CodeAtlas
