/-!
# Batches

Long lists are worked off in batches, and a batch holds at least one item.
-/

namespace CodeAtlas

/-- How many items are worked off at a time unless something else is asked for. -/
def Build.defaultBatchSize : UInt64 := 256

/-- The items of a list in batches of a size; a batch of size zero would hold nothing, so one is
the least size. -/
def batches {α : Type} (size : Nat) (items : List α) : List (List α) :=
  match items with
  | [] => []
  | item :: rest => (item :: rest.take (size - 1)) :: batches size (rest.drop (size - 1))
termination_by items.length
decreasing_by simp only [List.length_drop, List.length_cons]; omega

/-- Batches hold every item once, in order. -/
theorem flatten_batches {α : Type} (size : Nat) (items : List α) :
    (batches size items).flatten = items := by
  fun_induction batches size items with
  | case1 => rfl
  | case2 item rest ih => simp [ih]

/-- Working off batch by batch is working off item by item. -/
theorem foldl_batches {α β : Type} (f : β → α → β) (size : Nat) (b : β) (items : List α) :
    (batches size items).foldl (fun b batch => batch.foldl f b) b = items.foldl f b := by
  rw [← List.foldl_flatten, flatten_batches]

/-- What the items give batch by batch is what they give one by one. -/
theorem flatMap_batches {α β : Type} (f : α → List β) (size : Nat) (items : List α) :
    ((batches size items).flatMap fun batch => batch.flatMap f) = items.flatMap f := by
  show (batches size items).flatMap (fun batch => (id batch).flatMap f) = _
  rw [← List.flatMap_assoc, ← List.flatten_eq_flatMap, flatten_batches]

end CodeAtlas
