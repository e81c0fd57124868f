/-!
# Binary heap

A list of scored items in heap order: the children of place `i` are at `2 * i + 1` and `2 * i + 2`,
and no item has a lower score than its parent. The item with the lowest score is taken first; which
of several comes first is fixed by how items move, so that a search that uses the heap is determined
by its input.
-/

namespace CodeAtlas

/-- Items with scores, in heap order. -/
structure Heap (α : Type) where
  entries : Array (Nat × α)

namespace Heap

variable {α : Type}

/-- The heap without items. -/
def empty : Heap α := ⟨#[]⟩

/-- The number of items. -/
def size (h : Heap α) : Nat := h.entries.size

/-- Whether the item at place `i` has a lower score than the one at place `j`. -/
def better (a : Array (Nat × α)) (i j : Nat) : Bool :=
  match a[i]?, a[j]? with
  | some x, some y => x.1 < y.1
  | _, _ => false

/-- Moves the item at a place up while its score is lower than its parent's. -/
def siftUp (a : Array (Nat × α)) (i : Nat) : Array (Nat × α) :=
  if i = 0 then a
  else if better a i ((i - 1) / 2) then siftUp (a.swapIfInBounds i ((i - 1) / 2)) ((i - 1) / 2)
  else a
termination_by i
decreasing_by omega

/-- Moves the item at a place down to a leaf, its better child moving up each time, the right one of
two that are equal. Gives the place of the leaf. -/
def sink (a : Array (Nat × α)) (i : Nat) : Array (Nat × α) × Nat :=
  if 2 * i + 2 < a.size then
    if better a (2 * i + 1) (2 * i + 2) then
      sink (a.swapIfInBounds i (2 * i + 1)) (2 * i + 1)
    else sink (a.swapIfInBounds i (2 * i + 2)) (2 * i + 2)
  else if 2 * i + 1 < a.size then (a.swapIfInBounds i (2 * i + 1), 2 * i + 1)
  else (a, i)
termination_by a.size - i
decreasing_by all_goals simp only [Array.size_swapIfInBounds]; omega

/-- Inserts an item. -/
def push (h : Heap α) (score : Nat) (item : α) : Heap α :=
  ⟨siftUp (h.entries.push (score, item)) h.entries.size⟩

/-- The item with the lowest score, and the heap without it: the last item takes its place, moves
down to a leaf, and then up as far as its score allows. -/
def pop? (h : Heap α) : Option ((Nat × α) × Heap α) :=
  match h.entries[0]?, h.entries.back? with
  | some top, some last =>
    let (entries, leaf) := sink (h.entries.pop.setIfInBounds 0 last) 0
    some (top, ⟨siftUp entries leaf⟩)
  | _, _ => none

@[simp] theorem size_siftUp (a : Array (Nat × α)) (i : Nat) : (siftUp a i).size = a.size := by
  fun_induction siftUp a i with
  | case1 => rfl
  | case2 a i _ _ ih => simpa using ih
  | case3 => rfl

@[simp] theorem size_sink (a : Array (Nat × α)) (i : Nat) : (sink a i).1.size = a.size := by
  fun_induction sink a i with
  | case1 a i _ _ ih => simpa using ih
  | case2 a i _ _ ih => simpa using ih
  | case3 => simp
  | case4 => rfl

@[simp] theorem size_push (h : Heap α) (score : Nat) (item : α) :
    (h.push score item).size = h.size + 1 := by
  simp [push, size]

theorem size_of_pop? {h rest : Heap α} {top : Nat × α} (hp : h.pop? = some (top, rest)) :
    rest.size + 1 = h.size := by
  unfold pop? at hp
  split at hp
  · rename_i top' last htop _
    have hpos : 0 < h.entries.size := (Array.getElem?_eq_some_iff.1 htop).1
    obtain ⟨-, rfl⟩ := Prod.mk.inj (Option.some.inj hp)
    simp only [size, size_siftUp, size_sink, Array.size_setIfInBounds, Array.size_pop]
    omega
  · cases hp

end Heap

end CodeAtlas
