import CodeAtlas.Graph.Heap
import Mathlib.Data.List.Basic

/-!
# The order of a heap

A search takes the nearest open id from a heap, and relies on the first item of the heap to have the
lowest score. Pushing and popping put one item out of place and move it until every item has at
least the score of its parent again; what they move they neither lose nor repeat.

1. `items_push`, `items_pop`: the items of a heap after a push and after a pop.
2. `OrderedOff`: the places around one item may be out of order. `OrderedOff.moveUp` and
   `OrderedOff.moveDown` say what one swap leaves, `ordered_siftUp` and `orderedOff_sink` where the
   swaps end.
3. `Ordered.push`, `Ordered.pop`, `Ordered.least`: the order is kept, and the first item is least.
4. `push_map`, `pop?_map`: items move by their scores alone.
-/

namespace CodeAtlas.Heap

variable {α : Type}

/-! ## The items of a heap -/

/-- The items of a heap with their scores, in the order of their places. -/
def items (h : Heap α) : List (Nat × α) := h.entries.toList

theorem swapIfInBounds_perm (a : Array α) (i j : Nat) : (a.swapIfInBounds i j).Perm a := by
  rw [Array.swapIfInBounds_def]
  split
  · split
    · exact Array.swap_perm _ _
    · exact Array.Perm.refl a
  · exact Array.Perm.refl a

theorem siftUp_perm (a : Array (Nat × α)) (i : Nat) : (siftUp a i).Perm a := by
  fun_induction siftUp a i with
  | case1 => exact Array.Perm.refl _
  | case2 a i _ _ ih => exact ih.trans (swapIfInBounds_perm ..)
  | case3 => exact Array.Perm.refl _

theorem sink_perm (a : Array (Nat × α)) (i : Nat) : (sink a i).1.Perm a := by
  fun_induction sink a i with
  | case1 a i _ _ ih => exact ih.trans (swapIfInBounds_perm ..)
  | case2 a i _ _ ih => exact ih.trans (swapIfInBounds_perm ..)
  | case3 => exact swapIfInBounds_perm ..
  | case4 => exact Array.Perm.refl _

theorem items_push (h : Heap α) (score : Nat) (item : α) :
    (h.push score item).items.Perm ((score, item) :: h.items) := by
  have moved := (siftUp_perm (h.entries.push (score, item)) h.entries.size).toList
  rw [Array.toList_push] at moved
  exact moved.trans (List.perm_append_singleton _ _)

/-- The heap that a pop leaves. -/
theorem pop?_eq_some {h rest : Heap α} {top : Nat × α} (hp : h.pop? = some (top, rest)) :
    h.entries[0]? = some top ∧ ∃ last, h.entries.back? = some last ∧
      rest.entries =
        siftUp (sink (h.entries.pop.setIfInBounds 0 last) 0).1
          (sink (h.entries.pop.setIfInBounds 0 last) 0).2 := by
  unfold pop? at hp
  split at hp
  · rename_i top' last first back
    obtain ⟨rfl, rfl⟩ := Prod.mk.inj (Option.some.inj hp)
    exact ⟨first, last, back, rfl⟩
  · cases hp

/-- The last item may take the place of the first one. -/
theorem perm_replace_first {top last : α} {a : Array α} (first : a[0]? = some top)
    (back : a.back? = some last) : (top :: (a.pop.setIfInBounds 0 last).toList).Perm a.toList := by
  obtain ⟨items⟩ := a
  cases items with
  | nil => cases first
  | cons x rest =>
    obtain rfl : x = top := by simpa using first
    rcases List.eq_nil_or_concat rest with rfl | ⟨front, y, rfl⟩
    · simp
    · obtain rfl : y = last := by
        rw [List.concat_eq_append, ← List.cons_append] at back
        simpa only [List.back?_toArray, List.getLast?_concat, Option.some.injEq] using back
      rw [List.concat_eq_append, ← List.cons_append, List.pop_toArray, List.dropLast_concat]
      exact (List.perm_append_singleton y front).symm.cons x

theorem items_pop {h rest : Heap α} {top : Nat × α} (hp : h.pop? = some (top, rest)) :
    h.items.Perm (top :: rest.items) := by
  obtain ⟨first, last, back, hrest⟩ := pop?_eq_some hp
  have moved := ((siftUp_perm _ (sink (h.entries.pop.setIfInBounds 0 last) 0).2).trans
    (sink_perm (h.entries.pop.setIfInBounds 0 last) 0)).toList
  rw [← hrest] at moved
  exact ((moved.cons top).trans (perm_replace_first first back)).symm

theorem mem_items_of_pop? {h rest : Heap α} {top : Nat × α} (hp : h.pop? = some (top, rest)) :
    top ∈ h.items := (items_pop hp).mem_iff.2 List.mem_cons_self

theorem mem_items_of_rest {h rest : Heap α} {top e : Nat × α} (hp : h.pop? = some (top, rest))
    (he : e ∈ rest.items) : e ∈ h.items := (items_pop hp).mem_iff.2 (List.mem_cons_of_mem _ he)

theorem pop?_eq_none_iff {h : Heap α} : h.pop? = none ↔ h.items = [] := by
  obtain ⟨⟨list⟩⟩ := h
  cases list with
  | nil => simp [pop?, items]
  | cons top rest => simp [pop?, items, Array.back?_eq_getElem?]

/-! ## Order -/

/-- Whether the item at place `i` scores no more than the one at place `j`, if both are there. -/
def InOrder (a : Array (Nat × α)) (i j : Nat) : Prop :=
  ∀ x y, a[i]? = some x → a[j]? = some y → x.1 ≤ y.1

/-- Whether no item scores less than its parent. -/
def Ordered (a : Array (Nat × α)) : Prop := ∀ j, 0 < j → InOrder a ((j - 1) / 2) j

/-- Whether no item scores less than its parent but perhaps the item at place `i` and its children,
which score no less than the parent of that place. -/
structure OrderedOff (a : Array (Nat × α)) (i : Nat) : Prop where
  others : ∀ j, 0 < j → j ≠ i → (j - 1) / 2 ≠ i → InOrder a ((j - 1) / 2) j
  across : 0 < i → ∀ j, 0 < j → (j - 1) / 2 = i → InOrder a ((i - 1) / 2) j

variable {a : Array (Nat × α)} {i j : Nat}

theorem better_iff : better a i j = true ↔
    ∃ x y, a[i]? = some x ∧ a[j]? = some y ∧ x.1 < y.1 := by
  unfold better
  cases a[i]? <;> cases a[j]? <;> simp

theorem inOrder_of_not_better (h : ¬ better a j i = true) : InOrder a i j := fun x y hx hy =>
  Nat.le_of_not_lt fun less => h (better_iff.2 ⟨y, x, hy, hx, less⟩)

theorem inOrder_of_better (h : better a i j = true) : InOrder a i j := by
  obtain ⟨x, y, hx, hy, less⟩ := better_iff.1 h
  intro u v hu hv
  rw [hx] at hu
  rw [hy] at hv
  rw [← Option.some.inj hu, ← Option.some.inj hv]
  exact Nat.le_of_lt less

theorem inOrder_of_size_le (h : a.size ≤ j) : InOrder a i j := by
  intro x y _ hy
  rw [Array.getElem?_eq_none h] at hy
  cases hy

theorem InOrder.refl (a : Array (Nat × α)) (i : Nat) : InOrder a i i := by
  intro x y hx hy
  rw [hx] at hy
  exact Nat.le_of_eq (congrArg Prod.fst (Option.some.inj hy))

theorem InOrder.trans {k : Nat} (h : InOrder a i j) (h' : InOrder a j k) (hj : j < a.size) :
    InOrder a i k := fun x y hx hy =>
  Nat.le_trans (h x _ hx (Array.getElem?_eq_getElem hj)) (h' _ y (Array.getElem?_eq_getElem hj) hy)

/-- The order of two places speaks of nothing but the items at them. -/
theorem InOrder.congr {b : Array (Nat × α)} {k l : Nat} (h : InOrder a i j) (hi : b[k]? = a[i]?)
    (hj : b[l]? = a[j]?) : InOrder b k l := fun x y hx hy => h x y (hi ▸ hx) (hj ▸ hy)

/-! ## Swaps -/

section Swap

variable (hi : i < a.size) (hj : j < a.size)

include hi hj

theorem getElem?_swap_left : (a.swapIfInBounds i j)[i]? = a[j]? := by
  rw [Array.swapIfInBounds_def, dif_pos hi, dif_pos hj, Array.getElem?_swap, if_pos rfl,
    Array.getElem?_eq_getElem hj]
  split
  · rename_i same
    simp only [same]
  · rfl

theorem getElem?_swap_right : (a.swapIfInBounds i j)[j]? = a[i]? := by
  rw [Array.swapIfInBounds_def, dif_pos hi, dif_pos hj, Array.getElem?_swap, if_pos rfl,
    Array.getElem?_eq_getElem hi]

theorem getElem?_swap_other {k : Nat} (hki : k ≠ i) (hkj : k ≠ j) :
    (a.swapIfInBounds i j)[k]? = a[k]? := by
  rw [Array.swapIfInBounds_def, dif_pos hi, dif_pos hj, Array.getElem?_swap, if_neg hkj.symm,
    if_neg hki.symm]

end Swap

/-- An item that scores less than its parent changes places with it. The old parent now stands above
the children of the item, and the item above its sibling. -/
theorem OrderedOff.moveUp (h : OrderedOff a i) (pos : 0 < i)
    (hb : better a i ((i - 1) / 2) = true) :
    OrderedOff (a.swapIfInBounds i ((i - 1) / 2)) ((i - 1) / 2) ∧
      ∀ j, 0 < j → (j - 1) / 2 = (i - 1) / 2 →
        InOrder (a.swapIfInBounds i ((i - 1) / 2)) ((i - 1) / 2) j := by
  obtain ⟨x, y, hx, hy, -⟩ := better_iff.1 hb
  have hi : i < a.size := (Array.getElem?_eq_some_iff.1 hx).1
  have hp : (i - 1) / 2 < a.size := (Array.getElem?_eq_some_iff.1 hy).1
  have left := getElem?_swap_left hi hp
  have right := getElem?_swap_right hi hp
  refine ⟨⟨fun j hj hne hpar => ?_, fun up j hj hpar => ?_⟩, fun j hj hpar => ?_⟩
  · have same : j ≠ i := fun he => hpar (by rw [he])
    have other := getElem?_swap_other hi hp same hne
    by_cases child : (j - 1) / 2 = i
    · rw [child]
      exact (h.across pos j hj child).congr left other
    · exact (h.others j hj same child).congr (getElem?_swap_other hi hp child hpar) other
  · have above : InOrder a (((i - 1) / 2 - 1) / 2) ((i - 1) / 2) :=
      h.others _ up (by omega) (by omega)
    have top := getElem?_swap_other hi hp (k := ((i - 1) / 2 - 1) / 2) (by omega) (by omega)
    by_cases same : j = i
    · rw [same]
      exact above.congr top left
    · have below := h.others j hj same (by omega)
      rw [hpar] at below
      exact (above.trans below hp).congr top (getElem?_swap_other hi hp same (by omega))
  · by_cases same : j = i
    · rw [same]
      exact (inOrder_of_better hb).congr right left
    · have below := h.others j hj same (by omega)
      rw [hpar] at below
      exact ((inOrder_of_better hb).trans below hp).congr right
        (getElem?_swap_other hi hp same (by omega))

/-- A child that scores no more than its sibling changes places with the item above it. -/
theorem OrderedOff.moveDown (h : OrderedOff a i) {c : Nat} (hc : 0 < c) (hpar : (c - 1) / 2 = i)
    (hsize : c < a.size) (least : ∀ j, 0 < j → (j - 1) / 2 = i → InOrder a c j) :
    OrderedOff (a.swapIfInBounds i c) c := by
  have hi : i < a.size := by omega
  have left := getElem?_swap_left hi hsize
  refine ⟨fun j hj hne hjc => ?_, fun _ j hj hjc => ?_⟩
  · by_cases same : j = i
    · rw [same]
      have pos : 0 < i := by omega
      exact (h.across pos c hc hpar).congr
        (getElem?_swap_other hi hsize (by omega) (by omega)) left
    · have other := getElem?_swap_other hi hsize same hne
      by_cases sibling : (j - 1) / 2 = i
      · rw [sibling]
        exact (least j hj sibling).congr left other
      · exact (h.others j hj same sibling).congr (getElem?_swap_other hi hsize sibling hjc) other
  · have below := h.others j hj (by omega) (by omega)
    rw [hjc] at below
    rw [hpar]
    exact below.congr left (getElem?_swap_other hi hsize (by omega) (by omega))

/-- Moving an item up puts a heap in order that is in order off the item and below it. -/
theorem ordered_siftUp (h : OrderedOff a i) (below : ∀ j, 0 < j → (j - 1) / 2 = i → InOrder a i j) :
    Ordered (siftUp a i) := by
  fun_induction siftUp a i with
  | case1 a =>
    intro j hj
    by_cases hpar : (j - 1) / 2 = 0
    · rw [hpar]
      exact below j hj hpar
    · exact h.others j hj (by omega) hpar
  | case2 a i hne hb ih =>
    obtain ⟨off, under⟩ := h.moveUp (Nat.pos_of_ne_zero hne) hb
    exact ih off under
  | case3 a i hne hb =>
    intro j hj
    by_cases same : j = i
    · rw [same]
      exact inOrder_of_not_better hb
    · by_cases hpar : (j - 1) / 2 = i
      · rw [hpar]
        exact below j hj hpar
      · exact h.others j hj same hpar

/-- The two children of a place. -/
theorem eq_or_eq_of_parent (hj : 0 < j) (hpar : (j - 1) / 2 = i) :
    j = 2 * i + 1 ∨ j = 2 * i + 2 := by
  omega

/-- Moving an item down ends at a place without children. -/
theorem orderedOff_sink (h : OrderedOff a i) :
    OrderedOff (sink a i).1 (sink a i).2 ∧ a.size ≤ 2 * (sink a i).2 + 1 := by
  fun_induction sink a i with
  | case1 a i hsize hb ih =>
    rw [Array.size_swapIfInBounds] at ih
    refine ih (h.moveDown (by omega) (by omega) (by omega) fun j hj hpar => ?_)
    rcases eq_or_eq_of_parent hj hpar with rfl | rfl
    · exact InOrder.refl a _
    · exact inOrder_of_better hb
  | case2 a i hsize hb ih =>
    rw [Array.size_swapIfInBounds] at ih
    refine ih (h.moveDown (by omega) (by omega) (by omega) fun j hj hpar => ?_)
    rcases eq_or_eq_of_parent hj hpar with rfl | rfl
    · exact inOrder_of_not_better hb
    · exact InOrder.refl a _
  | case3 a i h2 h1 =>
    refine ⟨h.moveDown (by omega) (by omega) h1 fun j hj hpar => ?_, by dsimp only; omega⟩
    rcases eq_or_eq_of_parent hj hpar with rfl | rfl
    · exact InOrder.refl a _
    · exact inOrder_of_size_le (by omega)
  | case4 a i h2 h1 => exact ⟨h, by dsimp only; omega⟩

theorem ordered_empty : Ordered (empty : Heap α).entries := fun _ _ =>
  inOrder_of_size_le (Nat.zero_le _)

theorem Ordered.push {h : Heap α} (ho : Ordered h.entries) (score : Nat) (item : α) :
    Ordered (h.push score item).entries := by
  have place : ∀ k, k < h.entries.size → (h.entries.push (score, item))[k]? = h.entries[k]? := by
    intro k hk
    rw [Array.getElem?_push, if_neg (Nat.ne_of_lt hk)]
  have size : (h.entries.push (score, item)).size = h.entries.size + 1 := Array.size_push _
  refine ordered_siftUp ⟨fun j hj hne hpar => ?_, fun _ j hj hpar => ?_⟩ fun j hj hpar => ?_
  · by_cases hjs : j < h.entries.size
    · unfold InOrder
      rw [place j hjs, place _ (by omega)]
      exact ho j hj
    · exact inOrder_of_size_le (by omega)
  · exact inOrder_of_size_le (by omega)
  · exact inOrder_of_size_le (by omega)

theorem Ordered.pop {h rest : Heap α} {top : Nat × α} (ho : Ordered h.entries)
    (hp : h.pop? = some (top, rest)) : Ordered rest.entries := by
  obtain ⟨_, last, _, hrest⟩ := pop?_eq_some hp
  have place : ∀ k, 0 < k → k < h.entries.size - 1 →
      (h.entries.pop.setIfInBounds 0 last)[k]? = h.entries[k]? := by
    intro k pos hk
    rw [Array.getElem?_setIfInBounds, if_neg (Nat.ne_of_lt pos), Array.getElem?_pop, if_pos hk]
  have off : OrderedOff (h.entries.pop.setIfInBounds 0 last) 0 := by
    refine ⟨fun j hj _ hpar => ?_, fun pos => absurd pos (Nat.lt_irrefl 0)⟩
    by_cases hjs : j < h.entries.size - 1
    · unfold InOrder
      rw [place j hj hjs, place _ (Nat.pos_of_ne_zero hpar) (by omega)]
      exact ho j hj
    · exact inOrder_of_size_le (by simpa using hjs)
  obtain ⟨leafOff, leaf⟩ := orderedOff_sink off
  rw [hrest]
  refine ordered_siftUp leafOff fun j hj hpar => inOrder_of_size_le ?_
  rw [size_sink]
  omega

/-- The first item of a heap in order has the lowest score. -/
theorem Ordered.least {h rest : Heap α} {top : Nat × α} (ho : Ordered h.entries)
    (hp : h.pop? = some (top, rest)) : ∀ e ∈ h.items, top.1 ≤ e.1 := by
  obtain ⟨first, -⟩ := pop?_eq_some hp
  have lowest : ∀ (k : Nat) (e : Nat × α), h.entries[k]? = some e → top.1 ≤ e.1 := by
    intro k
    induction k using Nat.strongRecOn with
    | ind k ih =>
      intro e he
      by_cases root : k = 0
      · rw [root, first] at he
        exact Nat.le_of_eq (congrArg Prod.fst (Option.some.inj he))
      · obtain ⟨hk, -⟩ := Array.getElem?_eq_some_iff.1 he
        have inside : (k - 1) / 2 < h.entries.size := by omega
        have above := Array.getElem?_eq_getElem inside
        exact Nat.le_trans (ih _ (by omega) _ above) (ho k (Nat.pos_of_ne_zero root) _ _ above he)
  intro e he
  obtain ⟨k, hk⟩ := Array.mem_iff_getElem?.1 (Array.mem_toList_iff.1 he)
  exact lowest k e hk

/-! ## Renamed items -/

section Rename

variable {β : Type} (f : α → β)

/-- A scored item under another name. -/
def rename (e : Nat × α) : Nat × β := (e.1, f e.2)

/-- A heap with other names for its items. -/
def map (h : Heap α) : Heap β := ⟨h.entries.map (rename f)⟩

theorem map_empty : (empty : Heap α).map f = empty := congrArg Heap.mk Array.map_empty

theorem better_map (a : Array (Nat × α)) (i j : Nat) :
    better (a.map (rename f)) i j = better a i j := by
  unfold better
  rw [Array.getElem?_map, Array.getElem?_map]
  cases a[i]? <;> cases a[j]? <;> rfl

theorem map_swapIfInBounds (a : Array (Nat × α)) (i j : Nat) :
    (a.swapIfInBounds i j).map (rename f) = (a.map (rename f)).swapIfInBounds i j := by
  rw [Array.swapIfInBounds_def, Array.swapIfInBounds_def]
  simp only [Array.size_map]
  split
  · split
    · simp only [Array.swap_def, Array.map_set, Array.getElem_map]
    · rfl
  · rfl

theorem map_siftUp (a : Array (Nat × α)) (i : Nat) :
    (siftUp a i).map (rename f) = siftUp (a.map (rename f)) i := by
  fun_induction siftUp a i with
  | case1 a => rw [siftUp, if_pos rfl]
  | case2 a i hne hb ih =>
    rw [ih, map_swapIfInBounds, siftUp.eq_def (a.map _), if_neg hne, better_map, if_pos hb]
  | case3 a i hne hb => rw [siftUp, if_neg hne, better_map, if_neg hb]

theorem map_sink (a : Array (Nat × α)) (i : Nat) :
    ((sink a i).1.map (rename f), (sink a i).2) = sink (a.map (rename f)) i := by
  fun_induction sink a i with
  | case1 a i hsize hb ih =>
    rw [ih, map_swapIfInBounds, sink.eq_def (a.map _), Array.size_map, if_pos hsize, better_map,
      if_pos hb]
  | case2 a i hsize hb ih =>
    rw [ih, map_swapIfInBounds, sink.eq_def (a.map _), Array.size_map, if_pos hsize, better_map,
      if_neg hb]
  | case3 a i h2 h1 => rw [sink, Array.size_map, if_neg h2, if_pos h1, map_swapIfInBounds]
  | case4 a i h2 h1 => rw [sink, Array.size_map, if_neg h2, if_neg h1]

theorem push_map (h : Heap α) (score : Nat) (item : α) :
    (h.map f).push score (f item) = (h.push score item).map f := by
  unfold push map
  rw [map_siftUp, Array.map_push, Array.size_map]
  rfl

theorem pop?_map (h : Heap α) :
    (h.map f).pop? = h.pop?.map fun taken => (rename f taken.1, taken.2.map f) := by
  unfold pop? map
  dsimp only
  rw [Array.getElem?_map, Array.back?_map]
  cases h.entries[0]? with
  | none => rfl
  | some top =>
    cases h.entries.back? with
    | none => rfl
    | some last =>
      have start : ((h.entries.map (rename f)).pop.setIfInBounds 0 (rename f last)) =
          (h.entries.pop.setIfInBounds 0 last).map (rename f) := by
        rw [Array.map_setIfInBounds, Array.map_pop]
      simp only [Option.map_some, start, ← map_sink, map_siftUp]

end Rename

end CodeAtlas.Heap
