import CodeAtlas.Proofs.Cycle.Stack
import Mathlib.Data.List.Rotate

/-!
# One cycle, read from any of its ids on

A cycle is the same from whichever of its ids it is read, and whether the first id is repeated at the
end or not. `Cycle.sameAs` guesses which of the two a sequence is from its ends. The guess is right
for the cycles that are found, since these come to no id twice before they close.

1. `openOf_eq_iff`: which sequences are opened to one without repeats.
2. `sameAs_eq_readAround`, `sameAs_iff_isRotated`: the comparison reads around one sequence from some
   place on, so it turns it into the other.
3. `Pairs.sameAs_readings`: what `Cycle.sameAs` says of the cycles that are found.
-/

namespace CodeAtlas

namespace Cycle

variable {pairs others : Pairs} {c d : Cycle} {ids other r : List String}

/-! ## Open and closed sequences -/

/-- A sequence with its first id repeated at the end. -/
def closedOf (ids : List String) : List String := ids ++ ids.head?.toList

theorem openOf_closedOf (nonempty : ids ≠ []) : openOf (closedOf ids) = ids := by
  cases ids with
  | nil => exact (nonempty rfl).elim
  | cons first rest =>
    show openOf (first :: (rest ++ [first])) = first :: rest
    rw [openOf, if_pos List.getLast?_concat, List.dropLast_concat]

theorem openOf_of_nodup (nodup : ids.Nodup) : openOf ids = ids := by
  cases ids with
  | nil => rfl
  | cons first rest =>
    rw [openOf, if_neg]
    intro closes
    exact (List.nodup_cons.1 nodup).1 (List.mem_of_getLast? closes)

theorem eq_openOf_or_eq_closedOf (other : List String) :
    other = openOf other ∨ other = closedOf (openOf other) := by
  cases other with
  | nil => exact Or.inl rfl
  | cons first rest =>
    rw [openOf]
    split
    case isTrue closes =>
      obtain ⟨init, rfl⟩ := List.getLast?_eq_some_iff.1 closes
      rw [List.dropLast_concat]
      exact Or.inr rfl
    case isFalse => exact Or.inl rfl

/-- A sequence is opened to one without repeats if it is that sequence, open or closed. -/
theorem openOf_eq_iff (nonempty : r ≠ []) (nodup : r.Nodup) :
    openOf other = r ↔ other = r ∨ other = closedOf r := by
  constructor
  · rintro rfl
    exact eq_openOf_or_eq_closedOf other
  · rintro (rfl | rfl)
    · exact openOf_of_nodup nodup
    · exact openOf_closedOf nonempty

/-! ## Turning a sequence -/

theorem opened_eq_dropLast (c : Cycle) : c.opened = c.nodes.dropLast :=
  (List.dropLast_eq_take).symm

/-- Whether a sequence is what is read around `ids` from the place `start` on, entry by entry: after
the last one the first one follows. -/
def readAround (ids other : List String) (start : Nat) : Bool :=
  (List.range other.length).all fun i => ids[(start + i) % ids.length]? == other[i]?

theorem readAround_iff {start : Nat} (same : ids.length = other.length) :
    readAround ids other start = true ↔ ids.rotate start = other := by
  unfold readAround
  rw [List.all_eq_true]
  constructor
  · intro h
    refine List.ext_getElem? fun i => ?_
    by_cases hi : i < other.length
    · rw [List.getElem?_rotate (by omega), Nat.add_comm]
      exact beq_iff_eq.1 (h i (List.mem_range.2 hi))
    · rw [List.getElem?_eq_none (by rw [List.length_rotate]; omega),
        List.getElem?_eq_none (Nat.le_of_not_lt hi)]
  · rintro turned i hi
    rw [List.mem_range] at hi
    rw [beq_iff_eq, ← turned, List.getElem?_rotate (by omega), Nat.add_comm]

/-- To compare a cycle with a sequence is to read around the cycle from each of its places on. -/
theorem sameAs_eq_readAround (c : Cycle) (other : List String) :
    c.sameAs other = (c.opened.length == (openOf other).length &&
      (List.range c.opened.length).any (readAround c.opened (openOf other))) := by
  unfold sameAs
  by_cases same : c.opened.length = (openOf other).length
  · congr 1
    rw [Bool.eq_iff_iff, List.any_eq_true, List.any_eq_true]
    refine exists_congr fun start => and_congr_right fun hs => ?_
    rw [readAround_iff same, List.rotate_eq_drop_append_take (List.mem_range.1 hs).le, beq_iff_eq]
  · rw [beq_false_of_ne same, Bool.false_and, Bool.false_and]

/-- A cycle is compared with a sequence by turning one into the other. -/
theorem sameAs_iff_isRotated (nonempty : c.opened ≠ []) :
    c.sameAs other = true ↔ c.opened ~r openOf other := by
  rw [sameAs_eq_readAround, Bool.and_eq_true, beq_iff_eq, List.any_eq_true]
  constructor
  · rintro ⟨same, start, -, around⟩
    exact ⟨start, (readAround_iff same).1 around⟩
  · rintro ⟨n, turned⟩
    have same : c.opened.length = (openOf other).length := by rw [← turned, List.length_rotate]
    have inside : n % c.opened.length < c.opened.length :=
      Nat.mod_lt n (List.length_pos_of_ne_nil nonempty)
    refine ⟨same, n % c.opened.length, List.mem_range.2 inside, (readAround_iff same).2 ?_⟩
    rw [List.rotate_mod, turned]

/-! ## Readings of a cycle -/

/-- A sequence reads a cycle if it is a rotation of the ids without the closing one, or such a
rotation closed by its first id. -/
def Reads (c : Cycle) (other : List String) : Prop :=
  ∃ r, c.nodes.dropLast ~r r ∧ (other = r ∨ other = closedOf r)

theorem IsElementary.exists_opened (h : c.IsElementary pairs) :
    ∃ first mid, c.opened = first :: mid ∧ c.nodes = closedOf (first :: mid) := by
  obtain ⟨first, mid, hn⟩ := h.exists_eq
  refine ⟨first, mid, ?_, hn⟩
  rw [opened_eq_dropLast, hn, ← List.cons_append, List.dropLast_concat]

theorem IsElementary.opened_ne_nil (h : c.IsElementary pairs) : c.opened ≠ [] := by
  obtain ⟨first, mid, ho, -⟩ := h.exists_opened
  rw [ho]
  exact List.cons_ne_nil _ _

theorem IsElementary.closedOf_opened (h : c.IsElementary pairs) : closedOf c.opened = c.nodes := by
  obtain ⟨first, mid, ho, hn⟩ := h.exists_opened
  rw [ho, hn]

theorem IsElementary.nodup_opened (h : c.IsElementary pairs) : c.opened.Nodup := by
  rw [opened_eq_dropLast]
  exact h.nodup

/-- What reads a cycle is opened to a rotation of it. -/
theorem IsElementary.reads_iff (h : c.IsElementary pairs) :
    c.Reads other ↔ c.opened ~r openOf other := by
  unfold Reads
  rw [← opened_eq_dropLast]
  have opens : ∀ {r}, c.opened ~r r → (openOf other = r ↔ other = r ∨ other = closedOf r) :=
    fun turned => openOf_eq_iff
      (fun empty => h.opened_ne_nil (List.isRotated_nil_iff.1 (empty ▸ turned)))
      (turned.nodup_iff.1 h.nodup_opened)
  constructor
  · rintro ⟨r, turned, given⟩
    rw [(opens turned).2 given]
    exact turned
  · intro turned
    exact ⟨_, turned, (opens turned).1 rfl⟩

theorem IsElementary.sameAs_iff (h : c.IsElementary pairs) :
    c.sameAs other = true ↔ c.Reads other := by
  rw [sameAs_iff_isRotated h.opened_ne_nil, h.reads_iff]

theorem IsElementary.reads_nodes (h : c.IsElementary pairs) : c.Reads c.nodes := by
  refine ⟨_, List.IsRotated.refl _, Or.inr ?_⟩
  rw [← opened_eq_dropLast, h.closedOf_opened]

/-- Two sequences that read one cycle are compared alike. -/
theorem IsElementary.sameAs_iff_of_reads (hc : c.IsElementary pairs) (hd : d.IsElementary others)
    (reads : d.Reads other) : c.sameAs other = true ↔ c.opened ~r d.opened := by
  have turned : d.opened ~r openOf other := hd.reads_iff.1 reads
  rw [sameAs_iff_isRotated hc.opened_ne_nil]
  exact ⟨fun h => h.trans turned.symm, fun h => h.trans turned⟩

end Cycle

namespace Pairs

/-- **Readings.** A sequence is the same as a cycle that is found if and only if it is a rotation of
its ids, open or closed. So on the cycles that are found, of one relation or of several, to be the
same is an equivalence, whichever reading of the other cycle is given. -/
theorem sameAs_readings (pairs : Pairs) :
    ∀ c ∈ cycles pairs,
      (∀ other, c.sameAs other = true ↔
        ∃ r, c.nodes.dropLast ~r r ∧ (other = r ∨ other = r ++ r.head?.toList)) ∧
      c.sameAs c.nodes = true ∧
      ∀ pairs', ∀ d ∈ cycles pairs',
        (c.sameAs d.nodes = true ↔ d.sameAs c.nodes = true) ∧
        (∀ r, d.nodes.dropLast ~r r →
          c.sameAs r = c.sameAs d.nodes ∧ c.sameAs (r ++ r.head?.toList) = c.sameAs d.nodes) ∧
        ∀ pairs'', ∀ e ∈ cycles pairs'',
          c.sameAs d.nodes = true → d.sameAs e.nodes = true → c.sameAs e.nodes = true := by
  intro c found
  have hc := isElementary_of_mem_cycles found
  refine ⟨fun other => hc.sameAs_iff, hc.sameAs_iff.2 hc.reads_nodes, fun pairs' d found' => ?_⟩
  have hd := isElementary_of_mem_cycles found'
  have same : ∀ {other}, d.Reads other → (c.sameAs other = true ↔ c.opened ~r d.opened) :=
    hc.sameAs_iff_of_reads hd
  have alike : ∀ {other}, d.Reads other → c.sameAs other = c.sameAs d.nodes := fun reads =>
    Bool.eq_iff_iff.2 ((same reads).trans (same hd.reads_nodes).symm)
  refine ⟨?_, fun r turned => ⟨?_, ?_⟩, fun pairs'' e found'' => ?_⟩
  · rw [same hd.reads_nodes, hd.sameAs_iff_of_reads hc hc.reads_nodes]
    exact List.isRotated_comm
  · exact alike ⟨r, turned, Or.inl rfl⟩
  · exact alike ⟨r, turned, Or.inr rfl⟩
  · have he := isElementary_of_mem_cycles found''
    rw [same hd.reads_nodes, hd.sameAs_iff_of_reads he he.reads_nodes,
      hc.sameAs_iff_of_reads he he.reads_nodes]
    exact List.IsRotated.trans

/-- A triangle that three relations enter at three ids. -/
theorem sameAs_readings_triangle :
    ⟨["a", "b", "c", "a"]⟩ ∈ cycles [("a", "b"), ("b", "c"), ("c", "a")] ∧
    ⟨["b", "c", "a", "b"]⟩ ∈ cycles [("b", "c"), ("c", "a"), ("a", "b")] ∧
    ⟨["c", "a", "b", "c"]⟩ ∈ cycles [("e", "c"), ("c", "a"), ("a", "b"), ("b", "c")] ∧
    Cycle.sameAs ⟨["a", "b", "c", "a"]⟩ ["c", "a", "b"] = true ∧
    Cycle.sameAs ⟨["a", "b", "c", "a"]⟩ ["c", "a", "b", "c"] = true ∧
    Cycle.sameAs ⟨["b", "c", "a", "b"]⟩ ["a", "b", "c", "a"] = true ∧
    Cycle.sameAs ⟨["a", "b", "c", "a"]⟩ ["a", "b", "c", "a"] = true := by
  have first : ⟨["a", "b", "c", "a"]⟩ ∈ cycles [("a", "b"), ("b", "c"), ("c", "a")] := by
    decide +kernel
  have second : ⟨["b", "c", "a", "b"]⟩ ∈ cycles [("b", "c"), ("c", "a"), ("a", "b")] := by
    decide +kernel
  have third : ⟨["c", "a", "b", "c"]⟩ ∈
      cycles [("e", "c"), ("c", "a"), ("a", "b"), ("b", "c")] := by
    decide +kernel
  obtain ⟨readings, -, others⟩ := sameAs_readings _ _ first
  obtain ⟨symm, given, trans⟩ := others _ _ second
  have turned : ["b", "c", "a"] ~r ["c", "a", "b"] := ⟨1, rfl⟩
  have closed : Cycle.sameAs ⟨["a", "b", "c", "a"]⟩ ["b", "c", "a", "b"] = true :=
    (readings _).2 ⟨["b", "c", "a"], ⟨1, rfl⟩, Or.inr rfl⟩
  have back : Cycle.sameAs ⟨["b", "c", "a", "b"]⟩ ["a", "b", "c", "a"] = true := symm.1 closed
  have next : Cycle.sameAs ⟨["b", "c", "a", "b"]⟩ ["c", "a", "b", "c"] = true :=
    ((sameAs_readings _ _ second).1 _).2 ⟨["c", "a", "b"], turned, Or.inr rfl⟩
  exact ⟨first, second, third, (given _ turned).1.trans closed, trans _ _ third closed next, back,
    (sameAs_readings _ _ first).2.1⟩

end Pairs

end CodeAtlas
