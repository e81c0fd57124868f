import Mathlib.Data.List.Basic

/-!
# Occurrences in lists

`List.eraseDups` keeps the first occurrence of each entry. It may be done before or after entries
are left out or renamed apart, and before or after they are replaced by lists.

* `eraseDups_filter`, `eraseDups_map`: entries are left out or renamed first.
* `eraseDups_flatMap`, `eraseDups_flatMap_eraseDups`: each entry gives a list, in which only first
  occurrences count.
* `nodup_eraseDups`, `length_eraseDups_eq_iff`: what is kept is pairwise different, and it is all
  exactly if all was.
-/

namespace CodeAtlas

variable {α β : Type}

variable [BEq α] [BEq β]

/-- Induction along `eraseDups`: the entries that repeat the first one are left out. -/
@[elab_as_elim]
theorem eraseDups_induction {motive : List α → Prop} (nil : motive [])
    (cons : ∀ a l, motive (l.filter (!· == a)) → motive (a :: l)) (l : List α) : motive l := by
  generalize hn : l.length = n
  induction n using Nat.strongRecOn generalizing l with
  | ind n ih =>
    cases l with
    | nil => exact nil
    | cons a rest =>
      have shorter : (rest.filter (!· == a)).length < n := by
        have := List.length_filter_le (!· == a) rest
        rw [List.length_cons] at hn
        omega
      exact cons a rest (ih _ shorter _ rfl)

theorem eraseDups_sublist (l : List α) : l.eraseDups.Sublist l := by
  induction l using eraseDups_induction with
  | nil => exact List.Sublist.refl _
  | cons a rest ih =>
    rw [List.eraseDups_cons]
    exact (ih.trans List.filter_sublist).cons_cons a

variable [LawfulBEq α] [LawfulBEq β]

theorem eraseDups_filter (p : α → Bool) (l : List α) :
    (l.filter p).eraseDups = l.eraseDups.filter p := by
  induction l using eraseDups_induction with
  | nil => rfl
  | cons a rest ih =>
    rw [List.filter_comm] at ih
    rw [List.eraseDups_cons, List.filter_cons, List.filter_cons]
    split
    · rw [List.eraseDups_cons, ih]
    · rename_i out
      -- no entry that is kept equals the one that is left out
      have same : (rest.filter p).filter (!· == a) = rest.filter p := by
        refine List.filter_eq_self.2 fun b hb => ?_
        rw [Bool.not_eq_true', beq_eq_false_iff_ne]
        rintro rfl
        exact out (List.mem_filter.1 hb).2
      rw [same] at ih
      exact ih

/-- One more entry is kept at the end unless it occurred before. -/
theorem eraseDups_concat (l : List α) (a : α) [Decidable (a ∈ l)] :
    (l ++ [a]).eraseDups = if a ∈ l then l.eraseDups else l.eraseDups ++ [a] := by
  rw [List.eraseDups_append, List.removeAll]
  by_cases mem : a ∈ l
  · simp [mem]
  · simp [mem, List.eraseDups_cons]

/-- Different entries are given different names. -/
theorem eraseDups_map {f : α → β} {l : List α} (apart : ∀ a ∈ l, ∀ b ∈ l, f a = f b → a = b) :
    (l.map f).eraseDups = l.eraseDups.map f := by
  induction l using eraseDups_induction with
  | nil => rfl
  | cons a rest ih =>
    have same : (rest.map f).filter (!· == f a) = (rest.filter (!· == a)).map f := by
      rw [List.filter_map]
      refine congrArg (List.map f) (List.filter_congr fun b hb => ?_)
      rw [Function.comp_apply, Bool.not_inj_iff, Bool.eq_iff_iff, beq_iff_eq, beq_iff_eq]
      exact ⟨apart b (List.mem_cons_of_mem _ hb) a List.mem_cons_self, congrArg f⟩
    rw [List.map_cons, List.eraseDups_cons, List.eraseDups_cons, List.map_cons, same, ih]
    intro b hb c hc
    exact apart b (List.mem_cons_of_mem _ (List.mem_filter.1 hb).1) c
      (List.mem_cons_of_mem _ (List.mem_filter.1 hc).1)

/-- What the repetitions of an entry give is left out with it. -/
theorem filter_flatMap_filter (f : α → List β) (a : α) (l : List α) :
    ((l.filter (!· == a)).flatMap f).removeAll (f a) = (l.flatMap f).removeAll (f a) := by
  induction l with
  | nil => rfl
  | cons b rest ih =>
    unfold List.removeAll at ih ⊢
    rw [List.flatMap_cons, List.filter_append, List.filter_cons]
    split
    · rw [List.flatMap_cons, List.filter_append, ih]
    · rename_i again
      obtain rfl : b = a := by simpa using again
      have none : (f b).filter (fun x => !(f b).elem x) = [] := by
        refine List.filter_eq_nil_iff.2 fun x hx => ?_
        simpa using hx
      rw [none, ih, List.nil_append]

theorem eraseDups_flatMap (f : α → List β) (l : List α) :
    (l.eraseDups.flatMap f).eraseDups = (l.flatMap f).eraseDups := by
  induction l using eraseDups_induction with
  | nil => rfl
  | cons a rest ih =>
    have tail : ∀ m : List β, (m.removeAll (f a)).eraseDups = m.eraseDups.removeAll (f a) :=
      fun m => eraseDups_filter _ m
    rw [List.eraseDups_cons, List.flatMap_cons, List.flatMap_cons, List.eraseDups_append,
      List.eraseDups_append, tail, ih, ← tail, filter_flatMap_filter]

theorem eraseDups_eraseDups (l : List α) : l.eraseDups.eraseDups = l.eraseDups := by
  simpa using eraseDups_flatMap (fun a => [a]) l

/-- Repetitions may be dropped first in the front of a list. -/
theorem eraseDups_eraseDups_append (l m : List α) :
    (l.eraseDups ++ m).eraseDups = (l ++ m).eraseDups := by
  have same : m.removeAll l.eraseDups = m.removeAll l := by
    unfold List.removeAll
    refine List.filter_congr fun b _ => ?_
    rw [Bool.not_inj_iff, Bool.eq_iff_iff, List.elem_iff, List.elem_iff, List.mem_eraseDups]
  rw [List.eraseDups_append, List.eraseDups_append, eraseDups_eraseDups, same]

/-- Repetitions may be dropped first in the rest of a list. -/
theorem eraseDups_append_eraseDups (l m : List α) :
    (l ++ m.eraseDups).eraseDups = (l ++ m).eraseDups := by
  have rest : ∀ m : List α, (m.removeAll l).eraseDups = m.eraseDups.removeAll l :=
    fun m => eraseDups_filter _ m
  rw [List.eraseDups_append, List.eraseDups_append, rest, rest, eraseDups_eraseDups]

omit [BEq α] [LawfulBEq α] in
/-- Repetitions may be dropped first in each of the lists that the entries give. -/
theorem eraseDups_flatMap_eraseDups (f : α → List β) (l : List α) :
    (l.flatMap fun a => (f a).eraseDups).eraseDups = (l.flatMap f).eraseDups := by
  induction l with
  | nil => rfl
  | cons a rest ih =>
    rw [List.flatMap_cons, List.flatMap_cons, eraseDups_eraseDups_append,
      ← eraseDups_append_eraseDups, ih, eraseDups_append_eraseDups]

/-! ## What is kept -/

theorem nodup_eraseDups (l : List α) : l.eraseDups.Nodup := by
  induction l using eraseDups_induction with
  | nil => exact List.nodup_nil
  | cons a rest ih =>
    rw [List.eraseDups_cons, List.nodup_cons]
    refine ⟨fun again => ?_, ih⟩
    rw [List.mem_eraseDups, List.mem_filter] at again
    simp at again

theorem eraseDups_eq_self {l : List α} (h : l.Nodup) : l.eraseDups = l := by
  induction l with
  | nil => rfl
  | cons a rest ih =>
    obtain ⟨new, nodup⟩ := List.nodup_cons.1 h
    have others : rest.filter (!· == a) = rest := by
      refine List.filter_eq_self.2 fun b hb => ?_
      rw [Bool.not_eq_true', beq_eq_false_iff_ne]
      rintro rfl
      exact new hb
    rw [List.eraseDups_cons, others, ih nodup]

theorem length_eraseDups_eq_iff {l : List α} : l.eraseDups.length = l.length ↔ l.Nodup := by
  constructor
  · intro same
    rw [← (eraseDups_sublist l).eq_of_length same]
    exact nodup_eraseDups l
  · intro nodup
    rw [eraseDups_eq_self nodup]

/-- Of a list as many entries are left as it has exactly if none repeats and none is left out. -/
theorem length_eraseDups_filter_eq_iff {p : α → Bool} {l : List α} :
    (l.filter p).eraseDups.length = l.length ↔ l.Nodup ∧ ∀ a ∈ l, p a := by
  have kept := (eraseDups_sublist (l.filter p)).length_le
  have some_left := List.length_filter_le p l
  constructor
  · intro same
    have all : l.filter p = l := List.filter_sublist.eq_of_length (by omega)
    rw [all] at same
    exact ⟨length_eraseDups_eq_iff.1 same, List.filter_eq_self.1 all⟩
  · rintro ⟨nodup, all⟩
    rw [List.filter_eq_self.2 all, eraseDups_eq_self nodup]

end CodeAtlas
