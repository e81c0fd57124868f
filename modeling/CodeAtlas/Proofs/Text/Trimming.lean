import CodeAtlas.Proofs.Text.Words
import Mathlib.Data.List.DropRight
import Mathlib.Data.List.Infix

/-!
# Trimmed texts

What is left of a text that is trimmed: a piece of it, which begins and ends in no character that is
dropped. The words of a text are pieces of it too.
-/

namespace CodeAtlas.Text

variable {p : Char → Bool} {cs : List Char}

/-! ## The two ends -/

theorem dropEndWhile_eq_rdropWhile (p : Char → Bool) (cs : List Char) :
    dropEndWhile p cs = cs.rdropWhile p := by
  induction cs using List.reverseRecOn with
  | nil => rfl
  | append_singleton cs c ih =>
    have last : dropEndWhile p [c] = if p c = true then [] else [c] := rfl
    rw [List.rdropWhile_concat, dropEndWhile_append, last, ← ih]
    by_cases hc : p c = true
    · rw [if_pos hc, if_pos hc, if_pos rfl]
    · rw [if_neg hc, if_neg hc, if_neg (List.cons_ne_nil c [])]

theorem isPrefix_dropEndWhile (p : Char → Bool) (cs : List Char) : dropEndWhile p cs <+: cs := by
  rw [dropEndWhile_eq_rdropWhile]
  exact List.rdropWhile_prefix p cs

/-- What is dropped from the end of a text. -/
theorem exists_eq_dropEndWhile_append (p : Char → Bool) (cs : List Char) :
    ∃ dropped, cs = dropEndWhile p cs ++ dropped ∧ ∀ c ∈ dropped, p c = true := by
  refine ⟨cs.rtakeWhile p, ?_, fun c => List.mem_rtakeWhile_imp⟩
  rw [dropEndWhile_eq_rdropWhile, List.rdropWhile_append_rtakeWhile]

/-- A character that is kept is kept wherever it stands. -/
theorem mem_dropEndWhile {c : Char} (mem : c ∈ cs) (kept : p c = false) : c ∈ dropEndWhile p cs := by
  obtain ⟨dropped, hcs, off⟩ := exists_eq_dropEndWhile_append p cs
  rw [hcs] at mem
  rcases List.mem_append.1 mem with mem | mem
  · exact mem
  · cases (off c mem).symm.trans kept

/-- What is dropped from the front of a text. -/
theorem exists_eq_append_dropWhile (p : Char → Bool) (cs : List Char) :
    ∃ dropped, cs = dropped ++ cs.dropWhile p ∧ ∀ c ∈ dropped, p c = true :=
  ⟨cs.takeWhile p, List.takeWhile_append_dropWhile.symm, fun _ => List.mem_takeWhile_imp⟩

/-- Nothing is dropped from the end of a text if its last character is kept. -/
theorem dropEndWhile_eq_self_iff : dropEndWhile p cs = cs ↔ ∀ c ∈ cs.getLast?, p c = false := by
  constructor
  · intro kept c last
    rw [← kept] at last
    exact dropEndWhile_last last
  · intro kept
    rcases List.eq_nil_or_concat cs with rfl | ⟨init, c, rfl⟩
    · rfl
    · rw [List.concat_eq_append] at kept ⊢
      have last : dropEndWhile p [c] = [c] :=
        dropEndWhile_eq_self (List.forall_mem_singleton.2 (kept c List.getLast?_concat))
      exact dropEndWhile_append_of_kept last (List.cons_ne_nil c [])

theorem getLast?_dropEndWhile (p : Char → Bool) (cs : List Char) :
    ∀ c ∈ (dropEndWhile p cs).getLast?, p c = false :=
  fun _ => dropEndWhile_last

theorem head?_dropWhile (p : Char → Bool) (cs : List Char) :
    ∀ c ∈ (cs.dropWhile p).head?, p c = false := by
  intro c first
  have kept := List.head?_dropWhile_not p cs
  rw [Option.mem_def.1 first] at kept
  exact kept

/-- Nothing is dropped from the front of a text if its first character is kept. -/
theorem dropWhile_eq_self_iff : cs.dropWhile p = cs ↔ ∀ c ∈ cs.head?, p c = false := by
  constructor
  · intro kept c first
    rw [← kept] at first
    exact head?_dropWhile p cs c first
  · intro kept
    cases cs with
    | nil => rfl
    | cons c cs =>
      refine List.dropWhile_cons_of_neg ?_
      rw [kept c rfl]
      exact Bool.false_ne_true

/-- What stands before a text is dropped, up to its first character that is kept. -/
theorem dropWhile_append_of_kept {front : List Char} (opening : ∀ c ∈ front, p c = true)
    (first : ∀ c ∈ cs.head?, p c = false) : (front ++ cs).dropWhile p = cs := by
  rw [List.dropWhile_append_of_pos opening]
  exact dropWhile_eq_self_iff.2 first

theorem isInfix_trim (p : Char → Bool) (cs : List Char) : trim p cs <:+: cs :=
  (isPrefix_dropEndWhile p _).isInfix.trans (List.dropWhile_suffix p).isInfix

/-- What stands around a text is trimmed off, up to its first and last characters that are kept. -/
theorem trim_append {front back : List Char} (opening : ∀ c ∈ front, p c = true)
    (closing : ∀ c ∈ back, p c = true) (nonempty : cs ≠ []) (first : ∀ c ∈ cs.head?, p c = false)
    (last : ∀ c ∈ cs.getLast?, p c = false) : trim p (front ++ cs ++ back) = cs := by
  have begun : (front ++ (cs ++ back)).dropWhile p = cs ++ back := by
    refine dropWhile_append_of_kept opening ?_
    rwa [List.head?_append_of_ne_nil _ nonempty]
  rw [trim, List.append_assoc, begun, dropEndWhile_append_of_all closing]
  exact dropEndWhile_eq_self_iff.2 last

/-! ## Words -/

theorem Joined.infix_of_mem {ws : List (List Char)} {text w : List Char} (h : Joined ws text)
    (mem : w ∈ ws) : w <:+: text := by
  induction h with
  | nil => cases mem
  | one isWord =>
    obtain rfl := List.mem_singleton.1 mem
    exact List.infix_refl _
  | @cons v gap _ text _ isWord isGap _ ih =>
    rcases List.mem_cons.1 mem with rfl | mem
    · rw [List.append_assoc]
      exact (List.prefix_append _ _).isInfix
    · exact (ih mem).trans (List.suffix_append _ _).isInfix

theorem infix_of_mem_words {w : List Char} (mem : w ∈ words cs) : w <:+: cs :=
  ((joined_trim cs).infix_of_mem mem).trans (isInfix_trim isBlank cs)

end CodeAtlas.Text
