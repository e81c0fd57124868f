import CodeAtlas.Json.Printer
import CodeAtlas.Json.Reader

/-!
# Texts and integers in JSON

A text between its quotes and an integer of 64 bits are read back as they were written, whatever
follows the text, and whatever follows the integer that cannot be a part of it.

1. `pieces_writeChar`: a character is written as one piece, which stands for it.
2. `number_toDigits`: the digits of a number are taken up to its end.
3. `took_quotedText`, `took_numberAtom`: what is taken from the front of a text.
-/

namespace CodeAtlas.Json

/-- Whether just `found` was taken from the front of a text, without a fault, and `rest` is left. -/
structure Front.Took {α : Type} {cs : List Char} (f : Front α cs) (found : α)
    (rest : List Char) : Prop where
  found : f.found = found
  fault : f.fault = none
  rest : f.rest = rest

/-! ## Quoted texts -/

theorem hexValue?_digitChar : ∀ n < 16, hexValue? (Nat.digitChar n) = some n := by decide

/-- A control character has a number of two digits, which are filled up to four. -/
theorem hexDigits_control : ∀ n < 32,
    List.replicate (4 - (Nat.toDigits 16 n).length) '0' ++ Nat.toDigits 16 n =
      ['0', '0', Nat.digitChar (n / 16), Nat.digitChar (n % 16)] := by decide

theorem pieces_hex {a b c d : Char} {p q r s : Nat} (ha : hexValue? a = some p)
    (hb : hexValue? b = some q) (hc : hexValue? c = some r) (hd : hexValue? d = some s)
    (cs : List Char) :
    pieces ('\\' :: 'u' :: a :: b :: c :: d :: cs) =
      (.unit (((p * 16 + q) * 16 + r) * 16 + s) :: (pieces cs).1, (pieces cs).2) := by
  rw [pieces]
  simp only [ha, hb, hc, hd]

theorem pieces_control {c : Char} (h : c.toNat < 32) (cs : List Char) :
    pieces ('\\' :: 'u' :: '0' :: '0' :: Nat.digitChar (c.toNat / 16) ::
      Nat.digitChar (c.toNat % 16) :: cs) = (.unit c.toNat :: (pieces cs).1, (pieces cs).2) := by
  have high := hexValue?_digitChar (c.toNat / 16) (by omega)
  have low := hexValue?_digitChar (c.toNat % 16) (by omega)
  have zero : hexValue? '0' = some 0 := rfl
  rw [pieces_hex zero zero high low]
  congr 3
  omega

theorem assemble_char (c : Char) (fault : Option Fault) (found : List Piece) :
    assemble fault (.char c :: found) = (assemble fault found).map (c :: ·) := by
  rw [assemble]

/-- The number of a control character is half of no surrogate pair. -/
theorem assemble_control {c : Char} (h : c.toNat < 32) (fault : Option Fault)
    (found : List Piece) :
    assemble fault (.unit c.toNat :: found) = (assemble fault found).map (c :: ·) := by
  have high : isHigh c.toNat = false := by
    simp only [isHigh, Bool.and_eq_false_iff, decide_eq_false_iff_not]
    omega
  have low : isLow c.toNat = false := by
    simp only [isLow, Bool.and_eq_false_iff, decide_eq_false_iff_not]
    omega
  rw [assemble.eq_def]
  simp [high, low]

/-- A character is written as one piece, which stands for it. -/
theorem pieces_writeChar (c : Char) (cs : List Char) :
    ∃ piece, pieces (writeChar c ++ cs) = (piece :: (pieces cs).1, (pieces cs).2) ∧
      ∀ fault found, assemble fault (piece :: found) = (assemble fault found).map (c :: ·) := by
  unfold writeChar
  split
  · subst_vars
    exact ⟨.char '"', by simp [pieces, escaped?], assemble_char _⟩
  split
  · subst_vars
    exact ⟨.char '\\', by simp [pieces, escaped?], assemble_char _⟩
  split
  · subst_vars
    exact ⟨.char '\n', by simp [pieces, escaped?], assemble_char _⟩
  split
  · subst_vars
    exact ⟨.char '\r', by simp [pieces, escaped?], assemble_char _⟩
  split
  · subst_vars
    exact ⟨.char '\t', by simp [pieces, escaped?], assemble_char _⟩
  split
  · subst_vars
    exact ⟨.char '\x08', by simp [pieces, escaped?], assemble_char _⟩
  split
  · subst_vars
    exact ⟨.char '\x0c', by simp [pieces, escaped?], assemble_char _⟩
  split
  · rename_i h
    refine ⟨.unit c.toNat, ?_, assemble_control h⟩
    dsimp only
    rw [List.append_assoc, List.append_assoc, ← List.append_assoc (List.replicate _ _),
      hexDigits_control c.toNat h]
    exact pieces_control h cs
  · rename_i h
    refine ⟨.char c, ?_, assemble_char c⟩
    rw [List.singleton_append, pieces.eq_def]
    split <;> simp_all

theorem pieces_flatMap_writeChar (cs rest : List Char) :
    ∃ found, pieces (cs.flatMap writeChar ++ '"' :: rest) = (found, none, rest) ∧
      assemble none found = .ok cs := by
  induction cs with
  | nil => exact ⟨[], by simp [pieces], rfl⟩
  | cons c cs ih =>
    obtain ⟨found, hp, ha⟩ := ih
    obtain ⟨piece, step, stands⟩ := pieces_writeChar c (cs.flatMap writeChar ++ '"' :: rest)
    refine ⟨piece :: found, ?_, ?_⟩
    · rw [List.flatMap_cons, List.append_assoc, step, hp]
    · rw [stands, ha]
      rfl

theorem took_quotedText (s : String) (rest : List Char) :
    (quotedText (s.toList.flatMap writeChar ++ '"' :: rest)).Took (.text (.ok s) none) rest := by
  obtain ⟨found, hp, ha⟩ := pieces_flatMap_writeChar s.toList rest
  refine ⟨?_, ?_, ?_⟩
  · simp only [quotedText, hp, ha, Except.map, String.ofList_toList]
  · simp only [quotedText, hp]
  · simp only [quotedText, hp]

/-! ## Integers -/

/-- Whether a text does not go on with what could be a part of a number. -/
def EndsNumber (rest : List Char) : Prop :=
  ∀ c ∈ rest.head?, isDigit c = false ∧ c ≠ '.' ∧ c ≠ 'e' ∧ c ≠ 'E'

theorem endsNumber_nil : EndsNumber [] := by
  intro c h
  cases h

theorem digits_append {ds rest : List Char} (all : ∀ c ∈ ds, isDigit c = true)
    (ends : EndsNumber rest) :
    digits (ds ++ rest) = (ds.map fun c => c.toNat - '0'.toNat, rest) := by
  have none_first : rest.takeWhile isDigit = [] ∧ rest.dropWhile isDigit = rest := by
    cases rest with
    | nil => exact ⟨rfl, rfl⟩
    | cons c cs => simp [(ends c rfl).1]
  unfold digits
  rw [List.takeWhile_append_of_pos all, List.dropWhile_append_of_pos all, none_first.1,
    none_first.2, List.append_nil]

theorem isDigit_of_mem_toDigits {n : Nat} {c : Char} (h : c ∈ Nat.toDigits 10 n) :
    isDigit c = true := Nat.isDigit_of_mem_toDigits (by decide) (by decide) h

theorem toDigits_eq_cons (n : Nat) : ∃ c cs, Nat.toDigits 10 n = c :: cs ∧ isDigit c = true := by
  cases digits : Nat.toDigits 10 n with
  | nil => exact absurd digits Nat.toDigits_ne_nil
  | cons c cs => exact ⟨c, cs, rfl, isDigit_of_mem_toDigits (n := n) (by simp [digits])⟩

theorem toNat_digitChar_sub : ∀ n < 10, (Nat.digitChar n).toNat - '0'.toNat = n := by decide

/-- Only zero is written with a zero in front. -/
theorem eq_zero_of_head_toDigits {n : Nat}
    (h : ((Nat.toDigits 10 n).map fun c => c.toNat - '0'.toNat).head? = some 0) : n = 0 := by
  induction n using Nat.strongRecOn with
  | _ n ih =>
    by_cases small : n < 10
    · rw [Nat.toDigits_of_lt_base small, List.map_singleton, toNat_digitChar_sub n small] at h
      exact Option.some.inj h
    · rw [Nat.toDigits_of_base_le (by decide) (by omega), List.map_append, List.head?_append,
        Option.or_of_isSome (by simp [Nat.toDigits_ne_nil])] at h
      have := ih (n / 10) (by omega) h
      omega

theorem le_ofDigitChars (cs : List Char) (n : Nat) : n ≤ Nat.ofDigitChars 10 cs n := by
  induction cs generalizing n with
  | nil => exact Nat.le_refl n
  | cons c cs ih =>
    rw [Nat.ofDigitChars_cons]
    have := ih (10 * n + (c.toNat - '0'.toNat))
    omega

/-- Digits are all taken while their number stays below the limit. -/
theorem takeDigits_map {limit : Nat} (cs : List Char) {n : Nat}
    (h : Nat.ofDigitChars 10 cs n < limit) :
    takeDigits limit n (cs.map fun c => c.toNat - '0'.toNat) =
      (Nat.ofDigitChars 10 cs n, []) := by
  induction cs generalizing n with
  | nil => rfl
  | cons c cs ih =>
    rw [Nat.ofDigitChars_cons, Nat.mul_comm] at h ⊢
    have := le_ofDigitChars cs (n * 10 + (c.toNat - '0'.toNat))
    rw [List.map_cons, takeDigits, if_pos (by omega), ih h]

/-- The digits of a number are taken up to its end, behind a sign or without one. -/
theorem number_toDigits {cs rest : List Char} {negative : Bool} {n : Nat}
    (signed : sign cs = (negative, Nat.toDigits 10 n ++ rest)) (ends : EndsNumber rest) :
    number cs = (.ok ⟨negative, (Nat.toDigits 10 n).map fun c => c.toNat - '0'.toNat, none, none⟩,
      rest) := by
  have whole : digits (Nat.toDigits 10 n ++ rest) =
      ((Nat.toDigits 10 n).map fun c => c.toNat - '0'.toNat, rest) :=
    digits_append (fun _ => isDigit_of_mem_toDigits) ends
  have fraction : fraction? rest = (.ok none, rest) := by
    unfold fraction?
    split
    · exact absurd rfl (ends '.' rfl).2.1
    · rfl
  have exponent : exponent? rest = (.ok none, rest) := by
    unfold exponent?
    split
    · exact absurd rfl (ends 'e' rfl).2.2.1
    · exact absurd rfl (ends 'E' rfl).2.2.2
    · rfl
  have filled : ((Nat.toDigits 10 n).map fun c => c.toNat - '0'.toNat).isEmpty = false := by
    simp [Nat.toDigits_ne_nil]
  have no_zero : ¬ (((Nat.toDigits 10 n).map fun c => c.toNat - '0'.toNat).head? = some 0 ∧
      ((Nat.toDigits 10 n).map fun c => c.toNat - '0'.toNat).length ≠ 1) := by
    rintro ⟨zero, long⟩
    rw [eq_zero_of_head_toDigits zero] at long
    exact long rfl
  unfold number
  simp only [signed, whole, filled, no_zero, fraction, exponent, if_false]
  rfl

/-- An integer of 64 bits, with or without a sign. -/
def IsWord (n : Int) : Prop := -9223372036854775808 ≤ n ∧ n < 18446744073709551616

theorem value?_toDigits {n : Int} (h : IsWord n) :
    NumberText.value? ⟨decide (n < 0),
      (Nat.toDigits 10 n.natAbs).map fun c => c.toNat - '0'.toNat, none, none⟩ =
      some (.int n) := by
  obtain ⟨least, greatest⟩ := h
  have whole : takeDigits (Nat.pow 2 64) 0
      ((Nat.toDigits 10 n.natAbs).map fun c => c.toNat - '0'.toNat) = (n.natAbs, []) := by
    have power : Nat.pow 2 64 = 18446744073709551616 := rfl
    rw [takeDigits_map _ (by rw [Nat.ofDigitChars_ten_toDigits]; omega),
      Nat.ofDigitChars_ten_toDigits]
  unfold NumberText.value?
  simp only [whole]
  by_cases negative : n < 0
  · have power : Nat.pow 2 63 = 9223372036854775808 := rfl
    have bounded : ¬ (n.natAbs = 0 ∨ Nat.pow 2 63 < n.natAbs) := by omega
    simp only [negative, decide_true, Bool.not_true, Bool.false_eq_true, if_false, if_neg bounded]
    congr 2
    omega
  · simp only [negative, decide_false, Bool.not_false, if_true]
    congr 2
    omega

theorem toList_toString (n : Int) :
    (toString n).toList = (if n < 0 then ['-'] else []) ++ Nat.toDigits 10 n.natAbs := by
  rw [Int.toString_eq_repr, Int.repr_eq_if]
  by_cases negative : n < 0
  · rw [if_neg (by omega), if_pos negative, String.toList_append, Nat.toList_repr]
    congr 2
    omega
  · rw [if_pos (by omega), if_neg negative, Nat.toList_repr]
    congr 1
    omega

theorem toList_toString_eq_cons (n : Int) :
    ∃ c cs, (toString n).toList = c :: cs ∧ (c = '-' ∨ isDigit c = true) := by
  obtain ⟨c, cs, digits, digit⟩ := toDigits_eq_cons n.natAbs
  rw [toList_toString, digits]
  by_cases negative : n < 0
  · exact ⟨'-', c :: cs, by simp [negative], Or.inl rfl⟩
  · exact ⟨c, cs, by simp [negative], Or.inr digit⟩

theorem sign_toString (n : Int) (rest : List Char) :
    sign ((toString n).toList ++ rest) =
      (decide (n < 0), Nat.toDigits 10 n.natAbs ++ rest) := by
  rw [toList_toString]
  by_cases negative : n < 0
  · simp [negative, sign]
  · rw [if_neg negative, List.nil_append, decide_eq_false negative]
    unfold sign
    split
    · rename_i front h
      obtain ⟨c, cs, digits, digit⟩ := toDigits_eq_cons n.natAbs
      rw [digits] at h
      obtain rfl : c = '-' := (List.cons.inj h).1
      cases digit
    · rfl

theorem took_numberAtom {n : Int} (h : IsWord n) {rest : List Char} (ends : EndsNumber rest) :
    (numberAtom ((toString n).toList ++ rest)).Took (.atom (.ok (.int n)) none) rest := by
  have read := number_toDigits (sign_toString n rest) ends
  refine ⟨?_, ?_, ?_⟩
  · simp only [numberAtom, read, passingFault, bind, Except.bind, value?_toDigits h]
  · simp only [numberAtom, read, passingFault]
  · simp only [numberAtom, read]

end CodeAtlas.Json
