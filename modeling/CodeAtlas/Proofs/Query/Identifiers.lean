import CodeAtlas.Query.Candidate
import CodeAtlas.Query.Grammar
import CodeAtlas.Proofs.Text.LetterCase

/-!
# Identifiers

An identifier is a name, or several with `::` or points between them (`isIdentifier_iff`). It begins
as a name does and ends as one does, and no character inside it can stand around a word. So what is
taken off a word to find its token is never a part of an identifier (`Token.ofWord_spelled`).

1. `segments_append`, `segments_cases`: the first segment of a text, and what comes after it.
2. `Qualified.first`, `Qualified.last`, `Qualified.inside`: the characters of an identifier.
3. `Token.ofWord_wrapped`: the token of a word with other characters around it.
-/

namespace CodeAtlas.Query

open Text (dropEndWhile trim)

/-! ## Characters -/

variable {c : Char}

theorem continuesName_of_beginsName (h : beginsName c = true) : continuesName c = true := by
  simp only [beginsName, continuesName, Bool.or_eq_true] at h ⊢
  rcases h with (h | h) | h
  · exact Or.inl (Or.inl (Or.inl h))
  · exact Or.inl (Or.inr h)
  · exact Or.inr h

theorem beginsName_of_isAlpha (h : c.isAlpha = true) : beginsName c = true := by
  have ascii : c.toNat < 128 := by
    rw [Text.isAlpha_iff, Text.isUpper_iff, Text.isLower_iff] at h
    omega
  simp only [beginsName, Text.isAlphabetic_of_ascii ascii, h, Bool.true_or]

/-- The code points of the blanks. -/
def blankPoints : List Nat :=
  List.range' 9 5 ++ [0x20, 0x85, 0xA0, 0x1680] ++ List.range' 0x2000 11 ++
    [0x2028, 0x2029, 0x202F, 0x205F, 0x3000]

theorem toNat_mem_blankPoints (h : Text.isBlank c = true) : c.toNat ∈ blankPoints := by
  simp only [Text.isBlank, Bool.or_eq_true, Bool.and_eq_true, decide_eq_true_eq, beq_iff_eq] at h
  simp only [blankPoints, List.mem_append, List.mem_range'_1, List.mem_cons, List.not_mem_nil]
  omega

/-- No blank stands in a name. -/
theorem isBlank_of_continuesName (h : continuesName c = true) : Text.isBlank c = false := by
  rw [← Bool.not_eq_true]
  intro blank
  have none : ∀ n ∈ blankPoints, continuesName (Char.ofNat n) = false := by decide +kernel
  have off := none _ (toNat_mem_blankPoints blank)
  rw [Char.ofNat_toNat, h] at off
  cases off

theorem isWrapping_iff : isWrapping c = true ↔
    c = '"' ∨ c = '\'' ∨ c = '\x60' ∨ c = '?' ∨ c = '!' ∨ c = ',' ∨ c = ';' := by
  simp only [isWrapping, Bool.or_eq_true, beq_iff_eq, or_assoc]

/-- Nothing that wraps a word stands in a name. -/
theorem isWrapping_of_continuesName (h : continuesName c = true) : isWrapping c = false := by
  rw [← Bool.not_eq_true, isWrapping_iff]
  rintro (rfl | rfl | rfl | rfl | rfl | rfl | rfl) <;> exact absurd h (by decide +kernel)

theorem ne_of_continuesName {d : Char} (off : continuesName d = false)
    (h : continuesName c = true) : c ≠ d := by
  rintro rfl
  cases h.symm.trans off

theorem continuesName_point : continuesName '.' = false := by decide

theorem continuesName_colon : continuesName ':' = false := by decide

theorem continuesName_close : continuesName ')' = false := by decide

/-! ## Segments -/

theorem isName_cons {cs : List Char} :
    isName (c :: cs) = true ↔ beginsName c = true ∧ ∀ d ∈ cs, continuesName d = true := by
  rw [isName, Bool.and_eq_true, List.all_eq_true]

/-- All characters of a name can stand in one. -/
theorem continuesName_of_isName {n : Word} (h : isName n = true) :
    ∀ d ∈ n, continuesName d = true := by
  cases n with
  | nil => exact List.forall_mem_nil _
  | cons c cs =>
    obtain ⟨begins, more⟩ := isName_cons.1 h
    exact List.forall_mem_cons.2 ⟨continuesName_of_beginsName begins, more⟩

theorem segments_cons {cs front : List Char} {others : List (List Char)} (colon : c ≠ ':')
    (point : c ≠ '.') (h : segments cs = front :: others) :
    segments (c :: cs) = (c :: front) :: others := by
  rw [segments, if_neg point, h]
  exact fun _ first _ => colon first

/-- Characters that stand in names belong to the segment after them. -/
theorem segments_append {n w front : List Char} {others : List (List Char)}
    (solid : ∀ d ∈ n, continuesName d = true) (h : segments w = front :: others) :
    segments (n ++ w) = (n ++ front) :: others := by
  induction n with
  | nil => exact h
  | cons c n ih =>
    obtain ⟨hc, hn⟩ := List.forall_mem_cons.1 solid
    exact segments_cons (ne_of_continuesName continuesName_colon hc)
      (ne_of_continuesName continuesName_point hc) (ih hn)

/-- Whether a text separates names. -/
def IsSeparator (s : List Char) : Prop := s = [':', ':'] ∨ s = ['.']

theorem segments_separator {s : List Char} (h : IsSeparator s) (w : List Char) :
    segments (s ++ w) = [] :: segments w := by
  rcases h with rfl | rfl
  · rfl
  · show (if '.' = '.' then [] :: segments w else _) = _
    rw [if_pos rfl]

/-- A text is its first segment, or that one, a separator and the text of the other segments. -/
theorem segments_cases (w : List Char) : segments w = [w] ∨
    ∃ front s rest, IsSeparator s ∧ w = front ++ s ++ rest ∧
      segments w = front :: segments rest := by
  fun_induction segments w with
  | case1 => exact Or.inl rfl
  | case2 cs _ => exact Or.inr ⟨[], [':', ':'], cs, Or.inl rfl, rfl, rfl⟩
  | case3 cs _ _ => exact Or.inr ⟨[], ['.'], cs, Or.inr rfl, rfl, rfl⟩
  | case4 c cs _ _ empty ih =>
    rw [empty] at ih
    rcases ih with ih | ⟨_, _, _, _, _, ih⟩ <;> cases ih
  | case5 c cs _ _ front others h ih =>
    rw [h] at ih
    rcases ih with whole | ⟨front, s, rest, separator, rfl, first⟩
    · obtain ⟨rfl, rfl⟩ := List.cons.inj whole
      exact Or.inl rfl
    · obtain ⟨rfl, rfl⟩ := List.cons.inj first
      exact Or.inr ⟨c :: front, s, rest, separator, rfl, rfl⟩

/-! ## Identifiers -/

/-- Names with separators between them. -/
inductive Qualified : Word → Prop where
  | name {n : Word} (isName : isName n = true) : Qualified n
  | within {n s w : Word} (isName : isName n = true) (separator : IsSeparator s)
      (rest : Qualified w) : Qualified (n ++ s ++ w)

theorem isIdentifier_of_isName {n : Word} (h : isName n = true) : isIdentifier n = true := by
  have whole : segments n = [n] := by
    have alone : segments ([] : List Char) = [[]] := rfl
    have more := segments_append (continuesName_of_isName h) alone
    rwa [List.append_nil] at more
  rw [isIdentifier, whole, List.all_cons, h]
  rfl

/-- **Identifiers** are names with separators between them. -/
theorem isIdentifier_iff {w : Word} : isIdentifier w = true ↔ Qualified w := by
  constructor
  · intro h
    -- the text after the first separator is shorter
    induction hn : w.length using Nat.strong_induction_on generalizing w with
    | _ n ih =>
      rcases segments_cases w with whole | ⟨front, s, rest, separator, rfl, first⟩
      · rw [isIdentifier, whole, List.all_cons, Bool.and_eq_true] at h
        exact .name h.1
      · rw [isIdentifier, first, List.all_cons, Bool.and_eq_true] at h
        have shorter : rest.length < n := by
          have separated : 0 < s.length := by rcases separator with rfl | rfl <;> decide
          rw [List.length_append, List.length_append] at hn
          omega
        exact .within h.1 separator (ih _ shorter h.2 rfl)
  · intro h
    induction h with
    | name isName => exact isIdentifier_of_isName isName
    | @within n s w isName separator _ ih =>
      have first : segments (n ++ (s ++ w)) = (n ++ []) :: segments w :=
        segments_append (continuesName_of_isName isName) (segments_separator separator w)
      rw [isIdentifier, List.append_assoc, first, List.append_nil, List.all_cons, isName]
      exact ih

namespace Qualified

variable {w : Word}

theorem first (h : Qualified w) : ∃ c cs, w = c :: cs ∧ beginsName c = true := by
  have begins : ∀ {n : Word}, isName n = true → ∃ c cs, n = c :: cs ∧ beginsName c = true := by
    intro n h
    cases n with
    | nil => cases h
    | cons c cs => exact ⟨c, cs, rfl, (isName_cons.1 h).1⟩
  cases h with
  | name isName => exact begins isName
  | within isName =>
    obtain ⟨c, cs, rfl, hc⟩ := begins isName
    exact ⟨c, _, rfl, hc⟩

theorem ne_nil (h : Qualified w) : w ≠ [] := by
  obtain ⟨c, cs, rfl, -⟩ := h.first
  exact List.cons_ne_nil c cs

theorem last (h : Qualified w) : ∀ c ∈ w.getLast?, continuesName c = true := by
  induction h with
  | name isName => exact fun c hc => continuesName_of_isName isName c (List.mem_of_mem_getLast? hc)
  | within _ _ rest ih =>
    rw [List.getLast?_append_of_ne_nil _ rest.ne_nil]
    exact ih

theorem inside (h : Qualified w) : ∀ c ∈ w, continuesName c = true ∨ c = ':' ∨ c = '.' := by
  induction h with
  | name isName => exact fun c hc => Or.inl (continuesName_of_isName isName c hc)
  | within isName separator _ ih =>
    intro c hc
    rcases List.mem_append.1 hc with hc | hc
    · rcases List.mem_append.1 hc with hc | hc
      · exact Or.inl (continuesName_of_isName isName c hc)
      · rcases separator with rfl | rfl <;> simp at hc <;> simp [hc]
    · exact ih c hc

/-- No blank stands in an identifier. -/
theorem isWord (h : Qualified w) : Text.IsWord w := by
  refine ⟨h.ne_nil, fun c hc => ?_⟩
  rcases h.inside c hc with hc | rfl | rfl
  · exact isBlank_of_continuesName hc
  · decide
  · decide

/-- Nothing that wraps a word stands in an identifier. -/
theorem isWrapping_eq_false (h : Qualified w) : ∀ c ∈ w, isWrapping c = false := by
  intro c hc
  rcases h.inside c hc with hc | rfl | rfl
  · exact isWrapping_of_continuesName hc
  · decide
  · decide

end Qualified

/-! ## Tokens -/

namespace Token

variable {t : Token} {w : Word}

/-- A token as it is written. -/
def spelled (t : Token) : Word := if t.called then t.name ++ ['(', ')'] else t.name

/-- A word without what wraps it and the points at its end. -/
def bare (w : Word) : Word := dropEndWhile (· == '.') (trim isWrapping w)

/-- The token of what is left of a word. -/
def ofBare (left : Word) : Token :=
  if ['(', ')'].isSuffixOf left then ⟨left.take (left.length - 2), true⟩ else ⟨left, false⟩

theorem ofWord_eq (w : Word) : ofWord w = ofBare (bare w) := rfl

theorem spelled_ofBare (left : Word) : (ofBare left).spelled = left := by
  unfold ofBare
  split
  case isFalse => rfl
  case isTrue called =>
    obtain ⟨name, rfl⟩ := List.isSuffixOf_iff_suffix.1 called
    simp [spelled]

/-- A token is read as it is written, unless its name ends as a call does. -/
theorem ofBare_spelled (last : ∀ c ∈ t.name.getLast?, c ≠ ')') : ofBare t.spelled = t := by
  obtain ⟨name, called⟩ := t
  cases called with
  | true =>
    show ofBare (name ++ ['(', ')']) = _
    rw [ofBare, if_pos (List.isSuffixOf_iff_suffix.2 (List.suffix_append name _))]
    simp
  | false =>
    refine if_neg fun ends => ?_
    obtain ⟨front, hfront⟩ := List.isSuffixOf_iff_suffix.1 ends
    refine last ')' ?_ rfl
    show name.getLast? = some ')'
    rw [← show _ = name from hfront, List.getLast?_append_of_ne_nil _ (List.cons_ne_nil _ _)]
    rfl

/-- The name of a token is a piece of its word. -/
theorem isInfix_name (w : Word) : (ofWord w).name <:+: w := by
  have starts : (ofWord w).name <+: (ofWord w).spelled := by
    unfold spelled
    split
    · exact List.prefix_append _ _
    · exact List.prefix_refl _
  rw [ofWord_eq, spelled_ofBare, bare] at starts
  exact (starts.trans (Text.isPrefix_dropEndWhile _ _)).isInfix.trans (Text.isInfix_trim _ w)

theorem spelled_ne_nil (h : Qualified t.name) : t.spelled ≠ [] := by
  unfold spelled
  split
  · exact List.append_ne_nil_of_left_ne_nil h.ne_nil _
  · exact h.ne_nil

theorem head?_spelled (h : Qualified t.name) : ∀ c ∈ t.spelled.head?, isWrapping c = false := by
  have first : t.spelled.head? = t.name.head? := by
    unfold spelled
    split
    · exact List.head?_append_of_ne_nil _ h.ne_nil
    · rfl
  rw [first]
  exact fun c hc => h.isWrapping_eq_false c (List.mem_of_mem_head? hc)

theorem getLast?_spelled (h : Qualified t.name) :
    ∀ c ∈ t.spelled.getLast?, isWrapping c = false ∧ (c == '.') = false := by
  unfold spelled
  split
  · rw [List.getLast?_append_of_ne_nil _ (List.cons_ne_nil _ _)]
    rintro c ⟨⟩
    decide
  · intro c hc
    have ends := h.last c hc
    exact ⟨isWrapping_of_continuesName ends,
      beq_false_of_ne (ne_of_continuesName continuesName_point ends)⟩

/-- An identifier is the token of its word, called or not, whatever wraps it. -/
theorem ofWord_wrapped {front back : Word} (h : Qualified t.name)
    (opening : ∀ c ∈ front, isWrapping c = true) (closing : ∀ c ∈ back, isWrapping c = true) :
    ofWord (front ++ t.spelled ++ back) = t := by
  have trimmed : trim isWrapping (front ++ t.spelled ++ back) = t.spelled :=
    Text.trim_append opening closing (spelled_ne_nil h) (head?_spelled h)
      fun c hc => (getLast?_spelled h c hc).1
  have whole : bare (front ++ t.spelled ++ back) = t.spelled := by
    rw [bare, trimmed]
    exact Text.dropEndWhile_eq_self_iff.2 fun c hc => (getLast?_spelled h c hc).2
  rw [ofWord_eq, whole]
  exact ofBare_spelled fun c hc => ne_of_continuesName continuesName_close (h.last c hc)

theorem ofWord_spelled (h : Qualified t.name) : ofWord t.spelled = t := by
  have alone := ofWord_wrapped h (List.forall_mem_nil _) (List.forall_mem_nil _)
  rwa [List.nil_append, List.append_nil] at alone

/-- A word is no token of an identifier if something that wraps words is left in it. -/
theorem isIdentifier_ofWord_eq_false {c : Char} (wraps : isWrapping c = true) (mem : c ∈ bare w) :
    isIdentifier (ofWord w).name = false := by
  rw [← Bool.not_eq_true, isIdentifier_iff]
  intro h
  have inside : c ∈ (ofWord w).name := by
    rw [← spelled_ofBare (bare w), ← ofWord_eq, spelled] at mem
    split at mem
    · rcases List.mem_append.1 mem with mem | mem
      · exact mem
      · rcases List.mem_pair.1 mem with rfl | rfl <;> cases wraps
    · exact mem
  cases wraps.symm.trans (h.isWrapping_eq_false c inside)

/-- No blank stands in an identifier that is called or not. -/
theorem isWord_spelled (h : Qualified t.name) : Text.IsWord t.spelled := by
  refine ⟨spelled_ne_nil h, ?_⟩
  unfold spelled
  split
  · have solid : ∀ c ∈ ['(', ')'], Text.isBlank c = false :=
      List.forall_mem_cons.2 ⟨rfl, List.forall_mem_singleton.2 rfl⟩
    exact List.forall_mem_append.2 ⟨h.isWord.2, solid⟩
  · exact h.isWord.2

end Token

end CodeAtlas.Query
