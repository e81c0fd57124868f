import CodeAtlas.Text.Blank
import Mathlib.Data.List.TakeWhile

/-!
# Words and gaps

`words_eq_iff`: the words of a text are the longest runs without blanks. A text without the blanks at
its two ends is its words with a gap between any two of them, in one way only.

1. `dropEndWhile_append`: the end of a text that is two texts.
2. `Joined`: a text is its words with gaps between them. Its words can be read back (`Joined.words`).
3. `exists_joined`: every text is joined from words but for the blanks at its ends, by induction on
   the text from its end.
-/

namespace CodeAtlas.Text

/-! ## The end of a text -/

section DropEnd

variable {p : Char → Bool} {cs : List Char}

theorem dropEndWhile_eq_nil (h : ∀ c ∈ cs, p c = true) : dropEndWhile p cs = [] := by
  induction cs with
  | nil => rfl
  | cons c cs ih =>
    obtain ⟨hc, hcs⟩ := List.forall_mem_cons.1 h
    rw [dropEndWhile, ih hcs]
    exact if_pos hc

theorem dropEndWhile_eq_self (h : ∀ c ∈ cs, p c = false) : dropEndWhile p cs = cs := by
  induction cs with
  | nil => rfl
  | cons c cs ih =>
    obtain ⟨hc, hcs⟩ := List.forall_mem_cons.1 h
    rw [dropEndWhile, ih hcs]
    cases cs with
    | nil => exact if_neg (by rw [hc]; exact Bool.false_ne_true)
    | cons d ds => rfl

theorem dropEndWhile_append (as bs : List Char) :
    dropEndWhile p (as ++ bs) =
      if dropEndWhile p bs = [] then dropEndWhile p as else as ++ dropEndWhile p bs := by
  induction as with
  | nil =>
    split
    case isTrue h => exact h
    case isFalse => rfl
  | cons a as ih =>
    rw [List.cons_append, dropEndWhile, ih]
    by_cases h : dropEndWhile p bs = []
    · rw [if_pos h, if_pos h, dropEndWhile]
    · rw [if_neg h, if_neg h]
      cases hkept : as ++ dropEndWhile p bs with
      | nil => exact (h (List.append_eq_nil_iff.1 hkept).2).elim
      | cons b rest =>
        show a :: b :: rest = _
        rw [← hkept, List.cons_append]

theorem dropEndWhile_append_of_all {as bs : List Char} (h : ∀ c ∈ bs, p c = true) :
    dropEndWhile p (as ++ bs) = dropEndWhile p as := by
  rw [dropEndWhile_append, if_pos (dropEndWhile_eq_nil h)]

/-- What ends in characters that are kept is kept whole. -/
theorem dropEndWhile_append_of_kept {as bs : List Char} (kept : dropEndWhile p bs = bs)
    (nonempty : bs ≠ []) : dropEndWhile p (as ++ bs) = as ++ bs := by
  rw [dropEndWhile_append, kept, if_neg nonempty]

end DropEnd

/-! ## The words of a text that is put together -/

theorem frontWord_append {w : List Char} (solid : ∀ c ∈ w, isBlank c = false) (cs : List Char) :
    frontWord (w ++ cs) = (w ++ (frontWord cs).1, (frontWord cs).2) := by
  induction w with
  | nil => rfl
  | cons c w ih =>
    obtain ⟨hc, hw⟩ := List.forall_mem_cons.1 solid
    rw [List.cons_append, frontWord, ih hw, hc]
    rfl

theorem frontWord_cons_of_blank {c : Char} (hc : isBlank c = true) (cs : List Char) :
    frontWord (c :: cs) = ([], words cs) := by
  rw [frontWord, hc]
  rfl

theorem words_blanks_append {g : List Char} (blank : ∀ c ∈ g, isBlank c = true) (cs : List Char) :
    words (g ++ cs) = words cs := by
  induction g with
  | nil => rfl
  | cons c g ih =>
    obtain ⟨hc, hg⟩ := List.forall_mem_cons.1 blank
    rw [List.cons_append, words, frontWord_cons_of_blank hc]
    exact ih hg

theorem frontWord_gap_append {g : List Char} (isGap : IsGap g) (cs : List Char) :
    frontWord (g ++ cs) = ([], words cs) := by
  obtain ⟨nonempty, blank⟩ := isGap
  cases g with
  | nil => exact (nonempty rfl).elim
  | cons c g =>
    obtain ⟨hc, hg⟩ := List.forall_mem_cons.1 blank
    rw [List.cons_append, frontWord_cons_of_blank hc, words_blanks_append hg]

theorem words_of_frontWord {cs w : List Char} {ws : List (List Char)} (nonempty : w ≠ [])
    (h : frontWord cs = (w, ws)) : words cs = w :: ws := by
  rw [words, h]
  exact if_neg (fun hw => nonempty (List.isEmpty_iff.1 hw))

theorem words_of_isWord {w : List Char} (isWord : IsWord w) : words w = [w] := by
  have front : frontWord w = (w, []) := by
    have h := frontWord_append isWord.2 []
    rw [List.append_nil] at h
    exact h.trans (congrArg (·, []) (List.append_nil w))
  exact words_of_frontWord isWord.1 front

theorem words_word_gap_append {w g : List Char} (isWord : IsWord w) (isGap : IsGap g)
    (cs : List Char) : words (w ++ g ++ cs) = w :: words cs := by
  have front : frontWord (w ++ (g ++ cs)) = (w, words cs) := by
    rw [frontWord_append isWord.2, frontWord_gap_append isGap, List.append_nil]
  rw [List.append_assoc]
  exact words_of_frontWord isWord.1 front

theorem frontWord_append_blanks (cs : List Char) {g : List Char}
    (blank : ∀ c ∈ g, isBlank c = true) : frontWord (cs ++ g) = frontWord cs := by
  induction cs with
  | nil =>
    cases g with
    | nil => rfl
    | cons c g =>
      have h := frontWord_gap_append ⟨List.cons_ne_nil c g, blank⟩ []
      rw [List.append_nil] at h
      exact h
  | cons c cs ih => rw [List.cons_append, frontWord, ih, ← frontWord]

theorem words_append_blanks (cs : List Char) {g : List Char} (blank : ∀ c ∈ g, isBlank c = true) :
    words (cs ++ g) = words cs := by
  rw [words, frontWord_append_blanks cs blank, ← words]

/-- A blank ends the word before it. -/
theorem frontWord_append_blank {c : Char} (hc : isBlank c = true) (cs ds : List Char) :
    frontWord (cs ++ c :: ds) = ((frontWord cs).1, (frontWord cs).2 ++ words ds) := by
  induction cs with
  | nil => exact frontWord_cons_of_blank hc ds
  | cons b cs ih =>
    rw [List.cons_append, frontWord, ih, frontWord]
    dsimp only
    split
    · split <;> rfl
    · rfl

theorem words_append_blank {c : Char} (hc : isBlank c = true) (cs ds : List Char) :
    words (cs ++ c :: ds) = words cs ++ words ds := by
  rw [words, frontWord_append_blank hc]
  show _ = (if (frontWord cs).1.isEmpty then (frontWord cs).2
    else (frontWord cs).1 :: (frontWord cs).2) ++ words ds
  dsimp only
  split <;> rfl

/-- A word after a blank, or after nothing, is one more word. -/
theorem words_concat {cs w : List Char} (apart : ∀ c ∈ cs.getLast?, isBlank c = true)
    (isWord : IsWord w) : words (cs ++ w) = words cs ++ [w] := by
  rcases List.eq_nil_or_concat cs with rfl | ⟨init, c, rfl⟩
  · exact words_of_isWord isWord
  · rw [List.concat_eq_append] at apart ⊢
    have blank : isBlank c = true := apart c List.getLast?_concat
    rw [List.append_assoc, List.singleton_append, words_append_blank blank,
      words_append_blank blank, words_of_isWord isWord]
    show _ = words init ++ [] ++ [w]
    rw [List.append_nil]

/-! ## Joined words -/

/-- A text is words with a gap between any two. -/
inductive Joined : List (List Char) → List Char → Prop where
  | nil : Joined [] []
  | one {w : List Char} (isWord : IsWord w) : Joined [w] w
  | cons {w gap v text : List Char} {ws : List (List Char)} (isWord : IsWord w)
      (isGap : IsGap gap) (rest : Joined (v :: ws) text) : Joined (w :: v :: ws) (w ++ gap ++ text)

namespace Joined

variable {ws : List (List Char)} {w text : List Char}

theorem words (h : Joined ws text) : words text = ws := by
  induction h with
  | nil => rfl
  | one isWord => exact words_of_isWord isWord
  | cons isWord isGap _ ih => rw [words_word_gap_append isWord isGap, ih]

theorem ne_nil (h : Joined (w :: ws) text) : text ≠ [] := by
  cases h with
  | one isWord => exact isWord.1
  | cons isWord =>
    intro he
    exact isWord.1 (List.append_eq_nil_iff.1 (List.append_eq_nil_iff.1 he).1).1

/-- A joined text begins with no blank. -/
theorem dropWhile_append (h : Joined (w :: ws) text) (more : List Char) :
    (text ++ more).dropWhile isBlank = text ++ more := by
  have starts : ∀ rest : List Char, IsWord w → (w ++ rest).dropWhile isBlank = w ++ rest := by
    intro rest isWord
    cases w with
    | nil => exact (isWord.1 rfl).elim
    | cons c w =>
      have solid : isBlank c = false := isWord.2 c List.mem_cons_self
      rw [List.cons_append, List.dropWhile_cons_of_neg (by rw [solid]; exact Bool.false_ne_true)]
  cases h with
  | one isWord => exact starts more isWord
  | cons isWord =>
    rw [List.append_assoc, List.append_assoc]
    exact starts _ isWord

/-- A joined text has no blanks at its end. -/
theorem dropEndWhile_eq (h : Joined ws text) : dropEndWhile isBlank text = text := by
  induction h with
  | nil => rfl
  | one isWord => exact dropEndWhile_eq_self isWord.2
  | cons _ _ rest ih => exact dropEndWhile_append_of_kept ih rest.ne_nil

/-- The first word of a joined text with one more character. -/
theorem cons_char {c : Char} (hc : isBlank c = false) (h : Joined (w :: ws) text) :
    Joined ((c :: w) :: ws) (c :: text) := by
  have longer : ∀ {w : List Char}, IsWord w → IsWord (c :: w) := fun isWord =>
    ⟨List.cons_ne_nil _ _, List.forall_mem_cons.2 ⟨hc, isWord.2⟩⟩
  cases h with
  | one isWord => exact .one (longer isWord)
  | cons isWord isGap rest => exact .cons (longer isWord) isGap rest

end Joined

/-- Every text is joined from words, but for the blanks at its two ends. -/
theorem exists_joined (cs : List Char) :
    ∃ before ws text after, cs = before ++ text ++ after ∧ (∀ c ∈ before, isBlank c = true) ∧
      (∀ c ∈ after, isBlank c = true) ∧ Joined ws text := by
  induction cs with
  | nil => exact ⟨[], [], [], [], rfl, List.forall_mem_nil _, List.forall_mem_nil _, .nil⟩
  | cons c cs ih =>
    obtain ⟨before, ws, text, after, rfl, hbefore, hafter, joined⟩ := ih
    by_cases hc : isBlank c = true
    · exact ⟨c :: before, ws, text, after, rfl, List.forall_mem_cons.2 ⟨hc, hbefore⟩, hafter, joined⟩
    -- the character is a word of its own or the first of the word after it
    rw [Bool.not_eq_true] at hc
    have single : IsWord [c] := ⟨List.cons_ne_nil _ _, List.forall_mem_singleton.2 hc⟩
    cases ws with
    | nil =>
      cases joined with
      | nil =>
        refine ⟨[], [[c]], [c], before ++ after, ?_, List.forall_mem_nil _, ?_, .one single⟩
        · rw [List.append_nil]
          rfl
        · exact List.forall_mem_append.2 ⟨hbefore, hafter⟩
    | cons w ws =>
      cases before with
      | nil => exact ⟨[], _, c :: text, after, rfl, hbefore, hafter, joined.cons_char hc⟩
      | cons b before =>
        have gap : IsGap (b :: before) := ⟨List.cons_ne_nil _ _, hbefore⟩
        exact ⟨[], _, [c] ++ (b :: before) ++ text, after, rfl, List.forall_mem_nil _, hafter,
          .cons single gap joined⟩

/-- A text without the blanks at its two ends is its words with gaps between them. -/
theorem joined_trim (cs : List Char) : Joined (words cs) (trim isBlank cs) := by
  obtain ⟨before, ws, text, after, rfl, hbefore, hafter, joined⟩ := exists_joined cs
  have same : words (before ++ text ++ after) = ws := by
    rw [List.append_assoc, words_blanks_append hbefore, words_append_blanks text hafter,
      joined.words]
  have bare : trim isBlank (before ++ text ++ after) = text := by
    unfold trim
    rw [List.append_assoc, List.dropWhile_append_of_pos hbefore]
    cases ws with
    | nil =>
      cases joined with
      | nil => rw [List.nil_append, List.dropWhile_eq_nil_iff.2 hafter, dropEndWhile]
    | cons w ws =>
      rw [joined.dropWhile_append, dropEndWhile_append_of_all hafter, joined.dropEndWhile_eq]
  rw [same, bare]
  exact joined

/-- **The words of a text** are the ones it is joined from, but for the blanks at its two ends. -/
theorem words_eq_iff {cs : List Char} {ws : List (List Char)} :
    words cs = ws ↔ Joined ws (trim isBlank cs) := by
  constructor
  · rintro rfl
    exact joined_trim cs
  · intro h
    exact (joined_trim cs).words.symm.trans h.words

end CodeAtlas.Text
