/-!
# Blanks and words

The Unicode property `White_Space`, and the words of a text: its longest runs without blanks.
-/

namespace CodeAtlas.Text

/-- Whether a character is white space. -/
def isBlank (c : Char) : Bool :=
  let n := c.toNat
  (9 ≤ n && n ≤ 13) || n == 0x20 || n == 0x85 || n == 0xA0 || n == 0x1680 ||
  (0x2000 ≤ n && n ≤ 0x200A) || n == 0x2028 || n == 0x2029 || n == 0x202F || n == 0x205F ||
  n == 0x3000

/-- A text without the longest run at its end whose characters all satisfy `p`. -/
def dropEndWhile (p : Char → Bool) : List Char → List Char
  | [] => []
  | c :: cs =>
    match dropEndWhile p cs with
    | [] => if p c then [] else [c]
    | kept => c :: kept

/-- A text without the runs at its two ends whose characters all satisfy `p`. -/
def trim (p : Char → Bool) (cs : List Char) : List Char :=
  dropEndWhile p (cs.dropWhile p)

/-- The word that touches the front of a text, if one does, and the words after it. -/
def frontWord : List Char → List Char × List (List Char)
  | [] => ([], [])
  | c :: cs =>
    let (word, others) := frontWord cs
    if isBlank c then ([], if word.isEmpty then others else word :: others)
    else (c :: word, others)

/-- The words of a text, in order. -/
def words (cs : List Char) : List (List Char) :=
  let (word, others) := frontWord cs
  if word.isEmpty then others else word :: others

theorem mem_of_mem_dropEndWhile {p : Char → Bool} {cs : List Char} {c : Char}
    (h : c ∈ dropEndWhile p cs) : c ∈ cs := by
  induction cs with
  | nil => exact h
  | cons d ds ih =>
    unfold dropEndWhile at h
    split at h
    · split at h
      · cases h
      · rw [List.mem_singleton] at h
        exact h ▸ List.mem_cons_self
    · rename_i kept _
      rcases List.mem_cons.1 h with rfl | h
      · exact List.mem_cons_self
      · exact List.mem_cons_of_mem _ (ih h)

/-- What is kept ends in a character that is not dropped. -/
theorem dropEndWhile_last {p : Char → Bool} {cs : List Char} {c : Char}
    (h : (dropEndWhile p cs).getLast? = some c) : p c = false := by
  induction cs with
  | nil => simp [dropEndWhile] at h
  | cons d ds ih =>
    unfold dropEndWhile at h
    split at h
    · split at h
      · simp at h
      · simp_all
    · rename_i kept hk
      cases hd : dropEndWhile p ds with
      | nil => exact (hk hd).elim
      | cons a as =>
        rw [hd] at h ih
        exact ih (by simpa [List.getLast?_cons_cons] using h)

/-- A word is not empty and holds no blank. -/
def IsWord (w : List Char) : Prop := w ≠ [] ∧ ∀ c ∈ w, isBlank c = false

/-- A gap is not empty and holds nothing but blanks. -/
def IsGap (g : List Char) : Prop := g ≠ [] ∧ ∀ c ∈ g, isBlank c = true

theorem isBlank_of_mem_front {cs : List Char} {c : Char} (h : c ∈ (frontWord cs).1) :
    isBlank c = false := by
  induction cs with
  | nil => cases h
  | cons d ds ih =>
    simp only [frontWord] at h
    split at h
    · cases h
    · rename_i hd
      rcases List.mem_cons.1 h with rfl | h
      · simpa using hd
      · exact ih h

theorem isWord_of_mem_others {cs w : List Char} (h : w ∈ (frontWord cs).2) : IsWord w := by
  induction cs with
  | nil => cases h
  | cons c cs ih =>
    simp only [frontWord] at h
    split at h
    · split at h
      · exact ih h
      · rename_i hne
        rcases List.mem_cons.1 h with rfl | h
        · exact ⟨by simpa [List.isEmpty_iff] using hne, fun _ hc => isBlank_of_mem_front hc⟩
        · exact ih h
    · exact ih h

theorem isWord_of_mem_words {cs w : List Char} (h : w ∈ words cs) : IsWord w := by
  unfold words at h
  simp only at h
  split at h
  · exact isWord_of_mem_others h
  · rename_i hne
    rcases List.mem_cons.1 h with rfl | h
    · exact ⟨by simpa [List.isEmpty_iff] using hne, fun _ hc => isBlank_of_mem_front hc⟩
    · exact isWord_of_mem_others h

end CodeAtlas.Text
