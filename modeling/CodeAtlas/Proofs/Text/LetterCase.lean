import CodeAtlas.Proofs.Text.Trimming
import CodeAtlas.Text.Casing
import Mathlib.Data.List.Forall2

/-!
# Letter case

No class of characters that holds no ASCII letter depends on the case of these. So two texts that
differ in it alone (`Alike`) are cut at the same places: where they are trimmed, and where their words
begin and end (`Alike.forall₂_words`).
-/

namespace CodeAtlas.Text

/-! ## Letters -/

theorem isUpper_iff {c : Char} : c.isUpper = true ↔ 65 ≤ c.toNat ∧ c.toNat ≤ 90 := by
  show decide ('A'.val ≤ c.val ∧ c.val ≤ 'Z'.val) = true ↔ _
  rw [decide_eq_true_iff]
  rfl

theorem isLower_iff {c : Char} : c.isLower = true ↔ 97 ≤ c.toNat ∧ c.toNat ≤ 122 := by
  show (decide ('a'.val ≤ c.val) && decide (c.val ≤ 'z'.val)) = true ↔ _
  rw [Bool.and_eq_true, decide_eq_true_iff, decide_eq_true_iff]
  rfl

theorem isAlpha_iff {c : Char} : c.isAlpha = true ↔ c.isUpper = true ∨ c.isLower = true :=
  Bool.or_eq_true_iff

theorem toNat_toLower {c : Char} (h : c.isUpper = true) : c.toLower.toNat = c.toNat + 32 := by
  have high : c.toNat ≤ 90 := (isUpper_iff.1 h).2
  unfold Char.toLower
  rw [dif_pos (of_decide_eq_true h)]
  show (c.val + ('a'.val - 'A'.val)).toNat = c.toNat + 32
  rw [UInt32.toNat_add]
  show (c.toNat + 32) % _ = _
  omega

/-- The small form of a character is that character, or a small letter for a capital one. -/
theorem toLower_cases (c : Char) :
    c.toLower = c ∨ c.isUpper = true ∧ c.toLower.isLower = true := by
  by_cases h : c.isUpper = true
  · refine Or.inr ⟨h, ?_⟩
    have capital := isUpper_iff.1 h
    rw [isLower_iff, toNat_toLower h]
    omega
  · refine Or.inl ?_
    unfold Char.toLower
    exact dif_neg fun capital => h (decide_eq_true capital)

theorem toLower_of_isLower {c : Char} (h : c.isLower = true) : c.toLower = c := by
  rcases toLower_cases c with same | ⟨capital, -⟩
  · exact same
  · have low := isLower_iff.1 h
    have high := isUpper_iff.1 capital
    omega

/-- A class without letters does not depend on case. -/
theorem apply_toLower {p : Char → Bool} (letters : ∀ c, c.isAlpha = true → p c = false) (c : Char) :
    p c.toLower = p c := by
  rcases toLower_cases c with same | ⟨capital, small⟩
  · rw [same]
  · rw [letters c (isAlpha_iff.2 (Or.inl capital)), letters _ (isAlpha_iff.2 (Or.inr small))]

theorem isBlank_of_isAlpha {c : Char} (h : c.isAlpha = true) : isBlank c = false := by
  have range : 65 ≤ c.toNat ∧ c.toNat ≤ 122 := by
    rw [isAlpha_iff, isUpper_iff, isLower_iff] at h
    omega
  simp only [isBlank, Bool.or_eq_false_iff, Bool.and_eq_false_iff, decide_eq_false_iff_not,
    beq_eq_false_iff_ne]
  omega

theorem isBlank_toLower (c : Char) : isBlank c.toLower = isBlank c :=
  apply_toLower (fun _ => isBlank_of_isAlpha) c

theorem fold_of_isAlpha {c : Char} (h : c.isAlpha = true) : fold c = c.toLower := by
  unfold fold
  rw [if_neg, if_neg]
  · rintro rfl
    exact absurd h (by decide)
  · rintro rfl
    exact absurd h (by decide)

theorem fold_toLower (c : Char) : fold c.toLower = fold c := by
  rcases toLower_cases c with same | ⟨capital, small⟩
  · rw [same]
  · rw [fold_of_isAlpha (isAlpha_iff.2 (Or.inl capital)),
      fold_of_isAlpha (isAlpha_iff.2 (Or.inr small)), toLower_of_isLower small]

theorem isBlank_fold (c : Char) : isBlank (fold c) = isBlank c := by
  unfold fold
  split
  case isTrue h =>
    subst h
    decide
  case isFalse =>
    split
    case isTrue h =>
      subst h
      decide
    case isFalse => exact isBlank_toLower c

theorem isWord_of_map_fold_eq {w v : List Char} (h : w.map fold = v.map fold) (hv : IsWord v) :
    IsWord w := by
  refine ⟨?_, fun c hc => ?_⟩
  · rintro rfl
    exact hv.1 (List.map_eq_nil_iff.1 h.symm)
  · have mem : fold c ∈ v.map fold := h ▸ List.mem_map_of_mem hc
    obtain ⟨d, hd, heq⟩ := List.mem_map.1 mem
    rw [← isBlank_fold, ← heq, isBlank_fold]
    exact hv.2 d hd

/-! ## Texts that differ in case alone -/

/-- Two texts that are the same but for the case of ASCII letters. -/
def Alike (cs ds : List Char) : Prop := cs.map Char.toLower = ds.map Char.toLower

/-- Two texts that stand at the same place of `cs` and of `ds`. -/
def SamePiece (cs ds w v : List Char) : Prop :=
  ∃ start size, w = (cs.drop start).take size ∧ v = (ds.drop start).take size

variable {p : Char → Bool} {cs ds w v a b : List Char}

namespace Alike

theorem symm (h : Alike cs ds) : Alike ds cs := Eq.symm h

theorem length_eq (h : Alike cs ds) : cs.length = ds.length := by
  have := congrArg List.length h
  rwa [List.length_map, List.length_map] at this

theorem eq_nil_iff (h : Alike cs ds) : cs = [] ↔ ds = [] := by
  rw [← List.length_eq_zero_iff, h.length_eq, List.length_eq_zero_iff]

theorem map_fold_eq (h : Alike cs ds) : cs.map fold = ds.map fold := by
  have folded : ∀ cs : List Char, (cs.map Char.toLower).map fold = cs.map fold := fun cs => by
    rw [List.map_map]
    exact List.map_congr_left fun c _ => fold_toLower c
  rw [← folded cs, ← folded ds, h]

end Alike

namespace SamePiece

theorem alike (h : SamePiece cs ds w v) (alike : Alike cs ds) : Alike w v := by
  obtain ⟨start, size, rfl, rfl⟩ := h
  unfold Alike at alike ⊢
  rw [List.map_take, List.map_take, List.map_drop, List.map_drop, alike]

theorem trans (h : SamePiece cs ds w v) (inner : SamePiece w v a b) : SamePiece cs ds a b := by
  obtain ⟨start, size, rfl, rfl⟩ := h
  obtain ⟨inset, size', rfl, rfl⟩ := inner
  refine ⟨start + inset, min size' (size - inset), ?_, ?_⟩ <;>
    rw [List.drop_take, List.take_take, List.drop_drop]

theorem of_isPrefix (hw : w <+: cs) (hv : v <+: ds) (same : w.length = v.length) :
    SamePiece cs ds w v := by
  refine ⟨0, w.length, List.prefix_iff_eq_take.1 hw, ?_⟩
  rw [same]
  exact List.prefix_iff_eq_take.1 hv

theorem of_isSuffix (hw : w <:+ cs) (hv : v <:+ ds) (same : w.length = v.length)
    (whole : cs.length = ds.length) : SamePiece cs ds w v := by
  refine ⟨cs.length - w.length, w.length, ?_, ?_⟩
  · rw [← List.suffix_iff_eq_drop.1 hw, List.take_length]
  · rw [whole, same, ← List.suffix_iff_eq_drop.1 hv, List.take_length]

theorem cons (c d : Char) (h : SamePiece cs ds w v) : SamePiece (c :: cs) (d :: ds) w v := by
  obtain ⟨start, size, hw, hv⟩ := h
  exact ⟨start + 1, size, hw, hv⟩

end SamePiece

/-! ## Trimming -/

theorem dropEndWhile_map (f : Char → Char) (cs : List Char) :
    dropEndWhile p (cs.map f) = (dropEndWhile (p ∘ f) cs).map f := by
  rw [dropEndWhile_eq_rdropWhile, dropEndWhile_eq_rdropWhile, List.rdropWhile, ← List.map_reverse,
    List.dropWhile_map, ← List.map_reverse, List.rdropWhile]

section Trim

variable (caseless : ∀ c, p c.toLower = p c) (h : Alike cs ds)

include caseless h

theorem Alike.dropEndWhile : Alike (dropEndWhile p cs) (dropEndWhile p ds) := by
  have through : p ∘ Char.toLower = p := funext caseless
  have lowered := congrArg (Text.dropEndWhile p) h
  rwa [dropEndWhile_map, dropEndWhile_map, through] at lowered

theorem Alike.dropWhile : Alike (cs.dropWhile p) (ds.dropWhile p) := by
  have through : p ∘ Char.toLower = p := funext caseless
  have lowered := congrArg (List.dropWhile p) h
  rwa [List.dropWhile_map, List.dropWhile_map, through] at lowered

theorem Alike.trim : Alike (trim p cs) (trim p ds) := (h.dropWhile caseless).dropEndWhile caseless

theorem Alike.samePiece_dropEndWhile :
    SamePiece cs ds (Text.dropEndWhile p cs) (Text.dropEndWhile p ds) :=
  .of_isPrefix (isPrefix_dropEndWhile p cs) (isPrefix_dropEndWhile p ds)
    (h.dropEndWhile caseless).length_eq

theorem Alike.samePiece_trim : SamePiece cs ds (Text.trim p cs) (Text.trim p ds) := by
  have front : Alike (cs.dropWhile p) (ds.dropWhile p) := h.dropWhile caseless
  have dropped : SamePiece cs ds (cs.dropWhile p) (ds.dropWhile p) :=
    .of_isSuffix (List.dropWhile_suffix p) (List.dropWhile_suffix p) front.length_eq h.length_eq
  exact dropped.trans (front.samePiece_dropEndWhile caseless)

end Trim

/-! ## Words -/

theorem frontWord_cons_of_solid {c : Char} (hc : isBlank c = false) (cs : List Char) :
    frontWord (c :: cs) = (c :: (frontWord cs).1, (frontWord cs).2) :=
  frontWord_append (List.forall_mem_singleton.2 hc) cs

theorem isPrefix_frontWord (cs : List Char) : (frontWord cs).1 <+: cs := by
  induction cs with
  | nil => exact List.prefix_refl []
  | cons c cs ih =>
    by_cases hc : isBlank c = true
    · rw [frontWord_cons_of_blank hc]
      exact List.nil_prefix
    · rw [frontWord_cons_of_solid (Bool.not_eq_true _ ▸ hc)]
      exact (List.prefix_cons_inj c).2 ih

/-- The words of two texts stand at the same places if the words after their front do. -/
theorem forall₂_words_of_frontWord (front : Alike (frontWord cs).1 (frontWord ds).1)
    (others : List.Forall₂ (SamePiece cs ds) (frontWord cs).2 (frontWord ds).2) :
    List.Forall₂ (SamePiece cs ds) (words cs) (words ds) := by
  unfold words
  simp only [List.isEmpty_iff]
  by_cases empty : (frontWord cs).1 = []
  · rw [if_pos empty, if_pos (front.eq_nil_iff.1 empty)]
    exact others
  · rw [if_neg empty, if_neg (front.eq_nil_iff.not.1 empty)]
    exact .cons (.of_isPrefix (isPrefix_frontWord cs) (isPrefix_frontWord ds) front.length_eq) others

theorem Alike.frontWord (h : Alike cs ds) :
    Alike (frontWord cs).1 (frontWord ds).1 ∧
      List.Forall₂ (SamePiece cs ds) (frontWord cs).2 (frontWord ds).2 := by
  induction cs generalizing ds with
  | nil =>
    obtain rfl := h.eq_nil_iff.1 rfl
    exact ⟨rfl, .nil⟩
  | cons c cs ih =>
    cases ds with
    | nil => cases h
    | cons d ds =>
      obtain ⟨hcd, rest⟩ := List.cons.inj h
      obtain ⟨front, others⟩ := ih rest
      have same : isBlank c = isBlank d := by rw [← isBlank_toLower, hcd, isBlank_toLower]
      by_cases hc : isBlank c = true
      · rw [frontWord_cons_of_blank hc, frontWord_cons_of_blank (same ▸ hc)]
        exact ⟨rfl, (forall₂_words_of_frontWord front others).imp fun _ _ => .cons c d⟩
      · rw [Bool.not_eq_true] at hc
        rw [frontWord_cons_of_solid hc, frontWord_cons_of_solid (same ▸ hc)]
        exact ⟨congrArg₂ List.cons hcd front, others.imp fun _ _ => .cons c d⟩

/-- **Words.** The words of two texts that differ in case alone stand at the same places. -/
theorem Alike.forall₂_words (h : Alike cs ds) :
    List.Forall₂ (SamePiece cs ds) (words cs) (words ds) :=
  forall₂_words_of_frontWord h.frontWord.1 h.frontWord.2

end CodeAtlas.Text
