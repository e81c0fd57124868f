import CodeAtlas.Proofs.Query.Candidates
import CodeAtlas.Query.Keywords

/-!
# Words that introduce names

A word after `of` or `changing` may be the name of a function. Some of the words that introduce names
so are stop words and never names themselves; the others (`looseIntroducers`) are words like any other.
After two of them, as in "impact of changing parse", the second one is a name that is introduced, and
it comes first. `candidate?_introduced` says of all such questions which word is taken.

1. `Token.ofWord_of_isAmong`: what a word that introduces names is as a token.
2. `Token.score_plain`, `Token.score_hinted`: scores after a word that introduces nothing, and after one
   that does.
3. `note_first`, `note_second`, `chosen?_note_last`: the best word after each introducer, and the choice
   at the end.
-/

namespace CodeAtlas.Query

/-! ## Introducers -/

/-- The words that may introduce the name of a function and may be one: they are no stop words. -/
def looseIntroducers : List String := ["change", "changing", "modify", "modifying"]

/-- A text whose small form consists of letters other than k consists of letters. -/
theorem isAlpha_of_lower {w s : List Char} (h : Text.lower w = s)
    (letters : (s.all fun d => d.isAlpha && d != 'k') = true) : ∀ c ∈ w, c.isAlpha = true := by
  intro c hc
  have small : ∀ d ∈ Text.lowerChar c, d.isAlpha = true ∧ d ≠ 'k' := by
    intro d hd
    have letter := List.all_eq_true.1 letters d (h ▸ List.mem_flatMap.2 ⟨c, hc, hd⟩)
    simpa only [Bool.and_eq_true, bne_iff_ne] using letter
  unfold Text.lowerChar at small
  split_ifs at small with kelvin dotted
  · exact ((small 'k' (List.mem_singleton_self _)).2 rfl).elim
  · have dot := (small '\u0307' (List.mem_cons_of_mem _ (List.mem_singleton_self _))).1
    exact absurd dot (by decide)
  · have alpha := (small c.toLower (List.mem_singleton_self _)).1
    rcases Text.toLower_cases c with same | ⟨capital, -⟩
    · rwa [same] at alpha
    · exact Text.isAlpha_iff.2 (Or.inl capital)

section Weak

variable {w : Word} (weak : isAmong weakIntroducers w = true)

include weak

/-- A word that may introduce names consists of letters. -/
theorem isName_of_isAmong : isName w = true := by
  obtain ⟨s, mem, small⟩ := isAmong_iff.1 weak
  have letters : ∀ s ∈ weakIntroducers,
      (s.toList.all fun d => d.isAlpha && d != 'k') = true := by decide
  have nonempty : ∀ s ∈ weakIntroducers, s.toList ≠ [] := by decide
  have alpha := isAlpha_of_lower small (letters s mem)
  cases w with
  | nil => exact (nonempty s mem small.symm).elim
  | cons c cs =>
    obtain ⟨hc, hcs⟩ := List.forall_mem_cons.1 alpha
    refine isName_cons.2 ⟨beginsName_of_isAlpha hc, fun d hd => ?_⟩
    exact continuesName_of_beginsName (beginsName_of_isAlpha (hcs d hd))

theorem isAmong_introducers_eq_false : isAmong introducers w = false := by
  obtain ⟨s, mem, small⟩ := isAmong_iff.1 weak
  have apart : ∀ s ∈ weakIntroducers, ∀ v ∈ introducers, s.toList ≠ v.toList := by decide
  rw [← Bool.not_eq_true, isAmong_iff]
  rintro ⟨v, hv, same⟩
  exact apart s mem v hv (small.symm.trans same)

/-- Those that can be names are no stop words. -/
theorem isAmong_stopWords_iff : isAmong stopWords w = false ↔ isAmong looseIntroducers w = true := by
  obtain ⟨s, mem, small⟩ := isAmong_iff.1 weak
  have listed : ∀ s ∈ weakIntroducers, (stopWords.any fun v => v.toList == s.toList) =
      !looseIntroducers.any fun v => v.toList == s.toList := by decide
  rw [isAmong, isAmong, small, listed s mem, Bool.not_eq_false']

end Weak

/-! ## Tokens -/

namespace Token

variable {w previous : Word}

/-- A word that is an identifier is its own token. -/
theorem ofWord_of_isIdentifier (h : isIdentifier w = true) : ofWord w = ⟨w, false⟩ :=
  ofWord_spelled (t := ⟨w, false⟩) (isIdentifier_iff.1 h)

theorem ofWord_of_isAmong (weak : isAmong weakIntroducers w = true) : ofWord w = ⟨w, false⟩ :=
  ofWord_of_isIdentifier (isIdentifier_of_isName (isName_of_isAmong weak))

theorem isEligible_of_isAmong (weak : isAmong weakIntroducers w = true) :
    (ofWord w).isEligible = isAmong looseIntroducers w := by
  rw [ofWord_of_isAmong weak, isEligible, isIdentifier_of_isName (isName_of_isAmong weak),
    Bool.true_and, Bool.eq_iff_iff, Bool.not_eq_true', isAmong_stopWords_iff weak]

/-- After a word that introduces nothing only the marks of a word count. -/
theorem score_plain (strong : isAmong introducers previous = false)
    (weak : isAmong weakIntroducers previous = false) :
    score previous ⟨w, false⟩ = if isMarked w = true then 2 else 0 := by
  rw [score_eq, strong, weak]
  rfl

/-- A word that may introduce names is a sign for the word after it, but its marks count more. -/
theorem score_hinted (weak : isAmong weakIntroducers previous = true) :
    score previous ⟨w, false⟩ = if isMarked w = true then 2 else 1 := by
  rw [score_eq, isAmong_introducers_eq_false weak, weak]
  rfl

end Token

/-! ## Questions -/

variable {ws : List Word} {w₁ w₂ x : Word}

/-- The word that is taken after two introducers: an introducer that can be a name and has a mark
inside, or else the second one if it can be a name and the word after it has no mark. -/
def introduced (w₁ w₂ x : Word) : Word :=
  if isAmong looseIntroducers w₁ && isMarked w₁ then w₁
  else if isAmong looseIntroducers w₂ && (isMarked w₂ || !isMarked x) then w₂
  else x

/-- The first introducer leads if it can be a name and has a mark inside. -/
theorem note_first {previous : Word} {so_far : Nat × Word} (zero : so_far.1 = 0)
    (strong : isAmong introducers previous = false) (plain : isAmong weakIntroducers previous = false)
    (weak : isAmong weakIntroducers w₁ = true) : note previous so_far w₁ =
      if isAmong looseIntroducers w₁ && isMarked w₁ then (2, w₁) else so_far := by
  rw [note, Token.isEligible_of_isAmong weak, Token.ofWord_of_isAmong weak,
    Token.score_plain strong plain, better, zero]
  cases isAmong looseIntroducers w₁ <;> cases isMarked w₁ <;> rfl

/-- The second introducer leads if it can be a name, unless the first one leads. -/
theorem note_second {so_far : Nat × Word} (zero : so_far.1 = 0)
    (weak₁ : isAmong weakIntroducers w₁ = true) (weak₂ : isAmong weakIntroducers w₂ = true) :
    note w₁ (if isAmong looseIntroducers w₁ && isMarked w₁ then (2, w₁) else so_far) w₂ =
      if isAmong looseIntroducers w₁ && isMarked w₁ then (2, w₁)
      else if isAmong looseIntroducers w₂ then (if isMarked w₂ then 2 else 1, w₂) else so_far := by
  rw [note, Token.isEligible_of_isAmong weak₂, Token.ofWord_of_isAmong weak₂,
    Token.score_hinted weak₁]
  cases isAmong looseIntroducers w₁ && isMarked w₁ <;> cases isAmong looseIntroducers w₂ <;>
    cases isMarked w₂ <;> simp [better, zero]

/-- The last word is taken unless an introducer that leads has as high a score. -/
theorem chosen?_note_last {so_far : Nat × Word} (zero : so_far.1 = 0)
    (weak₂ : isAmong weakIntroducers w₂ = true) (identifier : isIdentifier x = true)
    (proper : isAmong stopWords x = false) :
    chosen? (note w₂ (if isAmong looseIntroducers w₁ && isMarked w₁ then (2, w₁)
      else if isAmong looseIntroducers w₂ then (if isMarked w₂ then 2 else 1, w₂)
      else so_far) x) = some (String.ofList (introduced w₁ w₂ x)) := by
  have eligible : (⟨x, false⟩ : Token).isEligible = true := by
    rw [Token.isEligible, identifier, proper]
    rfl
  rw [note, Token.ofWord_of_isIdentifier identifier, if_pos eligible, Token.score_hinted weak₂,
    introduced]
  cases isAmong looseIntroducers w₁ && isMarked w₁ <;> cases isAmong looseIntroducers w₂ <;>
    cases isMarked w₂ <;> cases isMarked x <;> simp [better, chosen?, zero]

/-- The word before the end introduces nothing if no word does. -/
theorem isAmong_wordBefore {words : List String} (empty : isAmong words [] = false)
    (h : ∀ w ∈ ws, isAmong words w = false) :
    isAmong words (wordBefore ws ws.length) = false := by
  rcases List.eq_nil_or_concat ws with rfl | ⟨init, w, rfl⟩
  · exact empty
  · rw [List.concat_eq_append] at h ⊢
    rw [wordBefore_length_concat]
    exact h w (List.mem_append_right _ (List.mem_singleton_self w))

/-- **Words that introduce names.** Let a question end with two words that may introduce the name of a
function and then an identifier that is no stop word, and let the words before have no sign that they
are names and introduce none. The identifier is the candidate, unless the word before it is no stop
word and neither has a mark inside: then that word is. An introducer that is no stop word and has a
mark inside is taken in any case. -/
theorem candidate?_introduced {question : String}
    (words : Text.words question.toList = ws ++ [w₁, w₂, x])
    (quiet : ∀ i name rank, ¬ Nominates ws i name rank)
    (plain : ∀ w ∈ ws, isAmong introducers w = false ∧ isAmong weakIntroducers w = false)
    (weak₁ : isAmong weakIntroducers w₁ = true) (weak₂ : isAmong weakIntroducers w₂ = true)
    (identifier : isIdentifier x = true) (proper : isAmong stopWords x = false) :
    candidate? question = some (String.ofList (introduced w₁ w₂ x)) := by
  have zero : (best ws).1 = 0 := by
    refine Nat.eq_zero_of_not_pos fun pos => ?_
    obtain ⟨i, nominated, -⟩ := (leads_best ws).first pos
    exact quiet i _ _ nominated
  have strong := isAmong_wordBefore (by decide : isAmong introducers [] = false)
    fun w hw => (plain w hw).1
  have hint := isAmong_wordBefore (by decide : isAmong weakIntroducers [] = false)
    fun w hw => (plain w hw).2
  have one_by_one : ws ++ [w₁, w₂, x] = ws ++ [w₁] ++ [w₂] ++ [x] := by
    simp only [List.append_assoc, List.cons_append, List.nil_append]
  rw [candidate?_eq, words, one_by_one, best_concat, best_concat, best_concat,
    wordBefore_length_concat, wordBefore_length_concat, note_first zero strong hint weak₁,
    note_second zero weak₁ weak₂]
  exact chosen?_note_last zero weak₂ identifier proper

/-- A name with a mark inside is taken after any two introducers. -/
theorem candidate?_introduced_camelCase :
    Text.words "impact of changing fooBar".toList = ["impact".toList] ++
        ["of".toList, "changing".toList, "fooBar".toList] ∧
      (∀ i name rank, ¬ Nominates ["impact".toList] i name rank) ∧
      (∀ w ∈ ["impact".toList], isAmong introducers w = false ∧ isAmong weakIntroducers w = false) ∧
      isAmong weakIntroducers "of".toList = true ∧
      isAmong weakIntroducers "changing".toList = true ∧
      isIdentifier "fooBar".toList = true ∧ isAmong stopWords "fooBar".toList = false ∧
      candidate? "impact of changing fooBar" = some "fooBar" := by
  have words : Text.words "impact of changing fooBar".toList = ["impact".toList] ++
      ["of".toList, "changing".toList, "fooBar".toList] := by decide +kernel
  have quiet : ∀ i name rank, ¬ Nominates ["impact".toList] i name rank := by
    have none : candidate? "impact" = none := by decide +kernel
    exact candidate?_eq_none_iff.1 none
  have plain : ∀ w ∈ ["impact".toList],
      isAmong introducers w = false ∧ isAmong weakIntroducers w = false := by decide
  have identifier : isIdentifier "fooBar".toList = true := by decide +kernel
  refine ⟨words, quiet, plain, by decide, by decide, identifier, by decide, ?_⟩
  refine (candidate?_introduced words quiet plain (by decide) (by decide) identifier
    (by decide)).trans ?_
  decide +kernel

/-- The word that introduces a plain name is taken for the name. -/
theorem not_introduced_changing :
    Text.words "blast radius of changing parse".toList =
        ["blast".toList, "radius".toList] ++ ["of".toList, "changing".toList, "parse".toList] ∧
      candidate? "blast radius" = none ∧
      (∀ w ∈ ["blast".toList, "radius".toList],
        isAmong introducers w = false ∧ isAmong weakIntroducers w = false) ∧
      isAmong weakIntroducers "of".toList = true ∧
      isAmong weakIntroducers "changing".toList = true ∧
      isIdentifier "parse".toList = true ∧ isAmong stopWords "parse".toList = false ∧
      isAmong (introducers ++ weakIntroducers) "parse".toList = false ∧
      candidate? "blast radius of changing parse" = some "changing" ∧
      plan "blast radius of changing parse" = ⟨.reach, some "changing"⟩ := by
  decide +kernel

end CodeAtlas.Query
