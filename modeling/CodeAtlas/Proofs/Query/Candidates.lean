import CodeAtlas.Proofs.Query.Identifiers

/-!
# The candidate of a question

The words of a question are looked at once, from the first to the last, and the best one so far is
kept. `candidate?_eq_some_iff` says which one that is in the end without a look at the scan: of the
words that can be the name of a function and have a sign that they are, the first one with a sign of
the highest rank.

1. `Token.Sign`: the signs. The score of a token is the rank of its strongest sign.
2. `Nominates`: a word of a question with one of its signs.
3. `Leads.note`: what is known of the best word so far after one more word, and `leads_best`: what is
   known of it after all words, by induction on the words from the last.
-/

namespace CodeAtlas.Query

theorem isAmong_iff {words : List String} {w : Word} :
    isAmong words w = true ↔ ∃ v ∈ words, Text.lower w = v.toList := by
  rw [isAmong, List.any_eq_true]
  simp only [beq_iff_eq, eq_comm (a := Text.lower w)]

/-- Whether a mark inside a word shows that it is a name. -/
def isMarked (w : Word) : Bool := w.contains '_' || isCamelCase w || Text.holds [':', ':'] w

/-! ## Signs -/

namespace Token

variable {previous : Word} {t : Token} {rank : Nat}

/-- The signs that a token after a word is the name of a function. The stronger sign has the higher
rank. -/
inductive Sign (previous : Word) (t : Token) : Nat → Prop where
  /-- Call parentheses follow the name. -/
  | called (called : t.called = true) : Sign previous t 4
  /-- The word before it introduces names of functions. -/
  | introduced {w : String} (mem : w ∈ introducers) (before : Text.lower previous = w.toList) :
      Sign previous t 3
  /-- The name has an underscore. -/
  | underscore (mem : '_' ∈ t.name) : Sign previous t 2
  /-- A capital letter stands inside the name after a small one. -/
  | camelCase (camel : isCamelCase t.name = true) : Sign previous t 2
  /-- The name has parts with `::` between them. -/
  | parted (piece : [':', ':'] <:+: t.name) : Sign previous t 2
  /-- The word before it may introduce names of functions. -/
  | hinted {w : String} (mem : w ∈ weakIntroducers) (before : Text.lower previous = w.toList) :
      Sign previous t 1

theorem isMarked_iff {w : Word} :
    isMarked w = true ↔ '_' ∈ w ∨ isCamelCase w = true ∨ [':', ':'] <:+: w := by
  simp only [isMarked, Bool.or_eq_true, List.contains_iff_mem, Text.holds_iff, or_assoc]

theorem score_eq (previous : Word) (t : Token) : t.score previous =
    if t.called = true then 4 else if isAmong introducers previous = true then 3
    else if isMarked t.name = true then 2 else if isAmong weakIntroducers previous = true then 1
    else 0 := rfl

theorem Sign.pos (h : Sign previous t rank) : 0 < rank := by
  cases h <;> decide

/-- No sign has a higher rank than the score. -/
theorem Sign.le_score (h : Sign previous t rank) : rank ≤ t.score previous := by
  have marked : isMarked t.name = true → 2 ≤ t.score previous := by
    intro mark
    rw [score_eq, if_pos mark]
    split_ifs <;> omega
  cases h with
  | called called => rw [score_eq, if_pos called]
  | introduced mem before =>
    rw [score_eq, if_pos (isAmong_iff.2 ⟨_, mem, before⟩)]
    split_ifs <;> omega
  | underscore mem => exact marked (isMarked_iff.2 (Or.inl mem))
  | camelCase camel => exact marked (isMarked_iff.2 (Or.inr (Or.inl camel)))
  | parted piece => exact marked (isMarked_iff.2 (Or.inr (Or.inr piece)))
  | hinted mem before =>
    rw [score_eq, if_pos (isAmong_iff.2 ⟨_, mem, before⟩)]
    split_ifs <;> omega

/-- A score is the rank of a sign. -/
theorem sign_score (h : 0 < t.score previous) : Sign previous t (t.score previous) := by
  rw [score_eq] at h ⊢
  split_ifs at h ⊢ with called strong marked weak
  · exact .called called
  · obtain ⟨w, mem, before⟩ := isAmong_iff.1 strong
    exact .introduced mem before
  · rcases isMarked_iff.1 marked with mem | camel | piece
    · exact .underscore mem
    · exact .camelCase camel
    · exact .parted piece
  · obtain ⟨w, mem, before⟩ := isAmong_iff.1 weak
    exact .hinted mem before
  · exact absurd h (Nat.lt_irrefl 0)

end Token

/-! ## Words with signs -/

/-- The word before a place among words, empty before the first. -/
def wordBefore (ws : List Word) (i : Nat) : Word := (([] :: ws)[i]?).getD []

/-- The word at a place can be the name of a function, and has a sign of a rank that it is. -/
def Nominates (ws : List Word) (i : Nat) (name : Word) (rank : Nat) : Prop :=
  ∃ w, ws[i]? = some w ∧ (Token.ofWord w).name = name ∧ (Token.ofWord w).isEligible = true ∧
    (Token.ofWord w).Sign (wordBefore ws i) rank

/-- A name is the first of those with a sign of the highest rank. -/
def IsNominee (ws : List Word) (name : Word) : Prop :=
  ∃ i rank, Nominates ws i name rank ∧
    ∀ j other rank', Nominates ws j other rank' → rank' ≤ rank ∧ (rank' = rank → i ≤ j)

variable {ws : List Word} {w name other : Word} {i : Nat} {rank : Nat}

theorem Nominates.lt_length (h : Nominates ws i name rank) : i < ws.length := by
  obtain ⟨w, at_i, -⟩ := h
  exact (List.getElem?_eq_some_iff.1 at_i).1

theorem Nominates.name_eq {rank' : Nat} (h : Nominates ws i name rank)
    (h' : Nominates ws i other rank') : name = other := by
  obtain ⟨w, at_i, rfl, -⟩ := h
  obtain ⟨w', at_i', rfl, -⟩ := h'
  rw [Option.some.inj (at_i.symm.trans at_i')]

theorem Nominates.pos (h : Nominates ws i name rank) : 0 < rank := by
  obtain ⟨_, -, -, -, sign⟩ := h
  exact sign.pos

theorem wordBefore_concat (h : i ≤ ws.length) : wordBefore (ws ++ [w]) i = wordBefore ws i := by
  have within : i < ([] :: ws).length := Nat.lt_succ_of_le h
  rw [wordBefore, ← List.cons_append, List.getElem?_append_left within, wordBefore]

theorem wordBefore_length_concat (ws : List Word) (w : Word) :
    wordBefore (ws ++ [w]) (ws ++ [w]).length = w := by
  rw [wordBefore, List.length_append, List.length_singleton, List.getElem?_cons_succ,
    List.getElem?_concat_length]
  rfl

/-- What is nominated after one more word was before, or is that word. -/
theorem nominates_concat_iff : Nominates (ws ++ [w]) i name rank ↔
    Nominates ws i name rank ∨ i = ws.length ∧ (Token.ofWord w).name = name ∧
      (Token.ofWord w).isEligible = true ∧
      (Token.ofWord w).Sign (wordBefore ws ws.length) rank := by
  unfold Nominates
  rcases Nat.lt_trichotomy i ws.length with lt | rfl | gt
  · rw [List.getElem?_append_left lt, wordBefore_concat (Nat.le_of_lt lt)]
    exact ⟨Or.inl, fun h => h.resolve_right fun last => absurd last.1 (Nat.ne_of_lt lt)⟩
  · rw [List.getElem?_concat_length, wordBefore_concat (Nat.le_refl _),
      List.getElem?_eq_none (Nat.le_refl _)]
    simp
  · rw [List.getElem?_eq_none (Nat.le_of_lt gt), List.getElem?_eq_none (by simp; omega)]
    simp [Nat.ne_of_gt gt]

/-! ## The scan -/

/-- The best of the eligible words, with its score. -/
def best (ws : List Word) : Nat × Word := (scored [] ws).foldl better (0, [])

/-- The best word so far after one more word. -/
def note (previous : Word) (so_far : Nat × Word) (w : Word) : Nat × Word :=
  if (Token.ofWord w).isEligible then
    better so_far ((Token.ofWord w).score previous, (Token.ofWord w).name)
  else so_far

theorem note_of_ineligible {previous w : Word} (h : (Token.ofWord w).isEligible = false)
    (so_far : Nat × Word) : note previous so_far w = so_far :=
  if_neg (by rw [h]; exact Bool.false_ne_true)

theorem scored_append (previous : Word) (ws vs : List Word) : scored previous (ws ++ vs) =
    scored previous ws ++ scored (((previous :: ws)[ws.length]?).getD []) vs := by
  induction ws generalizing previous with
  | nil => rfl
  | cons w ws ih =>
    rw [List.cons_append, scored, scored, ih, List.length_cons, List.getElem?_cons_succ]
    split <;> rfl

theorem best_append (ws vs : List Word) :
    best (ws ++ vs) = (scored (wordBefore ws ws.length) vs).foldl better (best ws) := by
  rw [best, scored_append, List.foldl_append]
  rfl

theorem best_concat (ws : List Word) (w : Word) :
    best (ws ++ [w]) = note (wordBefore ws ws.length) (best ws) w := by
  rw [best_append, scored, scored, note]
  split <;> rfl

/-- The name of the best word, if it has a score at all. -/
def chosen? (so_far : Nat × Word) : Option String :=
  if so_far.1 = 0 then none else some (String.ofList so_far.2)

theorem candidate?_eq (question : String) :
    candidate? question = chosen? (best (Text.words question.toList)) := rfl

/-- What is known of the best word so far. -/
structure Leads (ws : List Word) (so_far : Nat × Word) : Prop where
  /-- No word has a sign of a higher rank. -/
  highest : ∀ i name rank, Nominates ws i name rank → rank ≤ so_far.1
  /-- It is the first with one of its rank, unless there is no sign at all. -/
  first : 0 < so_far.1 → ∃ i, Nominates ws i so_far.2 so_far.1 ∧
    ∀ j other, Nominates ws j other so_far.1 → i ≤ j

/-- A word that can be no name changes nothing. -/
theorem Leads.pass {so_far : Nat × Word} (h : Leads ws so_far)
    (ineligible : (Token.ofWord w).isEligible = false) : Leads (ws ++ [w]) so_far := by
  have same : ∀ i name rank, Nominates (ws ++ [w]) i name rank ↔ Nominates ws i name rank := by
    intro i name rank
    rw [nominates_concat_iff, ineligible]
    simp
  refine ⟨?_, ?_⟩
  · simp only [same]
    exact h.highest
  · simp only [same]
    exact h.first

/-- A word takes the lead with a score that is higher than all before it. -/
theorem Leads.take {so_far : Nat × Word} (h : Leads ws so_far)
    (eligible : (Token.ofWord w).isEligible = true)
    (higher : so_far.1 < (Token.ofWord w).score (wordBefore ws ws.length)) :
    Leads (ws ++ [w])
      ((Token.ofWord w).score (wordBefore ws ws.length), (Token.ofWord w).name) := by
  refine ⟨fun i name rank nominated => ?_, fun pos => ⟨ws.length, ?_, fun j other nominated => ?_⟩⟩
  · rcases nominates_concat_iff.1 nominated with earlier | ⟨-, -, -, sign⟩
    · exact Nat.le_of_lt (Nat.lt_of_le_of_lt (h.highest _ _ _ earlier) higher)
    · exact sign.le_score
  · exact nominates_concat_iff.2 (Or.inr ⟨rfl, rfl, eligible, Token.sign_score pos⟩)
  · rcases nominates_concat_iff.1 nominated with earlier | ⟨rfl, -⟩
    · exact absurd (h.highest _ _ _ earlier) (Nat.not_le_of_lt higher)
    · exact Nat.le_refl _

/-- A word with a score that is no higher does not take the lead. -/
theorem Leads.keep {so_far : Nat × Word} (h : Leads ws so_far)
    (lower : (Token.ofWord w).score (wordBefore ws ws.length) ≤ so_far.1) :
    Leads (ws ++ [w]) so_far := by
  refine ⟨fun i name rank nominated => ?_, fun pos => ?_⟩
  · rcases nominates_concat_iff.1 nominated with earlier | ⟨-, -, -, sign⟩
    · exact h.highest _ _ _ earlier
    · exact Nat.le_trans sign.le_score lower
  · obtain ⟨i, nominated, first⟩ := h.first pos
    refine ⟨i, nominates_concat_iff.2 (Or.inl nominated), fun j other again => ?_⟩
    rcases nominates_concat_iff.1 again with earlier | ⟨rfl, -⟩
    · exact first j other earlier
    · exact Nat.le_of_lt nominated.lt_length

/-- One more word. -/
theorem Leads.note {so_far : Nat × Word} (h : Leads ws so_far) (w : Word) :
    Leads (ws ++ [w]) (note (wordBefore ws ws.length) so_far w) := by
  unfold Query.note better
  split_ifs with eligible higher
  · exact h.take eligible higher
  · exact h.keep (Nat.le_of_not_lt higher)
  · exact h.pass (Bool.not_eq_true _ ▸ eligible)

/-- All words. -/
theorem leads_best (ws : List Word) : Leads ws (best ws) := by
  induction ws using List.reverseRecOn with
  | nil =>
    refine ⟨fun i name rank nominated => ?_, fun pos => absurd pos (Nat.lt_irrefl 0)⟩
    exact absurd nominated.lt_length (Nat.not_lt_zero i)
  | append_singleton ws w ih =>
    rw [best_concat]
    exact ih.note w

/-! ## Candidates -/

/-- **Candidates.** There is none exactly if no word that can be a name has a sign that it is one. -/
theorem candidate?_eq_none_iff {question : String} : candidate? question = none ↔
    ∀ i name rank, ¬ Nominates (Text.words question.toList) i name rank := by
  have leads := leads_best (Text.words question.toList)
  rw [candidate?_eq, chosen?]
  constructor
  · intro none i name rank nominated
    have highest := leads.highest i name rank nominated
    have pos := nominated.pos
    rw [if_neg (by omega)] at none
    cases none
  · intro none
    refine if_pos (Nat.eq_zero_of_not_pos fun pos => ?_)
    obtain ⟨i, nominated, -⟩ := leads.first pos
    exact none i _ _ nominated

/-- **Candidates.** The candidate is the first name with a sign of the highest rank. -/
theorem candidate?_eq_some_iff {question name : String} : candidate? question = some name ↔
    IsNominee (Text.words question.toList) name.toList := by
  have leads := leads_best (Text.words question.toList)
  rw [candidate?_eq, chosen?]
  constructor
  · intro found
    split_ifs at found with zero
    rw [← Option.some.inj found, String.toList_ofList]
    obtain ⟨i, nominated, first⟩ := leads.first (Nat.pos_of_ne_zero zero)
    refine ⟨i, _, nominated, fun j other rank' again => ?_⟩
    exact ⟨leads.highest j other rank' again, fun same => first j other (same ▸ again)⟩
  · rintro ⟨i, rank, nominated, top⟩
    have highest := leads.highest i _ rank nominated
    have pos : 0 < (best (Text.words question.toList)).1 :=
      Nat.lt_of_lt_of_le nominated.pos highest
    obtain ⟨j, leader, first⟩ := leads.first pos
    obtain ⟨le, tie⟩ := top j _ _ leader
    -- both are first among those of the highest rank
    obtain rfl := Nat.le_antisymm highest le
    obtain rfl := Nat.le_antisymm (tie rfl) (first i _ nominated)
    rw [if_neg (Nat.ne_of_gt pos), ← nominated.name_eq leader, String.ofList_toList]

end CodeAtlas.Query
