import CodeAtlas.Proofs.Query.Parsing

/-!
# Questions in capitals and small letters

`parse?_caseless`: two questions that differ in the case of ASCII letters alone have requests of the
same intent and confidence, and their targets stand at the same place of each, or both have none.

1. `forall₂_questionWords`: the words of the questions stand at the same places.
2. `Wording.Fits.along`: words that are spelled alike fit the same wordings, with targets at the same
   place.
3. `Form.Fits.along`: so they fit the same forms.
-/

namespace CodeAtlas

/-- Words that are spelled alike fit the same wordings. -/
theorem Phrase.Wording.Fits.along {R : Word → Word → Prop}
    (folds : ∀ w v, R w v → w.map Text.fold = v.map Text.fold) {u : Phrase.Wording}
    {ws vs : List Word} {found : Option Word} (h : u.Fits ws found) (related : List.Forall₂ R ws vs) :
    ∃ found', Option.Rel R found found' ∧ u.Fits vs found' := by
  induction h generalizing vs with
  | nil =>
    cases related
    exact ⟨none, .none, .nil⟩
  | @keyword keywords keyword w _ _ _ mem spelled _ ih =>
    cases related with
    | @cons _ v _ _ hv rest =>
      obtain ⟨found', same, fits⟩ := ih rest
      have spelled' : Phrase.spells v keyword = true := by
        unfold Phrase.spells at spelled ⊢
        rwa [← folds w v hv]
      exact ⟨found', same, .keyword mem spelled' fits⟩
  | free _ ih =>
    cases related with
    | @cons _ v _ _ hv rest =>
      obtain ⟨found', same, fits⟩ := ih rest
      refine ⟨found'.or (some v), ?_, .free fits⟩
      cases same with
      | none => exact .some hv
      | some same => exact .some same

namespace Query

open Text (Alike SamePiece dropEndWhile)

variable {cs ds : List Char} {ws vs : List Word} {w v : Word}

/-! ## Words and targets -/

theorem isStop_toLower (c : Char) : isStop c.toLower = isStop c := by
  refine Text.apply_toLower (fun c alpha => ?_) c
  rw [← Bool.not_eq_true]
  intro stop
  rcases isStop_iff.1 stop with rfl | rfl | rfl | rfl <;> exact absurd alpha (by decide)

theorem isQuote_toLower (c : Char) : isQuote c.toLower = isQuote c := by
  refine Text.apply_toLower (fun c alpha => ?_) c
  rw [← Bool.not_eq_true]
  intro quote
  rcases isQuote_iff.1 quote with rfl | rfl | rfl <;> exact absurd alpha (by decide)

theorem alike_cleaned (h : Alike w v) : Alike (cleaned w) (cleaned v) :=
  ((h.dropEndWhile isStop_toLower).trim isQuote_toLower).dropEndWhile isStop_toLower

theorem samePiece_cleaned (h : Alike w v) : SamePiece w v (cleaned w) (cleaned v) := by
  have ended := h.dropEndWhile isStop_toLower
  have trimmed := ended.trim isQuote_toLower
  exact (h.samePiece_dropEndWhile isStop_toLower).trans <|
    (ended.samePiece_trim isQuote_toLower).trans (trimmed.samePiece_dropEndWhile isStop_toLower)

theorem forall₂_withoutStops (alike : Alike cs ds) (h : List.Forall₂ (SamePiece cs ds) ws vs) :
    List.Forall₂ (SamePiece cs ds) (withoutStops ws) (withoutStops vs) := by
  induction h with
  | nil => exact .nil
  | @cons w v ws vs piece rest ih =>
    cases rest with
    | nil =>
      have last := piece.alike alike
      have ended := last.dropEndWhile isStop_toLower
      unfold withoutStops
      by_cases empty : dropEndWhile isStop w = []
      · rw [if_pos empty, if_pos (ended.eq_nil_iff.1 empty)]
        exact .nil
      · rw [if_neg empty, if_neg (ended.eq_nil_iff.not.1 empty)]
        exact .cons (piece.trans (last.samePiece_dropEndWhile isStop_toLower)) .nil
    | cons _ _ => exact .cons piece ih

theorem forall₂_questionWords {question other : String} (h : Alike question.toList other.toList) :
    List.Forall₂ (SamePiece question.toList other.toList) (questionWords question)
      (questionWords other) :=
  forall₂_withoutStops h h.forall₂_words

/-! ## Requests -/

/-- Words that stand at the same places fit the same forms, with targets at the same place. -/
theorem Form.Fits.along {form : Form} (alike : Alike cs ds)
    (related : List.Forall₂ (SamePiece cs ds) ws vs) (h : form.Fits ws w) :
    ∃ v, SamePiece cs ds w v ∧ form.Fits vs v := by
  obtain ⟨⟨u, hu, fits⟩, nonempty⟩ := h
  obtain ⟨found, same, fits'⟩ :=
    fits.along (fun w v piece => (piece.alike alike).map_fold_eq) related
  cases same with
  | @some _ v piece =>
    have cleans := alike_cleaned (piece.alike alike)
    exact ⟨v, piece, ⟨u, hu, fits'⟩, fun empty => nonempty (cleans.eq_nil_iff.2 empty)⟩

/-- A request of one question comes with one of the other. -/
theorem exists_request {question other : String} (alike : Alike question.toList other.toList)
    {request : Request} (h : parse? question = some request) :
    ∃ target, parse? other = some ⟨request.intent, target, request.confidence⟩ ∧
      SamePiece question.toList other.toList request.target.toList target.toList := by
  have related := forall₂_questionWords alike
  obtain ⟨before, form, after, w, htable, others, fits, rfl⟩ := parse?_eq_some_iff.1 h
  obtain ⟨v, piece, fits'⟩ := fits.along alike related
  refine ⟨String.ofList (cleaned v), parse?_eq_some_iff.2 ?_, ?_⟩
  · refine ⟨before, form, after, v, htable, fun first hfirst v' fits'' => ?_, fits', rfl⟩
    -- an earlier form that fits the other question would fit this one
    obtain ⟨w', -, fit⟩ := fits''.along alike.symm (forall₂_questionWords alike.symm)
    exact others first hfirst w' fit
  · rw [String.toList_ofList, String.toList_ofList]
    exact piece.trans (samePiece_cleaned (piece.alike alike))

/-- **Letter case.** Two questions that differ in the case of ASCII letters alone have no request, or
requests of the same intent and confidence whose targets are the same piece of each. -/
theorem parse?_caseless {question other : String}
    (alike : question.toList.map Char.toLower = other.toList.map Char.toLower) :
    parse? question = none ∧ parse? other = none ∨
      ∃ intent confidence target target',
        parse? question = some ⟨intent, target, confidence⟩ ∧
        parse? other = some ⟨intent, target', confidence⟩ ∧
        ∃ start size, target.toList = (question.toList.drop start).take size ∧
          target'.toList = (other.toList.drop start).take size := by
  cases hq : parse? question with
  | some request =>
    obtain ⟨target, hother, piece⟩ := exists_request alike hq
    exact Or.inr ⟨_, _, _, target, rfl, hother, piece⟩
  | none =>
    refine Or.inl ⟨rfl, ?_⟩
    rw [Option.eq_none_iff_forall_ne_some]
    intro request h
    obtain ⟨target, hsome, -⟩ := exists_request (Alike.symm alike) h
    rw [hq] at hsome
    cases hsome

/-- The letters of a question in the other case. -/
theorem parse?_caseless_shouted :
    "who calls computeTotal".toList.map Char.toLower =
        "WHO Calls COMPUTEtOTAL".toList.map Char.toLower ∧
      parse? "who calls computeTotal" = some ⟨.usage, "computeTotal", .strict⟩ ∧
      ∃ target', parse? "WHO Calls COMPUTEtOTAL" = some ⟨.usage, target', .strict⟩ ∧
        ∃ start size,
          "computeTotal".toList = ("who calls computeTotal".toList.drop start).take size ∧
          target'.toList = ("WHO Calls COMPUTEtOTAL".toList.drop start).take size := by
  have alike : "who calls computeTotal".toList.map Char.toLower =
      "WHO Calls COMPUTEtOTAL".toList.map Char.toLower := by decide +kernel
  have known : parse? "who calls computeTotal" = some ⟨.usage, "computeTotal", .strict⟩ := by
    decide +kernel
  refine ⟨alike, known, ?_⟩
  rcases parse?_caseless alike with ⟨none, -⟩ | ⟨intent, confidence, target, target', hq, ho, piece⟩
  · rw [known] at none
    cases none
  · rw [known] at hq
    cases hq
    exact ⟨target', ho, piece⟩

end Query

end CodeAtlas
