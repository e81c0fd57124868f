import CodeAtlas.Proofs.Query.Wording
import CodeAtlas.Query.Grammar

/-!
# The grammar of questions, over words

`parse?_firstFitting`: a question is parsed as its words say. The first form in the table that its
words fit decides, and the blanks between the words are no matter.

1. `joined_spoken`: the text that is parsed is joined from the words of the question without the
   stops at their end.
2. `forms_alternate`, `forms_agree`, `forms_oneFree`: the forms of the table have a gap between any
   two places for a word, no two wordings of one form disagree on the target, and each wording has
   one place for it; all by evaluation.
3. `Form.request?_eq_some_iff`: so a form has a request exactly if the words fit it.
-/

namespace CodeAtlas.Query

open Text (IsWord IsGap Joined dropEndWhile)

/-! ## The words of a question -/

/-- Words without the stops at the end of the last one, and without that word if it is nothing but
stops. -/
def withoutStops : List Word → List Word
  | [] => []
  | [last] => if dropEndWhile isStop last = [] then [] else [dropEndWhile isStop last]
  | w :: v :: ws => w :: withoutStops (v :: ws)

/-- The words of a question without the stops at its end. -/
def questionWords (question : String) : List Word := withoutStops (Text.words question.toList)

theorem isStop_of_isBlank {c : Char} (h : Text.isBlank c = true) : isStop c = false := by
  rw [← Bool.not_eq_true]
  intro stop
  rcases isStop_iff.1 stop with rfl | rfl | rfl | rfl <;> exact absurd h (by decide)

/-- Joined words stay joined without the stops at their end. If those are all of the last word, the
gap before it goes with them, and no stops before that gap. -/
theorem joined_withoutStops {ws : List Word} {text : List Char} (h : Joined ws text) :
    Joined (withoutStops ws) (dropEndWhile Text.isBlank (dropEndWhile isStop text)) := by
  induction h with
  | nil => exact .nil
  | @one w isWord =>
    unfold withoutStops
    have solid : ∀ c ∈ dropEndWhile isStop w, Text.isBlank c = false := fun c hc =>
      isWord.2 c (Text.mem_of_mem_dropEndWhile hc)
    rw [Text.dropEndWhile_eq_self solid]
    split
    case isTrue h =>
      rw [h]
      exact .nil
    case isFalse h => exact .one ⟨h, solid⟩
  | @cons w gap v text ws isWord isGap rest ih =>
    -- no stop is a blank, so the stops do not reach over the gap
    have kept : dropEndWhile isStop (w ++ gap) = w ++ gap :=
      Text.dropEndWhile_append_of_kept
        (Text.dropEndWhile_eq_self fun c hc => isStop_of_isBlank (isGap.2 c hc)) isGap.1
    have alone : dropEndWhile Text.isBlank (w ++ gap) = w :=
      (Text.dropEndWhile_append_of_all isGap.2).trans (Text.dropEndWhile_eq_self isWord.2)
    have cut : dropEndWhile Text.isBlank (dropEndWhile isStop (w ++ gap ++ text)) =
        if dropEndWhile Text.isBlank (dropEndWhile isStop text) = [] then w
        else w ++ gap ++ dropEndWhile Text.isBlank (dropEndWhile isStop text) := by
      rw [Text.dropEndWhile_append, kept]
      split
      case isTrue h =>
        rw [h, alone]
        exact (if_pos rfl).symm
      case isFalse => rw [Text.dropEndWhile_append, alone]
    rw [cut, withoutStops]
    cases hws : withoutStops (v :: ws) with
    | nil =>
      rw [hws] at ih
      generalize dropEndWhile Text.isBlank (dropEndWhile isStop text) = more at ih
      cases ih with
      | nil =>
        rw [if_pos rfl]
        exact .one isWord
    | cons u us =>
      rw [hws] at ih
      rw [if_neg ih.ne_nil]
      exact .cons isWord isGap ih

/-- The text of a question is joined from its words. -/
theorem joined_spoken (question : String) :
    Joined (questionWords question) (spoken question.toList) :=
  joined_withoutStops (Text.joined_trim question.toList)

/-! ## The forms -/

theorem forms_alternate :
    ∀ form ∈ forms, ∀ u ∈ form.phrase.paths, Phrase.Path.alternates u = true := by
  decide +kernel

theorem forms_agree : ∀ form ∈ forms, ∀ u ∈ form.phrase.wordings, ∀ v ∈ form.phrase.wordings,
    Phrase.Wording.agree u v = true := by
  decide +kernel

/-- Every wording of a form has one free place. -/
theorem forms_oneFree : ∀ form ∈ forms, ∀ u ∈ form.phrase.wordings,
    u.countP Phrase.Slot.isFree = 1 := by
  decide +kernel

/-- Words fit a form with a target if they fit one of its wordings with that target, and it is more
than quotes and stops. -/
def Form.Fits (form : Form) (words : List Word) (target : Word) : Prop :=
  (∃ u ∈ form.phrase.wordings, u.Fits words (some target)) ∧ cleaned target ≠ []

variable {form : Form} {ws : List Word} {text : List Char}

theorem Form.not_fits_nil (hform : form ∈ forms) (target : Word) : ¬ form.Fits [] target := by
  rintro ⟨⟨u, hu, fits⟩, -⟩
  obtain ⟨path, hpath, rfl⟩ := List.mem_map.1 hu
  exact Phrase.Path.reduceOption_ne_nil (forms_alternate form hform path hpath) fits.eq_nil

theorem Form.request?_eq_some_iff (hform : form ∈ forms) (joined : Joined ws text)
    {request : Request} :
    form.request? text = some request ↔ ∃ target, form.Fits ws target ∧
      request = ⟨form.intent, String.ofList (cleaned target), form.confidence⟩ := by
  have found : ∀ {w}, form.phrase.target? text = some w ↔
      ∃ u ∈ form.phrase.wordings, u.Fits ws (some w) :=
    Phrase.target?_eq_some_iff (forms_alternate form hform) (forms_agree form hform) joined
  unfold Form.request?
  constructor
  · intro h
    cases htarget : form.phrase.target? text with
    | none =>
      rw [htarget] at h
      cases h
    | some target =>
      rw [htarget, Option.map_some] at h
      cases hcleaned : cleaned target with
      | nil =>
        rw [hcleaned] at h
        cases h
      | cons c cs =>
        have nonempty : cleaned target ≠ [] := by
          rw [hcleaned]
          exact List.cons_ne_nil c cs
        rw [hcleaned] at h
        refine ⟨target, ⟨found.1 htarget, nonempty⟩, ?_⟩
        rw [hcleaned]
        exact (Option.some.inj h).symm
  · rintro ⟨target, ⟨fits, nonempty⟩, rfl⟩
    rw [found.2 fits, Option.map_some]
    cases hcleaned : cleaned target with
    | nil => exact (nonempty hcleaned).elim
    | cons c cs => rfl

theorem Form.request?_eq_none_iff (hform : form ∈ forms) (joined : Joined ws text) :
    form.request? text = none ↔ ∀ target, ¬ form.Fits ws target := by
  rw [Option.eq_none_iff_forall_ne_some]
  constructor
  · intro h target fits
    exact h _ ((Form.request?_eq_some_iff hform joined).2 ⟨target, fits, rfl⟩)
  · intro h request hrequest
    obtain ⟨target, fits, -⟩ := (Form.request?_eq_some_iff hform joined).1 hrequest
    exact h target fits

/-! ## Questions -/

variable {question : String}

/-- A question without words needs no case of its own: no form fits it. -/
theorem parse?_eq_findSome? :
    parse? question = forms.findSome? (·.request? (spoken question.toList)) := by
  have joined := joined_spoken question
  show (if (spoken question.toList).isEmpty then none else _) = _
  split
  case isFalse => rfl
  case isTrue h =>
    rw [List.isEmpty_iff] at h
    rw [h] at joined ⊢
    refine (List.findSome?_eq_none_iff.2 fun form hform => ?_).symm
    have none : questionWords question = [] := joined.words.symm
    rw [none] at joined
    exact (Form.request?_eq_none_iff hform joined).2 (Form.not_fits_nil hform)

theorem parse?_eq_some_iff {request : Request} :
    parse? question = some request ↔
      ∃ before form after target, forms = before ++ form :: after ∧
        (∀ other ∈ before, ∀ w, ¬ other.Fits (questionWords question) w) ∧
        form.Fits (questionWords question) target ∧
        request = ⟨form.intent, String.ofList (cleaned target), form.confidence⟩ := by
  have joined := joined_spoken question
  rw [parse?_eq_findSome?, List.findSome?_eq_some_iff]
  constructor
  · rintro ⟨before, form, after, htable, hrequest, hbefore⟩
    have hform : form ∈ forms := htable ▸ List.mem_append_right _ List.mem_cons_self
    obtain ⟨target, fits, heq⟩ := (Form.request?_eq_some_iff hform joined).1 hrequest
    refine ⟨before, form, after, target, htable, fun other hother => ?_, fits, heq⟩
    have hmem : other ∈ forms := htable ▸ List.mem_append_left _ hother
    exact (Form.request?_eq_none_iff hmem joined).1 (hbefore other hother)
  · rintro ⟨before, form, after, target, htable, hbefore, fits, heq⟩
    have hform : form ∈ forms := htable ▸ List.mem_append_right _ List.mem_cons_self
    refine ⟨before, form, after, htable, ?_, fun other hother => ?_⟩
    · exact (Form.request?_eq_some_iff hform joined).2 ⟨target, fits, heq⟩
    · have hmem : other ∈ forms := htable ▸ List.mem_append_left _ hother
      exact (Form.request?_eq_none_iff hmem joined).2 (hbefore other hother)

theorem parse?_eq_none_iff :
    parse? question = none ↔ ∀ form ∈ forms, ∀ w, ¬ form.Fits (questionWords question) w := by
  rw [parse?_eq_findSome?, List.findSome?_eq_none_iff]
  exact forall₂_congr fun form hform =>
    Form.request?_eq_none_iff hform (joined_spoken question)

/-- **The grammar, over words.** A question has the request of the first form in the table that its
words fit, if they fit one. Questions of the same words have the same request. -/
theorem parse?_firstFitting (question : String) :
    (∀ request, parse? question = some request ↔
      ∃ before form after target, forms = before ++ form :: after ∧
        (∀ other ∈ before, ∀ w, ¬ other.Fits (questionWords question) w) ∧
        form.Fits (questionWords question) target ∧
        request = ⟨form.intent, String.ofList (cleaned target), form.confidence⟩) ∧
    (parse? question = none ↔ ∀ form ∈ forms, ∀ w, ¬ form.Fits (questionWords question) w) ∧
    (questionWords question = [] → parse? question = none) ∧
    ∀ other : String, Text.words other.toList = Text.words question.toList →
      parse? other = parse? question := by
  refine ⟨fun request => parse?_eq_some_iff, parse?_eq_none_iff, ?_, ?_⟩
  · intro none
    rw [parse?_eq_none_iff, none]
    exact fun form hform => Form.not_fits_nil hform
  · intro other same
    have words : questionWords other = questionWords question := congrArg withoutStops same
    refine Option.ext fun request => ?_
    rw [parse?_eq_some_iff, parse?_eq_some_iff, words]

/-- Other blanks between the words ask the same, and stops alone ask nothing. -/
theorem parse?_firstFitting_blanks :
    parse? "\t What does\u00A0 src/app.ts\n IMPORT ?!" =
      some ⟨.dependencies, "src/app.ts", .strict⟩ ∧ parse? " ?!\n" = none := by
  have plain : parse? "What does src/app.ts IMPORT ?!" =
      some ⟨.dependencies, "src/app.ts", .strict⟩ := by decide +kernel
  constructor
  · rw [← plain]
    exact (parse?_firstFitting "What does src/app.ts IMPORT ?!").2.2.2 _ (by decide +kernel)
  · exact (parse?_firstFitting " ?!\n").2.2.1 (by decide +kernel)

end CodeAtlas.Query
