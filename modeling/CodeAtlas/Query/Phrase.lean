import CodeAtlas.Text.Blank
import CodeAtlas.Text.Casing

/-!
# Phrases

A phrase is a form of text: keywords, of which some may be left out, the blanks between them and one
place for a word of the asker. Case does not count in keywords. `Phrase.ways` gives every way to read
a phrase off the front of a text, the preferred ones first, and `Phrase.Reads` says what such a way
is.
-/

namespace CodeAtlas

/-- A word of a text. -/
abbrev Word : Type := List Char

/-- A form of text. -/
inductive Phrase where
  /-- No text. -/
  | nothing
  /-- One of several keywords. -/
  | oneOf (keywords : List String)
  /-- Some blanks. -/
  | gap
  /-- Some characters that are no blanks, which are the target. -/
  | target
  /-- One phrase and then another. -/
  | both (first second : Phrase)
  /-- One of two phrases, the first one where both fit. -/
  | either (first second : Phrase)

namespace Phrase

/-- Whether a word is a keyword but for its case. -/
def spells (word : Word) (keyword : String) : Bool :=
  word.map Text.fold == keyword.toList.map Text.fold

/-- One keyword. -/
def word (keyword : String) : Phrase := oneOf [keyword]

/-- Phrases one after the other. -/
def all : List Phrase → Phrase
  | [] => nothing
  | p :: ps => both p (all ps)

/-- One of several phrases, earlier ones first. -/
def any : List Phrase → Phrase
  | [] => oneOf []
  | [p] => p
  | p :: ps => either p (any ps)

/-- A phrase that may be left out. -/
def maybe (p : Phrase) : Phrase := either p nothing

/-- The ways to cut a text after some characters that all satisfy `p`, the longest first. -/
def runs (p : Char → Bool) : List Char → List (Word × List Char)
  | [] => []
  | c :: cs =>
    if p c then (runs p cs).map (fun cut => (c :: cut.1, cut.2)) ++ [([c], cs)] else []

/-- What is left of a text after a keyword. -/
def after? : List Char → List Char → Option (List Char)
  | [], text => some text
  | _ :: _, [] => none
  | k :: ks, c :: cs => if Text.fold c = Text.fold k then after? ks cs else none

/-- The ways to read a phrase off the front of a text, in order of preference: the target and the
text that is left. -/
def ways : Phrase → List Char → List (Option Word × List Char)
  | nothing, text => [(none, text)]
  | oneOf keywords, text =>
    keywords.filterMap fun keyword => (after? keyword.toList text).map (none, ·)
  | gap, text => (runs Text.isBlank text).map fun cut => (none, cut.2)
  | target, text => (runs (!Text.isBlank ·) text).map fun cut => (some cut.1, cut.2)
  | both p q, text =>
    (ways p text).flatMap fun way =>
      (ways q way.2).map fun next => (next.1.or way.1, next.2)
  | either p q, text => ways p text ++ ways q text

/-- Reading a phrase takes `taken` and finds a target in it or none. -/
inductive Reads : Phrase → List Char → Option Word → Prop where
  | nothing : Reads nothing [] none
  | oneOf {keywords : List String} {keyword : String} {taken : Word} (mem : keyword ∈ keywords)
      (spelled : spells taken keyword = true) : Reads (oneOf keywords) taken none
  | gap {taken : List Char} (blank : Text.IsGap taken) : Reads gap taken none
  | target {w : Word} (isWord : Text.IsWord w) : Reads target w (some w)
  | both {p q : Phrase} {taken more : List Char} {found next : Option Word}
      (first : Reads p taken found) (second : Reads q more next) :
      Reads (both p q) (taken ++ more) (next.or found)
  | left {p : Phrase} (q : Phrase) {taken : List Char} {found : Option Word}
      (first : Reads p taken found) : Reads (either p q) taken found
  | right (p : Phrase) {q : Phrase} {taken : List Char} {found : Option Word}
      (second : Reads q taken found) : Reads (either p q) taken found

theorem mem_runs_iff {p : Char → Bool} {text run rest : List Char} :
    (run, rest) ∈ runs p text ↔ text = run ++ rest ∧ run ≠ [] ∧ ∀ c ∈ run, p c = true := by
  induction text generalizing run rest with
  | nil =>
    refine ⟨nofun, ?_⟩
    rintro ⟨h, nonempty, -⟩
    exact (nonempty (List.append_eq_nil_iff.1 h.symm).1).elim
  | cons c cs ih =>
    constructor
    · intro h
      unfold runs at h
      split at h
      case isFalse => cases h
      case isTrue hc =>
        rcases List.mem_append.1 h with h | h
        · obtain ⟨⟨more, left⟩, hmem, heq⟩ := List.mem_map.1 h
          obtain ⟨rfl, rfl⟩ := Prod.mk.inj heq
          obtain ⟨hcs, -, hall⟩ := ih.1 hmem
          refine ⟨by rw [hcs, List.cons_append], List.cons_ne_nil _ _, ?_⟩
          exact List.forall_mem_cons.2 ⟨hc, hall⟩
        · obtain ⟨rfl, rfl⟩ := Prod.mk.inj (List.mem_singleton.1 h)
          exact ⟨rfl, List.cons_ne_nil _ _, List.forall_mem_singleton.2 hc⟩
    · rintro ⟨heq, nonempty, hall⟩
      cases run with
      | nil => exact (nonempty rfl).elim
      | cons d more =>
        rw [List.cons_append] at heq
        obtain ⟨rfl, hcs⟩ := List.cons.inj heq
        obtain ⟨hc, hmore⟩ := List.forall_mem_cons.1 hall
        unfold runs
        rw [if_pos hc]
        cases more with
        | nil =>
          obtain rfl : cs = rest := hcs
          exact List.mem_append_right _ List.mem_cons_self
        | cons e es =>
          have cut : (e :: es, rest) ∈ runs p cs := ih.2 ⟨hcs, List.cons_ne_nil _ _, hmore⟩
          exact List.mem_append_left _ (List.mem_map.2 ⟨_, cut, rfl⟩)

theorem after?_eq_some_iff {keyword text rest : List Char} :
    after? keyword text = some rest ↔
      ∃ taken, text = taken ++ rest ∧ taken.map Text.fold = keyword.map Text.fold := by
  induction keyword generalizing text with
  | nil =>
    constructor
    · intro h
      exact ⟨[], Option.some.inj h, rfl⟩
    · rintro ⟨taken, rfl, h⟩
      rw [List.map_eq_nil_iff.1 h]
      rfl
  | cons k ks ih =>
    cases text with
    | nil =>
      refine ⟨nofun, ?_⟩
      rintro ⟨taken, heq, h⟩
      rw [(List.append_eq_nil_iff.1 heq.symm).1] at h
      cases h
    | cons c cs =>
      constructor
      · intro h
        unfold after? at h
        split at h
        case isFalse => cases h
        case isTrue hc =>
          obtain ⟨taken, rfl, ht⟩ := ih.1 h
          exact ⟨c :: taken, rfl, by rw [List.map_cons, List.map_cons, hc, ht]⟩
      · rintro ⟨taken, heq, h⟩
        cases taken with
        | nil => cases h
        | cons d ds =>
          rw [List.cons_append] at heq
          obtain ⟨rfl, hcs⟩ := List.cons.inj heq
          obtain ⟨hc, hds⟩ := List.cons.inj h
          unfold after?
          rw [if_pos hc]
          exact ih.2 ⟨ds, hcs, hds⟩

/-- The ways to read a phrase are the readings of the fronts of the text. -/
theorem mem_ways_iff {p : Phrase} {text rest : List Char} {found : Option Word} :
    (found, rest) ∈ ways p text ↔ ∃ taken, text = taken ++ rest ∧ Reads p taken found := by
  constructor
  · intro h
    induction p generalizing text rest found with
    | nothing =>
      obtain ⟨rfl, rfl⟩ := Prod.mk.inj (List.mem_singleton.1 h)
      exact ⟨[], rfl, .nothing⟩
    | oneOf keywords =>
      obtain ⟨keyword, mem, hleft⟩ := List.mem_filterMap.1 h
      obtain ⟨left, hafter, heq⟩ := Option.map_eq_some_iff.1 hleft
      obtain ⟨rfl, rfl⟩ := Prod.mk.inj heq
      obtain ⟨taken, htext, spelled⟩ := after?_eq_some_iff.1 hafter
      exact ⟨taken, htext, .oneOf mem (beq_iff_eq.2 spelled)⟩
    | gap =>
      obtain ⟨⟨taken, left⟩, hcut, heq⟩ := List.mem_map.1 h
      obtain ⟨rfl, rfl⟩ := Prod.mk.inj heq
      obtain ⟨htext, nonempty, blank⟩ := mem_runs_iff.1 hcut
      exact ⟨taken, htext, .gap ⟨nonempty, blank⟩⟩
    | target =>
      obtain ⟨⟨taken, left⟩, hcut, heq⟩ := List.mem_map.1 h
      obtain ⟨rfl, rfl⟩ := Prod.mk.inj heq
      obtain ⟨htext, nonempty, solid⟩ := mem_runs_iff.1 hcut
      exact ⟨taken, htext, .target ⟨nonempty, fun c hc => by simpa using solid c hc⟩⟩
    | both p q ih₁ ih₂ =>
      obtain ⟨way, hway, hmore⟩ := List.mem_flatMap.1 h
      obtain ⟨next, hnext, heq⟩ := List.mem_map.1 hmore
      obtain ⟨rfl, rfl⟩ := Prod.mk.inj heq
      obtain ⟨taken, ht, first⟩ := ih₁ (show (way.1, way.2) ∈ _ from hway)
      obtain ⟨more, hm, second⟩ := ih₂ (show (next.1, next.2) ∈ _ from hnext)
      exact ⟨taken ++ more, by rw [ht, hm, List.append_assoc], .both first second⟩
    | either p q ih₁ ih₂ =>
      rcases List.mem_append.1 h with h | h
      · obtain ⟨taken, ht, first⟩ := ih₁ h
        exact ⟨taken, ht, .left q first⟩
      · obtain ⟨taken, ht, second⟩ := ih₂ h
        exact ⟨taken, ht, .right p second⟩
  · rintro ⟨taken, rfl, reading⟩
    induction reading generalizing rest with
    | nothing => exact List.mem_singleton.2 rfl
    | oneOf mem spelled =>
      refine List.mem_filterMap.2 ⟨_, mem, Option.map_eq_some_iff.2 ⟨rest, ?_, rfl⟩⟩
      exact after?_eq_some_iff.2 ⟨_, rfl, beq_iff_eq.1 spelled⟩
    | gap blank =>
      exact List.mem_map.2 ⟨_, mem_runs_iff.2 ⟨rfl, blank.1, blank.2⟩, rfl⟩
    | target isWord =>
      refine List.mem_map.2 ⟨_, mem_runs_iff.2 ⟨rfl, isWord.1, ?_⟩, rfl⟩
      intro c hc
      rw [isWord.2 c hc]
      rfl
    | both _ _ ih₁ ih₂ =>
      rw [List.append_assoc]
      exact List.mem_flatMap.2 ⟨_, ih₁, List.mem_map.2 ⟨_, ih₂, rfl⟩⟩
    | left q _ ih => exact List.mem_append_left _ ih
    | right p _ ih => exact List.mem_append_right _ ih

/-- The target of the first way to read a phrase off a whole text. -/
def target? (p : Phrase) (text : List Char) : Option Word :=
  ((p.ways text).find? (·.2.isEmpty)).bind (·.1)

end Phrase

end CodeAtlas
