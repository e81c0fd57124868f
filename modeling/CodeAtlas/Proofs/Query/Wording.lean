import CodeAtlas.Query.Phrase
import CodeAtlas.Proofs.Text.LetterCase
import Mathlib.Data.List.ReduceOption

/-!
# The wordings of a phrase

`Phrase.target?_eq_some_iff`: on a text that is joined from words, a phrase finds a target exactly if
the words fit one of its wordings, whatever the blanks between them. It holds of the phrases that put
a gap between any two places for a word (`alternates`) and whose wordings do not disagree on which
word is the target (`agree`); both can be checked by evaluation.

1. `Phrase.paths` are the ways through a phrase; to read it is to read one of them
   (`Phrase.reads_iff`, by induction on the phrase).
2. `Path.Reads.joined`, `Path.reads_of_fits`: a path that alternates reads the texts that are joined
   from words that fit it, by induction on the path.
3. `Wording.Fits.unique`: two wordings that agree find the same target in the same words.
-/

namespace CodeAtlas

namespace Phrase

/-! ## Paths and wordings -/

/-- A place for a word. -/
inductive Slot where
  /-- One of several keywords. -/
  | keyword (keywords : List String)
  /-- Any word, which is the target. -/
  | free

/-- A way through a phrase: places for words, and gaps. -/
abbrev Path : Type := List (Option Slot)

/-- A path without its gaps. -/
abbrev Wording : Type := List Slot

/-- The ways through a phrase. -/
def paths : Phrase → List Path
  | nothing => [[]]
  | oneOf keywords => [[some (.keyword keywords)]]
  | gap => [[none]]
  | target => [[some .free]]
  | both p q => p.paths.flatMap fun u => q.paths.map (u ++ ·)
  | either p q => p.paths ++ q.paths

/-- The ways to word a phrase: the places for words on the ways through it. -/
def wordings (p : Phrase) : List Wording := p.paths.map List.reduceOption

/-- Words fit a wording if they are its keywords but for case, with any words in the free places. The
target is the word in the last of these. -/
inductive Wording.Fits : Wording → List Word → Option Word → Prop where
  | nil : Fits [] [] none
  | keyword {keywords : List String} {keyword : String} {w : Word} {rest : Wording}
      {words : List Word} {found : Option Word} (mem : keyword ∈ keywords)
      (spelled : spells w keyword = true) (more : Fits rest words found) :
      Fits (.keyword keywords :: rest) (w :: words) found
  | free {w : Word} {rest : Wording} {words : List Word} {found : Option Word}
      (more : Fits rest words found) : Fits (.free :: rest) (w :: words) (found.or (some w))

/-- Reading a path takes `taken` and finds a target in it or none. -/
inductive Path.Reads : Path → List Char → Option Word → Prop where
  | nil : Reads [] [] none
  | gap {g text : List Char} {rest : Path} {found : Option Word} (isGap : Text.IsGap g)
      (more : Reads rest text found) : Reads (none :: rest) (g ++ text) found
  | keyword {keywords : List String} {keyword : String} {w text : List Char} {rest : Path}
      {found : Option Word} (mem : keyword ∈ keywords)
      (spelled : spells w keyword = true) (more : Reads rest text found) :
      Reads (some (.keyword keywords) :: rest) (w ++ text) found
  | free {w text : List Char} {rest : Path} {found : Option Word} (isWord : Text.IsWord w)
      (more : Reads rest text found) :
      Reads (some .free :: rest) (w ++ text) (found.or (some w))

namespace Path

variable {u v : Path} {text more : List Char} {found next : Option Word}

theorem Reads.append (first : Reads u text found) (second : Reads v more next) :
    Reads (u ++ v) (text ++ more) (next.or found) := by
  induction first with
  | nil =>
    rw [Option.or_none]
    exact second
  | gap isGap _ ih =>
    rw [List.append_assoc]
    exact .gap isGap ih
  | keyword mem spelled _ ih =>
    rw [List.append_assoc]
    exact .keyword mem spelled ih
  | free isWord _ ih =>
    rw [List.append_assoc, ← Option.or_assoc]
    exact .free isWord ih

theorem Reads.of_append (h : Reads (u ++ v) text found) :
    ∃ front back target next, text = front ++ back ∧ found = Option.or next target ∧
      Reads u front target ∧ Reads v back next := by
  induction u generalizing text found with
  | nil => exact ⟨[], text, none, found, rfl, (Option.or_none).symm, .nil, h⟩
  | cons slot u ih =>
    cases h with
    | gap isGap h =>
      obtain ⟨front, back, target, next, rfl, rfl, first, second⟩ := ih h
      exact ⟨_, back, target, next, (List.append_assoc _ _ _).symm, rfl, .gap isGap first, second⟩
    | keyword mem spelled h =>
      obtain ⟨front, back, target, next, rfl, rfl, first, second⟩ := ih h
      exact ⟨_, back, target, next, (List.append_assoc _ _ _).symm, rfl,
        .keyword mem spelled first, second⟩
    | free isWord h =>
      obtain ⟨front, back, target, next, rfl, rfl, first, second⟩ := ih h
      exact ⟨_, back, _, next, (List.append_assoc _ _ _).symm, Option.or_assoc,
        .free isWord first, second⟩

end Path

/-- To read a phrase is to read one of the ways through it. -/
theorem reads_iff {p : Phrase} {text : List Char} {found : Option Word} :
    p.Reads text found ↔ ∃ u ∈ p.paths, Path.Reads u text found := by
  constructor
  · intro h
    induction h with
    | nothing => exact ⟨[], List.mem_singleton.2 rfl, .nil⟩
    | oneOf mem spelled =>
      refine ⟨_, List.mem_singleton.2 rfl, ?_⟩
      have h := Path.Reads.keyword mem spelled .nil
      rwa [List.append_nil] at h
    | gap isGap =>
      refine ⟨_, List.mem_singleton.2 rfl, ?_⟩
      have h := Path.Reads.gap isGap .nil
      rwa [List.append_nil] at h
    | target isWord =>
      refine ⟨_, List.mem_singleton.2 rfl, ?_⟩
      have h := Path.Reads.free isWord .nil
      rwa [List.append_nil] at h
    | both _ _ ih₁ ih₂ =>
      obtain ⟨u, hu, first⟩ := ih₁
      obtain ⟨v, hv, second⟩ := ih₂
      exact ⟨u ++ v, List.mem_flatMap.2 ⟨u, hu, List.mem_map_of_mem hv⟩, first.append second⟩
    | left q _ ih =>
      obtain ⟨u, hu, first⟩ := ih
      exact ⟨u, List.mem_append_left _ hu, first⟩
    | right p _ ih =>
      obtain ⟨u, hu, second⟩ := ih
      exact ⟨u, List.mem_append_right _ hu, second⟩
  · rintro ⟨u, hu, h⟩
    induction p generalizing u text found with
    | nothing =>
      obtain rfl := List.mem_singleton.1 hu
      cases h with
      | nil => exact .nothing
    | oneOf keywords =>
      obtain rfl := List.mem_singleton.1 hu
      cases h with
      | keyword mem spelled h =>
        cases h with
        | nil =>
          rw [List.append_nil]
          exact .oneOf mem spelled
    | gap =>
      obtain rfl := List.mem_singleton.1 hu
      cases h with
      | gap isGap h =>
        cases h with
        | nil =>
          rw [List.append_nil]
          exact .gap isGap
    | target =>
      obtain rfl := List.mem_singleton.1 hu
      cases h with
      | free isWord h =>
        cases h with
        | nil =>
          rw [List.append_nil]
          exact .target isWord
    | both p q ih₁ ih₂ =>
      obtain ⟨v, hv, hmap⟩ := List.mem_flatMap.1 hu
      obtain ⟨w, hw, rfl⟩ := List.mem_map.1 hmap
      obtain ⟨front, back, target, next, rfl, rfl, first, second⟩ := h.of_append
      exact .both (ih₁ v hv first) (ih₂ w hw second)
    | either p q ih₁ ih₂ =>
      rcases List.mem_append.1 hu with hu | hu
      · exact .left q (ih₁ u hu h)
      · exact .right p (ih₂ u hu h)

/-! ## Paths on joined words -/

/-- Whether a place takes words only: all its keywords are words. -/
def Slot.takesWords : Slot → Bool
  | .keyword keywords => keywords.all fun keyword =>
      !keyword.toList.isEmpty && keyword.toList.all (!Text.isBlank ·)
  | .free => true

theorem Slot.isWord_of_spells {keywords : List String} {keyword : String} {w : Word}
    (takes : (Slot.keyword keywords).takesWords = true) (mem : keyword ∈ keywords)
    (spelled : spells w keyword = true) : Text.IsWord w := by
  have hk := List.all_eq_true.1 takes keyword mem
  rw [Bool.and_eq_true, List.all_eq_true] at hk
  have isWord : Text.IsWord keyword.toList := by
    refine ⟨fun h => ?_, fun c hc => by simpa using hk.2 c hc⟩
    rw [h] at hk
    exact Bool.false_ne_true hk.1
  exact Text.isWord_of_map_fold_eq (beq_iff_eq.1 spelled) isWord

theorem Wording.Fits.eq_nil {u : Wording} {found : Option Word} (h : Fits u [] found) : u = [] := by
  cases h
  rfl

/-- A word that fits a place is read there. -/
theorem Wording.Fits.of_slot {slot : Slot} {rest : Wording} {ws : List Word} {found : Option Word}
    (h : Fits (slot :: rest) ws found) :
    ∃ w more own, ws = w :: more ∧ Fits rest more own ∧
      ∀ {v : Path} {text : List Char}, Text.IsWord w → v.Reads text own →
        Path.Reads (some slot :: v) (w ++ text) found := by
  cases h with
  | keyword mem spelled h => exact ⟨_, _, _, rfl, h, fun _ => .keyword mem spelled⟩
  | free h => exact ⟨_, _, _, rfl, h, .free⟩

namespace Path

variable {u : Path} {text : List Char} {ws : List Word} {found : Option Word}

/-- Whether a path has a gap between any two places for words, and no other gaps. -/
def alternates : Path → Bool
  | [some slot] => slot.takesWords
  | some slot :: none :: rest => slot.takesWords && alternates rest
  | _ => false

theorem reduceOption_ne_nil (h : alternates u = true) : u.reduceOption ≠ [] := by
  unfold alternates at h
  split at h
  · exact List.cons_ne_nil _ _
  · exact List.cons_ne_nil _ _
  · cases h

/-- What a place reads is a word that fits it. -/
theorem Reads.of_slot {slot : Slot} {rest : Path} (takes : slot.takesWords = true)
    (h : Reads (some slot :: rest) text found) :
    ∃ w more own, text = w ++ more ∧ Text.IsWord w ∧ Reads rest more own ∧
      ∀ {v ws}, Wording.Fits v ws own → Wording.Fits (slot :: v) (w :: ws) found := by
  cases h with
  | keyword mem spelled h =>
    exact ⟨_, _, _, rfl, Slot.isWord_of_spells takes mem spelled, h, .keyword mem spelled⟩
  | free isWord h => exact ⟨_, _, _, rfl, isWord, h, .free⟩

/-- A path that alternates reads joined words only. -/
theorem Reads.joined (ha : alternates u = true) (h : Reads u text found) :
    ∃ w ws, Text.Joined (w :: ws) text ∧ Wording.Fits u.reduceOption (w :: ws) found := by
  induction u using alternates.induct generalizing text found with
  | case1 slot =>
    obtain ⟨w, more, own, rfl, isWord, h, fits⟩ := h.of_slot ha
    cases h with
    | nil =>
      rw [List.append_nil]
      exact ⟨w, [], .one isWord, fits .nil⟩
  | case2 slot rest ih =>
    rw [alternates, Bool.and_eq_true] at ha
    obtain ⟨w, more, own, rfl, isWord, h, fits⟩ := h.of_slot ha.1
    cases h with
    | gap isGap h =>
      obtain ⟨v, ws, joined, more⟩ := ih ha.2 h
      rw [← List.append_assoc]
      exact ⟨w, v :: ws, .cons isWord isGap joined, fits more⟩
  | case3 u hone hmore =>
    unfold alternates at ha
    split at ha
    · exact (hone _ rfl).elim
    · exact (hmore _ _ rfl).elim
    · cases ha

/-- A path that alternates reads all joined words that fit it. -/
theorem reads_of_fits (ha : alternates u = true) (joined : Text.Joined ws text)
    (h : Wording.Fits u.reduceOption ws found) : Reads u text found := by
  induction u using alternates.induct generalizing text ws found with
  | case1 slot =>
    obtain ⟨w, more, own, rfl, fits, reads⟩ := Wording.Fits.of_slot h
    cases fits with
    | nil =>
      cases joined with
      | one isWord =>
        have whole := reads isWord .nil
        rwa [List.append_nil] at whole
  | case2 slot rest ih =>
    rw [alternates, Bool.and_eq_true] at ha
    obtain ⟨w, more, own, rfl, fits, reads⟩ := Wording.Fits.of_slot h
    cases joined with
    | one isWord =>
      -- the words end here, but the path does not
      have ended : rest.reduceOption = [] := Wording.Fits.eq_nil fits
      exact (reduceOption_ne_nil ha.2 ended).elim
    | cons isWord isGap joined =>
      rw [List.append_assoc]
      exact reads isWord (.gap isGap (ih ha.2 joined fits))
  | case3 u hone hmore =>
    unfold alternates at ha
    split at ha
    · exact (hone _ rfl).elim
    · exact (hmore _ _ rfl).elim
    · cases ha

end Path

/-- To read joined words as a phrase is to fit one of its wordings. -/
theorem reads_iff_fits {p : Phrase} {text : List Char} {ws : List Word}
    {found : Option Word} (ha : ∀ u ∈ p.paths, Path.alternates u = true)
    (joined : Text.Joined ws text) :
    p.Reads text found ↔ ∃ u ∈ p.wordings, u.Fits ws found := by
  rw [reads_iff]
  constructor
  · rintro ⟨u, hu, reads⟩
    obtain ⟨w, more, same, fits⟩ := reads.joined (ha u hu)
    refine ⟨u.reduceOption, List.mem_map_of_mem hu, ?_⟩
    rwa [← joined.words, same.words]
  · rintro ⟨v, hv, fits⟩
    obtain ⟨u, hu, rfl⟩ := List.mem_map.1 hv
    exact ⟨u, hu, Path.reads_of_fits (ha u hu) joined fits⟩

/-! ## One target -/

namespace Slot

/-- Whether a place is for any word. -/
def isFree : Slot → Bool
  | keyword _ => false
  | free => true

/-- Whether two places are for keywords that are spelled differently. -/
def excludes : Slot → Slot → Bool
  | keyword keywords, keyword others =>
    keywords.all fun k => others.all fun other => !spells k.toList other
  | _, _ => false

theorem excludes_eq_false {keywords others : List String} {k other : String} {w : Word}
    (mem : k ∈ keywords) (spelled : spells w k = true) (mem' : other ∈ others)
    (spelled' : spells w other = true) :
    excludes (keyword keywords) (keyword others) = false := by
  have same : spells k.toList other = true :=
    beq_iff_eq.2 ((beq_iff_eq.1 spelled).symm.trans (beq_iff_eq.1 spelled'))
  rw [← Bool.not_eq_true]
  intro h
  have differ := List.all_eq_true.1 (List.all_eq_true.1 h k mem) other mem'
  rw [same] at differ
  exact Bool.false_ne_true differ

end Slot

namespace Wording

variable {u v : Wording} {ws : List Word} {found other : Option Word}

/-- Whether no words fit both of two wordings. -/
def clash : Wording → Wording → Bool
  | [], [] => false
  | a :: u, b :: v => a.excludes b || clash u v
  | _, _ => true

/-- Whether two wordings have their free places at the same words, if there are words that fit
both. -/
def agree (u v : Wording) : Bool := clash u v || u.map Slot.isFree == v.map Slot.isFree

theorem Fits.clash_eq_false (h : Fits u ws found) (h' : Fits v ws other) : clash u v = false := by
  induction h generalizing v other with
  | nil =>
    cases h'
    rfl
  | keyword mem spelled _ ih =>
    cases h' with
    | keyword mem' spelled' h' =>
      rw [clash, Slot.excludes_eq_false mem spelled mem' spelled', ih h']
      rfl
    | free h' => exact ih h'
  | free _ ih =>
    cases h' with
    | keyword _ _ h' => exact ih h'
    | free h' => exact ih h'

theorem Fits.eq_of_places (h : Fits u ws found) (h' : Fits v ws other)
    (places : u.map Slot.isFree = v.map Slot.isFree) : found = other := by
  induction h generalizing v other with
  | nil =>
    cases h'
    rfl
  | keyword _ _ _ ih =>
    cases h' with
    | keyword _ _ h' => exact ih h' (List.cons.inj places).2
    | free => cases (List.cons.inj places).1
  | free _ ih =>
    cases h' with
    | keyword => cases (List.cons.inj places).1
    | free h' => rw [ih h' (List.cons.inj places).2]

/-- Two wordings that agree find the same target in the same words. -/
theorem Fits.unique (ha : agree u v = true) (h : Fits u ws found) (h' : Fits v ws other) :
    found = other := by
  unfold agree at ha
  rw [h.clash_eq_false h', Bool.false_or] at ha
  exact h.eq_of_places h' (beq_iff_eq.1 ha)

end Wording

/-- **The target of a phrase.** On joined words a phrase finds a target exactly if the words fit one
of its wordings with that target. -/
theorem target?_eq_some_iff {p : Phrase} {text : List Char} {ws : List Word} {w : Word}
    (ha : ∀ u ∈ p.paths, Path.alternates u = true)
    (hg : ∀ u ∈ p.wordings, ∀ v ∈ p.wordings, Wording.agree u v = true)
    (joined : Text.Joined ws text) :
    p.target? text = some w ↔ ∃ u ∈ p.wordings, u.Fits ws (some w) := by
  have whole : ∀ {found rest}, (found, rest) ∈ p.ways text → rest = [] →
      ∃ u ∈ p.wordings, u.Fits ws found := by
    rintro found rest hmem rfl
    obtain ⟨taken, rfl, reads⟩ := mem_ways_iff.1 hmem
    rw [List.append_nil] at joined
    exact (reads_iff_fits ha joined).1 reads
  constructor
  · intro h
    obtain ⟨⟨found, rest⟩, hfind, hfound⟩ := Option.bind_eq_some_iff.1 h
    obtain rfl : found = some w := hfound
    have empty : rest.isEmpty = true := by simpa using List.find?_some hfind
    have ended : rest = [] := List.isEmpty_iff.1 empty
    exact whole (List.mem_of_find?_eq_some hfind) ended
  · rintro ⟨u, hu, fits⟩
    have reads : p.Reads text (some w) := (reads_iff_fits ha joined).2 ⟨u, hu, fits⟩
    have mem : (some w, []) ∈ p.ways text :=
      mem_ways_iff.2 ⟨text, (List.append_nil text).symm, reads⟩
    unfold target?
    cases hfind : (p.ways text).find? (·.2.isEmpty) with
    | none => exact (List.find?_eq_none.1 hfind _ mem rfl).elim
    | some way =>
      -- the first way that leaves nothing may be another, but its target is the same
      have empty : way.2.isEmpty = true := by simpa using List.find?_some hfind
      have ended : way.2 = [] := List.isEmpty_iff.1 empty
      obtain ⟨v, hv, fits'⟩ := whole (List.mem_of_find?_eq_some hfind) ended
      exact Wording.Fits.unique (hg v hv u hu) fits' fits

end Phrase

end CodeAtlas
