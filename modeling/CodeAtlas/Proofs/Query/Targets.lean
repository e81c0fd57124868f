import CodeAtlas.Proofs.Query.Parsing
import CodeAtlas.Proofs.Text.Trimming

/-!
# The target of a question

A target is a piece of one word of its question, with no quote before it and no stop after it
(`parse?_target`). The quotes after it are taken off once: a quote is left where stops stand between
quotes, and only there (`cleaned_final_iff`).

1. `Fits.mem`, `mem_questionWords`: a target stands in a word of the question.
2. `exists_eq_append_cleaned`: what cleaning takes off a word, and so how a cleaned word begins and
   ends (`head?_cleaned`, `getLast?_cleaned`).
3. `cleaned_eq_self_iff`: which words are clean.
4. `MixedEnd.cleaned_word`, `exists_mixedEnd`: what is left of the words with stops between quotes at
   their end, and that no other word keeps a quote.
-/

namespace CodeAtlas

/-! ## Targets stand in words -/

theorem Phrase.Wording.Fits.mem {u : Phrase.Wording} {ws : List Word} {found : Option Word}
    (h : u.Fits ws found) : ∀ w ∈ found, w ∈ ws := by
  induction h with
  | nil => exact nofun
  | keyword _ _ _ ih => exact fun w hw => List.mem_cons_of_mem _ (ih w hw)
  | @free v _ _ found _ ih =>
    intro w hw
    cases found with
    | none =>
      obtain rfl := Option.some.inj hw
      exact List.mem_cons_self
    | some next => exact List.mem_cons_of_mem _ (ih w hw)

namespace Query

open Text (dropEndWhile)

variable {question : String} {w : Word}

theorem isPrefix_of_mem_withoutStops {ws : List Word} (h : w ∈ withoutStops ws) :
    ∃ v ∈ ws, w <+: v := by
  fun_induction withoutStops ws with
  | case1 => cases h
  | case2 last empty => cases h
  | case3 last nonempty =>
    obtain rfl := List.mem_singleton.1 h
    exact ⟨last, List.mem_cons_self, Text.isPrefix_dropEndWhile isStop last⟩
  | case4 u v ws ih =>
    rcases List.mem_cons.1 h with rfl | h
    · exact ⟨w, List.mem_cons_self, List.prefix_refl w⟩
    · obtain ⟨v, hv, starts⟩ := ih h
      exact ⟨v, List.mem_cons_of_mem _ hv, starts⟩

/-- A word of a question is a piece of it without blanks. -/
theorem mem_questionWords (h : w ∈ questionWords question) :
    w <:+: question.toList ∧ ∀ c ∈ w, Text.isBlank c = false := by
  obtain ⟨v, hv, starts⟩ := isPrefix_of_mem_withoutStops h
  have solid := (Text.isWord_of_mem_words hv).2
  exact ⟨starts.isInfix.trans (Text.infix_of_mem_words hv), fun c hc => solid c (starts.subset hc)⟩

/-! ## Cleaned words -/

theorem isStop_of_isQuote {c : Char} (h : isQuote c = true) : isStop c = false := by
  rw [← Bool.not_eq_true]
  intro stop
  rcases isQuote_iff.1 h with rfl | rfl | rfl <;> exact absurd stop (by decide)

theorem isQuote_of_isStop {c : Char} (h : isStop c = true) : isQuote c = false := by
  rw [← Bool.not_eq_true]
  intro quote
  cases h.symm.trans (isStop_of_isQuote quote)

/-- What is taken off a word: the stops at its end, the quotes around what is left, and the stops
before the closing quotes. -/
theorem exists_eq_append_cleaned (w : Word) :
    ∃ opening stops quotes more, w = opening ++ (cleaned w ++ stops ++ quotes) ++ more ∧
      (∀ c ∈ stops, isStop c = true) ∧ (∀ c ∈ quotes, isQuote c = true) ∧
      (∀ c ∈ more, isStop c = true) ∧
      (∀ c ∈ (opening ++ (cleaned w ++ stops ++ quotes)).getLast?, isStop c = false) ∧
      (∀ c ∈ (cleaned w ++ stops ++ quotes).head?, isQuote c = false) ∧
      ∀ c ∈ (cleaned w ++ stops).getLast?, isQuote c = false := by
  obtain ⟨more, hmore, isStop_more⟩ := Text.exists_eq_dropEndWhile_append isStop w
  obtain ⟨opening, hopening, -⟩ := Text.exists_eq_append_dropWhile isQuote (dropEndWhile isStop w)
  obtain ⟨quotes, hquotes, isQuote_quotes⟩ :=
    Text.exists_eq_dropEndWhile_append isQuote ((dropEndWhile isStop w).dropWhile isQuote)
  obtain ⟨stops, hstops, isStop_stops⟩ :=
    Text.exists_eq_dropEndWhile_append isStop (Text.trim isQuote (dropEndWhile isStop w))
  have ended := Text.getLast?_dropEndWhile isStop w
  have begun := Text.head?_dropWhile isQuote (dropEndWhile isStop w)
  have trimmed : ∀ c ∈ (Text.trim isQuote (dropEndWhile isStop w)).getLast?, isQuote c = false :=
    Text.getLast?_dropEndWhile isQuote _
  rw [← cleaned] at hstops
  rw [← Text.trim, hstops] at hquotes
  rw [hquotes] at hopening begun
  rw [hopening] at hmore ended
  rw [hstops] at trimmed
  exact ⟨opening, stops, quotes, more, hmore, isStop_stops, isQuote_quotes, isStop_more, ended, begun,
    trimmed⟩

theorem isInfix_cleaned (w : Word) : cleaned w <:+: w := by
  obtain ⟨opening, stops, quotes, more, hw, -⟩ := exists_eq_append_cleaned w
  refine ⟨opening, stops ++ quotes ++ more, ?_⟩
  calc opening ++ cleaned w ++ (stops ++ quotes ++ more)
      = opening ++ (cleaned w ++ stops ++ quotes) ++ more := by simp only [List.append_assoc]
    _ = w := hw.symm

theorem head?_cleaned (w : Word) : ∀ c ∈ (cleaned w).head?, isQuote c = false := by
  obtain ⟨opening, stops, quotes, more, -, -, -, -, -, begun, -⟩ := exists_eq_append_cleaned w
  intro c first
  refine begun c ?_
  rw [List.append_assoc, List.head?_append, Option.mem_def.1 first]
  rfl

theorem getLast?_cleaned (w : Word) : ∀ c ∈ (cleaned w).getLast?, isStop c = false :=
  Text.getLast?_dropEndWhile isStop _

/-- Unless the quotes at its end are trimmed, nothing is of a word that begins with no quote and ends
with no stop. -/
theorem cleaned_of_ends (first : ∀ c ∈ w.head?, isQuote c = false)
    (last : ∀ c ∈ w.getLast?, isStop c = false) :
    cleaned w = dropEndWhile isStop (dropEndWhile isQuote w) := by
  rw [cleaned, Text.dropEndWhile_eq_self_iff.2 last, Text.trim, Text.dropWhile_eq_self_iff.2 first]

/-- A word is clean if it begins with no quote, and ends with no quote and no stop. -/
theorem cleaned_eq_self_iff : cleaned w = w ↔ (∀ c ∈ w.head?, isQuote c = false) ∧
    (∀ c ∈ w.getLast?, isQuote c = false) ∧ ∀ c ∈ w.getLast?, isStop c = false := by
  constructor
  · intro clean
    have first := head?_cleaned w
    have last := getLast?_cleaned w
    rw [clean] at first last
    refine ⟨first, Text.dropEndWhile_eq_self_iff.1 ?_, last⟩
    have outer := (Text.isPrefix_dropEndWhile isStop (dropEndWhile isQuote w)).length_le
    rw [← cleaned_of_ends first last, clean] at outer
    exact (Text.isPrefix_dropEndWhile isQuote w).eq_of_length_le outer
  · rintro ⟨first, quote, stop⟩
    rw [cleaned_of_ends first stop, Text.dropEndWhile_eq_self_iff.2 quote,
      Text.dropEndWhile_eq_self_iff.2 stop]

/-! ## Quotes that are left -/

/-- The parts of a word whose closing quotes have stops before them, and these a quote that is not
one of the quotes at the front. -/
structure MixedEnd where
  front : Word
  quote : Char
  stops : Word
  quotes : Word
  more : Word
  front_solid : ∃ c ∈ front, isQuote c = false
  isQuote_quote : isQuote quote = true
  stops_ne_nil : stops ≠ []
  isStop_stops : ∀ c ∈ stops, isStop c = true
  quotes_ne_nil : quotes ≠ []
  isQuote_quotes : ∀ c ∈ quotes, isQuote c = true
  isStop_more : ∀ c ∈ more, isStop c = true

/-- The word that has these parts. -/
def MixedEnd.word (m : MixedEnd) : Word := m.front ++ [m.quote] ++ m.stops ++ m.quotes ++ m.more

/-- The stops are trimmed, then the closing quotes, then the stops before these, and the quote before
those stops is left. -/
theorem MixedEnd.cleaned_word (m : MixedEnd) :
    cleaned m.word = m.front.dropWhile isQuote ++ [m.quote] := by
  have solid : ¬ (m.front.dropWhile isQuote).isEmpty = true := by
    rw [List.isEmpty_iff, List.dropWhile_eq_nil_iff]
    obtain ⟨c, hc, off⟩ := m.front_solid
    intro quotes
    cases (quotes c hc).symm.trans off
  have ended : dropEndWhile isStop m.word = m.front ++ ([m.quote] ++ m.stops ++ m.quotes) := by
    rw [MixedEnd.word, Text.dropEndWhile_append_of_all m.isStop_more,
      Text.dropEndWhile_append_of_kept (Text.dropEndWhile_eq_self fun c hc =>
        isStop_of_isQuote (m.isQuote_quotes c hc)) m.quotes_ne_nil]
    simp only [List.append_assoc]
  have trimmed : Text.trim isQuote (dropEndWhile isStop m.word) =
      m.front.dropWhile isQuote ++ [m.quote] ++ m.stops := by
    rw [Text.trim, ended, List.dropWhile_append, if_neg solid, ← List.append_assoc,
      ← List.append_assoc, Text.dropEndWhile_append_of_all m.isQuote_quotes,
      Text.dropEndWhile_append_of_kept (Text.dropEndWhile_eq_self fun c hc =>
        isQuote_of_isStop (m.isStop_stops c hc)) m.stops_ne_nil]
  have kept : dropEndWhile isStop [m.quote] = [m.quote] :=
    Text.dropEndWhile_eq_self (List.forall_mem_singleton.2 (isStop_of_isQuote m.isQuote_quote))
  rw [cleaned, trimmed, Text.dropEndWhile_append_of_all m.isStop_stops,
    Text.dropEndWhile_append_of_kept kept (List.cons_ne_nil _ _)]

/-- A quote is left at the end of a word only where stops stand between it and other quotes. -/
theorem exists_mixedEnd {q : Char} (last : q ∈ (cleaned w).getLast?) (isQuote_q : isQuote q = true) :
    ∃ m : MixedEnd, w = m.word := by
  obtain ⟨front, hcleaned⟩ := List.getLast?_eq_some_iff.1 last
  obtain ⟨opening, stops, quotes, more, hw, isStop_stops, isQuote_quotes, isStop_more, ended, begun,
    trimmed⟩ := exists_eq_append_cleaned w
  rw [hcleaned] at hw ended begun trimmed
  have front_solid : ∃ c ∈ front, isQuote c = false := by
    cases front with
    | nil => cases isQuote_q.symm.trans (begun q rfl)
    | cons c cs => exact ⟨c, List.mem_cons_self, begun c rfl⟩
  have stops_ne_nil : stops ≠ [] := by
    rintro rfl
    rw [List.append_nil] at trimmed
    cases isQuote_q.symm.trans (trimmed q List.getLast?_concat)
  have quotes_ne_nil : quotes ≠ [] := by
    rintro rfl
    rw [List.append_nil, ← List.append_assoc, List.getLast?_append_of_ne_nil _ stops_ne_nil] at ended
    have solid := ended _ (List.getLast?_eq_some_getLast stops_ne_nil)
    cases (isStop_stops _ (List.getLast_mem stops_ne_nil)).symm.trans solid
  obtain ⟨c, hc, solid⟩ := front_solid
  refine ⟨⟨opening ++ front, q, stops, quotes, more, ⟨c, List.mem_append_right _ hc, solid⟩,
    isQuote_q, stops_ne_nil, isStop_stops, quotes_ne_nil, isQuote_quotes, isStop_more⟩, ?_⟩
  rw [hw, MixedEnd.word]
  simp only [List.append_assoc]

/-- **Cleaned words.** A cleaned word begins with no quote and ends with no stop. It is clean, and
ends with no quote either, unless its word has stops between the quotes at its end: then the quote
before those stops is left. -/
theorem cleaned_final_iff (w : Word) :
    (∀ c ∈ (cleaned w).head?, isQuote c = false) ∧
    (∀ c ∈ (cleaned w).getLast?, isStop c = false) ∧
    ((∀ c ∈ (cleaned w).getLast?, isQuote c = false) ↔ ¬ ∃ m : MixedEnd, w = m.word) ∧
    (cleaned (cleaned w) = cleaned w ↔ ¬ ∃ m : MixedEnd, w = m.word) ∧
    ∀ m : MixedEnd, w = m.word → cleaned w = m.front.dropWhile isQuote ++ [m.quote] := by
  have first := head?_cleaned w
  have last := getLast?_cleaned w
  have left : (∀ c ∈ (cleaned w).getLast?, isQuote c = false) ↔ ¬ ∃ m : MixedEnd, w = m.word := by
    constructor
    · rintro bare ⟨m, rfl⟩
      have last : m.quote ∈ (cleaned m.word).getLast? := by
        rw [m.cleaned_word]
        exact List.getLast?_concat
      cases m.isQuote_quote.symm.trans (bare m.quote last)
    · intro plain q hq
      rw [← Bool.not_eq_true]
      exact fun quote => plain (exists_mixedEnd hq quote)
  refine ⟨first, last, left, ?_, ?_⟩
  · rw [cleaned_eq_self_iff, ← left]
    exact ⟨fun clean => clean.2.1, fun bare => ⟨first, bare, last⟩⟩
  · rintro m rfl
    exact m.cleaned_word

/-- The quote of a name is left if a sentence in quotes ends with it. -/
theorem not_final_nested :
    parse? "explain '\"foo\".'" = some ⟨.explain, "foo\"", .strict⟩ ∧
      cleaned "'\"foo\".'".toList = "foo\"".toList ∧
      cleaned (cleaned "'\"foo\".'".toList) ≠ cleaned "'\"foo\".'".toList := by
  decide +kernel

/-! ## Targets -/

/-- **Targets.** The target of a request is a piece of the question, not empty and without blanks; it
begins with no quote and ends with no stop. -/
theorem parse?_target {request : Request} (h : parse? question = some request) :
    request.target ≠ "" ∧ (∀ c ∈ request.target.toList, Text.isBlank c = false) ∧
      request.target.toList <:+: question.toList ∧
      (∀ c ∈ request.target.toList.getLast?, isStop c = false) ∧
      ∀ c ∈ request.target.toList.head?, isQuote c = false := by
  obtain ⟨before, form, after, target, -, -, ⟨⟨u, hu, fits⟩, nonempty⟩, rfl⟩ :=
    parse?_eq_some_iff.1 h
  obtain ⟨piece, solid⟩ := mem_questionWords (fits.mem target rfl)
  have inside : cleaned target <:+: target := isInfix_cleaned target
  rw [String.toList_ofList]
  refine ⟨?_, fun c hc => solid c (inside.subset hc), inside.trans piece, getLast?_cleaned target,
    head?_cleaned target⟩
  intro empty
  have none := congrArg String.toList empty
  rw [String.toList_ofList] at none
  exact nonempty none

/-- Quotes around a name, and stops after it. -/
theorem parse?_target_quoted :
    parse? "Callers of 'Cart.total',?!" = some ⟨.usage, "Cart.total", .strict⟩ ∧
      "Cart.total" ≠ "" ∧ (∀ c ∈ "Cart.total".toList, Text.isBlank c = false) ∧
      "Cart.total".toList <:+: "Callers of 'Cart.total',?!".toList ∧
      (∀ c ∈ "Cart.total".toList.getLast?, isStop c = false) ∧
      ∀ c ∈ "Cart.total".toList.head?, isQuote c = false := by
  have known : parse? "Callers of 'Cart.total',?!" = some ⟨.usage, "Cart.total", .strict⟩ := by
    decide +kernel
  exact ⟨known, parse?_target known⟩

end Query

end CodeAtlas
