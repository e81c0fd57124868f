import CodeAtlas.Proofs.Query.Candidates
import CodeAtlas.Query.Keywords

/-!
# Names in quotes

The name of a function at the end of a question may stand in quotes, and stops may follow. Quotes and
most stops are taken off a word from both ends, but points only after all of those. So a point after
the closing quote keeps that quote, and all stops between the two, at the word, which is then no
identifier (`candidate?_quoted`).

1. `Token.ofWord_quoted`, `Token.isEligible_quoted`: the word without a point after it, and with one.
2. `candidate?_of_last`: the candidate of a question as far as its last word goes.
-/

namespace CodeAtlas.Query

open Text (dropEndWhile trim)

/-- A word in quotes, and what stands after it. -/
def quoted (q : Char) (w stops : Word) : Word := [q] ++ w ++ ([q] ++ stops)

theorem isWrapping_of_isQuote {q : Char} (h : isQuote q = true) : isWrapping q = true := by
  rcases isQuote_iff.1 h with rfl | rfl | rfl <;> rfl

/-- All stops but the point are taken off a word with the quotes. -/
theorem isWrapping_of_isStop {c : Char} (h : isStop c = true) (off : c ≠ '.') :
    isWrapping c = true := by
  rcases isStop_iff.1 h with rfl | rfl | rfl | rfl
  · rfl
  · exact (off rfl).elim
  · rfl
  · rfl

/-! ## Words -/

namespace Token

variable {t : Token} {q : Char} {stops : Word}

/-- Quotes around an identifier do not show in its token, nor do stops after it. -/
theorem ofWord_quoted (h : Qualified t.name) (quote : isQuote q = true)
    (sentence : ∀ c ∈ stops, isStop c = true) (pointless : '.' ∉ stops) :
    ofWord (quoted q t.spelled stops) = t := by
  have opening : ∀ c ∈ [q], isWrapping c = true :=
    List.forall_mem_singleton.2 (isWrapping_of_isQuote quote)
  have closing : ∀ c ∈ stops, isWrapping c = true := fun c hc =>
    isWrapping_of_isStop (sentence c hc) fun point => pointless (point ▸ hc)
  exact ofWord_wrapped h opening (List.forall_mem_append.2 ⟨opening, closing⟩)

/-- The closing quote is left if a point stands after it. -/
theorem mem_bare_quoted (h : Qualified t.name) (quote : isQuote q = true) (point : '.' ∈ stops) :
    q ∈ bare (quoted q t.spelled stops) := by
  have begun : (quoted q t.spelled stops).dropWhile isWrapping = t.spelled ++ ([q] ++ stops) := by
    rw [quoted, List.append_assoc]
    refine Text.dropWhile_append_of_kept ?_ ?_
    · exact List.forall_mem_singleton.2 (isWrapping_of_isQuote quote)
    · rw [List.head?_append_of_ne_nil _ (spelled_ne_nil h)]
      exact head?_spelled h
  -- the point stays at the end, and all before it does
  have kept : dropEndWhile isWrapping stops ≠ [] :=
    List.ne_nil_of_mem (Text.mem_dropEndWhile point rfl)
  rw [bare, trim, begun, ← List.append_assoc, Text.dropEndWhile_append, if_neg kept]
  refine Text.mem_dropEndWhile ?_ ?_
  · exact List.mem_append_left _ (List.mem_append_right _ (List.mem_singleton_self q))
  · rcases isQuote_iff.1 quote with rfl | rfl | rfl <;> rfl

theorem isEligible_quoted (h : Qualified t.name) (quote : isQuote q = true) (point : '.' ∈ stops) :
    (ofWord (quoted q t.spelled stops)).isEligible = false := by
  rw [isEligible, isIdentifier_ofWord_eq_false (isWrapping_of_isQuote quote)
    (mem_bare_quoted h quote point)]
  rfl

theorem isWord_quoted (h : Qualified t.name) (quote : isQuote q = true)
    (sentence : ∀ c ∈ stops, isStop c = true) : Text.IsWord (quoted q t.spelled stops) := by
  have solid : Text.isBlank q = false := by
    rcases isQuote_iff.1 quote with rfl | rfl | rfl <;> rfl
  refine ⟨List.cons_ne_nil _ _, ?_⟩
  refine List.forall_mem_append.2 ⟨List.forall_mem_append.2 ⟨?_, (isWord_spelled h).2⟩,
    List.forall_mem_append.2 ⟨?_, fun c hc => ?_⟩⟩
  · exact List.forall_mem_singleton.2 solid
  · exact List.forall_mem_singleton.2 solid
  · rcases isStop_iff.1 (sentence c hc) with rfl | rfl | rfl | rfl <;> rfl

end Token

/-! ## Questions -/

/-- The candidate of a question as far as its last word goes. -/
theorem candidate?_of_last {before w after : List Char}
    (apart : ∀ c ∈ before.getLast?, Text.isBlank c = true) (isWord : Text.IsWord w)
    (blank : ∀ c ∈ after, Text.isBlank c = true) :
    candidate? (String.ofList (before ++ w ++ after)) =
      chosen? (note (wordBefore (Text.words before) (Text.words before).length)
        (best (Text.words before)) w) := by
  rw [candidate?_eq, String.toList_ofList, Text.words_append_blanks _ blank,
    Text.words_concat apart isWord, best_concat]

/-- **Names in quotes.** Let a question end with the name of a function, called or not, and put the
name in quotes and stops after it. If no point is among the stops, the candidate is that of the
question. Else it is that of the question without its last word. -/
theorem candidate?_quoted {before after stops : List Char} {t : Token} {q : Char}
    (apart : ∀ c ∈ before.getLast?, Text.isBlank c = true) (eligible : t.isEligible = true)
    (blank : ∀ c ∈ after, Text.isBlank c = true) (quote : isQuote q = true)
    (sentence : ∀ c ∈ stops, isStop c = true) :
    candidate? (String.ofList (before ++ quoted q t.spelled stops ++ after)) =
      if '.' ∈ stops then candidate? (String.ofList before)
      else candidate? (String.ofList (before ++ t.spelled ++ after)) := by
  have qualified : Qualified t.name := by
    rw [Token.isEligible, Bool.and_eq_true] at eligible
    exact isIdentifier_iff.1 eligible.1
  rw [candidate?_of_last apart (Token.isWord_quoted qualified quote sentence) blank]
  split
  case isTrue point =>
    rw [note_of_ineligible (Token.isEligible_quoted qualified quote point), candidate?_eq,
      String.toList_ofList]
  case isFalse pointless =>
    rw [candidate?_of_last apart (Token.isWord_spelled qualified) blank, note, note,
      Token.ofWord_quoted qualified quote sentence pointless, Token.ofWord_spelled qualified]

/-- A name in quotes at the end of an exclamation, and the name before it once a point follows. -/
theorem candidate?_quoted_call :
    (∀ c ∈ "does fooBar call ".toList.getLast?, Text.isBlank c = true) ∧
      (⟨"baz".toList, true⟩ : Token).isEligible = true ∧ isQuote '\x60' = true ∧
      (∀ c ∈ "?!".toList, isStop c = true) ∧ (∀ c ∈ "?.!".toList, isStop c = true) ∧
      candidate? "does fooBar call \x60baz()\x60?!" = some "baz" ∧
      candidate? "does fooBar call \x60baz()\x60?.!" = some "fooBar" := by
  have apart : ∀ c ∈ "does fooBar call ".toList.getLast?, Text.isBlank c = true := by
    rintro c ⟨⟩
    rfl
  have eligible : (⟨"baz".toList, true⟩ : Token).isEligible = true := by decide +kernel
  have quote : isQuote '\x60' = true := by decide
  have pointless : ∀ c ∈ "?!".toList, isStop c = true := List.all_eq_true.1 (by decide)
  have pointed : ∀ c ∈ "?.!".toList, isStop c = true := List.all_eq_true.1 (by decide)
  refine ⟨apart, eligible, quote, pointless, pointed, ?_, ?_⟩
  · refine (candidate?_quoted apart eligible (List.forall_mem_nil _) quote pointless).trans ?_
    decide +kernel
  · refine (candidate?_quoted apart eligible (List.forall_mem_nil _) quote pointed).trans ?_
    decide +kernel

/-- A point after the closing quote hides the name, and the question is about nothing. -/
theorem not_kept_pointed :
    (⟨"parse".toList, false⟩ : Token).isEligible = true ∧
      "blast radius of \"parse\".".toList =
        "blast radius of ".toList ++ quoted '"' "parse".toList ['.'] ∧
      candidate? "blast radius of parse" = some "parse" ∧
      candidate? "blast radius of \"parse\"." = none ∧
      plan "blast radius of parse" = ⟨.reach, some "parse"⟩ ∧
      plan "blast radius of \"parse\"." = ⟨.unknown, none⟩ := by
  decide +kernel

end CodeAtlas.Query
