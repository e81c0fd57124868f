import CodeAtlas.Query.Intent
import CodeAtlas.Query.Phrase

/-!
# The grammar of questions

A table of forms, each with its intent. The first form that fits the text of a question decides, so
"what does a.ts import" is about dependencies although it also begins like a request to explain.
Sentence punctuation at the end of a question does not count, nor do quotes and punctuation around
the target; a form whose target would be nothing else does not fit.
-/

namespace CodeAtlas.Query

open Phrase

/-- A form of question. -/
structure Form where
  intent : Intent
  phrase : Phrase
  confidence : Confidence

/-- A phrase and the blanks after it. -/
def spaced (p : Phrase) : Phrase := both p gap

/-- The openings of requests for a list. -/
def listOpening : Phrase :=
  maybe <| any [
    all [word "what", gap, word "are", gap, maybe (spaced (word "the"))],
    all [word "show", gap, maybe (spaced (word "me")), maybe (spaced (word "the"))],
    all [word "list", gap, maybe (spaced (word "the"))]]

/-- The openings of requests for a history. -/
def historyOpening : Phrase :=
  maybe <| any [
    all [word "show", gap, maybe (spaced (word "me")), maybe (spaced (word "the"))],
    all [word "what", gap, word "is", gap, word "the", gap],
    all [word "what's", gap, word "the", gap]]

/-- The openings of requests for the places where a function is used. -/
def usageOpening : Phrase :=
  maybe <| any [all [word "show", gap, maybe (spaced (word "me"))], spaced (word "find")]

/-- The openings of requests to explain. -/
def explainOpening : Phrase :=
  any [
    all [word "tell", gap, word "me", gap, word "about"],
    all [word "what", gap, word "is"],
    all [word "what", gap, word "does"]]

/-- The names of dependencies. -/
def dependencyNouns : Phrase := oneOf ["dependencies", "deps", "imports"]

/-- The forms, in the order in which they are tried. -/
def forms : List Form := [
  ⟨.dependencies,
    all [listOpening, dependencyNouns, gap, oneOf ["of", "for", "in"], gap, target], .strict⟩,
  ⟨.dependencies,
    all [word "what", gap, word "does", gap, target, gap,
      any [word "import", all [word "depend", gap, word "on"]]],
    .strict⟩,
  ⟨.dependencies, all [target, gap, dependencyNouns], .loose⟩,
  ⟨.usage, all [word "who", gap, oneOf ["calls", "uses"], gap, target], .strict⟩,
  ⟨.usage, all [word "where", gap, word "is", gap, target, gap, oneOf ["used", "called"]], .strict⟩,
  ⟨.usage,
    all [usageOpening, oneOf ["callers", "usages", "uses"], gap, word "of", gap, target], .strict⟩,
  ⟨.usage, all [oneOf ["usages", "usage", "callers"], gap, target], .loose⟩,
  ⟨.history,
    all [historyOpening, oneOf ["history", "changes", "commits"], gap,
      oneOf ["of", "for", "to", "on"], gap, target],
    .strict⟩,
  ⟨.history,
    all [word "who", gap, oneOf ["changed", "modified", "touched", "edited"], gap, target],
    .strict⟩,
  ⟨.history,
    all [word "when", gap, word "was", gap, target, gap, maybe (spaced (word "last")),
      oneOf ["changed", "modified", "touched"]],
    .strict⟩,
  ⟨.risks,
    all [listOpening, oneOf ["risks", "issues", "vulnerabilities", "problems"], gap,
      oneOf ["in", "of", "for", "with"], gap, target],
    .strict⟩,
  ⟨.risks, all [word "is", gap, target, gap, oneOf ["risky", "safe", "dangerous"]], .strict⟩,
  ⟨.risks, all [target, gap, word "risks"], .loose⟩,
  ⟨.explain,
    all [oneOf ["explain", "describe", "summarize", "summarise"], gap, target], .strict⟩,
  ⟨.explain, all [explainOpening, gap, target, maybe (all [gap, word "do"])], .loose⟩]

/-- Whether a character ends sentences. -/
def isStop (c : Char) : Bool := c == '?' || c == '.' || c == '!' || c == ','

/-- Whether a character quotes. -/
def isQuote (c : Char) : Bool := c == '"' || c == '\'' || c == '\x60'

theorem isStop_iff {c : Char} : isStop c = true ↔ c = '?' ∨ c = '.' ∨ c = '!' ∨ c = ',' := by
  simp only [isStop, Bool.or_eq_true, beq_iff_eq, or_assoc]

theorem isQuote_iff {c : Char} : isQuote c = true ↔ c = '"' ∨ c = '\'' ∨ c = '\x60' := by
  simp only [isQuote, Bool.or_eq_true, beq_iff_eq, or_assoc]

/-- A target without the stops after it, then the quotes around it, then the stops before the
closing quotes. -/
def cleaned (word : Word) : Word :=
  Text.dropEndWhile isStop (Text.trim isQuote (Text.dropEndWhile isStop word))

/-- The text of a question: without the blanks around it, then the stops at its end, then the blanks
before those. -/
def spoken (question : List Char) : List Char :=
  Text.dropEndWhile Text.isBlank
    (Text.dropEndWhile isStop (Text.trim Text.isBlank question))

/-- The request of a text that has a form, if its target is more than quotes and stops. -/
def Form.request? (form : Form) (text : List Char) : Option Request :=
  match (form.phrase.target? text).map cleaned with
  | none | some [] => none
  | some found => some ⟨form.intent, String.ofList found, form.confidence⟩

/-- The request of a question: the one of the first form that fits. -/
def parse? (question : String) : Option Request :=
  let text := spoken question.toList
  if text.isEmpty then none else forms.findSome? (·.request? text)

end CodeAtlas.Query
