import CodeAtlas.Query.Phrase
import CodeAtlas.Text.Alphabetic
import CodeAtlas.Text.Lowercase
import CodeAtlas.Text.Numeric
import CodeAtlas.Text.Uppercase

/-!
# The function a question names

Of the words of a question that could be the name of a function, the one that looks most like one is
taken: a word with call parentheses, then one after a word such as `function`, then one with an
inner mark of a name, then one after a word such as `of`. Of equals the first is taken.
-/

namespace CodeAtlas.Query

/-- Words that introduce the name of a function. -/
def introducers : List String := ["function", "method", "fn", "func"]

/-- Words that may introduce the name of a function. -/
def weakIntroducers : List String :=
  ["of", "for", "change", "changing", "modify", "modifying", "is"]

/-- Words that are never the name of a function. -/
def stopWords : List String := [
  "a", "an", "the", "i", "if", "is", "it", "of", "for", "to", "in", "on", "what", "where",
  "who", "which", "how", "function", "method", "file", "files", "functions", "this", "that",
  "me", "my", "do", "does", "would", "will", "be", "are", "and", "or"]

/-- Whether the small form of a word is one of a list of words. -/
def isAmong (words : List String) (word : Word) : Bool :=
  words.any fun w => w.toList == Text.lower word

/-- Whether a character is dropped from both ends of a word. -/
def isWrapping (c : Char) : Bool :=
  c == '"' || c == '\'' || c == '\x60' || c == '?' || c == '!' || c == ',' || c == ';'

/-- Whether a character can begin a name. -/
def beginsName (c : Char) : Bool := Text.isAlphabetic c || c == '_' || c == '$'

/-- Whether a character can stand in a name. -/
def continuesName (c : Char) : Bool :=
  Text.isAlphabetic c || Text.isNumeric c || c == '_' || c == '$'

/-- A text cut at each `::` and at each point. -/
def segments : List Char → List (List Char)
  | [] => [[]]
  | ':' :: ':' :: cs => [] :: segments cs
  | c :: cs =>
    if c = '.' then [] :: segments cs
    else
      match segments cs with
      | [] => [[c]]
      | front :: others => (c :: front) :: others

/-- Whether a text is a name. -/
def isName : List Char → Bool
  | [] => false
  | c :: cs => beginsName c && cs.all continuesName

/-- Whether a word is a name, or several with `::` or points between them. -/
def isIdentifier (word : Word) : Bool := (segments word).all isName

/-- Whether a capital letter stands somewhere after a small one. -/
def isCamelCase (word : Word) : Bool :=
  (word.dropWhile (!Text.isLowercase ·)).any Text.isUppercase

/-- A word of a question as it may name a function. -/
structure Token where
  name : Word
  /-- Whether call parentheses follow the name. -/
  called : Bool
deriving DecidableEq, Repr

namespace Token

/-- The token of a word: without what wraps it, then the points at its end, then the call
parentheses. -/
def ofWord (word : Word) : Token :=
  let bare := Text.dropEndWhile (· == '.') (Text.trim isWrapping word)
  if ['(', ')'].isSuffixOf bare then ⟨bare.take (bare.length - 2), true⟩ else ⟨bare, false⟩

/-- Whether the token can name a function. -/
def isEligible (t : Token) : Bool := isIdentifier t.name && !isAmong stopWords t.name

/-- How much a token after a word looks like the name of a function. -/
def score (previous : Word) (t : Token) : Nat :=
  if t.called then 4
  else if isAmong introducers previous then 3
  else if t.name.contains '_' || isCamelCase t.name || Text.holds [':', ':'] t.name then 2
  else if isAmong weakIntroducers previous then 1
  else 0

end Token

/-- The eligible tokens of a list of words with their scores, in order. -/
def scored (previous : Word) : List Word → List (Nat × Word)
  | [] => []
  | word :: rest =>
    let token := Token.ofWord word
    if token.isEligible then (token.score previous, token.name) :: scored word rest
    else scored word rest

/-- The better of the best so far and another: the other only if its score is higher. -/
def better (best : Nat × Word) (next : Nat × Word) : Nat × Word :=
  if best.1 < next.1 then next else best

/-- The name of a function in a question: the first of the eligible words with the highest score, if
a word has a score at all. -/
def candidate? (question : String) : Option String :=
  let (score, name) := (scored [] (Text.words question.toList)).foldl better (0, [])
  if score = 0 then none else some (String.ofList name)

end CodeAtlas.Query
