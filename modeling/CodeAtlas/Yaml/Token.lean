import CodeAtlas.Yaml.Tag

/-!
# Tokens

A text is cut into tokens from left to right. Collections without brackets are told by their
indentation, and get tokens for their starts and ends. Whether a scalar is a key is known only when
the colon after it is met, so the tokens that make it a key are put in front of it then; a token
that may still turn out to be a key is not delivered before that is settled. When a text breaks, the
tokens delivered before the step that fails are what it gives.
-/

namespace CodeAtlas.Yaml

/-- A token. -/
inductive Token where
  | streamEnd
  | versionDirective (major minor : Nat)
  | tagDirective (handle lead : List Char)
  | documentStart
  | documentEnd
  | blockSequenceStart
  | blockMappingStart
  | blockEnd
  | flowSequenceStart
  | flowSequenceEnd
  | flowMappingStart
  | flowMappingEnd
  | blockEntry
  | flowEntry
  | key
  | value
  | alias (name : List Char)
  | anchor (name : List Char)
  | tag (handle suffix : List Char)
  | scalar (text : List Char) (style : Style)
deriving DecidableEq, Repr

/-- A token that may turn out to begin a key. -/
structure PossibleKey where
  /-- Whether only a key can stand here. -/
  required : Bool
  /-- The number of the token. -/
  number : Nat
  mark : Mark

/-- The state of cutting a text into tokens. -/
structure Scanner where
  rest : List Mark
  /-- The number of the marks of the text. -/
  size : Nat
  /-- The tokens, the latest first. -/
  tokens : List Token := []
  /-- The number of tokens. -/
  count : Nat := 0
  /-- The columns of the open collections without brackets, the innermost first. -/
  indents : List Nat := []
  /-- The possible key at each level of brackets, the innermost first. -/
  keys : List (Option PossibleKey) := [none]
  /-- Whether a key may begin here. -/
  keyAllowed : Bool := true
  /-- Whether the text goes on after the marks, but cannot be read there. -/
  isCut : Bool := false

namespace Scanner

/-- Whether the scanner is inside brackets. -/
def inFlow (s : Scanner) : Bool := s.keys.length != 1

/-- The column of the innermost collection without brackets. -/
def indent? (s : Scanner) : Option Nat := s.indents.head?

/-- The least column of what belongs to the innermost collection. -/
def innerColumn (s : Scanner) : Nat := (s.indent?.map (· + 1)).getD 0

/-- The scanner with one more token. -/
def push (s : Scanner) (token : Token) : Scanner :=
  { s with tokens := token :: s.tokens, count := s.count + 1 }

/-- The scanner with one more token, in front of the token of a number. -/
def insert (s : Scanner) (number : Nat) (token : Token) : Scanner :=
  { s with tokens := s.tokens.insertIdx (s.count - number) token, count := s.count + 1 }

/-- The scanner past some marks. -/
def goTo (s : Scanner) (rest : List Mark) : Scanner := { s with rest := rest }

/-- Whether so many more characters can be read, or the text ends before them. -/
def canRead (s : Scanner) (characters : Nat) : Bool := !s.isCut || characters < s.rest.length

/-- Whether a key that began at a mark can no longer be one: it must end in its line and within 1024
bytes. -/
def isStale (now key : Mark) : Bool := key.line < now.line || key.index + 1024 < now.index

/-- The possible keys without those that are stale; none if a required one is. -/
def withoutStale (now : Mark) : List (Option PossibleKey) → Option (List (Option PossibleKey))
  | [] => some []
  | none :: keys => (withoutStale now keys).map (none :: ·)
  | some key :: keys =>
    if isStale now key.mark then
      if key.required then none else (withoutStale now keys).map (none :: ·)
    else (withoutStale now keys).map (some key :: ·)

/-- Drops the keys that are stale. -/
def dropStale (s : Scanner) : Option Scanner :=
  match s.rest with
  | [] => some s
  | now :: _ => (withoutStale now s.keys).map fun keys => { s with keys := keys }

/-- Gives up the possible key of the innermost level; a required one cannot be given up. -/
def dropKey (s : Scanner) : Option Scanner :=
  match s.keys with
  | some key :: outer => if key.required then none else some { s with keys := none :: outer }
  | _ => some s

/-- Notes that the next token may begin a key. -/
def saveKey (s : Scanner) : Option Scanner :=
  if s.keyAllowed then
    match s.rest with
    | [] => some s
    | mark :: _ =>
      let key : PossibleKey :=
        ⟨!s.inFlow && s.indent? == some mark.column, s.count, mark⟩
      s.dropKey.map fun s => { s with keys := some key :: s.keys.drop 1 }
  else some s

/-- Closes the collections without brackets that are indented beyond a column; all of them where no
column is given. -/
def unroll (s : Scanner) (column : Option Nat) : Scanner :=
  if s.inFlow then s
  else
    let closed := s.indents.takeWhile fun indent => column.all (· < indent)
    { closed.foldl (fun s _ => s.push .blockEnd) s with indents := s.indents.drop closed.length }

/-- Opens a collection without brackets at a column that is indented beyond the others, with its
token in front of the token of a number. -/
def roll (s : Scanner) (column number : Nat) (token : Token) : Scanner :=
  if !s.inFlow && s.indent?.all (· < column) then
    { s.insert number token with indents := column :: s.indents }
  else s

/-- Passes over blanks, comments and breaks to the next token. A break outside brackets allows a
key, and a tab is a blank only where no key may begin. A byte order mark at the start of the text
is a blank. -/
def toToken (inFlow keyAllowed comment : Bool) : List Mark → List Mark × Bool
  | [] => ([], keyAllowed)
  | m :: ms =>
    if isBreak m.char then toToken inFlow (keyAllowed || !inFlow) false ms
    else if isEnd m.char then (m :: ms, keyAllowed)
    else if comment || m.char == '#' then toToken inFlow keyAllowed true ms
    else if m.char == ' ' || (m.char == '\t' && (inFlow || !keyAllowed)) ||
        (m.char == '\uFEFF' && m.index == 0) then
      toToken inFlow keyAllowed false ms
    else (m :: ms, keyAllowed)

/-! ## Single tokens -/

/-- Pushes a token that takes some characters. -/
def take (s : Scanner) (characters : Nat) (token : Token) : Scanner :=
  (s.goTo (s.rest.drop characters)).push token

/-- The token of a line that parts documents. -/
def boundary (s : Scanner) (token : Token) : Option Scanner :=
  (s.unroll none).dropKey.map fun s => { s.take 3 token with keyAllowed := false }

/-- The token of an opening bracket. -/
def openBracket (s : Scanner) (token : Token) : Option Scanner :=
  s.saveKey.map fun s => { s.take 1 token with keys := none :: s.keys, keyAllowed := true }

/-- The token of a closing bracket. -/
def closeBracket (s : Scanner) (token : Token) : Option Scanner :=
  s.dropKey.map fun s =>
    { s.take 1 token with
      keys := if s.inFlow then s.keys.drop 1 else s.keys
      keyAllowed := false }

/-- The token of a comma. -/
def comma (s : Scanner) : Option Scanner :=
  s.dropKey.map fun s => { s.take 1 .flowEntry with keyAllowed := true }

/-- The token of a dash before an item. -/
def dash (s : Scanner) : Option Scanner :=
  if !s.inFlow && !s.keyAllowed then none
  else
    (s.roll (columnOf s.rest) s.count .blockSequenceStart).dropKey.map fun s =>
      { s.take 1 .blockEntry with keyAllowed := true }

/-- The token of a question mark before a key. -/
def question (s : Scanner) : Option Scanner :=
  if !s.inFlow && !s.keyAllowed then none
  else
    (s.roll (columnOf s.rest) s.count .blockMappingStart).dropKey.map fun s =>
      { s.take 1 .key with keyAllowed := !s.inFlow }

/-- The token of a colon before a value. If a possible key stands before it, that is a key. -/
def colon (s : Scanner) : Option Scanner :=
  match s.keys with
  | some key :: outer =>
    let keyed := { s.insert key.number .key with keys := none :: outer }
    some { (keyed.roll key.mark.column key.number .blockMappingStart).take 1 .value with
      keyAllowed := false }
  | _ =>
    if !s.inFlow && !s.keyAllowed then none
    else
      some { (s.roll (columnOf s.rest) s.count .blockMappingStart).take 1 .value with
        keyAllowed := !s.inFlow }

/-- The token of an anchor or an alias. -/
def named (s : Scanner) (token : List Char → Token) : Option Scanner :=
  match s.saveKey with
  | none => none
  | some s =>
    let name := (s.rest.drop 1).takeWhile (isNameChar ·.char)
    let next := front (s.rest.drop (1 + name.length))
    if name.isEmpty || !(isGap next || "?:,]\x7d%@\x60".toList.contains next) then none
    else
      some { s.take (1 + name.length) (token (name.map Mark.char)) with keyAllowed := false }

/-- The token of a tag. -/
def tagToken (s : Scanner) : Option Scanner :=
  match s.saveKey with
  | none => none
  | some s =>
    match readTag s.rest with
    | none => none
    | some (handle, suffix, rest) =>
      if isGap (front rest) || (s.inFlow && front rest == ',') then
        some { (s.goTo rest).push (.tag handle suffix) with keyAllowed := false }
      else none

/-- The token of a block scalar. -/
def blockScalar (s : Scanner) (style : Style) : Option Scanner :=
  match s.dropKey with
  | none => none
  | some s =>
    (readBlock (style == .literal) s.size s.indent? (s.rest.drop 1)).map fun (text, rest) =>
      { (s.goTo rest).push (.scalar text style) with keyAllowed := true }

/-- The token of a quoted scalar. -/
def quotedScalar (s : Scanner) (style : Style) : Option Scanner :=
  match s.saveKey with
  | none => none
  | some s =>
    (readQuoted (style == .single) s.size (s.rest.drop 1)).map fun (text, rest) =>
      { (s.goTo rest).push (.scalar text style) with keyAllowed := false }

/-- The token of a plain scalar. -/
def plainScalar (s : Scanner) : Option Scanner :=
  match s.saveKey with
  | none => none
  | some s =>
    (readPlain s.inFlow s.innerColumn (s.size + 1) {} s.rest).map
      fun (text, broken, rest) =>
        { (s.goTo rest).push (.scalar text .plain) with keyAllowed := broken }

/-- A number of at most nine digits at the front, and the marks after it. -/
def readNumber (ms : List Mark) : Option (Nat × List Mark) :=
  let digits := (ms.takeWhile (·.char.isDigit)).map Mark.char
  if digits.isEmpty || 9 < digits.length then none
  else
    some (digits.foldl (fun n c => 10 * n + (c.toNat - '0'.toNat)) 0, ms.drop digits.length)

/-- The directive at the front that says for which version a document is written. -/
def readVersion (ms : List Mark) : Option (Token × List Mark) :=
  (readNumber (ms.dropWhile (isSpace ·.char))).bind fun (major, rest) =>
    if front rest == '.' then
      (readNumber (rest.drop 1)).map fun (minor, rest) => (.versionDirective major minor, rest)
    else none

/-- The directive at the front that says what a handle stands for. -/
def readHandleMeaning (ms : List Mark) : Option (Token × List Mark) :=
  let start := ms.dropWhile (isSpace ·.char)
  let (handle, rest) := readHandle start
  if front start == '!' && (handle == ['!'] || isClosed handle) && isSpace (front rest) then
    (readSuffix true (rest.dropWhile (isSpace ·.char))).bind fun (lead, rest) =>
      if isGap (front rest) then some (.tagDirective handle (upToNull lead), rest) else none
  else none

/-- The directive at the front after its percent sign. -/
def readDirective (ms : List Mark) : Option (Token × List Mark) :=
  let name := (ms.takeWhile (isNameChar ·.char)).map Mark.char
  let rest := ms.drop name.length
  if !isGap (front rest) then none
  else if name == "YAML".toList then readVersion rest
  else if name == "TAG".toList then readHandleMeaning rest
  else none

/-- The token of a directive. -/
def directive (s : Scanner) : Option Scanner :=
  match (s.unroll none).dropKey with
  | none => none
  | some s =>
    (readDirective (s.rest.drop 1)).bind fun (token, rest) =>
      (afterLine? rest).map fun rest => { (s.goTo rest).push token with keyAllowed := false }

/-! ## The tokens of a text -/

/-- Whether a character can begin a plain scalar before another one. -/
def beginsPlain (inFlow : Bool) (c next : Char) : Bool :=
  !(isGap c || "-?:,[]\x7b\x7d#&*!|>'\"%@\x60".toList.contains c) ||
  (c == '-' && !isSpace next) ||
  (!inFlow && (c == '?' || c == ':') && !isGap next)

/-- The scanner after the next token, which is not the end of the text. -/
def token (s : Scanner) : Option Scanner :=
  let c := front s.rest
  let next := second s.rest
  if columnOf s.rest == 0 && c == '%' then s.directive
  else if isBoundary '-' s.rest then s.boundary .documentStart
  else if isBoundary '.' s.rest then s.boundary .documentEnd
  else if c == '[' then s.openBracket .flowSequenceStart
  else if c == '{' then s.openBracket .flowMappingStart
  else if c == ']' then s.closeBracket .flowSequenceEnd
  else if c == '}' then s.closeBracket .flowMappingEnd
  else if c == ',' then s.comma
  else if c == '-' && isGap next then s.dash
  else if c == '?' && (s.inFlow || isGap next) then s.question
  else if c == ':' && (s.inFlow || isGap next) then s.colon
  else if c == '*' then s.named .alias
  else if c == '&' then s.named .anchor
  else if c == '!' then s.tagToken
  else if c == '|' && !s.inFlow then s.blockScalar .literal
  else if c == '>' && !s.inFlow then s.blockScalar .folded
  else if c == '\'' then s.quotedScalar .single
  else if c == '"' then s.quotedScalar .double
  else if beginsPlain s.inFlow c next then s.plainScalar
  else none

/-- The scanner at the start of the next token, with the collections closed that end before it. -/
def ready (s : Scanner) : Option Scanner :=
  let (rest, keyAllowed) := toToken s.inFlow s.keyAllowed false s.rest
  let moved : Scanner := { s with rest := rest, keyAllowed := keyAllowed }
  moved.dropStale.map fun s => s.unroll (some (columnOf s.rest))

/-- The scanner after the end of the text, which ends the last line. -/
def finish (s : Scanner) : Option Scanner :=
  let ended := s.rest.map fun m =>
    if m.column = 0 then m else { m with line := m.line + 1, column := 0 }
  ((s.goTo ended).unroll none).dropKey.map (·.push .streamEnd)

/-- The scanner after the next token, with the keys dropped that are stale then. A token is told by
its first four characters. -/
def step (s : Scanner) : Option Scanner :=
  s.ready.bind fun start =>
    if start.canRead 4 then
      (if isEnd (front start.rest) then start.finish else start.token).bind fun next =>
        if next.canRead 1 then next.dropStale else none
    else none

/-- The tokens that do not wait for a possible key to be settled. -/
def delivered (s : Scanner) : List Token :=
  let waiting := s.keys.filterMap fun key => key.map PossibleKey.number
  s.tokens.reverse.take (waiting.foldl min s.count)

/-- Whether the end of the text is among the tokens. -/
def isDone (s : Scanner) : Bool := s.tokens.head? == some .streamEnd

/-- The tokens of the text from a state on, up to its end or the first step that fails. -/
def run (fuel : Nat) (s : Scanner) : List Token :=
  match fuel with
  | 0 => s.delivered
  | fuel + 1 =>
    match s.step with
    | none => s.delivered
    | some next => if next.isDone then next.delivered else run fuel next

end Scanner

/-- The tokens of the characters of a text, up to the place where it breaks if it does. Every token
but the last takes characters, so there are no more of them than marks. -/
def tokensOf (chars : List Char) : List Token :=
  let ms := marks (readable chars)
  Scanner.run ms.length { rest := ms, size := ms.length, isCut := !chars.all isAllowed }

/-- The tokens of a text, up to the place where it breaks if it does. -/
def tokens (text : String) : List Token := tokensOf text.toList

end CodeAtlas.Yaml
