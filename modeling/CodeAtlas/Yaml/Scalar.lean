import CodeAtlas.Yaml.Mark

/-!
# Scalars

The five styles in which a text can be written, and how each is read. Lines are folded: a single
break counts as a space, and of several breaks the first does not count. In literal blocks every
break counts.
-/

namespace CodeAtlas.Yaml

/-- The style of a scalar. -/
inductive Style where
  | plain
  | single
  | double
  | literal
  | folded
deriving DecidableEq, Repr

/-! ## Gaps -/

/-- What stands between two words of a scalar. -/
structure Gap where
  /-- The blanks before the first break. -/
  blanks : List Char := []
  /-- The breaks, as they are kept. -/
  breaks : List Char := []
  /-- Whether a tab stands where a later line should be indented. -/
  tabbed : Bool := false

/-- What a gap counts as. -/
def Gap.folded (g : Gap) : List Char :=
  match g.breaks with
  | [] => g.blanks
  | ['\n'] => [' ']
  | '\n' :: more => more
  | breaks => breaks

/-- The breaks at the front with the blanks between and after them: the breaks as they are kept,
whether a tab stands before a column, and the marks after them. -/
def readBreaks (column : Nat) : List Mark → List Char × Bool × List Mark
  | [] => ([], false, [])
  | m :: ms =>
    if isSpace m.char then
      let (breaks, tabbed, rest) := readBreaks column ms
      (breaks, tabbed || (m.char == '\t' && m.column < column), rest)
    else if m.char == '\r' && front ms == '\n' then readBreaks column ms
    else if isBreak m.char then
      let (breaks, tabbed, rest) := readBreaks column ms
      (keptBreak m.char :: breaks, tabbed, rest)
    else ([], false, m :: ms)

/-- The gap at the front, and the marks after it. The lines after the first should be indented to a
column. -/
def readGap (column : Nat) (ms : List Mark) : Gap × List Mark :=
  let blanks := ms.takeWhile (isSpace ·.char)
  let (breaks, tabbed, rest) := readBreaks column (ms.drop blanks.length)
  ({ blanks := blanks.map Mark.char, breaks := breaks, tabbed := tabbed }, rest)

/-! ## Plain scalars -/

/-- Whether a character is a mark of flow collections. -/
def isFlowMark (c : Char) : Bool := c == ',' || c == '[' || c == ']' || c == '{' || c == '}'

/-- The characters of a plain scalar up to the next gap or to its end, and the marks after them.
None for a colon that must not stand in a flow collection. -/
def plainWord (inFlow : Bool) : List Mark → Option (List Char × List Mark)
  | [] => some ([], [])
  | m :: ms =>
    if isGap m.char then some ([], m :: ms)
    else if inFlow && m.char == ':' && (isFlowMark (front ms) || front ms == '?') then none
    else if (m.char == ':' && isGap (front ms)) || (inFlow && isFlowMark m.char) then
      some ([], m :: ms)
    else (plainWord inFlow ms).map fun (word, rest) => (m.char :: word, rest)

/-- A plain scalar: its text, whether a break follows it, and the marks after it. -/
def readPlain (inFlow : Bool) (column : Nat) (fuel : Nat) (lead : Gap) (ms : List Mark) :
    Option (List Char × Bool × List Mark) :=
  match fuel with
  | 0 => none
  | fuel + 1 =>
    let stop := some ([], !lead.breaks.isEmpty, ms)
    if atBoundary ms || front ms == '#' then stop
    else
      match plainWord inFlow ms with
      | none => none
      | some ([], _) => stop
      | some (word, rest) =>
        if !(isSpace (front rest) || isBreak (front rest)) then
          some (lead.folded ++ word, false, rest)
        else
          let (g, after) := readGap column rest
          if g.tabbed then none
          else if !inFlow && columnOf after < column then
            some (lead.folded ++ word, !g.breaks.isEmpty, after)
          else
            (readPlain inFlow column fuel g after).map fun (text, broken, after) =>
              (lead.folded ++ word ++ text, broken, after)

/-! ## Quoted scalars -/

/-- The value of a hexadecimal digit. -/
def hexDigit? (c : Char) : Option Nat :=
  if c.isDigit then some (c.toNat - '0'.toNat)
  else if 'a' ≤ c ∧ c ≤ 'f' then some (c.toNat - 'a'.toNat + 10)
  else if 'A' ≤ c ∧ c ≤ 'F' then some (c.toNat - 'A'.toNat + 10)
  else none

/-- The number that so many hexadecimal digits at the front give. -/
def hexNumber? (digits n : Nat) (ms : List Mark) : Option Nat :=
  match digits with
  | 0 => some n
  | digits + 1 =>
    match hexDigit? (front ms) with
    | some d => hexNumber? digits (16 * n + d) (ms.drop 1)
    | none => none

/-- What an escape of one letter stands for. -/
def escapedChar? (c : Char) : Option Char :=
  [('0', '\x00'), ('a', '\x07'), ('b', '\x08'), ('t', '\t'), ('\t', '\t'), ('n', '\n'),
    ('v', '\x0b'), ('f', '\x0c'), ('r', '\r'), ('e', '\x1b'), (' ', ' '), ('"', '"'), ('/', '/'),
    ('\\', '\\'), ('N', '\x85'), ('_', '\xa0'), ('L', '\u2028'), ('P', '\u2029')].lookup c

/-- How many hexadecimal digits follow an escape of numbers. -/
def escapeDigits? (c : Char) : Option Nat := [('x', 2), ('u', 4), ('U', 8)].lookup c

/-- The character of a number, for a number that has one. -/
def charOf? (n : Nat) : Option Char :=
  if n.isValidChar then some (Char.ofNat n) else none

/-- A quoted scalar after its opening quote: its text and the marks after the closing quote. -/
def readQuoted (single : Bool) (fuel : Nat) (ms : List Mark) :
    Option (List Char × List Mark) :=
  match fuel with
  | 0 => none
  | fuel + 1 =>
    let more (cs : List Char) (rest : List Mark) : Option (List Char × List Mark) :=
      (readQuoted single fuel rest).map fun (text, after) => (cs ++ text, after)
    let c := front ms
    if atBoundary ms || isEnd c then none
    else if isSpace c || isBreak c then
      let (g, rest) := readGap 0 ms
      more g.folded rest
    else if single then
      if c == '\'' then
        if second ms == '\'' then more ['\''] (ms.drop 2) else some ([], ms.drop 1)
      else more [c] (ms.drop 1)
    else if c == '"' then some ([], ms.drop 1)
    else if c == '\\' then
      let escape := second ms
      if isBreak escape then
        let (g, rest) := readGap 0 (afterBreak (ms.drop 1))
        more g.breaks rest
      else
        match escapedChar? escape, escapeDigits? escape with
        | some e, _ => more [e] (ms.drop 2)
        | none, some digits =>
          match (hexNumber? digits 0 (ms.drop 2)).bind charOf? with
          | some e => more [e] (ms.drop (2 + digits))
          | none => none
        | none, none => none
    else more [c] (ms.drop 1)

/-! ## Block scalars -/

/-- What becomes of the breaks at the end of a block. -/
inductive Chomping where
  | strip
  | clip
  | keep
deriving DecidableEq

/-- The chomping that a character asks for. -/
def chomping? (c : Char) : Option Chomping :=
  if c == '-' then some .strip else if c == '+' then some .keep else none

/-- The header of a block after its first character: the chomping, the indentation if it is given,
and the marks after the line of the header. -/
def readHeader (ms : List Mark) : Option (Chomping × Option Nat × List Mark) :=
  let digit? (c : Char) : Option Nat := if c.isDigit then some (c.toNat - '0'.toNat) else none
  let (chomping, width, rest) :=
    match chomping? (front ms), digit? (front ms) with
    | some chomping, _ =>
      match digit? (second ms) with
      | some width => (chomping, some width, ms.drop 2)
      | none => (chomping, none, ms.drop 1)
    | none, some width =>
      match chomping? (second ms) with
      | some chomping => (chomping, some width, ms.drop 2)
      | none => (.clip, some width, ms.drop 1)
    | none, none => (.clip, none, ms)
  if width == some 0 then none else (afterLine? rest).map (chomping, width, ·)

/-- The blank lines at the front of a block: their breaks, the greatest column that an indentation
reaches, and the marks after them. None for a tab in the indentation. -/
def blankLines (indent : Option Nat) (deepest : Nat) :
    List Mark → Option (List Char × Nat × List Mark)
  | [] => some ([], deepest, [])
  | m :: ms =>
    let inside := indent.all (m.column < ·)
    if inside && m.char == ' ' then blankLines indent deepest ms
    else
      let deepest := max deepest m.column
      if inside && m.char == '\t' then none
      else if m.char == '\r' && front ms == '\n' then blankLines indent deepest ms
      else if isBreak m.char then
        (blankLines indent deepest ms).map fun (breaks, deepest, rest) =>
          (keptBreak m.char :: breaks, deepest, rest)
      else some ([], deepest, m :: ms)

/-- The lines of a block from the indented start of one on: its text with the breaks before it, and
the marks after it. `before` is the break before the line, `blanks` the breaks of the blank lines
before it, and `spaced` says whether the line before began with a blank. -/
def readLines (literal : Bool) (chomping : Chomping) (indent fuel : Nat) (before : List Char)
    (blanks : List Char) (spaced : Bool) (ms : List Mark) : Option (List Char × List Mark) :=
  match fuel with
  | 0 => none
  | fuel + 1 =>
    if columnOf ms != indent || isEnd (front ms) then
      let tail := match chomping with
        | .strip => []
        | .clip => before
        | .keep => before ++ blanks
      some (tail, ms)
    else
      let blankStart := isSpace (front ms)
      let joint :=
        if !literal && before == ['\n'] && !spaced && !blankStart then
          (if blanks.isEmpty then [' '] else []) ++ blanks
        else before ++ blanks
      let line := ms.takeWhile (!isBreakOrEnd ·.char)
      let rest := ms.drop line.length
      let next := if isBreak (front rest) then [keptBreak (front rest)] else []
      let after := if isBreak (front rest) then afterBreak rest else rest
      match blankLines (some indent) 0 after with
      | none => none
      | some (breaks, _, start) =>
        (readLines literal chomping indent fuel next breaks blankStart start).map
          fun (text, after) => (joint ++ line.map Mark.char ++ text, after)

/-- A block scalar after its first character, in a collection that is indented to `parent` if it is
in one: its text and the marks after it. -/
def readBlock (literal : Bool) (fuel : Nat) (parent : Option Nat) (ms : List Mark) :
    Option (List Char × List Mark) :=
  match readHeader ms with
  | none => none
  | some (chomping, width, rest) =>
    let given := width.map fun w => parent.getD 0 + w
    match blankLines given 0 rest with
    | none => none
    | some (breaks, deepest, start) =>
      let least := (parent.map (· + 1)).getD 1
      let indent := given.getD (max deepest least)
      readLines literal chomping indent (fuel + 1) [] breaks false start

end CodeAtlas.Yaml
