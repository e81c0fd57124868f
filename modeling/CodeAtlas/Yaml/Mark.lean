/-!
# Characters and their places

A text is read as a list of characters that know their line and column, and how many bytes stand
before them. A last mark, whose character is the null character, stands for the end; no valid text
holds that character. A text that is not valid can still be read up to some place before the first
character that must not stand in it.
-/

namespace CodeAtlas.Yaml

/-- A character and its place. -/
structure Mark where
  char : Char
  line : Nat
  column : Nat
  /-- The number of bytes before it. -/
  index : Nat
deriving DecidableEq, Repr

/-- The character of the mark that ends a text. -/
def endChar : Char := '\x00'

/-- Whether a character ends a line. -/
def isBreak (c : Char) : Bool :=
  c == '\n' || c == '\r' || c == '\x85' || c == '\u2028' || c == '\u2029'

/-- Whether a character is a space or a tab. -/
def isSpace (c : Char) : Bool := c == ' ' || c == '\t'

/-- Whether a character may stand in a text. -/
def isAllowed (c : Char) : Bool :=
  let n := c.toNat
  n == 0x09 || n == 0x0A || n == 0x0D || (0x20 ≤ n && n ≤ 0x7E) || n == 0x85 ||
  (0xA0 ≤ n && n ≤ 0xFFFD) || 0x10000 ≤ n

/-- The number of bytes of a stretch. -/
def stretchSize : Nat := 16384

/-- The part of a text that can be read. A text is taken in stretches of as many whole characters as
fit, and a stretch with a character that must not stand in a text gives nothing. `stretch` holds the
characters of the current stretch, the latest first, and `size` is the number of their bytes. -/
def readableFrom (size : Nat) (stretch : List Char) : List Char → List Char
  | [] => stretch.reverse
  | c :: cs =>
    if size + c.utf8Size ≤ stretchSize then
      if isAllowed c then readableFrom (size + c.utf8Size) (c :: stretch) cs else []
    else stretch.reverse ++ if isAllowed c then readableFrom c.utf8Size [c] cs else []

/-- The part of a text that can be read: all of it if every character may stand in a text. -/
def readable (text : List Char) : List Char := readableFrom 0 [] text

/-- The marks of a text from a place on. A return and a line feed after it end one line, at one
place. -/
def marksFrom (line column index : Nat) : List Char → List Mark
  | [] => [⟨endChar, line, column, index⟩]
  | c :: cs =>
    let here : Mark := ⟨c, line, column, index⟩
    let after := index + c.utf8Size
    if c == '\r' && cs.head? == some '\n' then here :: marksFrom line column after cs
    else if isBreak c then here :: marksFrom (line + 1) 0 after cs
    else here :: marksFrom line (column + 1) after cs

/-- The marks of a text. -/
def marks (text : List Char) : List Mark := marksFrom 0 0 0 text

/-- The first character that is left, or the one that ends a text. -/
def front : List Mark → Char
  | [] => endChar
  | m :: _ => m.char

/-- The second character that is left. -/
def second (ms : List Mark) : Char := front (ms.drop 1)

/-- The column of the first character that is left. -/
def columnOf : List Mark → Nat
  | [] => 0
  | m :: _ => m.column

/-- Whether a character is the end of a text. -/
def isEnd (c : Char) : Bool := c == endChar

/-- Whether a character ends a line or the text. -/
def isBreakOrEnd (c : Char) : Bool := isBreak c || isEnd c

/-- Whether a character parts words: a space, a tab, or the end of a line or of the text. -/
def isGap (c : Char) : Bool := isSpace c || isBreakOrEnd c

/-- The marks after the break at the front. -/
def afterBreak : List Mark → List Mark
  | m :: n :: ms => if m.char == '\r' && n.char == '\n' then ms else n :: ms
  | ms => ms.drop 1

/-- The marks after a line of which only blanks and a comment may be left; none for anything
else. -/
def afterLine? (ms : List Mark) : Option (List Mark) :=
  let blank := ms.dropWhile (isSpace ·.char)
  let rest := if front blank == '#' then blank.dropWhile (!isBreakOrEnd ·.char) else blank
  if isBreak (front rest) then some (afterBreak rest)
  else if isEnd (front rest) then some rest
  else none

/-- How the break at the front is kept in a text: as a line feed unless it parts paragraphs or lines
in its own right. -/
def keptBreak (c : Char) : Char := if c == '\u2028' || c == '\u2029' then c else '\n'

/-- Whether a line that parts documents begins here with three times a character. -/
def isBoundary (c : Char) : List Mark → Bool
  | a :: b :: d :: rest =>
    a.column == 0 && a.char == c && b.char == c && d.char == c && isGap (front rest)
  | _ => false

/-- Whether a line that starts or ends a document begins here. -/
def atBoundary (ms : List Mark) : Bool := isBoundary '-' ms || isBoundary '.' ms

end CodeAtlas.Yaml
