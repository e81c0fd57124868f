import CodeAtlas.Json.Basic
import CodeAtlas.Yaml.Resolve

/-!
# Writing YAML

Maps are written as blocks, with a value after each key or, for a map, on the lines after it. A text
is written as it is where that reads back as the text; otherwise it is put between single quotes, or
between double quotes with escapes. A text of several lines is written as a literal block.
-/

namespace CodeAtlas.Yaml

/-- Doubles are written in full from `1e-5` up to below `1e16`, and with a bare exponent
otherwise. -/
def numberLayout : Decimal.Layout := ⟨some (-4, 16), false, ".inf", ".nan"⟩

/-- Whether a character is written as it is. -/
def isPrintable (c : Char) : Bool :=
  let n := c.toNat
  n == 0x0A || (0x20 ≤ n && n ≤ 0x7E) || (0xA0 ≤ n && n ≤ 0xFFFD && n != 0xFEFF) || 0x10000 ≤ n

/-- The characters that mean something at the start of a text. -/
def leadingMarks : List Char := "#,[]\x7b\x7d&*!|>'\"%@\x60".toList

/-- Whether a mark that means something outside brackets stands in a text after its start; `before`
is the character before. -/
def holdsMark (before : Char) : List Char → Bool
  | [] => false
  | c :: cs =>
    (c == ':' && isGap ((cs.head?).getD endChar)) || (c == '#' && isGap before) || holdsMark c cs

/-- Whether a text means something of its own outside brackets. -/
def isMarked (cs : List Char) : Bool :=
  match cs with
  | [] => false
  | c :: rest =>
    ["---", "..."].any (·.toList.isPrefixOf cs) || leadingMarks.contains c ||
      ((c == '?' || c == ':' || c == '-') && isGap ((rest.head?).getD endChar)) || holdsMark c rest

/-- Whether `first` and then `second` stand next to each other in a text. -/
def holdsPair (first second : Char → Bool) (cs : List Char) : Bool :=
  (cs.zip (cs.drop 1)).any fun (a, b) => first a && second b

/-- Whether a character is a space. -/
def isBlankChar (c : Char) : Bool := c == ' '

/-- Whether a text can be written without quotes. -/
def canBePlain (cs : List Char) : Bool :=
  let ends := [cs.head?, cs.getLast?].filterMap id
  !ends.any (fun c => isBlankChar c || isBreak c) && !cs.any isBreak && cs.all isPrintable &&
    !isMarked cs

/-- Whether a text can be written between single quotes. -/
def canBeSingle (cs : List Char) : Bool :=
  !holdsPair isBreak isBlankChar cs && !holdsPair isBlankChar isBreak cs && cs.all isPrintable

/-- Whether a text can be written as a literal block. -/
def canBeLiteral (cs : List Char) : Bool :=
  cs.getLast? != some ' ' && !holdsPair isBlankChar isBreak cs && cs.all isPrintable

/-- The style in which a text is written. A plain text must not mean anything else. -/
def styleOf (cs : List Char) : Style :=
  let quoted : Style := if canBeSingle cs then .single else .double
  if cs.contains '\n' then if canBeLiteral cs then .literal else .double
  else
    match plainFound cs with
    | .text _ => if canBePlain cs && !isPadded cs then .plain else quoted
    | _ => quoted

/-- A row of hexadecimal digits of some length. -/
def hexDigits (length n : Nat) : List Char :=
  let digits := (Nat.toDigits 16 n).map Char.toUpper
  List.replicate (length - digits.length) '0' ++ digits

/-- A character between double quotes. -/
def doubleChar (c : Char) : List Char :=
  if isPrintable c && !isBreak c && c != '"' && c != '\\' then [c]
  else
    let known := [('\x00', '0'), ('\x07', 'a'), ('\x08', 'b'), ('\t', 't'), ('\n', 'n'),
      ('\x0b', 'v'), ('\x0c', 'f'), ('\r', 'r'), ('\x1b', 'e'), ('"', '"'), ('\\', '\\'),
      ('\x85', 'N'), ('\u2028', 'L'), ('\u2029', 'P')]
    '\\' :: match known.lookup c with
      | some letter => [letter]
      | none =>
        if c.toNat ≤ 0xFF then 'x' :: hexDigits 2 c.toNat
        else if c.toNat ≤ 0xFFFF then 'u' :: hexDigits 4 c.toNat
        else 'U' :: hexDigits 8 c.toNat

/-- Spaces in front of a line. -/
def indentation (column : Nat) : List Char := List.replicate column ' '

/-- A text before a single quote, whose further lines begin at a column. -/
def singleChars (column : Nat) (afterBreak : Bool) : List Char → List Char
  | [] => if afterBreak then indentation column else []
  | c :: cs =>
    (if afterBreak && !isBreak c then indentation column else []) ++
      (if c == '\'' then ['\'', '\''] else [c]) ++ singleChars column (isBreak c) cs

/-- The lines of a literal block at a column. -/
def literalChars (column : Nat) (afterBreak : Bool) : List Char → List Char
  | [] => []
  | c :: cs =>
    (if afterBreak && !isBreak c then indentation column else []) ++
      c :: literalChars column (isBreak c) cs

/-- What stands after the bar of a literal block: the indentation if the text begins with a blank,
and what becomes of its last breaks. -/
def literalHints (cs : List Char) : List Char :=
  let width := if cs.head?.any fun c => isBlankChar c || isBreak c then ['2'] else []
  width ++
    match cs.reverse with
    | last :: before :: _ =>
      if !isBreak last then ['-'] else if isBreak before then ['+'] else []
    | [last] => if isBreak last then ['+'] else ['-']
    | [] => ['-']

/-- A text whose further lines begin at a column, and the end of its last line. -/
def writeText (column : Nat) (s : String) : String :=
  let cs := s.toList
  String.ofList <|
    match styleOf cs with
    | .plain => cs ++ ['\n']
    | .single => '\'' :: singleChars column false cs ++ ['\'', '\n']
    | .literal | .folded =>
      '|' :: literalHints cs ++ '\n' :: literalChars column true cs ++
        (if cs.getLast?.any isBreak then [] else ['\n'])
    | .double => '"' :: cs.flatMap doubleChar ++ ['"', '\n']

/-- A scalar of a document, and the end of its line. -/
def writeScalar (column : Nat) : Json → String
  | .null => "null\n"
  | .bool b => if b then "true\n" else "false\n"
  | .int n => toString n ++ "\n"
  | .float x => numberLayout.write x ++ "\n"
  | .text s => writeText column s
  | .array _ => "[]\n"
  | .object _ => "\x7b\x7d\n"

/-- The lines of the entries of a map at a level. -/
def writeEntries (level : Nat) : List (String × Json) → String
  | [] => ""
  | (key, value) :: rest =>
    String.ofList (indentation (2 * level)) ++ key ++ ":" ++
      (match value with
      | .object (entry :: entries) => "\n" ++ writeEntries (level + 1) (entry :: entries)
      | other => " " ++ writeScalar (2 * level + 2) other) ++
      writeEntries level rest

/-- A document that is a map of scalars and of such maps. -/
def print : Json → String
  | .object entries => writeEntries 0 entries
  | other => writeScalar 0 other

end CodeAtlas.Yaml
