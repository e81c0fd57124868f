import CodeAtlas.Decimal.Layout
import CodeAtlas.Json.Basic

/-!
# Writing JSON

Two forms of the same text: compact, without any blank, and pretty, with a member or item on each
line and two more spaces for each level. Members are written in the order of the value.
-/

namespace CodeAtlas.Json

/-- Doubles are written in full from `1e-5` up to below `1e16`, and with a signed exponent
otherwise. What is no number has no spelling of its own. -/
def numberLayout : Decimal.Layout := ⟨some (-4, 16), true, "null", "null"⟩

/-- A double as JSON text. -/
def writeFloat (x : Float) : String :=
  if Decimal.isNumber x then numberLayout.write x else "null"

/-- A character between the quotes: quotes, backslashes and controls are escaped. -/
def writeChar (c : Char) : List Char :=
  if c = '"' then ['\\', '"']
  else if c = '\\' then ['\\', '\\']
  else if c = '\n' then ['\\', 'n']
  else if c = '\r' then ['\\', 'r']
  else if c = '\t' then ['\\', 't']
  else if c = '\x08' then ['\\', 'b']
  else if c = '\x0c' then ['\\', 'f']
  else if c.toNat < 32 then
    let digits := Nat.toDigits 16 c.toNat
    ['\\', 'u'] ++ List.replicate (4 - digits.length) '0' ++ digits
  else [c]

/-- A text between its quotes. -/
def writeText (s : String) : String :=
  String.ofList ('"' :: s.toList.flatMap writeChar ++ ['"'])

/-- Null, a truth value, a number or a text. -/
def writeScalar : Json → String
  | .null => "null"
  | .bool b => if b then "true" else "false"
  | .int n => toString n
  | .float x => writeFloat x
  | .text s => writeText s
  | .array _ => "[]"
  | .object _ => "\x7b\x7d"

mutual

/-- The compact text of a value. -/
def compact : Json → String
  | .array items => "[" ++ compactItems "" items ++ "]"
  | .object members => "\x7b" ++ compactMembers "" members ++ "\x7d"
  | scalar => scalar.writeScalar

/-- Items, the first after `lead` and the others after a comma. -/
def compactItems (lead : String) : List Json → String
  | [] => ""
  | item :: items => lead ++ item.compact ++ compactItems "," items

/-- Members, the first after `lead` and the others after a comma. -/
def compactMembers (lead : String) : List (String × Json) → String
  | [] => ""
  | (name, value) :: rest =>
    lead ++ writeText name ++ ":" ++ value.compact ++ compactMembers "," rest

end

/-- The start of a line at a level. -/
def newLine (level : Nat) : String := "\n" ++ String.ofList (List.replicate (2 * level) ' ')

mutual

/-- The pretty text of a value that stands at a level; empty lists and objects take no lines. -/
def prettyAt (level : Nat) : Json → String
  | .array [] => "[]"
  | .array items => "[" ++ prettyItems (level + 1) "" items ++ newLine level ++ "]"
  | .object [] => "\x7b\x7d"
  | .object members =>
    "\x7b" ++ prettyMembers (level + 1) "" members ++ newLine level ++ "\x7d"
  | scalar => scalar.writeScalar

/-- Items on lines of their own, the first after `lead` and the others after a comma. -/
def prettyItems (level : Nat) (lead : String) : List Json → String
  | [] => ""
  | item :: items =>
    lead ++ newLine level ++ item.prettyAt level ++ prettyItems level "," items

/-- Members on lines of their own, the first after `lead` and the others after a comma. -/
def prettyMembers (level : Nat) (lead : String) : List (String × Json) → String
  | [] => ""
  | (name, value) :: rest =>
    lead ++ newLine level ++ writeText name ++ ": " ++ value.prettyAt level ++
      prettyMembers level "," rest

end

/-- The pretty text of a value. -/
def pretty (value : Json) : String := value.prettyAt 0

end CodeAtlas.Json
