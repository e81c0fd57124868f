import CodeAtlas.Decimal.Binary64
import CodeAtlas.Mismatch
import CodeAtlas.Yaml.Outline

/-!
# What scalars mean

A plain scalar without a tag, or with a local tag, which begins with an exclamation mark, may mean
null, a truth value, an integer or a double, and is a text otherwise. Digits after a leading zero
are a text. Every other scalar is a text, unless its tag forces a meaning on it.
-/

namespace CodeAtlas.Yaml

/-- Whether a text means null. -/
def meansNull (cs : List Char) : Bool :=
  ["null", "Null", "NULL", "~"].any (·.toList == cs)

/-- The truth value that a text means. -/
def boolOf? (cs : List Char) : Option Bool :=
  if ["true", "True", "TRUE"].any (·.toList == cs) then some true
  else if ["false", "False", "FALSE"].any (·.toList == cs) then some false
  else none

/-- A text without one of the prefixes, for a text that begins with one. -/
def without? (lead : String) (cs : List Char) : Option (List Char) :=
  if lead.toList.isPrefixOf cs then some (cs.drop lead.length) else none

/-- Whether a text is digits after a leading zero, with a sign or without. -/
def isPadded (cs : List Char) : Bool :=
  let bare := match cs with
    | '-' :: rest | '+' :: rest => rest
    | other => other
  match bare with
  | '0' :: d :: ds => (d :: ds).all Char.isDigit
  | _ => false

/-- The number of a row of digits in a base; none for no digits. -/
def natOf? (base : Nat) (cs : List Char) : Option Nat :=
  if cs.isEmpty then none
  else
    cs.foldl
      (fun n c => do
        let n ← n
        let d ← hexDigit? c
        if d < base then some (n * base + d) else none)
      (some 0)

/-- The bases of integers beside ten, by what stands before the digits. -/
def bases : List (String × Nat) := [("0x", 16), ("0o", 8), ("0b", 2)]

/-- The first number that a text gives in one of the bases beside ten, each after `lead`. -/
def basedOf? (lead : String) (limit : Nat) (cs : List Char) : Option Nat :=
  bases.findSome? fun (mark, base) =>
    ((without? (lead ++ mark) cs).bind (natOf? base)).filter (· ≤ limit)

/-- The integer from zero up to `limit` that a text means. -/
def natUpTo? (limit : Nat) (cs : List Char) : Option Nat :=
  let bare := match cs with
    | '+' :: rest => rest
    | other => other
  (basedOf? "" limit bare).or <|
    if isPadded cs then none else (natOf? 10 bare).filter (· ≤ limit)

/-- The negative integer from `-limit` on that a text means. -/
def negativeDownTo? (limit : Nat) (cs : List Char) : Option Int :=
  match cs with
  | '-' :: rest =>
    ((basedOf? "-" limit cs).or <|
      if isPadded cs then none else (natOf? 10 rest).filter (· ≤ limit)).map fun n => -(n : Int)
  | _ => none

/-- A double of digits with a power of ten, for one that is not beyond all doubles. -/
def doubleOf? (negative : Bool) (digits : List Char) (exponent : Int) : Option Float :=
  let n := (natOf? 10 digits).getD 0
  let place : Int := digits.length + exponent
  let x : Option Float :=
    if n = 0 ∨ place < -400 then some 0
    else if 400 < place - (digits.takeWhile (· == '0')).length then none
    else some (Float.ofScientific n (decide (exponent < 0)) exponent.natAbs)
  (x.filter Decimal.isNumber).map fun x => if negative then -x else x

/-- The exponent that a text gives after its letter; zero for no text. -/
def exponentOf? : List Char → Option Int
  | [] => some 0
  | c :: cs =>
    if c == 'e' || c == 'E' then
      match cs with
      | '-' :: digits => (natOf? 10 digits).map fun n => -(n : Int)
      | '+' :: digits => (natOf? 10 digits).map fun n => (n : Int)
      | digits => (natOf? 10 digits).map fun n => (n : Int)
    else none

/-- The double that a decimal text means. -/
def decimalOf? (cs : List Char) : Option Float :=
  let (negative, cs) := match cs with
    | '-' :: rest => (true, rest)
    | other => (false, other)
  let whole := cs.takeWhile Char.isDigit
  let rest := cs.drop whole.length
  let (fraction, rest) := match rest with
    | '.' :: rest => (rest.takeWhile Char.isDigit, rest.dropWhile Char.isDigit)
    | rest => ([], rest)
  if whole.isEmpty && fraction.isEmpty then none
  else
    (exponentOf? rest).bind fun exponent =>
      doubleOf? negative (whole ++ fraction) (exponent - fraction.length)

/-- The double that a text means. -/
def floatOf? (cs : List Char) : Option Float :=
  let bare := match cs with
    | '+' :: rest => rest
    | other => other
  if cs.head? == some '+' && (bare.head? == some '+' || bare.head? == some '-') then none
  else if [".inf", ".Inf", ".INF"].any (·.toList == bare) then some (1 / 0)
  else if ["-.inf", "-.Inf", "-.INF"].any (·.toList == cs) then some (-1 / 0)
  else if [".nan", ".NaN", ".NAN"].any (·.toList == cs) then some (0 / 0)
  else decimalOf? bare

/-- The integer that a text means, as it is named where it is not wanted. -/
def integerFound? (cs : List Char) : Option Found :=
  ((natUpTo? (Nat.pow 2 64 - 1) cs).map fun n => .int n).or <|
    ((negativeDownTo? (Nat.pow 2 63) cs).map .int).or <|
      ((natUpTo? (Nat.pow 2 128 - 1) cs).map fun n => .wideInt n "u128").or <|
        (negativeDownTo? (Nat.pow 2 127) cs).map fun n => .wideInt n "i128"

/-- What a plain scalar means unless a tag forces a meaning on it. -/
def plainFound (cs : List Char) : Found :=
  if cs.isEmpty || meansNull cs then .null
  else
    match boolOf? cs, integerFound? cs with
    | some b, _ => .bool b
    | none, some n => n
    | none, none =>
      match if isPadded cs then none else floatOf? cs with
      | some x => .float x
      | none => .text (String.ofList cs)

/-- A tag of the core schema. -/
def coreTag (name : String) : List Char := "tag:yaml.org,2002:".toList ++ name.toList

/-- The mismatch of a scalar where something else is wanted. -/
def Scalar.mismatch (s : Scalar) (expected : String) : Mismatch :=
  let text : Found := .text (String.ofList s.text)
  let free : Mismatch :=
    .invalidType (if s.style == .plain then plainFound s.text else text) expected
  let forced (found : Option Found) (wanted : String) : Mismatch :=
    match found with
    | some found => .invalidType found expected
    | none => .invalidValue text wanted
  match s.tag with
  | some tag =>
    if tag == coreTag "bool" then forced ((boolOf? s.text).map .bool) "a boolean"
    else if tag == coreTag "int" then forced (integerFound? s.text) "an integer"
    else if tag == coreTag "float" then forced ((floatOf? s.text).map .float) "a float"
    else if tag == coreTag "null" then
      forced (if meansNull s.text then some .null else none) "null"
    else if tag.head? == some '!' then free
    else .invalidType text expected
  | none => free

/-- Whether a scalar can mean more than its text: a plain one, or a literal block with the tag. -/
def Scalar.canMean (s : Scalar) (tag : String) : Bool :=
  s.style == .plain || (s.style == .literal && s.tag == some (coreTag tag))

end CodeAtlas.Yaml
