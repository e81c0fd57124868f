import CodeAtlas.Decimal.Binary64
import CodeAtlas.Json.Outline

/-!
# The values of JSON numbers

An integer that fits into 64 bits is an integer, unless it is `-0`. Every other number is a double:
as many digits as fit into 64 bits, scaled by one power of ten. This takes two roundings, so the
last bit may differ from the double nearest to the text.
-/

namespace CodeAtlas.Json

/-- The parts of a number's text. -/
structure NumberText where
  negative : Bool
  whole : List Nat
  /-- The digits after the point, if there is a point. -/
  fraction : Option (List Nat)
  /-- The sign and digits of the exponent, if there is one. -/
  exponent : Option (Bool × List Nat)

/-- Appends digits to a number while it stays below `limit`: the number and the digits left. -/
def takeDigits (limit n : Nat) : List Nat → Nat × List Nat
  | [] => (n, [])
  | d :: ds => if n * 10 + d < limit then takeDigits limit (n * 10 + d) ds else (n, d :: ds)

/-- `x * 10 ^ exponent`, in steps of at most `10 ^ 308`; nothing when it grows past all doubles. -/
def scale (x : Float) (exponent : Int) : Option Float :=
  if exponent.natAbs ≤ 308 then
    let power := Float.ofScientific 1 false exponent.natAbs
    if 0 ≤ exponent then
      let y := x * power
      if Decimal.isNumber y then some y else none
    else some (x / power)
  else if x == 0 then some x
  else if 0 < exponent then none
  else scale (x / Float.ofScientific 1 false 308) (exponent + 308)
termination_by exponent.natAbs
decreasing_by omega

/-- The value of a number, or nothing if it is beyond all doubles. -/
def NumberText.value? (t : NumberText) : Option Atom :=
  let (whole, unread) := takeDigits (Nat.pow 2 64) 0 t.whole
  let signed := fun x : Float => if t.negative then -x else x
  match t.fraction, t.exponent, unread with
  | none, none, [] =>
    if !t.negative then some (.int whole)
    else if whole = 0 ∨ Nat.pow 2 63 < whole then some (.float (-Float.ofScientific whole false 0))
    else some (.int (-(whole : Int)))
  | fraction, exponent, _ =>
    let digits := fraction.getD []
    let (significand, unused) := takeDigits (Nat.pow 2 64) whole digits
    let shift : Int := (unread.length : Int) - ((digits.length - unused.length : Nat) : Int)
    let start := Float.ofScientific significand false 0
    let scaled := match exponent with
      | none => scale start shift
      | some (down, ds) =>
        let (power, excess) := takeDigits (Nat.pow 2 31) 0 ds
        if excess.isEmpty then scale start (if down then shift - power else shift + power)
        else if significand = 0 ∨ down then some 0
        else none
    scaled.map fun x => .float (signed x)

end CodeAtlas.Json
