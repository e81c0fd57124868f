/-!
# Doubles as exact numbers

A finite double is `± significand * 2 ^ exponent` with natural `significand` and integral
`exponent`; everything printed about a double is computed from these exactly.
-/

namespace CodeAtlas.Decimal

/-- A finite double without its sign: `significand * 2 ^ exponent`. -/
structure Binary64 where
  significand : Nat
  exponent : Int
  /-- The next smaller double is only half as far away as the next larger one. -/
  narrowBelow : Bool
deriving DecidableEq, Repr

/-- What the bits of a double say. -/
inductive Parts where
  | finite (negative : Bool) (magnitude : Binary64)
  | infinite (negative : Bool)
  | undefined
deriving DecidableEq, Repr

/-- Reads the three fields of the bits: sign, biased exponent and fraction. -/
def Parts.ofBits (bits : Nat) : Parts :=
  let negative := bits / Nat.pow 2 63 % 2 == 1
  let biased : Nat := bits / Nat.pow 2 52 % Nat.pow 2 11
  let fraction : Nat := bits % Nat.pow 2 52
  if biased = 2047 then
    if fraction = 0 then .infinite negative else .undefined
  else if biased = 0 then
    .finite negative ⟨fraction, -1074, false⟩
  else
    .finite negative ⟨Nat.pow 2 52 + fraction, (biased : Int) - 1075, fraction == 0 && biased != 1⟩

/-- The parts of a double. -/
def Parts.of (x : Float) : Parts := .ofBits x.toBits.toNat

example : Parts.of 1.0 = .finite false ⟨2 ^ 52, -52, true⟩ := by decide +kernel
example : Parts.of (-0.0) = .finite true ⟨0, -1074, false⟩ := by decide +kernel

/-- Whether a double is a number: neither infinite nor undefined. -/
def isNumber (x : Float) : Bool :=
  match Parts.of x with
  | .finite .. => true
  | _ => false

/-- The place of a double in the total order of doubles, in which `-0.0` stands before `0.0` and
undefined values stand at the two ends. -/
def totalRank (x : Float) : Int :=
  let bits := x.toBits.toNat
  if bits < Nat.pow 2 63 then (bits : Int) else (Nat.pow 2 63 : Int) - 1 - bits

end CodeAtlas.Decimal
