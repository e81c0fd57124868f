import CodeAtlas.Decimal.Binary64

/-!
# Decimals with a fixed number of places

A double rounded to a given number of decimal places. The exact value is rounded, and a half goes to
the even neighbour.
-/

namespace CodeAtlas.Decimal

/-- `numerator / denominator` rounded to the nearest natural number, a half to the even one. -/
def roundDiv (numerator denominator : Nat) : Nat :=
  let n := numerator / denominator
  let rest := 2 * (numerator % denominator)
  if rest < denominator ∨ rest = denominator ∧ n % 2 = 0 then n else n + 1

/-- A finite double without its sign, with the given number of places. -/
def fixedMagnitude (places : Nat) (x : Binary64) : List Char :=
  let scaled := roundDiv (x.significand * Nat.pow 2 x.exponent.toNat * Nat.pow 10 places)
    (Nat.pow 2 (-x.exponent).toNat)
  let digits := Nat.toDigits 10 scaled
  let padded := List.replicate (places + 1 - digits.length) '0' ++ digits
  let whole := padded.length - places
  if places = 0 then padded else padded.take whole ++ '.' :: padded.drop whole

/-- A double with the given number of places. -/
def fixed (places : Nat) (x : Float) : String :=
  match Parts.of x with
  | .finite negative magnitude =>
    let body := String.ofList (fixedMagnitude places magnitude)
    if negative then "-" ++ body else body
  | .infinite negative => if negative then "-inf" else "inf"
  | .undefined => "NaN"

example : fixedMagnitude 1 ⟨1, -2, false⟩ = ['0', '.', '2'] := by decide +kernel

end CodeAtlas.Decimal
