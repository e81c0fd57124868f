import CodeAtlas.Decimal.Binary64

/-!
# Shortest decimals

The decimal with the fewest digits that reads back as a given double. On the grid of the multiples
of a power of ten only the two neighbours of the double can be nearest to it, so it is enough to
test these two on the grids of one digit, two digits and so on; seventeen digits always suffice.
-/

namespace CodeAtlas.Decimal

/-- The decimal `digits * 10 ^ exponent`. -/
structure Scaled where
  digits : Nat
  exponent : Int
deriving DecidableEq, Repr

/-- The same decimal without zeros at the end of its digits. -/
def Scaled.stripped (s : Scaled) : Scaled :=
  if h : s.digits ≠ 0 ∧ s.digits % 10 = 0 then
    Scaled.stripped ⟨s.digits / 10, s.exponent + 1⟩
  else s
termination_by s.digits
decreasing_by exact Nat.div_lt_self (Nat.pos_of_ne_zero h.1) (by decide)

/-- The number of decimal digits of `n`, one for zero. -/
def digitCount (n : Nat) : Nat := (Nat.toDigits 10 n).length

/-- The largest `k` with `10 ^ k` at most a positive double. -/
def magnitude (x : Binary64) : Int :=
  let above := x.significand * Nat.pow 2 x.exponent.toNat
  let below := Nat.pow 2 (-x.exponent).toNat
  if below ≤ above then digitCount (above / below) - 1
  else -digitCount ((below - 1) / above)

/-- The multiple of `10 ^ k` nearest to a double among those that read back as it, given as its
factor; of two equally near the even factor. -/
def onGrid? (x : Binary64) (k : Int) : Option Nat :=
  let up := Nat.pow 2 (x.exponent - 2).toNat * Nat.pow 10 (-k).toNat
  let unit := Nat.pow 2 (2 - x.exponent).toNat * Nat.pow 10 k.toNat
  let centre := 4 * x.significand * up
  let low := (4 * x.significand - if x.narrowBelow then 1 else 2) * up
  let high := (4 * x.significand + 2) * up
  let readsBack := fun n : Nat =>
    if x.significand % 2 = 0 then low ≤ n * unit ∧ n * unit ≤ high
    else low < n * unit ∧ n * unit < high
  let n := centre / unit
  let below := centre - n * unit
  let above := (n + 1) * unit - centre
  if readsBack n then
    if readsBack (n + 1) ∧ (above < below ∨ above = below ∧ n % 2 = 1) then some (n + 1)
    else some n
  else if readsBack (n + 1) then some (n + 1)
  else none

/-- The shortest decimal that reads back as a double, and of those the nearest. -/
def shortest (x : Binary64) : Scaled :=
  if x.significand = 0 then ⟨0, 0⟩
  else
    let top := magnitude x
    let grids := (List.range 17).map fun n : Nat => top - (n : Int)
    match grids.findSome? fun k => (onGrid? x k).map fun n => Scaled.mk n k with
    | some decimal => decimal.stripped
    | none => ⟨x.significand, 0⟩

example : onGrid? ⟨2 ^ 52, -52, true⟩ 0 = some 1 := by decide +kernel
example : onGrid? ⟨1, -1074, false⟩ (-324) = some 5 := by decide +kernel

end CodeAtlas.Decimal
