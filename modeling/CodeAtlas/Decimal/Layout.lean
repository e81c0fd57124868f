import CodeAtlas.Decimal.Shortest

/-!
# Layouts of decimals

How a format writes a decimal: in full while the decimal point lies near the digits, and with an
exponent otherwise. A full decimal always has a fractional part.
-/

namespace CodeAtlas.Decimal

/-- A format's choices. The point of `0.d₁d₂… * 10 ^ point` decides between the two forms. -/
structure Layout where
  /-- The least and the greatest place of the point that is written in full; no bounds, no
  exponents. -/
  fullBetween : Option (Int × Int)
  /-- Whether a positive exponent shows its sign. -/
  plusSign : Bool
  infinity : String
  undefined : String

/-- `0.d₁d₂… * 10 ^ point` in full. -/
def inFull (digits : List Char) (point : Int) : List Char :=
  if point ≤ 0 then '0' :: '.' :: List.replicate (-point).toNat '0' ++ digits
  else
    let whole := point.toNat
    if whole < digits.length then digits.take whole ++ '.' :: digits.drop whole
    else digits ++ List.replicate (whole - digits.length) '0' ++ ['.', '0']

/-- `0.d₁d₂… * 10 ^ point` with one digit before the point and an exponent. -/
def withExponent (plusSign : Bool) (digits : List Char) (point : Int) : List Char :=
  let power := point - 1
  let lead := match digits with
    | [] => []
    | [d] => [d]
    | d :: ds => d :: '.' :: ds
  let sign := if power < 0 then ['-'] else if plusSign then ['+'] else []
  lead ++ 'e' :: sign ++ Nat.toDigits 10 power.natAbs

/-- A decimal without its sign. -/
def Layout.writeScaled (layout : Layout) (s : Scaled) : List Char :=
  if s.digits = 0 then ['0', '.', '0']
  else
    let digits := Nat.toDigits 10 s.digits
    let point := digits.length + s.exponent
    match layout.fullBetween with
    | some (least, greatest) =>
      if least ≤ point ∧ point ≤ greatest then inFull digits point
      else withExponent layout.plusSign digits point
    | none => inFull digits point

/-- A double in this layout. -/
def Layout.write (layout : Layout) (x : Float) : String :=
  match Parts.of x with
  | .finite negative magnitude =>
    let body := String.ofList (layout.writeScaled (shortest magnitude))
    if negative then "-" ++ body else body
  | .infinite negative => if negative then "-" ++ layout.infinity else layout.infinity
  | .undefined => layout.undefined

/-- The layout of numbers in messages: always in full. -/
def messageLayout : Layout := ⟨none, false, "inf", "NaN"⟩

end CodeAtlas.Decimal
