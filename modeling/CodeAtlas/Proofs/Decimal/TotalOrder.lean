import CodeAtlas.Decimal.Binary64
import Mathlib.Data.EReal.Operations

/-!
# The total order of doubles

The bits of a double are a sign and a magnitude. The total order puts the doubles with the sign
first; among these the higher magnitude comes first, and among the others the lower one. Magnitudes
are in the order of the numbers that they stand for, so wherever two doubles stand for different
numbers, the total order is the order of the numbers.

1. `totalRank_lt_iff`, `totalRank_eq_iff`: the rank of a double is its place in the total order.
2. `monotone_numberOf`: a higher magnitude is no lower number.
3. `totalRank_lt_of_value_lt`: a lower number has a lower rank.
-/

namespace CodeAtlas.Decimal

/-! ## Signs and magnitudes -/

/-- The bits of a double without the sign. -/
def unsignedBits (x : Float) : Nat := x.toBits.toNat % 2 ^ 63

/-- Whether a double has the sign. -/
def isNegative (x : Float) : Bool := x.toBits.toNat / 2 ^ 63 % 2 == 1

/-- Whether a double stands before another in the total order: one with the sign before one without
it, of two without it the one of the lower magnitude, and of two with it that of the higher. -/
def Precedes (x y : Float) : Prop :=
  match isNegative x, isNegative y with
  | true, false => True
  | false, true => False
  | false, false => unsignedBits x < unsignedBits y
  | true, true => unsignedBits y < unsignedBits x

theorem totalRank_eq (x : Float) :
    totalRank x = if isNegative x then -1 - (unsignedBits x : Int) else unsignedBits x := by
  have bound := x.toBits.toNat_lt
  simp only [totalRank, isNegative, unsignedBits, beq_iff_eq, Nat.pow_eq]
  split <;> split <;> omega

/-- The rank of a double is its place in the total order. -/
theorem totalRank_lt_iff {x y : Float} : totalRank x < totalRank y ↔ Precedes x y := by
  rw [totalRank_eq, totalRank_eq]
  unfold Precedes
  cases isNegative x <;> cases isNegative y <;> simp <;> omega

/-- Only doubles with the same bits have the same rank. -/
theorem totalRank_eq_iff {x y : Float} : totalRank x = totalRank y ↔ x.toBits = y.toBits := by
  have hx := x.toBits.toNat_lt
  have hy := y.toBits.toNat_lt
  rw [← UInt64.toNat_inj]
  simp only [totalRank, Nat.pow_eq]
  split <;> split <;> omega

/-! ## The numbers of magnitudes -/

/-- The number that a finite double stands for without its sign. -/
noncomputable def Binary64.value (m : Binary64) : ℝ := m.significand * 2 ^ m.exponent

/-- The number that the parts of a double stand for, unless they are undefined. -/
noncomputable def Parts.value : Parts → Option EReal
  | .finite negative m => some (if negative then -(m.value : EReal) else m.value)
  | .infinite negative => some (if negative then -⊤ else ⊤)
  | .undefined => none

/-- The exponent of a magnitude as it is written; the subnormal ones have the lowest of the normal
ones. -/
def writtenExponent (code : Nat) : Nat := max (code / 2 ^ 52) 1

/-- The significand of a magnitude. -/
def significandOf (code : Nat) : Nat := code - (writtenExponent code - 1) * 2 ^ 52

/-- The number of a finite magnitude. -/
noncomputable def finiteNumber (code : Nat) : ℝ :=
  significandOf code * 2 ^ (writtenExponent code - 1075 : Int)

/-- The number of a magnitude; those behind the finite ones stand for infinity. -/
noncomputable def numberOf (code : Nat) : EReal :=
  if code < 2047 * 2 ^ 52 then (finiteNumber code : EReal) else ⊤

/-- The next magnitude has the next significand, or half of it and the next exponent. -/
theorem finiteNumber_le_succ (code : Nat) : finiteNumber code ≤ finiteNumber (code + 1) := by
  have scale : (0 : ℝ) ≤ 2 ^ (writtenExponent code - 1075 : Int) := zpow_nonneg zero_le_two _
  unfold finiteNumber
  by_cases same : writtenExponent (code + 1) = writtenExponent code
  · have next : significandOf (code + 1) = significandOf code + 1 := by
      unfold significandOf writtenExponent at *
      omega
    rw [same, next]
    exact mul_le_mul_of_nonneg_right (Nat.cast_le.2 (Nat.le_succ _)) scale
  · have exponent : writtenExponent (code + 1) = writtenExponent code + 1 := by
      unfold writtenExponent at *
      omega
    have half : significandOf code ≤ significandOf (code + 1) * 2 := by
      unfold significandOf writtenExponent at *
      omega
    have twice : (2 : ℝ) ^ ((writtenExponent code + 1 : Nat) - 1075 : Int) =
        2 * 2 ^ (writtenExponent code - 1075 : Int) := by
      rw [← zpow_one_add₀ two_ne_zero]
      congr 1
      omega
    rw [exponent, twice, ← mul_assoc]
    exact mul_le_mul_of_nonneg_right (by exact_mod_cast half) scale

theorem numberOf_nonneg (code : Nat) : 0 ≤ numberOf code := by
  unfold numberOf finiteNumber
  split
  · exact EReal.coe_nonneg.2 (mul_nonneg (Nat.cast_nonneg _) (zpow_nonneg zero_le_two _))
  · exact le_top

/-- A higher magnitude is no lower number. -/
theorem monotone_numberOf : Monotone numberOf := by
  intro code higher le
  unfold numberOf
  by_cases finite : higher < 2047 * 2 ^ 52
  · rw [if_pos finite, if_pos (le.trans_lt finite)]
    exact EReal.coe_le_coe_iff.2 (monotone_nat_of_le_succ finiteNumber_le_succ le)
  · rw [if_neg finite]
    exact le_top

/-! ## The numbers of doubles -/

theorem value_subnormal {code : Nat} (subnormal : code / 2 ^ 52 = 0) (narrow : Bool) :
    Binary64.value ⟨code % 2 ^ 52, -1074, narrow⟩ = finiteNumber code := by
  have significand : significandOf code = code % 2 ^ 52 := by
    unfold significandOf writtenExponent
    omega
  have exponent : (writtenExponent code : Int) - 1075 = -1074 := by
    unfold writtenExponent
    omega
  rw [finiteNumber, significand, exponent]
  rfl

theorem value_normal {code : Nat} (normal : code / 2 ^ 52 ≠ 0) (narrow : Bool) :
    Binary64.value ⟨2 ^ 52 + code % 2 ^ 52, (code / 2 ^ 52 : Nat) - 1075, narrow⟩ =
      finiteNumber code := by
  have significand : significandOf code = 2 ^ 52 + code % 2 ^ 52 := by
    unfold significandOf writtenExponent
    omega
  have exponent : writtenExponent code = code / 2 ^ 52 := by
    unfold writtenExponent
    omega
  rw [finiteNumber, significand, exponent]
  rfl

/-- A double stands for the number of its magnitude, with its sign. -/
theorem eq_of_value {x : Float} {u : EReal} (h : (Parts.of x).value = some u) :
    u = if isNegative x then -numberOf (unsignedBits x) else numberOf (unsignedBits x) := by
  have biased : x.toBits.toNat / 2 ^ 52 % 2 ^ 11 = unsignedBits x / 2 ^ 52 := by
    unfold unsignedBits
    omega
  have fraction : x.toBits.toNat % 2 ^ 52 = unsignedBits x % 2 ^ 52 := by
    unfold unsignedBits
    omega
  have bound : unsignedBits x < 2 ^ 63 := Nat.mod_lt _ (by decide)
  simp only [Parts.of, Parts.ofBits, Nat.pow_eq, biased, fraction] at h
  split at h
  · rename_i highest
    have number : numberOf (unsignedBits x) = ⊤ := if_neg (by omega)
    rw [number]
    split at h
    · exact (Option.some.inj h).symm
    · cases h
  · rename_i lower
    have number : numberOf (unsignedBits x) = finiteNumber (unsignedBits x) := if_pos (by omega)
    rw [number]
    split at h
    · rename_i subnormal
      rw [← value_subnormal subnormal false]
      exact (Option.some.inj h).symm
    · rename_i normal
      rw [← value_normal normal]
      exact (Option.some.inj h).symm

/-- A lower number has a lower rank. -/
theorem totalRank_lt_of_value_lt {x y : Float} {u v : EReal} (hx : (Parts.of x).value = some u)
    (hy : (Parts.of y).value = some v) (lt : u < v) : totalRank x < totalRank y := by
  have nonneg_x := numberOf_nonneg (unsignedBits x)
  have nonneg_y := numberOf_nonneg (unsignedBits y)
  rw [eq_of_value hx, eq_of_value hy] at lt
  rw [totalRank_lt_iff]
  unfold Precedes
  revert lt
  cases isNegative x with
  | false => cases isNegative y with
    | false => exact fun lt => monotone_numberOf.reflect_lt lt
    | true =>
      intro lt
      have below : -numberOf (unsignedBits y) ≤ 0 := EReal.neg_le_zero.2 nonneg_y
      exact absurd lt (not_lt.2 (below.trans nonneg_x))
  | true => cases isNegative y with
    | false => exact fun _ => trivial
    | true => exact fun lt => monotone_numberOf.reflect_lt (EReal.neg_lt_neg_iff.1 lt)

end CodeAtlas.Decimal
