import Mathlib.Algebra.Order.Field.Power
import Mathlib.Data.Rat.Cast.Order
import Mathlib.Tactic.FieldSimp
import Mathlib.Tactic.Linarith
import Mathlib.Tactic.Positivity
import Conformance.Number.Basic

/-!
# What numbers stand for

The real and the imaginary part of a number stand for points of one line, on which the rationals and
two infinities lie, or for nothing at all. Here the points are written out as rationals, however
large a power of ten they take, and comparing numbers is shown to compare their points: the powers
that are decided by their size alone are decided rightly, and no format rounds.
-/

namespace Conformance

/-! ## Powers -/

/-- A product with a power is written as such, whether the exponent is negative or not. -/
theorem timesPower_eq (base : Nat) (significand exponent : Int) :
    timesPower base significand exponent = significand * (base : ℚ) ^ exponent := by
  cases exponent with
  | ofNat places =>
    have whole : timesPower base significand (.ofNat places) =
        ((significand * (base : Int) ^ places : Int) : ℚ) := rfl
    rw [whole]
    push_cast
    rfl
  | negSucc places =>
    have ratio : timesPower base significand (.negSucc places) =
        mkRat significand (base ^ (places + 1)) := rfl
    rw [ratio, Rat.mkRat_eq_div, zpow_negSucc, div_eq_mul_inv]
    push_cast
    rfl

theorem orderOf_eq_iff {p q : ℚ} : orderOf p q = .eq ↔ p = q := by
  unfold orderOf
  split
  · next below => simp [below.ne]
  · split <;> simp_all

/-- A number has fewer decimal places than binary digits. -/
theorem lt_ten_pow_of_log2_lt {n places : Nat} (short : n.log2 < places) : n < 10 ^ places :=
  calc n < 2 ^ (n.log2 + 1) := Nat.lt_log2_self
    _ ≤ 2 ^ places := Nat.pow_le_pow_right (by decide) short
    _ ≤ 10 ^ places := Nat.pow_le_pow_left (by decide) places

/-- A power of ten with more places than the numerator of a ratio has binary digits is larger than
the ratio. -/
theorem lt_ten_pow_of_num_lt {ratio : ℚ} {places : Nat} (positive : 0 < ratio)
    (short : ratio.num.natAbs.log2 < places) : ratio < 10 ^ places := by
  have numerator : (0 : Int) < ratio.num := Rat.num_pos.mpr positive
  calc ratio = ratio.num / ratio.den := (Rat.num_div_den ratio).symm
    _ ≤ ratio.num := div_le_self (by exact_mod_cast numerator.le) (by exact_mod_cast ratio.pos)
    _ = ((ratio.num.natAbs : Int) : ℚ) := by rw [Int.natAbs_of_nonneg numerator.le]
    _ < 10 ^ places := by exact_mod_cast lt_ten_pow_of_log2_lt short

/-- A power of ten is compared with a ratio exactly. -/
theorem orderOfPower_eq_iff {exponent : Int} {ratio : ℚ} (positive : 0 < ratio) :
    orderOfPower exponent ratio = .eq ↔ (10 : ℚ) ^ exponent = ratio := by
  cases exponent with
  | ofNat places =>
    have power : (10 : ℚ) ^ (Int.ofNat places) = 10 ^ places := rfl
    rw [orderOfPower, power]
    split
    · next short => simp [(lt_ten_pow_of_num_lt positive short).ne']
    · rw [orderOf_eq_iff, timesPower_eq]
      simp
  | negSucc places =>
    have inverse : (10 : ℚ) ^ (Int.negSucc places) = ratio ↔ 10 ^ (places + 1) = ratio⁻¹ := by
      rw [zpow_negSucc, inv_eq_iff_eq_inv]
    rw [orderOfPower, inverse]
    split
    · next short =>
      have sign : ratio.num.sign = 1 := Int.sign_eq_one_of_pos (Rat.num_pos.mpr positive)
      have numerator : ratio⁻¹.num.natAbs = ratio.den := by simp [Rat.num_inv, sign]
      have larger := lt_ten_pow_of_num_lt (inv_pos.mpr positive) (numerator ▸ short)
      simp [larger.ne']
    · have power : timesPower 10 1 (places + 1) = (10 : ℚ) ^ (places + 1) := by
        rw [timesPower_eq, Int.cast_one, one_mul]
        exact_mod_cast zpow_natCast (10 : ℚ) (places + 1)
      rw [orderOf_eq_iff, power, eq_comm, ← eq_inv_mul_iff_mul_eq₀ positive.ne', mul_one]

/-- Rationals of different signs agree only when both are zero, and positive factors change nothing
about that. -/
theorem eq_iff_scaled_eq {p q x y : ℚ} (notPositive : ¬ (0 < p ∧ 0 < q))
    (notNegative : ¬ (p < 0 ∧ q < 0)) (first : 0 < x) (second : 0 < y) :
    p = q ↔ p * x = q * y := by
  rcases lt_trichotomy p 0 with negative | rfl | positive
  · have other : ¬ q < 0 := fun both => notNegative ⟨negative, both⟩
    have left : p * x < 0 := mul_neg_of_neg_of_pos negative first
    have right : 0 ≤ q * y := mul_nonneg (not_lt.mp other) second.le
    exact iff_of_false (by linarith) (by linarith)
  · simp [eq_comm, second.ne']
  · have other : ¬ 0 < q := fun both => notPositive ⟨positive, both⟩
    have left : 0 < p * x := mul_pos positive first
    have right : q * y ≤ 0 := mul_nonpos_of_nonpos_of_nonneg (not_lt.mp other) second.le
    exact iff_of_false (by linarith) (by linarith)

/-- Two rationals with a power of ten each are compared exactly. -/
theorem orderOfScaled_eq_iff {p q : ℚ} {a b : Int} :
    orderOfScaled p a q b = .eq ↔ p * 10 ^ a = q * 10 ^ b := by
  have quotient (given : p ≠ 0) : (10 : ℚ) ^ (a - b) = q / p ↔ p * 10 ^ a = q * 10 ^ b := by
    rw [zpow_sub₀ (by norm_num), div_eq_div_iff (by positivity) given, mul_comm]
  unfold orderOfScaled
  split
  · next positive =>
    rw [orderOfPower_eq_iff (div_pos positive.2 positive.1), quotient positive.1.ne']
  split
  · next negative =>
    rw [Ordering.swap_eq_eq, orderOfPower_eq_iff (div_pos_of_neg_of_neg negative.2 negative.1),
      quotient negative.1.ne]
  · next notPositive notNegative =>
    have ten : (0 : ℚ) < 10 := by norm_num
    rw [orderOf_eq_iff]
    exact eq_iff_scaled_eq notPositive notNegative (zpow_pos ten a) (zpow_pos ten b)

/-! ## Points -/

/-- A point of the line on which the rationals and two infinities lie. -/
inductive Exact.Point where
  | infinite (negative : Bool)
  | rational (value : ℚ)

/-- The point that a denotation is, if it is defined. -/
def Exact.point? : Exact → Option Exact.Point
  | .undefined => none
  | .infinite negative => some (.infinite negative)
  | .scaled value tens => some (.rational (value * 10 ^ tens))

@[simp] theorem Exact.point?_rational (value : ℚ) :
    (rational value).point? = some (.rational value) := by
  simp [rational, point?]

/-- Two denotations agree exactly when they are the same point. -/
theorem Exact.same_iff {x y : Exact} :
    x.same y = true ↔ ∃ point, x.point? = some point ∧ y.point? = some point := by
  cases x with
  | undefined => simp [same, point?]
  | infinite negative => cases y <;> simp [same, point?, eq_comm (b := negative)]
  | scaled value tens =>
    cases y with
    | undefined | infinite => simp [same, point?]
    | scaled value' tens' => simp [same, point?, orderOfScaled_eq_iff, @eq_comm ℚ (value * _)]

/-- A double that is a number is its significand times a power of two. -/
theorem Binary64.point?_finite (negative : Bool) (significand : Nat) (exponent : Int) :
    (finite negative significand exponent).exact.point? =
      some (.rational ((if negative then -(significand : ℚ) else significand) * 2 ^ exponent)) := by
  cases negative <;> simp [exact, Exact.rational, Exact.point?, timesPower_eq]

/-- A decimal that is a number is its coefficient times a power of ten. -/
theorem Decimal.point?_finite (negative : Bool) (coefficient : Nat) (exponent : Int) :
    (finite negative coefficient exponent).exact.point? =
      some (.rational
        ((if negative then -(coefficient : ℚ) else coefficient) * 10 ^ exponent)) := by
  cases negative <;> simp [exact, Exact.point?]

theorem Binary64.point?_eq_none_iff {x : Binary64} : x.exact.point? = none ↔ x.isNan = true := by
  cases x <;> simp [exact, Exact.rational, Exact.point?, isNan]

theorem Decimal.point?_eq_none_iff {x : Decimal} : x.exact.point? = none ↔ x.isNan = true := by
  cases x <;> simp [exact, Exact.point?, isNan]

/-! ## Numbers -/

namespace Number

variable {x y : Number}

/-- What a number stands for, its real part and its imaginary part, unless one of them stands for
nothing. -/
def quantity? (x : Number) : Option (Exact.Point × Exact.Point) := do
  return (← x.realPart.point?, ← x.imaginaryPart.point?)

theorem quantity?_eq_some_iff {re im : Exact.Point} :
    x.quantity? = some (re, im) ↔
      x.realPart.point? = some re ∧ x.imaginaryPart.point? = some im := by
  cases real : x.realPart.point? <;> cases imaginary : x.imaginaryPart.point? <;>
    simp [quantity?, real, imaginary]

/-- A complex number with a part that is not a number. -/
def HasNanPart : Number → Prop
  | .complex re im => re.isNan = true ∨ im.isNan = true
  | _ => False

/-- Only what is not a number stands for nothing, and a complex number with such a part. -/
theorem quantity?_eq_none_iff : x.quantity? = none ↔ x.isNan = true ∨ x.HasNanPart := by
  have parts : x.quantity? = none ↔
      x.realPart.point? = none ∨ x.imaginaryPart.point? = none := by
    cases real : x.realPart.point? <;> cases imaginary : x.imaginaryPart.point? <;>
      simp [quantity?, real, imaginary]
  rw [parts]
  cases x <;> simp [realPart, imaginaryPart, isNan, HasNanPart, Binary64.point?_eq_none_iff,
    Decimal.point?_eq_none_iff]

/-- A signaling number is not a number. -/
theorem isNan_of_isSignaling (signaling : x.isSignaling = true) : x.isNan = true := by
  cases x with
  | decimal value =>
    cases value with
    | nan => rfl
    | finite | infinity => cases signaling
  | int | float | complex | fraction => cases signaling

/-- What is not a number has no imaginary part. -/
theorem isReal_of_isNan (undefined : x.isNan = true) : x.isReal = true := by
  cases x with
  | float | decimal => rfl
  | int | complex | fraction => cases undefined

/-- The parts of two numbers agree exactly when the numbers stand for the same. -/
theorem parts_same_iff :
    (x.realPart.same y.realPart && x.imaginaryPart.same y.imaginaryPart) = true ↔
      ∃ quantity, x.quantity? = some quantity ∧ y.quantity? = some quantity := by
  simp only [Bool.and_eq_true, Exact.same_iff, Prod.exists, quantity?_eq_some_iff]
  constructor
  · rintro ⟨⟨re, real, real'⟩, im, imaginary, imaginary'⟩
    exact ⟨re, im, ⟨real, imaginary⟩, real', imaginary'⟩
  · rintro ⟨re, im, ⟨real, imaginary⟩, real', imaginary'⟩
    exact ⟨⟨re, real, real'⟩, im, imaginary, imaginary'⟩

/-- Numbers are equal exactly when they stand for the same. -/
theorem equal_true_iff : x.equal y = .ok true ↔
    ∃ quantity, x.quantity? = some quantity ∧ y.quantity? = some quantity := by
  have undefined (z : Number) (signaling : z.isSignaling = true) : z.quantity? = none :=
    quantity?_eq_none_iff.mpr (.inl (isNan_of_isSignaling signaling))
  rw [equal]
  split
  · next signaling =>
    simp only [Bool.or_eq_true, Bool.and_eq_true] at signaling
    rcases signaling with ⟨signaling, _⟩ | ⟨signaling, _⟩ <;> simp [undefined _ signaling]
  · rw [Except.ok.injEq, parts_same_iff]

/-- Numbers of which none is signaling can be compared. -/
theorem equal_of_quiet (quiet : x.isSignaling = false) (quiet' : y.isSignaling = false) :
    ∃ answer, x.equal y = .ok answer := by
  simp [equal, quiet, quiet']

/-- A signaling number cannot be compared with what is not a number either. -/
theorem equal_of_isSignaling (signaling : x.isSignaling = true) (undefined : y.isNan = true) :
    x.equal y = .error .signalingComparison := by
  simp [equal, signaling, isReal_of_isNan undefined]

/-- The order in which two numbers are compared makes no difference. -/
theorem equal_comm (x y : Number) : x.equal y = y.equal x := by
  have parts : (x.realPart.same y.realPart && x.imaginaryPart.same y.imaginaryPart) =
      (y.realPart.same x.realPart && y.imaginaryPart.same x.imaginaryPart) := by
    rw [Bool.eq_iff_iff, parts_same_iff, parts_same_iff]
    simp only [and_comm]
  rw [equal, equal, parts, Bool.or_comm]

end Number

end Conformance
