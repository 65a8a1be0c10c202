import Mathlib.Data.Rat.Floor
import Mathlib.Tactic.GCongr
import Mathlib.Tactic.Linarith
import Mathlib.Tactic.Positivity

/-!
# Rounded arithmetic

Arithmetic on the rational numbers that a floating-point format represents. A `Rounding` says which
representable number stands for a rational; `Rounded R` holds the representable numbers only, and
each operation is the exact one followed by one rounding. Programs and theorems over `Rounded R` are
stated for every `R`; `Rounding.binary32` (`Foundation/Binary.lean`) gives the finite numbers of the
32-bit format.

Infinities and NaN have no counterpart here: what is modelled over `Rounded R` stays far inside the
range of its format.
-/

namespace Foundation

/-- A rounding to representable numbers: monotone, symmetric, the identity on its range, and at least
as fine as the 32-bit format. -/
structure Rounding where
  round : ℚ → ℚ
  mono : Monotone round
  idem : ∀ x, round (round x) = round x
  neg : ∀ x, round (-x) = -round x
  fine : ∀ m e : ℤ, |m| ≤ 2 ^ 24 → -149 ≤ e → round (m * 2 ^ e) = m * 2 ^ e

/-- No rounding: every rational is representable. -/
def Rounding.exact : Rounding where
  round x := x
  mono := monotone_id
  idem _ := rfl
  neg _ := rfl
  fine _ _ _ _ := rfl

/-- Zero is its own negative. -/
@[simp] lemma Rounding.round_zero (R : Rounding) : R.round 0 = 0 := by
  have h := R.neg 0
  rw [neg_zero] at h
  linarith

/-- Rounding keeps the sign. -/
lemma Rounding.round_nonneg (R : Rounding) {x : ℚ} (h : 0 ≤ x) : 0 ≤ R.round x := by
  rw [← R.round_zero]
  exact R.mono h

/-- Integers of up to 24 bits are representable. -/
lemma Rounding.round_intCast (R : Rounding) {n : ℤ} (h : |n| ≤ 2 ^ 24) : R.round n = n := by
  simpa using R.fine n 0 h (by norm_num)

/-- A number of at least 1/1024 does not round to zero. -/
lemma Rounding.round_pos (R : Rounding) {x : ℚ} (h : 1 / 1024 ≤ x) : 0 < R.round x := by
  have hfine := R.fine 1 (-10) (by norm_num) (by norm_num)
  have hle := R.mono h
  norm_num at hfine
  norm_num [hfine] at hle
  linarith

/-- The numbers `R` represents. -/
@[ext]
structure Rounded (R : Rounding) where
  val : ℚ
  fixed : R.round val = val
deriving DecidableEq

namespace Rounded
variable {R : Rounding}

/-- The representable number that stands for `x`. -/
def ofRat (x : ℚ) : Rounded R := ⟨R.round x, R.idem x⟩

@[simp] lemma ofRat_val {x : ℚ} : (ofRat x : Rounded R).val = R.round x := rfl

instance : LinearOrder (Rounded R) :=
  LinearOrder.lift' Rounded.val fun _ _ h => Rounded.ext h

lemma le_def {a b : Rounded R} : a ≤ b ↔ a.val ≤ b.val := Iff.rfl

lemma lt_def {a b : Rounded R} : a < b ↔ a.val < b.val := Iff.rfl

instance : Add (Rounded R) := ⟨fun a b => ofRat (a.val + b.val)⟩
instance : Sub (Rounded R) := ⟨fun a b => ofRat (a.val - b.val)⟩
instance : Mul (Rounded R) := ⟨fun a b => ofRat (a.val * b.val)⟩
instance : Div (Rounded R) := ⟨fun a b => ofRat (a.val / b.val)⟩
instance : Neg (Rounded R) := ⟨fun a => ⟨-a.val, by rw [R.neg, a.fixed]⟩⟩
instance {n : ℕ} : OfNat (Rounded R) n := ⟨ofRat n⟩
instance : OfScientific (Rounded R) := ⟨fun m s e => ofRat (OfScientific.ofScientific m s e)⟩

lemma mul_val {a b : Rounded R} : (a * b).val = R.round (a.val * b.val) := rfl
lemma div_val {a b : Rounded R} : (a / b).val = R.round (a.val / b.val) := rfl

@[simp] lemma zero_val : (0 : Rounded R).val = 0 := by
  change R.round ((0 : ℕ) : ℚ) = 0
  simp

@[simp] lemma zero_div (a : Rounded R) : 0 / a = 0 := by
  ext
  simp [div_val]

@[simp] lemma zero_mul (a : Rounded R) : 0 * a = 0 := by
  ext
  simp [mul_val]

/-- `fmaf`: the product and the sum are rounded once. -/
def fma (a b c : Rounded R) : Rounded R := ofRat (a.val * b.val + c.val)

/-- `fabsf`. -/
def abs (a : Rounded R) : Rounded R := if a.val < 0 then -a else a

/-- A float from an integer. -/
def ofInt (n : ℤ) : Rounded R := ofRat n

@[simp] lemma ofInt_val {n : ℤ} : (ofInt n : Rounded R).val = R.round n := rfl

/-- An integer from a float, towards zero. -/
def trunc (a : Rounded R) : ℤ := a.val.num.tdiv a.val.den

/-- Integers of up to 24 bits are meant exactly. -/
lemma natCast_val {n : ℕ} (h : n ≤ 2 ^ 24) : (OfNat.ofNat n : Rounded R).val = n := by
  have hle : |(n : ℤ)| ≤ 2 ^ 24 := by
    rw [abs_of_nonneg (by positivity)]
    exact_mod_cast h
  exact R.round_intCast hle

/-- What is not negative is rounded down. -/
lemma trunc_eq_floor {a : Rounded R} (h : 0 ≤ a.val) : a.trunc = ⌊a.val⌋ := by
  rw [trunc, Int.tdiv_eq_ediv_of_nonneg (Rat.num_nonneg.mpr h), ← Rat.floor_def']

/-- Truncation goes towards zero. -/
lemma natAbs_trunc_le {a : Rounded R} {n : ℕ} (h : |a.val| ≤ n) : a.trunc.natAbs ≤ n := by
  rw [trunc, Int.natAbs_tdiv, Int.natAbs_natCast]
  apply Nat.div_le_of_le_mul
  have hden : (0 : ℚ) < a.val.den := by exact_mod_cast a.val.den_pos
  have hnum : |(a.val.num : ℚ)| ≤ a.val.den * n := by
    rw [← Rat.mul_den_eq_num a.val, abs_mul, abs_of_pos hden, mul_comm]
    gcongr
  have hcast : ((a.val.num.natAbs : ℕ) : ℚ) = |(a.val.num : ℚ)| := by
    rw [Nat.cast_natAbs, Int.cast_abs]
  rw [← hcast] at hnum
  exact_mod_cast hnum

@[simp] lemma trunc_zero : (0 : Rounded R).trunc = 0 := by
  simp [trunc]

@[simp] protected lemma sub_self (a : Rounded R) : a - a = 0 := by
  ext
  change R.round (a.val - a.val) = _
  simp

@[simp] lemma abs_zero : (0 : Rounded R).abs = 0 := by
  simp [abs]

/-! ## Order

Every operation is monotone, because rounding is. -/

variable {a b c : Rounded R}

lemma nonneg_def : 0 ≤ a ↔ 0 ≤ a.val := by
  rw [le_def, zero_val]

protected lemma mul_nonneg (ha : 0 ≤ a) (hb : 0 ≤ b) : 0 ≤ a * b := by
  rw [nonneg_def] at *
  exact R.round_nonneg (mul_nonneg ha hb)

protected lemma div_nonneg (ha : 0 ≤ a) (hb : 0 ≤ b) : 0 ≤ a / b := by
  rw [nonneg_def] at *
  exact R.round_nonneg (div_nonneg ha hb)

protected lemma mul_le_mul_left (h : a ≤ b) (hc : 0 ≤ c) : c * a ≤ c * b :=
  R.mono (mul_le_mul_of_nonneg_left h (nonneg_def.mp hc))

protected lemma mul_le_mul_right (h : a ≤ b) (hc : 0 ≤ c) : a * c ≤ b * c :=
  R.mono (mul_le_mul_of_nonneg_right h (nonneg_def.mp hc))

protected lemma div_le_div_right (h : a ≤ b) (hc : 0 ≤ c) : a / c ≤ b / c :=
  R.mono (div_le_div_of_nonneg_right h (nonneg_def.mp hc))

/-- Conversion keeps the order. -/
lemma ofInt_le_ofInt {m n : ℤ} (h : m ≤ n) : (ofInt m : Rounded R) ≤ ofInt n := by
  apply R.mono
  exact_mod_cast h

lemma ofRat_nonneg {x : ℚ} (h : 0 ≤ x) : 0 ≤ (ofRat x : Rounded R) :=
  nonneg_def.mpr (R.round_nonneg h)

lemma ofInt_nonneg {n : ℤ} (h : 0 ≤ n) : 0 ≤ (ofInt n : Rounded R) := by
  apply ofRat_nonneg
  exact_mod_cast h

/-- Truncation keeps the sign. -/
lemma trunc_nonneg (h : 0 ≤ a) : 0 ≤ a.trunc := by
  rw [nonneg_def] at h
  rw [trunc_eq_floor h]
  exact Int.floor_nonneg.mpr h

/-- Truncation keeps the order. -/
lemma trunc_le_trunc (ha : 0 ≤ a) (h : a ≤ b) : a.trunc ≤ b.trunc := by
  rw [trunc_eq_floor (nonneg_def.mp ha), trunc_eq_floor (nonneg_def.mp (ha.trans h))]
  exact Int.floor_le_floor h

end Rounded
end Foundation
