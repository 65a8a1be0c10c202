import AstroPowerBox.Foundation.Rounding
import Mathlib.Data.Int.Log
import Mathlib.Tactic.Positivity
import Mathlib.Tactic.Ring

/-!
# Binary formats

Rounding to the nearest number with `p` significant bits and least exponent `emin`, ties to even.
The spacing of the representable numbers around `x` is `quantum p emin x`; a representable number is
an integer multiple of it, which is what monotonicity (`roundBinary_mono`) and idempotence
(`roundBinary_idem`) rest on. The upper end of the exponent range is not modelled.
-/

namespace Foundation

/-- The nearest integer, ties to even. -/
def nearestEven (x : ℚ) : ℤ :=
  if x - ⌊x⌋ < 1 / 2 then ⌊x⌋
  else if 1 / 2 < x - ⌊x⌋ then ⌊x⌋ + 1
  else if ⌊x⌋ % 2 = 0 then ⌊x⌋ else ⌊x⌋ + 1

/-- The nearest integer is the floor, or the one above it. -/
lemma floor_le_nearestEven {x : ℚ} : ⌊x⌋ ≤ nearestEven x := by
  rw [nearestEven]
  split_ifs <;> omega

/-- The nearest integer is not above the next one. -/
lemma nearestEven_le_floor_succ {x : ℚ} : nearestEven x ≤ ⌊x⌋ + 1 := by
  rw [nearestEven]
  split_ifs <;> omega

@[simp] lemma nearestEven_intCast {n : ℤ} : nearestEven n = n := by
  simp [nearestEven]

/-- Rounding to integers is monotone. -/
lemma nearestEven_mono {x y : ℚ} (h : x ≤ y) : nearestEven x ≤ nearestEven y := by
  rcases (Int.floor_le_floor h).lt_or_eq with lt | eq
  · calc nearestEven x ≤ ⌊x⌋ + 1 := nearestEven_le_floor_succ
      _ ≤ ⌊y⌋ := lt
      _ ≤ nearestEven y := floor_le_nearestEven
  · -- the same integer part: only the fractions decide
    rw [nearestEven, nearestEven, eq]
    split_ifs <;> first | omega | linarith

/-- Ties go to the even integer on either side. -/
lemma nearestEven_neg {x : ℚ} : nearestEven (-x) = -nearestEven x := by
  by_cases hx : x = ⌊x⌋
  · rw [hx, ← Int.cast_neg, nearestEven_intCast, nearestEven_intCast]
  · have hfl : ⌊-x⌋ = -⌊x⌋ - 1 := by
      have h1 : (⌊x⌋ : ℚ) < x := lt_of_le_of_ne (Int.floor_le x) (Ne.symm hx)
      have h2 := Int.lt_floor_add_one x
      rw [Int.floor_eq_iff]
      push_cast
      constructor <;> linarith
    rw [nearestEven, nearestEven, hfl]
    push_cast
    split_ifs <;> first | omega | linarith

section
variable (p : ℕ) (emin : ℤ)

/-- The exponent of the last significant bit of `x`. -/
def lastBit (x : ℚ) : ℤ := max (Int.log 2 |x| - p + 1) emin

/-- The spacing of the representable numbers around `x`. -/
def quantum (x : ℚ) : ℚ := 2 ^ lastBit p emin x

/-- The nearest representable number, ties to even. -/
def roundBinary (x : ℚ) : ℚ := nearestEven (x / quantum p emin x) * quantum p emin x

variable {p emin}

/-- A number of at most `p` binary digits has no finer last bit than it needs. -/
lemma lastBit_le {x : ℚ} {e : ℤ} (hlog : Int.log 2 |x| < p + e) (he : emin ≤ e) :
    lastBit p emin x ≤ e :=
  max_le (by omega) he

/-- The first bit is less than `p` places above the last one. -/
lemma log_lt {x : ℚ} : Int.log 2 |x| < p + lastBit p emin x := by
  have h : Int.log 2 |x| - p + 1 ≤ lastBit p emin x := le_max_left _ _
  omega

/-- A larger number has no finer last bit. -/
lemma lastBit_mono {x y : ℚ} (h : Int.log 2 |x| ≤ Int.log 2 |y|) :
    lastBit p emin x ≤ lastBit p emin y :=
  max_le_max_right _ (by omega)

lemma quantum_pos {x : ℚ} : 0 < quantum p emin x := by
  exact zpow_pos (by norm_num) _

lemma quantum_neg {x : ℚ} : quantum p emin (-x) = quantum p emin x := by
  simp [quantum, lastBit]

@[simp] lemma roundBinary_zero : roundBinary p emin 0 = 0 := by
  have h : nearestEven 0 = 0 := by exact_mod_cast nearestEven_intCast (n := 0)
  simp [roundBinary, h]

/-- Rounding is symmetric. -/
lemma roundBinary_neg (x : ℚ) : roundBinary p emin (-x) = -roundBinary p emin x := by
  rw [roundBinary, roundBinary, quantum_neg, neg_div, nearestEven_neg]
  push_cast
  ring

/-- A power of two is a multiple of every finer quantum. -/
lemma zpow_eq_mul_quantum {x : ℚ} {e : ℤ} (h : lastBit p emin x ≤ e) :
    (2 : ℚ) ^ e = ((2 ^ (e - lastBit p emin x).toNat : ℤ) : ℚ) * quantum p emin x := by
  push_cast
  rw [quantum, ← zpow_natCast, Int.toNat_of_nonneg (by omega), ← zpow_add₀ (by norm_num)]
  congr 1
  omega

/-- A multiple of a power of two is rounded by any finer or equal quantum to itself. -/
lemma roundBinary_eq_self {m e : ℤ} {x : ℚ} (hx : x = m * 2 ^ e) (he : lastBit p emin x ≤ e) :
    roundBinary p emin x = x := by
  have hq : x / quantum p emin x = (m * 2 ^ (e - lastBit p emin x).toNat : ℤ) := by
    rw [div_eq_iff (ne_of_gt quantum_pos), Int.cast_mul, mul_assoc, ← zpow_eq_mul_quantum he]
    exact hx
  rw [roundBinary, hq, nearestEven_intCast, ← hq]
  exact div_mul_cancel₀ x (ne_of_gt quantum_pos)

/-- What lies below a multiple of the quantum is not rounded above it. -/
lemma roundBinary_le {x : ℚ} {n : ℤ} (h : x ≤ n * quantum p emin x) :
    roundBinary p emin x ≤ n * quantum p emin x := by
  have hn : nearestEven (x / quantum p emin x) ≤ n := by
    have := nearestEven_mono ((div_le_iff₀ quantum_pos).mpr h)
    rwa [nearestEven_intCast] at this
  rw [roundBinary]
  exact mul_le_mul_of_nonneg_right (by exact_mod_cast hn) (le_of_lt quantum_pos)

/-- A multiple of the quantum below a number is below what it is rounded to. -/
lemma le_roundBinary {x : ℚ} {n : ℤ} (h : n * quantum p emin x ≤ x) :
    n * quantum p emin x ≤ roundBinary p emin x := by
  have hn : n ≤ nearestEven (x / quantum p emin x) := by
    have := nearestEven_mono ((le_div_iff₀ quantum_pos).mpr h)
    rwa [nearestEven_intCast] at this
  rw [roundBinary]
  exact mul_le_mul_of_nonneg_right (by exact_mod_cast hn) (le_of_lt quantum_pos)

/-- Rounding keeps the sign. -/
lemma roundBinary_nonneg {x : ℚ} (h : 0 ≤ x) : 0 ≤ roundBinary p emin x := by
  have hle : (0 : ℤ) * quantum p emin x ≤ roundBinary p emin x := le_roundBinary (by simpa using h)
  simpa using hle

/-- Rounding is monotone on the nonnegative numbers: inside one binade by the integer rounding,
across binades because both sides stay on their side of the power of two between them. -/
lemma roundBinary_mono_of_nonneg (hp : 0 < p) {x y : ℚ} (hx : 0 ≤ x) (h : x ≤ y) :
    roundBinary p emin x ≤ roundBinary p emin y := by
  rcases hx.eq_or_lt with rfl | hpos
  · rw [roundBinary_zero]
    exact roundBinary_nonneg h
  have hypos : 0 < y := lt_of_lt_of_le hpos h
  have hlog : Int.log 2 |x| ≤ Int.log 2 |y| := by
    rw [abs_of_pos hpos, abs_of_pos hypos]
    exact Int.log_mono_right hpos h
  have hbit : lastBit p emin x ≤ lastBit p emin y := lastBit_mono hlog
  rcases hbit.eq_or_lt with eq | lt
  · -- one binade: both sides are rounded to multiples of the same quantum
    have hq : quantum p emin x = quantum p emin y := by rw [quantum, eq, quantum]
    rw [roundBinary, roundBinary, hq]
    apply mul_le_mul_of_nonneg_right _ (le_of_lt quantum_pos)
    exact_mod_cast nearestEven_mono (div_le_div_of_nonneg_right h (le_of_lt quantum_pos))
  · -- two binades: the power of two at the start of the upper one lies between
    have hlt : Int.log 2 |x| + 1 ≤ Int.log 2 |y| :=
      lt_of_not_ge fun hge => lt.not_ge (lastBit_mono hge)
    have hxle : x ≤ (2 : ℚ) ^ Int.log 2 |y| := by
      have h1 := Int.lt_zpow_succ_log_self (b := 2) (by norm_num) x
      have h2 : ((2 : ℕ) : ℚ) ^ (Int.log 2 x + 1) ≤ (2 : ℚ) ^ Int.log 2 |y| := by
        rw [abs_of_pos hpos] at hlt
        push_cast
        exact zpow_le_zpow_right₀ (by norm_num) hlt
      exact le_trans (le_of_lt h1) h2
    have hyge : (2 : ℚ) ^ Int.log 2 |y| ≤ y := by
      have h1 := Int.zpow_log_le_self (b := 2) (by norm_num) hypos
      rw [abs_of_pos hypos]
      exact_mod_cast h1
    have hey : lastBit p emin y ≤ Int.log 2 |y| := by
      rw [lastBit, lastBit] at lt
      exact lastBit_le (by omega) (by omega)
    have hex : lastBit p emin x ≤ Int.log 2 |y| := (le_of_lt lt).trans hey
    calc roundBinary p emin x
        ≤ 2 ^ Int.log 2 |y| := by
          rw [zpow_eq_mul_quantum hex]
          exact roundBinary_le (by rwa [← zpow_eq_mul_quantum hex])
      _ ≤ roundBinary p emin y := by
          rw [zpow_eq_mul_quantum hey]
          exact le_roundBinary (by rwa [← zpow_eq_mul_quantum hey])

/-- Rounding is monotone, on the negative numbers by symmetry. -/
lemma roundBinary_mono (hp : 0 < p) : Monotone (roundBinary p emin) := by
  intro x y h
  rcases le_total 0 x with hx | hx
  · exact roundBinary_mono_of_nonneg hp hx h
  rcases le_total 0 y with hy | hy
  · -- opposite signs: zero lies between the two results
    have hnx : 0 ≤ roundBinary p emin (-x) := roundBinary_nonneg (neg_nonneg.mpr hx)
    have hny : 0 ≤ roundBinary p emin y := roundBinary_nonneg hy
    rw [roundBinary_neg] at hnx
    linarith
  · have hle : roundBinary p emin (-y) ≤ roundBinary p emin (-x) :=
      roundBinary_mono_of_nonneg hp (neg_nonneg.mpr hy) (neg_le_neg h)
    rw [roundBinary_neg, roundBinary_neg] at hle
    linarith

/-- The rounded mantissa has at most `p` bits, or is the next power of two. -/
lemma abs_nearestEven_le {x : ℚ} :
    |nearestEven (x / quantum p emin x)| ≤ 2 ^ p := by
  have hlt : |x| ≤ 2 ^ p * quantum p emin x := by
    have h1 := Int.lt_zpow_succ_log_self (b := 2) (by norm_num) |x|
    have h2 : ((2 : ℕ) : ℚ) ^ (Int.log 2 |x| + 1) ≤ 2 ^ p * quantum p emin x := by
      rw [quantum, ← zpow_natCast, ← zpow_add₀ (by norm_num)]
      exact zpow_le_zpow_right₀ (by norm_num) log_lt
    exact le_trans (le_of_lt h1) h2
  rw [abs_le] at hlt ⊢
  constructor
  · have h := nearestEven_mono
      ((le_div_iff₀ quantum_pos).mpr (by push_cast; linarith [hlt.1] :
        ((-2 ^ p : ℤ) : ℚ) * quantum p emin x ≤ x))
    rwa [nearestEven_intCast] at h
  · have h := nearestEven_mono
      ((div_le_iff₀ quantum_pos).mpr (by push_cast; exact hlt.2 :
        x ≤ ((2 ^ p : ℤ) : ℚ) * quantum p emin x))
    rwa [nearestEven_intCast] at h

/-- A mantissa of at most `p` bits, or the next power of two, is representable. -/
lemma roundBinary_eq_self_of_abs_le (hp : 0 < p) {m e : ℤ} (hm : |m| ≤ 2 ^ p) (he : emin ≤ e) :
    roundBinary p emin (m * 2 ^ e) = m * 2 ^ e := by
  rcases eq_or_ne m 0 with rfl | h0
  · simp
  have habs : |(m * 2 ^ e : ℚ)| = |m| * 2 ^ e := by
    rw [abs_mul, abs_of_pos (zpow_pos (by norm_num) e : (0 : ℚ) < 2 ^ e)]
    push_cast
    rfl
  have hpos : (0 : ℚ) < |m| * 2 ^ e :=
    mul_pos (by exact_mod_cast abs_pos.mpr h0) (zpow_pos (by norm_num) e)
  rcases hm.lt_or_eq with lt | eq
  · apply roundBinary_eq_self rfl
    have hlog : Int.log 2 |(m * 2 ^ e : ℚ)| < p + e := by
      rw [habs]
      apply (Int.lt_zpow_iff_log_lt (by norm_num) hpos).mp
      push_cast
      rw [zpow_add₀ (by norm_num), zpow_natCast]
      apply mul_lt_mul_of_pos_right _ (zpow_pos (by norm_num) e)
      exact_mod_cast lt
    exact lastBit_le hlog he
  · -- the next power of two is a multiple of the coarser quantum of its own binade
    have hlog : Int.log 2 |(m * 2 ^ e : ℚ)| = p + e := by
      rw [habs, eq]
      push_cast
      rw [← zpow_natCast, ← zpow_add₀ (by norm_num)]
      exact_mod_cast Int.log_zpow (R := ℚ) (b := 2) (by norm_num) (p + e)
    have hself : (m * 2 ^ e : ℚ) = m.sign * 2 ^ (p + e) := by
      rw [zpow_add₀ (by norm_num), zpow_natCast, ← mul_assoc]
      congr 1
      have := Int.sign_mul_abs m
      rw [eq] at this
      exact_mod_cast this.symm
    exact roundBinary_eq_self hself (lastBit_le (by omega) (by omega))

/-- What is rounded is representable. -/
lemma roundBinary_idem (hp : 0 < p) (x : ℚ) :
    roundBinary p emin (roundBinary p emin x) = roundBinary p emin x :=
  roundBinary_eq_self_of_abs_le hp abs_nearestEven_le (le_max_right _ _)

end

/-- The 32-bit format: 24 significant bits, least exponent -149. -/
def Rounding.binary32 : Rounding where
  round := roundBinary 24 (-149)
  mono := roundBinary_mono (by norm_num)
  idem := roundBinary_idem (by norm_num)
  neg := roundBinary_neg
  fine _ _ := roundBinary_eq_self_of_abs_le (by norm_num)

example : Rounding.binary32.round (1 / 10) = 13421773 / 134217728 := by decide +kernel

end Foundation
