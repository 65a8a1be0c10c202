import AstroPowerBox.Foundation.Decimal
import AstroPowerBox.Foundation.Rounding

/-!
# Fixed-point display

The telegram status (`_handleText` in `src/telegram_bot/telegram_bot.cpp`) and the home screen
(`homeScreen::show` in `src/oled/screen_content.cpp`) print voltages and currents as an integer part and
a fraction, both from `div`, whose quotient and remainder carry the sign of the dividend. The status
prints a sign for the remainder in front of the quotient, which prints its own; the home screen leaves
it to both. `fixedPoint_iff` says which numbers survive this.
-/

namespace AstroPowerBox.Display
open Foundation Decimal

/-- Source `_handleText`: the format `%s%d,%0ku` of the status, in units of `10 ^ k`. -/
def statusFixed (k : ℕ) (x : ℤ) : List Char :=
  let quot := x.tdiv (10 ^ k)
  let rem := x.tmod (10 ^ k)
  (if rem < 0 then ['\\', '-'] else []) ++ printInt 0 quot ++ ',' :: padded k rem.natAbs

/-- The voltage of the status, in hundredths of a volt. -/
def statusVoltage (hundredths : ℤ) : List Char := statusFixed 2 hundredths

/-- The current of the status, in thousandths of an ampere. -/
def statusCurrent (thousandths : ℤ) : List Char := statusFixed 3 thousandths

/-- Source `homeScreen::show`: the voltage in millivolts, with the format `%02d.%03d`. -/
def homeVoltage (millivolts : ℤ) : List Char :=
  printInt 2 (millivolts.tdiv 1000) ++ '.' :: printInt 3 (millivolts.tmod 1000)

/-- The text is read back as the number, and has one minus sign if the number is negative. -/
def Faithful (sep : Char) (k : ℕ) (text : List Char) (x : ℤ) : Prop :=
  parseFixed sep k text = some x ∧ text.count '-' = if x < 0 then 1 else 0

variable {k n width : ℕ} {sep : Char}

/-! ## The two parts of a number -/

/-- The quotient of a number without a sign. -/
lemma tdiv_natCast : (n : ℤ).tdiv (10 ^ k) = (n / 10 ^ k : ℕ) := by
  rw [Int.tdiv_eq_ediv_of_nonneg (Int.natCast_nonneg n)]
  norm_cast

/-- The remainder of a number without a sign. -/
lemma tmod_natCast : (n : ℤ).tmod (10 ^ k) = (n % 10 ^ k : ℕ) := by
  rw [Int.tmod_eq_emod_of_nonneg (Int.natCast_nonneg n)]
  norm_cast

/-- A number without a sign is printed as its digits. -/
lemma printInt_natCast {q : ℕ} : printInt width q = padded width q := by
  rw [printInt, if_neg (Int.natCast_nonneg q).not_gt, Int.natAbs_natCast]

/-- A minus sign takes one of the places. -/
lemma printInt_neg {q : ℕ} (pos : 0 < q) :
    printInt width (-q : ℤ) = '-' :: padded (width - 1) q := by
  rw [printInt, if_pos (by omega), Int.natAbs_neg, Int.natAbs_natCast]

lemma mod_lt (n k : ℕ) : n % 10 ^ k < 10 ^ k := Nat.mod_lt _ (by positivity)

/-- A multiple of the unit has a whole part. -/
lemma div_pos_of_dvd (hn : 0 < n) (hrem : n % 10 ^ k = 0) : 0 < n / 10 ^ k :=
  Nat.div_pos (Nat.le_of_dvd hn (Nat.dvd_of_mod_eq_zero hrem)) (by positivity)

/-! ## Texts that are faithful

The two parts without a sign, behind a minus sign, and behind an escaped one. -/

/-- Whole part and fraction without a sign. -/
lemma faithful_unsigned (hsep : sep.isDigit = false) (hne : sep ≠ '-') (pos : 0 < k) :
    Faithful sep k (padded width (n / 10 ^ k) ++ sep :: padded k (n % 10 ^ k)) n := by
  constructor
  · rw [parseFixed_unsigned, parseUnsigned_padded hsep pos (mod_lt n k), Nat.div_add_mod]
    rfl
  · simp [count_padded, hne]

/-- Whole part and fraction behind a minus sign. -/
lemma faithful_minus (hsep : sep.isDigit = false) (hne : sep ≠ '-') (pos : 0 < k) (hn : 0 < n) :
    Faithful sep k ('-' :: (padded width (n / 10 ^ k) ++ sep :: padded k (n % 10 ^ k))) (-n) := by
  constructor
  · rw [parseFixed_minus, parseUnsigned_padded hsep pos (mod_lt n k), Nat.div_add_mod]
    rfl
  · simp [count_padded, hne, hn]

/-- Whole part and fraction behind an escaped minus sign. -/
lemma faithful_escaped (hsep : sep.isDigit = false) (hne : sep ≠ '-') (pos : 0 < k) (hn : 0 < n) :
    Faithful sep k ('\\' :: '-' :: (padded width (n / 10 ^ k) ++ sep :: padded k (n % 10 ^ k)))
      (-n) := by
  constructor
  · rw [parseFixed_escaped, parseUnsigned_padded hsep pos (mod_lt n k), Nat.div_add_mod]
    rfl
  · simp [count_padded, hne, hn]

/-! ## The status -/

/-- The status of a number without a sign. -/
lemma statusFixed_natCast :
    statusFixed k n = padded 0 (n / 10 ^ k) ++ ',' :: padded k (n % 10 ^ k) := by
  have hsign : ¬ ((n % 10 ^ k : ℕ) : ℤ) < 0 := (Int.natCast_nonneg _).not_gt
  simp only [statusFixed, tdiv_natCast, tmod_natCast, printInt_natCast, Int.natAbs_natCast, hsign,
    if_false, List.nil_append]

/-- The sign of the remainder comes before the quotient, which brings its own. -/
lemma statusFixed_neg (hrem : n % 10 ^ k ≠ 0) : statusFixed k (-n : ℤ)
    = '\\' :: '-' :: (printInt 0 (-(n / 10 ^ k : ℕ) : ℤ) ++ ',' :: padded k (n % 10 ^ k)) := by
  have hsign : -((n % 10 ^ k : ℕ) : ℤ) < 0 := by omega
  simp only [statusFixed, Int.neg_tdiv, Int.neg_tmod, tdiv_natCast, tmod_natCast, Int.natAbs_neg,
    Int.natAbs_natCast, hsign, if_true]
  rfl

/-- Without a fraction the quotient prints the sign of its own. -/
lemma statusFixed_neg_of_dvd (hrem : n % 10 ^ k = 0) : statusFixed k (-n : ℤ)
    = printInt 0 (-(n / 10 ^ k : ℕ) : ℤ) ++ ',' :: padded k (n % 10 ^ k) := by
  have htmod : (n : ℤ).tmod (10 ^ k) = 0 := by rw [tmod_natCast, hrem, Nat.cast_zero]
  simp [statusFixed, Int.neg_tdiv, Int.neg_tmod, htmod, hrem]

/-- Whole units bring the sign of the quotient alone. -/
lemma faithful_status_neg_of_dvd (pos : 0 < k) (hn : 0 < n) (hrem : n % 10 ^ k = 0) :
    Faithful ',' k (statusFixed k (-n : ℤ)) (-n) := by
  rw [statusFixed_neg_of_dvd hrem, printInt_neg (div_pos_of_dvd hn hrem)]
  exact faithful_minus rfl (by decide) pos hn

/-- A fraction brings the sign of the remainder, so the quotient must be zero. -/
lemma faithful_status_neg_iff (pos : 0 < k) (hn : 0 < n) (hrem : n % 10 ^ k ≠ 0) :
    Faithful ',' k (statusFixed k (-n : ℤ)) (-n) ↔ n < 10 ^ k := by
  rw [statusFixed_neg hrem]
  constructor
  · rintro ⟨-, hcount⟩
    by_contra hle
    have hquot : 0 < n / 10 ^ k := Nat.div_pos (not_lt.mp hle) (by positivity)
    rw [printInt_neg hquot] at hcount
    simp [count_padded, hn] at hcount
  · intro hlt
    have hprint : printInt 0 (-(n / 10 ^ k : ℕ) : ℤ) = padded 0 (n / 10 ^ k) := by
      rw [Nat.div_eq_of_lt hlt]
      rfl
    rw [hprint]
    exact faithful_escaped rfl (by decide) pos hn

/-- The status is faithful up to one unit below zero, and for whole units. -/
lemma faithful_status_iff (pos : 0 < k) {x : ℤ} :
    Faithful ',' k (statusFixed k x) x ↔ -10 ^ k < x ∨ 10 ^ k ∣ x := by
  have hnonneg (n : ℕ) : Faithful ',' k (statusFixed k n) n := by
    rw [statusFixed_natCast]
    exact faithful_unsigned rfl (by decide) pos
  obtain ⟨n, rfl | rfl⟩ := x.eq_nat_or_neg
  · have hlt : (-10 ^ k : ℤ) < n := lt_of_lt_of_le (by simp) (Int.natCast_nonneg n)
    exact iff_of_true (hnonneg n) (.inl hlt)
  · have hlt : (-10 ^ k : ℤ) < -n ↔ n < 10 ^ k := by
      rw [neg_lt_neg_iff]
      norm_cast
    have hdvd : (10 ^ k : ℤ) ∣ -n ↔ n % 10 ^ k = 0 := by
      rw [dvd_neg, ← Nat.dvd_iff_mod_eq_zero]
      norm_cast
    rw [hlt, hdvd]
    rcases n.eq_zero_or_pos with rfl | hn
    · exact iff_of_true (hnonneg 0) (.inl (by positivity))
    · by_cases hrem : n % 10 ^ k = 0
      · exact iff_of_true (faithful_status_neg_of_dvd pos hn hrem) (.inr hrem)
      · rw [faithful_status_neg_iff pos hn hrem]
        simp [hrem]

/-! ## The home screen -/

lemma tdiv_thousand : (n : ℤ).tdiv 1000 = (n / 10 ^ 3 : ℕ) := by
  rw [← tdiv_natCast]
  norm_num

lemma tmod_thousand : (n : ℤ).tmod 1000 = (n % 10 ^ 3 : ℕ) := by
  rw [← tmod_natCast]
  norm_num

/-- The home screen with a voltage that is not negative. -/
lemma homeVoltage_natCast :
    homeVoltage n = padded 2 (n / 10 ^ 3) ++ '.' :: padded 3 (n % 10 ^ 3) := by
  rw [homeVoltage, tdiv_thousand, tmod_thousand, printInt_natCast, printInt_natCast]

/-- With a negative one, both parts print their sign. -/
lemma homeVoltage_neg : homeVoltage (-n) = printInt 2 (-(n / 10 ^ 3 : ℕ) : ℤ) ++
    '.' :: printInt 3 (-(n % 10 ^ 3 : ℕ) : ℤ) := by
  rw [homeVoltage, Int.neg_tdiv, Int.neg_tmod, tdiv_thousand, tmod_thousand]

/-- Both parts bring a sign; the one in the fraction is only absent when the fraction is zero. -/
lemma faithful_home_neg_iff (hn : 0 < n) :
    Faithful '.' 3 (homeVoltage (-n)) (-n) ↔ n % 10 ^ 3 = 0 := by
  rw [homeVoltage_neg]
  constructor
  · rintro ⟨hparse, -⟩
    by_contra hrem
    rw [printInt_neg (Nat.pos_of_ne_zero hrem)] at hparse
    rcases (n / 10 ^ 3).eq_zero_or_pos with hzero | hpos
    · rw [hzero, Nat.cast_zero, neg_zero, ← Nat.cast_zero, printInt_natCast, parseFixed_unsigned,
        parseUnsigned_minus rfl] at hparse
      cases hparse
    · rw [printInt_neg hpos, List.cons_append, parseFixed_minus, parseUnsigned_minus rfl] at hparse
      cases hparse
  · intro hrem
    have hfraction : printInt 3 (-(n % 10 ^ 3 : ℕ) : ℤ) = padded 3 (n % 10 ^ 3) := by
      rw [hrem]
      rfl
    rw [hfraction, printInt_neg (div_pos_of_dvd hn hrem)]
    exact faithful_minus rfl (by decide) (by decide) hn

/-- The home screen is faithful for numbers that are not negative, and for whole units. -/
lemma faithful_home_iff {x : ℤ} : Faithful '.' 3 (homeVoltage x) x ↔ 0 ≤ x ∨ 1000 ∣ x := by
  have hnonneg (n : ℕ) : Faithful '.' 3 (homeVoltage n) n := by
    rw [homeVoltage_natCast]
    exact faithful_unsigned rfl (by decide) (by decide)
  obtain ⟨n, rfl | rfl⟩ := x.eq_nat_or_neg
  · exact iff_of_true (hnonneg n) (.inl (Int.natCast_nonneg n))
  · rcases n.eq_zero_or_pos with rfl | hn
    · exact iff_of_true (hnonneg 0) (.inl (by decide))
    · rw [faithful_home_neg_iff hn]
      omega

/-! ## Which numbers are displayed faithfully -/

/-- A number is displayed faithfully by the status if it is above one unit below zero or a whole number
of units, and by the home screen if it is not negative or a whole number of units. -/
theorem fixedPoint_iff (x : ℤ) :
    (Faithful ',' 2 (statusVoltage x) x ↔ -100 < x ∨ 100 ∣ x) ∧
    (Faithful ',' 3 (statusCurrent x) x ↔ -1000 < x ∨ 1000 ∣ x) ∧
    (Faithful '.' 3 (homeVoltage x) x ↔ 0 ≤ x ∨ 1000 ∣ x) :=
  ⟨faithful_status_iff (by decide), faithful_status_iff (by decide), faithful_home_iff⟩

/-- A volt and a half below zero: the status prints `\--1,50` and the home screen `-1.-500`. -/
theorem fixedPoint_negative :
    ¬ ((∀ x, Faithful ',' 2 (statusVoltage x) x) ∧ (∀ x, Faithful ',' 3 (statusCurrent x) x) ∧
      ∀ x, Faithful '.' 3 (homeVoltage x) x) := by
  rintro ⟨hvoltage, -, -⟩
  have hcount : (statusVoltage (-150)).count '-' = 1 := (hvoltage (-150)).2
  revert hcount
  decide +kernel

end AstroPowerBox.Display
