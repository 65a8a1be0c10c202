import AstroPowerBox.Battery.Loop
import AstroPowerBox.Foundation.Binary

/-!
# Charge accounting

Between two samples the charge counter changes by the integral of the current, each interval by the
trapezoidal rule and truncated to a whole µAs (`chargeSum`). The counter keeps this sum as long as
each interval is taken into account and its product fits into 32 bits (`accounting_iff`).
-/

namespace AstroPowerBox.Battery
open Foundation

section
variable {R : Rounding}

/-- The charge that flows between two samples, in µAs. -/
def chargeBetween (x y : Sample R) : ℤ :=
  ((y.currentMilliAmps.toInt + x.currentMilliAmps.toInt) * (y.time - x.time)).tdiv 2

/-- The charge that flows from the sample `x` through the samples `ys`. -/
def chargeSum (x : Sample R) : List (Sample R) → ℤ
  | [] => 0
  | y :: ys => chargeBetween x y + chargeSum y ys

/-- The samples that a run takes. -/
def samples (s : Lifepo4Battery R) (calls : List (BatteryCall R)) : List (Sample R) :=
  outputs Lifepo4Battery.loop (fun s c => if s.due c then [c.sample] else []) s calls

/-- The last sample of a run that begins after the sample of `k`. -/
def lastSample (s : Lifepo4Battery R) (k : BatteryCall R) (calls : List (BatteryCall R)) : Sample R :=
  (samples s calls).getLastD k.sample

/-- What the sensor can deliver, at most 13654 mA, sampled less than `2 ^ 31` ms after the last
sample; and the counter is neither clamped nor recalibrated. -/
def Undisturbed (s : Lifepo4Battery R) (k : BatteryCall R) (hist : List (BatteryCall R))
    (c : BatteryCall R) : Prop :=
  let pre := run Lifepo4Battery.loop s hist
  pre.due c = true →
    c.sample.currentMilliAmps.toInt.natAbs ≤ 13654 ∧
    c.time < (lastSample s k hist).time + 2 ^ 31 ∧
    pre.recalibrates c.sample = false ∧
    (pre.lastUpdate ≠ 0 →
      0 ≤ pre.chargeRemainingFine + (pre.deltaCharge c.sample).toInt64 ∧
      pre.chargeRemainingFine + (pre.deltaCharge c.sample).toInt64 ≤ chargeTotalFine R)

/-- The sample of the call is accounted for: its interval is not skipped, no 32-bit operation on it
overflows, and the counter has changed since `k` by the charge that has flown. -/
def AccountedExactly (s : Lifepo4Battery R) (k : BatteryCall R) (hist : List (BatteryCall R))
    (c : BatteryCall R) : Prop :=
  let pre := run Lifepo4Battery.loop s hist
  let x := lastSample s k hist
  let y := c.sample
  pre.due c = true →
    pre.lastUpdate ≠ 0 ∧
    (pre.currentSumMilliAmps y).toInt = y.currentMilliAmps.toInt + x.currentMilliAmps.toInt ∧
    (pre.deltaTimeMs y).toInt = (y.time : ℤ) - x.time ∧
    (pre.currentSumMilliAmps y * pre.deltaTimeMs y).toInt
      = (pre.currentSumMilliAmps y).toInt * (pre.deltaTimeMs y).toInt ∧
    (run Lifepo4Battery.loop s (hist ++ [c])).chargeRemainingFine.toInt - s.chargeRemainingFine.toInt
      = chargeSum k.sample (samples s (hist ++ [c]))

/-- The last sample was not taken at reading 0 of the clock, and the product of currents and time fits
into 32 bits. -/
def IntervalFits (s : Lifepo4Battery R) (k : BatteryCall R) (hist : List (BatteryCall R))
    (c : BatteryCall R) : Prop :=
  let x := lastSample s k hist
  let y := c.sample
  (run Lifepo4Battery.loop s hist).due c = true →
    millis x.time ≠ 0 ∧
    -2 ^ 31 ≤ (y.currentMilliAmps.toInt + x.currentMilliAmps.toInt) * ((y.time : ℤ) - x.time) ∧
    (y.currentMilliAmps.toInt + x.currentMilliAmps.toInt) * ((y.time : ℤ) - x.time) < 2 ^ 31

/-! ## One interval -/

/-- A product of 32 bits is exact if and only if it fits. -/
lemma toInt_mul_eq_iff {a b : Int32} :
    (a * b).toInt = a.toInt * b.toInt ↔
      -2 ^ 31 ≤ a.toInt * b.toInt ∧ a.toInt * b.toInt < 2 ^ 31 := by
  rw [Int32.toInt_mul]
  generalize a.toInt * b.toInt = p
  rw [Int.bmod_def]
  omega

/-- Half of a number is truncated as in the source. -/
lemma toInt_div_two {a : Int32} : (a / 2).toInt = a.toInt.tdiv 2 := by
  exact Int32.toInt_div_of_ne_right a 2 (by decide)

/-- The capacity in ampere seconds is exact in every format. -/
lemma chargeTotal_val : (chargeTotal : Rounded R).val = 108000 := by
  have h30 : (30 : Rounded R).val = 30 := Rounded.natCast_val (by norm_num)
  have h3600 : (3600 : Rounded R).val = 3600 := Rounded.natCast_val (by norm_num)
  have h := R.round_intCast (n := 108000) (by norm_num)
  rw [chargeTotal, Rounded.mul_val, h30, h3600]
  norm_num at h ⊢
  exact h

/-- The capacity is far inside the range of the counter. -/
lemma chargeTotalFine_le : (chargeTotalFine R).toInt ≤ 2 ^ 37 := by
  have hmul : ((chargeTotal : Rounded R) * 1000000).val = R.round 108000000000 := by
    rw [Rounded.mul_val, chargeTotal_val,
      show (1000000 : Rounded R).val = 1000000 from Rounded.natCast_val (by norm_num)]
    norm_num
  have hnonneg : 0 ≤ R.round 108000000000 := R.round_nonneg (by norm_num)
  have hle : R.round 108000000000 ≤ 2 ^ 37 := by
    have hfine := R.fine 1 37 (by norm_num) (by norm_num)
    have hmono := R.mono (show (108000000000 : ℚ) ≤ (1 : ℤ) * 2 ^ (37 : ℤ) by norm_num)
    rw [hfine] at hmono
    simpa using hmono
  have hfloor : ⌊R.round 108000000000⌋ ≤ 2 ^ 37 := by
    have h := (Int.floor_le (R.round 108000000000)).trans hle
    exact_mod_cast h
  have hfloor' : 0 ≤ ⌊R.round 108000000000⌋ := Int.floor_nonneg.mpr hnonneg
  rw [chargeTotalFine, Rounded.trunc_eq_floor (by rwa [hmul]), hmul,
    Int64.toInt_ofInt_of_le (by omega) (by omega)]
  exact hfloor

/-- An addition that is not clamped has not wrapped. -/
lemma toInt_add_of_le_total {a : Int64} {d : Int32} (hnonneg : 0 ≤ a + d.toInt64)
    (hle : a + d.toInt64 ≤ chargeTotalFine R) : (a + d.toInt64).toInt = a.toInt + d.toInt := by
  have htotal := chargeTotalFine_le (R := R)
  rw [Int64.le_iff_toInt_le, Int64.toInt_add, Int32.toInt_toInt64] at *
  have h1 := a.le_toInt
  have h2 := a.toInt_lt
  have h3 := d.le_toInt
  have h4 := d.toInt_lt
  generalize a.toInt = a at *
  generalize d.toInt = d at *
  -- a wrapped sum would be negative, or far above the capacity
  rw [show (0 : Int64).toInt = 0 from rfl, Int.bmod_def] at *
  omega

variable {s : Lifepo4Battery R} {x y : Sample R}

/-- The operands of the product, where the interval is not too long and the currents are those of the
sensor. -/
lemma operands_eq (hlast : s.lastUpdate = millis x.time)
    (hprev : s.prevCurrentMilliAmps = x.currentMilliAmps)
    (hx : x.currentMilliAmps.toInt.natAbs ≤ 13654) (hy : y.currentMilliAmps.toInt.natAbs ≤ 13654)
    (hle : x.time ≤ y.time) (hgap : y.time < x.time + 2 ^ 31) :
    (s.currentSumMilliAmps y).toInt = y.currentMilliAmps.toInt + x.currentMilliAmps.toInt ∧
      (s.deltaTimeMs y).toInt = (y.time : ℤ) - x.time := by
  constructor
  · rw [Lifepo4Battery.currentSumMilliAmps, hprev, Int32.toInt_add, Int.bmod_def]
    omega
  · have helapsed : (millis y.time - millis x.time).toNat = y.time - x.time :=
      elapsed_eq hle (by omega)
    rw [Lifepo4Battery.deltaTimeMs, hlast]
    change (millis y.time - millis x.time).toBitVec.toInt = _
    rw [BitVec.toInt_eq_toNat_bmod, UInt32.toNat_toBitVec, helapsed, Int.bmod_def]
    omega

/-- A sample that neither recalibrates nor is clamped adds half of the product. -/
lemma toInt_sample (hinit : s.lastUpdate ≠ 0) (hrecal : s.recalibrates y = false)
    (hnonneg : 0 ≤ s.chargeRemainingFine + (s.deltaCharge y).toInt64)
    (hle : s.chargeRemainingFine + (s.deltaCharge y).toInt64 ≤ chargeTotalFine R) :
    (s.sample y).chargeRemainingFine.toInt
      = s.chargeRemainingFine.toInt
        + (s.currentSumMilliAmps y * s.deltaTimeMs y).toInt.tdiv 2 := by
  have hmin : min (s.chargeRemainingFine + (s.deltaCharge y).toInt64) (chargeTotalFine R)
      = s.chargeRemainingFine + (s.deltaCharge y).toInt64 := if_pos hle
  have hmax : max (s.chargeRemainingFine + (s.deltaCharge y).toInt64) 0
      = s.chargeRemainingFine + (s.deltaCharge y).toInt64 := by
    change (if _ ≤ (0 : Int64) then 0 else _) = _
    split
    case isTrue h => exact Int64.le_antisymm hnonneg h
    case isFalse => rfl
  rw [Lifepo4Battery.chargeRemainingFine_sample, hrecal, if_neg (by simp), if_pos hinit,
    Lifepo4Battery.integrate]
  simp only [hmin, hmax]
  rw [toInt_add_of_le_total hnonneg hle, Lifepo4Battery.deltaCharge, toInt_div_two]

/-! ## A run of intervals -/

/-- The last sample adds the charge since the one before it. -/
lemma chargeSum_concat {ys : List (Sample R)} :
    chargeSum x (ys ++ [y]) = chargeSum x ys + chargeBetween (ys.getLastD x) y := by
  induction ys generalizing x with
  | nil => simp [chargeSum]
  | cons z zs ih => rw [List.cons_append, chargeSum, ih, chargeSum, List.getLastD_cons, add_assoc]

variable {s0 : Lifepo4Battery R} {k c : BatteryCall R} {hist calls : List (BatteryCall R)}

/-- A call adds its sample if one is due. -/
lemma samples_concat :
    samples s (hist ++ [c])
      = samples s hist ++ if (run Lifepo4Battery.loop s hist).due c then [c.sample] else [] := by
  rw [samples, outputs_concat]
  rfl

/-- A call that is due replaces the last sample. -/
lemma lastSample_concat :
    lastSample s k (hist ++ [c])
      = if (run Lifepo4Battery.loop s hist).due c then c.sample else lastSample s k hist := by
  rw [lastSample, samples_concat]
  split_ifs
  · rw [List.getLastD_concat]
  · rw [List.append_nil]
    rfl

/-- The last sample is not in the future. -/
lemma time_lastSample_le (chron : Chronological k.time hist) :
    (lastSample s k hist).time ≤ endTime k.time hist := by
  induction hist using List.reverseRecOn with
  | nil => exact le_rfl
  | append_singleton hist c ih =>
    obtain ⟨chron, hstart, hstop⟩ := chronological_concat.mp chron
    rw [lastSample_concat, endTime_concat]
    split_ifs
    · exact le_rfl
    · exact (ih chron).trans (hstart.trans hstop)

/-- After the sample of `k`, the battery keeps the time and the current of the last sample. -/
lemma keeps_lastSample (hist : List (BatteryCall R)) (hk : s0.due k = true) :
    (run Lifepo4Battery.loop (s0.loop k) hist).initialized = true ∧
      (run Lifepo4Battery.loop (s0.loop k) hist).lastUpdate
        = millis (lastSample (s0.loop k) k hist).time ∧
      (run Lifepo4Battery.loop (s0.loop k) hist).prevCurrentMilliAmps
        = (lastSample (s0.loop k) k hist).currentMilliAmps := by
  induction hist using List.reverseRecOn with
  | nil => simp [Lifepo4Battery.loop, hk, lastSample, samples]
  | append_singleton hist c ih =>
    obtain ⟨hready, ihLast, ihPrev⟩ := ih
    rw [lastSample_concat, run_concat, Lifepo4Battery.loop,
      Lifepo4Battery.ready_of_initialized hready]
    split_ifs
    · exact ⟨Lifepo4Battery.initialized_sample.trans hready, rfl, rfl⟩
    · exact ⟨hready, ihLast, ihPrev⟩

/-- The last sample is one that the sensor can deliver. -/
lemma natAbs_lastSample_le (hcurrent : k.sample.currentMilliAmps.toInt.natAbs ≤ 13654)
    (h : EveryStep (Undisturbed s k) hist) :
    (lastSample s k hist).currentMilliAmps.toInt.natAbs ≤ 13654 := by
  induction hist using List.reverseRecOn with
  | nil => exact hcurrent
  | append_singleton hist c ih =>
    obtain ⟨h, hc⟩ := everyStep_concat.mp h
    rw [lastSample_concat]
    split_ifs with hdue
    · exact (hc hdue).1
    · exact ih h

/-- Neither the sum of the currents nor the difference of the times overflows. -/
lemma operands_run (hk : s0.due k = true)
    (hcurrent : k.sample.currentMilliAmps.toInt.natAbs ≤ 13654)
    (chron : Chronological k.time (hist ++ [c]))
    (h : EveryStep (Undisturbed (s0.loop k) k) (hist ++ [c]))
    (hdue : (run Lifepo4Battery.loop (s0.loop k) hist).due c = true) :
    ((run Lifepo4Battery.loop (s0.loop k) hist).currentSumMilliAmps c.sample).toInt
        = c.sample.currentMilliAmps.toInt
          + (lastSample (s0.loop k) k hist).currentMilliAmps.toInt ∧
      ((run Lifepo4Battery.loop (s0.loop k) hist).deltaTimeMs c.sample).toInt
        = (c.sample.time : ℤ) - (lastSample (s0.loop k) k hist).time := by
  obtain ⟨-, hlast, hprev⟩ := keeps_lastSample hist hk
  obtain ⟨chron, hstart, hstop⟩ := chronological_concat.mp chron
  obtain ⟨h, hc⟩ := everyStep_concat.mp h
  obtain ⟨hy, hgap, -⟩ := hc hdue
  have hle : (lastSample (s0.loop k) k hist).time ≤ c.time :=
    (time_lastSample_le chron).trans (hstart.trans hstop)
  exact operands_eq hlast hprev (natAbs_lastSample_le hcurrent h) hy hle hgap

/-- As long as the intervals fit, the counter changes by the charge that flows. -/
lemma change_eq (hk : s0.due k = true)
    (hcurrent : k.sample.currentMilliAmps.toInt.natAbs ≤ 13654)
    (chron : Chronological k.time calls) (h : EveryStep (Undisturbed (s0.loop k) k) calls)
    (hfits : EveryStep (IntervalFits (s0.loop k) k) calls) :
    (run Lifepo4Battery.loop (s0.loop k) calls).chargeRemainingFine.toInt
        - (s0.loop k).chargeRemainingFine.toInt
      = chargeSum k.sample (samples (s0.loop k) calls) := by
  induction calls using List.reverseRecOn with
  | nil => simp [samples, chargeSum]
  | append_singleton hist c ih =>
    obtain ⟨hready, hlast, -⟩ := keeps_lastSample hist hk
    have ih := ih (chronological_concat.mp chron).1 (everyStep_concat.mp h).1
      (everyStep_concat.mp hfits).1
    rw [run_concat, samples_concat]
    nth_rewrite 1 [Lifepo4Battery.loop]
    rw [Lifepo4Battery.ready_of_initialized hready]
    split_ifs with hdue
    · -- the product is the exact one, so the counter takes the charge of the interval
      obtain ⟨hne, hfits⟩ := (everyStep_concat.mp hfits).2 hdue
      obtain ⟨-, -, hrecal, hclamp⟩ := (everyStep_concat.mp h).2 hdue
      obtain ⟨hsum, hdelta⟩ := operands_run hk hcurrent chron h hdue
      have hinit : (run Lifepo4Battery.loop (s0.loop k) hist).lastUpdate ≠ 0 := hlast ▸ hne
      obtain ⟨hnonneg, hle⟩ := hclamp hinit
      rw [← hsum, ← hdelta] at hfits
      have hprod := toInt_mul_eq_iff.mpr hfits
      have hbetween : chargeBetween (lastSample (s0.loop k) k hist) c.sample
          = ((run Lifepo4Battery.loop (s0.loop k) hist).currentSumMilliAmps c.sample
            * (run Lifepo4Battery.loop (s0.loop k) hist).deltaTimeMs c.sample).toInt.tdiv 2 := by
        rw [hprod, hsum, hdelta]
        rfl
      rw [toInt_sample hinit hrecal hnonneg hle, chargeSum_concat, ← ih, ← hbetween, lastSample]
      omega
    · rw [List.append_nil, ih]

/-- Between the sample of `k` and any later one the charge accounting is exact, exactly if every
interval fits: for currents the sensor can deliver, gaps below `2 ^ 31` ms, and a counter that is
neither clamped nor recalibrated. -/
theorem accounting_iff (hk : s0.due k = true)
    (hcurrent : k.sample.currentMilliAmps.toInt.natAbs ≤ 13654)
    (chron : Chronological k.time calls) (h : EveryStep (Undisturbed (s0.loop k) k) calls) :
    EveryStep (AccountedExactly (s0.loop k) k) calls ↔
      EveryStep (IntervalFits (s0.loop k) k) calls := by
  constructor
  · intro hexact hist c pre hdue
    obtain ⟨hinit, hsum, hdelta, hprod, -⟩ := hexact hist c pre hdue
    have hfits := toInt_mul_eq_iff.mp hprod
    rw [hsum, hdelta] at hfits
    rw [(keeps_lastSample hist hk).2.1] at hinit
    exact ⟨hinit, hfits⟩
  · intro hfits hist c pre hdue
    have chron := chron.of_prefix pre
    have h := h.of_prefix pre
    have hfits := hfits.of_prefix pre
    obtain ⟨hsum, hdelta⟩ := operands_run hk hcurrent chron h hdue
    obtain ⟨hne, hfits'⟩ := (everyStep_concat.mp hfits).2 hdue
    have hlast := (keeps_lastSample hist hk).2.1
    rw [← hsum, ← hdelta] at hfits'
    exact ⟨hlast ▸ hne, hsum, hdelta, toInt_mul_eq_iff.mpr hfits', change_eq hk hcurrent chron h hfits⟩

end

/-! ## A gap of 90 seconds -/

/-- A sample while the battery is charged with 13 A. -/
def chargingSample : BatteryCall .binary32 := ⟨1000, 1003, 13, 13, 54000⟩

/-- The next sample, after the main loop was blocked for 90 s. -/
def lateSample : BatteryCall .binary32 := ⟨91003, 91003, 13, 13, 54000⟩

/-- Nothing but its time is wrong with the late sample. -/
lemma undisturbed_lateSample :
    EveryStep (Undisturbed (Lifepo4Battery.loop {} chargingSample) chargingSample) [lateSample] := by
  rw [everyStep_singleton]
  unfold Undisturbed
  decide +kernel

/-- 90 s at 13 A overflow the product. -/
theorem accounting_lateSample :
    EveryStep (Undisturbed (Lifepo4Battery.loop {} chargingSample) chargingSample) [lateSample] ∧
      ¬ EveryStep (AccountedExactly (Lifepo4Battery.loop {} chargingSample) chargingSample)
        [lateSample] := by
  refine ⟨undisturbed_lateSample, ?_⟩
  rw [everyStep_singleton]
  unfold AccountedExactly
  decide +kernel

/-- The late sample meets neither side. -/
theorem accounting_iff_lateSample :
    EveryStep (AccountedExactly (Lifepo4Battery.loop {} chargingSample) chargingSample) [lateSample] ↔
      EveryStep (IntervalFits (Lifepo4Battery.loop {} chargingSample) chargingSample) [lateSample] :=
  accounting_iff (by decide +kernel) (by decide +kernel) (by decide +kernel) undisturbed_lateSample

end AstroPowerBox.Battery
