import AstroPowerBox.Battery.Accounting

/-!
# Recalibration from the resting voltage

The charge counter is overwritten from the voltage only where the voltage is that of a battery at
rest. The idle timer is restarted by every sample that is not idle, so it says that all samples of the
last five minutes were (`idleSince_run`); but a sample looks at it before it restarts it. A sample that
is not idle and ends such a rest thus overwrites the counter, unless its voltage is in the band of the
charge (`recalibration_iff`).
-/

namespace AstroPowerBox.Battery
open Foundation

section
variable {R : Rounding}

/-- The battery after a run from power-up. -/
def after (calls : List (BatteryCall R)) : Lifepo4Battery R := run Lifepo4Battery.loop {} calls

/-- The call takes a sample that overwrites the counter from the voltage. -/
def Recalibrates (hist : List (BatteryCall R)) (c : BatteryCall R) : Prop :=
  (after hist).due c = true ∧ ((after hist).ready c).recalibrates c.sample = true

/-- Every sample of the calls that was taken at `since` or later is idle. -/
def IdleSince (since : ℕ) (calls : List (BatteryCall R)) : Prop :=
  EveryStep (fun hist c => (after hist).due c = true → since ≤ c.time → c.sample.idle = true) calls

/-- If the call recalibrates, its own sample and all samples of the 300000 ms before it are idle. -/
def RecalibratesAtRest (hist : List (BatteryCall R)) (c : BatteryCall R) : Prop :=
  Recalibrates hist c → c.sample.idle = true ∧ IdleSince (c.time - 300000) hist

/-- The time of the last sample that was not idle, that of power-up if there is none. -/
def lastBusy (hist : List (BatteryCall R)) : ℕ :=
  ((samples {} hist).filter fun x => !x.idle).getLast?.elim 0 Sample.time

/-- What flows between two samples, in µAs, as far as 32 bits hold it. -/
def flow (x y : Sample R) : Int32 :=
  .ofInt ((y.currentMilliAmps.toInt + x.currentMilliAmps.toInt) * (y.time - x.time)) / 2

/-- The charge in percent of the capacity. -/
def chargeLevel (charge : Int64) : Rounded R :=
  min 100 (max 0 (.ofInt (max (min charge (chargeTotalFine R)) 0).toInt / 1000000 / chargePerPercent))

/-- A voltage that a battery with the charge may have: near the end voltages of the curve to ten
percent, between them anything but the opposite end. -/
def InBand (voltage level : Rounded R) : Prop :=
  let distance := (min 100 (max 0 (getSoCFromRestingVoltage voltage)) - level).abs
  if voltage ≤ 12.5 then distance ≤ 10
  else if voltage < 13.4 then 10 ≤ level ∧ distance ≤ 90
  else 10 ≤ level ∧ distance ≤ 10

/-- A sample that is not idle and comes more than 300000 ms, by a clock of 32 bits, after the last one
that was not, has a voltage in the band of the charge: what the counter holds before, and what has
flown since the sample before. Before the first sample, and after one at reading 0 of the clock,
anything will do. -/
def EndsRestInBand (hist : List (BatteryCall R)) (c : BatteryCall R) : Prop :=
  (after hist).due c = true → c.sample.idle = false →
    300000 < (c.time - lastBusy hist) % 2 ^ 32 →
      ∀ x ∈ (samples {} hist).getLast?, x.time % 2 ^ 32 ≠ 0 →
        InBand c.voltage (chargeLevel ((after hist).chargeRemainingFine + (flow x c.sample).toInt64))

variable {hist calls : List (BatteryCall R)} {c : BatteryCall R}

/-! ## The timer and the last sample -/

lemma after_concat : after (hist ++ [c]) = (after hist).loop c := run_concat _

lemma samples_after : samples {} (hist ++ [c])
    = samples {} hist ++ if (after hist).due c then [c.sample] else [] := samples_concat

/-- A sample with a current is the last busy one from then on. -/
lemma lastBusy_concat : lastBusy (hist ++ [c])
    = if (after hist).due c = true ∧ c.sample.idle = false then c.time else lastBusy hist := by
  rw [lastBusy, samples_after, List.filter_append]
  cases (after hist).due c <;> cases hidle : c.sample.idle <;> simp [lastBusy, hidle]

/-- The timer runs since the last sample that was not idle. -/
lemma idleCurrentSince_after : (after hist).idleCurrentSince = millis (lastBusy hist) := by
  induction hist using List.reverseRecOn with
  | nil => rfl
  | append_singleton hist c ih =>
    rw [after_concat, Lifepo4Battery.idleCurrentSince_loop, lastBusy_concat, ih]
    split_ifs
    · rfl
    · rfl

/-- The last busy sample is not in the future. -/
lemma lastBusy_le (chron : Chronological 0 hist) : lastBusy hist ≤ endTime 0 hist := by
  induction hist using List.reverseRecOn with
  | nil => exact le_rfl
  | append_singleton hist c ih =>
    obtain ⟨chron, hstart, hstop⟩ := chronological_concat.mp chron
    rw [lastBusy_concat, endTime_concat]
    split_ifs
    · exact le_rfl
    · exact (ih chron).trans (hstart.trans hstop)

/-- Since the last sample that was not idle, only idle ones have been taken. -/
lemma idleSince_run (chron : Chronological 0 calls) : IdleSince (lastBusy calls + 1) calls := by
  induction calls using List.reverseRecOn with
  | nil => exact everyStep_nil
  | append_singleton calls c ih =>
    obtain ⟨chron, hstart, hstop⟩ := chronological_concat.mp chron
    rw [lastBusy_concat]
    split_ifs with hbusy
    · -- the sample restarts the timer: no sample has been taken after it
      refine everyStep_concat.mpr ⟨?_, ?_⟩
      · intro hist p pre _ hlate
        have hp : p.time ≤ endTime 0 calls := chron.stop_le hist p pre
        simp only [timed_start, timed_stop] at hstart hstop
        omega
      · intro _ hlate
        omega
    · -- no sample, or an idle one: the timer goes on
      refine everyStep_concat.mpr ⟨ih chron, ?_⟩
      intro hdue _
      simpa [hdue] using hbusy

/-- What the battery keeps of the last sample. -/
def Keeps (s : Lifepo4Battery R) : Option (Sample R) → Prop
  | none => s.lastUpdate = 0
  | some x => s.initialized = true ∧ s.lastUpdate = millis x.time ∧
      s.prevCurrentMilliAmps = x.currentMilliAmps

/-- The variables hold what the history says of them. -/
lemma keeps_after : Keeps (after hist) (samples {} hist).getLast? := by
  induction hist using List.reverseRecOn with
  | nil => rfl
  | append_singleton hist c ih =>
    rw [after_concat, samples_after]
    cases hdue : (after hist).due c with
    | true =>
      rw [if_pos rfl, List.getLast?_concat, Lifepo4Battery.loop_of_due hdue]
      exact ⟨by simp, rfl, rfl⟩
    | false =>
      have hloop : (after hist).loop c = (after hist).ready c := by
        rw [Lifepo4Battery.loop, Lifepo4Battery.due_ready, hdue]
        rfl
      rw [if_neg Bool.false_ne_true, List.append_nil, hloop]
      cases hlast : (samples {} hist).getLast? with
      | none =>
        rw [hlast] at ih
        exact Lifepo4Battery.lastUpdate_ready.trans ih
      | some x =>
        rw [hlast] at ih
        rwa [Lifepo4Battery.ready_of_initialized ih.1]

/-! ## Counter and voltage -/

variable {s : Lifepo4Battery R} {x y : Sample R}

/-- The operations on 32 bits see the times and currents of the samples. -/
lemma deltaCharge_eq (hlast : s.lastUpdate = millis x.time)
    (hprev : s.prevCurrentMilliAmps = x.currentMilliAmps) : s.deltaCharge y = flow x y := by
  have hsum : y.currentMilliAmps + x.currentMilliAmps
      = .ofInt (y.currentMilliAmps.toInt + x.currentMilliAmps.toInt) := by
    rw [Int32.ofInt_add, Int32.ofInt_toInt, Int32.ofInt_toInt]
  have helapsed : (millis y.time - millis x.time).toInt32 = .ofInt (y.time - x.time) := by
    rw [UInt32.toInt32_sub, Int32.ofInt_sub, Int32.ofInt_eq_ofNat, Int32.ofInt_eq_ofNat]
    rfl
  rw [Lifepo4Battery.deltaCharge, Lifepo4Battery.currentSumMilliAmps, Lifepo4Battery.deltaTimeMs,
    hlast, hprev, hsum, helapsed, ← Int32.ofInt_mul, flow]

/-- After a rest, counter and voltage fit together exactly in the band. -/
lemma mismatch_eq_false_iff :
    s.mismatch x true = false ↔ InBand x.voltage s.socFromCharge := by
  have hwide : (10 : Rounded R) ≤ 90 := by
    rw [Rounded.le_def, Rounded.natCast_val (by norm_num), Rounded.natCast_val (by norm_num)]
    norm_num
  have hfits : s.mismatch x true = false ↔
      (x.socFromVoltage - s.socFromCharge).abs ≤ 90 ∧ (x.voltage ≤ 12.5 ∨ 10 ≤ s.socFromCharge) ∧
        ((x.socFromVoltage - s.socFromCharge).abs ≤ 10 ∨ 12.5 < x.voltage ∧ x.voltage < 13.4) := by
    simp only [Lifepo4Battery.mismatch, Sample.lowVoltage, Bool.or_eq_false_iff,
      Bool.and_eq_false_iff, Bool.not_eq_false', Bool.and_true, decide_eq_false_iff_not,
      decide_eq_true_eq, gt_iff_lt, ge_iff_le, not_lt, not_le, and_assoc]
    tauto
  rw [hfits, InBand, ← Sample.socFromVoltage]
  split_ifs with hlow hmiddle
  · constructor
    · rintro ⟨-, -, h | ⟨hlow', -⟩⟩
      · exact h
      · exact absurd hlow hlow'.not_ge
    · intro h
      exact ⟨h.trans hwide, .inl hlow, .inl h⟩
  · constructor
    · rintro ⟨h, hlevel, -⟩
      exact ⟨hlevel.resolve_left hlow, h⟩
    · rintro ⟨hlevel, h⟩
      exact ⟨h, .inr hlevel, .inr ⟨not_le.mp hlow, hmiddle⟩⟩
  · constructor
    · rintro ⟨-, hlevel, h | ⟨-, hmiddle'⟩⟩
      · exact ⟨hlevel.resolve_left hlow, h⟩
      · exact absurd hmiddle' hmiddle
    · rintro ⟨hlevel, h⟩
      exact ⟨h.trans hwide, .inr hlevel, .inl h⟩

/-- A sample recalibrates after 300000 ms of the timer, if counter and voltage are not plausible. -/
lemma recalibrates_iff :
    Recalibrates hist c ↔ (after hist).due c = true ∧ (after hist).lastUpdate ≠ 0 ∧
      300000 < millis c.time - (after hist).idleCurrentSince ∧
        (((after hist).ready c).integrate c.sample).mismatch c.sample true = true := by
  have htimer : ((after hist).ready c).idleCurrentTimeAchieved c.sample = true ↔
      300000 < millis c.time - (after hist).idleCurrentSince := by
    simp [Lifepo4Battery.idleCurrentTimeAchieved]
  simp only [Recalibrates, Lifepo4Battery.recalibrates, Bool.and_eq_true, decide_eq_true_eq,
    Lifepo4Battery.lastUpdate_ready, ← htimer, and_assoc]
  refine and_congr_right fun _ => and_congr_right fun _ => and_congr_right fun achieved => ?_
  rw [achieved]

/-- The same in real time, and by the last sample. -/
lemma recalibrates_iff_outOfBand (le : lastBusy hist ≤ c.time) :
    Recalibrates hist c ↔ (after hist).due c = true ∧ 300000 < (c.time - lastBusy hist) % 2 ^ 32 ∧
      ∃ x ∈ (samples {} hist).getLast?, x.time % 2 ^ 32 ≠ 0 ∧
        ¬ InBand c.voltage
          (chargeLevel ((after hist).chargeRemainingFine + (flow x c.sample).toInt64)) := by
  have htimer : 300000 < millis c.time - millis (lastBusy hist) ↔
      300000 < (c.time - lastBusy hist) % 2 ^ 32 := by
    rw [UInt32.lt_iff_toNat_lt, elapsed_mod le]
    rfl
  have hkeeps : Keeps (after hist) (samples {} hist).getLast? := keeps_after
  rw [recalibrates_iff, idleCurrentSince_after, htimer]
  cases hlast : (samples {} hist).getLast? with
  | none =>
    rw [hlast] at hkeeps
    simp [show (after hist).lastUpdate = 0 from hkeeps]
  | some x =>
    rw [hlast] at hkeeps
    obtain ⟨hinit, hupdate, hprev⟩ := hkeeps
    have hzero : (after hist).lastUpdate ≠ 0 ↔ x.time % 2 ^ 32 ≠ 0 := by
      rw [hupdate, ne_eq, ← UInt32.toNat_inj, millis_toNat]
      rfl
    have hlevel : ((after hist).integrate c.sample).socFromCharge
        = chargeLevel ((after hist).chargeRemainingFine + (flow x c.sample).toInt64) := by
      rw [← deltaCharge_eq hupdate hprev]
      rfl
    have hband : ((after hist).integrate c.sample).mismatch c.sample true = true ↔
        ¬ InBand c.voltage
          (chargeLevel ((after hist).chargeRemainingFine + (flow x c.sample).toInt64)) := by
      rw [← hlevel, ← BatteryCall.voltage_sample, ← mismatch_eq_false_iff, Bool.not_eq_false]
    rw [Lifepo4Battery.ready_of_initialized hinit, hzero, hband]
    simp only [Option.mem_def, Option.some_inj, exists_eq_left']
    tauto

/-- The charge counter is recalibrated only at rest, exactly in the runs in which every sample that
ends a rest of more than 300000 ms has a voltage in the band of the charge. -/
theorem recalibration_iff (chron : Chronological 0 calls) :
    EveryStep RecalibratesAtRest calls ↔ EveryStep EndsRestInBand calls := by
  refine forall₂_congr fun hist c => forall_congr' fun pre => ?_
  obtain ⟨chron, hstart, hstop⟩ := chronological_concat.mp (chron.of_prefix pre)
  have hle : lastBusy hist ≤ c.time := (lastBusy_le chron).trans (hstart.trans hstop)
  constructor
  · intro h hdue hbusy hrested x hx hzero
    by_contra hout
    have hrest := (h ((recalibrates_iff_outOfBand hle).mpr ⟨hdue, hrested, x, hx, hzero, hout⟩)).1
    rw [hbusy] at hrest
    cases hrest
  · intro h hrecal
    obtain ⟨hdue, hrested, x, hx, hzero, hout⟩ := (recalibrates_iff_outOfBand hle).mp hrecal
    refine ⟨?_, ?_⟩
    · by_contra hbusy
      exact hout (h hdue (by simpa using hbusy) hrested x hx hzero)
    · -- the samples before are idle since the last one that was not, more than 300000 ms ago
      intro hist' p pre' hdue' hlate
      exact idleSince_run chron hist' p pre' hdue' (by omega)

end

/-! ## The charger is plugged in -/

/-- A half full battery has been idle for 400 s. -/
def restingRun : List (BatteryCall .binary32) :=
  [⟨1000, 1003, 13, 0, 54000⟩, ⟨200000, 200003, 13, 0, 54000⟩]

/-- The first sample with the charger. -/
def chargerPluggedIn : BatteryCall .binary32 := ⟨400000, 400003, 14.3, 5, 54000⟩

/-- A rest that ends with the charger plugged in recalibrates the counter. -/
theorem recalibration_chargerPluggedIn :
    ¬ EveryStep RecalibratesAtRest (restingRun ++ [chargerPluggedIn]) := by
  intro h
  have hrest := (h restingRun _ List.prefix_rfl (by unfold Recalibrates; decide +kernel)).1
  exact absurd hrest (by decide +kernel)

/-- The charger meets neither side. -/
theorem recalibration_iff_chargerPluggedIn :
    EveryStep RecalibratesAtRest (restingRun ++ [chargerPluggedIn]) ↔
      EveryStep EndsRestInBand (restingRun ++ [chargerPluggedIn]) :=
  recalibration_iff (by decide +kernel)

end AstroPowerBox.Battery
