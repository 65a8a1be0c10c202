import AstroPowerBox.Battery.Loop
import AstroPowerBox.Foundation.Binary
import AstroPowerBox.Foundation.Schedule
import AstroPowerBox.Sensors.Psens

/-!
# Periodic work

`psens::loop` keeps the deadline of its next update, and `lifepo4_battery::loop` adds its delay to the
time of the last sample when it is called. Either way an absolute reading is compared with another,
and both are the same `Schedule`: a call is turned away too long after the counter has wrapped.
-/

namespace AstroPowerBox.Main
open Foundation Sensors Battery

section
variable {R : Rounding}

/-- A call of `psens::loop`. -/
def powersStep (s : Psens R) (c : PowersCall) : Psens R := s.loop c.time c.accesses

/-- Reading the powers does not change the schedule. -/
lemma keeps_updatePower {s : Psens R} {accesses : PsensChannel → Access × Access}
    {chs : List PsensChannel} :
    (chs.foldl (Psens.updatePower accesses) s).nextUpdate = s.nextUpdate ∧
      (chs.foldl (Psens.updatePower accesses) s).updateDelay = s.updateDelay :=
  ⟨run_keeps (Psens.updatePower accesses) (f := Psens.nextUpdate) fun _ _ => rfl,
    run_keeps (Psens.updatePower accesses) (f := Psens.updateDelay) fun _ _ => rfl⟩

/-- The updates of the powers. -/
def powersSchedule : Schedule (Psens R) PowersCall where
  step := powersStep
  deadline := Psens.nextUpdate
  delay := Psens.updateDelay
  delay_step s c := by
    rw [powersStep, Psens.loop]
    split_ifs
    · exact keeps_updatePower.2
    · rfl
  deadline_step s c := by
    change (s.loop c.time c.accesses).nextUpdate
      = if millis c.time ≥ s.nextUpdate then millis c.time + s.updateDelay else s.nextUpdate
    rw [Psens.loop]
    split_ifs
    · exact keeps_updatePower.1
    · rfl

/-- The samples of the battery. -/
def samplingSchedule : Schedule (Lifepo4Battery R) (BatteryCall R) where
  step := Lifepo4Battery.loop
  deadline s := s.lastUpdate + s.updateDelay
  delay := Lifepo4Battery.updateDelay
  delay_step _ _ := Lifepo4Battery.updateDelay_loop
  deadline_step s c := by
    rw [Lifepo4Battery.lastUpdate_loop, Lifepo4Battery.updateDelay_loop, ite_add]
    simp only [Lifepo4Battery.due, decide_eq_true_iff]
    rfl

/-- Not earlier than the delay after the last update, the call recomputes all powers. -/
def RecomputesInTime (s : Psens R) (hist : List PowersCall) (c : PowersCall) : Prop :=
  ∀ u ∈ powersSchedule.lastWork s hist, u + s.updateDelay.toNat ≤ c.time →
    powersSchedule.due (run powersStep s hist) c = true ∧
    ∀ channel, (run powersStep s (hist ++ [c])).powers channel
      = (run powersStep s hist).power c.accesses channel

/-- Not earlier than the delay after the last sample, the call takes a sample. -/
def SamplesInTime (s : Lifepo4Battery R) (hist : List (BatteryCall R)) (c : BatteryCall R) : Prop :=
  ∀ u ∈ samplingSchedule.lastWork s hist, u + s.updateDelay.toNat ≤ c.gate →
    let pre := run Lifepo4Battery.loop s hist
    pre.due c = true ∧ run Lifepo4Battery.loop s (hist ++ [c]) = (pre.ready c).sample c.sample

variable {s : Psens R} {b : Lifepo4Battery R}

/-- The powers are one instance of the schedule. -/
lemma recomputesInTime_iff {hist : List PowersCall} {c : PowersCall} :
    RecomputesInTime s hist c ↔ powersSchedule.Punctual s hist c := by
  refine forall₃_congr fun u last late => ⟨And.left, fun due => ⟨due, fun channel => ?_⟩⟩
  rw [run_concat]
  exact Psens.powers_loop (of_decide_eq_true due)

/-- The samples are the other one. -/
lemma samplesInTime_iff {hist : List (BatteryCall R)} {c : BatteryCall R} :
    SamplesInTime b hist c ↔ samplingSchedule.Punctual b hist c := by
  refine forall₃_congr fun u last late => ⟨And.left, fun due => ⟨due, ?_⟩⟩
  rw [run_concat]
  exact Lifepo4Battery.loop_of_due due

/-- The powers are kept up to date, and the battery is sampled, exactly in the runs in which no call
comes when the counter has wrapped past the deadline. -/
theorem periodic_iff (s : Psens R) (b : Lifepo4Battery R) (updates : List PowersCall)
    (samplings : List (BatteryCall R)) :
    (EveryStep (RecomputesInTime s) updates ↔
      EveryStep (fun hist c => ¬ powersSchedule.Overrun s hist c) updates) ∧
    (EveryStep (SamplesInTime b) samplings ↔
      EveryStep (fun hist c => ¬ samplingSchedule.Overrun b hist c) samplings) :=
  ⟨(forall₃_congr fun _ _ _ => recomputesInTime_iff).trans Schedule.punctual_iff,
    (forall₃_congr fun _ _ _ => samplesInTime_iff).trans Schedule.punctual_iff⟩

end

/-- An update that finds nothing on the bus. -/
def silentUpdate (time : ℕ) : PowersCall where
  time := time
  accesses _ := (⟨time, ⟨false, []⟩⟩, ⟨time, ⟨false, []⟩⟩)

/-- The counter wraps 146 ms after the fourth update. -/
def updatesAroundWrap : List PowersCall :=
  [1000, 2000000000, 4000000000, 4294967150, 4294967310].map silentUpdate

/-- Calls that skip over the wrap of the deadline. -/
theorem periodic_aroundWrap : ¬ ∀ (s : Psens .binary32) (b : Lifepo4Battery .binary32)
    (updates : List PowersCall) (samplings : List (BatteryCall .binary32)),
    Chronological 0 updates → GapsBelow (2 ^ 31) 0 updates →
    Chronological 0 samplings → GapsBelow (2 ^ 31) 0 samplings →
      EveryStep (RecomputesInTime s) updates ∧ EveryStep (SamplesInTime b) samplings := by
  intro h
  obtain ⟨hevery, -⟩ := h .setup {} updatesAroundWrap [] (by decide +kernel) (by decide +kernel)
    trivial everyStep_nil
  have hlast := hevery ([1000, 2000000000, 4000000000, 4294967150].map silentUpdate)
    (silentUpdate 4294967310) List.prefix_rfl
  rw [recomputesInTime_iff, Schedule.punctual_iff_not_overrun] at hlast
  exact hlast ⟨4294967150, by decide +kernel, by decide +kernel⟩

end AstroPowerBox.Main
