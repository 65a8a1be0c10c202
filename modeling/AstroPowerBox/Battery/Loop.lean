import AstroPowerBox.Foundation.Clock
import AstroPowerBox.Foundation.Rounding

/-!
# Battery loop

Source `src/battery/battery.cpp`. A call of `lifepo4_battery::loop` that is due takes a `Sample`: it
integrates the current since the last sample into the charge counter, and then decides whether the
state of charge follows the counter or the resting voltage. In the second case the counter itself is
overwritten once the battery has been idle long enough (`recalibrates`).

The counter and the charge that an interval adds are 64-bit and 32-bit integers of the source, with
wrapping arithmetic.
-/

namespace AstroPowerBox.Battery
open Foundation

section
variable {R : Rounding}

/-- Source `t_bat_lut`. -/
structure LutEntry (R : Rounding) where
  totalVoltage : Rounded R
  stateOfCharge : Rounded R

/-- The segment of the table that holds the voltage (source `_getSoCFromRestingVoltage`, the loop). -/
def interpolate (prevEntry : LutEntry R) : List (LutEntry R) → Rounded R → Rounded R
  | [], _ => 0
  | entry :: entries, restingBatVoltage =>
    if restingBatVoltage > entry.totalVoltage then interpolate entry entries restingBatVoltage
    else
      prevEntry.stateOfCharge + (entry.stateOfCharge - prevEntry.stateOfCharge) *
        (restingBatVoltage - prevEntry.totalVoltage) / (entry.totalVoltage - prevEntry.totalVoltage)

/-- Source `_getSoCFromRestingVoltage`, for the table `first :: entries`. -/
def socFromTable (first : LutEntry R) (entries : List (LutEntry R)) (restingBatVoltage : Rounded R) :
    Rounded R :=
  let last := entries.getLastD first
  if restingBatVoltage ≥ last.totalVoltage then last.stateOfCharge
  else if restingBatVoltage ≤ first.totalVoltage then first.stateOfCharge
  else interpolate first entries restingBatVoltage

/-- Source `restingVoltageCurve`. -/
def restingVoltageCurve : List (LutEntry R) :=
  [⟨10, 0⟩, ⟨12, 10⟩, ⟨12.8, 20⟩, ⟨12.9, 30⟩, ⟨13, 40⟩, ⟨13, 50⟩, ⟨13.1, 60⟩, ⟨13.2, 70⟩,
    ⟨13.3, 80⟩, ⟨13.4, 90⟩, ⟨13.6, 100⟩]

/-- Source `_getSoCFromRestingVoltage`, with the table `restingVoltageCurve`. -/
def getSoCFromRestingVoltage (restingBatVoltage : Rounded R) : Rounded R :=
  socFromTable (restingVoltageCurve.head (List.cons_ne_nil _ _)) restingVoltageCurve.tail
    restingBatVoltage

/-- Source `_chargeTotal`, from `CAPACITY_KWH`. -/
def chargeTotal : Rounded R := 30 * 3600

def chargeTotalFine (R : Rounding) : Int64 := .ofInt ((chargeTotal : Rounded R) * 1000000).trunc

def chargePerPercent : Rounded R := chargeTotal / 100

structure Lifepo4Battery (R : Rounding) where
  lastUpdate : UInt32 := 0
  updateDelay : UInt32 := 200
  idleCurrentSince : UInt32 := 0
  soc : Rounded R := 0
  chargeRemaining : Rounded R := 0
  chargeRemainingFine : Int64 := 0
  prevCurrentMilliAmps : Int32 := 0
  initialized : Bool := false
  socGood : Bool := false
deriving DecidableEq

/-- What a sample reads: the voltage, the current, and the clock after both. -/
structure Sample (R : Rounding) where
  voltage : Rounded R
  currentMilliAmps : Int32
  time : ℕ
deriving DecidableEq

def Sample.chargerConnected (x : Sample R) : Bool := x.currentMilliAmps > 0 || x.voltage > 14.2

/-- The sample leaves the idle timer alone: no charger, and at most 100 mA. -/
def Sample.idle (x : Sample R) : Bool :=
  !(x.chargerConnected || x.currentMilliAmps.toInt.natAbs > 100)

def Sample.lowVoltage (x : Sample R) : Bool := x.voltage ≤ 12.5

def Sample.socFromVoltage (x : Sample R) : Rounded R :=
  min 100 (max 0 (getSoCFromRestingVoltage x.voltage))

/-- The charge that a voltage stands for. -/
def Sample.chargeFromVoltage (x : Sample R) : Int64 :=
  .ofInt (Rounded.ofInt (chargeTotalFine R).toInt * x.socFromVoltage / 100 : Rounded R).trunc

namespace Lifepo4Battery

/-- Source `_initFromMemory`, with the remaining charge that the non-volatile memory holds. -/
def initFromMemory (s : Lifepo4Battery R) (remainingCharge : Rounded R) : Lifepo4Battery R :=
  { s with
    initialized := true
    chargeRemaining := remainingCharge
    chargeRemainingFine := (UInt64.ofInt remainingCharge.trunc * 1000000).toInt64 }

/-- Source `idleCurrentTimeAchieved`: the timer as the samples before have left it. -/
def idleCurrentTimeAchieved (s : Lifepo4Battery R) (x : Sample R) : Bool :=
  millis x.time - s.idleCurrentSince > 300000

def deltaTimeMs (s : Lifepo4Battery R) (x : Sample R) : Int32 := (millis x.time - s.lastUpdate).toInt32

def currentSumMilliAmps (s : Lifepo4Battery R) (x : Sample R) : Int32 :=
  x.currentMilliAmps + s.prevCurrentMilliAmps

def deltaCharge (s : Lifepo4Battery R) (x : Sample R) : Int32 :=
  s.currentSumMilliAmps x * s.deltaTimeMs x / 2

/-- The update of the known capacity. -/
def integrate (s : Lifepo4Battery R) (x : Sample R) : Lifepo4Battery R :=
  let fine := max (min (s.chargeRemainingFine + (s.deltaCharge x).toInt64) (chargeTotalFine R)) 0
  { s with
    chargeRemainingFine := fine
    chargeRemaining := .ofInt fine.toInt / 1000000 }

def socFromCharge (s : Lifepo4Battery R) : Rounded R :=
  min 100 (max 0 (s.chargeRemaining / chargePerPercent))

/-- Counter and voltage do not fit together: desync or plausibility. -/
def mismatch (s : Lifepo4Battery R) (x : Sample R) (idleCurrentTimeAchieved : Bool) : Bool :=
  let socDiff := (x.socFromVoltage - s.socFromCharge).abs
  let getSoCFromVoltage := x.lowVoltage || (x.voltage ≥ 13.4 && idleCurrentTimeAchieved)
  socDiff > 90 || (s.socFromCharge < 10 && !x.lowVoltage) || (socDiff > 10 && getSoCFromVoltage)

/-- The update of the state of charge. -/
def assess (s : Lifepo4Battery R) (x : Sample R) (idleCurrentTimeAchieved : Bool) : Lifepo4Battery R :=
  if s.mismatch x idleCurrentTimeAchieved then
    { s with
      soc := x.socFromVoltage
      socGood := false
      chargeRemainingFine :=
        if idleCurrentTimeAchieved then x.chargeFromVoltage else s.chargeRemainingFine }
  else { s with soc := s.socFromCharge, socGood := true }

/-- A sample. The idle timer is read before the sample restarts it. -/
def sample (s : Lifepo4Battery R) (x : Sample R) : Lifepo4Battery R :=
  let achieved := s.idleCurrentTimeAchieved x
  let s := if !x.idle then { s with idleCurrentSince := millis x.time } else s
  let s := if s.lastUpdate ≠ 0 then (s.integrate x).assess x achieved else s
  { s with lastUpdate := millis x.time, prevCurrentMilliAmps := x.currentMilliAmps }

end Lifepo4Battery

/-- What a call meets: the times at which it looks at the clock first and, in a sample, again; what
the sensor would answer; and the remaining charge in the non-volatile memory. -/
structure BatteryCall (R : Rounding) where
  gate : ℕ
  time : ℕ
  voltage : Rounded R
  current : Rounded R
  remainingCharge : Rounded R := 0
deriving DecidableEq

instance : Timed (BatteryCall R) where
  start := BatteryCall.gate
  stop := BatteryCall.time

@[simp] lemma timed_start {c : BatteryCall R} : Timed.start c = c.gate := rfl
@[simp] lemma timed_stop {c : BatteryCall R} : Timed.stop c = c.time := rfl

/-- The sample of the call. -/
def BatteryCall.sample (c : BatteryCall R) : Sample R where
  voltage := c.voltage
  currentMilliAmps := .ofInt (c.current * 1000).trunc
  time := c.time

@[simp] lemma BatteryCall.time_sample {c : BatteryCall R} : c.sample.time = c.time := rfl

@[simp] lemma BatteryCall.voltage_sample {c : BatteryCall R} : c.sample.voltage = c.voltage := rfl

namespace Lifepo4Battery

/-- The call takes a sample. -/
def due (s : Lifepo4Battery R) (c : BatteryCall R) : Bool := millis c.gate ≥ s.lastUpdate + s.updateDelay

/-- The battery as a call finds it, initialised from the memory if it was not yet. -/
def ready (s : Lifepo4Battery R) (c : BatteryCall R) : Lifepo4Battery R :=
  if s.initialized then s else s.initFromMemory c.remainingCharge

def loop (s : Lifepo4Battery R) (c : BatteryCall R) : Lifepo4Battery R :=
  let s := s.ready c
  if s.due c then s.sample c.sample else s

/-- The argument of `nvmem.setRemainingCharge`, if the call gets there. -/
def reported (s : Lifepo4Battery R) (c : BatteryCall R) : Option (Rounded R) :=
  if s.due c ∧ s.lastUpdate ≠ 0 then some (s.loop c).chargeRemaining else none

/-! ## What a call does -/

/-- The sample overwrites the counter from the voltage. -/
def recalibrates (s : Lifepo4Battery R) (x : Sample R) : Bool :=
  s.lastUpdate ≠ 0 && s.idleCurrentTimeAchieved x &&
    (s.integrate x).mismatch x (s.idleCurrentTimeAchieved x)

variable {s : Lifepo4Battery R} {x : Sample R} {c : BatteryCall R}

/-- A sample recalibrates the counter, integrates the current, or leaves it alone if it is the first
one. -/
lemma chargeRemainingFine_sample :
    (s.sample x).chargeRemainingFine =
      if s.recalibrates x then x.chargeFromVoltage
      else if s.lastUpdate ≠ 0 then (s.integrate x).chargeRemainingFine
      else s.chargeRemainingFine := by
  -- the idle timer, which the sample restarts, plays no part in the comparison
  have hmismatch : ∀ since, ({ s with idleCurrentSince := since }.integrate x).mismatch x
      = (s.integrate x).mismatch x := fun _ => rfl
  unfold sample recalibrates assess
  by_cases hinit : s.lastUpdate = 0
  · cases x.idle <;> simp [hinit]
  · cases s.idleCurrentTimeAchieved x <;> cases x.idle <;> simp [hinit, hmismatch] <;> split <;> rfl

/-- The memory gives the charge, and nothing else. -/
lemma ready_eq : s.ready c =
    { s with
      initialized := true
      chargeRemaining := (s.ready c).chargeRemaining
      chargeRemainingFine := (s.ready c).chargeRemainingFine } := by
  rw [ready]
  split
  case isTrue h =>
    cases s
    cases h
    rfl
  case isFalse => rfl

@[simp] lemma lastUpdate_ready : (s.ready c).lastUpdate = s.lastUpdate := by rw [ready_eq]

@[simp] lemma idleCurrentSince_ready : (s.ready c).idleCurrentSince = s.idleCurrentSince := by
  rw [ready_eq]

@[simp] lemma due_ready : (s.ready c).due c = s.due c := by rw [ready_eq]; rfl

/-- The memory is read once only. -/
lemma ready_of_initialized (h : s.initialized = true) : s.ready c = s := by
  rw [ready, if_pos h]

@[simp] lemma initialized_ready : (s.ready c).initialized = true := by rw [ready_eq]

@[simp] lemma lastUpdate_sample : (s.sample x).lastUpdate = millis x.time := rfl

@[simp] lemma prevCurrentMilliAmps_sample :
    (s.sample x).prevCurrentMilliAmps = x.currentMilliAmps := rfl

/-- The assessment touches the state of charge and the counter only. -/
lemma assess_eq {achieved : Bool} : s.assess x achieved =
    { s with
      soc := (s.assess x achieved).soc
      socGood := (s.assess x achieved).socGood
      chargeRemainingFine := (s.assess x achieved).chargeRemainingFine } := by
  rw [assess]
  split <;> rfl

@[simp] lemma idleCurrentSince_assess {achieved : Bool} :
    (s.assess x achieved).idleCurrentSince = s.idleCurrentSince := by rw [assess_eq]

/-- A sample that is not idle restarts the rest. -/
lemma idleCurrentSince_sample :
    (s.sample x).idleCurrentSince = if x.idle then s.idleCurrentSince else millis x.time := by
  unfold sample
  by_cases hinit : s.lastUpdate = 0 <;> cases x.idle <;> simp [hinit, integrate]

/-- A call that takes a sample with a current restarts the rest. -/
lemma idleCurrentSince_loop :
    (s.loop c).idleCurrentSince =
      if s.due c = true ∧ c.sample.idle = false then millis c.time else s.idleCurrentSince := by
  simp only [loop, due_ready]
  cases s.due c <;> cases h : c.sample.idle <;> simp [idleCurrentSince_sample, h]

@[simp] lemma initialized_assess {achieved : Bool} :
    (s.assess x achieved).initialized = s.initialized := by rw [assess_eq]

@[simp] lemma initialized_sample : (s.sample x).initialized = s.initialized := by
  unfold sample
  by_cases hinit : s.lastUpdate = 0 <;> cases x.idle <;> simp [hinit, integrate]

@[simp] lemma updateDelay_assess {achieved : Bool} :
    (s.assess x achieved).updateDelay = s.updateDelay := by rw [assess_eq]

@[simp] lemma updateDelay_sample : (s.sample x).updateDelay = s.updateDelay := by
  unfold sample
  by_cases hinit : s.lastUpdate = 0 <;> cases x.idle <;> simp [hinit, integrate]

/-- The delay never changes. -/
lemma updateDelay_loop : (s.loop c).updateDelay = s.updateDelay := by
  have hready : (s.ready c).updateDelay = s.updateDelay := by rw [ready_eq]
  rw [loop]
  split
  · exact updateDelay_sample.trans hready
  · exact hready

/-- A call that is due takes its sample. -/
lemma loop_of_due (due : s.due c = true) : s.loop c = (s.ready c).sample c.sample := by
  rw [loop, due_ready, if_pos due]

/-- The time of the last sample. -/
lemma lastUpdate_loop :
    (s.loop c).lastUpdate = if s.due c then millis c.time else s.lastUpdate := by
  simp only [loop, due_ready]
  split <;> simp

end Lifepo4Battery
end
end AstroPowerBox.Battery
