import AstroPowerBox.Battery.Loop
import AstroPowerBox.Foundation.Binary
import AstroPowerBox.Foundation.Run
import AstroPowerBox.Switcher.Charge

/-!
# Charge cut-off

The charge switch with the battery whose state of charge it reads. The stop limit itself does not
switch the charger off: the comparison is strict, and it comes after the one with the restart limit,
which `setChargeLimit` does not order against it. `cutoff_iff` settles in which runs a charged battery
is cut off nevertheless.
-/

namespace AstroPowerBox.Switcher
open Foundation Battery

section
variable {R : Rounding}

/-- The charge switch and the battery. -/
structure ChargeSystem (R : Rounding) where
  battery : Lifepo4Battery R := {}
  charge : ChargeSwitch R := {}

/-- A call of the battery, a change of the limits, a relay query that switches the charger, or a call
of `_chargeSwitchLoop` with the battery current. -/
inductive ChargeEvent (R : Rounding) where
  | battery (call : BatteryCall R)
  | setChargeLimit (startSoC stopSoC : Rounded R)
  | setCharger (on : Bool)
  | chargeSwitch (current : Rounded R)

namespace ChargeSystem

def step (s : ChargeSystem R) : ChargeEvent R → ChargeSystem R
  | .battery call => { s with battery := s.battery.loop call }
  | .setChargeLimit startSoC stopSoC => { s with charge := s.charge.setChargeLimit startSoC stopSoC }
  | .setCharger on => { s with charge := s.charge.setCharger on }
  | .chargeSwitch current => { s with charge := s.charge.chargeSwitchLoop current s.battery.soc }

/-- The system after a run from boot. -/
def after (events : List (ChargeEvent R)) : ChargeSystem R := run step {} events

/-- Source `_chargeLimitSoC[0]`, compared with the state of charge. -/
def ReachedStop (s : ChargeSystem R) : Prop := s.charge.chargeLimitSoC.1 ≤ s.battery.soc

instance {s : ChargeSystem R} : Decidable s.ReachedStop := inferInstanceAs (Decidable (_ ≤ _))

/-- The state of charge is at least the restart limit, and above the stop limit or the charger is
off. -/
def CutsOff (s : ChargeSystem R) : Prop :=
  s.charge.chargeLimitSoC.2 ≤ s.battery.soc ∧
    (s.charge.chargeLimitSoC.1 < s.battery.soc ∨ s.charge.getCharger = false)

end ChargeSystem

/-- A call with a charging current that finds the stop limit reached leaves the charger off. -/
def OffAtStop (hist : List (ChargeEvent R)) : ChargeEvent R → Prop
  | .chargeSwitch current => current > 0.1 → (ChargeSystem.after hist).ReachedStop →
      (ChargeSystem.after (hist ++ [.chargeSwitch current])).charge.getCharger = false
  | _ => True

/-- A call with a charging current that finds the stop limit reached is one that cuts off. -/
def CutsOffAtStop (hist : List (ChargeEvent R)) : ChargeEvent R → Prop
  | .chargeSwitch current => current > 0.1 → (ChargeSystem.after hist).ReachedStop →
      (ChargeSystem.after hist).CutsOff
  | _ => True

/-- Where a call with a charging current leaves the charger. -/
lemma getCharger_chargeSwitchLoop {s : ChargeSwitch R} {current soc : Rounded R}
    (charging : current > 0.1) :
    (s.chargeSwitchLoop current soc).getCharger = false ↔
      s.chargeLimitSoC.2 ≤ soc ∧ (s.chargeLimitSoC.1 < soc ∨ s.getCharger = false) := by
  obtain ⟨hno, -⟩ | ⟨-, hlow, heq⟩ | ⟨-, hlow, hhigh, heq⟩ | ⟨-, hlow, hhigh, heq⟩ :=
    s.chargeSwitchLoop_cases current soc
  · exact absurd (.inl charging) hno
  · have hlow : ¬s.chargeLimitSoC.2 ≤ soc := not_le.mpr hlow
    simp [heq, hlow, ChargeSwitch.getCharger]
  · have hhigh : s.chargeLimitSoC.1 < soc := hhigh
    simp [heq, hlow, hhigh, ChargeSwitch.getCharger]
  · -- between the limits the pin stays as it is
    have hhigh : ¬s.chargeLimitSoC.1 < soc := not_lt.mpr hhigh
    simp [heq, hlow, hhigh, ChargeSwitch.getCharger]

/-- The charger is off after every call made with a charging current at or above the stop limit,
exactly in the runs in which each such call finds the state of charge not below the restart limit,
and above the stop limit unless the charger is off already. -/
theorem cutoff_iff {events : List (ChargeEvent R)} :
    EveryStep OffAtStop events ↔ EveryStep CutsOffAtStop events := by
  refine forall₂_congr fun hist ev => forall_congr' fun _ => ?_
  cases ev with
  | chargeSwitch current =>
    refine forall₂_congr fun charging _ => ?_
    rw [ChargeSystem.after, run_concat]
    exact getCharger_chargeSwitchLoop charging
  | battery => exact Iff.rfl
  | setChargeLimit => exact Iff.rfl
  | setCharger => exact Iff.rfl

end

/-! ## A full battery -/

/-- A full battery is charged with 5 A; the limits are those of boot. -/
def fullBatteryRun : List (ChargeEvent .binary32) :=
  [.battery ⟨1000, 1003, 13.8, 5, 108000⟩, .battery ⟨1300, 1303, 13.8, 5, 108000⟩]

/-- A state of charge of exactly 100 does not switch the charger off. -/
theorem cutoff_fullBattery : ¬ EveryStep OffAtStop (fullBatteryRun ++ [.chargeSwitch 5]) := by
  intro h
  have hoff := h fullBatteryRun _ List.prefix_rfl (by decide +kernel) (by decide +kernel)
  exact absurd hoff (by decide +kernel)

end AstroPowerBox.Switcher
