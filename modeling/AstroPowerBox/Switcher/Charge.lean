import AstroPowerBox.Foundation.Rounding

/-!
# Charge switch

Source `_chargeSwitchLoop` in `src/switcher/switcher.cpp`: the charger is switched off above the stop
limit of the state of charge and on again below the restart limit. The charger relay is switched off
by a high level of its pin; at boot the level is low.
-/

namespace AstroPowerBox.Switcher
open Foundation

/-- The charger pin (source `SWITCHER_PIN_CHARGER`), the limits (source `_chargeLimitSoC`: stop and
restart) and the latch. -/
structure ChargeSwitch (R : Rounding) where
  charger : Bool := false
  chargeLimitSoC : Rounded R × Rounded R := (100, 95)
  wasCharging : Bool := false
deriving DecidableEq

namespace ChargeSwitch
variable {R : Rounding}

def setCharger (s : ChargeSwitch R) (on : Bool) : ChargeSwitch R := { s with charger := !on }

def getCharger (s : ChargeSwitch R) : Bool := !s.charger

/-- Source `_chargeSwitchLoop`, with the battery current and the state of charge it reads. -/
def chargeSwitchLoop (s : ChargeSwitch R) (current soc : Rounded R) : ChargeSwitch R :=
  let s := if current > 0.1 then { s with wasCharging := true } else s
  if s.wasCharging then
    if soc < s.chargeLimitSoC.2 then { s with wasCharging := false }.setCharger true
    else if soc > s.chargeLimitSoC.1 then s.setCharger false
    else s
  else s

def setChargeLimit (s : ChargeSwitch R) (startSoC stopSoC : Rounded R) : ChargeSwitch R :=
  { s with chargeLimitSoC := (min 100 (max 0 stopSoC), min 100 (max 0 startSoC)) }

/-- The charging current has been seen, now or since the latch was cleared. -/
def Charged (s : ChargeSwitch R) (current : Rounded R) : Prop :=
  current > 0.1 ∨ s.wasCharging = true

/-- What a call does: nothing before the battery was charged, else by the place of the state of
charge in the band. -/
lemma chargeSwitchLoop_cases (s : ChargeSwitch R) (current soc : Rounded R) :
    (¬s.Charged current ∧ s.chargeSwitchLoop current soc = s) ∨
    (s.Charged current ∧ soc < s.chargeLimitSoC.2 ∧
      s.chargeSwitchLoop current soc = { s with wasCharging := false, charger := false }) ∨
    (s.Charged current ∧ s.chargeLimitSoC.2 ≤ soc ∧ soc > s.chargeLimitSoC.1 ∧
      s.chargeSwitchLoop current soc = { s with wasCharging := true, charger := true }) ∨
    (s.Charged current ∧ s.chargeLimitSoC.2 ≤ soc ∧ soc ≤ s.chargeLimitSoC.1 ∧
      s.chargeSwitchLoop current soc = { s with wasCharging := true }) := by
  obtain ⟨charger, limits, latch⟩ := s
  simp only [Charged, chargeSwitchLoop, setCharger]
  split_ifs with hcur hlow hhigh <;> cases latch <;> simp_all

/-- The limits are set from outside only. -/
@[simp] lemma chargeSwitchLoop_chargeLimitSoC {s : ChargeSwitch R} {current soc : Rounded R} :
    (s.chargeSwitchLoop current soc).chargeLimitSoC = s.chargeLimitSoC := by
  obtain ⟨-, heq⟩ | ⟨-, -, heq⟩ | ⟨-, -, -, heq⟩ | ⟨-, -, -, heq⟩ := s.chargeSwitchLoop_cases current soc
  all_goals rw [heq]

end ChargeSwitch
end AstroPowerBox.Switcher
