import AstroPowerBox.Foundation.Rounding

/-!
# Switcher pins

The output pins of `src/switcher/switcher.cpp` that switch the consumers, and the setters that write
them. A pin is kept as its level, so that the polarity of each relay is visible: the consumers relay
is normally open, the mount relay is switched off by a high level. At boot all levels are low.

The PWM duty of a heater pin is the value in `_heaterPwmValues`: `setHeater` writes the pin exactly
when it changes that value.
-/

namespace AstroPowerBox.Switcher
open Foundation

/-- Levels of the output pins (source `SWITCHER_PIN_*`, `_heaterPwmValues`). -/
structure Pins where
  consumers : Bool := false
  mount : Bool := false
  camera : Bool := false
  heaterPwmValues : ℤ × ℤ := (0, 0)
deriving DecidableEq

namespace Pins

def setConsumers (pins : Pins) (on : Bool) : Pins := { pins with consumers := on }

def setMount (pins : Pins) (on : Bool) : Pins := { pins with mount := !on }

def setCamera (pins : Pins) (on : Bool) : Pins := { pins with camera := on }

/-- Source `getConsumers`: the relay is closed. -/
def getConsumers (pins : Pins) : Bool := pins.consumers

def getMount (pins : Pins) : Bool := !pins.mount

def getCamera (pins : Pins) : Bool := pins.camera

/-- The PWM value for a power limit in Watts: 15 W is the maximum, 10 bit resolution. -/
def heaterPwm {R : Rounding} (powerLimit : Rounded R) : ℤ :=
  (max 0 (min 1 (powerLimit / 15)) * 1023).trunc

def setHeater {R : Rounding} (pins : Pins) (heaterNr : ℕ) (powerLimit : Rounded R) : Pins :=
  let pwmValue := heaterPwm powerLimit
  if heaterNr ≠ 0 then { pins with heaterPwmValues := (pins.heaterPwmValues.1, pwmValue) }
  else { pins with heaterPwmValues := (pwmValue, pins.heaterPwmValues.2) }

/-- No power is no pulse. -/
@[simp] lemma heaterPwm_zero {R : Rounding} : heaterPwm (0 : Rounded R) = 0 := by
  have hle : (0 : Rounded R) ≤ 1 := by
    rw [Rounded.le_def, Rounded.zero_val]
    exact R.round_nonneg (by norm_num)
  simp [heaterPwm, min_eq_right hle]

section
variable {pins : Pins} {on : Bool}

@[simp] lemma getConsumers_setConsumers : (pins.setConsumers on).getConsumers = on := rfl
@[simp] lemma getConsumers_setMount : (pins.setMount on).getConsumers = pins.getConsumers := rfl
@[simp] lemma getConsumers_setCamera : (pins.setCamera on).getConsumers = pins.getConsumers := rfl

/-- The pin is inverted twice. -/
@[simp] lemma getMount_setMount : (pins.setMount on).getMount = on := by
  simp [setMount, getMount]
@[simp] lemma getMount_setConsumers : (pins.setConsumers on).getMount = pins.getMount := rfl
@[simp] lemma getMount_setCamera : (pins.setCamera on).getMount = pins.getMount := rfl

@[simp] lemma getCamera_setCamera : (pins.setCamera on).getCamera = on := rfl
@[simp] lemma getCamera_setConsumers : (pins.setConsumers on).getCamera = pins.getCamera := rfl
@[simp] lemma getCamera_setMount : (pins.setMount on).getCamera = pins.getCamera := rfl

@[simp] lemma heaterPwmValues_setConsumers :
    (pins.setConsumers on).heaterPwmValues = pins.heaterPwmValues := rfl

variable {R : Rounding} {nr : ℕ} {p : Rounded R}

@[simp] lemma getConsumers_setHeater : (pins.setHeater nr p).getConsumers = pins.getConsumers := by
  unfold setHeater getConsumers
  split_ifs <;> rfl

@[simp] lemma getMount_setHeater : (pins.setHeater nr p).getMount = pins.getMount := by
  unfold setHeater getMount
  split_ifs <;> rfl

@[simp] lemma getCamera_setHeater : (pins.setHeater nr p).getCamera = pins.getCamera := by
  unfold setHeater getCamera
  split_ifs <;> rfl

/-- Both heaters off, as the switcher does it. -/
@[simp] lemma heaterPwmValues_setHeater_zero :
    ((pins.setHeater 0 (0 : Rounded R)).setHeater 1 (0 : Rounded R)).heaterPwmValues = (0, 0) := by
  simp [setHeater]

end
end Pins
end AstroPowerBox.Switcher
