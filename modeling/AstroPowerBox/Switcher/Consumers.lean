import AstroPowerBox.Foundation.Clock
import AstroPowerBox.Switcher.Pins

/-!
# Consumer power state machine

Source `_consumerPowerLoop` in `src/switcher/switcher.cpp`, with `consumersState` from
`src/switcher/switcher_types.hpp`. One call reads the clock when it starts and, if the state
changed, once more when it ends; the pins are written right after the first reading.

`Transition` lists what a call can do, one constructor per branch of the source, and
`consumerPowerLoop_transition` is the inversion used by every invariant of this machine.
-/

namespace AstroPowerBox.Switcher
open Foundation

inductive ConsumersState where
  | offIdle
  | offPrepareActivation
  | onSubsOff
  | onSubsActivation
  | onIdle
  | onPreparePowerDown
  | onWait4pcShutdown
deriving DecidableEq

/-- What a call finds: the request, the real times at which it starts and ends, and what the sensor
would answer if it is asked for the mount voltage or the PC current. -/
structure PowerCall (R : Rounding) where
  requestedState : Bool
  start : ℕ
  stop : ℕ
  mountVoltage : Rounded R
  pcCurrent : Rounded R

instance {R : Rounding} : Timed (PowerCall R) where
  start := PowerCall.start
  stop := PowerCall.stop

/-- A call that takes one millisecond. -/
def PowerCall.brief {R : Rounding} (requestedState : Bool) (start : ℕ)
    (mountVoltage pcCurrent : Rounded R) : PowerCall R :=
  ⟨requestedState, start, start + 1, mountVoltage, pcCurrent⟩

@[simp] lemma timed_start {R : Rounding} {c : PowerCall R} : Timed.start c = c.start := rfl
@[simp] lemma timed_stop {R : Rounding} {c : PowerCall R} : Timed.stop c = c.stop := rfl

/-- The state of the machine (source `_consumersState`, `lastStateChange`) and the pins. -/
structure ConsumerPower where
  consumersState : ConsumersState := .offIdle
  lastStateChange : UInt32 := 0
  pins : Pins := {}
deriving DecidableEq

section
variable {R : Rounding}

def batMinTurnOnVoltage : Rounded R := -1

/-- The writes of `e_consumers_off_idle`: all relays and components to their least power consuming
state. -/
def leastPower (R : Rounding) (pins : Pins) : Pins :=
  ((((pins.setConsumers false).setMount true).setCamera false).setHeater 0 (0 : Rounded R)).setHeater
    1 (0 : Rounded R)

/-- The writes of `e_consumers_off_prepare_activation`: all devices off before the relay closes. -/
def devicesOff (R : Rounding) (pins : Pins) : Pins :=
  (((pins.setMount false).setCamera false).setHeater 0 (0 : Rounded R)).setHeater 1 (0 : Rounded R)

/-- The `switch` of `_consumerPowerLoop`: the next state and the pins.

The PC current is compared with a double literal in the source; no 32-bit float lies between `0.2`
and its nearest float. -/
def consumerPowerSwitch (state : ConsumersState) (pins : Pins) (timeSinceStateChange : UInt32)
    (c : PowerCall R) : ConsumersState × Pins :=
  match state with
  | .offIdle =>
    if c.requestedState then (.offPrepareActivation, pins)
    else (.offIdle, leastPower R pins)
  | .offPrepareActivation =>
    (if timeSinceStateChange > 200 then .onSubsOff else .offPrepareActivation, devicesOff R pins)
  | .onSubsOff =>
    (if timeSinceStateChange > 100 ∧ c.mountVoltage ≥ batMinTurnOnVoltage then .onSubsActivation
      else if timeSinceStateChange > 3000 then .offIdle
      else .onSubsOff, pins.setConsumers true)
  | .onSubsActivation =>
    (if timeSinceStateChange ≥ 1000 then .onIdle else .onSubsActivation,
      if timeSinceStateChange ≥ 500 then (pins.setCamera true).setMount true
      else pins.setCamera true)
  | .onIdle => (if !c.requestedState then .onPreparePowerDown else .onIdle, pins)
  | .onPreparePowerDown =>
    (if timeSinceStateChange > 200 then .onWait4pcShutdown else .onPreparePowerDown,
      pins.setMount false)
  | .onWait4pcShutdown =>
    (if c.requestedState then .onSubsActivation
      else if c.pcCurrent < 0.2 ∨ timeSinceStateChange > 3600000 then .offIdle
      else .onWait4pcShutdown, pins)

/-- One call (source `_consumerPowerLoop`). -/
def consumerPowerLoop (s : ConsumerPower) (c : PowerCall R) : ConsumerPower :=
  let timeSinceStateChange := millis c.start - s.lastStateChange
  let next := consumerPowerSwitch s.consumersState s.pins timeSinceStateChange c
  { consumersState := next.1
    lastStateChange := if next.1 ≠ s.consumersState then millis c.stop else s.lastStateChange
    pins := next.2 }

/-- What a call can do: the branches of the `switch`. -/
inductive Transition (c : PowerCall R) : ConsumerPower → ConsumerPower → Prop where
  | remainOff {last pins} :
    c.requestedState = false →
    Transition c ⟨.offIdle, last, pins⟩ ⟨.offIdle, last, leastPower R pins⟩
  | turnOn {last pins} :
    c.requestedState = true →
    Transition c ⟨.offIdle, last, pins⟩ ⟨.offPrepareActivation, millis c.stop, pins⟩
  | settle {last pins} :
    ¬ 200 < millis c.start - last →
    Transition c ⟨.offPrepareActivation, last, pins⟩
      ⟨.offPrepareActivation, last, devicesOff R pins⟩
  | settled {last pins} :
    200 < millis c.start - last →
    Transition c ⟨.offPrepareActivation, last, pins⟩ ⟨.onSubsOff, millis c.stop, devicesOff R pins⟩
  | load {last pins} :
    ¬ (100 < millis c.start - last ∧ batMinTurnOnVoltage ≤ c.mountVoltage) →
    ¬ 3000 < millis c.start - last →
    Transition c ⟨.onSubsOff, last, pins⟩ ⟨.onSubsOff, last, pins.setConsumers true⟩
  | loaded {last pins} :
    100 < millis c.start - last →
    batMinTurnOnVoltage ≤ c.mountVoltage →
    Transition c ⟨.onSubsOff, last, pins⟩
      ⟨.onSubsActivation, millis c.stop, pins.setConsumers true⟩
  | abandon {last pins} :
    ¬ (100 < millis c.start - last ∧ batMinTurnOnVoltage ≤ c.mountVoltage) →
    3000 < millis c.start - last →
    Transition c ⟨.onSubsOff, last, pins⟩ ⟨.offIdle, millis c.stop, pins.setConsumers true⟩
  | startCamera {last pins} :
    ¬ 500 ≤ millis c.start - last →
    Transition c ⟨.onSubsActivation, last, pins⟩ ⟨.onSubsActivation, last, pins.setCamera true⟩
  | startMount {last pins} :
    500 ≤ millis c.start - last →
    ¬ 1000 ≤ millis c.start - last →
    Transition c ⟨.onSubsActivation, last, pins⟩
      ⟨.onSubsActivation, last, (pins.setCamera true).setMount true⟩
  | started {last pins} :
    1000 ≤ millis c.start - last →
    Transition c ⟨.onSubsActivation, last, pins⟩
      ⟨.onIdle, millis c.stop, (pins.setCamera true).setMount true⟩
  | remainOn {last pins} :
    c.requestedState = true →
    Transition c ⟨.onIdle, last, pins⟩ ⟨.onIdle, last, pins⟩
  | turnOff {last pins} :
    c.requestedState = false →
    Transition c ⟨.onIdle, last, pins⟩ ⟨.onPreparePowerDown, millis c.stop, pins⟩
  | unload {last pins} :
    ¬ 200 < millis c.start - last →
    Transition c ⟨.onPreparePowerDown, last, pins⟩
      ⟨.onPreparePowerDown, last, pins.setMount false⟩
  | unloaded {last pins} :
    200 < millis c.start - last →
    Transition c ⟨.onPreparePowerDown, last, pins⟩
      ⟨.onWait4pcShutdown, millis c.stop, pins.setMount false⟩
  | resume {last pins} :
    c.requestedState = true →
    Transition c ⟨.onWait4pcShutdown, last, pins⟩ ⟨.onSubsActivation, millis c.stop, pins⟩
  | pcOff {last pins} :
    c.requestedState = false →
    c.pcCurrent < 0.2 ∨ 3600000 < millis c.start - last →
    Transition c ⟨.onWait4pcShutdown, last, pins⟩ ⟨.offIdle, millis c.stop, pins⟩
  | wait4pc {last pins} :
    c.requestedState = false →
    ¬ (c.pcCurrent < 0.2 ∨ 3600000 < millis c.start - last) →
    Transition c ⟨.onWait4pcShutdown, last, pins⟩ ⟨.onWait4pcShutdown, last, pins⟩

/-- Every call is one of the transitions. -/
theorem consumerPowerLoop_transition {s : ConsumerPower} {c : PowerCall R} :
    Transition c s (consumerPowerLoop s c) := by
  obtain ⟨state, last, pins⟩ := s
  cases state with
  | offIdle =>
    cases req : c.requestedState with
    | false => simpa [consumerPowerLoop, consumerPowerSwitch, req] using Transition.remainOff req
    | true => simpa [consumerPowerLoop, consumerPowerSwitch, req] using Transition.turnOn req
  | offPrepareActivation =>
    by_cases h : 200 < millis c.start - last
    · simpa [consumerPowerLoop, consumerPowerSwitch, h] using Transition.settled h
    · simpa [consumerPowerLoop, consumerPowerSwitch, h] using Transition.settle h
  | onSubsOff =>
    by_cases h : 100 < millis c.start - last ∧ batMinTurnOnVoltage ≤ c.mountVoltage
    · simpa [consumerPowerLoop, consumerPowerSwitch, h] using Transition.loaded h.1 h.2
    · by_cases h' : 3000 < millis c.start - last
      · simpa [consumerPowerLoop, consumerPowerSwitch, h, h'] using Transition.abandon h h'
      · simpa [consumerPowerLoop, consumerPowerSwitch, h, h'] using Transition.load h h'
  | onSubsActivation =>
    by_cases h : 1000 ≤ millis c.start - last
    · have h' : 500 ≤ millis c.start - last := UInt32.le_trans (by decide) h
      simpa [consumerPowerLoop, consumerPowerSwitch, h, h'] using Transition.started h
    · by_cases h' : 500 ≤ millis c.start - last
      · simpa [consumerPowerLoop, consumerPowerSwitch, h, h'] using Transition.startMount h' h
      · simpa [consumerPowerLoop, consumerPowerSwitch, h, h'] using Transition.startCamera h'
  | onIdle =>
    cases req : c.requestedState with
    | false => simpa [consumerPowerLoop, consumerPowerSwitch, req] using Transition.turnOff req
    | true => simpa [consumerPowerLoop, consumerPowerSwitch, req] using Transition.remainOn req
  | onPreparePowerDown =>
    by_cases h : 200 < millis c.start - last
    · simpa [consumerPowerLoop, consumerPowerSwitch, h] using Transition.unloaded h
    · simpa [consumerPowerLoop, consumerPowerSwitch, h] using Transition.unload h
  | onWait4pcShutdown =>
    cases req : c.requestedState with
    | true => simpa [consumerPowerLoop, consumerPowerSwitch, req] using Transition.resume req
    | false =>
      by_cases h : c.pcCurrent < 0.2 ∨ 3600000 < millis c.start - last
      · simpa [consumerPowerLoop, consumerPowerSwitch, req, h] using Transition.pcOff req h
      · simpa [consumerPowerLoop, consumerPowerSwitch, req, h] using Transition.wait4pc req h

/-- The last call of a run is one of the transitions. -/
lemma run_transition {s0 : ConsumerPower} {calls : List (PowerCall R)} {c : PowerCall R} :
    Transition c (run consumerPowerLoop s0 calls) (run consumerPowerLoop s0 (calls ++ [c])) := by
  rw [run_concat]
  exact consumerPowerLoop_transition

end
end AstroPowerBox.Switcher
