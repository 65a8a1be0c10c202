import AstroPowerBox.Sensors.Psens
import AstroPowerBox.Switcher.Button
import AstroPowerBox.Switcher.Charge
import AstroPowerBox.Switcher.Consumers

/-!
# Switcher loop

Source `loop` in `src/switcher/switcher.cpp`: the button, the pending command, the consumer power
machine and the charge switch, with the sensors they read. Other parts of the firmware read the same
sensors between two calls; an `Event` is a call of the loop or such a reading.

`run_power` and `run_sensors` take a run apart: the power machine makes the calls `powerCalls`, the
sensors serve the readings `readings`, and each of the two runs as it does alone.
-/

namespace AstroPowerBox.Switcher
open Foundation Sensors

/-- Source `e_telegram_command`. -/
inductive Command where
  | noCommand
  | powerConsumersOn
  | powerConsumersOff
  | htr1Off
  | htr1_5W
  | htr1_10W
  | htr1_15W
  | htr1Auto
  | htr2Off
  | htr2_5W
  | htr2_10W
  | htr2_15W
  | htr2Auto
deriving DecidableEq

/-- The effect of a command in `loop`: the heater commands are not handled. -/
def Command.apply (command : Command) (request : Bool) : Bool :=
  match command with
  | .powerConsumersOff => false
  | .powerConsumersOn => true
  | _ => request

section
variable {R : Rounding}

/-- The variables of the switcher. -/
structure SwitcherState (R : Rounding) where
  button : Button := {}
  power : ConsumerPower := {}
  charge : ChargeSwitch R := {}
deriving DecidableEq

/-- What a call of the loop meets: the button, the pending command, the times at which the power
machine starts and ends, the bus at each reading it may make, and the state of charge. -/
structure LoopCall (R : Rounding) where
  poll : Poll
  command : Command := .noCommand
  start : ℕ
  stop : ℕ
  mount : Access
  pc : Access
  battery : Access
  soc : Rounded R
deriving DecidableEq

/-- A call that takes one millisecond and meets the given bus. -/
def LoopCall.brief (command : Command) (start : ℕ) (bus : Transaction) : LoopCall R where
  poll := { time := start }
  command := command
  start := start
  stop := start + 1
  mount := ⟨start, bus⟩
  pc := ⟨start, bus⟩
  battery := ⟨start, bus⟩
  soc := 50

/-- The request after button and command. -/
def SwitcherState.request (s : SwitcherState R) (call : LoopCall R) : Bool :=
  call.command.apply (s.button.poll call.poll).consumerPowerRequest

/-- The reading of the PC current. -/
def pcReading (call : LoopCall R) : Reading := ⟨.current, .ch4Pc, call.pc⟩

/-- The readings that the power machine asks for. -/
def powerReadings (s : SwitcherState R) (call : LoopCall R) : List Reading :=
  match s.power.consumersState with
  | .onSubsOff => [⟨.voltage, .ch5Mount, call.mount⟩]
  | .onWait4pcShutdown => if s.request call then [] else [pcReading call]
  | _ => []

/-- The call of the power machine, with what the sensors would answer. -/
def powerCall (s : SwitcherState R) (sensors : Psens R) (call : LoopCall R) : PowerCall R where
  requestedState := s.request call
  start := call.start
  stop := call.stop
  mountVoltage := (sensors.getVoltage .ch5Mount call.mount).1
  pcCurrent := (sensors.getCurrent .ch4Pc call.pc).1

def SwitcherState.loop (s : SwitcherState R) (sensors : Psens R) (call : LoopCall R) :
    SwitcherState R × Psens R :=
  let button := { s.button.poll call.poll with consumerPowerRequest := s.request call }
  let power := consumerPowerLoop s.power (powerCall s sensors call)
  let sensors := run Psens.step sensors (powerReadings s call)
  let (current, sensors) := sensors.getCurrent .ch1Battery call.battery
  ({ button, power, charge := s.charge.chargeSwitchLoop current call.soc }, sensors)

/-! ## Runs with other readers -/

/-- The switcher and the sensors. -/
structure System (R : Rounding) where
  switcher : SwitcherState R := {}
  sensors : Psens R := .setup

/-- A call of the loop, or a reading by another part of the firmware. -/
inductive Event (R : Rounding) where
  | loop (call : LoopCall R)
  | read (r : Reading)
deriving DecidableEq

instance : Timed (Event R) where
  start
    | .loop call => call.start
    | .read r => r.access.time
  stop
    | .loop call => call.stop
    | .read r => r.access.time

def System.step (s : System R) : Event R → System R
  | .loop call =>
    let (switcher, sensors) := s.switcher.loop s.sensors call
    { switcher, sensors }
  | .read r => { s with sensors := s.sensors.step r }

/-- The calls of the power machine in an event. -/
def System.powerCalls (s : System R) : Event R → List (PowerCall R)
  | .loop call => [powerCall s.switcher s.sensors call]
  | .read _ => []

/-- The readings in an event. -/
def System.readings (s : System R) : Event R → List Reading
  | .loop call => powerReadings s.switcher call ++ [⟨.current, .ch1Battery, call.battery⟩]
  | .read r => [r]

variable {s : System R} {events : List (Event R)}

/-- The power machine runs over the calls made to it. -/
theorem run_power :
    (run System.step s events).switcher.power
      = run consumerPowerLoop s.switcher.power (outputs System.step System.powerCalls s events) := by
  apply run_project System.step System.powerCalls (fun s => s.switcher.power)
  intro s ev
  cases ev <;> rfl

/-- The sensors run over the readings made of them. -/
theorem run_sensors :
    (run System.step s events).sensors
      = run Psens.step s.sensors (outputs System.step System.readings s events) := by
  apply run_project System.step System.readings System.sensors
  intro s ev
  cases ev with
  | loop call =>
    rw [System.readings, run_concat]
    rfl
  | read r => rfl

/-- The calls of the machine are in order because the events are. -/
lemma chronological_powerCalls {t0 : ℕ} (chron : Chronological t0 events) :
    Chronological t0 (outputs System.step System.powerCalls s events) ∧
      endTime t0 (outputs System.step System.powerCalls s events) ≤ endTime t0 events := by
  apply chronological_outputs _ chron
  intro s ev h
  cases ev with
  | loop call => exact ⟨⟨le_rfl, h, trivial⟩, le_rfl⟩
  | read r => exact ⟨trivial, le_rfl⟩

end
end AstroPowerBox.Switcher
