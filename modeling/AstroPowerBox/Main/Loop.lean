import AstroPowerBox.Battery.Loop
import AstroPowerBox.Storage.NonVolatile
import AstroPowerBox.Switcher.Loop

/-!
# Main loop

Source `src/main.cpp`, with the update callbacks of `src/ota/ota.cpp`. An `Iteration` says what one
pass of `loop` meets: whether the box is connected, which callbacks ArduinoOTA invokes, which relay
queries and which command arrive by telegram, and what each component finds on its bus, clock and
file system. ArduinoOTA may also invoke a callback between two passes. A finished update resets the
processor, and the run ends.

Of the display the readings of the screen that is shown are kept (`homeScreen::show`,
`powerScreen::show`), since they refresh the cells that battery and switcher read. Left out are what it
draws, the connection itself, and the datagrams, which change nothing that the other components read.
-/

namespace AstroPowerBox.Main
open Foundation Sensors Switcher Battery Storage

/-- The WiFi sleep type. -/
inductive SleepType where
  | none
  | light
deriving DecidableEq

/-- What the update callbacks switch (source `_sigUpdateStarted`, `wifi_set_sleep_type`,
`LittleFS.end`, `ESP.reset`), as `energySaver::setup` and the constructor of `non_volatile` leave
it. -/
structure Ota where
  sigUpdateStarted : Bool := false
  sleepType : SleepType := .light
  fsMounted : Bool := true
  reset : Bool := false
deriving DecidableEq

/-- The callbacks of ArduinoOTA. -/
inductive OtaCallback where
  | onStart
  | onProgress
  | onError
  | onEnd
deriving DecidableEq

/-- A telegram query that begins with `Relay`: the character after it, as a number, and whether the
query ends with `On`. -/
structure RelayQuery where
  relayNr : ℤ
  requestedState : Bool
deriving DecidableEq

/-- The state of the firmware. -/
structure Box (R : Rounding) where
  ota : Ota := {}
  switcher : SwitcherState R := {}
  sensors : Psens R := .setup
  battery : Lifepo4Battery R := {}
  nvmem : NonVolatile R

/-- What one pass of the loop meets. -/
structure Iteration (R : Rounding) where
  connected : Bool
  callbacks : List OtaCallback := []
  relayQueries : List RelayQuery := []
  otherReadings : List Reading := []
  switcher : LoopCall R
  nvmemTime : ℕ
  file : FileOutcome
  powersTime : ℕ
  powers : PsensChannel → Access × Access
  batteryGate : ℕ
  batteryTime : ℕ
  batteryVoltage : Access
  batteryCurrent : Access
  displayReadings : List Reading := []

/-- A pass of the loop, or a callback between two passes. -/
inductive Event (R : Rounding) where
  | iteration (i : Iteration R)
  | callback (cb : OtaCallback)

namespace Box
variable {R : Rounding}

/-- The firmware after `setup`, with the content of the file and the statistics parsed from it. -/
def boot (file : Option (List UInt8)) (parsed : Option (BatStats R)) : Box R :=
  { nvmem := .new file parsed }

/-! ## Updates -/

def ready4Update (s : Box R) : Bool := s.switcher.power.consumersState = .offIdle

def isUpdating (s : Box R) : Bool := s.ota.sigUpdateStarted

/-- A callback of ArduinoOTA (source `ota::begin`). -/
def callback (s : Box R) (cb : OtaCallback) : Box R :=
  if s.ota.reset then s
  else
    match cb with
    | .onStart =>
      if s.ready4Update then
        { s with ota.sigUpdateStarted := true, ota.sleepType := .none, ota.fsMounted := false }
      else s
    | .onProgress => s
    | .onError => { s with ota.sigUpdateStarted := false }
    | .onEnd =>
      { s with
        switcher.power.pins :=
          ((s.switcher.power.pins.setConsumers false).setHeater 0 (0 : Rounded R)).setHeater 1
            (0 : Rounded R)
        ota.reset := true }

/-- The callbacks that ArduinoOTA invokes if it is called (source `ota::handle`). -/
def handled (s : Box R) (callbacks : List OtaCallback) : List OtaCallback :=
  if s.ready4Update then callbacks else []

def handle (s : Box R) (callbacks : List OtaCallback) : Box R :=
  (s.handled callbacks).foldl callback s

/-! ## The components -/

/-- The relay that a telegram query switches (source `_handleQuery`). -/
def handleQuery (s : Box R) (q : RelayQuery) : Box R :=
  match q.relayNr with
  | 0 =>
    { s with switcher.power.pins := s.switcher.power.pins.setConsumers q.requestedState }
  | 1 => { s with switcher.charge := s.switcher.charge.setCharger q.requestedState }
  | 2 => { s with switcher.power.pins := s.switcher.power.pins.setMount q.requestedState }
  | _ => s

/-- Telegram queries and the readings that are made for answers and datagrams. -/
def online (s : Box R) (i : Iteration R) : Box R :=
  let s := i.relayQueries.foldl handleQuery s
  { s with sensors := run Psens.step s.sensors i.otherReadings }

/-- Source `switcher::loop`. -/
def switcherLoop (s : Box R) (i : Iteration R) : Box R :=
  let (switcher, sensors) := s.switcher.loop s.sensors { i.switcher with soc := s.battery.soc }
  { s with switcher, sensors }

/-- What the file operations do: without a file system no file can be opened. -/
def fileOutcome (s : Box R) (i : Iteration R) : FileOutcome :=
  { i.file with opened := i.file.opened && s.ota.fsMounted }

/-- Source `nvmem.loop`. -/
def nvmemLoop (ser : Serializer R) (s : Box R) (i : Iteration R) : Box R :=
  { s with nvmem := s.nvmem.loop ser i.nvmemTime (s.fileOutcome i) }

/-- Source `powersensors.loop`. -/
def powersLoop (s : Box R) (i : Iteration R) : Box R :=
  { s with sensors := s.sensors.loop i.powersTime i.powers }

/-- The voltage that the battery reads, and the sensors after it. -/
def batteryVoltage (s : Box R) (i : Iteration R) : Rounded R × Psens R :=
  s.sensors.getVoltage .ch1Battery i.batteryVoltage

/-- The current that the battery reads after the voltage, and the sensors after it. -/
def batteryCurrent (s : Box R) (i : Iteration R) : Rounded R × Psens R :=
  (s.batteryVoltage i).2.getCurrent .ch1Battery i.batteryCurrent

/-- The call of the battery, with what the sensors would answer. -/
def batteryCall (s : Box R) (i : Iteration R) : BatteryCall R where
  gate := i.batteryGate
  time := i.batteryTime
  voltage := (s.batteryVoltage i).1
  current := (s.batteryCurrent i).1
  remainingCharge := s.nvmem.stats.remainingCharge

/-- The call of the memory that the battery makes. -/
def reportCalls (s : Box R) (i : Iteration R) : List (NonVolatile.Call R) :=
  match s.battery.reported (s.batteryCall i) with
  | some remainingCharge => [.setRemainingCharge remainingCharge i.batteryTime]
  | none => []

/-- Source `battery.loop`. -/
def batteryLoop (ser : Serializer R) (s : Box R) (i : Iteration R) : Box R :=
  { s with
    battery := s.battery.loop (s.batteryCall i)
    sensors := if s.battery.due (s.batteryCall i) then (s.batteryCurrent i).2 else s.sensors
    nvmem := run (NonVolatile.step ser) s.nvmem (s.reportCalls i) }

/-- What `display.loop` does to the sensors. -/
def displayLoop (s : Box R) (i : Iteration R) : Box R :=
  { s with sensors := run Psens.step s.sensors i.displayReadings }

/-! ## The loop -/

/-- The box after the update handler had its turn. -/
def afterOta (s : Box R) (i : Iteration R) : Box R :=
  if i.connected then s.handle i.callbacks else s

/-- The pass goes on to the other components. -/
def loopRuns (s : Box R) (i : Iteration R) : Bool :=
  !(s.afterOta i).ota.reset && !(i.connected && (s.afterOta i).isUpdating)

/-- The box when `switcher::loop` is called. -/
def beforeSwitcher (s : Box R) (i : Iteration R) : Box R :=
  if i.connected then (s.afterOta i).online i else s.afterOta i

/-- The box when `battery.loop` is called. -/
def beforeBattery (ser : Serializer R) (s : Box R) (i : Iteration R) : Box R :=
  (nvmemLoop ser ((s.beforeSwitcher i).switcherLoop i) i).powersLoop i

/-- Source `loop`. -/
def iterate (ser : Serializer R) (s : Box R) (i : Iteration R) : Box R :=
  if s.loopRuns i then (batteryLoop ser (beforeBattery ser s i) i).displayLoop i else s.afterOta i

def step (ser : Serializer R) (s : Box R) : Event R → Box R
  | .iteration i => s.iterate ser i
  | .callback cb => s.callback cb

/-! ## The components in the loop -/

/-- The calls of the battery in an event. -/
def batteryCalls (ser : Serializer R) (s : Box R) : Event R → List (BatteryCall R)
  | .iteration i => if s.loopRuns i then [(beforeBattery ser s i).batteryCall i] else []
  | .callback _ => []

/-- The calls of the non-volatile memory in an event. -/
def nvmemCalls (ser : Serializer R) (s : Box R) : Event R → List (NonVolatile.Call R)
  | .iteration i =>
    if s.loopRuns i then
      .loop i.nvmemTime ((s.beforeSwitcher i).fileOutcome i) :: (beforeBattery ser s i).reportCalls i
    else []
  | .callback _ => []

variable {ser : Serializer R} {s : Box R} {i : Iteration R} {events : List (Event R)}

/-- A callback touches the update and the pins only. -/
lemma callback_eq {cb : OtaCallback} :
    s.callback cb = { s with ota := (s.callback cb).ota, switcher := (s.callback cb).switcher } := by
  cases cb <;> simp only [callback] <;> split_ifs <;> rfl

/-- A query touches the switcher only. -/
lemma handleQuery_eq {q : RelayQuery} :
    s.handleQuery q = { s with switcher := (s.handleQuery q).switcher } := by
  rw [handleQuery]
  split <;> rfl

/-- Callbacks leave battery and memory alone. -/
lemma keeps_callbacks (cbs : List OtaCallback) :
    (cbs.foldl callback s).battery = s.battery ∧ (cbs.foldl callback s).nvmem = s.nvmem := by
  constructor
  · exact run_keeps callback (f := battery) fun s cb => by rw [callback_eq]
  · exact run_keeps callback (f := nvmem) fun s cb => by rw [callback_eq]

/-- So do queries. -/
lemma keeps_queries {qs : List RelayQuery} :
    (qs.foldl handleQuery s).battery = s.battery ∧ (qs.foldl handleQuery s).nvmem = s.nvmem := by
  constructor
  · exact run_keeps handleQuery (f := battery) fun s q => by rw [handleQuery_eq]
  · exact run_keeps handleQuery (f := nvmem) fun s q => by rw [handleQuery_eq]

/-- So does the update handler. -/
lemma keeps_afterOta :
    (s.afterOta i).battery = s.battery ∧ (s.afterOta i).nvmem = s.nvmem := by
  rw [afterOta]
  split
  · exact keeps_callbacks _
  · exact ⟨rfl, rfl⟩

/-- Nothing before the switcher changes them. -/
lemma keeps_beforeSwitcher :
    (s.beforeSwitcher i).battery = s.battery ∧ (s.beforeSwitcher i).nvmem = s.nvmem := by
  rw [beforeSwitcher]
  split
  · exact ⟨keeps_queries.1.trans keeps_afterOta.1, keeps_queries.2.trans keeps_afterOta.2⟩
  · exact keeps_afterOta

/-- In the firmware the battery runs as it does alone, over the calls made to it. -/
theorem run_battery :
    (run (step ser) s events).battery
      = run Lifepo4Battery.loop s.battery (outputs (step ser) (batteryCalls ser) s events) := by
  apply run_project (step ser) (batteryCalls ser) Box.battery
  intro s ev
  cases ev with
  | callback cb => exact (keeps_callbacks [cb]).1
  | iteration i =>
    simp only [step, iterate, batteryCalls]
    split
    · change (s.beforeSwitcher i).battery.loop _ = _
      rw [keeps_beforeSwitcher.1]
      rfl
    · exact keeps_afterOta.1

/-- In the firmware the non-volatile memory runs as it does alone, over the calls made to it. -/
theorem run_nvmem :
    (run (step ser) s events).nvmem
      = run (NonVolatile.step ser) s.nvmem (outputs (step ser) (nvmemCalls ser) s events) := by
  apply run_project (step ser) (nvmemCalls ser) Box.nvmem
  intro s ev
  cases ev with
  | callback cb => exact (keeps_callbacks [cb]).2
  | iteration i =>
    simp only [step, iterate, nvmemCalls]
    split
    · change run (NonVolatile.step ser) ((s.beforeSwitcher i).nvmem.loop ser _ _) _ = _
      rw [keeps_beforeSwitcher.2]
      rfl
    · exact keeps_afterOta.2

end Box
end AstroPowerBox.Main
