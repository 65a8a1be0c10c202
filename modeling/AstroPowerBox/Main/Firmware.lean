import AstroPowerBox.Communication.Transmit
import AstroPowerBox.Connection.Handler
import AstroPowerBox.Foundation.Past
import AstroPowerBox.Main.Loop
import AstroPowerBox.Switcher.KeyLock
import AstroPowerBox.Telegram.Commands

/-!
# The whole main loop

Source `src/main.cpp` with everything that `loop` calls, but for what the display draws. What `Main.Loop` takes as
an input of a pass is here made by the firmware: whether the box is connected, the relay queries and the
command of the chat, and the readings that answers and datagrams make. So the part of it that is a `Box`
runs as the box does alone (`run_box`), and the parts behind it as their own components (`run_connection`,
`run_button`).

The WiFi library reports between two passes, and in a pass before the connection is looked after. The
button interrupts a pass anywhere; `seen` of the edges that a poll finds have come before the message.
-/

namespace AstroPowerBox.Main
open Foundation Sensors Switcher Battery Storage Telegram Communication RingBuffer

/-- A message of the chat, with the bus at the two readings that the status takes. -/
structure ChatMessage where
  msg : TBMessage
  voltage : Access := ⟨0, ⟨false, []⟩⟩
  current : Access := ⟨0, ⟨false, []⟩⟩

namespace ChatMessage

/-- The readings for the status (source `_handleText`). -/
def readings (m : ChatMessage) : List Reading :=
  if m.msg.messageType = .text ∧ startsWith m.msg.text "/getstatus" then
    [⟨.voltage, .ch1Battery, m.voltage⟩, ⟨.current, .ch1Battery, m.current⟩]
  else []

/-- The relay that the message switches at once. -/
def relayQuery (m : ChatMessage) : Option RelayQuery :=
  if m.msg.messageType = .query ∧ m.msg.callbackQueryData ≠ "Relay" ∧
      startsWith m.msg.callbackQueryData "Relay" then
    some ⟨(m.msg.callbackQueryData.toUTF8.toList.getD 5 0).toNat - 48,
      endsWith m.msg.callbackQueryData "On"⟩
  else none

end ChatMessage

/-- What the WiFi library reports. -/
inductive WifiReport where
  | gotIp (time : ℕ)
  | disconnected (time : ℕ)
deriving DecidableEq

/-- The report as an event of the connection handler. -/
def WifiReport.event : WifiReport → Connection.Event
  | .gotIp time => .gotIp time
  | .disconnected time => .disconnected time

/-- What one pass of the loop meets. Of `box`, the fields are looked at that do not come from the firmware
itself. -/
structure Pass (R : Rounding) where
  callbacks : List OtaCallback := []
  messages : List ChatMessage := []
  seen : ℕ := 0
  transmit : TransmitCall
  reports : List WifiReport := []
  start : ℕ
  stop : ℕ
  mdnsBegin : Bool := true
  telegramBegin : Bool := true
  box : Iteration R

/-- A pass of the loop, or what comes between two passes. -/
inductive FirmwareEvent (R : Rounding) where
  | pass (p : Pass R)
  | callback (cb : OtaCallback)
  | wifi (report : WifiReport)

/-- The variables of the firmware. -/
structure Firmware (R : Rounding) where
  box : Box R
  pendingCommands : RbBase
  connection : Connection.Handler := {}
  lastTxTime : UInt32 := 0

/-- What the firmware is started with: the JSON library, the length of the list of networks, the file of the
statistics and what is read from it, and whether there is memory for the queue of commands. -/
structure Environment (R : Rounding) where
  ser : Serializer R
  ssidListLen : ℕ
  file : Option (List UInt8) := none
  parsed : Option (BatStats R) := none
  allocated : Bool := true

namespace Pass
variable {R : Rounding}

/-- The messages that the chat has in this pass. -/
def handledMessages (p : Pass R) : List ChatMessage := p.messages.take 10

def relayQueries (p : Pass R) : List RelayQuery := p.handledMessages.filterMap ChatMessage.relayQuery

/-- The events of the connection handler. -/
def connectionEvents (p : Pass R) : List Connection.Event :=
  p.reports.map WifiReport.event ++ [.loop p.start p.stop p.mdnsBegin p.telegramBegin]

end Pass

namespace Firmware
variable {R : Rounding}

/-- The firmware after `setup`. -/
def boot (env : Environment R) : Firmware R :=
  { box := .boot env.file env.parsed, pendingCommands := .new 4 10 env.allocated }

/-- What the chat works on. -/
def chat (s : Firmware R) : Telegram.System R := ⟨⟨s.box.switcher, s.box.sensors⟩, s.pendingCommands⟩

/-- One message in `telegramBot.loop`. -/
def handleMessage (c : Telegram.System R) (m : ChatMessage) : Telegram.System R :=
  let c := c.handle m.msg
  { c with switcher.sensors := run Psens.step c.switcher.sensors m.readings }

/-- Source `telegramBot.loop`. -/
def telegramLoop (s : Firmware R) (p : Pass R) : Firmware R :=
  let c := run handleMessage s.chat p.handledMessages
  { s with
    box.switcher := c.switcher.switcher
    box.sensors := c.switcher.sensors
    pendingCommands := c.pendingCommands }

/-- What a message is made of. -/
def device (s : Firmware R) (p : Pass R) (readings : PsensChannel → ChannelReadings R) : Device R where
  readings := readings
  pins := s.box.switcher.power.pins
  charge := s.box.switcher.charge
  btnInfo := (p.box.switcher.poll.edges.take p.seen).foldl buttonISR s.box.switcher.button.btnInfo
  consumersState := s.box.switcher.power.consumersState
  battery := s.box.battery
  rssi := p.transmit.rssi
  time := p.transmit.stop

/-- Source `comm.transmit`, and what it sends. -/
def transmit (s : Firmware R) (p : Pass R) : Firmware R × List (TxContent R) :=
  if due s.lastTxTime p.transmit then
    let (readings, sensors) := readAll s.box.sensors p.transmit
    ({ s with box.sensors := sensors, lastTxTime := millis p.transmit.start },
      [(s.device p readings).send])
  else (s, [])

/-- Chat and datagrams, if the box is connected. -/
def online (s : Firmware R) (p : Pass R) : Firmware R × List (TxContent R) :=
  if s.connection.gotIp then (s.telegramLoop p).transmit p else (s, [])

/-- The command for `switcher::loop`. -/
def switcherLoop (s : Firmware R) (p : Pass R) : Firmware R :=
  let (command, pendingCommands) := getAndClearCommand s.pendingCommands
  { s with box := s.box.switcherLoop { p.box with switcher.command := command }, pendingCommands }

/-- The firmware after the update handler had its turn. -/
def afterOta (s : Firmware R) (p : Pass R) : Firmware R :=
  if s.connection.gotIp then { s with box := s.box.handle p.callbacks } else s

/-- The pass goes on to the other components. -/
def loopRuns (s : Firmware R) (p : Pass R) : Bool :=
  !(s.afterOta p).box.ota.reset && !(s.connection.gotIp && (s.afterOta p).box.isUpdating)

/-- Source `connectionHandler::loop`, after the reports of the pass. -/
def connectionLoop (env : Environment R) (s : Firmware R) (p : Pass R) : Firmware R :=
  { s with
    connection := run (Connection.Handler.step env.ssidListLen) s.connection p.connectionEvents }

/-- Source `loop`, and what it sends. -/
def pass (env : Environment R) (s : Firmware R) (p : Pass R) :
    Firmware R × List (TxContent R) :=
  if s.loopRuns p then
    let (s, sent) := (s.afterOta p).online p
    let s := (s.connectionLoop env p).switcherLoop p
    let box := ((s.box.nvmemLoop env.ser p.box).powersLoop p.box).batteryLoop env.ser p.box
    ({ s with box := box.displayLoop p.box }, sent)
  else (s.afterOta p, [])

/-- An event of the firmware, and what it sends. -/
def handle (env : Environment R) (s : Firmware R) :
    FirmwareEvent R → Firmware R × List (TxContent R)
  | .pass p => s.pass env p
  | .callback cb => ({ s with box := s.box.callback cb }, [])
  | .wifi report =>
    ({ s with connection := s.connection.step env.ssidListLen report.event }, [])

def step (env : Environment R) (s : Firmware R) (ev : FirmwareEvent R) : Firmware R :=
  (s.handle env ev).1

/-- The messages that an event sends. -/
def sent (env : Environment R) (s : Firmware R) (ev : FirmwareEvent R) :
    List (TxContent R) :=
  (s.handle env ev).2

/-! ## The box in the firmware -/

/-- The readings for answers and datagrams. -/
def otherReadings (s : Firmware R) (p : Pass R) : List Reading :=
  p.handledMessages.flatMap ChatMessage.readings ++
    if due s.lastTxTime p.transmit then sendReadings p.transmit else []

/-- The command that a pass fetches. -/
def command (s : Firmware R) (p : Pass R) : Command :=
  (getAndClearCommand ((s.afterOta p).online p).1.pendingCommands).1

/-- The call of `switcher::loop` in a pass. -/
def switcherCall (s : Firmware R) (p : Pass R) : LoopCall R :=
  { p.box.switcher with command := s.command p }

/-- The pass as the box meets it. -/
def iteration (s : Firmware R) (p : Pass R) : Iteration R :=
  { p.box with
    connected := s.connection.gotIp
    callbacks := p.callbacks
    relayQueries := p.relayQueries
    otherReadings := s.otherReadings p
    switcher := s.switcherCall p }

/-- An event as the box meets it. -/
def boxEvents (s : Firmware R) : FirmwareEvent R → List (Event R)
  | .pass p => [.iteration (s.iteration p)]
  | .callback cb => [.callback cb]
  | .wifi _ => []

section
variable {env : Environment R} {s : Firmware R} {p : Pass R} {b : Box R}
  {events : List (FirmwareEvent R)}

/-- The character after `Relay`, as the source and as the box compare it. -/
lemma relayNr_cases (c : UInt8) :
    c = 48 ∨ c = 49 ∨ c = 50 ∨
      (c - 48 ≠ 0 ∧ c - 48 ≠ 1 ∧ c - 48 ≠ 2) ∧
        ((c.toNat : ℤ) - 48 ≠ 0 ∧ (c.toNat : ℤ) - 48 ≠ 1 ∧ (c.toNat : ℤ) - 48 ≠ 2) := by
  by_cases h : c = 48 ∨ c = 49 ∨ c = 50
  · tauto
  · simp only [← UInt8.toNat_inj, ne_eq, UInt8.toNat_sub] at h ⊢
    have hlt := c.toNat_lt
    simp at h ⊢
    omega

/-- A query switches the relay that it names. -/
lemma switcher_handleQuery {c : Telegram.System R} {m : ChatMessage}
    (htype : m.msg.messageType = .query) (hb : c.switcher.switcher = b.switcher) :
    (c.handleQuery m.msg).switcher =
      ⟨(m.relayQuery.toList.foldl Box.handleQuery b).switcher, c.switcher.sensors⟩ := by
  rw [System.handleQuery, ChatMessage.relayQuery]
  by_cases hbare : m.msg.callbackQueryData = "Relay"
  · simp [hbare, ← hb]
  by_cases hrelay : startsWith m.msg.callbackQueryData "Relay" = true
  · rw [if_neg hbare, if_pos hrelay, if_pos ⟨htype, hbare, hrelay⟩]
    generalize m.msg.callbackQueryData.toUTF8.toList.getD 5 0 = c
    generalize endsWith m.msg.callbackQueryData "On" = requestedState
    obtain rfl | rfl | rfl | ⟨⟨h0, h1, h2⟩, h0', h1', h2'⟩ := relayNr_cases c
    · simp [Box.handleQuery, ← hb]
    · simp [Box.handleQuery, ← hb]
    · simp [Box.handleQuery, ← hb]
    · simp [Box.handleQuery, ← hb]
  · simp [hbare, hrelay, ← hb]

/-- A message switches the relay that it names, and takes no reading. -/
lemma switcher_handle {c : Telegram.System R} {m : ChatMessage}
    (hb : c.switcher.switcher = b.switcher) :
    (c.handle m.msg).switcher =
      ⟨(m.relayQuery.toList.foldl Box.handleQuery b).switcher, c.switcher.sensors⟩ := by
  have hinvoke : (c.invoke m.msg.callback).switcher = c.switcher := by
    cases m.msg.callback with
    | none => rfl
    | some cb => cases cb <;> rfl
  have hnone : m.msg.messageType ≠ .query → m.relayQuery.toList.foldl Box.handleQuery b = b := by
    intro hne
    simp [ChatMessage.relayQuery, hne]
  rw [System.handle]
  cases htype : m.msg.messageType with
  | query =>
    have hb' : (c.invoke m.msg.callback).switcher.switcher = b.switcher := by rw [hinvoke, hb]
    rw [← hinvoke]
    exact switcher_handleQuery htype hb'
  | reply =>
    have hreplies : ((c.invoke m.msg.callback).handleReplies m.msg).switcher
        = (c.invoke m.msg.callback).switcher := by
      rw [System.handleReplies]
      split_ifs <;> rfl
    rw [hnone (by simp [htype]), ← hb]
    exact hreplies.trans hinvoke
  | text | other =>
    rw [hnone (by simp [htype]), ← hb]
    exact hinvoke

/-- The messages of a pass, as the box meets them. -/
lemma switcher_messages {c : Telegram.System R} {ms : List ChatMessage}
    (hb : c.switcher.switcher = b.switcher) :
    (run handleMessage c ms).switcher =
      ⟨((ms.filterMap ChatMessage.relayQuery).foldl Box.handleQuery b).switcher,
        run Psens.step c.switcher.sensors (ms.flatMap ChatMessage.readings)⟩ := by
  induction ms using List.reverseRecOn with
  | nil => simp [← hb]
  | append_singleton ms m ih =>
    have hm := switcher_handle (m := m) (congrArg Switcher.System.switcher ih)
    rw [run_concat, handleMessage]
    rw [List.filterMap_append, List.foldl_append, List.flatMap_append, run_append, hm, ih]
    cases h : m.relayQuery <;> simp [h]

/-- Relay queries take no reading. -/
lemma keeps_sensors_queries (b : Box R) (qs : List RelayQuery) :
    (qs.foldl Box.handleQuery b).sensors = b.sensors := by
  exact run_keeps Box.handleQuery (f := Box.sensors) fun s q => by rw [Box.handleQuery_eq]

/-- The chat does to the box what its queries and readings do. -/
lemma box_telegramLoop : (s.telegramLoop p).box =
    { p.relayQueries.foldl Box.handleQuery s.box with
      sensors := run Psens.step s.box.sensors (p.handledMessages.flatMap ChatMessage.readings) } := by
  have hqueries : p.relayQueries.foldl Box.handleQuery s.box
      = { s.box with switcher := (p.relayQueries.foldl Box.handleQuery s.box).switcher } := by
    generalize p.relayQueries = qs
    induction qs using List.reverseRecOn with
    | nil => rfl
    | append_singleton qs q ih =>
      rw [List.foldl_append, ih]
      exact Box.handleQuery_eq
  rw [telegramLoop, switcher_messages (b := s.box) rfl, hqueries]
  rfl

/-- Chat and datagrams do to the box what the box takes them to do. -/
lemma box_online {i : Iteration R} (hgot : s.connection.gotIp = true)
    (hqueries : i.relayQueries = p.relayQueries) (hreadings : i.otherReadings = s.otherReadings p) :
    (s.online p).1.box = s.box.online i := by
  have hchat := box_telegramLoop (s := s) (p := p)
  have hkeeps := keeps_sensors_queries s.box p.relayQueries
  have htx : (s.telegramLoop p).lastTxTime = s.lastTxTime := rfl
  rw [online, if_pos hgot, Box.online, hqueries, hreadings, otherReadings, run_append, hkeeps, transmit,
    htx]
  split_ifs with hdue
  · have hsensors : (readAll (s.telegramLoop p).box.sensors p.transmit).2
        = run Psens.step (s.telegramLoop p).box.sensors (sendReadings p.transmit) := sensors_readAll
    rw [hchat] at hsensors
    simp only [hchat, hsensors]
  · exact hchat

/-- The update handler does to the box what it does alone. -/
lemma box_afterOta : (s.afterOta p).box = s.box.afterOta (s.iteration p) := by
  rw [afterOta, Box.afterOta, iteration]
  cases s.connection.gotIp <;> rfl

/-- The pass goes on where the box goes on. -/
lemma loopRuns_box : s.loopRuns p = s.box.loopRuns (s.iteration p) := by
  rw [loopRuns, Box.loopRuns, box_afterOta]
  rfl

/-- The box when `switcher::loop` is called. -/
lemma box_beforeSwitcher :
    ((s.afterOta p).online p).1.box = s.box.beforeSwitcher (s.iteration p) := by
  rw [Box.beforeSwitcher, ← box_afterOta]
  cases hgot : s.connection.gotIp with
  | true =>
    have hgot' : (s.afterOta p).connection.gotIp = true := by
      rw [afterOta, if_pos hgot]
      exact hgot
    have hreadings : (s.iteration p).otherReadings = (s.afterOta p).otherReadings p := by
      rw [afterOta, if_pos hgot]
      rfl
    rw [if_pos (show (s.iteration p).connected = true from hgot)]
    exact box_online hgot' rfl hreadings
  | false =>
    rw [if_neg (show ¬ (s.iteration p).connected = true by simp [iteration, hgot])]
    simp [online, afterOta, hgot]

/-- A pass of the firmware is a pass of the box. -/
lemma box_pass : (s.pass env p).1.box = s.box.iterate env.ser (s.iteration p) := by
  rw [pass, Box.iterate, ← loopRuns_box, Box.beforeBattery, ← box_beforeSwitcher, ← box_afterOta]
  split_ifs with hruns
  · rfl
  · rfl

/-- In the firmware the box runs as it does alone. -/
theorem run_box : (run (step env) s events).box
    = run (Box.step env.ser) s.box (outputs (step env) boxEvents s events) := by
  apply run_project (step env) boxEvents Firmware.box
  intro s ev
  cases ev with
  | pass p => exact box_pass
  | callback cb => rfl
  | wifi report => rfl

/-! ## The other components -/

/-- The events of the connection handler in an event. -/
def connectionEvents (s : Firmware R) : FirmwareEvent R → List Connection.Event
  | .pass p => if s.loopRuns p then p.connectionEvents else []
  | .callback _ => []
  | .wifi report => [report.event]

/-- The events of the button in an event. -/
def buttonEvents (s : Firmware R) : FirmwareEvent R → List ButtonEvent
  | .pass p =>
    if s.loopRuns p then (s.switcherCall p).buttonEvents else []
  | .callback _ => []
  | .wifi _ => []

/-- The update handler leaves the connection alone. -/
lemma connection_afterOta : (s.afterOta p).connection = s.connection := by
  rw [afterOta]
  split_ifs <;> rfl

/-- So do chat and datagrams. -/
lemma connection_online : (s.online p).1.connection = s.connection := by
  rw [online, transmit]
  split_ifs <;> rfl

/-- The connection handler runs as it does alone. -/
theorem run_connection : (run (step env) s events).connection
    = run (Connection.Handler.step env.ssidListLen) s.connection
        (outputs (step env) connectionEvents s events) := by
  apply run_project (step env) connectionEvents Firmware.connection
  intro s ev
  cases ev with
  | callback cb => rfl
  | wifi report => rfl
  | pass p =>
    rw [step, handle, pass, connectionEvents]
    split_ifs with hruns
    · change run _ (((s.afterOta p).online p).1.connection) _ = _
      rw [connection_online, connection_afterOta]
    · exact connection_afterOta

lemma button_callback {cb : OtaCallback} : (b.callback cb).switcher.button = b.switcher.button := by
  cases cb <;> simp only [Box.callback] <;> split_ifs <;> rfl

/-- A query does not touch the button. -/
lemma button_handleQuery {q : RelayQuery} :
    (b.handleQuery q).switcher.button = b.switcher.button := by
  rw [Box.handleQuery]
  split <;> rfl

/-- Nor does the update handler. -/
lemma button_afterOta {i : Iteration R} : (b.afterOta i).switcher.button = b.switcher.button := by
  rw [Box.afterOta]
  split_ifs
  · exact run_keeps Box.callback (f := fun b => b.switcher.button) fun b cb => button_callback
  · rfl

/-- The button as `switcher::loop` finds it. -/
lemma button_beforeSwitcher {i : Iteration R} :
    (b.beforeSwitcher i).switcher.button = b.switcher.button := by
  rw [Box.beforeSwitcher]
  split_ifs
  · exact (run_keeps Box.handleQuery (f := fun b => b.switcher.button)
      fun b q => button_handleQuery).trans button_afterOta
  · exact button_afterOta

/-- The button runs as it does alone. -/
theorem run_button : (run (step env) s events).box.switcher.button
    = run Button.step s.box.switcher.button
        (outputs (step env) buttonEvents s events) := by
  apply run_project (step env) buttonEvents fun s => s.box.switcher.button
  intro s ev
  cases ev with
  | callback cb => exact button_callback
  | wifi report => rfl
  | pass p =>
    rw [step, handle, box_pass, Box.iterate, buttonEvents, ← loopRuns_box]
    split_ifs with hruns
    · rw [LoopCall.buttonEvents, run_concat, run_edges, ← button_beforeSwitcher (b := s.box) (i := s.iteration p)]
      rfl
    · exact button_afterOta

end

end Firmware
end AstroPowerBox.Main
