import AstroPowerBox.Connection.Attempts
import AstroPowerBox.Foundation.Progress
import AstroPowerBox.Main.Firmware
import AstroPowerBox.Main.Update

/-!
# Datagrams of the firmware

When the main loop sends its status: in passes that find the box with an IP and no update running, and
never by two calls of `transmit` that look at the clock within a second (`datagrams_spaced`). While the
power machine waits for the PC, and the connection is not lost and no update begins, a status that says so
goes out in time, or the waiting has ended (`pc_told_in_time`).

The times of a call of `transmit` are those at which it looks at the clock: first to see whether a message
is due, and then for the time in the message. What is sent goes out a little later, after the readings.
-/

namespace AstroPowerBox.Main
open Foundation Sensors Switcher Battery Storage Telegram Communication

namespace Firmware
variable {R : Rounding}

/-- The calls of `comm.transmit` in an event. -/
def transmitCalls (s : Firmware R) : FirmwareEvent R → List TransmitCall
  | .pass p => if s.loopRuns p && s.connection.gotIp then [p.transmit] else []
  | .callback _ => []
  | .wifi _ => []

/-- The status that a pass sends if it is due. -/
def message (s : Firmware R) (p : Pass R) : TxContent R :=
  let s := (s.afterOta p).telegramLoop p
  (s.device p (readAll s.box.sensors p.transmit).1).send

/-- The times at which the calls of `transmit` that send in an event look at the clock. -/
def sendTimes (env : Environment R) (s : Firmware R) : FirmwareEvent R → List ℕ
  | .pass p => (s.pass env p).2.map fun _ => p.transmit.start
  | .callback _ => []
  | .wifi _ => []

section
variable {env : Environment R} {s : Firmware R} {p : Pass R}
  {events : List (FirmwareEvent R)}

/-! ## One pass -/

lemma gotIp_afterOta : (s.afterOta p).connection.gotIp = s.connection.gotIp := by
  rw [connection_afterOta]

/-- The update handler sends no status. -/
lemma lastTxTime_afterOta : (s.afterOta p).lastTxTime = s.lastTxTime := by
  rw [afterOta]
  split_ifs <;> rfl

/-- A pass that stops after the update handler sends nothing. -/
lemma pass_of_stops (h : s.loopRuns p = false) : s.pass env p = (s.afterOta p, []) := by
  simp [pass, h]

/-- A pass sends if it goes on, with an IP, a second after the last status. -/
lemma sent_pass : (s.pass env p).2 =
    if s.loopRuns p = true ∧ s.connection.gotIp = true ∧ due s.lastTxTime p.transmit = true then
      [s.message p]
    else [] := by
  by_cases hruns : s.loopRuns p = true
  · have hsent : (s.pass env p).2 = ((s.afterOta p).online p).2 := by
      rw [pass, if_pos hruns]
    have htx : ((s.afterOta p).telegramLoop p).lastTxTime = s.lastTxTime := lastTxTime_afterOta
    rw [hsent, online, gotIp_afterOta, transmit, htx]
    by_cases hgot : s.connection.gotIp = true
    · by_cases hdue : due s.lastTxTime p.transmit = true
      · simp [hruns, hgot, hdue, message]
      · simp [hgot, hdue]
    · simp [hgot]
  · rw [pass_of_stops (by simpa using hruns)]
    simp [hruns]

/-- The time of the last status follows the calls of `transmit`. -/
lemma lastTxTime_step {ev : FirmwareEvent R} : (s.step env ev).lastTxTime
    = run txStep s.lastTxTime (s.transmitCalls ev) := by
  cases ev with
  | callback cb => rfl
  | wifi report => rfl
  | pass p =>
    rw [step, handle, transmitCalls]
    by_cases hruns : s.loopRuns p = true
    · have htx : (s.pass env p).1.lastTxTime = ((s.afterOta p).online p).1.lastTxTime := by
        rw [pass, if_pos hruns]
        rfl
      have hchat : ((s.afterOta p).telegramLoop p).lastTxTime = s.lastTxTime := lastTxTime_afterOta
      rw [htx, online, gotIp_afterOta, transmit, hchat, hruns]
      cases hgot : s.connection.gotIp with
      | false => exact lastTxTime_afterOta
      | true =>
        change _ = txStep s.lastTxTime p.transmit
        rw [if_pos rfl, txStep]
        split_ifs with hdue
        · rfl
        · exact hchat
    · rw [pass_of_stops (by simpa using hruns)]
      simpa [hruns] using lastTxTime_afterOta

/-- So do the times at which a status is sent. -/
lemma sendTimes_eq {ev : FirmwareEvent R} :
    s.sendTimes env ev = outputs txStep txTimes s.lastTxTime (s.transmitCalls ev) := by
  cases ev with
  | callback cb => rfl
  | wifi report => rfl
  | pass p =>
    rw [sendTimes, sent_pass, transmitCalls]
    by_cases hruns : s.loopRuns p = true
    · by_cases hgot : s.connection.gotIp = true
      · by_cases hdue : due s.lastTxTime p.transmit = true
        · simp [outputs, history, txTimes, hruns, hgot, hdue]
        · simp [outputs, history, txTimes, hruns, hgot, hdue]
      · simp [hgot]
    · simp [hruns]

end

/-! ## Not too often -/

section
variable (env : Environment R)

/-- The firmware after a run from boot. -/
def after (events : List (FirmwareEvent R)) : Firmware R :=
  run (step env) (boot env) events

/-- What has been put out in a run from boot. -/
def outputsOf {ο : Type*} (out : Firmware R → FirmwareEvent R → List ο)
    (events : List (FirmwareEvent R)) : List ο :=
  outputs (step env) out (boot env) events

/-- The event sends only if an IP is held at its beginning, where the loop asks for it, and no update
runs. -/
def SendsOnline (hist : List (FirmwareEvent R)) (ev : FirmwareEvent R) : Prop :=
  (after env hist).sent env ev ≠ [] →
    Connection.ipHeld (outputsOf env connectionEvents hist) = true ∧
      (after env (hist ++ [ev])).box.isUpdating = false

variable {env} {hist : List (FirmwareEvent R)} {ev : FirmwareEvent R}

/-- One more event is one more step. -/
lemma after_concat : after env (hist ++ [ev])
    = (after env hist).step env ev := run_concat _

/-- The flag says whether an IP is held. -/
lemma gotIp_after : (after env hist).connection.gotIp
    = Connection.ipHeld (outputsOf env connectionEvents hist) := by
  rw [after, run_connection]
  exact Connection.gotIp_after

/-- One event: what it sends, it sends with an IP. -/
lemma sendsOnline : SendsOnline env hist ev := by
  intro hsent
  rw [← gotIp_after, after_concat]
  generalize after env hist = s at *
  cases ev with
  | callback cb => exact absurd rfl hsent
  | wifi report => exact absurd rfl hsent
  | pass p =>
    rw [sent, handle, sent_pass] at hsent
    obtain ⟨hruns, hgot, -⟩ := ite_ne_right_iff.mp hsent |>.1
    refine ⟨hgot, ?_⟩
    rw [step, handle, Box.isUpdating, box_pass, ota_iterate, ← box_afterOta]
    simp only [loopRuns, hgot, Bool.true_and, Bool.and_eq_true, Bool.not_eq_true'] at hruns
    exact hruns.2

end

/-- In every run from boot the status is sent in passes that begin with an IP and while no update runs. The
calls of `transmit` that send look at the clock more than a second after the boot, and then more than a
second apart, whatever the clock does; what is sent goes out later in the call. -/
theorem datagrams_spaced (env : Environment R) (events : List (FirmwareEvent R))
    (chron : Chronological 0 (outputsOf env transmitCalls events)) :
    EveryStep (SendsOnline env) events ∧
      (0 :: outputsOf env (sendTimes env) events).Pairwise
        fun t t' => t + 1000 < t' := by
  refine ⟨fun hist ev _ => sendsOnline, ?_⟩
  have htimes : outputsOf env (sendTimes env) events
      = outputs txStep txTimes 0
          (outputsOf env transmitCalls events) :=
    outputs_project (step env) transmitCalls lastTxTime (fun _ _ => lastTxTime_step)
      fun _ _ => sendTimes_eq
  rw [htimes]
  exact tx_apart chron

/-- A pass that begins at `time` with the given chat and meets 12 V everywhere. -/
def passAt (time : ℕ) (messages : List ChatMessage) (bus : Transaction) : Pass .binary32 where
  messages := messages
  transmit := .brief time bus
  start := time
  stop := time
  box :=
    { connected := true
      switcher := .brief .noCommand time bus
      nvmemTime := time + 1
      file := ⟨true, true, 200⟩
      powersTime := time + 1
      powers := fun _ => (⟨time + 1, bus⟩, ⟨time + 1, bus⟩)
      batteryGate := time + 2
      batteryTime := time + 2
      batteryVoltage := ⟨time + 2, bus⟩
      batteryCurrent := ⟨time + 2, bus⟩ }

/-- No sensor answers. -/
def emptyBus : Transaction := ⟨false, []⟩

/-- Two networks, and a library that writes every file as a whole. -/
def wholeEnvironment : Environment .binary32 where
  ser := wholeJson
  ssidListLen := 2

/-- A chat in which nothing happens, over several seconds and a lost connection. -/
def quietRun : List (FirmwareEvent .binary32) :=
  .wifi (.gotIp 500) :: ((List.range 30).map fun n => .pass (passAt (600 + 100 * n) [] emptyBus)) ++
    [.wifi (.disconnected 4000), .pass (passAt 5000 [] emptyBus)]

/-- A run without a command or a press. -/
theorem datagrams_spaced_quiet :
    EveryStep (SendsOnline wholeEnvironment) quietRun ∧
      (0 :: outputsOf wholeEnvironment (sendTimes wholeEnvironment) quietRun).Pairwise
        fun t t' => t + 1000 < t' :=
  datagrams_spaced wholeEnvironment quietRun (by decide +kernel)

/-! ## Soon enough -/

/-- The box is connected, and no update has begun. -/
structure Online (s : Firmware R) : Prop where
  gotIp : s.connection.gotIp = true
  reset : s.box.ota.reset = false
  updating : s.box.ota.sigUpdateStarted = false

/-- The power machine waits for the PC. -/
def Waiting (s : Firmware R) : Prop := s.box.switcher.power.consumersState = .onWait4pcShutdown

/-- The pass, and what it has sent, after what has been sent before. -/
def record (env : Environment R) (s : Firmware R × List (TxContent R)) (p : Pass R) :
    Firmware R × List (TxContent R) :=
  ((s.1.pass env p).1, s.2 ++ (s.1.pass env p).2)

/-- The PC has been told, or there is nothing to wait for. -/
def ToldOrDone (s : Firmware R × List (TxContent R)) : Prop :=
  ¬ Waiting s.1 ∨ ∃ tx ∈ s.2, tx.shutdownPC = true

end Firmware

instance {R : Rounding} : Timed (Pass R) where
  start p := p.transmit.start
  stop p := p.transmit.stop

/-- The report of a lost connection. -/
def WifiReport.isLoss : WifiReport → Bool
  | .gotIp _ => false
  | .disconnected _ => true

/-- No update begins, and the connection is not lost. -/
def Pass.Quiet {R : Rounding} (p : Pass R) : Prop :=
  p.callbacks = [] ∧ ∀ report ∈ p.reports, report.isLoss = false

instance {R : Rounding} : DecidablePred (Pass.Quiet (R := R)) :=
  fun _ => inferInstanceAs (Decidable (_ ∧ _))

namespace Firmware
section
variable {R : Rounding} {env : Environment R} {d t : ℕ} {s : Firmware R} {p : Pass R}

/-- Without a callback the update handler does nothing. -/
lemma afterOta_quiet (quiet : p.Quiet) : s.afterOta p = s := by
  rw [afterOta, quiet.1]
  have hhandle : s.box.handle [] = s.box := by
    rw [Box.handle, Box.handled]
    split_ifs <;> rfl
  rw [hhandle]
  split_ifs <;> rfl

/-- A quiet pass goes on to the other components. -/
lemma Online.loopRuns (online : Online s) (quiet : p.Quiet) : s.loopRuns p = true := by
  rw [Firmware.loopRuns, afterOta_quiet quiet, Box.isUpdating, online.reset, online.updating]
  simp

/-- The connection takes the reports of the pass. -/
lemma connection_pass (hruns : s.loopRuns p = true) : (s.pass env p).1.connection
    = run (Connection.Handler.step env.ssidListLen) s.connection p.connectionEvents := by
  rw [pass, if_pos hruns]
  change run _ ((s.afterOta p).online p).1.connection _ = _
  rw [connection_online, connection_afterOta]

/-- Reports without a loss keep the IP. -/
lemma gotIp_reports {c : Connection.Handler} {reports : List WifiReport}
    (kept : ∀ report ∈ reports, report.isLoss = false) (hgot : c.gotIp = true) :
    (run (Connection.Handler.step env.ssidListLen) c (reports.map WifiReport.event)).gotIp = true := by
  induction reports using List.reverseRecOn with
  | nil => exact hgot
  | append_singleton reports report ih =>
    rw [List.forall_mem_append, List.forall_mem_singleton] at kept
    rw [List.map_append, List.map_singleton, run_concat, Connection.gotIp_step]
    cases report with
    | gotIp time => rfl
    | disconnected time => cases kept.2

/-- A quiet pass stays online. -/
lemma Online.pass (online : Online s) (quiet : p.Quiet) : Online (s.pass env p).1 := by
  have hota : (s.pass env p).1.box.ota = s.box.ota := by
    rw [box_pass, ota_iterate, ← box_afterOta, afterOta_quiet quiet]
  refine ⟨?_, ?_, ?_⟩
  · rw [connection_pass (online.loopRuns quiet), Pass.connectionEvents, run_concat,
      Connection.gotIp_step]
    exact gotIp_reports quiet.2 online.gotIp
  · rw [hota, online.reset]
  · rw [hota, online.updating]

/-- A query switches a relay, and no state. -/
lemma consumersState_handleQuery {b : Box R} {q : RelayQuery} :
    (b.handleQuery q).switcher.power.consumersState = b.switcher.power.consumersState := by
  rw [Box.handleQuery]
  split <;> rfl

/-- The chat changes no state of the machine either. -/
lemma consumersState_telegramLoop : (s.telegramLoop p).box.switcher.power.consumersState
    = s.box.switcher.power.consumersState := by
  rw [box_telegramLoop]
  exact run_keeps Box.handleQuery (f := fun b => b.switcher.power.consumersState)
    fun b q => consumersState_handleQuery

/-- In the waiting state the message asks for the shutdown. -/
lemma Waiting.message (waiting : Waiting s) (quiet : p.Quiet) : (s.message p).shutdownPC = true := by
  rw [Firmware.message, afterOta_quiet quiet]
  exact decide_eq_true (consumersState_telegramLoop.trans waiting)

/-- A pass that is due comes within a second and two gaps, and sends while the shutdown is waited
for. -/
lemma told_leadsTo (pos : 0 < d) (room : d ≤ 2 ^ 29) :
    LeadsTo (record env) Pass.Quiet d (1001 + 4 * d)
      (fun s => Online s.1 ∧ Waiting s.1) ToldOrDone := by
  refine .of_timeout (fun s => s.1.lastTxTime) pos (by omega) ?_
  rintro ⟨s, txs⟩ p ⟨online, waiting⟩ quiet
  by_cases hdue : due s.lastTxTime p.transmit = true
  · refine .inr (.inr ⟨s.message p, ?_, waiting.message quiet⟩)
    rw [record, sent_pass, if_pos ⟨online.loopRuns quiet, online.gotIp, hdue⟩]
    simp
  by_cases hstays : Waiting (s.pass env p).1
  · refine .inl ⟨⟨online.pass quiet, hstays⟩, ?_, ?_⟩
    · have hgot : s.connection.gotIp = true := online.gotIp
      have hcalls : s.transmitCalls (.pass p) = [p.transmit] := by
        simp [transmitCalls, online.loopRuns quiet, hgot]
      have htx : (s.step env (.pass p)).lastTxTime
          = run txStep s.lastTxTime (s.transmitCalls (.pass p)) := lastTxTime_step
      rw [hcalls] at htx
      exact htx.trans (if_neg hdue)
    · have hearly : ¬ (1000 : UInt32).toNat < _ :=
        fun late => hdue (due_iff.mpr (UInt32.lt_iff_toNat_lt.mpr late))
      exact Nat.lt_succ_of_le (not_lt.mp hearly)
  · exact .inr (.inl hstays)

/-- The passes with what they have sent so far. -/
lemma run_record {passes : List (Pass R)} {txs : List (TxContent R)} :
    run (record env) (s, txs) passes =
      (run (step env) s (passes.map .pass),
        txs ++ outputs (step env) (sent env) s (passes.map .pass)) := by
  induction passes using List.reverseRecOn with
  | nil => simp
  | append_singleton passes p ih =>
    rw [run_concat, ih, List.map_append, List.map_singleton, run_concat, outputs_concat,
      ← List.append_assoc]
    rfl

/-- From any state in which the box is online and waits for the PC, whatever the time stamp of the last
message: if passes of the loop less than `d` ms apart follow, `d` up to `2 ^ 29`, in which the connection
is not lost and no update begins, then a call of `transmit` within 1001 ms and 4 `d` sends a message that
asks for the shutdown, or the waiting has ended before. -/
theorem pc_told_in_time (env : Environment R) (s : Firmware R)
    (passes : List (Pass R)) (d t : ℕ) (online : Online s) (waiting : Waiting s) (pos : 0 < d)
    (room : d ≤ 2 ^ 29) (steady : Steady Pass.Quiet d t passes)
    (long : t + (1001 + 4 * d) ≤ endTime t passes) :
    ∃ first, first <+: passes ∧ endTime t first ≤ t + (1001 + 4 * d) ∧
      (¬ Waiting (run (step env) s (first.map .pass)) ∨
        ∃ tx ∈ outputs (step env) (sent env) s (first.map .pass),
          tx.shutdownPC = true) := by
  obtain ⟨first, pre, told, hend⟩ :=
    told_leadsTo pos room t (s, []) passes ⟨online, waiting⟩ steady long
  rw [run_record, ToldOrDone, List.nil_append] at told
  exact ⟨first, pre, hend, told⟩

end

/-! ## A shutdown, half a minute after boot -/

/-- A box that waits for the PC. -/
def waitingBox : Firmware .binary32 :=
  { boot wholeEnvironment with
    connection.gotIp := true
    box.switcher.power.consumersState := .onWait4pcShutdown }

/-- A pass every 200 ms. -/
def waitingPasses : List (Pass .binary32) :=
  (List.range 20).map fun n => passAt (29000 + 200 * n) [] ⟨true, [0x2E, 0xE0]⟩

/-- A box that waits for the shutdown of the PC. -/
theorem pc_told_in_time_waiting : ∃ first, first <+: waitingPasses ∧
    endTime 29000 first ≤ 29000 + (1001 + 4 * 201) ∧
      (¬ Waiting (run (step wholeEnvironment) waitingBox (first.map .pass)) ∨
        ∃ tx ∈ outputs (step wholeEnvironment) (sent wholeEnvironment) waitingBox (first.map .pass),
          tx.shutdownPC = true) :=
  pc_told_in_time wholeEnvironment waitingBox waitingPasses 201 29000 ⟨rfl, rfl, rfl⟩ rfl (by decide)
    (by decide) (by decide +kernel) (by decide +kernel)

end Firmware
end AstroPowerBox.Main
