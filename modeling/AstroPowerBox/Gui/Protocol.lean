import AstroPowerBox.Gui.EspComm
import AstroPowerBox.Main.Demand

/-!
# The box and the PC

The firmware of the box, the network, and the program on the PC. The box broadcasts its status and never
learns what has become of it: the network may lose a datagram, deliver it late, in another order or several
times, or garble it. The PC listens to the address of the box only; what comes from elsewhere it drops.

`pc_exact` says what the PC has made of what was delivered to it, in every interleaving. So a shutdown of
the PC goes back to a user who has turned the power on and off again (`pc_shutdown_on_demand`), even though
the datagram that carries it may come much later.
-/

namespace AstroPowerBox.Gui
open Foundation Communication Main Switcher

/-- An event of the firmware, or what arrives at the PC: one of the datagrams that were sent, one that can
no longer be read, or one from another address. -/
inductive WorldEvent (R : Rounding) where
  | box (ev : FirmwareEvent R)
  | deliver (i : ℕ)
  | garbled
  | foreign (doc : Option Json)

/-- The box, every datagram that it has sent, and the program on the PC. -/
structure World (R : Rounding) where
  box : Firmware R
  sent : List (TxContent R) := []
  pc : EspComm R := {}

namespace World
variable {R : Rounding}

def boot (env : Environment R) : World R := { box := .boot env }

/-- What is delivered in an event. -/
def delivered (w : World R) : WorldEvent R → List (TxContent R)
  | .deliver i => w.sent[i]?.toList
  | _ => []

/-- The events of the firmware in an event. -/
def firmwareEvents : WorldEvent R → List (FirmwareEvent R)
  | .box ev => [ev]
  | _ => []

def step (env : Environment R) (isAstroMiniPc : Bool) (w : World R) : WorldEvent R → World R
  | .box ev => { w with box := w.box.step env ev, sent := w.sent ++ w.box.sent env ev }
  | .deliver i =>
    match w.sent[i]? with
    | some tx => { w with pc := w.pc.parseRxData isAstroMiniPc ⟨true, some tx.document⟩ }
    | none => w
  | .garbled => { w with pc := w.pc.parseRxData isAstroMiniPc ⟨true, none⟩ }
  | .foreign doc => { w with pc := w.pc.parseRxData isAstroMiniPc ⟨false, doc⟩ }

section
variable (env : Environment R) (isAstroMiniPc : Bool)

/-- The world after a run from boot. -/
def after (events : List (WorldEvent R)) : World R := run (step env isAstroMiniPc) (boot env) events

/-- What has been delivered to the PC, in order. -/
def deliveries (events : List (WorldEvent R)) : List (TxContent R) :=
  outputs (step env isAstroMiniPc) delivered (boot env) events

/-- What the box has gone through. -/
def boxHistory (events : List (WorldEvent R)) : List (FirmwareEvent R) :=
  events.flatMap firmwareEvents

end

/-- The entry of the log for a message; an implausible voltage gives none. -/
def entry (tx : TxContent R) : Option (LogEntry R) :=
  if 1 ≤ tx.batteryInfo.voltage then
    some ⟨if tx.timestamp.toNat < 2 ^ 31 then tx.timestamp else 0, tx.batteryInfo.voltage,
      tx.batteryInfo.current⟩
  else none

/-! ## One datagram -/

section
variable {s : EspComm R} {tx : TxContent R} {isAstroMiniPc : Bool}

/-- A battery below one volt is not logged. -/
lemma logDocument_of_low (low : ¬ 1 ≤ tx.batteryInfo.voltage) :
    s.logDocument tx.document = s := by
  have hvoltage : (tx.batteryInfo.convertToJson .null).get "voltage"
      = .num tx.batteryInfo.voltage.val := by simp [BatInfo.convertToJson]
  have hexact : Rounded.ofRat tx.batteryInfo.voltage.val = tx.batteryInfo.voltage :=
    Rounded.ext tx.batteryInfo.voltage.fixed
  rw [EspComm.logDocument, toObject_batteryInfo, hvoltage]
  simp [isDouble, toDouble, hexact, low]

/-- A message of the box, at the PC. -/
lemma parseRxData_document : s.parseRxData isAstroMiniPc ⟨true, some tx.document⟩ =
    ⟨s.log ++ [tx].filterMap entry,
      s.shutdowns + [tx].countP (·.shutdownPC && isAstroMiniPc)⟩ := by
  have hlog : s.logDocument tx.document = ⟨s.log ++ [tx].filterMap entry, s.shutdowns⟩ := by
    by_cases hcharged : 1 ≤ tx.batteryInfo.voltage
    · have hentry : [tx].filterMap entry = [⟨if tx.timestamp.toNat < 2 ^ 31 then tx.timestamp else 0,
          tx.batteryInfo.voltage, tx.batteryInfo.current⟩] := by
        simp [entry, hcharged]
      rw [logDocument_document hcharged, hentry]
      rfl
    · have hentry : [tx].filterMap entry = [] := by simp [entry, hcharged]
      rw [logDocument_of_low hcharged, hentry, List.append_nil]
  rw [EspComm.parseRxData, if_pos rfl]
  simp only [hlog, shutdownRequested_document, List.countP_singleton]
  split_ifs <;> rfl

end

/-! ## Any interleaving -/

section
variable {env : Environment R} {isAstroMiniPc : Bool} {hist events : List (WorldEvent R)}
  {ev : WorldEvent R}

/-- One more event is one more step. -/
lemma after_concat : after env isAstroMiniPc (hist ++ [ev])
    = (after env isAstroMiniPc hist).step env isAstroMiniPc ev := run_concat _

/-- An event adds what it delivers. -/
lemma deliveries_concat : deliveries env isAstroMiniPc (hist ++ [ev])
    = deliveries env isAstroMiniPc hist ++ (after env isAstroMiniPc hist).delivered ev :=
  outputs_concat _ _

lemma boxHistory_concat : boxHistory (hist ++ [ev]) = boxHistory hist ++ firmwareEvents ev := by
  simp [boxHistory]

/-- The box does not notice the rest of the world. -/
lemma box_after : (after env isAstroMiniPc events).box = Firmware.after env (boxHistory events) := by
  induction events using List.reverseRecOn with
  | nil => rfl
  | append_singleton hist ev ih =>
    rw [after_concat, boxHistory_concat, Firmware.after, run_append, ← Firmware.after, ← ih]
    cases ev with
    | box ev => rfl
    | deliver i => rw [step]; split <;> rfl
    | garbled | foreign => rfl

/-- What is on its way is what the firmware has sent. -/
lemma sent_after : (after env isAstroMiniPc events).sent
    = Firmware.outputsOf env (Firmware.sent env) (boxHistory events) := by
  induction events using List.reverseRecOn with
  | nil => rfl
  | append_singleton hist ev ih =>
    rw [after_concat, boxHistory_concat, Firmware.outputsOf, outputs_append, ← Firmware.outputsOf, ← ih]
    cases ev with
    | box ev =>
      rw [step, box_after]
      exact congrArg _ (List.nil_append _).symm
    | deliver i => rw [step]; split <;> exact (List.append_nil _).symm
    | garbled | foreign => exact (List.append_nil _).symm

/-- What an event does to the PC. -/
lemma pc_step {w : World R} : (w.step env isAstroMiniPc ev).pc =
    ⟨w.pc.log ++ (w.delivered ev).filterMap entry,
      w.pc.shutdowns + (w.delivered ev).countP (·.shutdownPC && isAstroMiniPc)⟩ := by
  cases ev with
  | box ev => simp [step, delivered]
  | garbled => simp [step, delivered, EspComm.parseRxData]
  | foreign doc => simp [step, delivered, EspComm.parseRxData]
  | deliver i =>
    rw [step, delivered]
    cases h : w.sent[i]? with
    | none => simp
    | some tx => exact parseRxData_document

/-- The PC by the history of the deliveries. -/
lemma pc_after : (after env isAstroMiniPc events).pc =
    ⟨(deliveries env isAstroMiniPc events).filterMap entry,
      (deliveries env isAstroMiniPc events).countP (·.shutdownPC && isAstroMiniPc)⟩ := by
  induction events using List.reverseRecOn with
  | nil => rfl
  | append_singleton hist ev ih =>
    rw [after_concat, pc_step, ih, deliveries_concat, List.filterMap_append, List.countP_append]

/-- What is delivered has been sent. -/
lemma sent_of_delivered {tx : TxContent R} (h : tx ∈ deliveries env isAstroMiniPc events) :
    tx ∈ Firmware.outputsOf env (Firmware.sent env) (boxHistory events) := by
  induction events using List.reverseRecOn with
  | nil => cases h
  | append_singleton hist ev ih =>
    have hpre : Firmware.outputsOf env (Firmware.sent env) (boxHistory hist)
        <+: Firmware.outputsOf env (Firmware.sent env) (boxHistory (hist ++ [ev])) := by
      rw [boxHistory_concat]
      exact outputs_mono _ _ (List.prefix_append _ _)
    have hsent : (after env isAstroMiniPc hist).sent
        = Firmware.outputsOf env (Firmware.sent env) (boxHistory hist) := sent_after
    rw [deliveries_concat, List.mem_append] at h
    rcases h with h | h
    · exact hpre.subset (ih h)
    · refine hpre.subset ?_
      rw [← hsent]
      cases ev with
      | deliver i => exact List.mem_of_getElem? (Option.mem_toList.mp h)
      | box | garbled | foreign => cases h

/-- In every interleaving the log of the PC has exactly the plausible ones of the messages that were
delivered, in the order of their delivery; it was shut down as often as one of them asked for it; and each
of them is a message that the box had sent. -/
theorem pc_exact (env : Environment R) (isAstroMiniPc : Bool) (events : List (WorldEvent R)) :
    (after env isAstroMiniPc events).pc.log = (deliveries env isAstroMiniPc events).filterMap entry ∧
    (after env isAstroMiniPc events).pc.shutdowns
      = (deliveries env isAstroMiniPc events).countP (·.shutdownPC && isAstroMiniPc) ∧
    ∀ tx ∈ deliveries env isAstroMiniPc events,
      tx ∈ Firmware.outputsOf env (Firmware.sent env) (boxHistory events) := by
  rw [pc_after]
  exact ⟨rfl, rfl, fun tx htx => sent_of_delivered htx⟩

/-- In every interleaving, if the PC has been shut down, it is the one that may be, and the box has sent a
message that asks for it, after the user had demanded power and had then demanded that it goes off. -/
theorem pc_shutdown_on_demand (env : Environment R) (isAstroMiniPc : Bool)
    (events : List (WorldEvent R))
    (chron : Chronological 0 (Firmware.outputsOf env Firmware.buttonEvents (boxHistory events)))
    (down : 0 < (after env isAstroMiniPc events).pc.shutdowns) :
    isAstroMiniPc = true ∧
      Once (fun hist ev => Firmware.AsksForShutdown env hist ev ∧
        Once (Firmware.DemandedOffAgain env) hist) (boxHistory events) := by
  rw [pc_after, List.countP_pos_iff] at down
  obtain ⟨tx, htx, hdown⟩ := down
  obtain ⟨hflag, hmini⟩ := (Bool.and_eq_true _ _).mp hdown
  refine ⟨hmini, (once_of_mem_outputs (sent_of_delivered htx)).imp (I := fun hist _ =>
    Chronological 0 (Firmware.outputsOf env Firmware.buttonEvents hist)) ?_ ?_⟩
  · intro hist ev pre
    exact chron.of_prefix (outputs_mono _ _ ((List.prefix_append _ _).trans pre))
  · intro hist ev chron' hsends
    have hasks : Firmware.AsksForShutdown env hist ev := ⟨tx, hsends, hflag⟩
    exact ⟨hasks, Firmware.waits_on_demand chron' (Firmware.waiting_of_asks hasks)⟩

end

/-- Power is turned on in the chat and off again, and one of the messages that follow reaches the PC. -/
def shutdownRun : List (WorldEvent .binary32) :=
  let press : List ChatMessage := [{ msg := ⟨.query, "", "RelayConsumers", some .subrelayConsumers⟩ }]
  let pass (time : ℕ) (messages : List ChatMessage) : WorldEvent .binary32 :=
    .box (.pass (Firmware.passAt time messages ⟨true, [0x2E, 0xE0]⟩))
  [.box (.wifi (.gotIp 500)), pass 1000 press, pass 1300 [], pass 1600 [], pass 2700 [],
    pass 2800 press, pass 3100 [], pass 3800 [], .garbled, .deliver 0, .deliver 2]

theorem pc_shutdown_on_demand_chat : true = true ∧
    Once (fun hist ev => Firmware.AsksForShutdown Firmware.wholeEnvironment hist ev ∧
      Once (Firmware.DemandedOffAgain Firmware.wholeEnvironment) hist) (boxHistory shutdownRun) :=
  pc_shutdown_on_demand Firmware.wholeEnvironment true shutdownRun (by decide +kernel)
    (by decide +kernel)

end World
end AstroPowerBox.Gui
