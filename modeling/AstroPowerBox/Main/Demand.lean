import AstroPowerBox.Main.Datagrams
import AstroPowerBox.Switcher.Sequence

/-!
# On demand only

The firmware switches the power for the user only. The request of the switcher changes where the unlocked
button is pressed, or where a command is fetched that the chat has confirmed (`demanded_of_turned`). So the
relay is closed by a relay query of the chat, or after the user has demanded power
(`relay_on_demand`); and the machine waits for the PC only after the user has demanded power and has then
demanded that it goes off (`waits_on_demand`).

The chain leads through the whole firmware: from the chat or the edges of the button over the queue of
commands to the request, the power machine and the relay.
-/

namespace AstroPowerBox.Switcher
open Foundation Button

/-! ## The unlocked button -/

/-- A poll that ends the gesture: the button is down again, after it was held and released. -/
def Acknowledges (hist : List ButtonEvent) (ev : ButtonEvent) : Prop :=
  isDown hist = true ∧ Gesture hist ev.time

/-- The lock is open. -/
def Unlocked (events : List ButtonEvent) : Prop := (after events).keyLockState = .unlockedIdle

/-- The lock has been open since a gesture ended. -/
lemma unlocked_since {events : List ButtonEvent} (chron : Chronological 0 events)
    (h : Unlocked events) : Since Unlocked Acknowledges events := by
  refine since_of_cause (by simp [Unlocked, after]) (fun hist ev pre was now => ?_) h
  have hgesture := unlocksByGesture chron hist ev pre
  cases ev with
  | edge e =>
    rw [Unlocked, after_concat] at now
    exact absurd now was
  | poll time command => exact hgesture was now

/-! ## Where a request is needed -/

/-- The machine is on its way off. -/
def Leaving (state : ConsumersState) : Prop :=
  state = .onPreparePowerDown ∨ state = .onWait4pcShutdown

section
variable {R : Rounding} {c : PowerCall R} {s s' : ConsumerPower}

/-- The consumers are started on request only. -/
lemma Transition.of_start (tr : Transition c s s') (hidle : s.consumersState = .offIdle)
    (hon : s'.consumersState ≠ .offIdle) : c.requestedState = true := by
  cases tr with
  | turnOn req => exact req
  | remainOff => exact absurd rfl hon
  | _ => cases hidle

/-- They are left on request only, or were being left before. -/
lemma Transition.of_leaving (tr : Transition c s s') (h : Leaving s'.consumersState) :
    Leaving s.consumersState ∨ s.consumersState = .onIdle ∧ c.requestedState = false := by
  cases tr with
  | turnOff req => exact .inr ⟨rfl, req⟩
  | unload | unloaded => exact .inl (.inl rfl)
  | wait4pc => exact .inl (.inr rfl)
  | _ => rcases h with h | h <;> cases h

/-- The relay closes only in a state that a request has led to. -/
lemma Transition.of_closing (tr : Transition c s s') (hclosed : s'.pins.getConsumers = true) :
    s.pins.getConsumers = true ∨ s.consumersState ≠ .offIdle := by
  cases tr with
  | remainOff => simp at hclosed
  | turnOn => exact .inl hclosed
  | _ => exact .inr nofun

end
end AstroPowerBox.Switcher

namespace AstroPowerBox.Main
open Foundation Sensors Switcher Battery Storage Telegram Communication

/-- The command that asks for a request. -/
def commandOf (on : Bool) : Command := if on then .powerConsumersOn else .powerConsumersOff

namespace Firmware
variable {R : Rounding}

/-- The commands that the chat confirms in an event. -/
def confirmedBy (s : Firmware R) : FirmwareEvent R → List Command
  | .pass p =>
    if s.loopRuns p && s.connection.gotIp then
      outputs handleMessage (fun c m => c.confirms m.msg) (s.afterOta p).chat p.handledMessages
    else []
  | .callback _ => []
  | .wifi _ => []

/-- The commands that an event fetches from the queue. -/
def fetchedBy (s : Firmware R) : FirmwareEvent R → List Command
  | .pass p => if s.loopRuns p then [s.command p] else []
  | .callback _ => []
  | .wifi _ => []

/-- The relay queries that the chat handles in an event. -/
def queriesIn (s : Firmware R) : FirmwareEvent R → List RelayQuery
  | .pass p => if s.loopRuns p && s.connection.gotIp then p.relayQueries else []
  | .callback _ => []
  | .wifi _ => []

/-- What the user wants (source `_consumerPowerRequest`). -/
def request (s : Firmware R) : Bool := s.box.switcher.button.consumerPowerRequest

section
variable (env : Environment R)

/-- The chat confirms the command. -/
def Confirms (cmd : Command) (hist : List (FirmwareEvent R)) (ev : FirmwareEvent R) : Prop :=
  cmd ∈ (after env hist).confirmedBy ev

/-- A command that the chat has confirmed is fetched from the queue. -/
def FetchesConfirmed (cmd : Command) (hist : List (FirmwareEvent R)) (ev : FirmwareEvent R) : Prop :=
  cmd ∈ (after env hist).fetchedBy ev ∧ Once (Confirms env cmd) (hist ++ [ev])

/-- The button is pressed while the lock is open, since a gesture has opened it. -/
def PressedUnlocked (hist : List (FirmwareEvent R)) (ev : FirmwareEvent R) : Prop :=
  ∃ before poll, outputsOf env buttonEvents (hist ++ [ev])
      = before ++ [poll] ∧ (Button.after before).toggles poll = true ∧
    Since Unlocked Acknowledges (before ++ [poll])

/-- The request changes, as the user has demanded: by the button, or by a command for it that comes out of
the queue. -/
def Demanded (on : Bool) (hist : List (FirmwareEvent R)) (ev : FirmwareEvent R) : Prop :=
  (after env hist).request = !on ∧
    (after env (hist ++ [ev])).request = on ∧
    (PressedUnlocked env hist ev ∨ FetchesConfirmed env (commandOf on) hist ev)

/-- A relay query of the chat closes the relay. -/
def ClosedByQuery (hist : List (FirmwareEvent R)) (ev : FirmwareEvent R) : Prop :=
  ⟨0, true⟩ ∈ (after env hist).queriesIn ev

/-- The user demands that the power goes off, after having demanded it. -/
def DemandedOffAgain (hist : List (FirmwareEvent R)) (ev : FirmwareEvent R) : Prop :=
  Demanded env false hist ev ∧
    Once (Demanded env true) hist

end

/-! ## The commands in the queue -/

section
variable {env : Environment R} {s : Firmware R} {p : Pass R} {q : List Command}
  {ev : FirmwareEvent R}

/-- The update handler queues no command. -/
lemma pendingCommands_afterOta : (s.afterOta p).pendingCommands = s.pendingCommands := by
  rw [afterOta]
  split_ifs <;> rfl

/-- A message queues the commands that it confirms. -/
lemma pendingCommands_handleMessage {c : Telegram.System R} {m : ChatMessage} :
    (handleMessage c m).pendingCommands = run enqueue c.pendingCommands (c.confirms m.msg) :=
  System.pendingCommands_handle

/-- In a pass that runs, the queue takes what the chat confirms and gives a command away. -/
lemma pendingCommands_online (hruns : s.loopRuns p = true) :
    ((s.afterOta p).online p).1.pendingCommands
      = run enqueue s.pendingCommands (s.confirmedBy (.pass p)) := by
  rw [confirmedBy, hruns, online, gotIp_afterOta]
  cases hgot : s.connection.gotIp with
  | false => exact pendingCommands_afterOta
  | true =>
    have htx : (((s.afterOta p).telegramLoop p).transmit p).1.pendingCommands
        = ((s.afterOta p).telegramLoop p).pendingCommands := by
      rw [transmit]
      split_ifs <;> rfl
    have hchat : (run handleMessage (s.afterOta p).chat p.handledMessages).pendingCommands
        = run enqueue (s.afterOta p).chat.pendingCommands _ :=
      run_project handleMessage (fun c m => c.confirms m.msg) System.pendingCommands
        fun _ _ => pendingCommands_handleMessage
    have hpending : (s.afterOta p).chat.pendingCommands = s.pendingCommands := pendingCommands_afterOta
    rw [if_pos rfl, htx, ← hpending]
    exact hchat

/-- What an event leaves in the queue was there, or has just been confirmed; and so was the command that
is fetched. -/
lemma holds_step (env : Environment R) (ev : FirmwareEvent R) (h : Holds s.pendingCommands q) :
    ∃ q', Holds (s.step env ev).pendingCommands q' ∧
      (∀ cmd ∈ q', cmd ∈ q ∨ cmd ∈ s.confirmedBy ev) ∧
      ∀ p, ev = .pass p → s.loopRuns p = true → s.command p = .noCommand ∨ s.command p ∈ q ∨
        s.command p ∈ s.confirmedBy ev := by
  cases ev with
  | callback cb => exact ⟨q, h, fun cmd hcmd => .inl hcmd, fun p hp => nomatch hp⟩
  | wifi report => exact ⟨q, h, fun cmd hcmd => .inl hcmd, fun p hp => nomatch hp⟩
  | pass p =>
    by_cases hruns : s.loopRuns p = true
    · have hfull : Holds (run enqueue s.pendingCommands (s.confirmedBy (.pass p))) _ := h.enqueue_all
      rw [← pendingCommands_online hruns] at hfull
      generalize hq : (q ++ s.confirmedBy (.pass p)).take (capacity s.pendingCommands) = q₀ at hfull
      obtain ⟨hfront, htail⟩ := hfull.getAndClearCommand
      have hmem : ∀ cmd ∈ q₀, cmd ∈ q ∨ cmd ∈ s.confirmedBy (.pass p) := by
        intro cmd hcmd
        rw [← hq] at hcmd
        exact List.mem_append.mp (List.mem_of_mem_take hcmd)
      refine ⟨q₀.tail, ?_, fun cmd hcmd => hmem cmd (List.mem_of_mem_tail hcmd), ?_⟩
      · rw [step, handle, pass, if_pos hruns]
        exact htail
      · rintro p' ⟨⟩ -
        rw [command, hfront]
        cases q₀ with
        | nil => exact .inl rfl
        | cons cmd q₀ => exact .inr (hmem cmd List.mem_cons_self)
    · have hstops : s.loopRuns p = false := by simpa using hruns
      refine ⟨q, ?_, fun cmd hcmd => .inl hcmd, ?_⟩
      · rw [step, handle, pass_of_stops hstops, pendingCommands_afterOta]
        exact h
      · rintro p' ⟨⟩ hruns'
        exact absurd hruns' hruns

/-- A command changes the request to what it asks for, or leaves it. -/
lemma apply_eq {command : Command} {on requested : Bool} (h : command.apply requested = on) :
    command = commandOf on ∨ requested = on := by
  cases command with
  | powerConsumersOn => exact .inl (h ▸ rfl)
  | powerConsumersOff => exact .inl (h ▸ rfl)
  | _ => exact .inr h

end

section
variable {env : Environment R} {hist events : List (FirmwareEvent R)}
  {ev : FirmwareEvent R} {on : Bool}

/-- One more event adds its outputs. -/
lemma outputsOf_concat {ο : Type*} {out : Firmware R → FirmwareEvent R → List ο} :
    outputsOf env out (hist ++ [ev])
      = outputsOf env out hist
        ++ out (after env hist) ev := outputs_concat _ _

/-- Every command in the queue has been confirmed. -/
lemma exists_confirmed (events : List (FirmwareEvent R)) :
    ∃ q, Holds (after env events).pendingCommands q ∧
      ∀ cmd ∈ q, Once (Confirms env cmd) events := by
  induction events using List.reverseRecOn with
  | nil => exact ⟨[], holds_new, by simp⟩
  | append_singleton hist ev ih =>
    obtain ⟨q, hq, hconfirmed⟩ := ih
    obtain ⟨q', hq', hmem, -⟩ := holds_step env ev hq
    rw [after_concat]
    refine ⟨q', hq', fun cmd hcmd => once_concat.mpr ?_⟩
    exact (hmem cmd hcmd).imp_left (hconfirmed cmd)

/-- So has every command that is fetched. -/
lemma confirmed_of_command {p : Pass R}
    (hruns : (after env hist).loopRuns p = true)
    (hreal : (after env hist).command p ≠ .noCommand) :
    Once (Confirms env
      ((after env hist).command p)) (hist ++ [.pass p]) := by
  obtain ⟨q, hq, hconfirmed⟩ := exists_confirmed hist
  obtain ⟨-, -, -, hcommand⟩ := holds_step env (.pass p) hq
  rcases hcommand p rfl hruns with hnone | hcmd | hcmd
  · exact absurd hnone hreal
  · exact once_concat.mpr (.inl (hconfirmed _ hcmd))
  · exact once_concat.mpr (.inr hcmd)

/-! ## The request -/

/-- The button runs as it does alone, over the events that reach it. -/
lemma button_after : (after env events).box.switcher.button
    = Button.after (outputsOf env buttonEvents events) := run_button

/-- Outside the passes that run the request stays as it is. -/
lemma request_of_stops (hnone : (after env hist).buttonEvents ev = []) :
    (after env (hist ++ [ev])).request = (after env hist).request := by
  rw [request, request, button_after, button_after, outputsOf_concat, hnone, List.append_nil]

/-- An edge changes no request. -/
lemma request_edges (before : List ButtonEvent) (edges : List Edge) :
    (Button.after (before ++ edges.map .edge)).consumerPowerRequest
      = (Button.after before).consumerPowerRequest := by
  rw [Button.after, run_append, run_edges]
  rfl

/-- Where the request changes, the user has demanded it. -/
lemma demanded_of_turned (chron : Chronological 0 (outputsOf env buttonEvents (hist ++ [ev])))
    (hbefore : (after env hist).request = !on) (hnow : (after env (hist ++ [ev])).request = on) :
    Demanded env on hist ev := by
  have hturned : (after env hist).buttonEvents ev ≠ [] := by
    intro hnone
    rw [request_of_stops hnone, hbefore] at hnow
    exact absurd hnow (by simp)
  refine ⟨hbefore, hnow, ?_⟩
  cases ev with
  | callback cb => exact absurd rfl hturned
  | wifi report => exact absurd rfl hturned
  | pass p =>
    obtain ⟨hruns, -⟩ := ite_ne_right_iff.mp hturned
    have hcall : (after env hist).buttonEvents (.pass p)
        = ((after env hist).switcherCall p).buttonEvents := if_pos hruns
    let poll : ButtonEvent := .poll p.box.switcher.poll.time ((after env hist).command p)
    have hhistory : outputsOf env buttonEvents (hist ++ [.pass p])
        = (outputsOf env buttonEvents hist
          ++ (p.box.switcher.poll.edges ++ p.box.switcher.poll.lateEdges).map .edge) ++ [poll] := by
      rw [outputsOf_concat, hcall, List.append_assoc]
      rfl
    rw [request, button_after] at hbefore hnow
    rw [← request_edges _ (p.box.switcher.poll.edges ++ p.box.switcher.poll.lateEdges)] at hbefore
    rw [hhistory] at chron hnow
    generalize outputsOf env buttonEvents hist
      ++ (p.box.switcher.poll.edges ++ p.box.switcher.poll.lateEdges).map .edge = before at *
    rw [Switcher.after_concat] at hnow
    rcases apply_eq hnow with hcommand | hloop
    · -- the command has changed the request
      have hreal : (after env hist).command p ≠ .noCommand := by
        rw [hcommand]
        cases on <;> simp [commandOf]
      have hfetched : (after env hist).command p ∈ (after env hist).fetchedBy (.pass p) := by
        rw [fetchedBy, if_pos hruns]
        exact List.mem_singleton_self _
      exact .inr (hcommand ▸ ⟨hfetched, confirmed_of_command hruns hreal⟩)
    · -- the button has
      have htoggles : (Button.after before).toggles poll = true := by
        rw [Button.toggles, hloop, hbefore]
        cases on <;> rfl
      have hopen : Unlocked (before ++ [poll]) :=
        togglesUnlocked before poll List.prefix_rfl htoggles
      exact .inl ⟨before, poll, hhistory, htoggles, unlocked_since chron hopen⟩

/-- The request has been on since the user demanded it. -/
lemma request_since (chron : Chronological 0 (outputsOf env buttonEvents events))
    (hon : (after env events).request = true) :
    Since (fun hist => (after env hist).request = true) (Demanded env true) events := by
  refine since_of_cause (by rw [Bool.not_eq_true]; rfl) (fun hist ev pre was now => ?_) hon
  exact demanded_of_turned (chron.of_prefix (outputs_mono _ _ pre)) (by simpa using was) now

/-! ## The power machine -/

/-- Queries close the relay only if one of them asks for it. -/
lemma closed_of_queries {b : Box R} {qs : List RelayQuery}
    (h : (qs.foldl Box.handleQuery b).switcher.power.pins.getConsumers = true) :
    b.switcher.power.pins.getConsumers = true ∨ ⟨0, true⟩ ∈ qs := by
  induction qs using List.reverseRecOn with
  | nil => exact .inl h
  | append_singleton qs q ih =>
    rw [List.foldl_append, List.foldl_cons, List.foldl_nil, Box.handleQuery] at h
    rw [List.mem_append, ← or_assoc]
    split at h
    case h_1 hnr =>
      obtain ⟨relayNr, requestedState⟩ := q
      cases hnr
      rw [show requestedState = true by simpa using h]
      exact .inr (List.mem_singleton_self _)
    case h_2 => exact .inl (ih h)
    case h_3 => exact .inl (ih (by simpa using h))
    case h_4 => exact .inl (ih h)

/-- In a pass that runs, the machine makes one transition with the request of the user. A relay query may
have closed the relay before. -/
lemma exists_transition (env : Environment R) {s : Firmware R} {p : Pass R}
    (hruns : s.loopRuns p = true) :
    ∃ (c : PowerCall R) (s' : ConsumerPower),
      c.requestedState = (s.step env (.pass p)).request ∧
      s'.consumersState = s.box.switcher.power.consumersState ∧
      (s'.pins.getConsumers = true → s.box.switcher.power.pins.getConsumers = true ∨
        ⟨0, true⟩ ∈ s.queriesIn (.pass p)) ∧
      Transition c s' (s.step env (.pass p)).box.switcher.power := by
  have hloop : s.box.loopRuns (s.iteration p) = true := by rw [← loopRuns_box, hruns]
  have hota : (s.box.afterOta (s.iteration p)).switcher = s.box.switcher := by
    simp only [Box.loopRuns, Bool.and_eq_true, Bool.not_eq_true'] at hloop
    have hreset := hloop.1
    rw [afterOta_eq] at hreset ⊢
    exact switcher_callbacks hreset
  have hpost : (s.step env (.pass p)).box.switcher
      = ((s.box.beforeSwitcher (s.iteration p)).switcherLoop (s.iteration p)).switcher := by
    rw [step, handle, box_pass, switcher_iterate hloop]
  rw [request, hpost]
  refine ⟨_, (s.box.beforeSwitcher (s.iteration p)).switcher.power, rfl, ?_, ?_,
    consumerPowerLoop_transition⟩
  · rw [Box.beforeSwitcher, ← hota]
    split_ifs
    · exact run_keeps Box.handleQuery (f := fun b => b.switcher.power.consumersState)
        fun b q => consumersState_handleQuery
    · rfl
  · intro hclosed
    rw [Box.beforeSwitcher] at hclosed
    rw [queriesIn, hruns, ← hota]
    split_ifs at hclosed with hconnected
    · rw [if_pos (show (true && s.connection.gotIp) = true from hconnected)]
      exact closed_of_queries hclosed
    · exact .inl hclosed

/-- A callback leaves the state alone, and closes no relay. -/
lemma power_callback {b : Box R} {cb : OtaCallback} :
    (b.callback cb).switcher.power.consumersState = b.switcher.power.consumersState ∧
      ((b.callback cb).switcher.power.pins.getConsumers = true →
        b.switcher.power.pins.getConsumers = true) := by
  cases cb with
  | onStart | onProgress | onError =>
    simp only [Box.callback]
    split_ifs <;> exact ⟨rfl, id⟩
  | onEnd =>
    rw [Box.callback]
    split_ifs
    · exact ⟨rfl, id⟩
    · exact ⟨rfl, fun h => absurd h (by simp)⟩

/-- So does the update handler. -/
lemma power_afterOta {b : Box R} {i : Iteration R} :
    (b.afterOta i).switcher.power.consumersState = b.switcher.power.consumersState ∧
      ((b.afterOta i).switcher.power.pins.getConsumers = true →
        b.switcher.power.pins.getConsumers = true) := by
  rw [afterOta_eq]
  generalize callbacksOf b (.iteration i) = cbs
  induction cbs using List.reverseRecOn with
  | nil => exact ⟨rfl, id⟩
  | append_singleton cbs cb ih =>
    rw [List.foldl_append]
    exact ⟨power_callback.1.trans ih.1, fun h => ih.2 (power_callback.2 h)⟩

/-- Elsewhere the machine and the request stay as they are, and the relay does not close. -/
lemma power_of_stops (env : Environment R) {s : Firmware R}
    (hstops : ∀ p, ev = .pass p → s.loopRuns p = false) :
    (s.step env ev).box.switcher.power.consumersState = s.box.switcher.power.consumersState ∧
      (s.step env ev).request = s.request ∧
      ((s.step env ev).box.switcher.power.pins.getConsumers = true →
        s.box.switcher.power.pins.getConsumers = true) := by
  cases ev with
  | wifi report => exact ⟨rfl, rfl, id⟩
  | callback cb =>
    exact ⟨power_callback.1, congrArg Button.consumerPowerRequest button_callback, power_callback.2⟩
  | pass p =>
    have hbox : (s.step env (.pass p)).box = s.box.afterOta (s.iteration p) := by
      rw [step, handle, pass_of_stops (hstops p rfl), box_afterOta]
    rw [request, hbox]
    exact ⟨power_afterOta.1, congrArg Button.consumerPowerRequest button_afterOta, power_afterOta.2⟩

/-- What the user has demanded before the machine is in a state: power, for every state but the idle one,
and then no power, for those on the way off. -/
structure Justified (env : Environment R) (events : List (FirmwareEvent R)) : Prop where
  running : (after env events).box.switcher.power.consumersState ≠ .offIdle →
    Once (DemandedOffAgain env) events ∨
      Once (Demanded env true) events ∧ (after env events).request = true
  leaving : Leaving (after env events).box.switcher.power.consumersState →
    Once (DemandedOffAgain env) events

/-- A request that has been on is kept, or the user demands that the power goes off. -/
lemma request_next (chron : Chronological 0 (outputsOf env buttonEvents (hist ++ [ev])))
    (honce : Once (Demanded env true) hist) (hon : (after env hist).request = true) :
    Once (DemandedOffAgain env) (hist ++ [ev]) ∨
      Once (Demanded env true) (hist ++ [ev]) ∧ (after env (hist ++ [ev])).request = true := by
  cases hnow : (after env (hist ++ [ev])).request with
  | true => exact .inr ⟨honce.mono (List.prefix_append _ _), rfl⟩
  | false => exact .inl (.now ⟨demanded_of_turned chron hon hnow, honce⟩)

/-- The invariant, by induction on the events. -/
lemma justified (chron : Chronological 0 (outputsOf env buttonEvents events)) :
    Justified env events := by
  induction events using List.reverseRecOn with
  | nil => exact ⟨fun h => absurd rfl h, fun h => by rcases h with h | h <;> cases h⟩
  | append_singleton hist ev ih =>
    have pre : hist <+: hist ++ [ev] := List.prefix_append _ _
    obtain ⟨hrunning, hleaving⟩ := ih (chron.of_prefix (outputs_mono _ _ pre))
    -- a machine that runs has been requested, and the request is kept or demanded off
    have hkeep : (after env hist).box.switcher.power.consumersState ≠ .offIdle →
        Once (DemandedOffAgain env) (hist ++ [ev]) ∨
          Once (Demanded env true) (hist ++ [ev]) ∧ (after env (hist ++ [ev])).request = true := by
      intro hon
      rcases hrunning hon with hoff | ⟨honce, hreq⟩
      · exact .inl (hoff.mono pre)
      · exact request_next chron honce hreq
    by_cases hruns : ∃ p, ev = .pass p ∧ (after env hist).loopRuns p = true
    · obtain ⟨p, rfl, hruns⟩ := hruns
      obtain ⟨c, s', hreq, hstate, -, tr⟩ := exists_transition env hruns
      rw [← after_concat] at hreq tr
      refine ⟨fun hon => ?_, fun hleave => ?_⟩
      · by_cases hidle : (after env hist).box.switcher.power.consumersState = .offIdle
        · have hreq' := hreq.symm.trans (tr.of_start (hstate.trans hidle) hon)
          exact .inr ⟨(request_since chron hreq').once, hreq'⟩
        · exact hkeep hidle
      · rcases tr.of_leaving hleave with hwas | ⟨hidle, hoff⟩
        · exact (hleaving (hstate ▸ hwas)).mono pre
        · rcases hkeep (by rw [← hstate, hidle]; nofun) with hagain | ⟨-, hon⟩
          · exact hagain
          · rw [hreq, hon] at hoff
            cases hoff
    · have hstops : ∀ p, ev = .pass p → (after env hist).loopRuns p = false := by
        intro p hp
        by_contra hrun
        exact hruns ⟨p, hp, by simpa using hrun⟩
      obtain ⟨hstate, -, -⟩ := power_of_stops env hstops
      rw [← after_concat] at hstate
      rw [← hstate] at hkeep hleaving
      exact ⟨hkeep, fun h => (hleaving h).mono pre⟩

/-- The consumers run only after they have been asked for. -/
lemma demanded_of_running (chron : Chronological 0 (outputsOf env buttonEvents events))
    (hon : (after env events).box.switcher.power.consumersState ≠ .offIdle) :
    Once (Demanded env true) events := by
  rcases (justified chron).running hon with hoff | ⟨honce, -⟩
  · exact hoff.trans fun hist ev h => h.2.mono (List.prefix_append _ _)
  · exact honce

/-! ## The relay -/

/-- The relay is closed. -/
def RelayClosed (env : Environment R) (events : List (FirmwareEvent R)) : Prop :=
  (after env events).box.switcher.power.pins.getConsumers = true

/-- In every run from boot, if the consumers relay is closed, it has been so since a relay query of the chat
closed it, or since a step before which the user had demanded power, by the unlocked button or in the
chat. -/
theorem relay_on_demand (env : Environment R) (events : List (FirmwareEvent R))
    (chron : Chronological 0 (outputsOf env buttonEvents events)) (closed : RelayClosed env events) :
    Since (RelayClosed env) (fun hist ev => ClosedByQuery env hist ev ∨ Once (Demanded env true) hist)
      events := by
  refine since_of_cause (fun h => Bool.noConfusion h) (fun hist ev pre was now => ?_) closed
  have chron' := chron.of_prefix (outputs_mono _ _ ((List.prefix_append _ _).trans pre))
  rw [RelayClosed, after_concat] at now
  by_cases hruns : ∃ p, ev = .pass p ∧ (after env hist).loopRuns p = true
  · obtain ⟨p, rfl, hruns⟩ := hruns
    obtain ⟨c, s', -, hstate, hclosed, tr⟩ := exists_transition env hruns
    rcases tr.of_closing now with hquery | hon
    · exact .inl ((hclosed hquery).resolve_left was)
    · exact .inr (demanded_of_running chron' (hstate ▸ hon))
  · have hstops : ∀ p, ev = .pass p → (after env hist).loopRuns p = false := by
      intro p hp
      by_contra hrun
      exact hruns ⟨p, hp, by simpa using hrun⟩
    exact absurd ((power_of_stops env hstops).2.2 now) was

/-- In every run from boot, the machine waits for the PC only after the user has demanded power and has then
demanded that it goes off. -/
theorem waits_on_demand (chron : Chronological 0 (outputsOf env buttonEvents events))
    (waiting : Waiting (after env events)) : Once (DemandedOffAgain env) events :=
  (justified chron).leaving (.inr waiting)

/-- A status that asks for the shutdown of the PC is sent in an event. -/
def AsksForShutdown (env : Environment R) (hist : List (FirmwareEvent R)) (ev : FirmwareEvent R) : Prop :=
  ∃ tx ∈ (after env hist).sent env ev, tx.shutdownPC = true

/-- A status that asks for a shutdown is made while the shutdown is waited for. -/
lemma waiting_of_asks (h : AsksForShutdown env hist ev) : Waiting (after env hist) := by
  obtain ⟨tx, htx, hflag⟩ := h
  generalize after env hist = s at *
  cases ev with
  | callback cb => cases htx
  | wifi report => cases htx
  | pass p =>
    rw [sent, handle, sent_pass] at htx
    split_ifs at htx
    · rw [List.mem_singleton.mp htx] at hflag
      have hstate : ((s.afterOta p).telegramLoop p).box.switcher.power.consumersState
          = s.box.switcher.power.consumersState := by
        rw [consumersState_telegramLoop, box_afterOta]
        exact power_afterOta.1
      exact hstate.symm.trans (of_decide_eq_true hflag)
    · cases htx

end

/-- The button for the consumers is pressed in the chat, and the loop goes on. -/
def chatRun : List (FirmwareEvent .binary32) :=
  [.wifi (.gotIp 500),
    .pass (passAt 1000 [⟨⟨.query, "", "RelayConsumers", some .subrelayConsumers⟩, ⟨0, emptyBus⟩,
      ⟨0, emptyBus⟩⟩] ⟨true, [0x2E, 0xE0]⟩),
    .pass (passAt 1300 [] ⟨true, [0x2E, 0xE0]⟩), .pass (passAt 1600 [] ⟨true, [0x2E, 0xE0]⟩)]

/-- A command of the chat closes the relay. -/
theorem relay_on_demand_chat :
    Since (RelayClosed wholeEnvironment)
      (fun hist ev => ClosedByQuery wholeEnvironment hist ev ∨
        Once (Demanded wholeEnvironment true) hist) chatRun :=
  relay_on_demand wholeEnvironment chatRun (by decide +kernel) (by unfold RelayClosed; decide +kernel)

end Firmware
end AstroPowerBox.Main
