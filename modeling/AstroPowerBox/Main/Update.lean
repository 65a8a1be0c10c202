import AstroPowerBox.Foundation.Binary
import AstroPowerBox.Main.Loop
import AstroPowerBox.Storage.Save
import AstroPowerBox.Switcher.Sequence

/-!
# Over-the-air updates

What an update finds and what it leaves behind. It starts only in `e_consumers_off_idle`, but the
relay is opened by the first call made in that state, not on the way into it (`update_relay_iff`). Its
start unmounts the file system and wakes the radio, and nothing undoes this when it is aborted
(`update_mode_iff`).
-/

namespace AstroPowerBox.Main
open Foundation Sensors Switcher Battery Storage

section
variable {R : Rounding} {ser : Serializer R} {s : Box R} {i : Iteration R} {ev : Event R}
  {cb : OtaCallback} {cbs : List OtaCallback}

/-- The callbacks that ArduinoOTA invokes in an event. -/
def callbacksOf (s : Box R) : Event R → List OtaCallback
  | .iteration i => if i.connected then s.handled i.callbacks else []
  | .callback cb => [cb]

/-- An update starts in the event, after the callbacks `before`: `onStart` finds the box ready. -/
def StartsUpdate (s : Box R) (ev : Event R) (before : List OtaCallback) : Prop :=
  before ++ [.onStart] <+: callbacksOf s ev ∧
    (before.foldl Box.callback s).ota.reset = false ∧
    (before.foldl Box.callback s).ready4Update = true

/-! ## What the callbacks change -/

/-- No callback takes the reset back. -/
lemma reset_of_callback (h : (s.callback cb).ota.reset = false) : s.ota.reset = false := by
  by_contra hreset
  unfold Box.callback at h
  rw [if_pos (by simpa using hreset)] at h
  exact hreset h

/-- Unless a callback resets the processor, it leaves the switcher alone. -/
lemma switcher_callback (h : (s.callback cb).ota.reset = false) :
    (s.callback cb).switcher = s.switcher := by
  have hreset := reset_of_callback h
  cases cb with
  | onStart =>
    simp only [Box.callback, hreset]
    split_ifs <;> rfl
  | onProgress | onError => simp [Box.callback, hreset]
  | onEnd => simp [Box.callback, hreset] at h

/-- Several callbacks do not take the reset back either. -/
lemma reset_of_callbacks (h : (cbs.foldl Box.callback s).ota.reset = false) :
    s.ota.reset = false := by
  induction cbs generalizing s with
  | nil => exact h
  | cons cb cbs ih => exact reset_of_callback (ih h)

/-- Callbacks that do not reset leave the switcher alone. -/
lemma switcher_callbacks (h : (cbs.foldl Box.callback s).ota.reset = false) :
    (cbs.foldl Box.callback s).switcher = s.switcher := by
  induction cbs generalizing s with
  | nil => rfl
  | cons cb cbs ih => exact (ih h).trans (switcher_callback (reset_of_callbacks h))

/-- The update handler runs the callbacks of the pass. -/
lemma afterOta_eq : s.afterOta i = (callbacksOf s (.iteration i)).foldl Box.callback s := by
  simp only [Box.afterOta, callbacksOf]
  split
  · rfl
  · rfl

/-! ## The relay when an update starts -/

/-- The call of `switcher::loop` in the pass comes to `e_consumers_off_idle` from
`e_consumers_on_subs_off`, or from `e_consumers_on_wait4pc_shutdown` with the relay closed. -/
def turnsOffClosed (s : Box R) (i : Iteration R) : Bool :=
  let pre := (s.beforeSwitcher i).switcher.power
  let post := ((s.beforeSwitcher i).switcherLoop i).switcher.power
  post.consumersState = .offIdle &&
    (pre.consumersState = .onSubsOff ||
      pre.consumersState = .onWait4pcShutdown && pre.pins.getConsumers)

def turnedOffUpd (g : Bool) (s : Box R) : Event R → Bool
  | .iteration i => if s.loopRuns i then turnsOffClosed s i else g
  | .callback _ => g

/-- The last call of `switcher::loop` in the run came to `e_consumers_off_idle` from
`e_consumers_on_subs_off`, or from `e_consumers_on_wait4pc_shutdown` with the relay closed. -/
def turnedOffClosed (ser : Serializer R) (s0 : Box R) (events : List (Event R)) : Bool :=
  history (Box.step ser) turnedOffUpd false s0 events

/-- Whenever an update starts in the event, the consumers relay is open. -/
def StartsWithRelayOpen (ser : Serializer R) (s0 : Box R) (hist : List (Event R)) (ev : Event R) :
    Prop :=
  let s := run (Box.step ser) s0 hist
  ∀ before, StartsUpdate s ev before →
    (before.foldl Box.callback s).switcher.power.pins.getConsumers = false

/-- No update starts in the event if the last call of `switcher::loop` has just turned off. -/
def StartsAfterTurnOff (ser : Serializer R) (s0 : Box R) (hist : List (Event R)) (ev : Event R) :
    Prop :=
  (∃ before, StartsUpdate (run (Box.step ser) s0 hist) ev before) →
    turnedOffClosed ser s0 hist = false

/-- After a whole pass the switcher is as its own call has left it. -/
lemma switcher_iterate (h : s.loopRuns i = true) :
    (s.iterate ser i).switcher = ((s.beforeSwitcher i).switcherLoop i).switcher := by
  rw [Box.iterate, if_pos h]
  rfl

/-- After a call of `switcher::loop` the relay is closed in `e_consumers_off_idle` exactly if the
call has just turned off. -/
lemma relay_switcherLoop
    (hoff : ((s.beforeSwitcher i).switcherLoop i).switcher.power.consumersState = .offIdle) :
    ((s.beforeSwitcher i).switcherLoop i).switcher.power.pins.getConsumers = turnsOffClosed s i := by
  unfold turnsOffClosed
  have tr : Transition (powerCall (s.beforeSwitcher i).switcher (s.beforeSwitcher i).sensors
      { i.switcher with soc := (s.beforeSwitcher i).battery.soc })
      (s.beforeSwitcher i).switcher.power
      ((s.beforeSwitcher i).switcherLoop i).switcher.power := consumerPowerLoop_transition
  generalize (s.beforeSwitcher i).switcher.power = pre at *
  generalize ((s.beforeSwitcher i).switcherLoop i).switcher.power = post at *
  cases tr with
  | remainOff => simp
  | abandon => rfl
  | pcOff => simp
  | _ => cases hoff

/-- In `e_consumers_off_idle` the relay is closed exactly if the last call of `switcher::loop` has
just turned off. -/
lemma relay_run {events : List (Event R)} {s0 : Box R}
    (hrelay : s0.switcher.power.pins.getConsumers = false)
    (hreset : (run (Box.step ser) s0 events).ota.reset = false)
    (hoff : (run (Box.step ser) s0 events).switcher.power.consumersState = .offIdle) :
    (run (Box.step ser) s0 events).switcher.power.pins.getConsumers
      = turnedOffClosed ser s0 events := by
  induction events using List.reverseRecOn with
  | nil => exact hrelay
  | append_singleton events ev ih =>
    rw [run_concat] at hreset hoff ⊢
    rw [turnedOffClosed, history_concat]
    change _ = turnedOffUpd (turnedOffClosed ser s0 events) _ _
    generalize run (Box.step ser) s0 events = s at *
    cases ev with
    | callback cb =>
      have hswitcher := switcher_callback hreset
      simp only [Box.step] at hoff ⊢
      rw [hswitcher] at hoff ⊢
      exact ih (reset_of_callback hreset) hoff
    | iteration i =>
      simp only [Box.step, turnedOffUpd] at hreset hoff ⊢
      split
      case isTrue hruns =>
        rw [switcher_iterate hruns] at hoff ⊢
        exact relay_switcherLoop hoff
      case isFalse hruns =>
        -- the pass ends in the update handler, or a finished update resets the processor
        simp only [Box.iterate, if_neg hruns, afterOta_eq] at hreset hoff ⊢
        rw [switcher_callbacks hreset] at hoff ⊢
        exact ih (reset_of_callbacks hreset) hoff

/-- When an update starts, the relay is as the machine has left it. -/
lemma relay_of_startsUpdate {hist : List (Event R)} {s0 : Box R} {before : List OtaCallback}
    (hrelay : s0.switcher.power.pins.getConsumers = false)
    (h : StartsUpdate (run (Box.step ser) s0 hist) ev before) :
    (before.foldl Box.callback (run (Box.step ser) s0 hist)).switcher.power.pins.getConsumers
      = turnedOffClosed ser s0 hist := by
  obtain ⟨-, hreset, hready⟩ := h
  have hoff := hready
  simp only [Box.ready4Update, decide_eq_true_eq] at hoff
  rw [switcher_callbacks hreset] at hoff ⊢
  exact relay_run hrelay (reset_of_callbacks hreset) hoff

/-- Every update starts with the consumers relay open, exactly in the runs in which none starts
directly after a call of `switcher::loop` that has turned off with the relay closed. -/
theorem update_relay_iff (ser : Serializer R) (file : Option (List UInt8))
    (parsed : Option (BatStats R)) (events : List (Event R)) :
    EveryStep (StartsWithRelayOpen ser (.boot file parsed)) events ↔
      EveryStep (StartsAfterTurnOff ser (.boot file parsed)) events := by
  refine forall₂_congr fun hist ev => forall_congr' fun _ => ?_
  constructor
  · rintro h ⟨before, hstart⟩
    rw [← relay_of_startsUpdate rfl hstart]
    exact h before hstart
  · intro h before hstart
    rw [relay_of_startsUpdate rfl hstart]
    exact h ⟨before, hstart⟩

/-! ## The mode after an aborted update -/

/-- What has become of the updates of a run. -/
inductive UpdatePhase where
  | never
  | running
  | aborted
deriving DecidableEq

/-- Update of the phase: an update runs from an `onStart` that finds the box ready to the next
`onError`. -/
def UpdatePhase.next (g : UpdatePhase) (ready4Update : Bool) : OtaCallback → UpdatePhase
  | .onStart => if ready4Update then .running else g
  | .onError => if g = .running then .aborted else g
  | .onProgress | .onEnd => g

/-- The phase after callbacks, which do not change whether the box is ready. -/
def UpdatePhase.after (g : UpdatePhase) (s : Box R) (cbs : List OtaCallback) : UpdatePhase :=
  cbs.foldl (fun g cb => g.next s.ready4Update cb) g

/-- The phase after a run. -/
def updatePhase (ser : Serializer R) (s0 : Box R) (events : List (Event R)) : UpdatePhase :=
  history (Box.step ser) (fun g s ev => g.after s (callbacksOf s ev)) .never s0 events

/-- If the pass of the loop runs without an update, the firmware is in the mode of its setup: the file
system is mounted and the radio sleeps lightly. -/
def RunsInSetupMode (ser : Serializer R) (s0 : Box R) (hist : List (Event R)) : Event R → Prop
  | .iteration i =>
    let s := run (Box.step ser) s0 hist
    s.loopRuns i = true → (s.afterOta i).isUpdating = false →
      (s.afterOta i).ota.fsMounted = true ∧ (s.afterOta i).ota.sleepType = .light
  | .callback _ => True

/-- The pass of the loop does not run after an update that was aborted. -/
def RunsUnaborted (ser : Serializer R) (s0 : Box R) (hist : List (Event R)) : Event R → Prop
  | .iteration i =>
    (run (Box.step ser) s0 hist).loopRuns i = true →
      updatePhase ser s0 (hist ++ [.iteration i]) ≠ .aborted
  | .callback _ => True

/-- The mode in each phase. -/
structure ModeOf (g : UpdatePhase) (o : Ota) : Prop where
  updating : o.sigUpdateStarted = true ↔ g = .running
  mounted : o.fsMounted = true ↔ g = .never
  sleeps : o.sleepType = .light ↔ g = .never

/-- A callback that does not reset does not change whether an update may start. -/
lemma ready4Update_callback (h : (s.callback cb).ota.reset = false) :
    (s.callback cb).ready4Update = s.ready4Update := by
  rw [Box.ready4Update, switcher_callback h, Box.ready4Update]

/-- The phase after the first callback, and then after the others. -/
lemma UpdatePhase.after_cons {g : UpdatePhase} (h : (s.callback cb).ota.reset = false) :
    g.after s (cb :: cbs) = (g.next s.ready4Update cb).after (s.callback cb) cbs := by
  simp only [after, List.foldl_cons, ready4Update_callback h]

/-- A callback keeps mode and phase together. -/
lemma ModeOf.callback {g : UpdatePhase} (h : ModeOf g s.ota)
    (hreset : (s.callback cb).ota.reset = false) :
    ModeOf (g.next s.ready4Update cb) (s.callback cb).ota := by
  obtain ⟨hupdating, hmounted, hsleeps⟩ := h
  have hreset' := reset_of_callback hreset
  cases cb with
  | onStart =>
    simp only [Box.callback, hreset', UpdatePhase.next]
    cases s.ready4Update with
    | true => exact ⟨by simp, by simp, by simp⟩
    | false => exact ⟨hupdating, hmounted, hsleeps⟩
  | onProgress =>
    simp only [Box.callback, hreset']
    exact ⟨hupdating, hmounted, hsleeps⟩
  | onError =>
    simp only [Box.callback, hreset', UpdatePhase.next]
    refine ⟨?_, hmounted.trans ?_, hsleeps.trans ?_⟩
    all_goals cases g <;> simp
  | onEnd => simp [Box.callback, hreset'] at hreset

/-- The mode follows the phase from callback to callback. -/
lemma ModeOf.callbacks {g : UpdatePhase} (h : ModeOf g s.ota)
    (hreset : (cbs.foldl Box.callback s).ota.reset = false) :
    ModeOf (g.after s cbs) (cbs.foldl Box.callback s).ota := by
  induction cbs generalizing s g with
  | nil => exact h
  | cons cb cbs ih =>
    have hreset' : (s.callback cb).ota.reset = false := reset_of_callbacks hreset
    rw [UpdatePhase.after_cons hreset']
    exact ih (h.callback hreset') hreset

/-- Queries do not touch the update. -/
lemma ota_handleQueries {qs : List RelayQuery} : (qs.foldl Box.handleQuery s).ota = s.ota := by
  exact run_keeps Box.handleQuery (f := Box.ota) fun s q => by rw [Box.handleQuery_eq]

/-- Only the callbacks change the mode. -/
lemma ota_iterate : (s.iterate ser i).ota = (s.afterOta i).ota := by
  unfold Box.iterate
  split
  case isFalse => rfl
  case isTrue =>
    change (s.beforeSwitcher i).ota = _
    unfold Box.beforeSwitcher
    split
    · exact ota_handleQueries
    · rfl

/-- The mode follows the phase in every run, by induction on the events. -/
lemma modeOf_run (ser : Serializer R) (file : Option (List UInt8)) (parsed : Option (BatStats R))
    (events : List (Event R))
    (hreset : (run (Box.step ser) (.boot file parsed) events).ota.reset = false) :
    ModeOf (updatePhase ser (.boot file parsed) events)
      (run (Box.step ser) (.boot file parsed) events).ota := by
  induction events using List.reverseRecOn with
  | nil => refine ⟨?_, ?_, ?_⟩ <;> simp [updatePhase, Box.boot]
  | append_singleton events ev ih =>
    rw [run_concat] at hreset ⊢
    rw [updatePhase, history_concat]
    change ModeOf (UpdatePhase.after (updatePhase ser (.boot file parsed) events) _ _) _
    generalize run (Box.step ser) (.boot file parsed) events = s at *
    have hota : (s.step ser ev).ota = ((callbacksOf s ev).foldl Box.callback s).ota := by
      cases ev with
      | callback cb => rfl
      | iteration i => rw [← afterOta_eq, Box.step, ota_iterate]
    rw [hota] at hreset ⊢
    exact (ih (reset_of_callbacks hreset)).callbacks hreset

/-- The main loop runs in the mode of the setup whenever no update is in progress, exactly in the runs
in which it never runs after an update was aborted. -/
theorem update_mode_iff (ser : Serializer R) (file : Option (List UInt8))
    (parsed : Option (BatStats R)) (events : List (Event R)) :
    EveryStep (RunsInSetupMode ser (.boot file parsed)) events ↔
      EveryStep (RunsUnaborted ser (.boot file parsed)) events := by
  refine forall₂_congr fun hist ev => forall_congr' fun _ => ?_
  cases ev with
  | callback cb => exact Iff.rfl
  | iteration i =>
    refine forall_congr' fun hruns => ?_
    have hreset : ((run (Box.step ser) (.boot file parsed) hist).afterOta i).ota.reset = false := by
      simp only [Box.loopRuns, Bool.and_eq_true, Bool.not_eq_true'] at hruns
      exact hruns.1
    have hmode := modeOf_run ser file parsed (hist ++ [.iteration i])
    rw [run_concat, Box.step, ota_iterate] at hmode
    obtain ⟨hupdating, hmounted, hsleeps⟩ := hmode hreset
    rw [hmounted, hsleeps, Box.isUpdating, ← Bool.not_eq_true, hupdating]
    cases updatePhase ser (.boot file parsed) (hist ++ [.iteration i]) <;> simp

end

/-! ## An update after a power-down, and one that is aborted -/

/-- A pass of the loop with the given command, bus and callbacks. -/
def pass (command : Command) (start : ℕ) (bus : Transaction) (callbacks : List OtaCallback) :
    Event .binary32 :=
  .iteration
    { connected := true
      callbacks := callbacks
      switcher := .brief command start bus
      nvmemTime := start + 1
      file := ⟨true, true, 200⟩
      powersTime := start + 1
      powers := fun _ => (⟨start + 1, bus⟩, ⟨start + 1, bus⟩)
      batteryGate := start + 2
      batteryTime := start + 2
      batteryVoltage := ⟨start + 2, bus⟩
      batteryCurrent := ⟨start + 2, bus⟩ }

/-- A turn-on, a power-down, and the pass in which the PC is found off. -/
def powerDownPasses : List (Event .binary32) :=
  [pass .powerConsumersOn 1000 ⟨true, [0x2E, 0xE0]⟩ [],
    pass .noCommand 1300 ⟨true, [0x2E, 0xE0]⟩ [],
    pass .noCommand 1500 ⟨true, [0x2E, 0xE0]⟩ [],
    pass .noCommand 2600 ⟨true, [0x2E, 0xE0]⟩ [],
    pass .powerConsumersOff 2700 ⟨true, [0x2E, 0xE0]⟩ [],
    pass .noCommand 3000 ⟨true, [0x2E, 0xE0]⟩ [],
    pass .noCommand 3100 ⟨true, [0x00, 0x80]⟩ []]

/-- The next pass begins with an update. -/
theorem update_relay_closed :
    ¬ EveryStep (StartsWithRelayOpen wholeJson (.boot none none))
      (powerDownPasses ++ [pass .noCommand 3200 ⟨true, [0x00, 0x80]⟩ [.onStart]]) := by
  intro h
  have hopen := h powerDownPasses _ List.prefix_rfl []
  exact absurd (hopen ⟨by decide +kernel, by decide +kernel, by decide +kernel⟩) (by decide +kernel)

/-- The update fails in the pass in which it has started, and the pass goes on. -/
theorem update_mode_lost :
    ¬ EveryStep (RunsInSetupMode wholeJson (.boot none none))
      [pass .noCommand 1000 ⟨true, [0x2E, 0xE0]⟩ [.onStart, .onProgress, .onError]] := by
  intro h
  have hmode := h [] _ List.prefix_rfl (by decide +kernel) (by decide +kernel)
  exact absurd hmode.1 (by decide +kernel)

end AstroPowerBox.Main
