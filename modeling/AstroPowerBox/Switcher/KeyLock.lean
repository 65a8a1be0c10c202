import AstroPowerBox.Foundation.Clock
import AstroPowerBox.Switcher.Loop

/-!
# Key lock

The edges of the button and the polls of `_buttonLoop` as events of one run, beside the level of the
pin as the edges give it. A poll sees only the last press, the last release and a counter of presses;
`heldAt_of_elapsed` says what the readings of the clock show of the pin all the same, and
`keyLock_cases` what a poll does with them. What has led to each state on the way to `unlockedIdle`
is kept along a run (`LedTo`), and `unlock_gesture` is read off the last one.
-/

namespace AstroPowerBox.Switcher
open Foundation

/-- An edge of the button, or a call of `_buttonLoop` with the time it samples and the command that
`loop` applies after it. -/
inductive ButtonEvent where
  | edge (e : Edge)
  | poll (time : ℕ) (command : Command)
deriving DecidableEq

/-- The time of an event. -/
def ButtonEvent.time : ButtonEvent → ℕ
  | .edge e => e.time
  | .poll time _ => time

instance : Timed ButtonEvent where
  start := ButtonEvent.time
  stop := ButtonEvent.time

/-- Source `e_locked_wait4release` and `e_locked_idle`. -/
def KeyLockState.locked : KeyLockState → Bool
  | .lockedWait4release => true
  | .lockedIdle => true
  | _ => false

namespace Button

def step (s : Button) : ButtonEvent → Button
  | .edge e => { s with btnInfo := buttonISR s.btnInfo e }
  | .poll time command =>
    let s := s.buttonLoop (millis time)
    { s with consumerPowerRequest := command.apply s.consumerPowerRequest }

/-- The poll changes the request. -/
def toggles (s : Button) : ButtonEvent → Bool
  | .edge _ => false
  | .poll time _ => (s.buttonLoop (millis time)).consumerPowerRequest != s.consumerPowerRequest

/-- The button after a run from boot. -/
def after (events : List ButtonEvent) : Button := run step {} events

/-! ## What a poll does -/

section
variable {s : Button} {t : UInt32} {time : ℕ} {command : Command}

/-- The lock and its LED, and nothing else. -/
lemma keyLock_eq : s.keyLock t =
    { s with
      keyLockState := (s.keyLock t).keyLockState
      ledPwmValue := (s.keyLock t).ledPwmValue } := by
  cases s with
  | mk btnInfo state => cases state <;> simp only [keyLock, setLedPwm] <;> split_ifs <;> rfl

@[simp] lemma btnInfo_poll : (s.step (.poll time command)).btnInfo = s.btnInfo := by
  rw [step, buttonLoop, keyLock_eq]

/-- A poll has seen all presses so far. -/
@[simp] lemma prevBtnPressCount_poll :
    (s.step (.poll time command)).prevBtnPressCount = s.btnInfo.numPressesSinceStart := by
  rw [step, buttonLoop, keyLock_eq]

lemma keyLockState_poll :
    (s.step (.poll time command)).keyLockState = (s.keyLock (millis time)).keyLockState := rfl

/-- The lock stays as it is, goes to a locked state, or takes one step of the gesture. -/
lemma keyLock_cases (s : Button) (t : UInt32) :
    (s.keyLock t).keyLockState = s.keyLockState ∨
    (s.keyLock t).keyLockState.locked = true ∨
    (s.keyLock t).keyLockState = .unlockingHold ∨
    (s.keyLockState = .unlockingHold ∧ (s.keyLock t).keyLockState = .unlockingWait4release ∧
      s.btnInfo.pressed = true ∧ 1000 ≤ t - s.btnInfo.lastButtonPressTime) ∨
    (s.keyLockState = .unlockingWait4release ∧
      (s.keyLock t).keyLockState = .unlockingReleaseDelay ∧ s.btnInfo.pressed = false) ∨
    (s.keyLockState = .unlockingReleaseDelay ∧ (s.keyLock t).keyLockState = .unlockingWait4ack ∧
      s.btnInfo.pressed = false ∧ 1000 ≤ t - s.btnInfo.lastButtonReleaseTime) ∨
    (s.keyLockState = .unlockingWait4ack ∧ (s.keyLock t).keyLockState = .unlockedIdle ∧
      s.btnInfo.pressed = true) := by
  cases hstate : s.keyLockState <;> cases hpressed : s.btnInfo.pressed <;>
    simp only [keyLock, setLedPwm, hstate, hpressed] <;> split_ifs <;>
    simp_all [KeyLockState.locked]

/-- The poll toggles the request when a press was counted, the lock is open, and the last release is
more than 250 ms past. -/
lemma toggles_poll_iff : s.toggles (.poll time command) = true ↔
    s.btnInfo.numPressesSinceStart ≠ s.prevBtnPressCount ∧
      (s.step (.poll time command)).keyLockState = .unlockedIdle ∧
      250 < millis time - s.btnInfo.lastButtonReleaseTime := by
  rw [keyLockState_poll, toggles, buttonLoop, keyLock_eq]
  dsimp only
  split_ifs with h
  · simpa using h
  · simpa using h

end

end Button

open Button

/-- The events of a call of `loop`: the interrupts up to the snapshot, and the poll. -/
def LoopCall.buttonEvents {R : Rounding} (call : LoopCall R) : List ButtonEvent :=
  (call.poll.edges ++ call.poll.lateEdges).map .edge ++ [.poll call.poll.time call.command]

/-- The events of the button in an event of the system. -/
def System.buttonEvents {R : Rounding} (_ : System R) : Event R → List ButtonEvent
  | .loop call => call.buttonEvents
  | .read _ => []

/-- Edges change what the interrupt keeps, and nothing else. -/
lemma run_edges {b : Button} {edges : List Edge} :
    run Button.step b (edges.map .edge)
      = { b with btnInfo := edges.foldl buttonISR b.btnInfo } := by
  induction edges generalizing b with
  | nil => rfl
  | cons e edges ih => exact ih

/-- The button of the system runs over these events. -/
theorem run_button {R : Rounding} {s : System R} {events : List (Event R)} :
    (run System.step s events).switcher.button
      = run Button.step s.switcher.button (outputs System.step System.buttonEvents s events) := by
  apply run_project System.step System.buttonEvents (fun s => s.switcher.button)
  intro s ev
  cases ev with
  | loop call =>
    rw [System.buttonEvents, LoopCall.buttonEvents, run_concat, run_edges]
    rfl
  | read r => rfl

/-! ## The button itself -/

/-- The level of the button pin after an event. -/
def level (state : Bool) : ButtonEvent → Bool
  | .edge e => e.state
  | .poll _ _ => state

/-- The level of the pin after the events. -/
def pin (events : List ButtonEvent) : Bool := run level true events

/-- The button is down after the events. -/
def isDown (events : List ButtonEvent) : Bool := !pin events

/-- The pin has been at `state` without interruption for `d` ms before `t`. -/
def HeldAt (state : Bool) (d : ℕ) (events : List ButtonEvent) (t : ℕ) : Prop :=
  HeldFor level (· == state) d true events t

instance {state : Bool} {d : ℕ} {events : List ButtonEvent} {t : ℕ} :
    Decidable (HeldAt state d events t) := inferInstanceAs (Decidable (HeldFor ..))

/-- The button has been down without interruption for `d` ms before `t`. -/
def DownFor : ℕ → List ButtonEvent → ℕ → Prop := HeldAt false

/-- The button has been up without interruption for `d` ms before `t`. -/
def UpFor : ℕ → List ButtonEvent → ℕ → Prop := HeldAt true

/-- The time of the last edge to `state`. -/
def lastEdge (state : Bool) (events : List ButtonEvent) : ℕ :=
  run (fun time ev => match ev with
    | .edge e => if e.state = state then e.time else time
    | .poll _ _ => time) 0 events

section
variable {events hist start : List ButtonEvent} {ev : ButtonEvent} {e : Edge} {state : Bool}
  {time : ℕ} {command : Command}

lemma after_concat : after (hist ++ [ev]) = (after hist).step ev := run_concat _

lemma pin_concat : pin (hist ++ [ev]) = level (pin hist) ev := run_concat _

/-- An edge is the last one of its direction. -/
@[simp] lemma lastEdge_edge :
    lastEdge state (hist ++ [.edge e]) = if e.state = state then e.time else lastEdge state hist :=
  run_concat _

/-- A poll is no edge. -/
@[simp] lemma lastEdge_poll : lastEdge state (hist ++ [.poll time command]) = lastEdge state hist :=
  run_concat _

/-- The interrupt keeps the level of the pin and the times of its last edges. -/
lemma btnInfo_after (events : List ButtonEvent) :
    (after events).btnInfo.pressed = isDown events ∧
    (after events).btnInfo.lastButtonPressTime = millis (lastEdge false events) ∧
    (after events).btnInfo.lastButtonReleaseTime = millis (lastEdge true events) := by
  induction events using List.reverseRecOn with
  | nil => exact ⟨rfl, rfl, rfl⟩
  | append_singleton hist ev ih =>
    rw [after_concat, isDown, pin_concat]
    cases ev with
    | edge e => cases h : e.state <;> simp [Button.step, buttonISR, level, h, ih]
    | poll time command => simpa [level, isDown] using ih

/-- No edge is in the future. -/
lemma lastEdge_le_endTime (chron : Chronological 0 events) :
    lastEdge state events ≤ endTime 0 events := by
  induction events using List.reverseRecOn with
  | nil => exact le_rfl
  | append_singleton hist ev ih =>
    obtain ⟨chron, hstart, hstop⟩ := chronological_concat.mp chron
    have hlast := ((ih chron).trans hstart).trans hstop
    rw [endTime_concat]
    cases ev with
    | edge e =>
      rw [lastEdge_edge]
      split_ifs
      · exact le_rfl
      · exact hlast
    | poll time command => rwa [lastEdge_poll]

/-- The pin has been at its level since some time, and the last edge to this level is not older. -/
lemma exists_held (chron : Chronological 0 events) (pre : start <+: events)
    (was : pin start ≠ state) (now : pin events = state) :
    ∃ w, heldSince level (· == state) true events = some w ∧ w ≤ lastEdge state events := by
  induction events using List.reverseRecOn with
  | nil =>
    rw [List.prefix_nil.mp pre] at was
    exact absurd now was
  | append_singleton hist ev ih =>
    have hnow : (pin (hist ++ [ev]) == state) = true := beq_iff_eq.mpr now
    have hpre : start <+: hist := by
      refine (List.prefix_concat_iff.mp pre).resolve_left ?_
      rintro rfl
      exact was now
    rw [pin_concat] at now
    cases ev with
    | edge e =>
      have hstate : e.state = state := now
      obtain ⟨w, held, hw⟩ := exists_heldSince level (· == state) chron (by simp) hnow
      rw [lastEdge_edge, if_pos hstate]
      rw [endTime_concat] at hw
      exact ⟨w, held, hw⟩
    | poll time command =>
      obtain ⟨w, held, hle⟩ := ih (chronological_concat.mp chron).1 hpre now
      rw [lastEdge_poll]
      exact ⟨w, heldSince_concat_of_held level _ hnow held, hle⟩

/-- What a reading of the clock shows of the pin. -/
lemma heldAt_of_elapsed {n : UInt32} (chron : Chronological 0 (events ++ [.poll time command]))
    (pre : start <+: events) (was : pin start ≠ state) (now : pin events = state)
    (elapsed : n ≤ millis time - millis (lastEdge state events)) :
    HeldAt state n.toNat events time := by
  obtain ⟨chron, hstart, -⟩ := chronological_concat.mp chron
  obtain ⟨w, held, hle⟩ := exists_held chron pre was now
  have hlast := le_of_le_elapsed ((lastEdge_le_endTime chron).trans hstart) elapsed
  exact ⟨w, held, (Nat.add_le_add_right hle _).trans hlast⟩

end

/-! ## The way to `unlockedIdle` -/

/-- A poll at time `s` follows `h` in the run. -/
def PolledAt (h : List ButtonEvent) (s : ℕ) (events : List ButtonEvent) : Prop :=
  ∃ command, h ++ [.poll s command] <+: events

/-- The lock has not been in a locked state from `h` on. -/
def NeverLocked (h events : List ButtonEvent) : Prop :=
  ∀ ys, h <+: ys → ys <+: events → (after ys).keyLockState.locked = false

/-- A poll of the gesture: the lock has not been in a locked state since. -/
structure Milestone (h : List ButtonEvent) (s : ℕ) (events : List ButtonEvent) : Prop where
  polled : PolledAt h s events
  neverLocked : NeverLocked h events

/-- A poll of the gesture that found `P` lies behind. -/
def Passed (P : List ButtonEvent → ℕ → Prop) (events : List ButtonEvent) : Prop :=
  ∃ h s, Milestone h s events ∧ P h s

/-- A poll has found the button held down. -/
def Held : List ButtonEvent → Prop := Passed (DownFor 1000)

/-- After this, a poll has seen it released. -/
def Released : List ButtonEvent → Prop := Passed fun h _ => isDown h = false ∧ Held h

/-- After this, a poll has found it left alone. -/
def Ready : List ButtonEvent → Prop := Passed fun h s => UpFor 1000 h s ∧ Released h

/-- What has led to each state. -/
def LedTo (events : List ButtonEvent) : KeyLockState → Prop
  | .unlockingWait4release => Held events
  | .unlockingReleaseDelay => Released events
  | .unlockingWait4ack => Ready events
  | _ => True

section
variable {events hist h : List ButtonEvent} {ev : ButtonEvent} {s time : ℕ} {command : Command}
  {state : KeyLockState} {P : List ButtonEvent → ℕ → Prop}

/-- One more event that leaves it unlocked. -/
lemma NeverLocked.concat (never : NeverLocked h hist)
    (unlocked : (after (hist ++ [ev])).keyLockState.locked = false) :
    NeverLocked h (hist ++ [ev]) := by
  intro ys hpre pre
  rcases List.prefix_concat_iff.mp pre with rfl | pre
  · exact unlocked
  · exact never ys hpre pre

/-- From one moment to the next, and from there on. -/
lemma NeverLocked.trans {h' : List ButtonEvent} (never : NeverLocked h h')
    (never' : NeverLocked h' events) (pre : h' <+: events) : NeverLocked h events := by
  intro ys hpre pre'
  rcases List.prefix_or_prefix_of_prefix pre' pre with le | le
  · exact never ys hpre le
  · exact never' ys le pre'

/-- A milestone stays one as long as the lock is not closed. -/
lemma Milestone.concat (m : Milestone h s hist)
    (unlocked : (after (hist ++ [ev])).keyLockState.locked = false) :
    Milestone h s (hist ++ [ev]) := by
  obtain ⟨command, pre⟩ := m.polled
  exact ⟨⟨command, pre.trans (List.prefix_append _ _)⟩, m.neverLocked.concat unlocked⟩

/-- The poll lies in the past. -/
lemma Milestone.isPrefix (m : Milestone h s events) : h <+: events := by
  obtain ⟨command, pre⟩ := m.polled
  exact (List.prefix_append _ _).trans pre

/-- A poll that leaves a state which is not locked for one which is not. -/
lemma Passed.poll (was : (after hist).keyLockState.locked = false)
    (unlocked : (after (hist ++ [.poll time command])).keyLockState.locked = false)
    (found : P hist time) : Passed P (hist ++ [.poll time command]) := by
  refine ⟨hist, time, ⟨⟨command, List.prefix_rfl⟩, NeverLocked.concat ?_ unlocked⟩, found⟩
  intro ys hpre pre
  rwa [pre.eq_of_length_le hpre.length_le]

/-- What has been passed stays passed. -/
lemma Passed.concat (passed : Passed P hist)
    (unlocked : (after (hist ++ [ev])).keyLockState.locked = false) :
    Passed P (hist ++ [ev]) := by
  obtain ⟨h, s, m, found⟩ := passed
  exact ⟨h, s, m.concat unlocked, found⟩

/-- What has led to a state stays true while the lock stays there. -/
lemma LedTo.concat (led : LedTo hist (after hist).keyLockState)
    (stays : (after (hist ++ [ev])).keyLockState = (after hist).keyLockState) :
    LedTo (hist ++ [ev]) (after (hist ++ [ev])).keyLockState := by
  cases hstate : (after hist).keyLockState with
  | unlockingWait4release | unlockingReleaseDelay | unlockingWait4ack =>
    rw [hstate] at led stays
    rw [stays]
    exact Passed.concat led (by rw [stays]; rfl)
  | _ =>
    rw [stays, hstate]
    trivial

/-- A locked state needs no gesture. -/
lemma ledTo_of_locked (locked : state.locked = true) : LedTo events state := by
  cases state <;> trivial

/-- The pin is at the level that it was held at. -/
lemma HeldAt.pin_eq {level : Bool} {d : ℕ} (held : HeldAt level d events time) :
    pin events = level := by
  obtain ⟨w, held, -⟩ := held
  by_contra hne
  have hnone := heldSince_of_not (Switcher.level) (· == level) (beq_eq_false_iff_ne.mpr hne)
  cases held.symm.trans hnone

/-- What a poll finds leads to the state it goes to. -/
lemma ledTo_poll (chron : Chronological 0 (hist ++ [.poll time command]))
    (led : LedTo hist (after hist).keyLockState) :
    LedTo (hist ++ [.poll time command])
      (after (hist ++ [.poll time command])).keyLockState := by
  have hstate : (after (hist ++ [.poll time command])).keyLockState
      = ((after hist).keyLock (millis time)).keyLockState := by
    rw [after_concat]
    rfl
  obtain ⟨hpressed, hpress, hrelease⟩ := btnInfo_after hist
  obtain h | h | h | ⟨was, h, pressed, elapsed⟩ | ⟨was, h, pressed⟩ |
    ⟨was, h, pressed, elapsed⟩ | ⟨-, h, -⟩ := (after hist).keyLock_cases (millis time)
  · exact led.concat (hstate.trans h)
  · exact ledTo_of_locked (hstate ▸ h)
  · rw [hstate, h]
    trivial
  · -- the hold is complete
    rw [hpressed] at pressed
    rw [hpress] at elapsed
    have hwas : pin [] ≠ false := by decide
    have hnow : pin hist = false := by simpa [isDown] using pressed
    have hdown : DownFor 1000 hist time :=
      heldAt_of_elapsed chron List.nil_prefix hwas hnow elapsed
    rw [hstate, h]
    exact Passed.poll (by rw [was]; rfl) (by rw [hstate, h]; rfl) hdown
  · -- the release is seen
    rw [was] at led
    rw [hpressed] at pressed
    rw [hstate, h]
    exact Passed.poll (by rw [was]; rfl) (by rw [hstate, h]; rfl) ⟨pressed, led⟩
  · -- the delay is complete; the button has been down before, so the recorded release is a real one
    rw [was] at led
    rw [hpressed] at pressed
    rw [hrelease] at elapsed
    obtain ⟨h₂, s₂, m₂, -, h₁, s₁, m₁, down⟩ := id led
    have hpre : h₁ <+: hist := m₁.isPrefix.trans m₂.isPrefix
    have hwas : pin h₁ ≠ true := by rw [down.pin_eq]; decide
    have hnow : pin hist = true := by simpa [isDown] using pressed
    have hup : UpFor 1000 hist time := heldAt_of_elapsed chron hpre hwas hnow elapsed
    rw [hstate, h]
    exact Passed.poll (by rw [was]; rfl) (by rw [hstate, h]; rfl) ⟨hup, led⟩
  · rw [hstate, h]
    trivial

/-- Every state on the way has been led to. -/
theorem ledTo_run (chron : Chronological 0 events) : LedTo events (after events).keyLockState := by
  induction events using List.reverseRecOn with
  | nil => trivial
  | append_singleton hist ev ih =>
    have led := ih (chronological_concat.mp chron).1
    cases ev with
    | edge e => exact led.concat (by rw [after_concat]; rfl)
    | poll time command => exact ledTo_poll chron led

/-! ## The gesture -/

/-- The three earlier polls of the gesture before a poll at `s`. -/
def Gesture (hist : List ButtonEvent) (s : ℕ) : Prop :=
  ∃ h₁ s₁ h₂ s₂ h₃ s₃, PolledAt h₁ s₁ h₂ ∧ PolledAt h₂ s₂ h₃ ∧ PolledAt h₃ s₃ hist ∧
    s₁ ≤ s₂ ∧ s₂ ≤ s₃ ∧ s₃ ≤ s ∧
    DownFor 1000 h₁ s₁ ∧ isDown h₂ = false ∧ UpFor 1000 h₃ s₃ ∧ NeverLocked h₁ hist

/-- The poll was not in the future. -/
lemma PolledAt.le {t : ℕ} (chron : Chronological 0 (hist ++ [.poll t command]))
    (polled : PolledAt h s hist) : s ≤ t := by
  obtain ⟨command, pre⟩ := polled
  obtain ⟨chron, hstart, -⟩ := chronological_concat.mp chron
  exact (chron.stop_le h _ pre).trans hstart

/-- The last press completes the gesture. -/
lemma Ready.gesture (chron : Chronological 0 (hist ++ [.poll time command])) (ready : Ready hist) :
    Gesture hist time := by
  obtain ⟨h₃, s₃, m₃, up, h₂, s₂, m₂, released, h₁, s₁, m₁, down⟩ := ready
  have chron' := (chronological_concat.mp chron).1
  obtain ⟨command₃, pre₃⟩ := m₃.polled
  have chron₃ := chron'.of_prefix pre₃
  obtain ⟨command₂, pre₂⟩ := m₂.polled
  have chron₂ := Chronological.of_prefix (chronological_concat.mp chron₃).1 pre₂
  have never : NeverLocked h₁ hist :=
    (m₁.neverLocked.trans m₂.neverLocked m₂.isPrefix).trans m₃.neverLocked m₃.isPrefix
  exact ⟨h₁, s₁, h₂, s₂, h₃, s₃, m₁.polled, m₂.polled, m₃.polled, m₁.polled.le chron₂,
    m₂.polled.le chron₃, m₃.polled.le chron, down, released, up, never⟩

/-- A poll that enters `unlockedIdle` finds the button pressed, after the gesture. -/
def UnlocksByGesture (hist : List ButtonEvent) : ButtonEvent → Prop
  | .edge _ => True
  | .poll s command => (after hist).keyLockState ≠ .unlockedIdle →
      (after (hist ++ [.poll s command])).keyLockState = .unlockedIdle →
      isDown hist = true ∧ Gesture hist s

/-- The request is toggled only where the poll ends in `unlockedIdle`. -/
def TogglesUnlocked (hist : List ButtonEvent) (ev : ButtonEvent) : Prop :=
  (after hist).toggles ev = true → (after (hist ++ [ev])).keyLockState = .unlockedIdle

/-- The number of polls that toggle the request, in a run from `b`. -/
def toggleCount (b : Button) (events : List ButtonEvent) : ℕ :=
  history Button.step (fun n b ev => n + (b.toggles ev).toNat) 0 b events

/-- A falling edge of the pin. -/
def ButtonEvent.isPress : ButtonEvent → Bool
  | .edge e => !e.state
  | .poll _ _ => false

/-- The number of press edges. -/
def pressCount (events : List ButtonEvent) : ℕ := events.countP ButtonEvent.isPress

/-- Every unlocking has its gesture, by induction on the events. -/
lemma unlocksByGesture (chron : Chronological 0 events) : EveryStep UnlocksByGesture events := by
  intro hist ev pre
  cases ev with
  | edge e => trivial
  | poll s command =>
    intro was enters
    have chron' := chron.of_prefix pre
    have led := ledTo_run (chronological_concat.mp chron').1
    obtain ⟨hpressed, -, -⟩ := btnInfo_after hist
    rw [after_concat, keyLockState_poll] at enters
    obtain h | h | h | ⟨-, h, -⟩ | ⟨-, h, -⟩ | ⟨-, h, -⟩ | ⟨ack, -, pressed⟩ :=
      (after hist).keyLock_cases (millis s)
    case inr.inr.inr.inr.inr.inr =>
      rw [ack] at led
      exact ⟨hpressed ▸ pressed, led.gesture chron'⟩
    case inl => exact absurd (h.symm.trans enters) was
    all_goals
      rw [enters] at h
      cases h

/-- The request is toggled in an unlocked state only. -/
lemma togglesUnlocked : EveryStep TogglesUnlocked events := by
  intro hist ev pre toggles
  cases ev with
  | edge e => cases toggles
  | poll time command =>
    rw [after_concat]
    exact (toggles_poll_iff.mp toggles).2.1

/-- One more event adds the toggle that it makes. -/
lemma toggleCount_concat {b : Button} :
    toggleCount b (hist ++ [ev])
      = toggleCount b hist + ((run Button.step b hist).toggles ev).toNat :=
  history_concat _

lemma pressCount_concat : pressCount (hist ++ [ev]) = pressCount hist + ev.isPress.toNat := by
  cases h : ev.isPress <;> simp [pressCount, h]

/-- Every toggle has used up a press, and a press that no poll has seen yet is one more. -/
lemma toggleCount_le : toggleCount {} events ≤ pressCount events ∧
    ((after events).btnInfo.numPressesSinceStart ≠ (after events).prevBtnPressCount →
      toggleCount {} events + 1 ≤ pressCount events) := by
  induction events using List.reverseRecOn with
  | nil => exact ⟨le_rfl, fun h => absurd rfl h⟩
  | append_singleton hist ev ih =>
    obtain ⟨hle, hlt⟩ := ih
    rw [toggleCount_concat, pressCount_concat, after_concat, ← after]
    cases ev with
    | edge e =>
      cases h : e.state with
      | false =>
        have hpress : (ButtonEvent.edge e).isPress = true := by simp [ButtonEvent.isPress, h]
        rw [hpress]
        exact ⟨hle.trans (Nat.le_add_right _ _), fun _ => Nat.add_le_add_right hle 1⟩
      | true => simpa [toggles, ButtonEvent.isPress, Button.step, buttonISR, h] using ⟨hle, hlt⟩
    | poll time command =>
      rw [btnInfo_poll, prevBtnPressCount_poll]
      refine ⟨?_, fun h => absurd rfl h⟩
      cases htoggles : (after hist).toggles (.poll time command) with
      | false => exact hle
      | true => exact hlt (toggles_poll_iff.mp htoggles).1

/-- Unlocking needs the full gesture, and only presses after it toggle the request, each at most
once. -/
theorem unlock_gesture (events : List ButtonEvent) (chron : Chronological 0 events) :
    EveryStep UnlocksByGesture events ∧ EveryStep TogglesUnlocked events ∧
      toggleCount {} events ≤ pressCount events :=
  ⟨unlocksByGesture chron, togglesUnlocked, toggleCount_le.1⟩

/-- A run that unlocks; the press that acknowledges also toggles. -/
theorem unlock_gesture_acknowledged :
    let events : List ButtonEvent :=
      [.edge ⟨false, 1000⟩, .poll 1500 .noCommand, .poll 2500 .noCommand, .edge ⟨true, 2600⟩,
        .poll 2700 .noCommand, .poll 3700 .noCommand, .edge ⟨false, 4000⟩, .poll 4100 .noCommand]
    (after events).keyLockState = .unlockedIdle ∧ toggleCount {} events = 1 ∧
      EveryStep UnlocksByGesture events ∧ EveryStep TogglesUnlocked events ∧
      toggleCount {} events ≤ pressCount events :=
  ⟨by decide +kernel, by decide +kernel, unlock_gesture _ (by decide +kernel)⟩

end
end AstroPowerBox.Switcher
