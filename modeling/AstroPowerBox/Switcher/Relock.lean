import AstroPowerBox.Foundation.Progress
import AstroPowerBox.Switcher.KeyLock

/-!
# The lock closes by itself

While the button is left alone, the lock goes home from wherever it is, and its LED with it
(`relocks_in_time`): an unlocking that is not finished runs out, and so does the time in which the
button is unlocked. That time is measured from the last press and from the last release, and either of
the two measured durations may just be about to wrap (`exists_common_window`).
-/

namespace AstroPowerBox.Switcher
open Foundation Button

section
variable {d n t time : ℕ} {s : Button} {ev : ButtonEvent} {events : List ButtonEvent}
  {state : KeyLockState} {command : Command} {Q : Button → Prop}

/-- The event is a poll, not an edge. -/
def IsPoll : ButtonEvent → Prop
  | .edge _ => False
  | .poll _ _ => True

instance : DecidablePred IsPoll
  | .edge _ => .isFalse id
  | .poll _ _ => .isTrue trivial

/-- The button is up, and the lock is in a state. -/
structure UpIn (state : KeyLockState) (s : Button) : Prop where
  keyLockState : s.keyLockState = state
  pressed : s.btnInfo.pressed = false
  unlockDuration : s.unlockDuration = 10000

/-- The lock is closed, and its LED is dimmed. -/
structure Home (s : Button) : Prop extends UpIn .lockedIdle s where
  led : s.ledPwmValue = 1

/-- A poll does not change the duration. -/
@[simp] lemma unlockDuration_poll :
    (s.step (.poll time command)).unlockDuration = s.unlockDuration := by
  rw [Button.step, buttonLoop, keyLock_eq]

@[simp] lemma ledPwmValue_poll :
    (s.step (.poll time command)).ledPwmValue = (s.keyLock (millis time)).ledPwmValue := rfl

/-- A poll with the button up goes to the next state. -/
lemma UpIn.poll (h : UpIn state s) {state' : KeyLockState}
    (next : (s.keyLock (millis time)).keyLockState = state') :
    UpIn state' (s.step (.poll time command)) where
  keyLockState := keyLockState_poll.trans next
  pressed := by rw [btnInfo_poll, h.pressed]
  unlockDuration := by rw [unlockDuration_poll, h.unlockDuration]

/-! ## One state after the other -/

/-- A state that every poll leaves. -/
lemma leadsTo_of_poll (pos : 0 < d) (h : ∀ s time command, UpIn state s →
      Q (Button.step s (.poll time command))) :
    LeadsTo Button.step IsPoll d d (UpIn state) Q := by
  refine .of_step pos fun s ev hs hev => ?_
  cases ev with
  | edge e => cases hev
  | poll time command => exact h s time command hs

/-- A state in which a poll stays at most until a timeout after the last release. -/
lemma leadsTo_of_release (pos : 0 < d) (room : 2 * n + 4 * d ≤ 2 ^ 32)
    (h : ∀ s time command, UpIn state s → UpIn state (Button.step s (.poll time command)) ∧
      (millis time - s.btnInfo.lastButtonReleaseTime).toNat < n ∨
        Q (Button.step s (.poll time command))) :
    LeadsTo Button.step IsPoll d (n + 4 * d) (UpIn state) Q := by
  refine .of_timeout (fun s => s.btnInfo.lastButtonReleaseTime) pos room fun s ev hs hev => ?_
  cases ev with
  | edge e => cases hev
  | poll time command =>
    rw [btnInfo_poll]
    rcases h s time command hs with ⟨hup, hlt⟩ | hq
    · exact .inl ⟨hup, rfl, hlt⟩
    · exact .inr hq

/-- A poll dims the LED of a lock that is closed. -/
lemma UpIn.home (h : UpIn .lockedIdle s) : Home (s.step (.poll time command)) := by
  have hnext : (s.keyLock (millis time)).keyLockState = .lockedIdle := by
    simp [keyLock, setLedPwm, h.keyLockState, h.pressed]
  have hled : (s.keyLock (millis time)).ledPwmValue = 1 := by
    simp [keyLock, setLedPwm, h.keyLockState, h.pressed]
  exact ⟨h.poll hnext, ledPwmValue_poll.trans hled⟩

/-- A closed lock dims its LED. -/
lemma lockedIdle_leadsTo (pos : 0 < d) :
    LeadsTo Button.step IsPoll d d (UpIn .lockedIdle) Home :=
  leadsTo_of_poll pos fun _ _ _ hs => hs.home

/-- The button is up. -/
lemma lockedWait4release_leadsTo (pos : 0 < d) :
    LeadsTo Button.step IsPoll d d (UpIn .lockedWait4release) (UpIn .lockedIdle) := by
  refine leadsTo_of_poll pos fun s time command hs => hs.poll ?_
  simp [keyLock, hs.keyLockState, hs.pressed]

/-- The button was not held. -/
lemma unlockingHold_leadsTo (pos : 0 < d) :
    LeadsTo Button.step IsPoll d d (UpIn .unlockingHold) (UpIn .lockedIdle) := by
  refine leadsTo_of_poll pos fun s time command hs => hs.poll ?_
  simp [keyLock, setLedPwm, hs.keyLockState, hs.pressed]

/-- The button is up. -/
lemma unlockingWait4release_leadsTo (pos : 0 < d) :
    LeadsTo Button.step IsPoll d d (UpIn .unlockingWait4release) (UpIn .unlockingReleaseDelay) := by
  refine leadsTo_of_poll pos fun s time command hs => hs.poll ?_
  simp [keyLock, setLedPwm, hs.keyLockState, hs.pressed]

/-- After a second the lock waits for the last press. -/
lemma unlockingReleaseDelay_leadsTo (pos : 0 < d) (room : d ≤ 2 ^ 29) :
    LeadsTo Button.step IsPoll d (1000 + 4 * d) (UpIn .unlockingReleaseDelay)
      (UpIn .unlockingWait4ack) := by
  refine leadsTo_of_release pos (by omega) fun s time command hs => ?_
  by_cases late : 1000 ≤ millis time - s.btnInfo.lastButtonReleaseTime
  · refine .inr (hs.poll ?_)
    simp [keyLock, hs.keyLockState, hs.pressed, late]
  · refine .inl ⟨hs.poll ?_, ?_⟩
    · simp [keyLock, hs.keyLockState, hs.pressed, late]
    · simpa [UInt32.le_iff_toNat_le] using late

/-- Without that press the lock closes after two seconds. -/
lemma unlockingWait4ack_leadsTo (pos : 0 < d) (room : d ≤ 2 ^ 29) :
    LeadsTo Button.step IsPoll d (2000 + 4 * d) (UpIn .unlockingWait4ack) (UpIn .lockedIdle) := by
  refine leadsTo_of_release pos (by omega) fun s time command hs => ?_
  by_cases late : 2000 ≤ millis time - s.btnInfo.lastButtonReleaseTime
  · refine .inr (hs.poll ?_)
    simp [keyLock, setLedPwm, hs.keyLockState, hs.pressed, late]
  · refine .inl ⟨hs.poll ?_, ?_⟩
    · simp [keyLock, setLedPwm, hs.keyLockState, hs.pressed, late]
    · simpa [UInt32.le_iff_toNat_le] using late

/-- The button stays unlocked at most until both its last press and its last release are 10 s past. -/
lemma unlockedIdle_leadsTo (pos : 0 < d) (room : d ≤ 2 ^ 29) :
    LeadsTo Button.step IsPoll d (20000 + 6 * d) (UpIn .unlockedIdle) (UpIn .lockedWait4release) := by
  -- the stamps stay as they are, so the window can be found beforehand
  have hfixed : ∀ v : UInt32 × UInt32, LeadsTo Button.step IsPoll d (20000 + 4 * d + 2 * d)
      (fun s => UpIn .unlockedIdle s ∧
        (s.btnInfo.lastButtonReleaseTime, s.btnInfo.lastButtonPressTime) = v)
      (UpIn .lockedWait4release) := by
    rintro ⟨release, press⟩
    refine .of_window pos ?_ (exists_common_window (n := 10000) (by omega) release press)
    rintro s (e | ⟨time, command⟩) ⟨hs, hstamps⟩ hev
    · cases hev
    · cases hstamps
      by_cases late : s.unlockDuration ≤ millis time - s.btnInfo.lastButtonReleaseTime ∧
          s.unlockDuration ≤ millis time - s.btnInfo.lastButtonPressTime
      · refine .inr (hs.poll ?_)
        simp [keyLock, setLedPwm, hs.keyLockState, late]
      · refine .inl ⟨⟨hs.poll ?_, by rw [btnInfo_poll]⟩, fun hlate => late ?_⟩
        · simp only [keyLock, setLedPwm, hs.keyLockState, ge_iff_le, if_neg late]
        · rw [hs.unlockDuration]
          exact hlate.imp UInt32.le_iff_toNat_le.mpr UInt32.le_iff_toNat_le.mpr
  exact ((LeadsTo.exists hfixed).imp_left fun s hs => ⟨_, hs, rfl⟩).mono (by omega)

/-! ## The way home -/

/-- From every state, along the ways above. -/
lemma leadsTo_home (pos : 0 < d) (room : d ≤ 2 ^ 29) (state : KeyLockState) :
    LeadsTo Button.step IsPoll d (20000 + 10 * d) (UpIn state) Home := by
  have hidle := lockedIdle_leadsTo pos
  have hwait := (lockedWait4release_leadsTo pos).trans hidle
  have hack := (unlockingWait4ack_leadsTo pos room).trans hidle
  have hdelay := (unlockingReleaseDelay_leadsTo pos room).trans hack
  cases state with
  | lockedWait4release => exact hwait.mono (by omega)
  | lockedIdle => exact hidle.mono (by omega)
  | unlockingHold => exact ((unlockingHold_leadsTo pos).trans hidle).mono (by omega)
  | unlockingWait4release => exact ((unlockingWait4release_leadsTo pos).trans hdelay).mono (by omega)
  | unlockingReleaseDelay => exact hdelay.mono (by omega)
  | unlockingWait4ack => exact hack.mono (by omega)
  | unlockedIdle => exact ((unlockedIdle_leadsTo pos room).trans hwait).mono (by omega)

/-- From any state of the lock, its LED and the recorded times, a button that is left up is locked, with
its LED dimmed, when polls less than `d` ms apart, `d` up to `2 ^ 29`, have gone on for 20 s and 10 `d`;
and it stays so. -/
theorem relocks_in_time (s : Button) (events : List ButtonEvent) (d t : ℕ)
    (hup : s.btnInfo.pressed = false) (hduration : s.unlockDuration = 10000) (pos : 0 < d)
    (room : d ≤ 2 ^ 29) (steady : Steady IsPoll d t events)
    (long : t + (20000 + 10 * d) ≤ endTime t events) :
    (run Button.step s events).keyLockState = .lockedIdle ∧
      (run Button.step s events).ledPwmValue = 1 := by
  have hhome : Home (run Button.step s events) := by
    refine (leadsTo_home pos room s.keyLockState).run_of_keeps ?_ ⟨rfl, hup, hduration⟩ steady long
    rintro s (e | ⟨time, command⟩) hev hs
    · cases hev
    · exact hs.toUpIn.home
  exact ⟨hhome.keyLockState, hhome.led⟩

end

/-- A poll every second, for more than half a minute. -/
def quietPolls : List ButtonEvent := (List.range 40).map fun n => .poll (1000 * (n + 1)) .noCommand

/-- The button was unlocked 9 s before the clock wraps, and released as it did. -/
theorem relocks_in_time_wrapped :
    let s : Button := { btnInfo := ⟨4294958296, 0, 5, false⟩, keyLockState := .unlockedIdle }
    (run Button.step s quietPolls).keyLockState = .lockedIdle ∧
      (run Button.step s quietPolls).ledPwmValue = 1 :=
  relocks_in_time _ quietPolls 1001 0 rfl rfl (by decide) (by decide) (by decide +kernel)
    (by decide +kernel)

end AstroPowerBox.Switcher
