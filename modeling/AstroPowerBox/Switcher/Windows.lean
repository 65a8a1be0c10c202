import AstroPowerBox.Switcher.KeyLock

/-!
# Windows of the gesture

Two states on the way to `unlockedIdle` wait for an edge of the button, and mean to take it only
within 2000 ms of the edge before it. Both the level and the time are looked at by a poll alone, and
the level first. A window that runs out is noticed by a poll made before the edge comes
(`awaited_expired`); without one, the late edge is taken. `windows_iff` says that this is the only way
for a run to pass a window too late.
-/

namespace AstroPowerBox.Switcher
open Foundation Button

/-- The level of the pin that a state waits for. -/
def KeyLockState.awaited : KeyLockState → Option Bool
  | .unlockingWait4release => some true
  | .unlockingWait4ack => some false
  | _ => none

/-- A poll that passes a window finds the awaited edge less than 2000 ms after the edge that opened
it. -/
def PassesInTime (hist : List ButtonEvent) : ButtonEvent → Prop
  | .edge _ => True
  | .poll time command =>
    ((after hist).keyLockState = .unlockingWait4release →
      (after (hist ++ [.poll time command])).keyLockState = .unlockingReleaseDelay →
      lastEdge true hist < lastEdge false hist + 2000) ∧
    ((after hist).keyLockState = .unlockingWait4ack →
      (after (hist ++ [.poll time command])).keyLockState = .unlockedIdle →
      lastEdge false hist < lastEdge true hist + 2000)

/-- The lock still waits for this edge, although its window has run out. -/
def TooLate (hist : List ButtonEvent) (e : Edge) : Prop :=
  (after hist).keyLockState.awaited = some e.state ∧ lastEdge (!e.state) hist + 2000 ≤ e.time

/-- No edge that comes too late is the one that the next poll finds. -/
def NoneTooLate (events : List ButtonEvent) : Prop :=
  ∀ hist e time command, hist ++ [.edge e] ++ [.poll time command] <+: events → ¬ TooLate hist e

section
variable {hist : List ButtonEvent} {e : Edge} {state : Bool} {time : ℕ} {command : Command}

/-- A poll leaves the lock waiting only for the other level than the one it has found. -/
lemma awaited_keyLock {s : Button} {t : UInt32}
    (h : (s.keyLock t).keyLockState.awaited = some state) : s.btnInfo.pressed = state := by
  cases hstate : s.keyLockState <;> cases hpressed : s.btnInfo.pressed <;>
    simp only [keyLock, setLedPwm, hstate, hpressed] at h <;> split_ifs at h <;>
    simp_all [KeyLockState.awaited]

/-- An edge is awaited only if the pin is at the other level. -/
lemma awaited_poll (h : (after (hist ++ [.poll time command])).keyLockState.awaited = some state) :
    pin hist = !state := by
  obtain ⟨hpressed, -, -⟩ := btnInfo_after hist
  rw [after_concat, keyLockState_poll] at h
  have hdown := hpressed.symm.trans (awaited_keyLock h)
  rw [← hdown, isDown, Bool.not_not]

/-- An edge does not change what is awaited. -/
lemma awaited_edge :
    (after (hist ++ [.edge e])).keyLockState.awaited = (after hist).keyLockState.awaited := by
  rw [after_concat]
  rfl

/-- The lock waits for the level that the pin has only where an edge has just brought it there. -/
lemma exists_edge (waits : (after hist).keyLockState.awaited = some state)
    (reached : pin hist = state) :
    ∃ h e, hist = h ++ [.edge e] ∧ e.state = state ∧
      (after h).keyLockState.awaited = some state := by
  cases hist using List.reverseRecOn with
  | nil => cases waits
  | append_singleton h ev =>
    rw [pin_concat] at reached
    cases ev with
    | edge e => exact ⟨h, e, rfl, reached, awaited_edge ▸ waits⟩
    | poll time command =>
      have hpin : pin h = state := reached
      rw [awaited_poll waits] at hpin
      cases state <;> cases hpin

/-- A window is passed by the poll that finds the awaited level. -/
lemma passesInTime_poll : PassesInTime hist (.poll time command) ↔
    ∀ state, (after hist).keyLockState.awaited = some state → pin hist = state →
      lastEdge state hist < lastEdge (!state) hist + 2000 := by
  obtain ⟨hpressed, -, -⟩ := btnInfo_after hist
  rw [isDown] at hpressed
  rw [PassesInTime, after_concat, keyLockState_poll]
  cases hstate : (after hist).keyLockState with
  | unlockingWait4release | unlockingWait4ack =>
    cases hpin : pin hist <;> simp only [keyLock, setLedPwm, hstate, hpressed, hpin] <;>
      split_ifs <;> simp_all [KeyLockState.awaited]
  | _ => simp [KeyLockState.awaited]

/-- A poll passes a window too late when the edge right before it comes too late. -/
lemma passesInTime_poll_iff : PassesInTime hist (.poll time command) ↔
    ∀ h e, hist = h ++ [.edge e] → ¬ TooLate h e := by
  rw [passesInTime_poll]
  constructor
  · rintro inTime h e rfl ⟨waits, late⟩
    have hpin : pin (h ++ [.edge e]) = e.state := pin_concat
    have hlt := inTime e.state (awaited_edge.trans waits) hpin
    rw [lastEdge_edge, if_pos rfl, lastEdge_edge, if_neg (Bool.self_ne_not _)] at hlt
    exact absurd late hlt.not_ge
  · intro noneLate state waits reached
    obtain ⟨h, e, rfl, rfl, waits⟩ := exists_edge waits reached
    rw [lastEdge_edge, if_pos rfl, lastEdge_edge, if_neg (Bool.self_ne_not _)]
    exact not_le.mp fun late => noneLate h e rfl ⟨waits, late⟩

/-- A poll made between the end of a window and the edge closes the window. -/
theorem awaited_expired (waits : (after hist).keyLockState.awaited = some state)
    (unchanged : pin hist = !state) (expired : lastEdge (!state) hist + 2000 ≤ time)
    (recent : time < lastEdge (!state) hist + 2 ^ 32) :
    (after (hist ++ [.poll time command])).keyLockState.awaited = none := by
  obtain ⟨hpressed, hpress, hrelease⟩ := btnInfo_after hist
  have helapsed : 2000 ≤ millis time - millis (lastEdge (!state) hist) := by
    rw [UInt32.le_iff_toNat_le, elapsed_eq (by omega) (by omega)]
    exact Nat.le_sub_of_add_le' expired
  rw [isDown, unchanged, Bool.not_not] at hpressed
  rw [after_concat, keyLockState_poll]
  cases hstate : (after hist).keyLockState with
  | unlockingWait4release =>
    rw [hstate] at waits
    cases waits
    rw [Bool.not_true, ← hpress] at helapsed
    simp [keyLock, setLedPwm, hstate, hpressed, if_pos helapsed, KeyLockState.awaited]
  | unlockingWait4ack =>
    rw [hstate] at waits
    cases waits
    rw [Bool.not_false, ← hrelease] at helapsed
    simp [keyLock, setLedPwm, hstate, hpressed, if_pos helapsed, KeyLockState.awaited]
  | _ =>
    rw [hstate] at waits
    cases waits

end

/-- The windows are honoured exactly in the runs in which no poll finds an edge that has come too
late. -/
theorem windows_iff (events : List ButtonEvent) :
    EveryStep PassesInTime events ↔ NoneTooLate events := by
  constructor
  · intro inTime hist e time command pre
    exact passesInTime_poll_iff.mp (inTime _ _ pre) hist e rfl
  · intro noneLate hist ev pre
    cases ev with
    | edge e => trivial
    | poll time command =>
      rw [passesInTime_poll_iff]
      rintro h e rfl
      exact noneLate h e time command pre

/-- A press that is held for seconds while nothing polls. -/
def lateRelease : List ButtonEvent :=
  [.edge ⟨false, 1000⟩, .poll 1500 .noCommand, .poll 2100 .noCommand, .edge ⟨true, 5000⟩,
    .poll 5100 .noCommand]

/-- A release four seconds after the press is taken. -/
theorem windows_lateRelease :
    ¬ ∀ events, Chronological 0 events → EveryStep PassesInTime events := by
  intro h
  have hlate : TooLate [.edge ⟨false, 1000⟩, .poll 1500 .noCommand, .poll 2100 .noCommand]
      ⟨true, 5000⟩ := ⟨by decide +kernel, by decide +kernel⟩
  have hevery := h lateRelease (by decide +kernel)
  exact passesInTime_poll_iff.mp (hevery _ _ List.prefix_rfl) _ _ rfl hlate

end AstroPowerBox.Switcher
