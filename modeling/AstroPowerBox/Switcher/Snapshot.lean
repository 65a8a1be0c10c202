import AstroPowerBox.Switcher.KeyLock

/-!
# Sample and snapshot

A poll samples the clock, and then takes its snapshot of what the interrupt has recorded. An edge that
is handled between the two comes after the sample, and the difference of the readings underflows unless
both fall into the same millisecond (`elapsed_iff`). What a poll does depends on the times of the edges
through the differences in `compares` only (`buttonLoop_congr`).
-/

namespace AstroPowerBox.Switcher
open Foundation

namespace Button

/-- The time since the last edge to `state` as `_buttonLoop` computes it. -/
def elapsed (s : Button) (sysTime : UInt32) (state : Bool) : UInt32 :=
  sysTime - if state then s.btnInfo.lastButtonReleaseTime else s.btnInfo.lastButtonPressTime

/-- The edges to whose times the `switch` of `_buttonLoop` compares its sample: a release is the edge
to `true`. -/
def keyLockCompares (s : Button) (sysTime : UInt32) : List Bool :=
  match s.keyLockState with
  | .lockedWait4release => []
  | .lockedIdle => []
  | .unlockingHold => if s.btnInfo.pressed then [false] else []
  | .unlockingWait4release => if s.btnInfo.pressed then [false] else []
  | .unlockingReleaseDelay => if s.btnInfo.pressed then [] else [true]
  | .unlockingWait4ack => if s.btnInfo.pressed then [] else [true]
  | .unlockedIdle => if s.elapsed sysTime true ≥ s.unlockDuration then [true, false] else [true]

/-- The same for all of `_buttonLoop`. -/
def compares (s : Button) (sysTime : UInt32) : List Bool :=
  s.keyLockCompares sysTime ++
    if s.btnInfo.numPressesSinceStart ≠ s.prevBtnPressCount ∧
      (s.keyLock sysTime).keyLockState = .unlockedIdle then [true] else []

/-- The button with another record of the interrupt. -/
def withInfo (s : Button) (btnInfo : ButtonInfo) : Button := { s with btnInfo }

variable {s : Button} {info : ButtonInfo} {t : UInt32}

/-- The lock does not notice a newer snapshot as long as the compared times are the same. -/
lemma keyLock_congr (hpressed : info.pressed = s.btnInfo.pressed)
    (same : ∀ state ∈ s.keyLockCompares t, (s.withInfo info).elapsed t state = s.elapsed t state) :
    (s.withInfo info).keyLock t = (s.keyLock t).withInfo info := by
  obtain ⟨⟨press, release, count, pressed⟩, state, led, unlock, prev, request⟩ := s
  obtain ⟨press', release', count', pressed'⟩ := info
  cases hpressed
  have hpress : false ∈ _ → t - press' = t - press := same false
  have hrelease : true ∈ _ → t - release' = t - release := same true
  cases state with
  | lockedWait4release => cases pressed <;> rfl
  | lockedIdle => cases pressed <;> rfl
  | unlockingHold =>
    cases pressed with
    | false => rfl
    | true =>
      simp only [keyLock, withInfo, setLedPwm, hpress (by simp [keyLockCompares])]
      split_ifs <;> rfl
  | unlockingWait4release =>
    cases pressed with
    | false => rfl
    | true =>
      simp only [keyLock, withInfo, setLedPwm, hpress (by simp [keyLockCompares])]
      split_ifs <;> rfl
  | unlockingReleaseDelay =>
    cases pressed with
    | false =>
      simp only [keyLock, withInfo, hrelease (by simp [keyLockCompares])]
      split_ifs <;> rfl
    | true => rfl
  | unlockingWait4ack =>
    cases pressed with
    | false =>
      simp only [keyLock, withInfo, setLedPwm, hrelease (by simp [keyLockCompares])]
      split_ifs <;> rfl
    | true => rfl
  | unlockedIdle =>
    have hrelease' := hrelease (by
      rw [keyLockCompares]
      dsimp only
      split_ifs <;> simp)
    by_cases hlate : t - release ≥ unlock
    · -- only now the last press is looked at
      have hpress' := hpress (by simp [keyLockCompares, elapsed, if_pos hlate])
      cases pressed <;> cases request <;>
        simp only [keyLock, withInfo, setLedPwm, hrelease', hpress'] <;> split_ifs <;> rfl
    · cases pressed <;> cases request <;> simp [keyLock, withInfo, setLedPwm, hrelease', hlate]

/-- What is not compared does not matter. -/
theorem buttonLoop_congr (hpressed : info.pressed = s.btnInfo.pressed)
    (hcount : info.numPressesSinceStart = s.btnInfo.numPressesSinceStart)
    (same : ∀ state ∈ s.compares t, (s.withInfo info).elapsed t state = s.elapsed t state) :
    (s.withInfo info).buttonLoop t = (s.buttonLoop t).withInfo info := by
  have hkeyLock := keyLock_congr hpressed fun state h => same state (List.mem_append_left _ h)
  have hinfo : (s.keyLock t).btnInfo = s.btnInfo := by rw [keyLock_eq]
  have hprev : (s.keyLock t).prevBtnPressCount = s.prevBtnPressCount := by rw [keyLock_eq]
  have htoggle : (s.btnInfo.numPressesSinceStart ≠ s.prevBtnPressCount ∧
      (s.keyLock t).keyLockState = .unlockedIdle ∧ t - info.lastButtonReleaseTime > 250) ↔
      (s.btnInfo.numPressesSinceStart ≠ s.prevBtnPressCount ∧
        (s.keyLock t).keyLockState = .unlockedIdle ∧ t - s.btnInfo.lastButtonReleaseTime > 250) := by
    refine and_congr_right fun hnew => and_congr_right fun hopen => ?_
    have hsame : t - info.lastButtonReleaseTime = t - s.btnInfo.lastButtonReleaseTime :=
      same true (List.mem_append_right _ (by simp [hnew, hopen]))
    rw [hsame]
  rw [buttonLoop, buttonLoop, hkeyLock]
  simp only [withInfo, hinfo, hprev, hcount, htoggle]

end Button

open Button

/-- A call of `_buttonLoop` with the interrupts up to its snapshot, the command that `loop` applies after
it, and the time at which it ends. -/
structure TimedPoll where
  poll : Poll
  command : Command := .noCommand
  stop : ℕ
  le_stop : poll.time ≤ stop

namespace TimedPoll

/-- The edges that have been handled when the snapshot is taken. -/
def interrupts (p : TimedPoll) : List ButtonEvent :=
  (p.poll.edges ++ p.poll.lateEdges).map .edge

def events (p : TimedPoll) : List ButtonEvent := p.interrupts ++ [.poll p.poll.time p.command]

/-- The poll that a call of `loop` begins with, before its power machine starts. -/
def ofLoopCall {R : Rounding} (call : LoopCall R) (h : call.poll.time ≤ call.start) : TimedPoll :=
  ⟨call.poll, call.command, call.start, h⟩

/-- The events are those of the system. -/
theorem events_ofLoopCall {R : Rounding} {call : LoopCall R} {h : call.poll.time ≤ call.start} :
    (ofLoopCall call h).events = call.buttonEvents := rfl

/-- The times of a poll, in the order in which they come. -/
def times (p : TimedPoll) : List ℕ :=
  p.poll.edges.map Edge.time ++ p.poll.time :: p.poll.lateEdges.map Edge.time ++ [p.stop]

end TimedPoll

/-- No time comes before one of its predecessors. -/
def InOrder (polls : List TimedPoll) : Prop := (polls.flatMap TimedPoll.times).Pairwise (· ≤ ·)

instance {polls : List TimedPoll} : Decidable (InOrder polls) :=
  inferInstanceAs (Decidable (List.Pairwise _ _))

/-- The events up to the snapshot of a poll. -/
def untilSnapshot (hist : List TimedPoll) (p : TimedPoll) : List ButtonEvent :=
  hist.flatMap TimedPoll.events ++ p.interrupts

/-- No time that the poll computes is longer than the real one from the edge to the end of the poll. -/
def ElapsedInTime (hist : List TimedPoll) (p : TimedPoll) : Prop :=
  let s := after (untilSnapshot hist p)
  ∀ state ∈ s.compares (millis p.poll.time),
    lastEdge state (untilSnapshot hist p) + (s.elapsed (millis p.poll.time) state).toNat ≤ p.stop

/-- The edge comes after the sample, and the clock does not come back to the sample after it before the
poll has ended. -/
def Overtakes (p : TimedPoll) (time : ℕ) : Prop :=
  p.poll.time < time ∧ ∀ u, time ≤ u → u ≤ p.stop → millis u ≠ millis p.poll.time

/-- No edge to whose time the poll compares its sample comes after the sample. -/
def NoneOvertakes (hist : List TimedPoll) (p : TimedPoll) : Prop :=
  let s := after (untilSnapshot hist p)
  ∀ state ∈ s.compares (millis p.poll.time), ¬ Overtakes p (lastEdge state (untilSnapshot hist p))

section
variable {p : TimedPoll} {hist : List TimedPoll} {state : Bool} {time : ℕ}

/-- What is compared, by the time of the last edge. -/
lemma elapsed_after {events : List ButtonEvent} {t : UInt32} :
    (after events).elapsed t state = t - millis (lastEdge state events) := by
  obtain ⟨-, hpress, hrelease⟩ := btnInfo_after events
  cases state with
  | true => rw [elapsed, if_pos rfl, hrelease]
  | false => rw [elapsed, if_neg Bool.false_ne_true, hpress]

/-- Where a poll lasts less than a round of the counter, it is overtaken by the edges after its sample. -/
theorem overtakes_iff (short : p.stop < p.poll.time + 2 ^ 32) :
    Overtakes p time ↔ p.poll.time < time := by
  refine and_iff_left_of_imp fun late u hu hstop heq => ?_
  have hmod := congrArg UInt32.toNat heq
  rw [millis_toNat, millis_toNat] at hmod
  omega

/-- An edge that overtakes the sample meets at once every time-out that is not close to a round of the
counter. -/
theorem timeout_of_overtakes {n : UInt32} (late : p.poll.time < time) (le : time ≤ p.stop)
    (short : p.stop + n.toNat < p.poll.time + 2 ^ 32) :
    n ≤ millis p.poll.time - millis time := by
  rw [UInt32.le_iff_toNat_le, elapsed_of_lt late (by omega)]
  omega

/-- A comparison is right if no edge has overtaken the sample. -/
lemma elapsedInTime_iff : ElapsedInTime hist p ↔ NoneOvertakes hist p := by
  refine forall₂_congr fun state _ => ?_
  rw [elapsed_after, add_elapsed_le_iff, Overtakes]
  constructor
  · rintro ⟨u, hu, hstop, heq⟩ ⟨-, never⟩
    exact never u hu hstop heq
  · intro h
    by_cases hle : lastEdge state (untilSnapshot hist p) ≤ p.poll.time
    · exact ⟨p.poll.time, hle, p.le_stop, rfl⟩
    · push Not at h
      exact h (not_le.mp hle)

end

/-- Elapsed times are never too long exactly in the runs in which no edge to whose time a poll compares
its sample has been handled after the sample. -/
theorem elapsed_iff (polls : List TimedPoll) :
    EveryStep ElapsedInTime polls ↔ EveryStep NoneOvertakes polls :=
  forall₃_congr fun _ _ _ => elapsedInTime_iff

/-- The button is pressed, -/
def firstPress : TimedPoll := ⟨⟨[⟨false, 1000⟩], 1001, []⟩, .noCommand, 1001, by decide⟩

/-- and released and pressed again, between sample and snapshot. -/
def pressedAgain : TimedPoll :=
  ⟨⟨[⟨true, 1400⟩], 1500, [⟨false, 1501⟩]⟩, .noCommand, 1502, by decide⟩

/-- The hold is complete at once. -/
theorem elapsed_pressedAgain : ¬ ∀ polls, InOrder polls → EveryStep ElapsedInTime polls := by
  intro h
  have hlast := h [firstPress, pressedAgain] (by decide) [firstPress] pressedAgain List.prefix_rfl
    false (by decide +kernel)
  revert hlast
  decide +kernel

end AstroPowerBox.Switcher
