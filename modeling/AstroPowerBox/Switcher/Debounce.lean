import AstroPowerBox.Switcher.KeyLock

/-!
# Debounce

A burst is one press of the user: it starts with a press edge after more than 250 ms of release, and
the edges up to the next such one are the bounce of its contacts. `_buttonLoop` takes note of every
press edge at the first poll after it, whether it toggles there or not: a press whose poll finds a
release in the last 250 ms is lost, and one that bounces is taken twice if the poll after the bounce
comes late. `debounce_iff` settles which bursts toggle the request once.
-/

namespace AstroPowerBox.Switcher
open Foundation Button

/-! ## Bursts -/

/-- A press edge after more than 250 ms of release. -/
def StartsBurst (hist : List ButtonEvent) : ButtonEvent → Prop
  | .edge e => e.state = false ∧ UpFor 251 hist e.time
  | .poll _ _ => False

instance {hist : List ButtonEvent} : ∀ {ev : ButtonEvent}, Decidable (StartsBurst hist ev)
  | .edge e => inferInstanceAs (Decidable (e.state = false ∧ HeldAt true 251 hist e.time))
  | .poll _ _ => inferInstanceAs (Decidable False)

def ButtonEvent.isPoll : ButtonEvent → Bool
  | .edge _ => false
  | .poll _ _ => true

/-- A poll after which no command is applied, or an edge. -/
def ButtonEvent.isQuiet : ButtonEvent → Bool
  | .edge _ => true
  | .poll _ command => command = .noCommand

/-- `burst`, after `hist` and before `rest`: it goes from a press edge that starts a burst to the next
one. -/
structure IsBurst (hist burst rest : List ButtonEvent) : Prop where
  nonempty : burst ≠ []
  starts : EveryStep (fun h ev => StartsBurst (hist ++ h) ev ↔ h = []) burst
  ends : ∀ ev ∈ rest.head?, StartsBurst (hist ++ burst) ev

/-- A poll while the button is down, and one between this burst and the one before and after it. -/
structure WellPolled (hist burst rest : List ButtonEvent) : Prop where
  polled_before : hist.getLast?.any ButtonEvent.isPoll = true
  polled_down : ∃ h s, PolledAt h s burst ∧ isDown (hist ++ h) = true
  polled_after : rest ≠ [] → burst.getLast?.any ButtonEvent.isPoll = true

/-- Neither the key lock nor a command interferes. -/
structure Undisturbed (hist burst : List ButtonEvent) : Prop where
  unlocked : (after hist).keyLockState = .unlockedIdle
  stays_unlocked :
    EveryStep (fun h ev => (after (hist ++ h ++ [ev])).keyLockState = .unlockedIdle) burst
  noCommand : ∀ ev ∈ burst, ev.isQuiet = true

/-- `P` holds of every burst of the run that is polled and left alone as it should. -/
def EveryBurst (P : List ButtonEvent → List ButtonEvent → Prop) (events : List ButtonEvent) : Prop :=
  ∀ hist burst rest, events = hist ++ burst ++ rest → IsBurst hist burst rest →
    WellPolled hist burst rest → Undisturbed hist burst → P hist burst

/-- The burst toggles the request exactly once. -/
def TogglesOnce (hist burst : List ButtonEvent) : Prop := toggleCount (after hist) burst = 1

instance {hist burst : List ButtonEvent} : Decidable (TogglesOnce hist burst) :=
  inferInstanceAs (Decidable (_ = _))

/-! ## Polls that take a press -/

/-- The number of press edges since the last poll. -/
def unseenPresses (events : List ButtonEvent) : ℕ :=
  run (fun n ev => match ev with
    | .edge e => if e.state then n else n + 1
    | .poll _ _ => 0) 0 events

/-- A poll that follows a press edge and comes more than 250 ms after the last release edge. -/
def takesPress (hist : List ButtonEvent) : ButtonEvent → Bool
  | .edge _ => false
  | .poll time _ =>
    unseenPresses hist % 2 ^ 32 != 0 && decide (250 < (time - lastEdge true hist) % 2 ^ 32)

/-- The number of polls in the burst that take a press. -/
def takenCount (hist burst : List ButtonEvent) : ℕ :=
  history (fun h ev => h ++ [ev]) (fun n h ev => n + (takesPress h ev).toNat) 0 hist burst

section
variable {events hist burst : List ButtonEvent} {ev : ButtonEvent} {e : Edge} {time : ℕ}
  {command : Command}

/-- A press adds one. -/
@[simp] lemma unseenPresses_edge :
    unseenPresses (hist ++ [.edge e])
      = if e.state then unseenPresses hist else unseenPresses hist + 1 :=
  run_concat _

@[simp] lemma unseenPresses_poll : unseenPresses (hist ++ [.poll time command]) = 0 := run_concat _

/-- The counter is ahead of its value at the last poll by the presses since. -/
lemma numPresses_after : (after events).btnInfo.numPressesSinceStart
    = (after events).prevBtnPressCount + UInt32.ofNat (unseenPresses events) := by
  induction events using List.reverseRecOn with
  | nil => rfl
  | append_singleton hist ev ih =>
    rw [after_concat]
    cases ev with
    | edge e =>
      rw [unseenPresses_edge]
      cases h : e.state <;> simp [Button.step, buttonISR, h, ih, UInt32.add_assoc]
    | poll time command => simp

/-- The counts differ unless the presses are a multiple of the wrap. -/
lemma newPresses_iff :
    (after events).btnInfo.numPressesSinceStart ≠ (after events).prevBtnPressCount ↔
      unseenPresses events % 2 ^ 32 ≠ 0 := by
  rw [numPresses_after, ne_eq, UInt32.add_eq_left, ← UInt32.toNat_inj, UInt32.toNat_ofNat']
  rfl

/-- A poll of an open lock toggles exactly when it takes a press. -/
lemma toggles_eq_takesPress (chron : Chronological 0 (hist ++ [ev]))
    (unlocked : (after (hist ++ [ev])).keyLockState = .unlockedIdle) :
    (after hist).toggles ev = takesPress hist ev := by
  cases ev with
  | edge e => rfl
  | poll time command =>
    obtain ⟨chron, hstart, -⟩ := chronological_concat.mp chron
    have hle : lastEdge true hist ≤ time := (lastEdge_le_endTime chron).trans hstart
    have hreleased : 250 < millis time - (after hist).btnInfo.lastButtonReleaseTime ↔
        250 < (time - lastEdge true hist) % 2 ^ 32 := by
      rw [(btnInfo_after hist).2.2, UInt32.lt_iff_toNat_lt, elapsed_mod hle]
      rfl
    rw [after_concat] at unlocked
    rw [Bool.eq_iff_iff, toggles_poll_iff, newPresses_iff, hreleased]
    simp [takesPress, unlocked]

/-- In a burst that leaves the lock open every press that is taken toggles. -/
lemma toggleCount_eq_takenCount (chron : Chronological 0 (hist ++ burst))
    (unlocked : EveryStep (fun h ev => (after (hist ++ h ++ [ev])).keyLockState = .unlockedIdle)
      burst) :
    toggleCount (after hist) burst = takenCount hist burst := by
  induction burst using List.reverseRecOn with
  | nil => rfl
  | append_singleton burst ev ih =>
    obtain ⟨hunlocked, hev⟩ := everyStep_concat.mp unlocked
    rw [← List.append_assoc] at chron
    have hrun : run Button.step (after hist) burst = after (hist ++ burst) := (run_append _).symm
    rw [toggleCount_concat, hrun, toggles_eq_takesPress chron hev,
      ih (chronological_concat.mp chron).1 hunlocked, takenCount, takenCount, history_concat,
      run_record]

/-- A burst toggles the request exactly once if and only if exactly one of its polls that follow a
press edge comes more than 250 ms after the last release edge. -/
theorem debounce_iff (events : List ButtonEvent) (chron : Chronological 0 events) :
    EveryBurst (fun hist burst => TogglesOnce hist burst ↔ takenCount hist burst = 1) events := by
  rintro hist burst rest rfl - - undisturbed
  have chron := chron.of_prefix (List.prefix_append _ rest)
  rw [TogglesOnce, toggleCount_eq_takenCount chron undisturbed.stays_unlocked]

/-! ## A burst that toggles once and one that does not -/

/-- The gesture, with the release of the last press. -/
def unlocking : List ButtonEvent :=
  [.edge ⟨false, 1000⟩, .poll 1010 .noCommand, .poll 2010 .noCommand, .edge ⟨true, 2500⟩,
    .poll 2510 .noCommand, .poll 3510 .noCommand, .edge ⟨false, 4000⟩, .poll 4010 .noCommand,
    .edge ⟨true, 4100⟩, .poll 4110 .noCommand]

/-- A bounce after a press, and its release. -/
def bounce : List ButtonEvent :=
  [.edge ⟨true, 5003⟩, .edge ⟨false, 5005⟩, .poll 5010 .noCommand, .poll 5100 .noCommand,
    .edge ⟨true, 5200⟩, .poll 5300 .noCommand]

/-- A press that is polled before it bounces. -/
def polledBurst : List ButtonEvent := .edge ⟨false, 5000⟩ :: .poll 5001 .noCommand :: bounce

/-- A press that bounces before it is polled. -/
def bouncedBurst : List ButtonEvent := .edge ⟨false, 5000⟩ :: bounce

/-- The next press. -/
def nextPress : List ButtonEvent := [.edge ⟨false, 6000⟩]

/-- The burst that is polled first toggles once. -/
theorem debounce_iff_polled : TogglesOnce unlocking polledBurst ∧
    (TogglesOnce unlocking polledBurst ↔ takenCount unlocking polledBurst = 1) := by
  refine ⟨by decide +kernel, debounce_iff (unlocking ++ polledBurst ++ nextPress)
    (by decide +kernel) unlocking polledBurst nextPress rfl ⟨?_, ?_, ?_⟩ ⟨?_, ?_, ?_⟩ ⟨?_, ?_, ?_⟩⟩
  · decide
  · decide +kernel
  · decide +kernel
  · rfl
  · exact ⟨[.edge ⟨false, 5000⟩], 5001, ⟨.noCommand, by decide⟩, by decide⟩
  · exact fun _ => rfl
  · decide +kernel
  · decide +kernel
  · decide

/-- The burst that bounces first does not toggle. -/
theorem debounce_bounced :
    ¬∀ events : List ButtonEvent, Chronological 0 events → EveryBurst TogglesOnce events := by
  intro h
  have honce : ¬TogglesOnce unlocking bouncedBurst := by decide +kernel
  refine honce (h (unlocking ++ bouncedBurst ++ nextPress) (by decide +kernel) unlocking bouncedBurst
    nextPress rfl ⟨?_, ?_, ?_⟩ ⟨?_, ?_, ?_⟩ ⟨?_, ?_, ?_⟩)
  · decide
  · decide +kernel
  · decide +kernel
  · rfl
  · exact ⟨[.edge ⟨false, 5000⟩, .edge ⟨true, 5003⟩, .edge ⟨false, 5005⟩], 5010,
      ⟨.noCommand, by decide⟩, by decide⟩
  · exact fun _ => rfl
  · decide +kernel
  · decide +kernel
  · decide

end
end AstroPowerBox.Switcher
