import AstroPowerBox.Foundation.Binary
import AstroPowerBox.Switcher.Consumers

/-!
# Relay sequence

When the consumers relay closes, opens and stays open in the runs of `_consumerPowerLoop`.
`Sequenced` says what the pins may be in each state; every transition keeps it
(`Transition.sequenced`). The timer of the machine is related to real time by `enteredAt`, the time
at which the current state was entered: `lastStateChange` is its wrapped reading
(`lastStateChange_eq`), so a timeout seen by the machine is one in real time
(`lt_start_of_timeout`).

A run starts in `e_consumers_off_idle` with the relay open; the other pins may be anything.
-/

namespace AstroPowerBox.Switcher
open Foundation

/-- The pins that fit the state of the machine. -/
def Sequenced (s : ConsumerPower) : Prop :=
  match s.consumersState with
  | .offIdle | .offPrepareActivation =>
    s.pins.getConsumers = true → s.pins.getMount = false
  | .onSubsOff =>
    s.pins.getMount = false ∧ s.pins.getCamera = false ∧ s.pins.heaterPwmValues = (0, 0)
  | .onSubsActivation | .onPreparePowerDown => s.pins.getConsumers = true
  | .onIdle =>
    s.pins.getConsumers = true ∧ s.pins.getCamera = true ∧ s.pins.getMount = true
  | .onWait4pcShutdown => s.pins.getConsumers = true ∧ s.pins.getMount = false

section
variable {R : Rounding} {s s' s0 : ConsumerPower} {c : PowerCall R} {t0 : ℕ}
  {calls : List (PowerCall R)}

@[simp] lemma getConsumers_leastPower {pins} : (leastPower R pins).getConsumers = false := by
  simp [leastPower]

@[simp] lemma getMount_leastPower {pins} : (leastPower R pins).getMount = true := by
  simp [leastPower]

@[simp] lemma getCamera_leastPower {pins} : (leastPower R pins).getCamera = false := by
  simp [leastPower]

@[simp] lemma getConsumers_devicesOff {pins} :
    (devicesOff R pins).getConsumers = pins.getConsumers := by
  simp [devicesOff]

@[simp] lemma getMount_devicesOff {pins} : (devicesOff R pins).getMount = false := by
  simp [devicesOff]

@[simp] lemma getCamera_devicesOff {pins} : (devicesOff R pins).getCamera = false := by
  simp [devicesOff]

@[simp] lemma heaterPwmValues_devicesOff {pins} :
    (devicesOff R pins).heaterPwmValues = (0, 0) := by
  simp [devicesOff]

/-- Every transition keeps the pins in step with the state. -/
theorem Transition.sequenced (tr : Transition c s s') (h : Sequenced s) : Sequenced s' := by
  cases tr with
  -- the relay stays closed on the way to `e_consumers_off_idle`, and the mount is off
  | abandon => exact fun _ => h.1
  | startMount | started | unload | unloaded => simp_all [Sequenced]
  | turnOff => exact h.1
  | resume => exact h.1
  | pcOff => exact fun _ => h.2
  | _ => simp_all [Sequenced]

/-- The invariant holds in every run, by induction on the calls. -/
theorem run_sequenced (hstate : s0.consumersState = .offIdle)
    (hrelay : s0.pins.getConsumers = false) : Sequenced (run consumerPowerLoop s0 calls) := by
  apply run_invariant
  · simp [Sequenced, hstate, hrelay]
  · intro s c h
    exact consumerPowerLoop_transition.sequenced h

/-! ## The timer -/

def enteredUpd (g : ℕ) (s : ConsumerPower) (c : PowerCall R) : ℕ :=
  if (consumerPowerLoop s c).consumersState ≠ s.consumersState then c.stop else g

/-- The real time at which the current state was entered. -/
def enteredAt (t0 : ℕ) (s0 : ConsumerPower) (calls : List (PowerCall R)) : ℕ :=
  history consumerPowerLoop enteredUpd t0 s0 calls

/-- A call that changes the state enters it. -/
lemma enteredAt_concat :
    enteredAt t0 s0 (calls ++ [c]) =
      if (run consumerPowerLoop s0 (calls ++ [c])).consumersState
        ≠ (run consumerPowerLoop s0 calls).consumersState then c.stop
      else enteredAt t0 s0 calls := by
  simp [enteredAt, enteredUpd]

/-- No state was entered in the future. -/
lemma enteredAt_le (chron : Chronological t0 calls) : enteredAt t0 s0 calls ≤ endTime t0 calls := by
  induction calls using List.reverseRecOn with
  | nil => exact le_rfl
  | append_singleton calls c ih =>
    obtain ⟨chron, hstart, hstop⟩ := chronological_concat.mp chron
    rw [enteredAt_concat, endTime_concat]
    split
    case isTrue => exact le_rfl
    case isFalse => exact (ih chron).trans (hstart.trans hstop)

/-- Outside `e_consumers_off_idle`, which uses no timer, `lastStateChange` is the reading of the
clock at `enteredAt`. -/
lemma lastStateChange_eq (t0 : ℕ) (hstate : s0.consumersState = .offIdle)
    (hon : (run consumerPowerLoop s0 calls).consumersState ≠ .offIdle) :
    (run consumerPowerLoop s0 calls).lastStateChange = millis (enteredAt t0 s0 calls) := by
  induction calls using List.reverseRecOn with
  | nil => exact absurd hstate hon
  | append_singleton calls c ih =>
    rw [enteredAt_concat]
    split
    case isTrue changed =>
      rw [run_concat] at changed ⊢
      simp only [consumerPowerLoop] at changed ⊢
      rw [if_pos changed]
    case isFalse same =>
      rw [not_not.mp same] at hon
      rw [← ih hon]
      rw [run_concat] at same ⊢
      simp only [consumerPowerLoop] at same ⊢
      rw [if_neg same]

/-- What the difference says has passed since the entrance, has passed. -/
lemma lt_start_of_timeout (hstate : s0.consumersState = .offIdle)
    (chron : Chronological t0 (calls ++ [c]))
    (hon : (run consumerPowerLoop s0 calls).consumersState ≠ .offIdle) {n : UInt32}
    (h : n < millis c.start - (run consumerPowerLoop s0 calls).lastStateChange) :
    enteredAt t0 s0 calls + n.toNat < c.start := by
  obtain ⟨chron, hstart, -⟩ := chronological_concat.mp chron
  rw [lastStateChange_eq t0 hstate hon] at h
  exact lt_of_lt_elapsed ((enteredAt_le chron).trans hstart) h

/-! ## When the relay switches -/

/-- The machine was waiting for the PC with the request off, and the PC was off or the hour over. -/
def PcWaitOver (s : ConsumerPower) (entered : ℕ) (c : PowerCall R) : Prop :=
  s.consumersState = .onWait4pcShutdown ∧ c.requestedState = false ∧
    (c.pcCurrent < 0.2 ∨ entered + 3600000 < c.start)

/-- The machine was waiting for the supply to come up, for more than 3 s. -/
def LoadAbandoned (s : ConsumerPower) (entered : ℕ) (c : PowerCall R) : Prop :=
  s.consumersState = .onSubsOff ∧ entered + 3000 < c.start

/-- The relay closes only in `e_consumers_on_subs_off`. -/
lemma Transition.of_close (tr : Transition c s s') (h : Sequenced s)
    (hopen : s.pins.getConsumers = false) (hclosed : s'.pins.getConsumers = true) :
    s.consumersState = .onSubsOff := by
  cases tr with
  | load | loaded | abandon => rfl
  | _ => simp_all [Sequenced]

/-- The relay opens only in `e_consumers_off_idle`, with the request off. -/
lemma Transition.of_open (tr : Transition c s s') (hclosed : s.pins.getConsumers = true)
    (hopen : s'.pins.getConsumers = false) :
    s.consumersState = .offIdle ∧ c.requestedState = false := by
  cases tr with
  | remainOff req => exact ⟨rfl, req⟩
  | _ => simp_all

/-- A call that ends in `e_consumers_off_idle` with the relay closed has just come there. -/
lemma Transition.of_idle_closed (tr : Transition c s s') (hidle : s'.consumersState = .offIdle)
    (hclosed : s'.pins.getConsumers = true) :
    s.consumersState ≠ .offIdle ∧
      (s.consumersState = .onWait4pcShutdown ∧ c.requestedState = false ∧
          (c.pcCurrent < 0.2 ∨ 3600000 < millis c.start - s.lastStateChange) ∨
        s.consumersState = .onSubsOff ∧ 3000 < millis c.start - s.lastStateChange) := by
  cases tr with
  | remainOff => simp at hclosed
  | abandon _ time => exact ⟨nofun, .inr ⟨rfl, time⟩⟩
  | pcOff req cause => exact ⟨nofun, .inl ⟨rfl, req, cause⟩⟩
  | _ => cases hidle

/-- Mount and relay are on together only in the three states that drive the mount. -/
lemma Sequenced.of_mount (h : Sequenced s) (hclosed : s.pins.getConsumers = true)
    (hmount : s.pins.getMount = true) :
    s.consumersState = .onSubsActivation ∨ s.consumersState = .onIdle ∨
      s.consumersState = .onPreparePowerDown := by
  cases hs : s.consumersState with
  | onSubsActivation => exact .inl rfl
  | onIdle => exact .inr (.inl rfl)
  | onPreparePowerDown => exact .inr (.inr rfl)
  | _ => simp_all [Sequenced]

/-- What opened the relay: the call before, which came from waiting for the PC or from an abandoned
turn-on. -/
lemma relay_opened (hstate : s0.consumersState = .offIdle)
    (hrelay : s0.pins.getConsumers = false) (chron : Chronological t0 calls)
    (hidle : (run consumerPowerLoop s0 calls).consumersState = .offIdle)
    (hclosed : (run consumerPowerLoop s0 calls).pins.getConsumers = true) :
    ∃ hist p, calls = hist ++ [p] ∧
      (PcWaitOver (run consumerPowerLoop s0 hist) (enteredAt t0 s0 hist) p ∨
        LoadAbandoned (run consumerPowerLoop s0 hist) (enteredAt t0 s0 hist) p) := by
  induction calls using List.reverseRecOn with
  | nil =>
    rw [run_nil, hrelay] at hclosed
    cases hclosed
  | append_singleton hist p _ =>
    rw [run_concat] at hidle hclosed
    obtain ⟨hon, cause⟩ := consumerPowerLoop_transition.of_idle_closed hidle hclosed
    refine ⟨hist, p, rfl, ?_⟩
    -- the timeouts of the machine are those of real time
    rcases cause with ⟨hs, req, hcut⟩ | ⟨hs, htime⟩
    · refine .inl ⟨hs, req, hcut.imp_right fun htime => ?_⟩
      exact lt_start_of_timeout hstate chron hon htime
    · exact .inr ⟨hs, lt_start_of_timeout hstate chron hon htime⟩

/-- The power sequence of every run: the relay closes only with all devices off; it opens only with
the request and the mount off, right after the PC has shut down (or the hour was over) or a turn-on
was abandoned; and mount and relay are on together only where the mount is driven. -/
theorem consumers_sequenced (hstate : s0.consumersState = .offIdle)
    (hrelay : s0.pins.getConsumers = false) (hist : List (PowerCall R)) (c : PowerCall R)
    (chron : Chronological t0 (hist ++ [c])) :
    let pre := run consumerPowerLoop s0 hist
    let post := run consumerPowerLoop s0 (hist ++ [c])
    (pre.pins.getConsumers = false → post.pins.getConsumers = true →
      pre.pins.getMount = false ∧ pre.pins.getCamera = false ∧
        pre.pins.heaterPwmValues = (0, 0)) ∧
    (pre.pins.getConsumers = true → post.pins.getConsumers = false →
      c.requestedState = false ∧ pre.pins.getMount = false ∧ pre.consumersState = .offIdle ∧
        ∃ hist' p, hist = hist' ++ [p] ∧
          (PcWaitOver (run consumerPowerLoop s0 hist') (enteredAt t0 s0 hist') p ∨
            LoadAbandoned (run consumerPowerLoop s0 hist') (enteredAt t0 s0 hist') p)) ∧
    (post.pins.getMount = true → post.pins.getConsumers = true →
      post.consumersState = .onSubsActivation ∨ post.consumersState = .onIdle ∨
        post.consumersState = .onPreparePowerDown) ∧
    (post.consumersState = .onIdle →
      post.pins.getConsumers = true ∧ post.pins.getCamera = true ∧
        post.pins.getMount = true) := by
  intro pre post
  have hpre : Sequenced pre := run_sequenced hstate hrelay
  have hpost : Sequenced post := run_sequenced hstate hrelay
  have tr : Transition c pre post := run_transition
  refine ⟨fun hopen hclosed => ?_, fun hclosed hopen => ?_, fun hmount hclosed => ?_, fun hidle => ?_⟩
  · have hs := tr.of_close hpre hopen hclosed
    simpa [Sequenced, hs] using hpre
  · obtain ⟨hs, req⟩ := tr.of_open hclosed hopen
    have hmount : pre.pins.getMount = false := by
      simp only [Sequenced, hs] at hpre
      exact hpre hclosed
    exact ⟨req, hmount, hs,
      relay_opened hstate hrelay (chronological_concat.mp chron).1 hs hclosed⟩
  · exact hpost.of_mount hclosed hmount
  · simpa [Sequenced, hidle] using hpost

/-! ## The relay where the machine is off -/

/-- The relay is open whenever a call ends in `e_consumers_off_prepare_activation` or stays in
`e_consumers_off_idle`, and when a turn-on goes on to close it. -/
def RelayOpenWhenOff (pre post : ConsumerPower) : Prop :=
  (post.consumersState = .offPrepareActivation → post.pins.getConsumers = false) ∧
  (pre.consumersState = .offIdle → post.consumersState = .offIdle →
    post.pins.getConsumers = false) ∧
  (pre.consumersState = .offPrepareActivation → post.consumersState = .onSubsOff →
    post.pins.getConsumers = false)

/-- The last call moved the machine into `e_consumers_off_idle`. -/
def JustTurnedOff (s0 : ConsumerPower) (hist : List (PowerCall R)) : Prop :=
  ∃ hist' p, hist = hist' ++ [p] ∧
    (run consumerPowerLoop s0 hist').consumersState ≠ .offIdle ∧
    (run consumerPowerLoop s0 hist).consumersState = .offIdle

/-- The machine comes to `e_consumers_off_idle` with the relay closed. -/
lemma Transition.closed_of_enter (tr : Transition c s s') (h : Sequenced s)
    (hon : s.consumersState ≠ .offIdle) (hidle : s'.consumersState = .offIdle) :
    s'.pins.getConsumers = true := by
  cases tr with
  | remainOff => exact absurd rfl hon
  | abandon => rfl
  | pcOff => exact h.1
  | _ => cases hidle

/-- As long as the call after a turn-off has no request, the relay is closed in the two off states
only right after the turn-off. -/
lemma relay_open_of_unrequested (hstate : s0.consumersState = .offIdle)
    (hrelay : s0.pins.getConsumers = false)
    (h : EveryStep (fun hist c => JustTurnedOff s0 hist → c.requestedState = false) calls) :
    ((run consumerPowerLoop s0 calls).consumersState = .offPrepareActivation →
      (run consumerPowerLoop s0 calls).pins.getConsumers = false) ∧
    ((run consumerPowerLoop s0 calls).consumersState = .offIdle →
      (run consumerPowerLoop s0 calls).pins.getConsumers = true → JustTurnedOff s0 calls) := by
  induction calls using List.reverseRecOn with
  | nil => simp [hstate, hrelay]
  | append_singleton hist c ih =>
    obtain ⟨h, hc⟩ := everyStep_concat.mp h
    obtain ⟨ihPrepare, ihIdle⟩ := ih h
    have tr : Transition c (run consumerPowerLoop s0 hist)
        (run consumerPowerLoop s0 (hist ++ [c])) := run_transition
    refine ⟨fun hprep => ?_, fun hidle hclosed => ?_⟩
    · generalize run consumerPowerLoop s0 hist = pre at *
      generalize run consumerPowerLoop s0 (hist ++ [c]) = post at *
      cases tr with
      | turnOn req =>
        -- a closed relay here would mean a turn-off in the call before, and no request
        by_contra hclosed
        rw [hc (ihIdle rfl (by simpa using hclosed))] at req
        cases req
      | settle => simpa using ihPrepare rfl
      | _ => cases hprep
    · exact ⟨hist, c, rfl, (tr.of_idle_closed hidle hclosed).1, hidle⟩

/-- The relay is open where the machine is off exactly in the runs in which the call after a
turn-off has no request. -/
theorem relay_open_iff (hstate : s0.consumersState = .offIdle)
    (hrelay : s0.pins.getConsumers = false) (calls : List (PowerCall R)) :
    EveryStep (fun hist c => RelayOpenWhenOff (run consumerPowerLoop s0 hist)
        (run consumerPowerLoop s0 (hist ++ [c]))) calls ↔
      EveryStep (fun hist c => JustTurnedOff s0 hist → c.requestedState = false) calls := by
  constructor
  · rintro h hist c pre ⟨hist', p, rfl, hon, hidle⟩
    -- with a request, the call would go on with the relay still closed
    by_contra req
    have hclosed : (run consumerPowerLoop s0 (hist' ++ [p])).pins.getConsumers = true := by
      rw [run_concat] at hidle ⊢
      exact consumerPowerLoop_transition.closed_of_enter (run_sequenced hstate hrelay) hon hidle
    have hopen := (h _ c pre).1
    rw [run_concat] at hopen
    simp_all [consumerPowerLoop, consumerPowerSwitch]
  · intro h
    refine h.imp fun hist c h => ?_
    have hpost := (relay_open_of_unrequested hstate hrelay h).1
    have hpre := (relay_open_of_unrequested hstate hrelay (everyStep_concat.mp h).1).1
    have tr : Transition c (run consumerPowerLoop s0 hist)
        (run consumerPowerLoop s0 (hist ++ [c])) := run_transition
    refine ⟨hpost, ?_, ?_⟩
    · generalize run consumerPowerLoop s0 hist = pre at *
      generalize run consumerPowerLoop s0 (hist ++ [c]) = post at *
      intro hidle hidle'
      cases tr with
      | remainOff => simp
      | turnOn => cases hidle'
      | _ => cases hidle
    · generalize run consumerPowerLoop s0 hist = pre at *
      generalize run consumerPowerLoop s0 (hist ++ [c]) = post at *
      intro hprep hsubs
      cases tr with
      | settled => simpa using hpre rfl
      | settle => cases hsubs
      | _ => cases hprep

end

/-! ## A power-down -/

/-- A turn-on, a power-down and the call in which the PC is found off. -/
def powerDownRun : List (PowerCall .binary32) :=
  [.brief true 1000 0 0, .brief true 1300 0 0, .brief true 1500 12 0, .brief true 2600 12 1.5,
    .brief false 2700 12 1.5, .brief false 3000 0 1.5, .brief false 3100 0 0.05]

/-- After the power-down the relay opens in the next call without a request. -/
theorem consumers_sequenced_powerDown :
    ∃ hist p, powerDownRun = hist ++ [p] ∧
      (PcWaitOver (run consumerPowerLoop {} hist) (enteredAt 0 {} hist) p ∨
        LoadAbandoned (run consumerPowerLoop {} hist) (enteredAt 0 {} hist) p) :=
  ((consumers_sequenced rfl rfl powerDownRun (.brief false 3200 0 0) (by decide +kernel)).2.1
    (by decide +kernel) (by decide +kernel)).2.2.2

/-- A request right after the power-down: the turn-on begins with the relay closed. -/
theorem relay_closed_on_request :
    ¬ EveryStep (fun hist c => RelayOpenWhenOff (run consumerPowerLoop {} hist)
        (run consumerPowerLoop {} (hist ++ [c])))
      (powerDownRun ++ [.brief true 3200 0 0.05]) := by
  intro h
  have hopen := (h powerDownRun _ List.prefix_rfl).1
  exact absurd (hopen (by decide +kernel)) (by decide +kernel)

theorem relay_open_iff_powerDown :
    EveryStep (fun hist c => RelayOpenWhenOff (run consumerPowerLoop {} hist)
        (run consumerPowerLoop {} (hist ++ [c]))) powerDownRun ↔
      EveryStep (fun hist c => JustTurnedOff {} hist → c.requestedState = false) powerDownRun :=
  relay_open_iff rfl rfl powerDownRun

end AstroPowerBox.Switcher
