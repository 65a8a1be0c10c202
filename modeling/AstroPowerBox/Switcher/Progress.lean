import AstroPowerBox.Foundation.Progress
import AstroPowerBox.Switcher.Sequence

/-!
# Turning on and off in time

The power machine never waits for ever. With the request on and the supply up, all consumers are on
after little more than a second (`turns_on_in_time`); with the request off, everything is off at the
latest an hour later, whatever the PC does (`turns_off_in_time`). The second holds from every state of
the machine, the pins and the timer, so a relay that something else has switched does not matter
either.
-/

namespace AstroPowerBox.Switcher
open Foundation

section
variable {R : Rounding} {A : PowerCall R → Prop} {d t : ℕ} {s s' : ConsumerPower} {c : PowerCall R}
  {calls : List (PowerCall R)}

/-- The machine is in a state. -/
def InState (state : ConsumersState) (s : ConsumerPower) : Prop := s.consumersState = state

/-- Everything is in the least power consuming state. -/
structure AtRest (s : ConsumerPower) : Prop where
  consumersState : s.consumersState = .offIdle
  consumers : s.pins.getConsumers = false
  mount : s.pins.getMount = true
  camera : s.pins.getCamera = false
  heaters : s.pins.heaterPwmValues = (0, 0)

/-- The machine has turned everything on. -/
structure TurnedOn (s : ConsumerPower) : Prop where
  consumersState : s.consumersState = .onIdle
  consumers : s.pins.getConsumers = true
  mount : s.pins.getMount = true
  camera : s.pins.getCamera = true

/-! ## One state after the other -/

/-- The source counts from a timeout `limit` on that is not reached. -/
lemma toNat_lt_of_not_lt {limit elapsed : UInt32} (h : ¬ limit < elapsed) :
    elapsed.toNat < limit.toNat + 1 := by
  rw [UInt32.lt_iff_toNat_lt] at h
  omega

/-- A delay that is not over has less than its length behind it. -/
lemma toNat_lt_of_not_le {limit elapsed : UInt32} (h : ¬ limit ≤ elapsed) :
    elapsed.toNat < limit.toNat := by
  rw [UInt32.le_iff_toNat_le] at h
  omega

/-- A state in which a call stays at most until its timeout. -/
lemma leadsTo_of_transition {state : ConsumersState} {n : ℕ} {Q : ConsumerPower → Prop} (pos : 0 < d)
    (room : 2 * n + 4 * d ≤ 2 ^ 32)
    (h : ∀ last pins c s', A c → Transition c ⟨state, last, pins⟩ s' →
      s'.consumersState = state ∧ s'.lastStateChange = last ∧ (millis c.start - last).toNat < n ∨
        Q s') :
    LeadsTo consumerPowerLoop A d (n + 4 * d) (InState state) Q := by
  refine .of_timeout ConsumerPower.lastStateChange pos room ?_
  rintro ⟨state, last, pins⟩ c rfl hc
  exact h last pins c _ hc consumerPowerLoop_transition

/-- A state that every call leaves. -/
lemma leadsTo_of_leaves {state : ConsumersState} {Q : ConsumerPower → Prop} (pos : 0 < d)
    (h : ∀ last pins c s', A c → Transition c ⟨state, last, pins⟩ s' → Q s') :
    LeadsTo consumerPowerLoop A d d (InState state) Q := by
  refine .of_step pos ?_
  rintro ⟨state, last, pins⟩ c rfl hc
  exact h last pins c _ hc consumerPowerLoop_transition

/-- The devices are off after 200 ms. -/
lemma prepare_leadsTo (pos : 0 < d) (room : d ≤ 2 ^ 29) :
    LeadsTo consumerPowerLoop A d (201 + 4 * d) (InState .offPrepareActivation)
      (InState .onSubsOff) := by
  refine leadsTo_of_transition pos (by omega) fun last pins c s' _ tr => ?_
  cases tr with
  | settle early => exact .inl ⟨rfl, rfl, toNat_lt_of_not_lt early⟩
  | settled => exact .inr rfl

/-- Everything is on after a second. -/
lemma activation_leadsTo (pos : 0 < d) (room : d ≤ 2 ^ 29) :
    LeadsTo consumerPowerLoop A d (1000 + 4 * d) (InState .onSubsActivation) (InState .onIdle) := by
  refine leadsTo_of_transition pos (by omega) fun last pins c s' _ tr => ?_
  cases tr with
  | startCamera early =>
    have hlt := toNat_lt_of_not_le early
    exact .inl ⟨rfl, rfl, hlt.trans (by decide)⟩
  | startMount _ early => exact .inl ⟨rfl, rfl, toNat_lt_of_not_le early⟩
  | started => exact .inr rfl

/-- The PC is waited for after 200 ms. -/
lemma unload_leadsTo (pos : 0 < d) (room : d ≤ 2 ^ 29) :
    LeadsTo consumerPowerLoop A d (201 + 4 * d) (InState .onPreparePowerDown)
      (InState .onWait4pcShutdown) := by
  refine leadsTo_of_transition pos (by omega) fun last pins c s' _ tr => ?_
  cases tr with
  | unload early => exact .inl ⟨rfl, rfl, toNat_lt_of_not_lt early⟩
  | unloaded => exact .inr rfl

/-! ## Turning on -/

/-- The call finds a request and the supply of the mount. -/
def Requested (c : PowerCall R) : Prop :=
  c.requestedState = true ∧ batMinTurnOnVoltage ≤ c.mountVoltage

instance : DecidablePred (Requested (R := R)) := fun _ => inferInstanceAs (Decidable (_ ∧ _))

/-- The relay is closed after 100 ms. -/
lemma load_leadsTo (pos : 0 < d) (room : d ≤ 2 ^ 29) :
    LeadsTo (consumerPowerLoop (R := R)) Requested d (101 + 4 * d) (InState .onSubsOff)
      (InState .onSubsActivation) := by
  refine leadsTo_of_transition pos (by omega) fun last pins c s' hc tr => ?_
  have early : ∀ {last}, ¬ (100 < millis c.start - last ∧ batMinTurnOnVoltage ≤ c.mountVoltage) →
      ¬ 100 < millis c.start - last := fun h late => h ⟨late, hc.2⟩
  cases tr with
  | load h => exact .inl ⟨rfl, rfl, toNat_lt_of_not_lt (early h)⟩
  | loaded => exact .inr rfl
  | abandon h late => exact absurd (UInt32.lt_trans (by decide) late) (early h)

/-- A request starts the machine. -/
lemma request_leadsTo (pos : 0 < d) :
    LeadsTo (consumerPowerLoop (R := R)) Requested d d (InState .offIdle)
      (InState .offPrepareActivation) := by
  refine leadsTo_of_leaves pos fun last pins c s' hc tr => ?_
  cases tr with
  | remainOff req => cases hc.1.symm.trans req
  | turnOn => rfl

/-- A request while the PC is waited for turns the machine back. -/
lemma resume_leadsTo (pos : 0 < d) :
    LeadsTo (consumerPowerLoop (R := R)) Requested d d (InState .onWait4pcShutdown)
      (InState .onSubsActivation) := by
  refine leadsTo_of_leaves pos fun last pins c s' hc tr => ?_
  cases tr with
  | resume => rfl
  | pcOff req => cases hc.1.symm.trans req
  | wait4pc req => cases hc.1.symm.trans req

/-- From every state the machine comes to `e_consumers_on_idle`. -/
lemma leadsTo_onIdle (pos : 0 < d) (room : d ≤ 2 ^ 29) (state : ConsumersState) :
    LeadsTo (consumerPowerLoop (R := R)) Requested d (1302 + 13 * d) (InState state)
      (InState .onIdle) := by
  have hactivation := activation_leadsTo (A := Requested (R := R)) pos room
  have hload := (load_leadsTo (R := R) pos room).trans hactivation
  have hprepare := (prepare_leadsTo pos room).trans hload
  have hresume := (resume_leadsTo (R := R) pos).trans hactivation
  cases state with
  | offIdle => exact ((request_leadsTo pos).trans hprepare).mono (by omega)
  | offPrepareActivation => exact hprepare.mono (by omega)
  | onSubsOff => exact hload.mono (by omega)
  | onSubsActivation => exact hactivation.mono (by omega)
  | onIdle => exact (LeadsTo.of_imp fun _ hs => hs).mono (by omega)
  | onPreparePowerDown => exact ((unload_leadsTo pos room).trans hresume).mono (by omega)
  | onWait4pcShutdown => exact hresume.mono (by omega)

/-- In the last state everything is on. -/
lemma Sequenced.turnedOn (h : Sequenced s) (hs : s.consumersState = .onIdle) : TurnedOn s := by
  simp only [Sequenced, hs] at h
  exact ⟨hs, h.1, h.2.2, h.2.1⟩

/-- With the request on, the machine stays where everything is on. -/
lemma onIdle_of_requested (hs : InState .onIdle s) (hc : Requested c) :
    InState .onIdle (consumerPowerLoop s c) := by
  obtain ⟨state, last, pins⟩ := s
  cases hs
  have tr := consumerPowerLoop_transition (s := ⟨.onIdle, last, pins⟩) (c := c)
  generalize consumerPowerLoop ⟨.onIdle, last, pins⟩ c = s' at *
  cases tr with
  | remainOn => rfl
  | turnOff req => cases hc.1.symm.trans req

/-- After any history, a request that is held turns everything on, and keeps it on, as soon as calls that
are less than `d` ms apart have gone on for 1302 ms and 13 `d`, for every `d` up to `2 ^ 29`. -/
theorem turns_on_in_time (hist calls : List (PowerCall R)) (d t : ℕ) (pos : 0 < d) (room : d ≤ 2 ^ 29)
    (steady : Steady Requested d t calls) (long : t + (1302 + 13 * d) ≤ endTime t calls) :
    TurnedOn (run consumerPowerLoop {} (hist ++ calls)) := by
  have hseq : Sequenced (run consumerPowerLoop {} hist) := run_sequenced rfl rfl
  have hkeeps : ∀ s c, Requested (R := R) c → Sequenced s → Sequenced (consumerPowerLoop s c) :=
    fun s c _ h => consumerPowerLoop_transition.sequenced h
  have hleads := (leadsTo_onIdle (R := R) pos room
    (run consumerPowerLoop {} hist).consumersState).and_keeps hkeeps
  rw [run_append]
  obtain ⟨hidle, hseq⟩ := hleads.run_of_keeps
    (fun s c hc h => ⟨onIdle_of_requested h.1 hc, hkeeps s c hc h.2⟩) ⟨rfl, hseq⟩ steady long
  exact hseq.turnedOn hidle

/-- A request that is held for four seconds, with a call every 90 ms. -/
def heldRequest : List (PowerCall .binary32) :=
  (List.range 40).map fun n => .brief true (5000 + 90 * n) 12 0

/-- The request comes back while the machine is waiting for the PC. -/
theorem turns_on_in_time_again : TurnedOn (run consumerPowerLoop {} (powerDownRun ++ heldRequest)) :=
  turns_on_in_time powerDownRun heldRequest 100 5000 (by decide) (by decide) (by decide +kernel)
    (by decide +kernel)

/-! ## Turning off -/

/-- The call finds no request. -/
def Unrequested (c : PowerCall R) : Prop := c.requestedState = false

instance : DecidablePred (Unrequested (R := R)) := fun _ => inferInstanceAs (Decidable (_ = _))

/-- Without a request the idle state is left as it is. -/
lemma atRest_of_unrequested (hs : InState .offIdle s) (hc : Unrequested c) :
    AtRest (consumerPowerLoop s c) := by
  obtain ⟨state, last, pins⟩ := s
  cases hs
  have tr := consumerPowerLoop_transition (s := ⟨.offIdle, last, pins⟩) (c := c)
  generalize consumerPowerLoop ⟨.offIdle, last, pins⟩ c = s' at *
  cases tr with
  | remainOff => exact ⟨rfl, by simp, by simp, by simp, by simp [leastPower]⟩
  | turnOn req => cases hc.symm.trans req

/-- And it comes to rest. -/
lemma rest_leadsTo (pos : 0 < d) :
    LeadsTo (consumerPowerLoop (R := R)) Unrequested d d (InState .offIdle) AtRest :=
  .of_step pos fun _ _ hs hc => atRest_of_unrequested hs hc

/-- The PC is waited for an hour at most. -/
lemma wait_leadsTo (pos : 0 < d) (room : d ≤ 2 ^ 29) :
    LeadsTo (consumerPowerLoop (R := R)) Unrequested d (3600001 + 4 * d) (InState .onWait4pcShutdown)
      (InState .offIdle) := by
  refine leadsTo_of_transition pos (by omega) fun last pins c s' hc tr => ?_
  cases tr with
  | resume req => cases hc.symm.trans req
  | pcOff => exact .inr rfl
  | wait4pc _ h => exact .inl ⟨rfl, rfl, toNat_lt_of_not_lt fun late => h (.inr late)⟩

/-- Without a request the machine leaves the last state. -/
lemma turnOff_leadsTo (pos : 0 < d) :
    LeadsTo (consumerPowerLoop (R := R)) Unrequested d d (InState .onIdle)
      (InState .onPreparePowerDown) := by
  refine leadsTo_of_leaves pos fun last pins c s' hc tr => ?_
  cases tr with
  | remainOn req => cases hc.symm.trans req
  | turnOff => rfl

/-- Whether the supply comes up or not. -/
lemma supply_leadsTo (pos : 0 < d) (room : d ≤ 2 ^ 29) :
    LeadsTo (consumerPowerLoop (R := R)) Unrequested d (3001 + 4 * d) (InState .onSubsOff)
      fun s => InState .onSubsActivation s ∨ InState .offIdle s := by
  refine leadsTo_of_transition pos (by omega) fun last pins c s' _ tr => ?_
  cases tr with
  | load _ early => exact .inl ⟨rfl, rfl, toNat_lt_of_not_lt early⟩
  | loaded => exact .inr (.inl rfl)
  | abandon => exact .inr (.inr rfl)

/-- From every state the machine comes to rest. -/
lemma leadsTo_atRest (pos : 0 < d) (room : d ≤ 2 ^ 29) (state : ConsumersState) :
    LeadsTo (consumerPowerLoop (R := R)) Unrequested d (3604404 + 22 * d) (InState state) AtRest := by
  have hrest := rest_leadsTo (R := R) pos
  have hwait := (wait_leadsTo (R := R) pos room).trans hrest
  have hunload := (unload_leadsTo pos room).trans hwait
  have hon := (turnOff_leadsTo (R := R) pos).trans hunload
  have hactivation := (activation_leadsTo pos room).trans hon
  have hload := (supply_leadsTo (R := R) pos room).trans (hactivation.or (hrest.mono (by omega)))
  cases state with
  | offIdle => exact hrest.mono (by omega)
  | offPrepareActivation => exact ((prepare_leadsTo pos room).trans hload).mono (by omega)
  | onSubsOff => exact hload.mono (by omega)
  | onSubsActivation => exact hactivation.mono (by omega)
  | onIdle => exact hon.mono (by omega)
  | onPreparePowerDown => exact hunload.mono (by omega)
  | onWait4pcShutdown => exact hwait.mono (by omega)

/-- From any state of the machine, the pins and the timer, everything comes to rest, and stays there, if
there is no request for an hour, 4404 ms and 22 `d`, with calls less than `d` ms apart, for every `d` up
to `2 ^ 29`. -/
theorem turns_off_in_time (s : ConsumerPower) (calls : List (PowerCall R)) (d t : ℕ) (pos : 0 < d)
    (room : d ≤ 2 ^ 29) (steady : Steady Unrequested d t calls)
    (long : t + (3604404 + 22 * d) ≤ endTime t calls) : AtRest (run consumerPowerLoop s calls) := by
  have hkeeps : ∀ s c, Unrequested (R := R) c → AtRest s → AtRest (consumerPowerLoop s c) :=
    fun s c hc hs => atRest_of_unrequested hs.consumersState hc
  exact (leadsTo_atRest pos room s.consumersState).run_of_keeps hkeeps rfl steady long

end

/-- The PC never shuts down; there is a call every ten minutes. -/
def ignoredRequest : List (PowerCall .binary32) :=
  (List.range 30).map fun n => .brief false (599000 * (n + 1)) 12 1.5

/-- From waiting for the PC, with a timer that is ahead of the clock. -/
theorem turns_off_in_time_ignored :
    AtRest (run consumerPowerLoop ⟨.onWait4pcShutdown, 4294967295, {}⟩ ignoredRequest) :=
  turns_off_in_time _ ignoredRequest 600000 0 (by decide) (by decide) (by decide +kernel)
    (by decide +kernel)

end AstroPowerBox.Switcher
