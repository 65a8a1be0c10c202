import AstroPowerBox.Switcher.Sequence

/-!
# Inrush delays

The turn-on delays of `_consumerPowerLoop` are measured from the state change, while a state writes
its pins in the first call made in it. This module settles when the delays still hold: the pins are
followed through `heldSince`, the calls through `visits`, which records for the current and the
previous visit to a state when its first call was made and which pins it found.

`SettleInv`, `LoadInv` and `CameraInv` relate the two; each is kept by every call, and together they
give `inrush_iff`: the delays hold exactly in the runs whose calls are far enough apart.
-/

namespace AstroPowerBox.Switcher
open Foundation

/-- The first call of a visit to a state. -/
structure Visit where
  start : ℕ
  found : Pins
deriving DecidableEq

section
variable {R : Rounding}

/-- The visit a call in state `s` belongs to. -/
def currentVisit (cur : Option Visit) (s : ConsumerPower) (c : PowerCall R) : Visit :=
  cur.getD ⟨c.start, s.pins⟩

def visitsUpd (g : Option Visit × Option Visit) (s : ConsumerPower) (c : PowerCall R) :
    Option Visit × Option Visit :=
  if (consumerPowerLoop s c).consumersState ≠ s.consumersState then
    (none, some (currentVisit g.1 s c))
  else (some (currentVisit g.1 s c), g.2)

/-- The current visit, once a call has been made in it, and the previous one. -/
def visits (s0 : ConsumerPower) (calls : List (PowerCall R)) : Option Visit × Option Visit :=
  history consumerPowerLoop visitsUpd (none, none) s0 calls

/-- Mount and camera are commanded off. -/
def devicesAreOff (s : ConsumerPower) : Bool := !s.pins.getMount && !s.pins.getCamera

/-- The consumers relay is closed. -/
def relayClosed (s : ConsumerPower) : Bool := s.pins.getConsumers

/-- The camera is switched on. -/
def cameraOn (s : ConsumerPower) : Bool := s.pins.getCamera

/-- The inrush delays at the call `c` after `hist`: devices off for 200 ms before the relay closes,
relay closed for 100 ms before the camera is switched on, camera on for 500 ms before the mount is
switched on. -/
def InrushDelays (s0 : ConsumerPower) (hist : List (PowerCall R)) (c : PowerCall R) : Prop :=
  let pre := run consumerPowerLoop s0 hist
  let post := run consumerPowerLoop s0 (hist ++ [c])
  (pre.pins.getConsumers = false → post.pins.getConsumers = true →
    HeldFor consumerPowerLoop devicesAreOff 200 s0 hist c.start) ∧
  (pre.pins.getCamera = false → post.pins.getCamera = true →
    HeldFor consumerPowerLoop relayClosed 100 s0 hist c.start) ∧
  (pre.pins.getMount = false → post.pins.getMount = true → post.pins.getConsumers = true →
    HeldFor consumerPowerLoop cameraOn 500 s0 hist c.start)

/-- The call `c` comes late enough after the first calls of the current and the previous visit: 200
ms after the first one in `e_consumers_off_prepare_activation` if it finds the relay open in
`e_consumers_on_subs_off`; 100 ms after the first one in `e_consumers_on_subs_off`, if that found the
relay open, and `c` finds the camera off in `e_consumers_on_subs_activation`; and 500 ms after the
first one in `e_consumers_on_subs_activation`, if that found the camera off, and `c` finds the mount
off and the 500 ms over. -/
def CallsApart (s0 : ConsumerPower) (hist : List (PowerCall R)) (c : PowerCall R) : Prop :=
  let pre := run consumerPowerLoop s0 hist
  let visits := visits s0 hist
  (pre.consumersState = .onSubsOff → pre.pins.getConsumers = false →
    ∀ v ∈ visits.2, v.start + 200 ≤ c.start) ∧
  (pre.consumersState = .onSubsActivation → pre.pins.getCamera = false →
    ∀ v ∈ visits.2, v.found.getConsumers = false → v.start + 100 ≤ c.start) ∧
  (pre.consumersState = .onSubsActivation → pre.pins.getMount = false →
    500 ≤ millis c.start - pre.lastStateChange →
    (currentVisit visits.1 pre c).found.getCamera = false →
      (currentVisit visits.1 pre c).start + 500 ≤ c.start)

variable {s s' s0 : ConsumerPower} {c : PowerCall R} {t0 : ℕ} {calls : List (PowerCall R)}

/-- A call belongs to the visit of the state that it finds. -/
lemma visits_concat :
    visits s0 (calls ++ [c]) =
      if (run consumerPowerLoop s0 (calls ++ [c])).consumersState
        ≠ (run consumerPowerLoop s0 calls).consumersState then
        (none, some (currentVisit (visits s0 calls).1 (run consumerPowerLoop s0 calls) c))
      else
        (some (currentVisit (visits s0 calls).1 (run consumerPowerLoop s0 calls) c),
          (visits s0 calls).2) := by
  simp [visits, visitsUpd]

/-! ## Devices off before the relay closes -/

/-- With the relay open, the devices have been off since the first call in
`e_consumers_off_prepare_activation`. -/
def SettleInv (s : ConsumerPower) (visits : Option Visit × Option Visit) (held : Option ℕ) : Prop :=
  s.pins.getConsumers = false →
    match s.consumersState with
    | .offIdle => s.pins.getMount = true
    | .offPrepareActivation => held = visits.1.map Visit.start
    | .onSubsOff => ∃ v, visits.2 = some v ∧ held = some v.start
    | _ => True

/-- The devices are off since the visit before, by induction on the calls. -/
lemma settleInv_run (hstate : s0.consumersState = .offIdle)
    (hrelay : s0.pins.getConsumers = false) (hmount : s0.pins.getMount = true) :
    SettleInv (run consumerPowerLoop s0 calls) (visits s0 calls)
      (heldSince consumerPowerLoop devicesAreOff s0 calls) := by
  induction calls using List.reverseRecOn with
  | nil => simp [SettleInv, hstate, hmount]
  | append_singleton calls c ih =>
    have hseq : Sequenced (run consumerPowerLoop s0 calls) := run_sequenced hstate hrelay
    have tr : Transition c (run consumerPowerLoop s0 calls)
        (run consumerPowerLoop s0 (calls ++ [c])) := run_transition
    rw [visits_concat, heldSince_concat]
    generalize run consumerPowerLoop s0 calls = s at *
    generalize run consumerPowerLoop s0 (calls ++ [c]) = s' at *
    generalize visits s0 calls = vs at *
    generalize heldSince consumerPowerLoop devicesAreOff s0 calls = held at *
    cases tr with
    | settle | settled =>
      -- the call switches the devices off, the first one of the visit or not
      intro hopen
      have hheld : held = vs.1.map Visit.start := ih (by simpa using hopen)
      cases hv : vs.1 <;> simp_all [devicesAreOff, currentVisit]
    | _ => simp_all [SettleInv, Sequenced, devicesAreOff]

/-! ## A pin through a visit -/

/-- The pin has been on since the first call of the visit, or, if that call found it on, since `d` ms
before `entered`. -/
def SinceVisit (get : Pins → Bool) (d : ℕ) (v : Visit) (held : Option ℕ) (entered : ℕ) : Prop :=
  (get v.found = false → held = some v.start) ∧
    (get v.found = true → ∃ w, held = some w ∧ w + d ≤ entered)

/-- The pin in a visit whose calls switch it on. -/
def InVisit (get : Pins → Bool) (d : ℕ) (cur : Option Visit) (s : ConsumerPower)
    (held : Option ℕ) (entered : ℕ) : Prop :=
  (cur = none → get s.pins = true → ∃ w, held = some w ∧ w + d ≤ entered) ∧
    ∀ v, cur = some v → get s.pins = true ∧ SinceVisit get d v held entered

section
variable {get : Pins → Bool} {d e : ℕ} {v : Visit} {cur held}

/-- A later entrance does no harm. -/
lemma SinceVisit.mono {e' : ℕ} (h : SinceVisit get d v held e) (le : e ≤ e') :
    SinceVisit get d v held e' := by
  refine ⟨h.1, fun hfound => ?_⟩
  obtain ⟨w, hw, hwe⟩ := h.2 hfound
  exact ⟨w, hw, hwe.trans le⟩

/-- Nor does a time that is not needed. -/
lemma SinceVisit.orElse {t : ℕ} (h : SinceVisit get d v held e) :
    SinceVisit get d v (held <|> some t) e := by
  refine ⟨fun hfound => by rw [h.1 hfound]; rfl, fun hfound => ?_⟩
  obtain ⟨w, hw, hwe⟩ := h.2 hfound
  exact ⟨w, by rw [hw]; rfl, hwe⟩

/-- The pin after a call that switches it on. -/
lemma InVisit.sinceVisit (h : InVisit get d cur s held e) (hoff : get s.pins = false → held = none) :
    SinceVisit get d (currentVisit cur s c) (held <|> some c.start) e := by
  cases cur with
  | none =>
    refine ⟨fun hfound => ?_, fun hfound => ?_⟩
    · rw [hoff hfound]
      rfl
    · obtain ⟨w, hw, hwe⟩ := h.1 rfl hfound
      exact ⟨w, by rw [hw]; rfl, hwe⟩
  | some v => exact (h.2 v rfl).2.orElse

/-- How long the pin has been on is decided by the first call of the visit, unless that call found
it on. -/
lemma SinceVisit.heldFor_iff {n t : ℕ} (h : SinceVisit get d v held e) (le : e + n ≤ t + d) :
    (∃ w ∈ held, w + n ≤ t) ↔ (get v.found = false → v.start + n ≤ t) := by
  cases hfound : get v.found with
  | false => simp [h.1 hfound]
  | true =>
    obtain ⟨w, rfl, hw⟩ := h.2 hfound
    have hlate : w + n ≤ t := by omega
    simp [hlate]

/-- Whether the pin has been on for long enough, by the visit. -/
lemma InVisit.heldFor_iff {n : ℕ} (h : InVisit get d cur s held e)
    (hoff : get s.pins = false → held = none) (hn : 0 < n) (le : e + n ≤ c.start + d) :
    (∃ w ∈ held, w + n ≤ c.start) ↔
      (get (currentVisit cur s c).found = false → (currentVisit cur s c).start + n ≤ c.start) := by
  cases cur with
  | none =>
    cases hfound : get s.pins with
    | false =>
      -- the call is the first one of the visit: no time has passed since
      simp [hoff hfound, currentVisit, hfound, hn.ne']
    | true =>
      obtain ⟨w, rfl, hw⟩ := h.1 rfl hfound
      have hlate : w + n ≤ c.start := by omega
      simp [currentVisit, hfound, hlate]
  | some v => exact (h.2 v rfl).2.heldFor_iff le

end

/-! ## Relay closed before the camera is switched on -/

/-- With the camera off, the relay has been closed since the visit to `e_consumers_on_subs_off`. -/
def LoadInv (s : ConsumerPower) (visits : Option Visit × Option Visit) (held : Option ℕ)
    (entered : ℕ) : Prop :=
  match s.consumersState with
  | .offIdle => True
  | .offPrepareActivation =>
    s.pins.getConsumers = true → ∃ w, held = some w ∧ w ≤ entered
  | .onSubsOff => InVisit Pins.getConsumers 200 visits.1 s held entered
  | .onSubsActivation =>
    s.pins.getCamera = false →
      ∃ v, visits.2 = some v ∧ SinceVisit Pins.getConsumers 200 v held entered
  | .onIdle | .onPreparePowerDown | .onWait4pcShutdown => s.pins.getCamera = true

/-- The relay in the visit in which the devices are switched on, by induction on the calls. -/
lemma loadInv_run (hstate : s0.consumersState = .offIdle) (chron : Chronological t0 calls) :
    LoadInv (run consumerPowerLoop s0 calls) (visits s0 calls)
      (heldSince consumerPowerLoop relayClosed s0 calls) (enteredAt t0 s0 calls) := by
  induction calls using List.reverseRecOn with
  | nil => simp [LoadInv, hstate]
  | append_singleton calls c ih =>
    obtain ⟨chron', hstart, hstop⟩ := chronological_concat.mp chron
    have ih := ih chron'
    have hentered : enteredAt t0 s0 calls ≤ c.stop :=
      (enteredAt_le chron').trans (hstart.trans hstop)
    have htimeout := fun hon n => lt_start_of_timeout (n := n) hstate chron hon
    have hopen : (run consumerPowerLoop s0 calls).pins.getConsumers = false →
        heldSince consumerPowerLoop relayClosed s0 calls = none :=
      heldSince_of_not consumerPowerLoop relayClosed
    have hclosed := exists_heldSince consumerPowerLoop relayClosed (s := s0) chron (by simp)
    have tr : Transition c (run consumerPowerLoop s0 calls)
        (run consumerPowerLoop s0 (calls ++ [c])) := run_transition
    rw [visits_concat, heldSince_concat, enteredAt_concat]
    rw [heldSince_concat, endTime_concat] at hclosed
    generalize run consumerPowerLoop s0 calls = s at *
    generalize run consumerPowerLoop s0 (calls ++ [c]) = s' at *
    generalize visits s0 calls = vs at *
    generalize heldSince consumerPowerLoop relayClosed s0 calls = held at *
    generalize enteredAt t0 s0 calls = e at *
    cases tr with
    | remainOff | abandon | pcOff => trivial
    | turnOn => exact hclosed
    | settle =>
      intro hrelay
      obtain ⟨w, rfl, hwe⟩ := ih (by simpa using hrelay)
      exact ⟨w, by simp [relayClosed, hrelay], hwe⟩
    | settled time =>
      -- a relay that is closed here was so when the state was entered, more than 200 ms ago
      refine ⟨fun _ hrelay => ?_, nofun⟩
      obtain ⟨w, rfl, hwe⟩ := ih (by simpa using hrelay)
      have hlt : e + 200 < c.start := htimeout (by simp) 200 time
      have hstop : c.start ≤ c.stop := hstop
      refine ⟨w, by simp [relayClosed, hrelay], ?_⟩
      simp only [ne_eq, reduceCtorEq, not_false_eq_true, if_true]
      omega
    | load =>
      -- the call closes the relay, or finds it closed
      refine ⟨nofun, fun v hv => ⟨rfl, ?_⟩⟩
      cases hv
      exact InVisit.sinceVisit ih hopen
    | loaded => exact fun _ => ⟨_, rfl, (InVisit.sinceVisit ih hopen).mono hentered⟩
    | startCamera | startMount | started => simp [LoadInv]
    | remainOn | turnOff | unload | unloaded | wait4pc => exact ih
    | resume => simp_all [LoadInv]

/-! ## Camera on before the mount -/

/-- The camera in the visit in which it is switched on, by induction on the calls. -/
lemma cameraInv_run (hstate : s0.consumersState = .offIdle) (chron : Chronological t0 calls)
    (hs : (run consumerPowerLoop s0 calls).consumersState = .onSubsActivation) :
    InVisit Pins.getCamera 0 (visits s0 calls).1 (run consumerPowerLoop s0 calls)
      (heldSince consumerPowerLoop cameraOn s0 calls) (enteredAt t0 s0 calls) := by
  induction calls using List.reverseRecOn with
  | nil => simp [hstate] at hs
  | append_singleton calls c ih =>
    have ih := ih (chronological_concat.mp chron).1
    have hoff : (run consumerPowerLoop s0 calls).pins.getCamera = false →
        heldSince consumerPowerLoop cameraOn s0 calls = none :=
      heldSince_of_not consumerPowerLoop cameraOn
    have hon := exists_heldSince consumerPowerLoop cameraOn (s := s0) chron (by simp)
    have tr : Transition c (run consumerPowerLoop s0 calls)
        (run consumerPowerLoop s0 (calls ++ [c])) := run_transition
    rw [visits_concat, heldSince_concat, enteredAt_concat]
    rw [heldSince_concat, endTime_concat] at hon
    generalize run consumerPowerLoop s0 calls = s at *
    generalize run consumerPowerLoop s0 (calls ++ [c]) = s' at *
    generalize visits s0 calls = vs at *
    generalize heldSince consumerPowerLoop cameraOn s0 calls = held at *
    generalize enteredAt t0 s0 calls = e at *
    cases tr with
    | loaded | resume => exact ⟨fun _ hcam => hon hcam, nofun⟩
    | startCamera | startMount =>
      refine ⟨nofun, fun v hv => ⟨rfl, ?_⟩⟩
      cases hv
      exact (ih rfl).sinceVisit hoff
    | _ => cases hs

/-! ## The delays -/

/-- The camera is switched on in `e_consumers_on_subs_activation`, by every call that finds it off
there. -/
lemma Transition.camera_iff (tr : Transition c s s') :
    (s.pins.getCamera = false ∧ s'.pins.getCamera = true) ↔
      (s.consumersState = .onSubsActivation ∧ s.pins.getCamera = false) := by
  cases tr with
  | startCamera | startMount | started => simp
  | _ => simp_all

/-- With the relay closed, the mount is switched on in `e_consumers_on_subs_activation`, by every
call that finds it off there and 500 ms over. -/
lemma Transition.mount_iff (tr : Transition c s s') (h : Sequenced s) :
    (s.pins.getMount = false ∧ s'.pins.getMount = true ∧ s'.pins.getConsumers = true) ↔
      (s.consumersState = .onSubsActivation ∧ s.pins.getMount = false ∧
        500 ≤ millis c.start - s.lastStateChange) := by
  cases tr with
  | started time => simp_all [Sequenced, UInt32.le_trans (by decide : (500 : UInt32) ≤ 1000) time]
  | _ => simp_all [Sequenced]

/-- The relay is closed in `e_consumers_on_subs_off`, by every call that finds it open there. -/
lemma Transition.relay_iff (tr : Transition c s s') (h : Sequenced s) :
    (s.pins.getConsumers = false ∧ s'.pins.getConsumers = true) ↔
      (s.consumersState = .onSubsOff ∧ s.pins.getConsumers = false) := by
  constructor
  · rintro ⟨hopen, hclosed⟩
    exact ⟨tr.of_close h hopen hclosed, hopen⟩
  · rintro ⟨hs, hopen⟩
    cases tr with
    | load | loaded | abandon => exact ⟨hopen, rfl⟩
    | _ => cases hs

/-- The first delay, by the time of the last visit. -/
lemma settle_iff (hstate : s0.consumersState = .offIdle)
    (hrelay : s0.pins.getConsumers = false) (hmount : s0.pins.getMount = true)
    (hs : (run consumerPowerLoop s0 calls).consumersState = .onSubsOff)
    (hopen : (run consumerPowerLoop s0 calls).pins.getConsumers = false) :
    HeldFor consumerPowerLoop devicesAreOff 200 s0 calls c.start ↔
      ∀ v ∈ (visits s0 calls).2, v.start + 200 ≤ c.start := by
  have h : SettleInv (run consumerPowerLoop s0 calls) (visits s0 calls)
      (heldSince consumerPowerLoop devicesAreOff s0 calls) := settleInv_run hstate hrelay hmount
  have h := h hopen
  simp only [hs] at h
  obtain ⟨v, hv, held⟩ := h
  rw [heldFor_iff consumerPowerLoop devicesAreOff held, hv]
  simp

/-- The second delay, by the time of the last visit. -/
lemma load_iff (hstate : s0.consumersState = .offIdle)
    (chron : Chronological t0 (calls ++ [c]))
    (hs : (run consumerPowerLoop s0 calls).consumersState = .onSubsActivation)
    (hoff : (run consumerPowerLoop s0 calls).pins.getCamera = false) :
    HeldFor consumerPowerLoop relayClosed 100 s0 calls c.start ↔
      ∀ v ∈ (visits s0 calls).2, v.found.getConsumers = false → v.start + 100 ≤ c.start := by
  obtain ⟨chron, hstart, -⟩ := chronological_concat.mp chron
  have h : LoadInv (run consumerPowerLoop s0 calls) (visits s0 calls)
      (heldSince consumerPowerLoop relayClosed s0 calls) (enteredAt t0 s0 calls) :=
    loadInv_run hstate chron
  simp only [LoadInv, hs] at h
  obtain ⟨v, hv, hsince⟩ := h hoff
  have hle : enteredAt t0 s0 calls ≤ c.start := (enteredAt_le chron).trans hstart
  rw [HeldFor, hsince.heldFor_iff (n := 100) (t := c.start) (by omega), hv]
  simp

/-- The third delay, by the time of the visit itself. -/
lemma camera_iff (hstate : s0.consumersState = .offIdle)
    (chron : Chronological t0 (calls ++ [c]))
    (hs : (run consumerPowerLoop s0 calls).consumersState = .onSubsActivation)
    (htime : 500 ≤ millis c.start - (run consumerPowerLoop s0 calls).lastStateChange) :
    HeldFor consumerPowerLoop cameraOn 500 s0 calls c.start ↔
      ((currentVisit (visits s0 calls).1 (run consumerPowerLoop s0 calls) c).found.getCamera = false →
        (currentVisit (visits s0 calls).1 (run consumerPowerLoop s0 calls) c).start + 500
          ≤ c.start) := by
  obtain ⟨chron, hstart, -⟩ := chronological_concat.mp chron
  have hin := cameraInv_run hstate chron hs
  have hoff : (run consumerPowerLoop s0 calls).pins.getCamera = false →
      heldSince consumerPowerLoop cameraOn s0 calls = none :=
    heldSince_of_not consumerPowerLoop cameraOn
  rw [lastStateChange_eq t0 hstate (by simp [hs])] at htime
  have hle : enteredAt t0 s0 calls + 500 ≤ c.start :=
    le_of_le_elapsed ((enteredAt_le chron).trans hstart) htime
  exact hin.heldFor_iff hoff (by omega) hle

/-- The inrush delays hold exactly in the runs whose calls are far enough apart. -/
theorem inrush_iff (hstate : s0.consumersState = .offIdle)
    (hrelay : s0.pins.getConsumers = false) (hmount : s0.pins.getMount = true)
    (chron : Chronological t0 calls) :
    EveryStep (InrushDelays s0) calls ↔ EveryStep (CallsApart s0) calls := by
  refine forall₂_congr fun hist c => forall_congr' fun pre => ?_
  have chron : Chronological t0 (hist ++ [c]) := chron.of_prefix pre
  have hseq : Sequenced (run consumerPowerLoop s0 hist) := run_sequenced hstate hrelay
  have tr : Transition c (run consumerPowerLoop s0 hist)
      (run consumerPowerLoop s0 (hist ++ [c])) := run_transition
  refine and_congr ?_ (and_congr ?_ ?_)
  · rw [← and_imp, tr.relay_iff hseq, and_imp]
    exact forall₂_congr fun hs hopen => settle_iff hstate hrelay hmount hs hopen
  · rw [← and_imp, tr.camera_iff, and_imp]
    exact forall₂_congr fun hs hoff => load_iff hstate chron hs hoff
  · rw [← and_imp, ← and_imp, and_assoc, tr.mount_iff hseq, and_imp, and_imp]
    exact forall₂_congr fun hs _ => forall_congr' fun htime => camera_iff hstate chron hs htime

end

/-- The main loop blocks for five seconds after the request: the first call made in
`e_consumers_off_prepare_activation` finds its 200 ms over, and the next one closes the relay. -/
def blockedRun : List (PowerCall .binary32) :=
  [.brief true 1000 0 0, .brief true 6000 0 0, .brief true 6002 12 0]

/-- Calls that are blocked switch without a delay. -/
theorem inrush_blocked : ¬ EveryStep (InrushDelays {}) blockedRun := by
  intro h
  have hheld := (h (blockedRun.take 2) _ List.prefix_rfl).1
  exact absurd (hheld (by decide +kernel) (by decide +kernel)) (by decide +kernel)

theorem inrush_iff_blocked :
    EveryStep (InrushDelays {}) blockedRun ↔ EveryStep (CallsApart {}) blockedRun :=
  inrush_iff rfl rfl rfl (show Chronological 0 blockedRun by decide +kernel)

end AstroPowerBox.Switcher
