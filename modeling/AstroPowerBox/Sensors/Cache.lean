import AstroPowerBox.Foundation.Binary
import AstroPowerBox.Sensors.Ina3221

/-!
# Read cache

A cell of the driver is served without a bus read while `fresh` holds. The freshness test compares
absolute wrapped times, so whether a served value is younger than `_minReadDelay` depends on where the
deadline of the read that filled the cell lies relative to the wrap of the counter (`cache_iff`).
-/

namespace AstroPowerBox.Sensors
open Foundation

section
variable {R : Rounding}

/-- A call as a step of the sensor. -/
def Sensor.step (s : Sensor R) (c : SensorCall) : Sensor R := (s.call c).2

/-- A sensor from which nothing has been read yet, with any corrections and any read delay. -/
def Sensor.unread (vAdcCorrection iAdcCorrection : Fin numCh → AdcCorrection R)
    (minReadDelay : UInt32) : Sensor R :=
  { vAdcCorrection, iAdcCorrection, minReadDelay }

/-- The accesses of the calls that ask for a cell. -/
def cellAccesses (q : Quantity) (ch : Fin numCh) (calls : List SensorCall) : List Access :=
  calls.filterMap fun c => if q = c.quantity ∧ ch.val = c.channelIndex then some c.access else none

/-- The last access that filled a cell from the bus. -/
def lastRead (s0 : Sensor R) (q : Quantity) (ch : Fin numCh) (calls : List SensorCall) :
    Option Access :=
  lastFill s0.minReadDelay (s0.correction q ch) (s0.cell q ch) (cellAccesses q ch calls)

variable {s0 : Sensor R} {calls : List SensorCall} {c : SensorCall} {q : Quantity} {ch : Fin numCh}

/-- A call is an access to the cell that it asks for. -/
lemma cellAccesses_concat :
    cellAccesses q ch (calls ++ [c]) =
      cellAccesses q ch calls ++
        if q = c.quantity ∧ ch.val = c.channelIndex then [c.access] else [] := by
  by_cases h : q = c.quantity ∧ ch.val = c.channelIndex <;> simp [cellAccesses, h]

/-- The read delay never changes. -/
@[simp] lemma Sensor.minReadDelay_run :
    (run step s0 calls).minReadDelay = s0.minReadDelay := by
  apply run_keeps step (f := minReadDelay)
  intro s c
  exact minReadDelay_call

/-- Nor do the corrections. -/
@[simp] lemma Sensor.correction_run :
    (run step s0 calls).correction q ch = s0.correction q ch := by
  apply run_keeps step (f := fun s => s.correction q ch)
  intro s c
  exact correction_call

/-- A cell runs through the accesses made to it. -/
lemma Sensor.cell_run :
    (run step s0 calls).cell q ch
      = run (readValue s0.minReadDelay (s0.correction q ch)) (s0.cell q ch)
          (cellAccesses q ch calls) := by
  induction calls using List.reverseRecOn with
  | nil => rfl
  | append_singleton calls c ih =>
    rw [run_concat, step, cell_call, minReadDelay_run, correction_run, ih, cellAccesses_concat]
    split_ifs
    · rw [run_concat]
    · rw [List.append_nil]

/-- A call that attempts no bus read returns a value that was read less than the read delay ago. -/
def ServedInTime (s0 : Sensor R) (hist : List SensorCall) (c : SensorCall) : Prop :=
  ∀ h : c.channelIndex < numCh,
    let s := run Sensor.step s0 hist
    (s.cell c.quantity ⟨c.channelIndex, h⟩).fresh s0.minReadDelay (millis c.access.time) = true →
    ∃ a, lastRead s0 c.quantity ⟨c.channelIndex, h⟩ hist = some a ∧
      (s.call c).1
        = Value.fill {} (s0.correction c.quantity ⟨c.channelIndex, h⟩) (millis a.time)
            (read16 a.bus).2 ∧
      c.access.time < a.time + s0.minReadDelay.toNat

/-- The counter has not wrapped past the deadline of the valid cell that the call asks for, or has
come back to its reading. -/
def DeadlineInSight (s0 : Sensor R) (hist : List SensorCall) (c : SensorCall) : Prop :=
  ∀ h : c.channelIndex < numCh,
    ((run Sensor.step s0 hist).cell c.quantity ⟨c.channelIndex, h⟩).valid = true →
    ∀ a, lastRead s0 c.quantity ⟨c.channelIndex, h⟩ hist = some a →
      ¬ WrappedPast (a.time + s0.minReadDelay.toNat) c.access.time

/-- No value is served from the cache for longer than the read delay, exactly in the runs in which
the counter never wraps past the deadline of a cell that is then asked for. -/
theorem cache_iff (vAdcCorrection iAdcCorrection : Fin numCh → AdcCorrection R)
    (minReadDelay : UInt32) (calls : List SensorCall) :
    EveryStep (ServedInTime (.unread vAdcCorrection iAdcCorrection minReadDelay)) calls ↔
      EveryStep (DeadlineInSight (.unread vAdcCorrection iAdcCorrection minReadDelay)) calls := by
  refine forall₂_congr fun hist c => forall_congr' fun _ => forall_congr' fun h => ?_
  set s0 : Sensor R := .unread vAdcCorrection iAdcCorrection minReadDelay with hs0
  set ch : Fin numCh := ⟨c.channelIndex, h⟩
  have h0 : (s0.cell c.quantity ch).valid = false := by
    cases hq : c.quantity <;> rfl
  cases hvalid : ((run Sensor.step s0 hist).cell c.quantity ch).valid with
  | false => simp [Value.fresh, hvalid]
  | true =>
    -- the cell holds what it received from `a`, and with it the time of `a`
    obtain ⟨a, hlast, hcell⟩ := run_eq_fill h0 (Sensor.cell_run ▸ hvalid)
    rw [← Sensor.cell_run] at hcell
    have hfresh : ((run Sensor.step s0 hist).cell c.quantity ch).fresh s0.minReadDelay
        (millis c.access.time) = true ↔
          millis c.access.time < millis a.time + s0.minReadDelay := by
      simp [hcell, Value.fresh, Value.fill]
    constructor
    · intro hserved _ a' hlast'
      obtain rfl : a = a' := Option.some_inj.mp (hlast.symm.trans hlast')
      rw [← lt_deadline_sound_iff]
      intro hlt
      obtain ⟨a', hlast', -, hage⟩ := hserved (hfresh.mpr hlt)
      obtain rfl : a = a' := Option.some_inj.mp (hlast.symm.trans hlast')
      exact hage
    · intro hsight s hf
      refine ⟨a, hlast, ?_, ?_⟩
      · rw [Sensor.call_value h, readValue_of_fresh (by rwa [Sensor.minReadDelay_run])]
        exact hcell
      · exact lt_deadline_sound_iff.mpr (hsight rfl a hlast) (hfresh.mp hf)

end

/-- A read 11 ms before the counter wraps, and a call 111 ms after it: the deadline of the read was
not wrapped, the second reading is. -/
def wrappedRun : List SensorCall :=
  [⟨.current, 0, 2 ^ 32 - 11, true, [0x10, 0x00]⟩, ⟨.current, 0, 2 ^ 32 + 100, true, [0x20, 0x00]⟩]

/-- A value is served again after the counter has come round. -/
theorem cache_overstays : ¬ EveryStep (ServedInTime (.new : Sensor .binary32)) wrappedRun := by
  intro h
  obtain ⟨a, hlast, -, hage⟩ :=
    h (wrappedRun.take 1) _ List.prefix_rfl (by decide) (by decide +kernel)
  have hread : lastRead (.new : Sensor .binary32) .current 0 (wrappedRun.take 1)
      = some ⟨2 ^ 32 - 11, true, [0x10, 0x00]⟩ := by decide +kernel
  cases hread.symm.trans hlast
  exact absurd hage (by decide +kernel)

end AstroPowerBox.Sensors
