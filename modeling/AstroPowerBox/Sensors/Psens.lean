import AstroPowerBox.Sensors.Ina3221
import Mathlib.Algebra.Order.Field.Basic

/-!
# Power sensors

Source `src/sensors/power/psens.cpp`: two INA3221 with three channels each, addressed by one channel
number. Every reading of the firmware goes through `psens::getVoltage` and `psens::getCurrent`, whose
result is the value of the cell; its `valid` flag is not looked at.
-/

namespace AstroPowerBox.Sensors
open Foundation

inductive PsensChannel where
  | ch1Battery
  | ch2DewHeater1
  | ch3DewHeater2
  | ch4Pc
  | ch5Mount
  | ch6ImagingCam
deriving DecidableEq

/-- The number of a channel. -/
def PsensChannel.toNat : PsensChannel → ℕ
  | .ch1Battery => 0
  | .ch2DewHeater1 => 1
  | .ch3DewHeater2 => 2
  | .ch4Pc => 3
  | .ch5Mount => 4
  | .ch6ImagingCam => 5

section
variable {R : Rounding}

structure Psens (R : Rounding) where
  sensors : Fin 2 → Sensor R
  nextUpdate : UInt32 := 0
  updateDelay : UInt32 := 100
  powers : PsensChannel → Rounded R := fun _ => 0

/-- Source `_getSensorAndChannel`: the sensor. -/
def sensorOf (channel : PsensChannel) : Fin 2 := Fin.ofNat 2 (channel.toNat / numCh)

/-- Source `_getSensorAndChannel`: the channel of that sensor. -/
def sensChannelOf (channel : PsensChannel) : ℕ := channel.toNat % numCh

/-- The sensors after `psens::setup`: 12 mOhm shunts in the first channels, and two 100 mOhm shunts
in parallel for the mount. -/
def Psens.setup : Psens R where
  sensors ii :=
    let sensor := Sensor.new.setCurrentCorrection 0 (calcCurrentFactorFromShunt 0.012) 0
    if ii = 1 then sensor.setCurrentCorrection 1 (calcCurrentFactorFromShunt 0.05) 0 else sensor

/-- The call of the sensor that a reading makes. -/
def sensorCall (q : Quantity) (channel : PsensChannel) (a : Access) : SensorCall :=
  ⟨q, sensChannelOf channel, a⟩

/-- A reading (source `psens::getVoltage`, `psens::getCurrent`). -/
def Psens.get (s : Psens R) (q : Quantity) (channel : PsensChannel) (a : Access) :
    Rounded R × Psens R :=
  let r := (s.sensors (sensorOf channel)).call (sensorCall q channel a)
  (r.1.value, { s with sensors := Function.update s.sensors (sensorOf channel) r.2 })

def Psens.getVoltage (s : Psens R) (channel : PsensChannel) (a : Access) : Rounded R × Psens R :=
  s.get .voltage channel a

def Psens.getCurrent (s : Psens R) (channel : PsensChannel) (a : Access) : Rounded R × Psens R :=
  s.get .current channel a

/-- Source `psens::getAdcShunt`, which makes no reading. -/
def Psens.getAdcShunt (s : Psens R) (channel : PsensChannel) : Int16 :=
  (s.sensors (sensorOf channel)).getAdcShunt (sensChannelOf channel)

/-- The cell of a channel. -/
def Psens.cell (s : Psens R) (q : Quantity) (channel : PsensChannel) : Value R :=
  (s.sensors (sensorOf channel)).cell q (Fin.ofNat 3 (sensChannelOf channel))

/-- The correction that belongs to the cell of a channel. -/
def Psens.correction (s : Psens R) (q : Quantity) (channel : PsensChannel) : AdcCorrection R :=
  (s.sensors (sensorOf channel)).correction q (Fin.ofNat 3 (sensChannelOf channel))

/-- The read delay of the sensor of a channel. -/
def Psens.minReadDelay (s : Psens R) (channel : PsensChannel) : UInt32 :=
  (s.sensors (sensorOf channel)).minReadDelay

variable {s : Psens R} {q q' : Quantity} {channel channel' : PsensChannel} {a : Access}

lemma sensChannelOf_lt : sensChannelOf channel < numCh := Nat.mod_lt _ (by decide)

/-- A reading returns the value of its cell. -/
lemma Psens.get_value :
    (s.get q channel a).1
      = (readValue (s.minReadDelay channel) (s.correction q channel) (s.cell q channel) a).value := by
  have h : (sensorCall q channel a).channelIndex < numCh := sensChannelOf_lt
  simp only [get, Sensor.call_value h]
  cases channel <;> rfl

/-- A reading changes no cell but its own. -/
lemma Psens.cell_get :
    (s.get q' channel' a).2.cell q channel =
      if q = q' ∧ channel = channel' then
        readValue (s.minReadDelay channel) (s.correction q channel) (s.cell q channel) a
      else s.cell q channel := by
  by_cases hsensor : sensorOf channel = sensorOf channel'
  · have hch : channel = channel' ↔ sensChannelOf channel = sensChannelOf channel' := by
      revert hsensor
      cases channel <;> cases channel' <;> decide
    simp only [get, cell, hsensor, Function.update_self, Sensor.cell_call]
    simp only [hch, sensorCall, minReadDelay, correction, hsensor, Fin.val_ofNat,
      Nat.mod_eq_of_lt sensChannelOf_lt]
  · -- the reading goes to the other sensor
    have hne : channel ≠ channel' := fun h => hsensor (h ▸ rfl)
    simp [get, cell, hsensor, hne]

/-- A reading changes no delay. -/
@[simp] lemma Psens.minReadDelay_get :
    (s.get q' channel' a).2.minReadDelay channel = s.minReadDelay channel := by
  by_cases hsensor : sensorOf channel = sensorOf channel'
  · simp [get, minReadDelay, hsensor]
  · simp [get, minReadDelay, hsensor]

/-- Nor does it change a correction. -/
@[simp] lemma Psens.correction_get :
    (s.get q' channel' a).2.correction q channel = s.correction q channel := by
  by_cases hsensor : sensorOf channel = sensorOf channel'
  · simp [get, correction, hsensor]
  · simp [get, correction, hsensor]

/-! ## Runs of readings -/

/-- A reading: what is asked for, and when and on what bus. -/
structure Reading where
  quantity : Quantity
  channel : PsensChannel
  access : Access
deriving DecidableEq

/-- A reading as a step of the sensors. -/
def Psens.step (s : Psens R) (r : Reading) : Psens R := (s.get r.quantity r.channel r.access).2

/-- The accesses to the cell of a channel. -/
def accesses (q : Quantity) (channel : PsensChannel) (rs : List Reading) : List Access :=
  rs.filterMap fun r => if q = r.quantity ∧ channel = r.channel then some r.access else none

variable {rs : List Reading} {r : Reading}

/-- A reading is an access to its own cell. -/
lemma accesses_concat :
    accesses q channel (rs ++ [r]) =
      accesses q channel rs ++
        if q = r.quantity ∧ channel = r.channel then [r.access] else [] := by
  by_cases h : q = r.quantity ∧ channel = r.channel <;> simp [accesses, h]

/-- The delays never change. -/
@[simp] lemma Psens.minReadDelay_run :
    (run step s rs).minReadDelay channel = s.minReadDelay channel := by
  apply run_keeps step (f := fun s => s.minReadDelay channel)
  intro s r
  exact minReadDelay_get

/-- Nor do the corrections. -/
@[simp] lemma Psens.correction_run :
    (run step s rs).correction q channel = s.correction q channel := by
  apply run_keeps step (f := fun s => s.correction q channel)
  intro s r
  exact correction_get

/-- A cell runs through the accesses made to it. -/
lemma Psens.cell_run :
    (run step s rs).cell q channel
      = run (readValue (s.minReadDelay channel) (s.correction q channel)) (s.cell q channel)
          (accesses q channel rs) := by
  induction rs using List.reverseRecOn with
  | nil => rfl
  | append_singleton rs r ih =>
    rw [run_concat, step, cell_get, minReadDelay_run, correction_run, ih, accesses_concat]
    split_ifs
    · rw [run_concat]
    · rw [List.append_nil]

/-! ## Currents over 12 mOhm -/

/-- The correction of a current over a 12 mOhm shunt. -/
def lowShuntCorrection : AdcCorrection R := ⟨calcCurrentFactorFromShunt 0.012, 0⟩

/-- An empty register is no current. -/
@[simp] lemma decode_zero : decode (lowShuntCorrection : AdcCorrection R) 0 = 0 := by
  ext
  simp [decode, adcOfRaw, lowShuntCorrection, Rounded.fma]

/-! ## Powers -/

/-- The six channels in the order of `psens::loop`. -/
def channels : List PsensChannel :=
  [.ch1Battery, .ch2DewHeater1, .ch3DewHeater2, .ch4Pc, .ch5Mount, .ch6ImagingCam]

/-- The power of one channel (source `psens::loop`, the inner loop). -/
def Psens.updatePower (accesses : PsensChannel → Access × Access) (s : Psens R)
    (channel : PsensChannel) : Psens R :=
  let (voltage, s) := s.getVoltage channel (accesses channel).1
  let (current, s) := s.getCurrent channel (accesses channel).2
  { s with powers := Function.update s.powers channel (voltage * current) }

/-- Source `psens::loop`, called at real time `time`. -/
def Psens.loop (s : Psens R) (time : ℕ) (accesses : PsensChannel → Access × Access) : Psens R :=
  if millis time ≥ s.nextUpdate then
    channels.foldl (Psens.updatePower accesses)
      { s with nextUpdate := millis time + s.updateDelay }
  else s

/-! ## What the loop computes -/

/-- A call of `psens::loop`: its time, and what its readings meet. -/
structure PowersCall where
  time : ℕ
  accesses : PsensChannel → Access × Access

instance : Timed PowersCall where
  start := PowersCall.time
  stop := PowersCall.time

/-- The product of the two readings of a channel. -/
def Psens.power (accesses : PsensChannel → Access × Access) (s : Psens R) (channel : PsensChannel) :
    Rounded R :=
  (s.getVoltage channel (accesses channel).1).1 * (s.getCurrent channel (accesses channel).2).1

variable {accesses : PsensChannel → Access × Access}

/-- A reading does not matter to a reading of another cell. -/
lemma Psens.get_get (other : ¬ (q = q' ∧ channel = channel')) {b : Access} :
    ((s.get q' channel' a).2.get q channel b).1 = (s.get q channel b).1 := by
  rw [get_value, get_value, cell_get, if_neg other, minReadDelay_get, correction_get]

/-- The inner loop writes the power of its channel. -/
lemma Psens.powers_updatePower : (s.updatePower accesses channel).powers
    = Function.update s.powers channel (s.power accesses channel) := by
  have hcurrent : ((s.get .voltage channel (accesses channel).1).2.get .current channel
      (accesses channel).2).1 = (s.get .current channel (accesses channel).2).1 := get_get (by simp)
  simp only [updatePower, power, getVoltage, getCurrent, hcurrent]
  rfl

/-- The readings of another channel do not change what this one will read. -/
lemma Psens.power_updatePower (other : channel ≠ channel') :
    (s.updatePower accesses channel').power accesses channel = s.power accesses channel := by
  have hread : ∀ q a, ((s.updatePower accesses channel').get q channel a).1
      = (s.get q channel a).1 := by
    intro q a
    have hne : ∀ q', ¬ (q = q' ∧ channel = channel') := fun q' h => other h.2
    exact (get_get (hne .current)).trans (get_get (hne .voltage))
  rw [power, getVoltage, getCurrent, hread, hread]
  rfl

/-- The channels are updated one after the other, each from its own two readings. -/
lemma Psens.powers_foldl {chs : List PsensChannel} (nodup : chs.Nodup) :
    (chs.foldl (updatePower accesses) s).powers channel =
      if channel ∈ chs then s.power accesses channel else s.powers channel := by
  induction chs generalizing s with
  | nil => rfl
  | cons ch chs ih =>
    obtain ⟨hch, nodup⟩ := List.nodup_cons.mp nodup
    rw [List.foldl_cons, ih nodup, powers_updatePower]
    rcases eq_or_ne channel ch with rfl | hne
    · rw [if_neg hch, Function.update_self, if_pos List.mem_cons_self]
    · rw [power_updatePower hne, Function.update_of_ne hne]
      simp only [List.mem_cons, hne, false_or]

/-- A pass that is due computes the power of every channel. -/
lemma Psens.powers_loop {time : ℕ} (due : s.nextUpdate ≤ millis time) :
    (s.loop time accesses).powers channel = s.power accesses channel := by
  rw [loop, if_pos due, powers_foldl (by decide)]
  cases channel <;> rfl

end
end AstroPowerBox.Sensors
