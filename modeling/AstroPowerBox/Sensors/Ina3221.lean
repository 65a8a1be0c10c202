import AstroPowerBox.Foundation.Clock
import AstroPowerBox.Foundation.Rounding
import Mathlib.Data.Fintype.Pi
import Mathlib.Data.Nat.Bitwise

/-!
# INA3221 driver

Source `src/sensors/power/ina3221.cpp`. A `Transaction` is what one register read meets on the I2C
bus: whether the register pointer write is accepted, and the bytes that are then available. A
`Value` is one cell of the driver (source `value`); `readValue` either leaves it alone, because it
is fresh, or fills it from one transaction.

Left out: the bus set-up. The configuration register and the power-down mode, which no reading goes
through, are in `Sensors.Chip`.
-/

namespace AstroPowerBox.Sensors
open Foundation

/-- Source `INA3221_NUM_CH`. -/
abbrev numCh : ℕ := 3

/-- What a register read meets on the bus. -/
structure Transaction where
  pointerAccepted : Bool
  received : List UInt8
deriving DecidableEq

/-- When a value is asked for, and what its transaction would meet. -/
structure Access where
  time : ℕ
  bus : Transaction
deriving DecidableEq

structure Value (R : Rounding) where
  value : Rounded R := 0
  time : UInt32 := 0
  adc : Int16 := 0
  valid : Bool := false
deriving DecidableEq

structure AdcCorrection (R : Rounding) where
  factor : Rounded R := 1
  offset : Rounded R := 0
deriving DecidableEq

/-- Exactly two bytes arrived. -/
def Transaction.complete (bus : Transaction) : Bool :=
  bus.pointerAccepted && bus.received.length == 2

/-- Source `sensor::_read16`: the success flag and the data. Once the register pointer is accepted
the flag stays set, whatever number of bytes is available. -/
def read16 (bus : Transaction) : Bool × UInt16 :=
  if bus.pointerAccepted then
    match bus.received with
    | [msb, lsb] => (true, msb.toUInt16 <<< 8 ||| lsb.toUInt16)
    | _ => (true, 0)
  else (false, 0)

/-- The driver looks at the transmission only, not at the bytes it got. -/
lemma read16_success {bus : Transaction} : (read16 bus).1 = bus.pointerAccepted := by
  rw [read16]
  split_ifs with accepted
  · split <;> exact accepted.symm
  · simpa using accepted

/-- The 13-bit ADC value in the upper bits of a register, sign extended by hand. -/
def adcOfRaw (rawData : UInt16) : Int16 :=
  if rawData &&& 0x8000 ≠ 0 then (rawData >>> 3 ||| 0xF000).toInt16 else (rawData >>> 3).toInt16

/-- The upper half of the range is negative. -/
lemma toInt_toInt16 {r : UInt16} :
    r.toInt16.toInt = if r.toNat < 32768 then (r.toNat : ℤ) else r.toNat - 65536 := by
  change r.toBitVec.toInt = _
  rw [BitVec.toInt_eq_toNat_bmod, UInt16.toNat_toBitVec, Int.bmod_def]
  have hlt := r.toNat_lt
  split_ifs <;> omega

/-- The upper bits are set by the sign extension, and nothing else. -/
lemma or_sign {m : ℕ} (h : m < 2 ^ 12) : (2 ^ 12 + m) ||| 0xF000 = 0xF000 + m := by
  have h1 : 2 ^ 12 + m = 2 ^ 12 * 1 ||| m := by
    rw [← Nat.two_pow_add_eq_or_of_lt h, Nat.mul_one]
  have h2 : 0xF000 + m = 2 ^ 12 * 15 ||| m := by
    rw [← Nat.two_pow_add_eq_or_of_lt h]
  rw [h1, h2, Nat.or_assoc, Nat.or_comm m, ← Nat.or_assoc]
  rfl

/-- The sign extension by hand is a signed division of the register by eight. -/
theorem toInt_adcOfRaw {rawData : UInt16} :
    (adcOfRaw rawData).toInt = rawData.toInt16.toInt / 8 := by
  have hlt := rawData.toNat_lt
  have hsign : rawData &&& 0x8000 ≠ 0 ↔ 32768 ≤ rawData.toNat := by
    have hbit := Nat.and_two_pow rawData.toNat 15
    rw [Nat.testBit_eq_decide_div_mod_eq] at hbit
    rw [ne_eq, ← UInt16.toNat_inj, UInt16.toNat_and]
    change ¬ rawData.toNat &&& 2 ^ 15 = 0 ↔ _
    rw [hbit]
    by_cases h : rawData.toNat / 2 ^ 15 % 2 = 1 <;> simp <;> omega
  have hshift : (rawData >>> 3).toNat = rawData.toNat / 8 := by
    rw [UInt16.toNat_shiftRight]
    exact Nat.shiftRight_eq_div_pow _ _
  unfold adcOfRaw
  split_ifs with h
  · -- negative: the shift has cleared the upper bits, the mask sets them again
    have hge := hsign.mp h
    have hor : (rawData >>> 3 ||| 0xF000).toNat = 0xF000 + (rawData.toNat / 8 - 2 ^ 12) := by
      obtain ⟨m, hm⟩ : ∃ m, rawData.toNat / 8 = 2 ^ 12 + m :=
        ⟨rawData.toNat / 8 - 2 ^ 12, by omega⟩
      rw [UInt16.toNat_or, hshift, hm, Nat.add_sub_cancel_left]
      exact or_sign (by omega)
    simp only [toInt_toInt16, hor]
    split_ifs <;> omega
  · have hlow : ¬ 32768 ≤ rawData.toNat := fun hge => h (hsign.mpr hge)
    simp only [toInt_toInt16, hshift]
    split_ifs <;> omega

/-- A conversion result has 13 bits. -/
lemma abs_adcOfRaw_le {rawData : UInt16} : |(adcOfRaw rawData).toInt| ≤ 4096 := by
  have hle := rawData.toInt16.le_toInt
  have hlt := rawData.toInt16.toInt_lt
  rw [toInt_adcOfRaw, abs_le]
  omega

section
variable {R : Rounding}

/-- The cell needs no new read yet: the test at the head of `_readValue`. -/
def Value.fresh (dest : Value R) (minReadDelay sysTime : UInt32) : Bool :=
  sysTime < dest.time + minReadDelay && dest.valid

/-- The value that a raw register value stands for. -/
def decode (correction : AdcCorrection R) (rawData : UInt16) : Rounded R :=
  Rounded.fma (.ofInt (adcOfRaw rawData).toInt) correction.factor correction.offset

/-- The cell that a raw register value makes of `dest`. -/
def Value.fill (dest : Value R) (correction : AdcCorrection R) (sysTime : UInt32)
    (rawData : UInt16) : Value R :=
  { dest with
    time := sysTime
    adc := adcOfRaw rawData
    value := decode correction rawData
    valid := true }

def readValue (minReadDelay : UInt32) (correction : AdcCorrection R) (dest : Value R) (a : Access) :
    Value R :=
  if dest.fresh minReadDelay (millis a.time) then { dest with valid := true }
  else
    let (success, rawData) := read16 a.bus
    if success then dest.fill correction (millis a.time) rawData else { dest with valid := false }

/-- Which of the two registers of a channel is read. -/
inductive Quantity where
  | voltage
  | current
deriving DecidableEq

structure Sensor (R : Rounding) where
  voltages : Fin numCh → Value R := fun _ => {}
  currents : Fin numCh → Value R := fun _ => {}
  vAdcCorrection : Fin numCh → AdcCorrection R := fun _ => {}
  iAdcCorrection : Fin numCh → AdcCorrection R := fun _ => {}
  minReadDelay : UInt32 := 10

def dummy : Value R := {}

/-- The cell of a channel. -/
def Sensor.cell (s : Sensor R) (q : Quantity) (ch : Fin numCh) : Value R :=
  match q with
  | .voltage => s.voltages ch
  | .current => s.currents ch

/-- The correction that belongs to a cell. -/
def Sensor.correction (s : Sensor R) (q : Quantity) (ch : Fin numCh) : AdcCorrection R :=
  match q with
  | .voltage => s.vAdcCorrection ch
  | .current => s.iAdcCorrection ch

def Sensor.getVoltage (s : Sensor R) (channelIndex : ℕ) (a : Access) : Value R × Sensor R :=
  if h : channelIndex < numCh then
    let ch : Fin numCh := ⟨channelIndex, h⟩
    let val := readValue s.minReadDelay (s.vAdcCorrection ch) (s.voltages ch) a
    (val, { s with voltages := Function.update s.voltages ch val })
  else (dummy, s)

def Sensor.getCurrent (s : Sensor R) (channelIndex : ℕ) (a : Access) : Value R × Sensor R :=
  if h : channelIndex < numCh then
    let ch : Fin numCh := ⟨channelIndex, h⟩
    let val := readValue s.minReadDelay (s.iAdcCorrection ch) (s.currents ch) a
    (val, { s with currents := Function.update s.currents ch val })
  else (dummy, s)

/-- Source `sensor::calcCurrentFactorFromShunt`, for a shunt that is a number. -/
def calcCurrentFactorFromShunt (shuntOhm : Rounded R) : Rounded R := 0.00004 / shuntOhm

def Sensor.setCurrentCorrection (s : Sensor R) (channelIndex : ℕ) (factor offset : Rounded R) :
    Sensor R :=
  if h : channelIndex < numCh then
    { s with iAdcCorrection := Function.update s.iAdcCorrection ⟨channelIndex, h⟩ ⟨factor, offset⟩ }
  else s

/-- Source `sensor::sensor`: 8 mV and 40 µV over 100 mOhm for each step, nothing read yet. -/
def Sensor.new : Sensor R where
  vAdcCorrection _ := { factor := 0.008, offset := 0 }
  iAdcCorrection _ := { factor := calcCurrentFactorFromShunt 0.1, offset := 0 }

/-- Source `sensor::getAdcShunt`: what the last reading of the current has left. -/
def Sensor.getAdcShunt (s : Sensor R) (channelIndex : ℕ) : Int16 :=
  if h : channelIndex < numCh then (s.currents ⟨channelIndex, h⟩).adc else Int16.maxValue

/-! ## What a call does to a cell -/

/-- Which cell a call asks for, when, and on what bus. -/
structure SensorCall where
  quantity : Quantity
  channelIndex : ℕ
  access : Access
deriving DecidableEq

/-- A call of `getVoltage` or `getCurrent`. -/
def Sensor.call (s : Sensor R) (c : SensorCall) : Value R × Sensor R :=
  match c.quantity with
  | .voltage => s.getVoltage c.channelIndex c.access
  | .current => s.getCurrent c.channelIndex c.access

variable {s : Sensor R} {c : SensorCall} {q : Quantity} {ch : Fin numCh}

/-- A call on a channel of the sensor returns the cell as `readValue` leaves it. -/
lemma Sensor.call_value (h : c.channelIndex < numCh) :
    (s.call c).1 = readValue s.minReadDelay (s.correction c.quantity ⟨c.channelIndex, h⟩)
      (s.cell c.quantity ⟨c.channelIndex, h⟩) c.access := by
  obtain ⟨q, i, a⟩ := c
  cases q <;> simp [call, getVoltage, getCurrent, cell, correction, h]

/-- A call changes no cell but its own. -/
lemma Sensor.cell_call :
    (s.call c).2.cell q ch =
      if q = c.quantity ∧ ch.val = c.channelIndex then
        readValue s.minReadDelay (s.correction q ch) (s.cell q ch) c.access
      else s.cell q ch := by
  obtain ⟨q', i, a⟩ := c
  by_cases hi : i < numCh
  · cases q <;> cases q' <;>
      simp [call, getVoltage, getCurrent, cell, correction, hi, Function.update_apply, Fin.ext_iff]
    all_goals
      by_cases heq : ch.val = i
      · subst heq
        rfl
      · simp [heq]
  · have hne : ch.val ≠ i := fun h => hi (h ▸ ch.isLt)
    cases q' <;> simp [call, getVoltage, getCurrent, hi, hne]

@[simp] lemma Sensor.minReadDelay_call : (s.call c).2.minReadDelay = s.minReadDelay := by
  obtain ⟨q', i, a⟩ := c
  cases q' <;> simp only [call, getVoltage, getCurrent] <;> split <;> rfl

@[simp] lemma Sensor.correction_call : (s.call c).2.correction q ch = s.correction q ch := by
  obtain ⟨q', i, a⟩ := c
  cases q' <;> simp only [call, getVoltage, getCurrent] <;> split <;> cases q <;> rfl

/-! ## The run of a cell

A cell changes only when it is asked for, so its history is that of the accesses made to it. -/

variable {minReadDelay : UInt32} {correction : AdcCorrection R} {dest : Value R} {a : Access}
  {as : List Access}

/-- A fresh cell is left alone. -/
lemma readValue_of_fresh (h : dest.fresh minReadDelay (millis a.time) = true) :
    readValue minReadDelay correction dest a = dest := by
  have hvalid : dest.valid = true := by
    simp only [Value.fresh, Bool.and_eq_true] at h
    exact h.2
  rw [readValue, if_pos h, ← hvalid]

/-- A successful read fills the cell. -/
lemma readValue_of_read (h : dest.fresh minReadDelay (millis a.time) = false)
    (hread : (read16 a.bus).1 = true) :
    readValue minReadDelay correction dest a
      = dest.fill correction (millis a.time) (read16 a.bus).2 := by
  simp [readValue, h, hread]

/-- A failed read marks it invalid. -/
lemma readValue_of_failed (h : dest.fresh minReadDelay (millis a.time) = false)
    (hread : (read16 a.bus).1 = false) :
    readValue minReadDelay correction dest a = { dest with valid := false } := by
  simp [readValue, h, hread]

/-- The access fills the cell from the bus. -/
def Value.fills (minReadDelay : UInt32) (dest : Value R) (a : Access) : Bool :=
  !dest.fresh minReadDelay (millis a.time) && (read16 a.bus).1

def lastFillUpd (minReadDelay : UInt32) (g : Option Access) (dest : Value R) (a : Access) :
    Option Access :=
  if dest.fills minReadDelay a then some a else g

/-- The last access that filled the cell from the bus. -/
def lastFill (minReadDelay : UInt32) (correction : AdcCorrection R) (dest : Value R)
    (as : List Access) : Option Access :=
  history (readValue minReadDelay correction) (lastFillUpd minReadDelay) none dest as

/-- A read that fills the cell is the last one from then on. -/
lemma lastFill_concat :
    lastFill minReadDelay correction dest (as ++ [a]) =
      if (run (readValue minReadDelay correction) dest as).fills minReadDelay a then some a
      else lastFill minReadDelay correction dest as := by
  simp [lastFill, lastFillUpd]

/-- A valid cell holds what the access that last filled it received. -/
theorem run_eq_fill (h0 : dest.valid = false)
    (hvalid : (run (readValue minReadDelay correction) dest as).valid = true) :
    ∃ a, lastFill minReadDelay correction dest as = some a ∧
      run (readValue minReadDelay correction) dest as
        = Value.fill {} correction (millis a.time) (read16 a.bus).2 := by
  induction as using List.reverseRecOn with
  | nil => simp [h0] at hvalid
  | append_singleton as a ih =>
    rw [run_concat] at hvalid
    rw [lastFill_concat, run_concat]
    generalize run (readValue minReadDelay correction) dest as = v at *
    unfold Value.fills
    cases hfresh : v.fresh minReadDelay (millis a.time) with
    | true =>
      rw [readValue_of_fresh hfresh] at hvalid ⊢
      exact ih hvalid
    | false =>
      cases hread : (read16 a.bus).1 with
      | true =>
        rw [readValue_of_read hfresh hread]
        exact ⟨a, rfl, rfl⟩
      | false =>
        rw [readValue_of_failed hfresh hread] at hvalid
        cases hvalid

end
end AstroPowerBox.Sensors
