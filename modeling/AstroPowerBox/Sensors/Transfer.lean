import AstroPowerBox.Foundation.Binary
import AstroPowerBox.Sensors.Ina3221

/-!
# Transfer of a register

What a transaction leaves in the cell that asked for it. Two bytes are one signed register, and the
cell holds an eighth of it. `read16` sets its flag when the register pointer is accepted and does not
take it back when the bytes are missing; `transfer_iff` says that this is the only thing wrong with a
transfer.
-/

namespace AstroPowerBox.Sensors
open Foundation

section
variable {R : Rounding}

/-- The signed register that two bytes stand for, the first one being the upper one. -/
def signedRegister (msb lsb : UInt8) : ℤ := (msb.toNat * 256 + lsb.toNat : ℤ).bmod (2 ^ 16)

/-- `cell` is what the transaction makes of `dest`: the new reading if exactly two bytes came, and
otherwise the old one, which is no longer valid. -/
def Transferred (correction : AdcCorrection R) (dest : Value R) (a : Access) (cell : Value R) : Prop :=
  match a.bus.pointerAccepted, a.bus.received with
  | true, [msb, lsb] =>
    cell.adc.toInt = ⌊(signedRegister msb lsb : ℚ) / 8⌋ ∧
      cell.value = .ofRat (cell.adc.toInt * correction.factor.val + correction.offset.val) ∧
      cell.time = millis a.time ∧ cell.valid = true
  | _, _ => cell = { dest with valid := false }

variable {minReadDelay : UInt32} {correction : AdcCorrection R} {dest : Value R} {a : Access}
  {msb lsb : UInt8}

/-- The two bytes make up the number of the register. -/
lemma toNat_register : (msb.toUInt16 <<< 8 ||| lsb.toUInt16).toNat = msb.toNat * 256 + lsb.toNat := by
  have hlsb := lsb.toNat_lt
  have hshift : (msb.toUInt16 <<< 8).toNat = 2 ^ 8 * msb.toNat := by
    have hmsb := msb.toNat_lt
    rw [UInt16.toNat_shiftLeft, UInt8.toNat_toUInt16, Nat.shiftLeft_eq]
    simp only [UInt16.toNat_ofNat, Nat.reducePow, Nat.reduceMod]
    omega
  rw [UInt16.toNat_or, hshift, UInt8.toNat_toUInt16, ← Nat.two_pow_add_eq_or_of_lt hlsb]
  rw [Nat.mul_comm]

/-- Its sign is that of the first byte. -/
lemma toInt_register :
    (msb.toUInt16 <<< 8 ||| lsb.toUInt16).toInt16.toInt = signedRegister msb lsb := by
  change (msb.toUInt16 <<< 8 ||| lsb.toUInt16).toBitVec.toInt = _
  rw [BitVec.toInt_eq_toNat_bmod, UInt16.toNat_toBitVec, toNat_register, Nat.cast_add, Nat.cast_mul]
  rfl

/-- The conversion is rounded once. -/
lemma decode_eq {rawData : UInt16} : decode correction rawData
    = .ofRat ((adcOfRaw rawData).toInt * correction.factor.val + correction.offset.val) := by
  rw [decode, Rounded.fma, Rounded.ofInt_val, R.round_intCast (abs_adcOfRaw_le.trans (by norm_num))]

/-- A transaction is transferred as it was delivered, unless the register pointer is accepted and
then not exactly two bytes come. -/
theorem transfer_iff (minReadDelay : UInt32) (correction : AdcCorrection R) (dest : Value R)
    (a : Access) (stale : dest.fresh minReadDelay (millis a.time) = false) :
    Transferred correction dest a (readValue minReadDelay correction dest a) ↔
      (a.bus.pointerAccepted = true → a.bus.received.length = 2) := by
  obtain ⟨time, accepted, received⟩ := a
  cases accepted with
  | false =>
    rw [readValue_of_failed stale read16_success]
    simp [Transferred]
  | true =>
    rw [readValue_of_read stale read16_success]
    -- the flag of the read is set whatever has come
    have hvalid : ∀ {rawData},
        dest.fill correction (millis time) rawData ≠ { dest with valid := false } := by
      intro rawData h
      cases congrArg Value.valid h
    match received with
    | [msb, lsb] =>
      have hadc : (adcOfRaw (msb.toUInt16 <<< 8 ||| lsb.toUInt16)).toInt
          = ⌊(signedRegister msb lsb : ℚ) / 8⌋ := by
        rw [toInt_adcOfRaw, toInt_register]
        exact (Rat.floor_intCast_div_natCast _ 8).symm
      exact iff_of_true ⟨hadc, decode_eq, rfl, rfl⟩ fun _ => rfl
    | [] | [_] | _ :: _ :: _ :: _ => exact iff_of_false hvalid (by simp)

end

/-- A transaction whose bytes do not come. -/
def shortRead : Access := ⟨1000, ⟨true, []⟩⟩

/-- A read of one byte is taken for a value. -/
theorem transfer_shortRead : ¬ ∀ (minReadDelay : UInt32) (correction : AdcCorrection .binary32)
    (dest : Value .binary32) (a : Access), dest.fresh minReadDelay (millis a.time) = false →
      Transferred correction dest a (readValue minReadDelay correction dest a) := by
  intro h
  have hcell := h 10 {} {} shortRead rfl
  cases congrArg Value.valid hcell

theorem transfer_iff_twoBytes :
    Transferred (R := .binary32) {} {} ⟨1000, ⟨true, [255, 240]⟩⟩
        (readValue 10 {} {} ⟨1000, ⟨true, [255, 240]⟩⟩) ↔
      (true = true → [(255 : UInt8), 240].length = 2) :=
  transfer_iff 10 {} {} ⟨1000, ⟨true, [255, 240]⟩⟩ rfl

end AstroPowerBox.Sensors
