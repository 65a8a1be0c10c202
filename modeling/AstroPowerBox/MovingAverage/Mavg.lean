import AstroPowerBox.RingBuffer.Rb
import Mathlib.Algebra.Order.Field.Rat

/-!
# Moving average

Source `lib/moving average/mavg.cpp` and `mavg.hpp`. The values are floats of 32 bits; the ring buffer
keeps their bytes, and what the bits stand for is given by `val`. The sum and the average are taken
over exact rationals.

An operation is `none` if the ring buffer faults, or if a value is used that was never read. The loop
of `reset` runs on fuel, and is `none` too when it runs out.
-/

namespace AstroPowerBox.MovingAverage
open RingBuffer

/-- The bytes of a float in memory, the lowest one first. -/
def bytes (value : UInt32) : List UInt8 :=
  [.ofNat value.toNat, .ofNat (value.toNat / 2 ^ 8), .ofNat (value.toNat / 2 ^ 16),
    .ofNat (value.toNat / 2 ^ 24)]

/-- The float that the bytes stand for. -/
def ofBytes : List UInt8 → UInt32
  | [a, b, c, d] => .ofNat (a.toNat + 2 ^ 8 * b.toNat + 2 ^ 16 * c.toNat + 2 ^ 24 * d.toNat)
  | _ => 0

@[simp] lemma length_bytes {value : UInt32} : (bytes value).length = 4 := rfl

/-- A value is read back from its bytes. -/
@[simp] lemma ofBytes_bytes {value : UInt32} : ofBytes (bytes value) = value := by
  have hlt := value.toNat_lt
  apply UInt32.toNat_inj.mp
  simp only [bytes, ofBytes, UInt32.toNat_ofNat', UInt8.toNat_ofNat']
  omega

/-- What the bits of a finite float stand for: sign, exponent and 23 bits of the significand. -/
def floatVal (value : UInt32) : ℚ :=
  let exponent : ℕ := value.toNat / 2 ^ 23 % 2 ^ 8
  let fraction : ℕ := value.toNat % 2 ^ 23
  let magnitude : ℚ :=
    if exponent = 0 then fraction / 2 ^ 149 else (2 ^ 23 + fraction) * 2 ^ exponent / 2 ^ 150
  if value.toNat < 2 ^ 31 then magnitude else -magnitude

example : floatVal 0xC0200000 = -2.5 := by decide +kernel

/-- Source `movingAverage`. -/
structure Mavg where
  buffer : RbBase
  sum : ℚ := 0
  avgValue : ℚ := 0

/-- The constructor. The size is converted to 16 bits; where nothing is left of it, an allocation that
succeeds returns a block of the smallest size, which has room for one element. -/
def Mavg.new (size : ℕ) (allocated : Bool) : Mavg where
  buffer :=
    let numElements := UInt16.ofNat size
    if numElements = 0 ∧ allocated then
      { elementSize := 4, numElements, memOk := true, rbData := .replicate 4 0 }
    else .new 4 numElements allocated

section
variable (val : UInt32 → ℚ)

namespace Mavg

/-- The first part of `addValue`: a full buffer gives up its oldest value. -/
def evict (s : Mavg) : Option Mavg :=
  if s.buffer.full then do
    let (element, buffer) ← s.buffer.read
    let element ← element
    some { s with buffer, sum := s.sum - val (ofBytes element) }
  else some s

def addValue (s : Mavg) (value : UInt32) : Option Mavg := do
  let s ← s.evict val
  let (_, buffer) ← s.buffer.write (bytes value)
  let sum := s.sum + val value
  some { buffer, sum, avgValue := sum / buffer.remainingElm.toNat }

def getAvgValue (s : Mavg) : ℚ := s.avgValue

def getOldestValue (s : Mavg) : Option ℚ :=
  s.buffer.peak.map fun
    | some element => val (ofBytes element)
    | none => 0

/-- The loop of `reset`, with the number of writes that have succeeded. -/
def fill (value : UInt32) : ℕ → Mavg → Option (ℕ × Mavg)
  | 0, _ => none
  | fuel + 1, s => do
    let (accepted, buffer) ← s.buffer.write (bytes value)
    if accepted then
      let (writes, s) ← fill value fuel { s with buffer, sum := s.sum + val value }
      some (writes + 1, s)
    else some (0, { s with buffer })

def reset (fuel : ℕ) (s : Mavg) (startValue : UInt32) : Option (ℕ × Mavg) :=
  fill val startValue fuel { buffer := s.buffer.clear, avgValue := val startValue }

end Mavg

/-- A call that changes the average. -/
inductive Call where
  | addValue (value : UInt32)
  | reset (startValue : UInt32)
deriving DecidableEq

/-- A call. No buffer accepts `2 ^ 16` values. -/
def Mavg.call (s : Mavg) : Call → Option Mavg
  | .addValue value => s.addValue val value
  | .reset startValue => (s.reset val (2 ^ 16) startValue).map Prod.snd

end
end AstroPowerBox.MovingAverage
