import Mathlib.Algebra.Order.Ring.Nat

/-!
# Ring buffer

Source `lib/ringbuffer/rb.cpp` and `rb.h`. The elements lie one behind the other in `rbData`, the
allocated bytes; two 16-bit indices say where to read and to write, two flags tell full from empty. An
operation is `none` if it accesses a byte outside `rbData` or outside the element of the caller.

The offset of an element is added to a 32-bit address, so what counts is the product modulo
`2 ^ 32`.
-/

namespace AstroPowerBox.RingBuffer

structure RbBase where
  full : Bool := false
  empty : Bool := true
  memOk : Bool := false
  elementSize : UInt16
  numElements : UInt16
  readNdx : UInt16 := 0
  writeNdx : UInt16 := 0
  rbData : List UInt8 := []
  peakAllNdx : UInt16 := 0
  peakStart : Bool := false
deriving DecidableEq

namespace RbBase

/-- The constructor, with the outcome of `calloc`: it fails at the latest where the size does not fit
into `size_t`. -/
def new (elementSize numElements : UInt16) (allocated : Bool) : RbBase :=
  if allocated ∧ numElements.toNat * elementSize.toNat < 2 ^ 32 then
    { elementSize, numElements, memOk := true
      rbData := .replicate (numElements.toNat * elementSize.toNat) 0 }
  else { elementSize, numElements }

/-- The offset of an element. -/
def offset (s : RbBase) (ndx : UInt16) : ℕ := (s.elementSize.toUInt32 * ndx.toUInt32).toNat

/-- `memcpy` of an element out of the buffer. -/
def load (s : RbBase) (ndx : UInt16) : Option (List UInt8) :=
  if s.offset ndx + s.elementSize.toNat ≤ s.rbData.length then
    some ((s.rbData.drop (s.offset ndx)).take s.elementSize.toNat)
  else none

/-- `memcpy` of an element into the buffer. -/
def store (s : RbBase) (ndx : UInt16) (element : List UInt8) : Option RbBase :=
  if s.offset ndx + s.elementSize.toNat ≤ s.rbData.length ∧ s.elementSize.toNat ≤ element.length then
    some { s with
      rbData := s.rbData.take (s.offset ndx) ++ element.take s.elementSize.toNat
        ++ s.rbData.drop (s.offset ndx + s.elementSize.toNat) }
  else none

def remainingElm (s : RbBase) : UInt16 :=
  if !s.empty then
    if !s.full then
      if s.writeNdx ≥ s.readNdx then s.writeNdx - s.readNdx
      else s.numElements - s.readNdx + s.writeNdx
    else s.numElements
  else 0

/-- Source `peak`: the element, if it returns true. -/
def peak (s : RbBase) : Option (Option (List UInt8)) :=
  if s.empty || !s.memOk then some none else (s.load s.readNdx).map some

def incrementRdNdx (s : RbBase) : RbBase :=
  let readNdx := if s.readNdx + 1 ≥ s.numElements then 0 else s.readNdx + 1
  { s with readNdx, full := false, empty := s.empty || readNdx == s.writeNdx }

def incrementWrNdx (s : RbBase) : RbBase :=
  let writeNdx := if s.writeNdx + 1 ≥ s.numElements then 0 else s.writeNdx + 1
  { s with writeNdx, empty := false, full := if writeNdx == s.readNdx then true else s.full }

/-- Source `read`: the element, if it returns true. -/
def read (s : RbBase) : Option (Option (List UInt8) × RbBase) :=
  s.peak.map fun element => (element, if element.isSome then s.incrementRdNdx else s)

def write (s : RbBase) (element : List UInt8) : Option (Bool × RbBase) :=
  if s.full || !s.memOk then some (false, s)
  else (s.store s.writeNdx element).map fun s => (true, s.incrementWrNdx)

def writeLossy (s : RbBase) (element : List UInt8) : Option (Bool × RbBase) :=
  (if s.full then s.incrementRdNdx else s).write element

def clear (s : RbBase) : RbBase :=
  { s with readNdx := 0, writeNdx := 0, full := false, empty := true }

def peakAllStart (s : RbBase) : UInt16 × RbBase :=
  (s.remainingElm, { s with peakAllNdx := s.readNdx, peakStart := true })

/-- Source `peak_all_next`: the element, if it returns true. -/
def peakAllNext (s : RbBase) : Option (Option (List UInt8) × RbBase) :=
  if !s.memOk || s.empty || (!s.peakStart && s.peakAllNdx == s.writeNdx) then some (none, s)
  else (s.load s.peakAllNdx).map fun element =>
    (some element, { s with
      peakStart := false
      peakAllNdx := if s.peakAllNdx + 1 ≥ s.numElements then 0 else s.peakAllNdx + 1 })

end RbBase
end AstroPowerBox.RingBuffer
