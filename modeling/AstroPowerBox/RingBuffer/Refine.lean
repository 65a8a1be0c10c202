import AstroPowerBox.Foundation.Fifo
import AstroPowerBox.RingBuffer.Rb

/-!
# The ring buffer is a bounded queue

`Represents s q` says that the buffer `s` holds the queue `q`: its elements lie in the slots from the
read index on, the write index is the slot behind them, and the flags tell the two cases apart in
which the indices agree. Every operation keeps it and answers as the queue does (`step_sim`), so every
run does (`rb_refines_fifo`).
-/

namespace AstroPowerBox.RingBuffer
open Foundation

namespace RbBase

/-- The operations, under the names of the queue. -/
def step (s : RbBase) : Fifo.Op (List UInt8) → Option (Fifo.Result (List UInt8) × RbBase)
  | .push x => (s.write x).map fun r => (.done r.1, r.2)
  | .pushLossy x => (s.writeLossy x).map fun r => (.done r.1, r.2)
  | .pop => s.read.map fun r => (.element r.1, r.2)
  | .peek => s.peak.map fun r => (.element r, s)
  | .clear => some (.cleared, s.clear)
  | .isFull => some (.done s.full, s)
  | .isEmpty => some (.done s.empty, s)
  | .length => some (.count s.remainingElm.toNat, s)

/-- The bytes of a slot. -/
def slot (s : RbBase) (i : ℕ) : List UInt8 :=
  (s.rbData.drop (i * s.elementSize.toNat)).take s.elementSize.toNat

/-- The buffer holds the queue. -/
structure Represents (s : RbBase) (q : List (List UInt8)) : Prop where
  memOk : s.memOk = true
  pos : 0 < s.numElements.toNat
  size : s.rbData.length = s.numElements.toNat * s.elementSize.toNat
  fits : s.numElements.toNat * s.elementSize.toNat < 2 ^ 32
  read_lt : s.readNdx.toNat < s.numElements.toNat
  write_eq : s.writeNdx.toNat = (s.readNdx.toNat + q.length) % s.numElements.toNat
  length_le : q.length ≤ s.numElements.toNat
  full_eq : s.full = decide (q.length = s.numElements.toNat)
  empty_eq : s.empty = decide (q.length = 0)
  contents : window s.slot s.numElements.toNat s.readNdx.toNat q.length = q

/-! ## Indices -/

/-- The index of the source is the one of the library. -/
lemma toNat_next {n i : UInt16} (h : i.toNat < n.toNat) :
    (if i + 1 ≥ n then 0 else i + 1).toNat = nextIndex n.toNat i.toNat := by
  have hn := n.toNat_lt
  have hsucc : (i + 1).toNat = i.toNat + 1 := by
    rw [UInt16.toNat_add, UInt16.toNat_one]
    omega
  unfold nextIndex
  by_cases hwrap : i + 1 ≥ n
  · have hwrap' : i.toNat + 1 ≥ n.toNat := by rwa [ge_iff_le, UInt16.le_iff_toNat_le, hsucc] at hwrap
    rw [if_pos hwrap, if_pos hwrap', UInt16.toNat_zero]
  · have hwrap' : ¬ i.toNat + 1 ≥ n.toNat := by rwa [ge_iff_le, UInt16.le_iff_toNat_le, hsucc] at hwrap
    rw [if_neg hwrap, if_neg hwrap', hsucc]

/-- Indices are equal if their numbers are. -/
lemma beq_eq_decide {i j : UInt16} : (i == j) = decide (i.toNat = j.toNat) := by
  rw [Bool.eq_iff_iff]
  simp [UInt16.toNat_inj]

namespace Represents
variable {s : RbBase} {q : List (List UInt8)} {x : List UInt8} {ndx : UInt16}

/-- The product of an offset does not wrap. -/
lemma offset_eq (h : Represents s q) (hndx : ndx.toNat < s.numElements.toNat) :
    s.offset ndx = ndx.toNat * s.elementSize.toNat := by
  have hle : ndx.toNat * s.elementSize.toNat ≤ s.numElements.toNat * s.elementSize.toNat :=
    Nat.mul_le_mul_right _ hndx.le
  have hfits := h.fits
  rw [offset, UInt32.toNat_mul, UInt16.toNat_toUInt32, UInt16.toNat_toUInt32, Nat.mul_comm,
    Nat.mod_eq_of_lt (by omega)]

/-- An element lies inside the allocated bytes. -/
lemma offset_le (h : Represents s q) (hndx : ndx.toNat < s.numElements.toNat) :
    s.offset ndx + s.elementSize.toNat ≤ s.rbData.length := by
  rw [h.offset_eq hndx, h.size, ← Nat.succ_mul]
  exact Nat.mul_le_mul_right _ hndx

/-- An index in range is inside the allocation. -/
lemma load_eq (h : Represents s q) (hndx : ndx.toNat < s.numElements.toNat) :
    s.load ndx = some (s.slot ndx.toNat) := by
  rw [load, if_pos (h.offset_le hndx), h.offset_eq hndx, slot]

/-- A write to a slot changes that slot only. -/
lemma store_eq (h : Represents s q) (hndx : ndx.toNat < s.numElements.toNat)
    (hx : x.length = s.elementSize.toNat) :
    ∃ rbData, s.store ndx x = some { s with rbData } ∧ rbData.length = s.rbData.length ∧
      ∀ j, ({ s with rbData } : RbBase).slot j = if j = ndx.toNat then x else s.slot j := by
  have hle := h.offset_le hndx
  refine ⟨_, if_pos ⟨hle, hx.ge⟩, ?_, fun j => ?_⟩
  · simp only [List.length_append, List.length_take, List.length_drop]
    omega
  · rw [h.offset_eq hndx] at hle ⊢
    simp only [slot, ← hx, List.take_length] at hle ⊢
    exact slot_splice j hle

/-- The write index is in range. -/
lemma write_lt (h : Represents s q) : s.writeNdx.toNat < s.numElements.toNat := by
  rw [h.write_eq]
  exact Nat.mod_lt _ h.pos

/-! ## The operations -/

/-- A new buffer represents the empty queue. -/
lemma new {elementSize numElements : UInt16} {allocated : Bool} (hn : 1 ≤ numElements)
    (hok : (RbBase.new elementSize numElements allocated).memOk = true) :
    Represents (RbBase.new elementSize numElements allocated) [] := by
  have hpos : 0 < numElements.toNat := UInt16.le_iff_toNat_le.mp hn
  unfold RbBase.new at hok ⊢
  split_ifs at hok ⊢ with hfits
  · exact {
      memOk := rfl
      pos := hpos
      size := List.length_replicate
      fits := hfits.2
      read_lt := hpos
      write_eq := (Nat.zero_mod _).symm
      length_le := Nat.zero_le _
      full_eq := by simp [hpos.ne]
      empty_eq := rfl
      contents := rfl }

/-- After a write the write index is behind the new element. -/
lemma toNat_writeNdx_next (h : Represents s q) :
    s.incrementWrNdx.writeNdx.toNat
      = (s.readNdx.toNat + (q.length + 1)) % s.numElements.toNat := by
  rw [incrementWrNdx, toNat_next h.write_lt, h.write_eq, nextIndex_mod h.pos]

/-- Adding an element behind the others. -/
lemma write (h : Represents s q) (hlt : q.length < s.numElements.toNat)
    (hx : x.length = s.elementSize.toNat) :
    ∃ s', s.write x = some (true, s') ∧ Represents s' (q ++ [x]) ∧
      s'.elementSize = s.elementSize ∧ s'.numElements = s.numElements := by
  obtain ⟨rbData, hstore, hlen, hslot⟩ := h.store_eq h.write_lt hx
  have hfull : s.full = false := by simp [h.full_eq, hlt.ne]
  refine ⟨({ s with rbData } : RbBase).incrementWrNdx, ?_, ?_, rfl, rfl⟩
  · simp [RbBase.write, hfull, h.memOk, hstore]
  · have hnext := h.toNat_writeNdx_next
    have hround := add_mod_eq_self_iff h.read_lt (Nat.succ_le_of_lt hlt)
    exact {
      memOk := h.memOk
      pos := h.pos
      size := hlen.trans h.size
      fits := h.fits
      read_lt := h.read_lt
      write_eq := by
        rw [List.length_append, List.length_singleton]
        exact hnext
      length_le := by
        rw [List.length_append, List.length_singleton]
        exact hlt
      full_eq := by
        change (if s.incrementWrNdx.writeNdx == s.readNdx then true else s.full) = _
        rw [beq_eq_decide, hnext, hfull, List.length_append, List.length_singleton]
        simp [hround, incrementWrNdx]
      empty_eq := by simp [incrementWrNdx]
      contents := by
        have hset : window ({ s with rbData } : RbBase).slot s.numElements.toNat s.readNdx.toNat
            (q.length + 1) = window s.slot s.numElements.toNat s.readNdx.toNat q.length ++ [x] :=
          window_of_set hlt fun j _ => by rw [hslot, h.write_eq]
        rw [h.contents] at hset
        rw [List.length_append, List.length_singleton]
        exact hset }

/-- A full buffer refuses an element. -/
lemma write_full (h : Represents s q) (hfull : q.length = s.numElements.toNat) :
    s.write x = some (false, s) := by
  rw [RbBase.write, h.full_eq, if_pos (by simp [hfull])]

/-- The read index moves on to the rest of the queue. -/
lemma incrementRdNdx (h : Represents s (x :: q)) : Represents s.incrementRdNdx q := by
  have hlt : q.length < s.numElements.toNat := h.length_le
  have hnext : s.incrementRdNdx.readNdx.toNat = nextIndex s.numElements.toNat s.readNdx.toNat := by
    rw [RbBase.incrementRdNdx, toNat_next h.read_lt]
  have hwrite : s.writeNdx.toNat
      = (s.incrementRdNdx.readNdx.toNat + q.length) % s.numElements.toNat := by
    rw [h.write_eq, hnext, nextIndex_eq h.read_lt, Nat.mod_add_mod, List.length_cons]
    congr 1
    omega
  exact {
    memOk := h.memOk
    pos := h.pos
    size := h.size
    fits := h.fits
    read_lt := by
      rw [hnext]
      exact nextIndex_lt h.pos
    write_eq := hwrite
    length_le := hlt.le
    full_eq := by simp [RbBase.incrementRdNdx, hlt.ne]
    empty_eq := by
      change (s.empty || s.incrementRdNdx.readNdx == s.writeNdx) = _
      have hround := add_mod_eq_self_iff (hnext ▸ nextIndex_lt h.pos) hlt.le
      rw [BEq.comm, beq_eq_decide, hwrite, h.empty_eq]
      simp [hround, hlt.ne]
    contents := by
      have hcontents := h.contents
      rw [List.length_cons, window_cons h.read_lt, List.cons.injEq, ← hnext] at hcontents
      exact hcontents.2 }

/-- The first element, if there is one. -/
lemma peak (h : Represents s q) : s.peak = some q.head? := by
  cases q with
  | nil => simp [RbBase.peak, h.empty_eq]
  | cons x q =>
    have hcontents := h.contents
    rw [List.length_cons, window_cons h.read_lt, List.cons.injEq] at hcontents
    simp [RbBase.peak, h.empty_eq, h.memOk, h.load_eq h.read_lt, hcontents.1]

/-- A read takes the first element. -/
lemma read (h : Represents s q) :
    ∃ s', s.read = some (q.head?, s') ∧ Represents s' q.tail ∧
      s'.elementSize = s.elementSize ∧ s'.numElements = s.numElements := by
  cases q with
  | nil => exact ⟨s, by simp [RbBase.read, h.peak], h, rfl, rfl⟩
  | cons x q =>
    exact ⟨s.incrementRdNdx, by simp [RbBase.read, h.peak], h.incrementRdNdx, rfl, rfl⟩

/-- A full buffer makes room first. -/
lemma writeLossy (h : Represents s q) (hx : x.length = s.elementSize.toNat) :
    ∃ s', s.writeLossy x = some (true, s') ∧
      Represents s' ((if q.length = s.numElements.toNat then q.tail else q) ++ [x]) ∧
      s'.elementSize = s.elementSize ∧ s'.numElements = s.numElements := by
  unfold RbBase.writeLossy
  rw [h.full_eq]
  by_cases hfull : q.length = s.numElements.toNat
  · cases q with
    | nil => exact absurd hfull.symm h.pos.ne'
    | cons y q =>
      have hlt : q.length < s.incrementRdNdx.numElements.toNat := h.length_le
      obtain ⟨s', hwrite, hrep, hsize, hnum⟩ := h.incrementRdNdx.write hlt hx
      exact ⟨s', by simpa [hfull] using hwrite, by simpa [hfull] using hrep, hsize, hnum⟩
  · simpa [hfull] using h.write (lt_of_le_of_ne h.length_le hfull) hx

/-- A cleared buffer represents the empty queue. -/
lemma clear (h : Represents s q) : Represents s.clear [] where
  memOk := h.memOk
  pos := h.pos
  size := h.size
  fits := h.fits
  read_lt := h.pos
  write_eq := (Nat.zero_mod _).symm
  length_le := Nat.zero_le _
  full_eq := by simp [RbBase.clear, h.pos.ne]
  empty_eq := rfl
  contents := rfl

/-- The number of elements, also when the indices have come round. -/
lemma remainingElm (h : Represents s q) : s.remainingElm.toNat = q.length := by
  have hread := h.read_lt
  have hwrite := h.write_eq
  have hle := h.length_le
  have hn := s.numElements.toNat_lt
  rw [add_mod_eq_ite hread hle] at hwrite
  unfold RbBase.remainingElm
  rw [h.empty_eq, h.full_eq]
  by_cases hempty : q.length = 0
  · simp [hempty]
  · by_cases hfull : q.length = s.numElements.toNat
    · simp [hfull, h.pos.ne']
    · simp only [hempty, hfull, decide_false, Bool.not_false, if_true]
      split_ifs with hge
      · rw [UInt16.toNat_sub_of_le _ _ hge]
        rw [ge_iff_le, UInt16.le_iff_toNat_le] at hge
        split_ifs at hwrite <;> omega
      · rw [ge_iff_le, UInt16.le_iff_toNat_le] at hge
        rw [UInt16.toNat_add, UInt16.toNat_sub]
        split_ifs at hwrite <;> omega

/-- Every operation answers as the queue does, and keeps the queue. -/
theorem step_sim (h : Represents s q) (op : Fifo.Op (List UInt8))
    (hop : ∀ x ∈ op.values, x.length = s.elementSize.toNat) :
    ∃ s', s.step op = some ((Fifo.step s.numElements.toNat q op).1, s') ∧
      Represents s' (Fifo.step s.numElements.toNat q op).2 ∧
      s'.elementSize = s.elementSize ∧ s'.numElements = s.numElements := by
  cases op with
  | push x =>
    have hx : x.length = s.elementSize.toNat := hop x List.mem_cons_self
    by_cases hlt : q.length < s.numElements.toNat
    · obtain ⟨s', hwrite, hrep⟩ := h.write hlt hx
      exact ⟨s', by simp [RbBase.step, Fifo.step, hwrite, hlt], by simpa [Fifo.step, hlt] using hrep⟩
    · have hfull : q.length = s.numElements.toNat := le_antisymm h.length_le (not_lt.mp hlt)
      refine ⟨s, ?_, by simpa [Fifo.step, hlt] using h, rfl, rfl⟩
      simp [RbBase.step, Fifo.step, h.write_full hfull, hlt]
  | pushLossy x =>
    obtain ⟨s', hwrite, hrep⟩ := h.writeLossy (hop x List.mem_cons_self)
    exact ⟨s', by simp [RbBase.step, Fifo.step, hwrite], hrep⟩
  | pop =>
    obtain ⟨s', hread, hrep⟩ := h.read
    exact ⟨s', by simp [RbBase.step, Fifo.step, hread], hrep⟩
  | peek => exact ⟨s, by simp [RbBase.step, Fifo.step, h.peak], h, rfl, rfl⟩
  | clear => exact ⟨s.clear, rfl, h.clear, rfl, rfl⟩
  | isFull => exact ⟨s, by rw [RbBase.step, h.full_eq]; rfl, h, rfl, rfl⟩
  | isEmpty => exact ⟨s, by rw [RbBase.step, h.empty_eq]; rfl, h, rfl, rfl⟩
  | length => exact ⟨s, by rw [RbBase.step, h.remainingElm]; rfl, h, rfl, rfl⟩

end Represents

/-! ## A failed allocation -/

/-- What an operation answers without memory. -/
def failed : Fifo.Op (List UInt8) → Fifo.Result (List UInt8)
  | .push _ | .pushLossy _ | .isFull => .done false
  | .pop | .peek => .element none
  | .clear => .cleared
  | .isEmpty => .done true
  | .length => .count 0

/-- Without memory the buffer stays as the constructor leaves it. -/
lemma step_failed {elementSize numElements : UInt16} {allocated : Bool}
    (hfail : (RbBase.new elementSize numElements allocated).memOk = false)
    (op : Fifo.Op (List UInt8)) :
    (RbBase.new elementSize numElements allocated).step op
      = some (failed op, RbBase.new elementSize numElements allocated) := by
  unfold RbBase.new at hfail ⊢
  split_ifs at hfail ⊢
  cases op <;> rfl

/-- The sizes are those that were asked for. -/
lemma sizes_new {elementSize numElements : UInt16} {allocated : Bool} :
    (RbBase.new elementSize numElements allocated).elementSize = elementSize ∧
      (RbBase.new elementSize numElements allocated).numElements = numElements := by
  unfold RbBase.new
  split
  · exact ⟨rfl, rfl⟩
  · exact ⟨rfl, rfl⟩

/-- The buffer is a queue of at most `numElements` elements: in every run no access leaves the
allocated bytes, and every operation answers as the queue does. If the allocation has failed, every
operation reports failure and the buffer stays empty. -/
theorem rb_refines_fifo (elementSize numElements : UInt16) (allocated : Bool)
    (hn : 1 ≤ numElements) (ops : List (Fifo.Op (List UInt8)))
    (hops : ∀ op ∈ ops, ∀ x ∈ op.values, x.length = elementSize.toNat) :
    let s0 := RbBase.new elementSize numElements allocated
    let fifo := results (Fifo.step numElements.toNat) [] ops
    (s0.memOk = true →
      ∃ s, exec step s0 ops = some (fifo.1, s) ∧ Represents s fifo.2 ∧
        fifo.2.length ≤ numElements.toNat) ∧
    (s0.memOk = false → exec step s0 ops = some (ops.map failed, s0)) := by
  intro s0 fifo
  refine ⟨fun hok => ?_, fun hfail => exec_of_fixed (step_failed hfail)⟩
  -- the sizes stay what they are, so the abstract queue has the same bound throughout
  let Rel := fun (s : RbBase) q =>
    Represents s q ∧ s.elementSize = elementSize ∧ s.numElements = numElements
  have sim : ∀ s q op, op ∈ ops → Rel s q → ∃ s',
      step s op = some ((Fifo.step numElements.toNat q op).1, s') ∧
        Rel s' (Fifo.step numElements.toNat q op).2 := by
    rintro s q op hop ⟨hrep, hsize, hnum⟩
    obtain ⟨s', hstep, hrep', hsize', hnum'⟩ :=
      hrep.step_sim op fun x hx => by rw [hsize, hops op hop x hx]
    rw [hnum] at hstep hrep'
    exact ⟨s', hstep, hrep', hsize'.trans hsize, hnum'.trans hnum⟩
  obtain ⟨s, hexec, hrep, -, hnum⟩ :=
    exec_of_simulation Rel sim ⟨Represents.new hn hok, sizes_new⟩
  exact ⟨s, hexec, hrep, hnum ▸ hrep.length_le⟩

/-- A buffer of two elements of two bytes is filled, overwritten and read. -/
theorem rb_refines_fifo_two :
    ∃ s, exec step (.new 2 2 true) [.push [1, 2], .push [3, 4], .push [5, 6], .pushLossy [7, 8], .pop]
        = some ([.done true, .done true, .done false, .done true, .element (some [3, 4])], s) ∧
      Represents s [[7, 8]] ∧ [[7, 8]].length ≤ (2 : UInt16).toNat :=
  (rb_refines_fifo 2 2 true (by decide)
    [.push [1, 2], .push [3, 4], .push [5, 6], .pushLossy [7, 8], .pop] (by simp [Fifo.Op.values])).1 rfl

end RbBase
end AstroPowerBox.RingBuffer
