import AstroPowerBox.RingBuffer.Refine

/-!
# Iteration over the ring buffer

`peak_all_start` and `peak_all_next` walk over the unread elements with an index of their own. The
index meets the write index at the end of the walk, and at its beginning too if the buffer is full;
the start flag tells the two apart. A walk of any number of steps delivers the queue (`Walking`), and
leaves everything else as it was (`iteration`).
-/

namespace AstroPowerBox.RingBuffer
open Foundation

namespace RbBase

/-- The buffer with another state of the walk. -/
def withPeak (s : RbBase) (peakAllNdx : UInt16) (peakStart : Bool) : RbBase :=
  { s with peakAllNdx, peakStart }

/-- A call: an operation of the queue, or of the walk. -/
inductive Call where
  | op (op : Fifo.Op (List UInt8))
  | peakAllStart
  | peakAllNext

/-- The elements that a call adds. -/
def Call.values : Call → List (List UInt8)
  | .op o => o.values
  | _ => []

/-- The buffer after a call. -/
def call (s : RbBase) : Call → Option RbBase
  | .op o => (s.step o).map Prod.snd
  | .peakAllStart => some s.peakAllStart.2
  | .peakAllNext => s.peakAllNext.map Prod.snd

/-- The queue after a call. -/
def callQueue (n : ℕ) (q : List (List UInt8)) : Call → List (List UInt8)
  | .op o => (Fifo.step n q o).2
  | _ => q

/-- The next element, as a step of a machine. -/
def next (s : RbBase) (_ : Unit) : Option (Option (List UInt8) × RbBase) := s.peakAllNext

/-! ## The walk is not seen -/

section
variable {s : RbBase} {ndx i : UInt16} {start b : Bool}

/-- Storing does not look at the iterator. -/
lemma store_withPeak {x : List UInt8} : (s.withPeak ndx start).store i x
    = (s.store i x).map fun s => s.withPeak ndx start := by
  rw [store, store, apply_ite (Option.map _)]
  rfl

/-- Nor does a write. -/
lemma write_withPeak {x : List UInt8} : (s.withPeak ndx start).write x
    = (s.write x).map fun r => (r.1, r.2.withPeak ndx start) := by
  have hndx : (s.withPeak ndx start).writeNdx = s.writeNdx := rfl
  rw [write, write, hndx, store_withPeak, apply_ite (Option.map _), Option.map_map, Option.map_map]
  rfl

/-- No operation looks at the walk, or changes it. -/
lemma step_withPeak {op : Fifo.Op (List UInt8)} :
    (s.withPeak ndx start).step op = (s.step op).map fun r => (r.1, r.2.withPeak ndx start) := by
  have hpeak : (s.withPeak ndx start).peak = s.peak := rfl
  cases op with
  | push x => simp [step, write_withPeak, Function.comp_def]
  | pushLossy x =>
    have hlossy : (s.withPeak ndx start).writeLossy x
        = ((if s.full then s.incrementRdNdx else s).withPeak ndx start).write x := by
      rw [apply_ite fun s : RbBase => s.withPeak ndx start]
      rfl
    simp only [step, hlossy, write_withPeak, Option.map_map]
    rfl
  | pop =>
    simp only [step, read, hpeak, Option.map_map, Function.comp_def]
    congr
    funext element
    cases element <;> rfl
  | peek => simp [step, hpeak, Function.comp_def]
  | clear | isFull | isEmpty | length => rfl

lemma withPeak_self : s.withPeak s.peakAllNdx s.peakStart = s := rfl

/-- An operation does not move the iterator. -/
lemma peakAllNdx_step {op : Fifo.Op (List UInt8)} {r : Fifo.Result (List UInt8)} {s' : RbBase}
    (h : s.step op = some (r, s')) : s'.peakAllNdx = s.peakAllNdx := by
  have hself : (s.withPeak s.peakAllNdx s.peakStart).step op
      = (s.step op).map fun r => (r.1, r.2.withPeak s.peakAllNdx s.peakStart) := step_withPeak
  rw [withPeak_self, h, Option.map_some, Option.some.injEq, Prod.mk.injEq] at hself
  have hndx := congrArg peakAllNdx hself.2
  exact hndx

end

/-! ## The walk -/

namespace Represents
variable {s : RbBase} {q : List (List UInt8)} {ndx : UInt16} {start : Bool} {i : ℕ}

/-- A queue is represented wherever the iterator is. -/
lemma withPeak (h : Represents s q) : Represents (s.withPeak ndx start) q :=
  ⟨h.memOk, h.pos, h.size, h.fits, h.read_lt, h.write_eq, h.length_le, h.full_eq, h.empty_eq,
    h.contents⟩

/-- The slots from the read index on hold the queue. -/
lemma slot_eq (h : Represents s q) (hi : i < q.length) :
    some (s.slot ((s.readNdx.toNat + i) % s.numElements.toNat)) = q[i]? := by
  have hcontents := congrArg (fun l => l[i]?) h.contents
  simpa [window, hi] using hcontents

end Represents

/-- The walk over the queue has taken `i` steps, and stays at the end once it is there. -/
structure Walking (s : RbBase) (q : List (List UInt8)) (i : ℕ) : Prop where
  represents : Represents s q
  ndx_eq : s.peakAllNdx.toNat = (s.readNdx.toNat + min i q.length) % s.numElements.toNat
  start_eq : s.peakStart = decide (min i q.length = 0)

section
variable {s : RbBase} {q : List (List UInt8)} {n i : ℕ}

/-- The iterator starts at the oldest element. -/
lemma Represents.peakAllStart (h : Represents s q) : Walking s.peakAllStart.2 q 0 where
  represents := h.withPeak
  ndx_eq := by
    rw [Nat.zero_min, Nat.add_zero]
    exact (Nat.mod_eq_of_lt h.read_lt).symm
  start_eq := by
    rw [Nat.zero_min]
    rfl

/-- The walk ends when it has taken as many steps as there are elements. -/
lemma Walking.done_iff (h : Walking s q i) :
    (!s.memOk || s.empty || (!s.peakStart && s.peakAllNdx == s.writeNdx)) = true ↔ q.length ≤ i := by
  obtain ⟨h, hndx, hstart⟩ := h
  rw [h.memOk, h.empty_eq, hstart, beq_eq_decide, hndx, h.write_eq]
  rcases le_or_gt q.length i with hle | hlt
  · -- at the end the index is the write index, and the start flag is only set if nothing is there
    rw [min_eq_right hle]
    simp [hle]
  · have hle := h.length_le
    rw [min_eq_left hlt.le]
    rcases Nat.eq_zero_or_pos i with rfl | hpos
    · have hne := List.ne_nil_of_length_pos hlt
      simp [hne]
    · have hne : (s.readNdx.toNat + i) % s.numElements.toNat
          ≠ (s.readNdx.toNat + q.length) % s.numElements.toNat := add_mod_ne hlt (by omega)
      simp [hne, hlt.not_ge, (hpos.trans hlt).ne']

/-- One step of the walk. -/
lemma Walking.next (h : Walking s q i) : ∃ ndx start,
    s.next () = some (q[i]?, s.withPeak ndx start) ∧ Walking (s.withPeak ndx start) q (i + 1) := by
  rcases le_or_gt q.length i with hle | hlt
  · refine ⟨s.peakAllNdx, s.peakStart, ?_, ?_⟩
    · rw [RbBase.next, peakAllNext, if_pos (h.done_iff.mpr hle), List.getElem?_eq_none hle]
      rfl
    · have hmin : min (i + 1) q.length = min i q.length := by omega
      exact ⟨h.represents, hmin ▸ h.ndx_eq, hmin ▸ h.start_eq⟩
  · have hndx := h.ndx_eq
    rw [min_eq_left hlt.le] at hndx
    have hlt' : s.peakAllNdx.toNat < s.numElements.toNat :=
      hndx ▸ Nat.mod_lt _ h.represents.pos
    refine ⟨if s.peakAllNdx + 1 ≥ s.numElements then 0 else s.peakAllNdx + 1, false, ?_, ?_⟩
    · rw [RbBase.next, peakAllNext, if_neg (mt h.done_iff.mp hlt.not_ge),
        h.represents.load_eq hlt', hndx, ← h.represents.slot_eq hlt]
      rfl
    · exact {
        represents := h.represents.withPeak
        ndx_eq := by
          rw [min_eq_left (Nat.succ_le_of_lt hlt)]
          exact (toNat_next hlt').trans (hndx ▸ nextIndex_mod h.represents.pos)
        start_eq := by
          rw [min_eq_left (Nat.succ_le_of_lt hlt)]
          rfl }

/-- The iterator goes through the queue one by one, by induction on the calls. -/
lemma Walking.exec_next (h : Walking s q i) (k : ℕ) : ∃ ndx start,
    exec RbBase.next s (List.replicate k ())
      = some ((List.range k).map fun j => q[i + j]?, s.withPeak ndx start) := by
  induction k generalizing s i with
  | zero => exact ⟨s.peakAllNdx, s.peakStart, rfl⟩
  | succ k ih =>
    obtain ⟨ndx, start, hnext, h'⟩ := h.next
    obtain ⟨ndx', start', hexec⟩ := ih h'
    refine ⟨ndx', start', ?_⟩
    have hshift : ∀ j, q[i + (j + 1)]? = q[i + 1 + j]? := by
      intro j
      rw [Nat.add_right_comm, Nat.add_assoc]
    simp [List.replicate_succ, exec, hnext, hexec, List.range_succ_eq_map, hshift]
    rfl

end

/-! ## Every reachable buffer -/

section
variable {s : RbBase} {q : List (List UInt8)} {n : UInt16}

/-- A call keeps the queue, and the walk inside the buffer. -/
lemma call_sim (h : Represents s q) (hndx : s.peakAllNdx.toNat < s.numElements.toNat) (c : Call)
    (hc : ∀ x ∈ c.values, x.length = s.elementSize.toNat) :
    ∃ s', s.call c = some s' ∧ Represents s' (callQueue s.numElements.toNat q c) ∧
      s'.elementSize = s.elementSize ∧ s'.numElements = s.numElements ∧
      s'.peakAllNdx.toNat < s'.numElements.toNat := by
  cases c with
  | op o =>
    obtain ⟨s', hstep, hrep, hsize, hnum⟩ := h.step_sim o hc
    refine ⟨s', by rw [call, hstep]; rfl, hrep, hsize, hnum, ?_⟩
    rwa [peakAllNdx_step hstep, hnum]
  | peakAllStart => exact ⟨_, rfl, h.withPeak, rfl, rfl, h.read_lt⟩
  | peakAllNext =>
    rw [call, peakAllNext, h.load_eq hndx]
    split
    · exact ⟨s, rfl, h, rfl, rfl, hndx⟩
    · refine ⟨_, rfl, h.withPeak, rfl, rfl, ?_⟩
      exact (toNat_next hndx).trans_lt (nextIndex_lt h.pos)

/-- No run of calls faults, and every run keeps the queue. -/
lemma calls_sim (h : Represents s q) (hndx : s.peakAllNdx.toNat < s.numElements.toNat)
    {calls : List Call} (hcalls : ∀ c ∈ calls, ∀ x ∈ c.values, x.length = s.elementSize.toNat) :
    ∃ s', calls.foldlM call s = some s' ∧
      Represents s' (calls.foldl (callQueue s.numElements.toNat) q) := by
  induction calls generalizing s q with
  | nil => exact ⟨s, rfl, h⟩
  | cons c calls ih =>
    obtain ⟨s', hcall, hrep, hsize, hnum, hndx'⟩ := call_sim h hndx c (hcalls c List.mem_cons_self)
    obtain ⟨s'', hcalls', hrep'⟩ := ih hrep hndx' fun c' hc' => by
      rw [hsize]
      exact hcalls c' (List.mem_cons_of_mem c hc')
    refine ⟨s'', by simp [hcall, hcalls'], ?_⟩
    rwa [hnum] at hrep'

end

/-- In every buffer that any calls have led to, `peak_all_start` returns the number of unread elements,
the calls of `peak_all_next` after it return them one after the other and then nothing, and whatever is
called afterwards answers as if they had not been made. -/
theorem iteration (elementSize numElements : UInt16) (allocated : Bool) (hn : 1 ≤ numElements)
    (hok : (RbBase.new elementSize numElements allocated).memOk = true) (calls : List Call)
    (hcalls : ∀ c ∈ calls, ∀ x ∈ c.values, x.length = elementSize.toNat) :
    let q := calls.foldl (callQueue numElements.toNat) []
    ∃ s, calls.foldlM call (.new elementSize numElements allocated) = some s ∧ Represents s q ∧
      s.peakAllStart.1.toNat = q.length ∧
      ∀ k, ∃ ndx start,
        exec next s.peakAllStart.2 (List.replicate k ())
          = some ((List.range k).map fun j => q[j]?, s.withPeak ndx start) ∧
        ∀ ops, (exec step (s.withPeak ndx start) ops).map Prod.fst = (exec step s ops).map Prod.fst := by
  intro q
  have hsize : (RbBase.new elementSize numElements allocated).elementSize = elementSize :=
    sizes_new.1
  have hnum : (RbBase.new elementSize numElements allocated).numElements = numElements :=
    sizes_new.2
  have hnew := Represents.new hn hok
  have hndx : (RbBase.new elementSize numElements allocated).peakAllNdx.toNat
      < (RbBase.new elementSize numElements allocated).numElements.toNat := by
    unfold RbBase.new
    split <;> exact UInt16.le_iff_toNat_le.mp hn
  obtain ⟨s, hrun, hrep⟩ := calls_sim hnew hndx (by rwa [hsize])
  rw [hnum] at hrep
  refine ⟨s, hrun, hrep, hrep.remainingElm, fun k => ?_⟩
  obtain ⟨ndx, start, hexec⟩ := hrep.peakAllStart.exec_next k
  simp only [Nat.zero_add] at hexec
  refine ⟨ndx, start, hexec, fun ops => ?_⟩
  rw [exec_of_commutes fun _ _ => step_withPeak, Option.map_map]
  rfl

/-- A full buffer that has wrapped around. -/
theorem iteration_wrapped :
    ∃ s, [Call.op (.push [1]), .op (.push [2]), .op .pop, .op (.push [3])].foldlM call (.new 1 2 true)
        = some s ∧ Represents s [[2], [3]] ∧ s.peakAllStart.1.toNat = 2 ∧
      ∀ k, ∃ ndx start,
        exec next s.peakAllStart.2 (List.replicate k ())
          = some ((List.range k).map fun j => [[2], [3]][j]?, s.withPeak ndx start) ∧
        ∀ ops, (exec step (s.withPeak ndx start) ops).map Prod.fst = (exec step s ops).map Prod.fst :=
  iteration 1 2 true (by decide) rfl
    [.op (.push [1]), .op (.push [2]), .op .pop, .op (.push [3])]
    (by simp [Call.values, Fifo.Op.values])

end RbBase
end AstroPowerBox.RingBuffer
