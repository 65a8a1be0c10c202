import AstroPowerBox.Foundation.Run
import AstroPowerBox.MovingAverage.Mean

/-!
# An average without room

`addValue` looks neither at the result of the write nor at the number of elements that it divides by.
A buffer without memory or without elements stays `Useless` whatever is called, and reports no elements
after every write; `safe_iff` says that these are the only averages that go wrong, and that they go
wrong at every value.
-/

namespace AstroPowerBox.MovingAverage
open Foundation RingBuffer

section
variable (val : UInt32 → ℚ)

/-- `addValue` does not divide by zero, and leaves sum and average alone if the buffer does not accept
the value. -/
def AddsSafely (s : Mavg) (value : UInt32) : Prop :=
  ∃ s₁ accepted buffer s', s.evict val = some s₁ ∧
    s₁.buffer.write (bytes value) = some (accepted, buffer) ∧ s.addValue val value = some s' ∧
    buffer.remainingElm ≠ 0 ∧
    (accepted = false → s'.sum = s.sum ∧ s'.getAvgValue = s.getAvgValue)

/-- Every value of the run is added safely. -/
def Safe (size : ℕ) (allocated : Bool) (calls : List Call) : Prop :=
  EveryStep (fun hist c => ∀ value, c = .addValue value →
    ∃ s, hist.foldlM (Mavg.call val) (.new size allocated) = some s ∧ AddsSafely val s value) calls

/-- The buffer has no memory and is empty, or has no elements. -/
def Useless (b : RbBase) : Prop :=
  (b.memOk = false ∧ b.empty = true ∧ b.full = false) ∨
    (b.numElements = 0 ∧ b.readNdx = 0 ∧ b.writeNdx = 0)

variable {val} {b b' : RbBase} {s s' : Mavg} {size n : ℕ} {allocated : Bool} {value : UInt32}
  {w : List UInt32} {calls : List Call}

namespace Useless

/-- It holds no elements. -/
lemma remainingElm (h : Useless b) : b.remainingElm = 0 := by
  rw [RbBase.remainingElm]
  obtain ⟨-, hempty, -⟩ | ⟨hnum, hread, hwrite⟩ := h
  · simp [hempty]
  · simp [hnum, hread, hwrite]

/-- A write stores nothing, whatever it answers. -/
lemma write {x : List UInt8} {accepted : Bool} (h : Useless b)
    (hwrite : b.write x = some (accepted, b')) : Useless b' := by
  rw [RbBase.write] at hwrite
  split at hwrite
  case isTrue =>
    cases hwrite
    exact h
  case isFalse haccepts =>
    obtain ⟨hmem, -⟩ | ⟨hnum, hread, hwrites⟩ := h
    · simp [hmem] at haccepts
    · -- the indices have nowhere to go
      obtain ⟨s, hstore, heq⟩ := Option.map_eq_some_iff.mp hwrite
      cases heq
      rw [RbBase.store] at hstore
      split at hstore <;> cases hstore
      exact .inr ⟨hnum, hread, by simp [RbBase.incrementWrNdx, hnum]⟩

/-- A read finds nothing. -/
lemma read {element : Option (List UInt8)} (h : Useless b)
    (hread : b.read = some (element, b')) : Useless b' := by
  obtain ⟨element', hpeak, heq⟩ := Option.map_eq_some_iff.mp hread
  cases heq
  obtain ⟨hmem, hempty, hfull⟩ | ⟨hnum, hreads, hwrite⟩ := h
  · simp only [RbBase.peak, hempty, Bool.true_or, if_true, Option.some.injEq] at hpeak
    rw [← hpeak]
    exact .inl ⟨hmem, hempty, hfull⟩
  · split
    · exact .inr ⟨hnum, by simp [RbBase.incrementRdNdx, hnum], hwrite⟩
    · exact .inr ⟨hnum, hreads, hwrite⟩

/-- Clearing leaves it useless. -/
lemma clear (h : Useless b) : Useless b.clear := by
  obtain ⟨hmem, -, -⟩ | ⟨hnum, -, -⟩ := h
  · exact .inl ⟨hmem, rfl, rfl⟩
  · exact .inr ⟨hnum, rfl, rfl⟩

/-- Taking out the oldest value leaves it useless. -/
lemma evict (h : Useless s.buffer) (hevict : s.evict val = some s') : Useless s'.buffer := by
  rw [Mavg.evict] at hevict
  split at hevict
  · simp only [Option.bind_eq_bind, Option.bind_eq_some_iff] at hevict
    obtain ⟨⟨element, buffer⟩, hread, _, -, heq⟩ := hevict
    cases heq
    exact h.read hread
  · cases hevict
    exact h

/-- Adding a value leaves it useless. -/
lemma addValue (h : Useless s.buffer) (hadd : s.addValue val value = some s') :
    Useless s'.buffer := by
  simp only [Mavg.addValue, Option.bind_eq_bind, Option.bind_eq_some_iff] at hadd
  obtain ⟨s₁, hevict, ⟨accepted, buffer⟩, hwrite, heq⟩ := hadd
  cases heq
  exact (h.evict hevict).write hwrite

/-- The loop of the reset leaves it useless. -/
lemma fill {fuel writes : ℕ} (h : Useless s.buffer)
    (hfill : Mavg.fill val value fuel s = some (writes, s')) : Useless s'.buffer := by
  induction fuel generalizing s writes with
  | zero => cases hfill
  | succ fuel ih =>
    simp only [Mavg.fill, Option.bind_eq_bind, Option.bind_eq_some_iff] at hfill
    obtain ⟨⟨accepted, buffer⟩, hwrite, hrest⟩ := hfill
    have h' := h.write hwrite
    cases accepted with
    | false =>
      cases hrest
      exact h'
    | true =>
      rw [if_pos rfl, Option.bind_eq_some_iff] at hrest
      obtain ⟨⟨writes', s''⟩, hfill, heq⟩ := hrest
      cases heq
      exact ih h' hfill

/-- Every call leaves it useless. -/
lemma call {c : Call} (h : Useless s.buffer) (hcall : s.call val c = some s') :
    Useless s'.buffer := by
  cases c with
  | addValue value => exact h.addValue hcall
  | reset startValue =>
    obtain ⟨⟨writes, s''⟩, hreset, heq⟩ := Option.map_eq_some_iff.mp hcall
    cases heq
    exact h.clear.fill hreset

/-- The buffer stays useless, by induction on the calls. -/
lemma run (h : Useless s.buffer) (hrun : calls.foldlM (Mavg.call val) s = some s') :
    Useless s'.buffer := by
  induction calls generalizing s with
  | nil =>
    cases hrun
    exact h
  | cons c calls ih =>
    rw [List.foldlM_cons, Option.bind_eq_bind, Option.bind_eq_some_iff] at hrun
    obtain ⟨s₁, hcall, hrun⟩ := hrun
    exact ih (h.call hcall) hrun

/-- After a value is added there is still no element. -/
lemma not_addsSafely (h : Useless s.buffer) : ¬ AddsSafely val s value := by
  rintro ⟨s₁, accepted, buffer, s', hevict, hwrite, -, hcount, -⟩
  exact hcount ((h.evict hevict).write hwrite).remainingElm

end Useless

/-- The size is cut off to 16 bits. -/
lemma ofNat_eq_zero_iff : UInt16.ofNat size = 0 ↔ 2 ^ 16 ∣ size := by
  rw [← UInt16.toNat_inj, UInt16.toNat_ofNat', Nat.dvd_iff_mod_eq_zero]
  rfl

/-- Where the allocation fails, or nothing is left of the size, the buffer is useless. -/
lemma useless_new (h : ¬ (allocated = true ∧ ¬ 2 ^ 16 ∣ size)) :
    Useless (Mavg.new size allocated).buffer := by
  cases allocated with
  | false =>
    refine .inl ?_
    simp [Mavg.new, RbBase.new]
  | true =>
    have hzero : UInt16.ofNat size = 0 := by
      rw [ofNat_eq_zero_iff]
      simpa using h
    refine .inr ?_
    simp [Mavg.new, hzero]

/-- Otherwise it has the elements that are left. -/
lemma holds_run (hsize : ¬ 2 ^ 16 ∣ size) (calls : List Call) :
    ∃ s w, calls.foldlM (Mavg.call val) (.new size true) = some s ∧ Holds val s (size % 2 ^ 16) w := by
  have hpos : 1 ≤ size % 2 ^ 16 := by
    rw [Nat.dvd_iff_mod_eq_zero] at hsize
    exact Nat.one_le_iff_ne_zero.mpr hsize
  have hnew : Mavg.new size true = .new (size % 2 ^ 16) true := by
    have hconv : UInt16.ofNat (size % 2 ^ 16) = UInt16.ofNat size := by
      rw [← UInt16.toNat_inj, UInt16.toNat_ofNat', UInt16.toNat_ofNat', Nat.mod_mod]
    rw [Mavg.new, Mavg.new, hconv]
  obtain ⟨s, hrun, h⟩ : ∃ s, calls.foldlM (Mavg.call val) (.new (size % 2 ^ 16) true) = some s ∧
      Holds val s (size % 2 ^ 16) (window (size % 2 ^ 16) calls) :=
    Holds.run hpos (Nat.mod_lt _ (by decide)) calls
  exact ⟨s, _, hnew ▸ hrun, h⟩

/-- A buffer with elements accepts every value. -/
lemma Holds.addsSafely (h : Holds val s n w) (pos : 0 < n) : AddsSafely val s value := by
  obtain ⟨s₁, buffer, hevict, hwrite, h'⟩ := h.evict_write pos value
  obtain ⟨s', hadd, -⟩ := h.addValue pos value
  refine ⟨s₁, true, buffer, s', hevict, hwrite, hadd, fun hzero => ?_, by simp⟩
  have hcount := (h' 0).represents.remainingElm
  simp [hzero, windowStep, Fifo.step] at hcount

/-- No element count is zero, and no rejected value counts, exactly if the allocation has succeeded and
something is left of the size, or if no value is added at all. -/
theorem safe_iff (val : UInt32 → ℚ) (size : ℕ) (allocated : Bool) (calls : List Call) :
    Safe val size allocated calls ↔
      (allocated = true ∧ ¬ 2 ^ 16 ∣ size) ∨ ∀ c ∈ calls, ∀ value, c ≠ .addValue value := by
  constructor
  · intro safe
    by_contra h
    push Not at h
    obtain ⟨hbroken, c, hc, value, rfl⟩ := h
    obtain ⟨hist, rest, rfl⟩ := List.append_of_mem hc
    obtain ⟨s, hrun, hsafe⟩ := safe hist _ (by simp) value rfl
    have huseless : Useless (Mavg.new size allocated).buffer :=
      useless_new fun hworks => hworks.2 (hbroken hworks.1)
    exact (huseless.run hrun).not_addsSafely hsafe
  · rintro (⟨rfl, hsize⟩ | hnone) hist c pre value rfl
    · obtain ⟨s, w, hrun, h⟩ := holds_run hsize hist
      exact ⟨s, hrun, h.addsSafely (Nat.pos_of_ne_zero (mt Nat.dvd_of_mod_eq_zero hsize))⟩
    · exact absurd rfl (hnone _ (pre.subset (by simp)) value)

/-- The allocation fails, and 1 is added. -/
theorem safe_outOfMemory : ¬ ∀ size allocated calls, Safe floatVal size allocated calls := by
  intro h
  obtain ⟨s, hrun, hsafe⟩ := h 10 false [.addValue 0x3F800000] [] _ List.prefix_rfl _ rfl
  cases hrun
  exact Useless.not_addsSafely (.inl ⟨rfl, rfl, rfl⟩) hsafe

end
end AstroPowerBox.MovingAverage
