import AstroPowerBox.MovingAverage.Mavg
import AstroPowerBox.RingBuffer.Refine

/-!
# Sliding window mean

The buffer holds the last values added, at most as many as its size; `reset` counts as adding the start
value that many times (`window`). The running sum is the sum of this window along every run
(`Holds.call`), so the average is its mean.
-/

namespace AstroPowerBox.MovingAverage
open Foundation RingBuffer

/-- The values that count: those added since the beginning, or since the last reset and before them the
start value `n` times. -/
def values (n : ℕ) (calls : List Call) : List UInt32 :=
  calls.foldl (fun values c => match c with
    | .addValue value => values ++ [value]
    | .reset startValue => .replicate n startValue) []

/-- The last `n` of them. -/
def window (n : ℕ) (calls : List Call) : List UInt32 := (values n calls).rtake n

section
variable (val : UInt32 → ℚ)

/-- The mean of a window. -/
def mean (w : List UInt32) : ℚ := (w.map val).sum / w.length

/-- The buffer of `n` elements holds the window, and the running sum is its sum. -/
structure Holds (s : Mavg) (n : ℕ) (w : List UInt32) : Prop where
  represents : s.buffer.Represents (w.map bytes)
  elementSize : s.buffer.elementSize = 4
  numElements : s.buffer.numElements.toNat = n
  sum_eq : s.sum = (w.map val).sum

/-- The window after a call. -/
def windowStep (n : ℕ) (w : List UInt32) : Call → List UInt32
  | .addValue value => (Fifo.step n w (.pushLossy value)).2
  | .reset startValue => .replicate n startValue

variable {val} {s : Mavg} {n : ℕ} {w : List UInt32} {value : UInt32} {calls : List Call}
  {c : Call}

@[simp] lemma window_nil : window n [] = [] := List.rtake_nil n

/-- A value pushes the oldest one out of a full window. -/
lemma window_concat (pos : 0 < n) : window n (calls ++ [c]) = windowStep n (window n calls) c := by
  rw [window, values, List.foldl_append]
  cases c with
  | addValue value => exact (Fifo.rtake_pushLossy pos).symm
  | reset startValue => simp [windowStep, List.rtake]

namespace Holds

/-- The window has at most `n` values. -/
lemma length_le (h : Holds val s n w) : w.length ≤ n := by
  have hle := h.represents.length_le
  rwa [List.length_map, h.numElements] at hle

/-- The buffer is full when the window is. -/
lemma full_eq (h : Holds val s n w) : s.buffer.full = decide (w.length = n) := by
  rw [h.represents.full_eq, List.length_map, h.numElements]

/-- A new average has an empty window. -/
lemma new {size : ℕ} (pos : 1 ≤ size) (small : size < 2 ^ 16) :
    Holds val (.new size true) size [] := by
  have hsize : (UInt16.ofNat size).toNat = size := UInt16.toNat_ofNat_of_lt' small
  have hpos : 1 ≤ UInt16.ofNat size := by
    rw [UInt16.le_iff_toNat_le, hsize]
    exact pos
  have hok : (RbBase.new 4 (.ofNat size) true).memOk = true := by
    have hfits : (UInt16.ofNat size).toNat * (4 : UInt16).toNat < 2 ^ 32 := by
      rw [hsize]
      exact (Nat.mul_lt_mul_of_pos_right small (by decide)).trans (by decide)
    rw [RbBase.new, if_pos ⟨rfl, hfits⟩]
  have hbuffer : (Mavg.new size true).buffer = .new 4 (.ofNat size) true := by
    refine if_neg fun hzero => ?_
    rw [hzero.1] at hpos
    exact absurd hpos (by decide)
  exact {
    represents := hbuffer ▸ RbBase.Represents.new hpos hok
    elementSize := by rw [hbuffer, RbBase.sizes_new.1]
    numElements := by rw [hbuffer, RbBase.sizes_new.2, hsize]
    sum_eq := rfl }

/-- A full buffer makes room for the next value, and the sum with it. -/
lemma evict (h : Holds val s n w) (pos : 0 < n) :
    ∃ s', s.evict val = some s' ∧ Holds val s' n (if w.length = n then w.tail else w) := by
  rw [Mavg.evict, h.full_eq]
  split_ifs with hfull hfull' hfull'
  · cases w with
    | nil => exact absurd hfull' pos.ne
    | cons old w =>
      obtain ⟨buffer, hread, hrep, hsize, hnum⟩ := h.represents.read
      rw [List.map_cons] at hread hrep
      refine ⟨_, by rw [hread]; rfl, ?_⟩
      exact {
        represents := hrep
        elementSize := hsize.trans h.elementSize
        numElements := by rw [hnum, h.numElements]
        sum_eq := by
          rw [h.sum_eq, List.map_cons, List.sum_cons, ofBytes_bytes]
          exact add_sub_cancel_left _ _ }
  · exact absurd (of_decide_eq_true hfull) hfull'
  · exact absurd (decide_eq_true hfull') hfull
  · exact ⟨s, rfl, h⟩

/-- A value that finds room is taken into the window. -/
lemma write (h : Holds val s n w) (room : w.length < n) (value : UInt32) :
    ∃ buffer, s.buffer.write (bytes value) = some (true, buffer) ∧
      ∀ avgValue, Holds val ⟨buffer, s.sum + val value, avgValue⟩ n (w ++ [value]) := by
  have hroom : (w.map bytes).length < s.buffer.numElements.toNat := by
    rwa [List.length_map, h.numElements]
  have hbytes : (bytes value).length = s.buffer.elementSize.toNat := by
    rw [h.elementSize]
    rfl
  obtain ⟨buffer, hwrite, hrep, hsize, hnum⟩ := h.represents.write hroom hbytes
  refine ⟨buffer, hwrite, fun avgValue => ?_⟩
  exact {
    represents := by rwa [List.map_append]
    elementSize := hsize.trans h.elementSize
    numElements := by rw [hnum, h.numElements]
    sum_eq := by rw [h.sum_eq, List.map_append, List.sum_append, List.map_singleton, List.sum_singleton] }

/-- There is room for a value after the oldest one has gone. -/
lemma evict_write (h : Holds val s n w) (pos : 0 < n) (value : UInt32) :
    ∃ s₁ buffer, s.evict val = some s₁ ∧ s₁.buffer.write (bytes value) = some (true, buffer) ∧
      ∀ avgValue, Holds val ⟨buffer, s₁.sum + val value, avgValue⟩ n
        (windowStep n w (.addValue value)) := by
  obtain ⟨s₁, hevict, h₁⟩ := h.evict pos
  have hle := h.length_le
  have hroom : (if w.length = n then w.tail else w).length < n := by
    split_ifs with hfull
    · rw [List.length_tail]
      omega
    · omega
  obtain ⟨buffer, hwrite, h₂⟩ := h₁.write hroom value
  exact ⟨s₁, buffer, hevict, hwrite, h₂⟩

/-- `addValue` moves the window on, and the average is its mean. -/
lemma addValue (h : Holds val s n w) (pos : 0 < n) (value : UInt32) :
    ∃ s', s.addValue val value = some s' ∧ Holds val s' n (windowStep n w (.addValue value)) ∧
      s'.avgValue = mean val (windowStep n w (.addValue value)) := by
  obtain ⟨s₁, buffer, hevict, hwrite, h'⟩ := h.evict_write pos value
  refine ⟨⟨buffer, s₁.sum + val value, (s₁.sum + val value) / buffer.remainingElm.toNat⟩, ?_, h' _, ?_⟩
  · simp [Mavg.addValue, hevict, hwrite]
  · rw [(h' 0).represents.remainingElm, List.length_map]
    exact congrArg (· / _) (h' 0).sum_eq

/-- A buffer that is full takes nothing more. -/
lemma write_full (h : Holds val s n w) (hfull : w.length = n) :
    s.buffer.write (bytes value) = some (false, s.buffer) :=
  h.represents.write_full (by rw [List.length_map, h.numElements, hfull])

/-- The loop of `reset` fills the window up, with one write for each value. -/
lemma fill {fuel : ℕ} (h : Holds val s n w) (enough : n - w.length < fuel) :
    ∃ s', Mavg.fill val value fuel s = some (n - w.length, s') ∧
      Holds val s' n (w ++ .replicate (n - w.length) value) := by
  induction fuel generalizing s w with
  | zero => exact absurd enough (Nat.not_lt_zero _)
  | succ fuel ih =>
    rcases h.length_le.lt_or_eq with room | hfull
    · obtain ⟨buffer, hwrite, h'⟩ := h.write room value
      have hcount : n - w.length = n - (w ++ [value]).length + 1 := by
        rw [List.length_append, List.length_singleton]
        omega
      obtain ⟨s', hfill, hs'⟩ := ih (h' s.avgValue) (by omega)
      refine ⟨s', ?_, ?_⟩
      · rw [Mavg.fill, hwrite, hcount]
        simp only [Option.bind_eq_bind, Option.bind_some, if_true]
        rw [hfill]
        rfl
      · rwa [hcount, List.replicate_succ, List.append_cons]
    · refine ⟨s, ?_, ?_⟩
      · rw [Mavg.fill, h.write_full hfull, hfull, Nat.sub_self]
        rfl
      · rwa [hfull, Nat.sub_self, List.replicate_zero, List.append_nil]

/-- With less fuel the loop is not through. -/
lemma fill_none {fuel : ℕ} (h : Holds val s n w) (short : fuel ≤ n - w.length) :
    Mavg.fill val value fuel s = none := by
  induction fuel generalizing s w with
  | zero => rfl
  | succ fuel ih =>
    obtain ⟨buffer, hwrite, h'⟩ := h.write (by omega) value
    have hnone := ih (h' s.avgValue) (by
      rw [List.length_append, List.length_singleton]
      omega)
    rw [Mavg.fill, hwrite]
    simp only [Option.bind_eq_bind, Option.bind_some, if_true]
    rw [hnone]
    rfl

/-- `reset` starts from an empty window. -/
lemma clear (h : Holds val s n w) {avgValue : ℚ} : Holds val ⟨s.buffer.clear, 0, avgValue⟩ n [] where
  represents := h.represents.clear
  elementSize := h.elementSize
  numElements := h.numElements
  sum_eq := rfl

/-- `reset` ends after as many writes as the buffer has elements. -/
lemma reset {fuel : ℕ} (h : Holds val s n w) (enough : n < fuel) :
    ∃ s', s.reset val fuel value = some (n, s') ∧ Holds val s' n (.replicate n value) :=
  h.clear.fill enough

/-- The loop of the reset writes a value for each slot, if it has fuel for them. -/
lemma reset_writes (h : Holds val s n w) {fuel : ℕ} :
    (s.reset val fuel value).map Prod.fst = if n < fuel then some n else none := by
  split_ifs with enough
  · obtain ⟨s', hreset, -⟩ := h.reset enough
    rw [hreset]
    rfl
  · rw [Mavg.reset, h.clear.fill_none (not_lt.mp enough)]
    rfl

/-- A call moves the window on. -/
lemma call (h : Holds val s n w) (pos : 0 < n) (c : Call) :
    ∃ s', s.call val c = some s' ∧ Holds val s' n (windowStep n w c) := by
  cases c with
  | addValue value =>
    obtain ⟨s', hadd, h', -⟩ := h.addValue pos value
    exact ⟨s', hadd, h'⟩
  | reset startValue =>
    have henough : n < 2 ^ 16 := h.numElements ▸ s.buffer.numElements.toNat_lt
    obtain ⟨s', hreset, h'⟩ := h.reset henough
    exact ⟨s', by rw [Mavg.call, hreset]; rfl, h'⟩

/-- Every run of calls keeps the window. -/
lemma run {size : ℕ} (pos : 1 ≤ size) (small : size < 2 ^ 16) (calls : List Call) :
    ∃ s, calls.foldlM (Mavg.call val) (.new size true) = some s ∧
      Holds val s size (window size calls) := by
  induction calls using List.reverseRecOn with
  | nil => exact ⟨_, rfl, window_nil ▸ new pos small⟩
  | append_singleton hist c ih =>
    obtain ⟨s, hrun, h⟩ := ih
    obtain ⟨s', hcall, h'⟩ := h.call pos c
    exact ⟨s', by simp [hrun, hcall], window_concat pos ▸ h'⟩

/-- The oldest value is the first of the window. -/
lemma getOldestValue (h : Holds val s n w) :
    s.getOldestValue val = some (w.head?.elim 0 val) := by
  rw [Mavg.getOldestValue, h.represents.peak, List.head?_map]
  cases w.head? <;> simp

end Holds

/-- Along every run the running sum is that of the buffer, which holds the window; after a value has
been added, the average is the mean of the window; the oldest value is its first one; and `reset` ends
after as many writes as the buffer has elements. -/
theorem sliding_mean (val : UInt32 → ℚ) (size : ℕ) (pos : 1 ≤ size) (small : size < 2 ^ 16)
    (calls : List Call) :
    let w := window size calls
    ∃ s, calls.foldlM (Mavg.call val) (.new size true) = some s ∧
      s.buffer.Represents (w.map bytes) ∧ s.sum = (w.map val).sum ∧
      (∀ hist value, calls = hist ++ [.addValue value] → s.getAvgValue = mean val w) ∧
      s.getOldestValue val = some (w.head?.elim 0 val) ∧
      ∀ startValue fuel,
        (s.reset val fuel startValue).map Prod.fst = if size < fuel then some size else none := by
  intro w
  obtain ⟨s, hrun, h⟩ := Holds.run pos small calls
  refine ⟨s, hrun, h.represents, h.sum_eq, ?_, h.getOldestValue, fun _ _ => h.reset_writes⟩
  rintro hist value rfl
  obtain ⟨s₀, hrun₀, h₀⟩ : ∃ s, hist.foldlM (Mavg.call val) (.new size true) = some s ∧
      Holds val s size (window size hist) := Holds.run pos small hist
  obtain ⟨s', hadd, -, havg⟩ := h₀.addValue pos value
  have hs : s = s' := by simpa [hrun₀, Mavg.call, hadd, eq_comm] using hrun
  rw [hs, Mavg.getAvgValue, havg, ← window_concat pos]

/-- An average over two values: 1 is added, it is reset to 2, and 4 is added. -/
theorem sliding_mean_two :
    let calls : List Call := [.addValue 0x3F800000, .reset 0x40000000, .addValue 0x40800000]
    let w : List UInt32 := [0x40000000, 0x40800000]
    window 2 calls = w ∧ mean floatVal w = 3 ∧
      ∃ s, calls.foldlM (Mavg.call floatVal) (.new 2 true) = some s ∧
        s.buffer.Represents (w.map bytes) ∧ s.sum = (w.map floatVal).sum ∧
        (∀ hist value, calls = hist ++ [.addValue value] → s.getAvgValue = mean floatVal w) ∧
        s.getOldestValue floatVal = some (floatVal 0x40000000) ∧
        ∀ startValue fuel,
          (s.reset floatVal fuel startValue).map Prod.fst = if 2 < fuel then some 2 else none :=
  ⟨rfl, by decide +kernel, sliding_mean floatVal 2 (by decide) (by decide)
    [.addValue 0x3F800000, .reset 0x40000000, .addValue 0x40800000]⟩

end
end AstroPowerBox.MovingAverage
