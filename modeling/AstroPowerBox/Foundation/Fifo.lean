import Mathlib.Algebra.Order.Ring.Nat
import Mathlib.Data.List.DropRight
import Mathlib.Data.List.Range

/-!
# Bounded queues

`Fifo.step` is a first-in first-out queue of at most `n` elements. `window` reads a queue out of a
circle of `n` slots; its lemmas say what appending and removing an element do to the indices.

`exec` runs a machine that may fault, `Fifo.exec` the queue, over a list of operations;
`exec_of_simulation` packages the induction that turns a simulation of one operation into one of all.
-/

namespace Foundation

/-! ## Machines with results -/

section
variable {σ τ ι ο : Type*}

/-- The results and the last state of a machine, or `none` if some operation faults. -/
def exec (step : σ → ι → Option (ο × σ)) (s : σ) : List ι → Option (List ο × σ)
  | [] => some ([], s)
  | op :: ops => do
    let (r, s) ← step s op
    let (rs, s) ← exec step s ops
    some (r :: rs, s)

/-- The results and the last state of a machine that does not fault. -/
def results (step : τ → ι → ο × τ) (t : τ) : List ι → List ο × τ
  | [] => ([], t)
  | op :: ops =>
    let (r, t) := step t op
    let (rs, t) := results step t ops
    (r :: rs, t)

/-- If every operation of a machine simulates one that does not fault, so does every run. -/
theorem exec_of_simulation {step : σ → ι → Option (ο × σ)} {step' : τ → ι → ο × τ}
    (Rel : σ → τ → Prop) {ops : List ι}
    (sim : ∀ s t op, op ∈ ops → Rel s t →
      ∃ s', step s op = some ((step' t op).1, s') ∧ Rel s' (step' t op).2)
    {s : σ} {t : τ} (init : Rel s t) :
    ∃ s', exec step s ops = some ((results step' t ops).1, s') ∧ Rel s' (results step' t ops).2 := by
  induction ops generalizing s t with
  | nil => exact ⟨s, rfl, init⟩
  | cons op ops ih =>
    obtain ⟨s1, hstep, hrel⟩ := sim s t op List.mem_cons_self init
    obtain ⟨s2, hexec, hrel'⟩ :=
      ih (fun s t op hop => sim s t op (List.mem_cons_of_mem _ hop)) hrel
    exact ⟨s2, by simp [exec, results, hstep, hexec], hrel'⟩

/-- A change of the state that no operation sees goes through every run. -/
lemma exec_of_commutes {step : σ → ι → Option (ο × σ)} {f : σ → σ}
    (commutes : ∀ s op, step (f s) op = (step s op).map fun r => (r.1, f r.2)) {s : σ}
    {ops : List ι} : exec step (f s) ops = (exec step s ops).map fun r => (r.1, f r.2) := by
  induction ops generalizing s with
  | nil => rfl
  | cons op ops ih =>
    cases hstep : step s op with
    | none => simp [exec, commutes, hstep]
    | some r => cases hexec : exec step r.2 ops <;> simp [exec, commutes, hstep, ih, hexec]

/-- A queue that never changes answers as if each operation were the first one. -/
lemma exec_of_fixed {step : σ → ι → Option (ο × σ)} {answer : ι → ο} {s : σ}
    (fixed : ∀ op, step s op = some (answer op, s)) {ops : List ι} :
    exec step s ops = some (ops.map answer, s) := by
  induction ops with
  | nil => rfl
  | cons op ops ih => simp [exec, fixed, ih]

end

/-! ## The queue -/

namespace Fifo
variable {α : Type*}

/-- What can be asked of a bounded queue. -/
inductive Op (α : Type*) where
  | push (x : α)
  | pushLossy (x : α)
  | pop
  | peek
  | clear
  | isFull
  | isEmpty
  | length

/-- The elements that an operation adds. -/
def Op.values : Op α → List α
  | .push x | .pushLossy x => [x]
  | _ => []

/-- What a bounded queue answers. -/
inductive Result (α : Type*) where
  | done (ok : Bool)
  | element (x : Option α)
  | cleared
  | count (m : ℕ)
deriving DecidableEq

/-- A queue of at most `n` elements, the oldest one first. A lossy push makes room by dropping the
oldest element. -/
def step (n : ℕ) (q : List α) : Op α → Result α × List α
  | .push x => if q.length < n then (.done true, q ++ [x]) else (.done false, q)
  | .pushLossy x => (.done true, (if q.length = n then q.tail else q) ++ [x])
  | .pop => (.element q.head?, q.tail)
  | .peek => (.element q.head?, q)
  | .clear => (.cleared, [])
  | .isFull => (.done (q.length = n), q)
  | .isEmpty => (.done (q.length = 0), q)
  | .length => (.count q.length, q)

/-- Pushing one after the other: what does not fit is dropped. -/
lemma foldl_push {n : ℕ} {q xs : List α} (h : q.length ≤ n) :
    xs.foldl (fun q x => (step n q (.push x)).2) q = (q ++ xs).take n := by
  induction xs generalizing q with
  | nil => rw [List.foldl_nil, List.append_nil, List.take_of_length_le h]
  | cons x xs ih =>
    rw [List.foldl_cons]
    rcases h.lt_or_eq with hlt | heq
    · have hpush : (step n q (.push x)).2 = q ++ [x] := by simp [step, hlt]
      have hle : (q ++ [x]).length ≤ n := by
        rw [List.length_append, List.length_singleton]
        exact hlt
      rw [hpush, ih hle, List.append_assoc, List.singleton_append]
    · -- a full queue stays what it is
      have hpush : (step n q (.push x)).2 = q := by simp [step, heq]
      rw [hpush, ih h, List.take_left' heq, List.take_left' heq]

/-- A queue that is only pushed to by lossy pushes holds the last `n` elements. -/
lemma rtake_pushLossy {n : ℕ} {xs : List α} {x : α} (h : 0 < n) :
    (step n (xs.rtake n) (.pushLossy x)).2 = (xs ++ [x]).rtake n := by
  obtain ⟨n, rfl⟩ := Nat.exists_eq_add_of_lt h
  rw [Nat.zero_add, List.rtake_concat_succ]
  refine congrArg (· ++ [x]) ?_
  simp only [List.rtake, List.length_drop]
  split_ifs with hfull
  · rw [List.tail_drop]
    congr 1
    omega
  · congr 1
    omega

end Fifo

/-! ## A queue in a circle of slots -/

section
variable {α : Type*} {slot slot' : ℕ → α} {n start count : ℕ}

/-- The index after `i` in a circle of `n`. -/
def nextIndex (n i : ℕ) : ℕ := if i + 1 ≥ n then 0 else i + 1

/-- The next index, as a remainder. -/
lemma nextIndex_eq (h : start < n) : nextIndex n start = (start + 1) % n := by
  unfold nextIndex
  split_ifs with hwrap
  · obtain rfl : n = start + 1 := by omega
    rw [Nat.mod_self]
  · rw [Nat.mod_eq_of_lt (by omega)]

lemma nextIndex_lt (h : 0 < n) : nextIndex n start < n := by
  unfold nextIndex
  split_ifs <;> omega

/-- The index behind `count` elements moves on with them. -/
lemma nextIndex_mod (h : 0 < n) : nextIndex n ((start + count) % n) = (start + (count + 1)) % n := by
  rw [nextIndex_eq (Nat.mod_lt _ h), Nat.mod_add_mod, Nat.add_assoc]

/-- Going round less than once leads to another slot. -/
lemma add_mod_ne {i j : ℕ} (hlt : i < j) (hj : j < i + n) : (start + i) % n ≠ (start + j) % n := by
  intro h
  have hmod : (j - i) % n = 0 := by
    rw [← Nat.add_sub_add_left start j i]
    exact Nat.sub_mod_eq_zero_of_mod_eq h.symm
  have hle : n ≤ j - i := Nat.le_of_dvd (by omega) (Nat.dvd_of_mod_eq_zero hmod)
  omega

/-- The remainder, as the source computes it. -/
lemma add_mod_eq_ite (hs : start < n) (hc : count ≤ n) :
    (start + count) % n = if start + count < n then start + count else start + count - n := by
  split_ifs with hlt
  · exact Nat.mod_eq_of_lt hlt
  · rw [Nat.mod_eq_sub_mod (by omega), Nat.mod_eq_of_lt (by omega)]

/-- Two indices agree when there is nothing between them, or everything. -/
lemma add_mod_eq_self_iff (hs : start < n) (hc : count ≤ n) :
    (start + count) % n = start ↔ count = 0 ∨ count = n := by
  constructor
  · intro h
    by_contra hne
    have hround : (start + 0) % n ≠ (start + count) % n := add_mod_ne (by omega) (by omega)
    rw [Nat.add_zero, Nat.mod_eq_of_lt hs, h] at hround
    exact hround rfl
  · rintro (rfl | rfl)
    · exact Nat.mod_eq_of_lt hs
    · rw [Nat.add_mod_right, Nat.mod_eq_of_lt hs]

/-- The `count` slots from `start` on, in a circle of `n`. -/
def window (slot : ℕ → α) (n start count : ℕ) : List α :=
  (List.range count).map fun i => slot ((start + i) % n)

@[simp] lemma length_window : (window slot n start count).length = count := by
  simp [window]

@[simp] lemma window_zero : window slot n start 0 = [] := rfl

/-- One element more at the end. -/
lemma window_succ : window slot n start (count + 1)
    = window slot n start count ++ [slot ((start + count) % n)] := by
  simp [window, List.range_succ]

/-- The window by its first element. -/
lemma window_cons (h : start < n) : window slot n start (count + 1)
    = slot start :: window slot n (nextIndex n start) count := by
  have hfirst : start % n = start := Nat.mod_eq_of_lt h
  have hrest : ∀ i, (nextIndex n start + i) % n = (start + (i + 1)) % n := by
    intro i
    rw [nextIndex_eq h, Nat.mod_add_mod, Nat.add_assoc, Nat.add_comm 1]
  simp [window, List.range_succ_eq_map, hfirst, hrest, Function.comp_def]

/-- Only the slots of the window matter. -/
lemma window_congr (h : ∀ i < count, slot ((start + i) % n) = slot' ((start + i) % n)) :
    window slot n start count = window slot' n start count := by
  apply List.map_congr_left
  intro i hi
  exact h i (List.mem_range.mp hi)

/-- A write to the slot behind the window does not change it. -/
lemma window_of_set {x : α} (hcount : count < n)
    (hset : ∀ j < n, slot' j = if j = (start + count) % n then x else slot j) :
    window slot' n start (count + 1) = window slot n start count ++ [x] := by
  have hpos : 0 < n := by omega
  rw [window_succ, hset _ (Nat.mod_lt _ hpos), if_pos rfl]
  congr 1
  apply window_congr
  intro i hi
  rw [hset _ (Nat.mod_lt _ hpos), if_neg (add_mod_ne hi (by omega))]

/-! ## Slots of a list of bytes

Slot `i` holds the elements from `i * m` on, `m` of them. -/

/-- A byte of a list in which a stretch is replaced. -/
lemma getElem?_splice {l x : List α} {a k : ℕ} (ha : a + x.length ≤ l.length) :
    (l.take a ++ x ++ l.drop (a + x.length))[k]?
      = if a ≤ k ∧ k < a + x.length then x[k - a]? else l[k]? := by
  have hlen : (l.take a).length = a := by
    rw [List.length_take]
    omega
  rw [List.append_assoc, List.getElem?_append, hlen]
  split_ifs with hbefore hin hin
  · omega
  · rw [List.getElem?_take, if_pos hbefore]
  · rw [List.getElem?_append, if_pos (by omega)]
  · rw [List.getElem?_append, if_neg (by omega), List.getElem?_drop]
    congr 1
    omega

/-- Only the slot that is written changes. -/
lemma slot_splice {l x : List α} {i : ℕ} (j : ℕ)
    (hi : i * x.length + x.length ≤ l.length) :
    ((l.take (i * x.length) ++ x ++ l.drop (i * x.length + x.length)).drop (j * x.length)).take
        x.length
      = if j = i then x else (l.drop (j * x.length)).take x.length := by
  apply List.ext_getElem?
  intro k
  rw [List.getElem?_take, List.getElem?_drop, getElem?_splice hi]
  by_cases hk : k < x.length
  · rw [if_pos hk]
    split_ifs with hin heq heq
    · rw [heq, Nat.add_sub_cancel_left]
    · -- another slot begins at least one slot away
      exfalso
      rcases Nat.lt_or_gt_of_ne heq with lt | gt
      · have := Nat.mul_le_mul_right x.length (Nat.succ_le_of_lt lt)
        rw [Nat.succ_mul] at this
        omega
      · have := Nat.mul_le_mul_right x.length (Nat.succ_le_of_lt gt)
        rw [Nat.succ_mul] at this
        omega
    · subst heq
      omega
    · rw [List.getElem?_take, if_pos hk, List.getElem?_drop]
  · rw [if_neg hk]
    split_ifs
    · rw [List.getElem?_eq_none (by omega)]
    · rw [List.getElem?_take, if_neg hk]

end
end Foundation
