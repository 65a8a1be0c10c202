import AstroPowerBox.Foundation.Run
import Mathlib.Algebra.Order.Ring.Nat

/-!
# A wrapping millisecond clock

Real time is a natural number of milliseconds. A program reads it through a 32-bit counter,
`millis`, and measures a duration as the wrapped difference of two readings. Such a difference is
never larger than the real duration (`elapsed_le`), and equal to it below `2 ^ 32` ms (`elapsed_eq`).

Inputs of a component carry the real time at which their handling starts and ends (`Timed`);
`Chronological` lists are those in which no handling starts before the one before it has ended.
-/

namespace Foundation

/-- The counter at real time `t`. -/
def millis (t : ℕ) : UInt32 := UInt32.ofNat t

@[simp] lemma millis_toNat {t : ℕ} : (millis t).toNat = t % 2 ^ 32 := by
  simp [millis]

/-- A difference of readings is the elapsed time up to wraps. -/
lemma elapsed_mod {s t : ℕ} (h : s ≤ t) :
    (millis t - millis s).toNat = (t - s) % 2 ^ 32 := by
  rw [UInt32.toNat_sub, millis_toNat, millis_toNat]
  omega

/-- No more time has passed than has. -/
lemma elapsed_le {s t : ℕ} (h : s ≤ t) : (millis t - millis s).toNat ≤ t - s := by
  rw [elapsed_mod h]
  omega

/-- Before the first wrap the difference is exact. -/
lemma elapsed_eq {s t : ℕ} (h : s ≤ t) (lt : t - s < 2 ^ 32) :
    (millis t - millis s).toNat = t - s := by
  rw [elapsed_mod h]
  omega

/-- A measured duration above `n` shows that more than `n` ms have passed. -/
lemma lt_of_lt_elapsed {s t : ℕ} {n : UInt32} (h : s ≤ t) (lt : n < millis t - millis s) :
    s + n.toNat < t := by
  have h1 := UInt32.lt_iff_toNat_lt.mp lt
  have h2 := elapsed_le h
  omega

/-- What the difference says has passed, has passed. -/
lemma le_of_le_elapsed {s t : ℕ} {n : UInt32} (h : s ≤ t) (le : n ≤ millis t - millis s) :
    s + n.toNat ≤ t := by
  have h1 := UInt32.le_iff_toNat_le.mp le
  have h2 := elapsed_le h
  omega

/-- A measured duration leads from the earlier time to one at which the clock reads the same as at the
later time. -/
lemma millis_add_elapsed {s t : ℕ} : millis (s + (millis t - millis s).toNat) = millis t := by
  rw [millis, UInt32.ofNat_add, UInt32.ofNat_toNat, ← millis, UInt32.add_comm,
    UInt32.sub_add_cancel]

/-- Also where `t` is not the later time: the duration fits exactly if the clock shows the reading at
`t` before `stop`. -/
lemma add_elapsed_le_iff {s t stop : ℕ} :
    s + (millis t - millis s).toNat ≤ stop ↔ ∃ u, s ≤ u ∧ u ≤ stop ∧ millis u = millis t := by
  constructor
  · intro h
    exact ⟨_, Nat.le_add_right _ _, h, millis_add_elapsed⟩
  · rintro ⟨u, hs, hstop, heq⟩
    have hle := elapsed_le hs
    rw [← heq]
    omega

/-- The difference of a reading and a later one underflows. -/
lemma elapsed_of_lt {s t : ℕ} (h : t < s) (lt : s - t < 2 ^ 32) :
    (millis t - millis s).toNat = 2 ^ 32 - (s - t) := by
  rw [UInt32.toNat_sub, millis_toNat, millis_toNat]
  omega

/-! ## Deadlines

A deadline `T + d` that is kept as a wrapped reading and compared with a reading. -/

/-- The counter has wrapped since `deadline` and has not come back to its reading. -/
def WrappedPast (deadline t : ℕ) : Prop :=
  deadline / 2 ^ 32 < t / 2 ^ 32 ∧ t % 2 ^ 32 < deadline % 2 ^ 32

instance {deadline t : ℕ} : Decidable (WrappedPast deadline t) :=
  inferInstanceAs (Decidable (_ ∧ _))

/-- Before a deadline, in terms of the wrapped times. -/
lemma lt_deadline_iff {s t : ℕ} {d : UInt32} :
    millis t < millis s + d ↔ t % 2 ^ 32 < (s + d.toNat) % 2 ^ 32 := by
  rw [UInt32.lt_iff_toNat_lt, UInt32.toNat_add, millis_toNat, millis_toNat, Nat.mod_add_mod]

/-- The comparison shows that the deadline lies ahead, unless the counter has wrapped past it. -/
lemma lt_deadline_sound_iff {s t : ℕ} {d : UInt32} :
    (millis t < millis s + d → t < s + d.toNat) ↔ ¬ WrappedPast (s + d.toNat) t := by
  rw [lt_deadline_iff]
  unfold WrappedPast
  -- the readings are remainders: the implication fails only in a later round of the counter
  omega

/-- The counter has wrapped since `deadline` and has not passed its reading again. -/
def WrappedBehind (deadline t : ℕ) : Prop :=
  deadline / 2 ^ 32 < t / 2 ^ 32 ∧ t % 2 ^ 32 ≤ deadline % 2 ^ 32

instance {deadline t : ℕ} : Decidable (WrappedBehind deadline t) :=
  inferInstanceAs (Decidable (_ ∧ _))

/-- The reading of a time that has been waited for. -/
lemma millis_add {s : ℕ} {d : UInt32} : millis (s + d.toNat) = millis s + d := by
  rw [millis, UInt32.ofNat_add, UInt32.ofNat_toNat, millis]

/-- The comparison shows that a deadline lies behind, unless the counter has wrapped. -/
lemma deadline_lt_iff {deadline t : ℕ} (lt : deadline < t) :
    millis deadline < millis t ↔ ¬ WrappedBehind deadline t := by
  rw [UInt32.lt_iff_toNat_lt, millis_toNat, millis_toNat, WrappedBehind]
  omega

/-! ## Stamps

A reading that is kept of the last of several times. -/

/-- `stamp` is the reading of a time that is before none of the `times`, and not after `now`. -/
def StampedAfter (stamp : UInt32) (times : List ℕ) (now : ℕ) : Prop :=
  ∃ u ≤ now, stamp = millis u ∧ ∀ s ∈ times, s ≤ u

namespace StampedAfter
variable {stamp n : UInt32} {times : List ℕ} {now t : ℕ}

/-- The present is a stamp for everything that has been. -/
lemma stamped_now (le : ∀ s ∈ times, s ≤ now) : StampedAfter (millis now) times now :=
  ⟨now, le_rfl, rfl, le⟩

/-- A stamp stays one. -/
lemma mono (h : StampedAfter stamp times now) (le : now ≤ t) : StampedAfter stamp times t := by
  obtain ⟨u, hu, rest⟩ := h
  exact ⟨u, hu.trans le, rest⟩

/-- Nothing that is stamped is in the future. -/
lemma le_now (h : StampedAfter stamp times now) : ∀ s ∈ times, s ≤ now := by
  obtain ⟨u, hu, -, hle⟩ := h
  exact fun s hs => (hle s hs).trans hu

/-- A reading of more than `n` ms since the stamp shows that all of the times are so long past. -/
lemma lt_of_lt_elapsed (h : StampedAfter stamp times now) (le : now ≤ t)
    (lt : n < millis t - stamp) : ∀ s ∈ times, s + n.toNat < t := by
  obtain ⟨u, hu, rfl, hle⟩ := h
  intro s hs
  have hlt := Foundation.lt_of_lt_elapsed (hu.trans le) lt
  exact (Nat.add_le_add_right (hle s hs) _).trans_lt hlt

end StampedAfter

/-- Inputs whose handling takes place between two real times. -/
class Timed (ι : Type*) where
  start : ι → ℕ
  stop : ι → ℕ

section
variable {ι : Type*} [Timed ι]

/-- The inputs are handled one after the other, the first not before `t`. -/
def Chronological (t : ℕ) : List ι → Prop
  | [] => True
  | x :: xs => t ≤ Timed.start x ∧ Timed.start x ≤ Timed.stop x ∧ Chronological (Timed.stop x) xs

instance decidableChronological : ∀ (t : ℕ) (xs : List ι), Decidable (Chronological t xs)
  | _, [] => .isTrue trivial
  | t, x :: xs =>
    have := decidableChronological (Timed.stop x) xs
    inferInstanceAs (Decidable (t ≤ Timed.start x ∧ Timed.start x ≤ Timed.stop x ∧
      Chronological (Timed.stop x) xs))

/-- The real time at which the last input has been handled. -/
def endTime (t : ℕ) : List ι → ℕ
  | [] => t
  | x :: xs => endTime (Timed.stop x) xs

@[simp] lemma endTime_nil {t : ℕ} : endTime t ([] : List ι) = t := rfl

/-- The second part begins where the first one ends. -/
lemma endTime_append {t : ℕ} {xs ys : List ι} :
    endTime t (xs ++ ys) = endTime (endTime t xs) ys := by
  induction xs generalizing t with
  | nil => rfl
  | cons x xs ih => exact ih

@[simp] lemma endTime_concat {t : ℕ} {xs : List ι} {x : ι} :
    endTime t (xs ++ [x]) = Timed.stop x := endTime_append

/-- Each part is in chronological order, the second one from the end of the first. -/
lemma chronological_append {t : ℕ} {xs ys : List ι} :
    Chronological t (xs ++ ys) ↔ Chronological t xs ∧ Chronological (endTime t xs) ys := by
  induction xs generalizing t with
  | nil => simp [Chronological]
  | cons x xs ih =>
    simp only [List.cons_append, Chronological, endTime, ih]
    tauto

/-- The last input does not begin before the others have ended. -/
lemma chronological_concat {t : ℕ} {xs : List ι} {x : ι} :
    Chronological t (xs ++ [x])
      ↔ Chronological t xs ∧ endTime t xs ≤ Timed.start x ∧ Timed.start x ≤ Timed.stop x := by
  simp [chronological_append, Chronological]

/-- A prefix is in chronological order. -/
lemma Chronological.of_prefix {t : ℕ} {xs ys : List ι} (h : Chronological t xs) (pre : ys <+: xs) :
    Chronological t ys := by
  obtain ⟨zs, rfl⟩ := pre
  exact (chronological_append.mp h).1

/-- Time does not run backwards. -/
lemma Chronological.le_endTime {t : ℕ} {xs : List ι} (h : Chronological t xs) :
    t ≤ endTime t xs := by
  induction xs generalizing t with
  | nil => exact le_rfl
  | cons x xs ih => exact (h.1.trans h.2.1).trans (ih h.2.2)

/-- Every input has been handled when the last one has. -/
lemma Chronological.stop_le {t : ℕ} {xs : List ι} (h : Chronological t xs) :
    EveryStep (fun _ x => Timed.stop x ≤ endTime t xs) xs := by
  rintro hist x ⟨ys, rfl⟩
  rw [chronological_append, endTime_concat] at h
  rw [endTime_append, endTime_concat]
  exact h.2.le_endTime

/-- An earlier beginning does no harm. -/
lemma Chronological.mono {t t' : ℕ} {xs : List ι} (h : Chronological t xs) (le : t' ≤ t) :
    Chronological t' xs := by
  cases xs with
  | nil => trivial
  | cons x xs => exact ⟨le.trans h.1, h.2⟩

/-- A later beginning has no earlier end. -/
lemma endTime_mono {t t' : ℕ} {xs : List ι} (le : t' ≤ t) : endTime t' xs ≤ endTime t xs := by
  cases xs with
  | nil => exact le
  | cons x xs => exact le_rfl

/-- What the steps of a run put out is in order, if each step puts out within its own time. -/
lemma chronological_outputs {σ ο : Type*} [Timed ο] {step : σ → ι → σ} {out : σ → ι → List ο}
    (within : ∀ s x, Timed.start x ≤ Timed.stop x →
      Chronological (Timed.start x) (out s x) ∧ endTime (Timed.start x) (out s x) ≤ Timed.stop x)
    {t : ℕ} {s : σ} {xs : List ι} (chron : Chronological t xs) :
    Chronological t (outputs step out s xs) ∧ endTime t (outputs step out s xs) ≤ endTime t xs := by
  induction xs using List.reverseRecOn with
  | nil => exact ⟨trivial, le_rfl⟩
  | append_singleton ys y ih =>
    obtain ⟨chron, hstart, hstop⟩ := chronological_concat.mp chron
    obtain ⟨hchron, hend⟩ := ih chron
    obtain ⟨hout, hout'⟩ := within (run step s ys) y hstop
    have hle : endTime t (outputs step out s ys) ≤ Timed.start y := hend.trans hstart
    -- what the last step puts out begins after everything before it
    rw [outputs_concat, chronological_append, endTime_append, endTime_concat]
    exact ⟨⟨hchron, hout.mono hle⟩, (endTime_mono hle).trans hout'⟩

end

section
variable {σ ι : Type*} [Timed ι] (step : σ → ι → σ) (p : σ → Bool)

/-- Update of `heldSince`: a step that ends outside `p` forgets the time. -/
def heldUpd (g : Option ℕ) (s : σ) (x : ι) : Option ℕ :=
  if p (step s x) then g <|> some (Timed.start x) else none

/-- The start of the input from which on `p` has held in every state of the run, if it holds. -/
def heldSince (s : σ) (xs : List ι) : Option ℕ := history step (heldUpd step p) none s xs

/-- The time is kept as long as the property holds, and set when it begins to hold. -/
@[simp] lemma heldSince_concat {s : σ} {xs : List ι} {x : ι} :
    heldSince step p s (xs ++ [x])
      = if p (run step s (xs ++ [x])) then heldSince step p s xs <|> some (Timed.start x)
        else none := by
  simp [heldSince, heldUpd]

/-- Where the property fails there is no time. -/
lemma heldSince_of_not {s : σ} {xs : List ι} (h : p (run step s xs) = false) :
    heldSince step p s xs = none := by
  induction xs using List.reverseRecOn with
  | nil => rfl
  | append_singleton ys y _ => rw [heldSince_concat, h, if_neg (by simp)]

/-- A value that has been held keeps its time as long as it is held. -/
lemma heldSince_concat_of_held {s : σ} {xs : List ι} {x : ι} {w : ℕ}
    (h : p (run step s (xs ++ [x])) = true) (held : heldSince step p s xs = some w) :
    heldSince step p s (xs ++ [x]) = some w := by
  rw [heldSince_concat, if_pos h, held]
  rfl

/-- The property begins to hold. -/
lemma heldSince_concat_of_not {s : σ} {xs : List ι} {x : ι}
    (h : p (run step s (xs ++ [x])) = true) (held : heldSince step p s xs = none) :
    heldSince step p s (xs ++ [x]) = some (Timed.start x) := by
  rw [heldSince_concat, if_pos h, held]
  rfl

/-- The property has not begun to hold in the future. -/
lemma le_endTime_of_heldSince {t w : ℕ} {s : σ} {xs : List ι} (chron : Chronological t xs)
    (held : heldSince step p s xs = some w) : w ≤ endTime t xs := by
  induction xs using List.reverseRecOn with
  | nil => cases held
  | append_singleton ys y ih =>
    obtain ⟨chron, hstart, hstop⟩ := chronological_concat.mp chron
    rw [heldSince_concat] at held
    rw [endTime_concat]
    split_ifs at held
    cases h : heldSince step p s ys with
    | none =>
      rw [h] at held
      cases held
      exact hstop
    | some w' =>
      rw [h] at held
      cases held
      exact (ih chron h).trans (hstart.trans hstop)

/-- What holds after at least one input has been held since some time in the run. -/
lemma exists_heldSince {t : ℕ} {s : σ} {xs : List ι} (chron : Chronological t xs) (ne : xs ≠ [])
    (h : p (run step s xs) = true) : ∃ w, heldSince step p s xs = some w ∧ w ≤ endTime t xs := by
  obtain ⟨ys, y, rfl⟩ := List.eq_nil_or_concat xs |>.resolve_left ne
  rw [List.concat_eq_append] at *
  cases held : heldSince step p s ys with
  | none =>
    have := heldSince_concat_of_not step p h held
    exact ⟨_, this, le_endTime_of_heldSince step p chron this⟩
  | some w =>
    have := heldSince_concat_of_held step p h held
    exact ⟨_, this, le_endTime_of_heldSince step p chron this⟩

/-- `p` has held in every state of the run for the last `d` ms before `t`. -/
def HeldFor (d : ℕ) (s : σ) (xs : List ι) (t : ℕ) : Prop :=
  ∃ w ∈ heldSince step p s xs, w + d ≤ t

instance {d : ℕ} {s : σ} {xs : List ι} {t : ℕ} : Decidable (HeldFor step p d s xs t) :=
  inferInstanceAs (Decidable (∃ w ∈ heldSince step p s xs, w + d ≤ t))

/-- In terms of the time since when it has held. -/
lemma heldFor_iff {d w t : ℕ} {s : σ} {xs : List ι} (held : heldSince step p s xs = some w) :
    HeldFor step p d s xs t ↔ w + d ≤ t := by
  simp [HeldFor, held]

end
end Foundation
