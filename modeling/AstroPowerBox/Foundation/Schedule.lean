import AstroPowerBox.Foundation.Clock

/-!
# Periodic work on a wrapping clock

A component that is called again and again does its work only when a reading of the clock has reached
a deadline, and the work puts the deadline off by a delay (`Schedule`). Deadline and reading are both
wrapped, so a call that is late enough for the work may be turned away. `punctual_iff` says that this
happens to exactly those calls that find the counter wrapped past the deadline.
-/

namespace Foundation
variable {σ ι : Type*} [Timed ι]

/-- A step function with periodic work. -/
structure Schedule (σ ι : Type*) [Timed ι] where
  step : σ → ι → σ
  deadline : σ → UInt32
  delay : σ → UInt32
  delay_step : ∀ s x, delay (step s x) = delay s
  deadline_step : ∀ s x, deadline (step s x) =
    if deadline s ≤ millis (Timed.start x) then millis (Timed.stop x) + delay s else deadline s

/-- Every call comes less than `d` ms after the one before it, and the first one after `t`. -/
def GapsBelow (d t : ℕ) (xs : List ι) : Prop :=
  EveryStep (fun hist x => Timed.start x < endTime t hist + d) xs

instance {d t : ℕ} {xs : List ι} : Decidable (GapsBelow d t xs) :=
  inferInstanceAs (Decidable (EveryStep _ _))

namespace Schedule
variable (S : Schedule σ ι)

/-- The work is done. -/
def due (s : σ) (x : ι) : Bool := S.deadline s ≤ millis (Timed.start x)

/-- The time at which a run has last done the work. -/
def lastWork (s : σ) (xs : List ι) : Option ℕ :=
  history S.step (fun u s x => if S.due s x then some (Timed.stop x) else u) none s xs

/-- A call made at least the delay after the last work does the work. -/
def Punctual (s : σ) (hist : List ι) (x : ι) : Prop :=
  ∀ u ∈ S.lastWork s hist, u + (S.delay s).toNat ≤ Timed.start x →
    S.due (run S.step s hist) x = true

/-- The counter has wrapped past the deadline that the last work has set. -/
def Overrun (s : σ) (hist : List ι) (x : ι) : Prop :=
  ∃ u ∈ S.lastWork s hist, WrappedPast (u + (S.delay s).toNat) (Timed.start x)

variable {S} {s : σ} {hist xs : List ι} {x : ι}

/-- The delay never changes. -/
@[simp] lemma delay_run : S.delay (run S.step s xs) = S.delay s := run_keeps S.step S.delay_step

/-- A step that is due is the last one from then on. -/
lemma lastWork_concat : S.lastWork s (hist ++ [x]) =
    if S.due (run S.step s hist) x then some (Timed.stop x) else S.lastWork s hist :=
  history_concat _

/-- The deadline is the one that the last work has set. -/
lemma deadline_run {u : ℕ} (last : S.lastWork s xs = some u) :
    S.deadline (run S.step s xs) = millis u + S.delay s := by
  induction xs using List.reverseRecOn with
  | nil => cases last
  | append_singleton ys y ih =>
    rw [lastWork_concat, due] at last
    rw [run_concat, S.deadline_step, delay_run]
    split_ifs with hdue
    · rw [if_pos (decide_eq_true hdue)] at last
      cases last
      rfl
    · rw [if_neg (by simpa using hdue)] at last
      exact ih last

/-- A step is late only by the wrap of its deadline. -/
lemma punctual_iff_not_overrun : S.Punctual s hist x ↔ ¬ S.Overrun s hist x := by
  rw [Punctual, Overrun]
  push Not
  refine forall₂_congr fun u last => ?_
  rw [← lt_deadline_sound_iff, due, deadline_run last, decide_eq_true_iff, ← not_lt,
    ← UInt32.not_lt, not_imp_not]

/-- The work is never missed exactly in the runs in which no call comes when the counter has wrapped
past the deadline. -/
theorem punctual_iff :
    EveryStep (S.Punctual s) xs ↔ EveryStep (fun hist x => ¬ S.Overrun s hist x) xs :=
  forall₃_congr fun _ _ _ => punctual_iff_not_overrun

end Schedule
end Foundation
