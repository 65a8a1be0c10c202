import Mathlib.Data.List.Induction

/-!
# Runs of a step function

A reactive component is a function `step : σ → ι → σ` from a state and an input to the next state.
`run` applies it along a list of inputs. `history` carries a history variable along a run: a value
that the component does not keep itself, and that a property of its past is stated with.

Properties of a run are proved by induction on its inputs, the last one first: `run_concat` and
`history_concat` split off the last step, `run_invariant` packages the induction for an invariant of
the state alone.

A part of a component that is driven by what the rest gives it runs over the `outputs` of the whole
run; `run_project` says when the run of the part can be taken out of the run of the whole.
-/

namespace Foundation
variable {σ ι γ : Type*}

section
variable (step : σ → ι → σ)

/-- The state after the inputs `xs`, taken in order from `s`. -/
def run (s : σ) (xs : List ι) : σ := xs.foldl step s

@[simp] lemma run_nil {s : σ} : run step s [] = s := rfl

/-- The last input is the last step. -/
@[simp] lemma run_concat {s : σ} {xs : List ι} {x : ι} :
    run step s (xs ++ [x]) = step (run step s xs) x := by
  simp [run]

/-- A run in two parts. -/
lemma run_append {s : σ} {xs ys : List ι} :
    run step s (xs ++ ys) = run step (run step s xs) ys := by
  simp [run]

/-- The history variable after the inputs `xs`: `upd` is given its value before a step, the state
before the step and the input. -/
def history (upd : γ → σ → ι → γ) (g : γ) (s : σ) : List ι → γ
  | [] => g
  | x :: xs => history upd (upd g s x) (step s x) xs

variable {upd : γ → σ → ι → γ}

@[simp] lemma history_nil {g : γ} {s : σ} : history step upd g s [] = g := rfl

/-- The ghost state is brought up to date by the last input. -/
@[simp] lemma history_concat {g : γ} {s : σ} {xs : List ι} {x : ι} :
    history step upd g s (xs ++ [x])
      = upd (history step upd g s xs) (run step s xs) x := by
  induction xs generalizing g s with
  | nil => rfl
  | cons y ys ih => exact ih

/-- A run that only records has the inputs for its state. -/
@[simp] lemma run_record {xs ys : List ι} : run (fun hist x => hist ++ [x]) xs ys = xs ++ ys := by
  induction ys using List.reverseRecOn with
  | nil => simp
  | append_singleton zs z ih => rw [run_concat, ih, List.append_assoc]

/-- An invariant of the state that every step preserves. -/
theorem run_invariant {I : σ → Prop} {s : σ} (init : I s)
    (pres : ∀ s x, I s → I (step s x)) (xs : List ι) : I (run step s xs) := by
  induction xs using List.reverseRecOn with
  | nil => exact init
  | append_singleton ys y ih =>
    rw [run_concat]
    exact pres _ _ ih

/-- A part of the state that every step leaves as it is. -/
theorem run_keeps {f : σ → γ} (keeps : ∀ s x, f (step s x) = f s) {s : σ} {xs : List ι} :
    f (run step s xs) = f s :=
  run_invariant step (I := fun s' => f s' = f s) rfl (fun s' x h => (keeps s' x).trans h) xs

end

/-! ## The run of a part -/

section
variable {τ ο : Type*} (step : σ → ι → σ) (out : σ → ι → List ο)

/-- What the steps of a run put out, in order. -/
def outputs (s : σ) (xs : List ι) : List ο := history step (fun g s x => g ++ out s x) [] s xs

@[simp] lemma outputs_nil {s : σ} : outputs step out s [] = [] := rfl

/-- The last input adds its outputs. -/
@[simp] lemma outputs_concat {s : σ} {xs : List ι} {x : ι} :
    outputs step out s (xs ++ [x]) = outputs step out s xs ++ out (run step s xs) x := by
  simp [outputs]

/-- A part whose every step takes the outputs of the step of the whole runs over the outputs of the
run. -/
theorem run_project (proj : σ → τ) {step' : τ → ο → τ}
    (sim : ∀ s x, proj (step s x) = run step' (proj s) (out s x)) {s : σ} {xs : List ι} :
    proj (run step s xs) = run step' (proj s) (outputs step out s xs) := by
  induction xs using List.reverseRecOn with
  | nil => rfl
  | append_singleton ys y ih => rw [run_concat, sim, ih, outputs_concat, run_append]

/-- The outputs of a run in two parts. -/
lemma outputs_append {s : σ} {xs ys : List ι} :
    outputs step out s (xs ++ ys) = outputs step out s xs ++ outputs step out (run step s xs) ys := by
  induction ys using List.reverseRecOn with
  | nil => simp
  | append_singleton zs z ih =>
    rw [← List.append_assoc, outputs_concat, outputs_concat, ih, run_append, List.append_assoc]

/-- What was put out stays put out. -/
lemma outputs_mono {s : σ} {xs ys : List ι} (pre : xs <+: ys) :
    outputs step out s xs <+: outputs step out s ys := by
  obtain ⟨zs, rfl⟩ := pre
  rw [outputs_append]
  exact List.prefix_append _ _

/-- Such a part puts out by itself what it puts out in the whole. -/
lemma outputs_project {π : Type*} {out' : σ → ι → List π} (proj : σ → τ) {step' : τ → ο → τ}
    {put : τ → ο → List π} (sim : ∀ s x, proj (step s x) = run step' (proj s) (out s x))
    (puts : ∀ s x, out' s x = outputs step' put (proj s) (out s x)) {s : σ} {xs : List ι} :
    outputs step out' s xs = outputs step' put (proj s) (outputs step out s xs) := by
  induction xs using List.reverseRecOn with
  | nil => rfl
  | append_singleton ys y ih =>
    rw [outputs_concat, outputs_concat, outputs_append, ih, puts, run_project step out proj sim]

end

/-! ## Every step of a run -/

/-- `Q` holds at every step of a run over `xs`: of the inputs before the step and its own. -/
def EveryStep (Q : List ι → ι → Prop) (xs : List ι) : Prop :=
  ∀ hist x, hist ++ [x] <+: xs → Q hist x

variable {Q Q' : List ι → ι → Prop} {xs : List ι} {x : ι}

@[simp] lemma everyStep_nil : EveryStep Q [] := by
  intro hist x pre
  simp at pre

/-- Every step before the last one, and the last one. -/
lemma everyStep_concat : EveryStep Q (xs ++ [x]) ↔ EveryStep Q xs ∧ Q xs x := by
  constructor
  · intro h
    refine ⟨fun hist y pre => h hist y (pre.trans (List.prefix_append _ _)), ?_⟩
    exact h xs x List.prefix_rfl
  · rintro ⟨h, hx⟩ hist y pre
    rcases List.prefix_concat_iff.mp pre with eq | pre
    · obtain ⟨rfl, hyx⟩ := List.append_inj' eq rfl
      rwa [List.singleton_inj.mp hyx]
    · exact h hist y pre

/-- The first step, and every step after it with the first one in its past. -/
lemma everyStep_cons : EveryStep Q (x :: xs) ↔ Q [] x ∧ EveryStep (fun hist => Q (x :: hist)) xs := by
  constructor
  · intro h
    exact ⟨h [] x (by simp), fun hist y pre => h (x :: hist) y (by simpa using pre)⟩
  · rintro ⟨hx, h⟩ hist y pre
    cases hist with
    | nil =>
      obtain ⟨rfl, -⟩ := List.cons_prefix_cons.mp pre
      exact hx
    | cons z hist =>
      obtain ⟨rfl, hpre⟩ := List.cons_prefix_cons.mp pre
      exact h hist y hpre

instance decidableEveryStep : ∀ (Q : List ι → ι → Prop) [∀ hist x, Decidable (Q hist x)]
    (xs : List ι), Decidable (EveryStep Q xs)
  | _, _, [] => .isTrue everyStep_nil
  | Q, _, x :: xs =>
    have := decidableEveryStep (fun hist => Q (x :: hist)) xs
    decidable_of_iff _ everyStep_cons.symm

/-- A run of one step. -/
lemma everyStep_singleton : EveryStep Q [x] ↔ Q [] x := by
  have h : EveryStep Q ([] ++ [x]) ↔ EveryStep Q [] ∧ Q [] x := everyStep_concat
  simpa using h

/-- It holds of every shorter run. -/
lemma EveryStep.of_prefix {ys : List ι} (h : EveryStep Q xs) (pre : ys <+: xs) : EveryStep Q ys :=
  fun hist y pre' => h hist y (pre'.trans pre)

/-- What holds at a step because `Q` held at every step up to it, holds at every step. -/
lemma EveryStep.imp (h : EveryStep Q xs)
    (imp : ∀ hist x, EveryStep Q (hist ++ [x]) → Q' hist x) : EveryStep Q' xs :=
  fun hist x pre => imp hist x (h.of_prefix pre)

end Foundation
