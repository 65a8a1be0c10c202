import AstroPowerBox.Foundation.Run

/-!
# What must have happened before

`Once Q` says of a history that `Q` held at one of its steps, and `Since P Q` that `P` has held from such
a step on. A state that a run does not begin in has been entered (`since_of_cause`); what the entering
takes has happened. A cause may itself have a cause: `Q` sees the history before its step, so a chain of
causes is an `Once` within an `Once`.
-/

namespace Foundation
variable {ι : Type*} {P : List ι → Prop} {Q Q' : List ι → ι → Prop} {xs ys : List ι} {x : ι}

/-- `Q` held at some step of a run over `xs`: of the inputs before the step and its own. -/
def Once (Q : List ι → ι → Prop) (xs : List ι) : Prop := ∃ hist x, hist ++ [x] <+: xs ∧ Q hist x

/-- `P` has held from the end of a step on at which `Q` held. -/
def Since (P : List ι → Prop) (Q : List ι → ι → Prop) (xs : List ι) : Prop :=
  ∃ hist x rest, hist ++ [x] ++ rest = xs ∧ Q hist x ∧ ∀ ys, ys <+: rest → P (hist ++ [x] ++ ys)

@[simp] lemma once_nil : ¬ Once Q [] := by
  rintro ⟨hist, x, pre, -⟩
  simp at pre

/-- It was so before, or it is so now. -/
lemma once_concat : Once Q (xs ++ [x]) ↔ Once Q xs ∨ Q xs x := by
  constructor
  · rintro ⟨hist, y, pre, hy⟩
    rcases List.prefix_concat_iff.mp pre with eq | pre
    · obtain ⟨rfl, hyx⟩ := List.append_inj' eq rfl
      exact .inr (List.singleton_inj.mp hyx ▸ hy)
    · exact .inl ⟨hist, y, pre, hy⟩
  · rintro (⟨hist, y, pre, hy⟩ | hx)
    · exact ⟨hist, y, pre.trans (List.prefix_append _ _), hy⟩
    · exact ⟨xs, x, List.prefix_rfl, hx⟩

namespace Once

/-- What was once, was once in a longer past. -/
lemma mono (h : Once Q xs) (pre : xs <+: ys) : Once Q ys := by
  obtain ⟨hist, x, pre', hx⟩ := h
  exact ⟨hist, x, pre'.trans pre, hx⟩

lemma now (h : Q xs x) : Once Q (xs ++ [x]) := once_concat.mpr (.inr h)

/-- What is a cause because of something that held at every step of the run. -/
lemma imp {I : List ι → ι → Prop} (h : Once Q xs) (every : EveryStep I xs)
    (imp : ∀ hist x, I hist x → Q hist x → Q' hist x) : Once Q' xs := by
  obtain ⟨hist, x, pre, hx⟩ := h
  exact ⟨hist, x, pre, imp hist x (every hist x pre) hx⟩

/-- A step whose cause lies before it. -/
lemma trans (h : Once Q xs) (cause : ∀ hist x, Q hist x → Once Q' (hist ++ [x])) : Once Q' xs := by
  obtain ⟨hist, x, pre, hx⟩ := h
  exact (cause hist x hx).mono pre

end Once

namespace Since

/-- What has held since something was, that was once. -/
lemma once (h : Since P Q xs) : Once Q xs := by
  obtain ⟨hist, x, rest, rfl, hx, -⟩ := h
  exact ⟨hist, x, List.prefix_append _ _, hx⟩

lemma now (hx : Q xs x) (hp : P (xs ++ [x])) : Since P Q (xs ++ [x]) := by
  refine ⟨xs, x, [], by simp, hx, fun ys pre => ?_⟩
  rw [List.prefix_nil.mp pre, List.append_nil]
  exact hp

/-- It holds on as long as the property does. -/
lemma concat (h : Since P Q xs) (hp : P (xs ++ [x])) : Since P Q (xs ++ [x]) := by
  obtain ⟨hist, y, rest, rfl, hy, hrest⟩ := h
  refine ⟨hist, y, rest ++ [x], by simp, hy, fun ys pre => ?_⟩
  rcases List.prefix_concat_iff.mp pre with rfl | pre
  · rwa [← List.append_assoc]
  · exact hrest ys pre

end Since

/-- What a run has put out was put out by one of its steps. -/
lemma once_of_mem_outputs {σ ο : Type*} {step : σ → ι → σ} {out : σ → ι → List ο} {s : σ} {y : ο}
    (h : y ∈ outputs step out s xs) : Once (fun hist x => y ∈ out (run step s hist) x) xs := by
  induction xs using List.reverseRecOn with
  | nil => cases h
  | append_singleton xs x ih =>
    rw [outputs_concat] at h
    exact once_concat.mpr ((List.mem_append.mp h).imp_left ih)

/-- What does not hold at the beginning, and comes to hold at steps with `Q` only, has held since such a
step. -/
theorem since_of_cause (init : ¬ P [])
    (cause : EveryStep (fun hist x => ¬ P hist → P (hist ++ [x]) → Q hist x) xs) (h : P xs) :
    Since P Q xs := by
  induction xs using List.reverseRecOn with
  | nil => exact absurd h init
  | append_singleton xs x ih =>
    obtain ⟨cause, hcause⟩ := everyStep_concat.mp cause
    by_cases hp : P xs
    · exact (ih cause hp).concat h
    · exact .now (hcause hp h) h

end Foundation
