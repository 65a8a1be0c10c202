import AstroPowerBox.Foundation.Clock

/-!
# Bounded progress

A component that is called again and again, with no long pause between two calls (`Steady`), comes from
one set of states to another within a bounded time (`LeadsTo`). Bounds add up along a chain (`trans`);
`of_step` and `of_timeout` begin one. A timeout measures the wrapped difference to a stamp, which may be
any value at all: the difference may just be about to wrap, and then the timeout starts again. So the
bound is the timeout and some calls, and holds from every state (`exists_window`).
-/

namespace Foundation
variable {σ ι : Type*} [Timed ι]

/-- The inputs satisfy `A` and are handled one after the other, the first not before `t`, and each has
been handled less than `d` ms after the one before it. -/
def Steady (A : ι → Prop) (d t : ℕ) : List ι → Prop
  | [] => True
  | x :: xs =>
    A x ∧ t ≤ Timed.start x ∧ Timed.start x ≤ Timed.stop x ∧ Timed.stop x < t + d ∧
      Steady A d (Timed.stop x) xs

instance decidableSteady {A : ι → Prop} [DecidablePred A] {d : ℕ} :
    ∀ (t : ℕ) (xs : List ι), Decidable (Steady A d t xs)
  | _, [] => .isTrue trivial
  | t, x :: xs =>
    have := decidableSteady (A := A) (d := d) (Timed.stop x) xs
    inferInstanceAs (Decidable (A x ∧ t ≤ Timed.start x ∧ Timed.start x ≤ Timed.stop x ∧
      Timed.stop x < t + d ∧ Steady A d (Timed.stop x) xs))

section
variable {A : ι → Prop} {d t : ℕ} {xs ys : List ι}

/-- A steady run in two parts. -/
lemma steady_append :
    Steady A d t (xs ++ ys) ↔ Steady A d t xs ∧ Steady A d (endTime t xs) ys := by
  induction xs generalizing t with
  | nil => simp [Steady]
  | cons x xs ih =>
    simp only [List.cons_append, Steady, endTime, ih]
    tauto

/-- What every step keeps holds at the end of a steady run. -/
lemma Steady.run_keeps {step : σ → ι → σ} {I : σ → Prop} {s : σ} (h : Steady A d t xs)
    (keeps : ∀ s x, A x → I s → I (step s x)) (hs : I s) : I (run step s xs) := by
  induction xs generalizing s t with
  | nil => exact hs
  | cons x xs ih =>
    obtain ⟨hx, -, -, -, hrest⟩ := h
    exact ih hrest (keeps s x hx hs)

end

/-- From a state in `P` every steady run that is long enough comes to a state in `Q` within `n` ms. -/
def LeadsTo (step : σ → ι → σ) (A : ι → Prop) (d n : ℕ) (P Q : σ → Prop) : Prop :=
  ∀ t s xs, P s → Steady A d t xs → t + n ≤ endTime t xs →
    ∃ ys, ys <+: xs ∧ Q (run step s ys) ∧ endTime t ys ≤ t + n

namespace LeadsTo
variable {step : σ → ι → σ} {A : ι → Prop} {d n m t : ℕ} {P P' Q Q' S : σ → Prop} {s : σ}
  {xs : List ι}

/-! ## Chains -/

/-- What holds at once takes no time. -/
lemma of_imp (h : ∀ s, P s → Q s) : LeadsTo step A d 0 P Q := by
  intro t s xs hs _ _
  exact ⟨[], List.nil_prefix, h s hs, le_rfl⟩

/-- More time does no harm. -/
lemma mono (h : LeadsTo step A d n P Q) (le : n ≤ m) : LeadsTo step A d m P Q := by
  intro t s xs hs steady long
  obtain ⟨ys, pre, hq, hend⟩ := h t s xs hs steady (by omega)
  exact ⟨ys, pre, hq, by omega⟩

/-- A stronger beginning does no harm. -/
lemma imp_left (h : LeadsTo step A d n P Q) (imp : ∀ s, P' s → P s) : LeadsTo step A d n P' Q :=
  fun t s xs hs => h t s xs (imp s hs)

/-- One after the other: the times add up. -/
theorem trans (h : LeadsTo step A d n P Q) (h' : LeadsTo step A d m Q S) :
    LeadsTo step A d (n + m) P S := by
  intro t s xs hs steady long
  obtain ⟨ys, ⟨zs, rfl⟩, hq, hend⟩ := h t s xs hs steady (by omega)
  rw [endTime_append] at long
  -- the rest of the run begins where the first part has ended
  obtain ⟨ws, ⟨vs, rfl⟩, hs, hend'⟩ :=
    h' (endTime t ys) (run step s ys) zs hq (steady_append.mp steady).2 (by omega)
  refine ⟨ys ++ ws, ⟨vs, by rw [List.append_assoc]⟩, ?_, ?_⟩
  · rwa [run_append]
  · rw [endTime_append]
    omega

/-- From either of two beginnings. -/
lemma or (h : LeadsTo step A d n P Q) (h' : LeadsTo step A d n P' Q) :
    LeadsTo step A d n (fun s => P s ∨ P' s) Q := by
  intro t s xs hs
  rcases hs with hs | hs
  · exact h t s xs hs
  · exact h' t s xs hs

/-- From any of a family of beginnings. -/
lemma «exists» {α : Type*} {P : α → σ → Prop} (h : ∀ v, LeadsTo step A d n (P v) Q) :
    LeadsTo step A d n (fun s => ∃ v, P v s) Q := by
  rintro t s xs ⟨v, hs⟩
  exact h v t s xs hs

/-- What every step keeps is kept on the way. -/
lemma and_keeps {I : σ → Prop} (h : LeadsTo step A d n P Q)
    (keeps : ∀ s x, A x → I s → I (step s x)) :
    LeadsTo step A d n (fun s => P s ∧ I s) fun s => Q s ∧ I s := by
  rintro t s xs ⟨hs, hi⟩ steady long
  obtain ⟨ys, ⟨zs, rfl⟩, hq, hend⟩ := h t s xs hs steady long
  have hkept : I (run step s ys) := (steady_append.mp steady).1.run_keeps keeps hi
  exact ⟨ys, ⟨zs, rfl⟩, ⟨hq, hkept⟩, hend⟩

/-- A goal that every step keeps is reached for good. -/
theorem run_of_keeps (h : LeadsTo step A d n P Q) (keeps : ∀ s x, A x → Q s → Q (step s x))
    (hs : P s) (steady : Steady A d t xs) (long : t + n ≤ endTime t xs) : Q (run step s xs) := by
  obtain ⟨ys, ⟨zs, rfl⟩, hq, -⟩ := h t s xs hs steady long
  rw [run_append]
  exact (steady_append.mp steady).2.run_keeps keeps hq

/-! ## First steps -/

/-- One step is enough, and the next one is not far. -/
lemma of_step (pos : 0 < d) (h : ∀ s x, P s → A x → Q (step s x)) : LeadsTo step A d d P Q := by
  intro t s xs hs steady long
  cases xs with
  | nil =>
    rw [endTime_nil] at long
    omega
  | cons x xs =>
    obtain ⟨hx, -, -, hstop, -⟩ := steady
    exact ⟨[x], ⟨xs, rfl⟩, h s x hs hx, hstop.le⟩

/-- A run that is in `P` when a window of time begins does not get through it: a step that begins in the
window does not stay in `P`. -/
lemma exists_of_window {W : ℕ → Prop} {a : ℕ}
    (h : ∀ s x, P s → A x → P (step s x) ∧ ¬ W (Timed.start x) ∨ Q (step s x))
    (window : ∀ u, a ≤ u → u < a + 2 * d → W u) (hs : P s) (steady : Steady A d t xs)
    (early : t < a + d) (long : a + 2 * d ≤ endTime t xs) :
    ∃ ys, ys <+: xs ∧ Q (run step s ys) ∧ endTime t ys ≤ a + 2 * d := by
  induction xs generalizing t s with
  | nil =>
    rw [endTime_nil] at long
    omega
  | cons x xs ih =>
    obtain ⟨hx, hstart, hle, hstop, hrest⟩ := steady
    rcases h s x hs hx with ⟨hp, hout⟩ | hq
    · -- the step began before the window, so it ends early enough for the next one
      have hbefore : Timed.start x < a := by
        by_contra hin
        exact hout (window _ (by omega) (by omega))
      obtain ⟨ys, pre, hq, hend⟩ := ih hp hrest (by omega) long
      exact ⟨x :: ys, List.cons_prefix_cons.mpr ⟨rfl, pre⟩, hq, hend⟩
    · refine ⟨[x], ⟨xs, rfl⟩, hq, ?_⟩
      change Timed.stop x ≤ _
      omega

/-- The window comes round before the time is up, and it is wider than a gap, so that a step falls
into it. -/
lemma of_window {W : ℕ → Prop} (pos : 0 < d)
    (h : ∀ s x, P s → A x → P (step s x) ∧ ¬ W (Timed.start x) ∨ Q (step s x))
    (window : ∀ t, ∃ a, t ≤ a ∧ a ≤ t + n ∧ ∀ u, a ≤ u → u < a + 2 * d → W u) :
    LeadsTo step A d (n + 2 * d) P Q := by
  intro t s xs hs steady long
  obtain ⟨a, hta, han, hwindow⟩ := window t
  obtain ⟨ys, pre, hq, hend⟩ := exists_of_window h hwindow hs steady (by omega) (by omega)
  exact ⟨ys, pre, hq, by omega⟩

end LeadsTo

/-! ## Timeouts -/

/-- The difference of readings grows with the time, up to wraps. -/
lemma elapsed_add {t k : ℕ} {stamp : UInt32} :
    (millis (t + k) - stamp).toNat = ((millis t - stamp).toNat + k) % 2 ^ 32 := by
  have hlt := stamp.toNat_lt
  rw [UInt32.toNat_sub, UInt32.toNat_sub, millis_toNat, millis_toNat]
  omega

/-- The times at which the measured duration is less than `n` are an interval of at most `n` ms, as far
as the counter does not come round again. -/
lemma exists_interval {n : ℕ} (stamp : UInt32) (t : ℕ) :
    ∃ b e, e ≤ b + n ∧ ∀ k < 2 ^ 32 - n, ¬ (b ≤ k ∧ k < e) → n ≤ (millis (t + k) - stamp).toNat := by
  have hlt := (millis t - stamp).toNat_lt
  generalize hr : (millis t - stamp).toNat = r at hlt
  by_cases hearly : r < n
  · refine ⟨0, n - r, by omega, fun k hk hout => ?_⟩
    rw [elapsed_add, hr]
    omega
  · -- the duration wraps, and is short for another `n` ms
    refine ⟨2 ^ 32 - r, 2 ^ 32 - r + n, le_rfl, fun k hk hout => ?_⟩
    rw [elapsed_add, hr]
    omega

/-- A time at which the measured duration is at least `n` and will stay so for `2 d` ms. -/
lemma exists_window {n d : ℕ} (room : 2 * n + 4 * d ≤ 2 ^ 32) (stamp : UInt32) (t : ℕ) :
    ∃ a, t ≤ a ∧ a ≤ t + (n + 2 * d) ∧
      ∀ u, a ≤ u → u < a + 2 * d → n ≤ (millis u - stamp).toNat := by
  obtain ⟨b, e, hlength, hlong⟩ := exists_interval (n := n) stamp t
  have hfree : ∃ k ≤ n + 2 * d, ∀ j < 2 * d, ¬ (b ≤ k + j ∧ k + j < e) := by
    by_cases hhit : b < 2 * d
    · by_cases hpast : e ≤ 0
      · exact ⟨0, by omega, fun j hj => by omega⟩
      · exact ⟨e, by omega, fun j hj => by omega⟩
    · exact ⟨0, by omega, fun j hj => by omega⟩
  obtain ⟨k, hk, hfree⟩ := hfree
  refine ⟨t + k, by omega, by omega, fun u ha hb => ?_⟩
  have hu : u = t + (k + (u - (t + k))) := by omega
  rw [hu]
  exact hlong _ (by omega) (hfree _ (by omega))

/-- A time at which both of two measured durations are at least `n` and will stay so for `2 d` ms. -/
lemma exists_common_window {n d : ℕ} (room : 3 * n + 6 * d ≤ 2 ^ 32) (stamp stamp' : UInt32)
    (t : ℕ) : ∃ a, t ≤ a ∧ a ≤ t + (2 * n + 4 * d) ∧ ∀ u, a ≤ u → u < a + 2 * d →
      n ≤ (millis u - stamp).toNat ∧ n ≤ (millis u - stamp').toNat := by
  obtain ⟨b, e, hlength, hlong⟩ := exists_interval (n := n) stamp t
  obtain ⟨b', e', hlength', hlong'⟩ := exists_interval (n := n) stamp' t
  -- now, after the one interval, or after the other
  have hfree : ∃ k ≤ 2 * n + 4 * d, ∀ j < 2 * d,
      ¬ (b ≤ k + j ∧ k + j < e) ∧ ¬ (b' ≤ k + j ∧ k + j < e') := by
    by_cases hhit : b < 2 * d ∧ 0 < e
    · by_cases hhit' : b' < e + 2 * d ∧ e < e'
      · exact ⟨e', by omega, fun j hj => by omega⟩
      · exact ⟨e, by omega, fun j hj => by omega⟩
    · by_cases hhit' : b' < 2 * d ∧ 0 < e'
      · by_cases hagain : b < e' + 2 * d ∧ e' < e
        · exact ⟨e, by omega, fun j hj => by omega⟩
        · exact ⟨e', by omega, fun j hj => by omega⟩
      · exact ⟨0, by omega, fun j hj => by omega⟩
  obtain ⟨k, hk, hfree⟩ := hfree
  refine ⟨t + k, by omega, by omega, fun u ha hb => ?_⟩
  have hu : u = t + (k + (u - (t + k))) := by omega
  rw [hu]
  obtain ⟨hout, hout'⟩ := hfree (u - (t + k)) (by omega)
  exact ⟨hlong _ (by omega) hout, hlong' _ (by omega) hout'⟩

/-- Each step stays at most until `n` ms have passed since a stamp. -/
theorem LeadsTo.of_timeout {step : σ → ι → σ} {A : ι → Prop} {d n : ℕ} {P Q : σ → Prop}
    (stamp : σ → UInt32) (pos : 0 < d) (room : 2 * n + 4 * d ≤ 2 ^ 32)
    (h : ∀ s x, P s → A x → P (step s x) ∧ stamp (step s x) = stamp s ∧
      (millis (Timed.start x) - stamp s).toNat < n ∨ Q (step s x)) :
    LeadsTo step A d (n + 4 * d) P Q := by
  have hfixed : ∀ v, LeadsTo step A d (n + 2 * d + 2 * d) (fun s => P s ∧ stamp s = v) Q := by
    intro v
    refine of_window (W := fun u => n ≤ (millis u - v).toNat) pos ?_ (exists_window room v)
    rintro s x ⟨hs, rfl⟩ hx
    rcases h s x hs hx with ⟨hp, hstamp, hlt⟩ | hq
    · exact .inl ⟨⟨hp, hstamp⟩, not_le_of_gt hlt⟩
    · exact .inr hq
  refine mono (imp_left (LeadsTo.exists hfixed) fun s hs => ⟨stamp s, hs, rfl⟩) (by omega)

end Foundation
