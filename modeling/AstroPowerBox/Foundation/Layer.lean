import AstroPowerBox.Foundation.Run
import Mathlib.Data.Bool.Basic
import Mathlib.Data.List.Nodup
import Mathlib.Logic.Function.Basic

/-!
# Layers

A picture says of every point whether it is lit. A layer paints some of the points and leaves the
others as they are. Layers that are put on a picture one after the other are one layer (`stack`),
and a layer that paints all points of the ones below hides them: after a run the last one alone is
seen, if it covers the ones before it (`run_onto_of_covers`).

Inverting a set of points is not a layer, but becomes one over a layer that has painted them all
(`invert_onto`). A loop that inverts points one by one inverts the set, as long as it comes to none
of them twice (`invert_of_loop`).
-/

namespace Foundation
variable {P : Type*}

abbrev Picture (P : Type*) := P → Bool

/-- What is painted at each point, if anything is. -/
def Layer (P : Type*) := P → Option Bool

namespace Layer
variable {l l' : Layer P} {c : Picture P}

/-- The picture `c` with the layer over it. -/
def onto (l : Layer P) (c : Picture P) : Picture P := fun p => (l p).getD (c p)

/-- The layer `l'` put on the layer `l`. -/
def stack (l' l : Layer P) : Layer P := fun p => (l' p).or (l p)

/-- The layer on the points of `S` only. -/
def clip (S : P → Bool) (l : Layer P) : Layer P := fun p => if S p then l p else none

/-- Every point that `l` paints is painted by `l'` too. -/
def Covers (l' l : Layer P) : Prop := ∀ p, (l p).isSome → (l' p).isSome

/-- Two layers paint what either of them paints. -/
lemma isSome_stack {p : P} : (l'.stack l p).isSome ↔ (l' p).isSome ∨ (l p).isSome := by
  simp [stack]

/-- Two drawings are one drawing of the two layers. -/
lemma onto_onto : l'.onto (l.onto c) = (l'.stack l).onto c := by
  funext p
  cases h : l' p <;> simp [onto, stack, h]

lemma Covers.refl : l.Covers l := fun _ h => h

/-- Covering layer by layer. -/
lemma Covers.stack {k k' : Layer P} (h' : k'.Covers l') (h : k.Covers l) :
    (k'.stack k).Covers (l'.stack l) :=
  fun p hp => isSome_stack.mpr ((isSome_stack.mp hp).imp (h' p) (h p))

/-- A covered layer is not seen. -/
lemma Covers.onto_onto (h : l'.Covers l) : l'.onto (l.onto c) = l'.onto c := by
  funext p
  simp only [onto]
  cases hl' : l' p with
  | some v => rfl
  | none =>
    cases hl : l p with
    | none => rfl
    | some v =>
      have hsome := h p (by simp [hl])
      simp [hl'] at hsome

/-- The last layer hides the ones that it covers. -/
theorem run_onto_of_covers {ls : List (Layer P)} (h : ∀ l ∈ ls, l'.Covers l) :
    l'.onto (run (fun c l => l.onto c) c ls) = l'.onto c := by
  induction ls using List.reverseRecOn with
  | nil => rfl
  | append_singleton ls l ih =>
    rw [run_concat, (h l (by simp)).onto_onto]
    exact ih fun l₀ h₀ => h l₀ (List.mem_append_left _ h₀)

def empty : Layer P := fun _ => none

/-- The layers of a list, the first one at the bottom. -/
def stacked (ls : List (Layer P)) : Layer P := ls.foldl (fun acc l => l.stack acc) empty

lemma stacked_concat {ls : List (Layer P)} : stacked (ls ++ [l]) = l.stack (stacked ls) := by
  rw [stacked, List.foldl_concat, stacked]

/-- A run of drawings is one drawing of all layers. -/
lemma onto_stacked {ls : List (Layer P)} :
    run (fun c l => l.onto c) c ls = (stacked ls).onto c := by
  induction ls using List.reverseRecOn with
  | nil => rfl
  | append_singleton ls l ih => rw [run_concat, ih, onto_onto, stacked_concat]

/-- A pixel is painted if one of the layers paints it. -/
lemma isSome_stacked {ls : List (Layer P)} {p : P} :
    (stacked ls p).isSome ↔ ∃ l ∈ ls, (l p).isSome := by
  induction ls using List.reverseRecOn with
  | nil => simp [stacked, empty]
  | append_singleton ls l ih =>
    rw [stacked_concat, isSome_stack, ih]
    simp only [List.mem_append, List.mem_singleton, or_and_right, exists_or, exists_eq_left]
    exact or_comm

/-! ### Two kinds of layers -/

/-- No point is painted by both. -/
def Apart (l' l : Layer P) : Prop := ∀ p, (l' p).isSome → l p = none

/-- Layers that have no pixel in common may be drawn in either order. -/
lemma Apart.onto_comm (h : l'.Apart l) : l'.onto (l.onto c) = l.onto (l'.onto c) := by
  funext p
  simp only [onto]
  cases hl' : l' p with
  | none => rfl
  | some v => simp [h p (by simp [hl'])]

/-- The last layer of a list, if there is one. -/
def last (ls : List (Layer P)) : Layer P := ls.getLast?.getD empty

@[simp] lemma last_concat {ls : List (Layer P)} : last (ls ++ [l]) = l := by
  rw [last, List.getLast?_concat, Option.getD_some]

/-- What holds of all the layers, and where nothing is painted, holds of the last one. -/
lemma of_last {Q : Layer P → Prop} {ls : List (Layer P)} (none : Q empty) (h : ∀ l ∈ ls, Q l) :
    Q (last ls) := by
  rcases List.eq_nil_or_concat' ls with rfl | ⟨before, l, rfl⟩
  · exact none
  · rw [last_concat]
    exact h l (by simp)

lemma covers_last {ls : List (Layer P)} (h : ∀ l ∈ ls, l'.Covers l) : l'.Covers (last ls) :=
  of_last (fun _ hp => nomatch hp) h

lemma apart_last {ls : List (Layer P)} (h : ∀ l ∈ ls, l.Apart l') : (last ls).Apart l' :=
  of_last (fun _ hp => nomatch hp) h

/-- Layers of two kinds in any order: if those of one kind cover each other, and those of different
kinds are apart, then the last one of each kind is seen. -/
theorem run_onto_of_apart {steps : List (Layer P ⊕ Layer P)}
    (left : ∀ l l', .inl l ∈ steps → .inl l' ∈ steps → l'.Covers l)
    (right : ∀ l l', .inr l ∈ steps → .inr l' ∈ steps → l'.Covers l)
    (apart : ∀ l l', .inl l ∈ steps → .inr l' ∈ steps → l.Apart l') :
    run (fun c step => (step.elim id id).onto c) c steps
      = (last (steps.filterMap Sum.getLeft?)).onto
          ((last (steps.filterMap Sum.getRight?)).onto c) := by
  induction steps using List.reverseRecOn with
  | nil => rfl
  | append_singleton steps step ih =>
    have hmem {x : Layer P ⊕ Layer P} (hx : x ∈ steps) : x ∈ steps ++ [step] :=
      List.mem_append_left _ hx
    have hlast : step ∈ steps ++ [step] := by simp
    rw [run_concat, ih (fun l l' h h' => left l l' (hmem h) (hmem h'))
      (fun l l' h h' => right l l' (hmem h) (hmem h'))
      (fun l l' h h' => apart l l' (hmem h) (hmem h'))]
    cases step with
    | inl l =>
      have hcovers : l.Covers (last (steps.filterMap Sum.getLeft?)) := by
        refine covers_last fun l₀ h₀ => left l₀ l (hmem ?_) hlast
        simpa using h₀
      simp only [Sum.elim_inl, id_eq, List.filterMap_append, List.filterMap_cons, Sum.getLeft?_inl,
        Sum.getRight?_inl, List.filterMap_nil, List.append_nil, last_concat]
      rw [hcovers.onto_onto]
    | inr l =>
      have hcovers : l.Covers (last (steps.filterMap Sum.getRight?)) := by
        refine covers_last fun l₀ h₀ => right l₀ l (hmem ?_) hlast
        simpa using h₀
      have hapart : (last (steps.filterMap Sum.getLeft?)).Apart l := by
        refine apart_last fun l₀ h₀ => apart l₀ l (hmem ?_) hlast
        simpa using h₀
      simp only [Sum.elim_inr, id_eq, List.filterMap_append, List.filterMap_cons, Sum.getLeft?_inr,
        Sum.getRight?_inr, List.filterMap_nil, List.append_nil, last_concat]
      rw [← hapart.onto_comm, hcovers.onto_onto]

end Layer

/-! ## Inverting -/

section
variable {l : Layer P} {c : Picture P} {S : P → Bool}

/-- The picture with the points of `S` inverted. -/
def invert (S : P → Bool) (c : Picture P) : Picture P := fun p => (S p).xor (c p)

/-- The layer with the points of `S` inverted. -/
def Layer.inverted (S : P → Bool) (l : Layer P) : Layer P := fun p => (l p).map (S p).xor

/-- What a layer has painted stays a layer. -/
lemma invert_onto (h : ∀ p, S p = true → (l p).isSome) :
    invert S (l.onto c) = (l.inverted S).onto c := by
  funext p
  simp only [invert, Layer.onto, Layer.inverted]
  cases hl : l p with
  | some v => rfl
  | none =>
    have hout : S p = false := by
      by_contra hin
      have := h p (by simpa using hin)
      simp [hl] at this
    simp [hout]

@[simp] lemma inverted_false : l.inverted (fun _ => false) = l := by
  funext p
  cases h : l p <;> simp [Layer.inverted, h]

variable [DecidableEq P]

/-- One point inverted. -/
def invertAt (c : Picture P) (p : P) : Picture P := Function.update c p (!c p)

/-- A loop that comes to every point of `S` once. -/
theorem invert_of_loop {ps : List P} (nodup : ps.Nodup) (mem : ∀ p, p ∈ ps ↔ S p = true) :
    run invertAt c ps = invert S c := by
  have hloop : ∀ ps : List P, ps.Nodup →
      run invertAt c ps = invert (fun p => decide (p ∈ ps)) c := by
    intro ps hps
    induction ps using List.reverseRecOn with
    | nil =>
      funext p
      simp [invert]
    | append_singleton ps q ih =>
      obtain ⟨hps, -, hdisjoint⟩ := List.nodup_append'.mp hps
      have hq : q ∉ ps := fun hq => hdisjoint hq (List.mem_singleton_self q)
      rw [run_concat, ih hps]
      funext p
      by_cases hp : p = q
      · subst hp
        simp [invertAt, invert, hq]
      · simp [invertAt, invert, hp]
  rw [hloop ps nodup]
  congr 1
  funext p
  rw [Bool.eq_iff_iff, decide_eq_true_iff, mem]

end
end Foundation
