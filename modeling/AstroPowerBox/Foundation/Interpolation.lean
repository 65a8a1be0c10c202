import Mathlib.Algebra.Order.Field.Basic
import Mathlib.Tactic.GCongr

/-!
# Piecewise linear interpolation

A table is a list of entries with two coordinates. A look-up between the two ends goes to the first
entry that is not below the argument, and interpolates between this entry and the one before it; past
the ends it returns the value of the end. The coordinates may repeat: a segment of length zero is
never the one that is found (`exists_segment`), and the look-up is monotone over the whole table
(`lookup_monotone`).
-/

namespace Foundation.Interpolation
variable {α K : Type*} (x y : α → K)

section
variable [LinearOrder K]

/-- The segment of the table `a :: entries` that holds `v`. -/
def segment : α → List α → K → Option (α × α)
  | _, [], _ => none
  | a, b :: entries, v => if x b < v then segment b entries v else some (a, b)

/-- Both coordinates go up along the table, not necessarily strictly. -/
def Ascending (entries : List α) : Prop := entries.Pairwise fun a b => x a ≤ x b ∧ y a ≤ y b

instance {entries : List α} : Decidable (Ascending x y entries) :=
  inferInstanceAs (Decidable (List.Pairwise _ _))

variable {x y} {a b : α} {entries : List α} {v : K}

/-- Between the ends there is a segment, and it is not of length zero. -/
theorem exists_segment (lower : x a < v) (upper : v ≤ x (entries.getLastD a)) :
    ∃ p q, segment x a entries v = some (p, q) ∧ x p < v ∧ v ≤ x q := by
  induction entries generalizing a with
  | nil => exact absurd lower upper.not_gt
  | cons b entries ih =>
    rw [List.getLastD_cons] at upper
    rw [segment]
    split_ifs with h
    · exact ih h upper
    · exact ⟨a, b, rfl, lower, not_lt.mp h⟩

/-- The rest of an ascending table is ascending. -/
lemma Ascending.tail (asc : Ascending x y (a :: entries)) : Ascending x y entries :=
  (List.pairwise_cons.mp asc).2

/-- The first entry is the least. -/
lemma Ascending.le (asc : Ascending x y (a :: entries)) (h : b ∈ entries) : x a ≤ x b ∧ y a ≤ y b :=
  (List.pairwise_cons.mp asc).1 b h

/-- The last value is the greatest. -/
lemma Ascending.le_last (asc : Ascending x y (a :: entries)) : y a ≤ y (entries.getLastD a) := by
  cases entries with
  | nil => exact le_rfl
  | cons b entries =>
    rw [List.getLastD_cons]
    exact (asc.le List.getLastD_mem_cons).2

end

section
variable [Field K]

/-- The line through two entries. -/
def lerp (a b : α) (v : K) : K := y a + (y b - y a) * (v - x a) / (x b - x a)

@[simp] lemma lerp_left {a b : α} : lerp x y a b (x a) = y a := by
  simp [lerp]

variable [LinearOrder K]

/-- The value at `v` on its segment. -/
def interpolate : α → List α → K → K
  | _, [], _ => 0
  | a, b :: entries, v => if x b < v then interpolate b entries v else lerp x y a b v

/-- The value of the table `first :: entries` at `v`. -/
def lookup (first : α) (entries : List α) (v : K) : K :=
  let last := entries.getLastD first
  if x last ≤ v then y last
  else if v ≤ x first then y first
  else interpolate x y first entries v

variable {x y} {a b first e : α} {entries before after : List α} {v w : K}

/-- The loop interpolates in the segment that it finds. -/
lemma interpolate_of_segment {p q : α} (h : segment x a entries v = some (p, q)) :
    interpolate x y a entries v = lerp x y p q v := by
  induction entries generalizing a with
  | nil => cases h
  | cons b entries ih =>
    rw [segment] at h
    rw [interpolate]
    split_ifs at h ⊢
    · exact ih h
    · cases h
      rfl

/-- At its right end a segment has the right value. -/
lemma lerp_right (h : x a < x b) : lerp x y a b (x b) = y b := by
  have hne : x b - x a ≠ 0 := sub_ne_zero.mpr h.ne'
  rw [lerp, mul_div_cancel_right₀ _ hne]
  exact add_sub_cancel _ _

/-- At the first entry with some argument the value is that of the entry. -/
lemma interpolate_entry (lower : x a < x e) (below : ∀ b ∈ before, x b < x e) :
    interpolate x y a (before ++ e :: after) (x e) = y e := by
  induction before generalizing a with
  | nil =>
    rw [List.nil_append, interpolate, if_neg (lt_irrefl _)]
    exact lerp_right lower
  | cons b before ih =>
    have hb : x b < x e := below b List.mem_cons_self
    rw [List.cons_append, interpolate, if_pos hb]
    exact ih hb fun c hc => below c (List.mem_cons_of_mem b hc)

/-- At an entry of its own argument the lookup gives the value of the entry. -/
theorem lookup_entry (asc : Ascending x y (first :: entries))
    (table : first :: entries = before ++ e :: after) (new : ∀ b ∈ before, x b ≠ x e)
    (lower : x first < x e) (upper : x e < x (entries.getLastD first)) :
    lookup x y first entries (x e) = y e := by
  rw [lookup, if_neg upper.not_ge, if_neg lower.not_ge]
  cases before with
  | nil =>
    obtain ⟨rfl, -⟩ := List.cons.inj table
    exact absurd lower (lt_irrefl _)
  | cons b before =>
    obtain ⟨rfl, rfl⟩ := List.cons.inj table
    refine interpolate_entry lower fun c hc => ?_
    have hle := (List.pairwise_append.mp asc.tail).2.2 c hc e List.mem_cons_self
    exact hle.1.lt_of_ne (new c (List.mem_cons_of_mem _ hc))

/-! ## Order -/

variable [IsStrictOrderedRing K]

/-- A segment that rises is monotone. -/
lemma lerp_mono (hx : x a ≤ x b) (hy : y a ≤ y b) (h : v ≤ w) : lerp x y a b v ≤ lerp x y a b w := by
  have hx' : 0 ≤ x b - x a := sub_nonneg.mpr hx
  have hy' : 0 ≤ y b - y a := sub_nonneg.mpr hy
  rw [lerp, lerp]
  gcongr

/-- To the right of its left end it is above the left value. -/
lemma le_lerp (hx : x a ≤ x b) (hy : y a ≤ y b) (h : x a ≤ v) : y a ≤ lerp x y a b v := by
  have hmono : lerp x y a b (x a) ≤ lerp x y a b v := lerp_mono hx hy h
  rwa [lerp_left] at hmono

/-- To the left of its right end it is below the right value. -/
lemma lerp_le (hx : x a < x b) (hy : y a ≤ y b) (h : v ≤ x b) : lerp x y a b v ≤ y b := by
  have hmono : lerp x y a b v ≤ lerp x y a b (x b) := lerp_mono hx.le hy h
  rwa [lerp_right hx] at hmono

/-- The value stays between those of the ends. -/
lemma interpolate_bounds (asc : Ascending x y (a :: entries)) (lower : x a < v)
    (upper : v ≤ x (entries.getLastD a)) :
    y a ≤ interpolate x y a entries v ∧ interpolate x y a entries v ≤ y (entries.getLastD a) := by
  induction entries generalizing a with
  | nil => exact absurd lower upper.not_gt
  | cons b entries ih =>
    obtain ⟨hx, hy⟩ := asc.le List.mem_cons_self
    rw [List.getLastD_cons] at upper ⊢
    rw [interpolate]
    split_ifs with h
    · obtain ⟨hle, hle'⟩ := ih asc.tail h upper
      exact ⟨hy.trans hle, hle'⟩
    · have hlt : x a < x b := lower.trans_le (not_lt.mp h)
      exact ⟨le_lerp hx hy lower.le, (lerp_le hlt hy (not_lt.mp h)).trans asc.tail.le_last⟩

/-- The value is monotone, also where two arguments lie in different segments. -/
lemma interpolate_mono (asc : Ascending x y (a :: entries)) (lower : x a < v) (h : v ≤ w)
    (upper : w ≤ x (entries.getLastD a)) :
    interpolate x y a entries v ≤ interpolate x y a entries w := by
  induction entries generalizing a with
  | nil => exact absurd (lower.trans_le h) upper.not_gt
  | cons b entries ih =>
    obtain ⟨hx, hy⟩ := asc.le List.mem_cons_self
    rw [List.getLastD_cons] at upper
    rw [interpolate, interpolate]
    split_ifs with hv hw hw
    · exact ih asc.tail hv upper
    · exact absurd (hv.trans_le h) hw
    · -- the segments differ: the entry between them separates the values
      have hlt : x a < x b := lower.trans_le (not_lt.mp hv)
      exact (lerp_le hlt hy (not_lt.mp hv)).trans (interpolate_bounds asc.tail hw upper).1
    · exact lerp_mono hx hy h

/-! ## The whole table -/

/-- The lookup stays between the first and the last value. -/
theorem lookup_bounds (asc : Ascending x y (first :: entries)) :
    y first ≤ lookup x y first entries v ∧ lookup x y first entries v ≤ y (entries.getLastD first) := by
  rw [lookup]
  split_ifs with hlast hfirst
  · exact ⟨asc.le_last, le_rfl⟩
  · exact ⟨le_rfl, asc.le_last⟩
  · exact interpolate_bounds asc (not_le.mp hfirst) (not_le.mp hlast).le

/-- The lookup of an ascending table is monotone: between the ends as the interpolation is, and beyond
them by its bounds. -/
theorem lookup_monotone (asc : Ascending x y (first :: entries)) :
    Monotone (lookup x y first entries) := by
  intro v w h
  rcases le_or_gt (x (entries.getLastD first)) w with hlast | hlast
  · have hw : lookup x y first entries w = y (entries.getLastD first) := if_pos hlast
    rw [hw]
    exact (lookup_bounds asc).2
  rcases le_or_gt v (x first) with hfirst | hfirst
  · have hv : lookup x y first entries v = y first := by
      rw [lookup, if_neg (h.trans_lt hlast).not_ge, if_pos hfirst]
    rw [hv]
    exact (lookup_bounds asc).1
  · rw [lookup, if_neg (h.trans_lt hlast).not_ge, if_neg hfirst.not_ge]
    rw [lookup, if_neg hlast.not_ge, if_neg (hfirst.trans_le h).not_ge]
    exact interpolate_mono asc hfirst h hlast.le

end
end Foundation.Interpolation
