import AstroPowerBox.Battery.Loop
import AstroPowerBox.Foundation.Interpolation

/-!
# State of charge from the resting voltage

Over exact rationals `_getSoCFromRestingVoltage` is the look-up in a table of voltages and states of
charge, for every table that ascends in both. `soc_lookup` takes over what is known of such look-ups;
`restingVoltageCurve` is one of the tables, with 13.0 V in it twice.
-/

namespace AstroPowerBox.Battery
open Foundation

/-- The voltage of an entry. -/
def LutEntry.volts (entry : LutEntry .exact) : ℚ := entry.totalVoltage.val

/-- The state of charge of an entry. -/
def LutEntry.percent (entry : LutEntry .exact) : ℚ := entry.stateOfCharge.val

section
variable {R : Rounding} {prevEntry entry a : LutEntry R} {entries : List (LutEntry R)}
  {restingBatVoltage : Rounded R}

/-- The loop interpolates on the segment at which it stops. -/
lemma interpolate_of_segment (h : Interpolation.segment LutEntry.totalVoltage a entries
      restingBatVoltage = some (prevEntry, entry)) :
    interpolate a entries restingBatVoltage =
      prevEntry.stateOfCharge + (entry.stateOfCharge - prevEntry.stateOfCharge) *
        (restingBatVoltage - prevEntry.totalVoltage) /
          (entry.totalVoltage - prevEntry.totalVoltage) := by
  induction entries generalizing a with
  | nil => cases h
  | cons b entries ih =>
    rw [Interpolation.segment] at h
    rw [interpolate]
    split_ifs at h ⊢
    · exact ih h
    · cases h
      rfl

end

section
variable {first prevEntry e : LutEntry .exact} {entries before after : List (LutEntry .exact)}
  {restingBatVoltage : Rounded .exact}

/-- The loop of the source is the interpolation of the library, on the values. -/
lemma interpolate_val : (interpolate prevEntry entries restingBatVoltage).val
    = Interpolation.interpolate LutEntry.volts LutEntry.percent prevEntry entries
        restingBatVoltage.val := by
  induction entries generalizing prevEntry with
  | nil => exact Rounded.zero_val
  | cons entry entries ih =>
    rw [interpolate, Interpolation.interpolate, ← ih]
    exact apply_ite Rounded.val _ _ _

/-- The function of the source is the lookup of the library, on the values. -/
lemma socFromTable_val : (socFromTable first entries restingBatVoltage).val
    = Interpolation.lookup LutEntry.volts LutEntry.percent first entries restingBatVoltage.val := by
  simp only [socFromTable, Interpolation.lookup, apply_ite Rounded.val, interpolate_val]
  rfl

/-- The loop stops at a segment, and what it divides by is not zero. -/
def FindsSegment (first : LutEntry .exact) (entries : List (LutEntry .exact))
    (restingBatVoltage : Rounded .exact) : Prop :=
  ∃ prevEntry entry, Interpolation.segment LutEntry.totalVoltage first entries restingBatVoltage
      = some (prevEntry, entry) ∧
    entry.totalVoltage - prevEntry.totalVoltage ≠ 0 ∧
    socFromTable first entries restingBatVoltage =
      prevEntry.stateOfCharge + (entry.stateOfCharge - prevEntry.stateOfCharge) *
        (restingBatVoltage - prevEntry.totalVoltage) / (entry.totalVoltage - prevEntry.totalVoltage)

/-- Between the ends of the table the loop finds a segment. -/
lemma findsSegment (lower : first.totalVoltage < restingBatVoltage)
    (upper : restingBatVoltage < (entries.getLastD first).totalVoltage) :
    FindsSegment first entries restingBatVoltage := by
  obtain ⟨prevEntry, entry, hseg, hlower, hupper⟩ := Interpolation.exists_segment lower upper.le
  refine ⟨prevEntry, entry, hseg, fun hzero => ?_, ?_⟩
  · have hval : entry.volts - prevEntry.volts = 0 := congrArg Rounded.val hzero
    exact absurd (Rounded.ext (sub_eq_zero.mp hval)) (hlower.trans_le hupper).ne'
  · rw [socFromTable, if_neg upper.not_ge, if_neg lower.not_ge, interpolate_of_segment hseg]

section
variable (asc : Interpolation.Ascending LutEntry.totalVoltage LutEntry.stateOfCharge (first :: entries))
include asc

/-- The state of charge is between the first and the last one of the table. -/
lemma socFromTable_mem : first.stateOfCharge ≤ socFromTable first entries restingBatVoltage ∧
    socFromTable first entries restingBatVoltage ≤ (entries.getLastD first).stateOfCharge := by
  have hasc : Interpolation.Ascending LutEntry.volts LutEntry.percent (first :: entries) := asc
  simp only [Rounded.le_def, socFromTable_val]
  exact Interpolation.lookup_bounds hasc

/-- A higher voltage gives no lower state of charge. -/
lemma socFromTable_mono : Monotone (socFromTable first entries) := by
  have hasc : Interpolation.Ascending LutEntry.volts LutEntry.percent (first :: entries) := asc
  intro v w h
  simp only [Rounded.le_def, socFromTable_val]
  exact Interpolation.lookup_monotone hasc h

/-- At the voltage of an entry the state of charge is the one of the entry. -/
lemma socFromTable_entry (table : first :: entries = before ++ e :: after)
    (new : ∀ b ∈ before, b.totalVoltage ≠ e.totalVoltage)
    (lower : first.totalVoltage < e.totalVoltage)
    (upper : e.totalVoltage < (entries.getLastD first).totalVoltage) :
    socFromTable first entries e.totalVoltage = e.stateOfCharge := by
  have hasc : Interpolation.Ascending LutEntry.volts LutEntry.percent (first :: entries) := asc
  ext
  rw [socFromTable_val]
  refine Interpolation.lookup_entry hasc table (fun b hb heq => ?_) lower upper
  exact new b hb (Rounded.ext heq)

end

/-- The table of the source is in ascending order. -/
lemma restingVoltageCurve_ascending : Interpolation.Ascending LutEntry.totalVoltage
    LutEntry.stateOfCharge (restingVoltageCurve : List (LutEntry .exact)) := by
  decide +kernel

/-- The look-up in a table that ascends in voltage and in state of charge: strictly between the end
voltages the loop finds a segment and divides by its length, which is not zero; the result lies
between the ends, is monotone, and is that of the first matching entry at the voltages of the table. -/
theorem soc_lookup (first : LutEntry .exact) (entries : List (LutEntry .exact))
    (asc : Interpolation.Ascending LutEntry.totalVoltage LutEntry.stateOfCharge (first :: entries)) :
    let last := entries.getLastD first
    (∀ v, first.totalVoltage < v → v < last.totalVoltage → FindsSegment first entries v) ∧
    (∀ v, first.stateOfCharge ≤ socFromTable first entries v ∧
      socFromTable first entries v ≤ last.stateOfCharge) ∧
    Monotone (socFromTable first entries) ∧
    (∀ before e after, first :: entries = before ++ e :: after →
      (∀ b ∈ before, b.totalVoltage ≠ e.totalVoltage) →
      first.totalVoltage < e.totalVoltage → e.totalVoltage < last.totalVoltage →
      socFromTable first entries e.totalVoltage = e.stateOfCharge) :=
  ⟨fun _ => findsSegment, fun _ => socFromTable_mem asc, socFromTable_mono asc,
    fun _ _ _ => socFromTable_entry asc⟩

/-- The curve of the battery. -/
theorem soc_lookup_restingVoltageCurve :
    (∀ v, (10 : Rounded .exact) < v → v < (13.6 : Rounded .exact) →
      FindsSegment ⟨10, 0⟩ restingVoltageCurve.tail v) ∧
    (∀ v : Rounded .exact, 0 ≤ getSoCFromRestingVoltage v ∧ getSoCFromRestingVoltage v ≤ 100) ∧
    Monotone (getSoCFromRestingVoltage (R := .exact)) ∧
    getSoCFromRestingVoltage (13 : Rounded .exact) = 40 := by
  obtain ⟨hfinds, hbounds, hmono, hentry⟩ :=
    soc_lookup ⟨10, 0⟩ restingVoltageCurve.tail restingVoltageCurve_ascending
  refine ⟨hfinds, hbounds, hmono, ?_⟩
  exact hentry [⟨10, 0⟩, ⟨12, 10⟩, ⟨12.8, 20⟩, ⟨12.9, 30⟩] ⟨13, 40⟩
    [⟨13, 50⟩, ⟨13.1, 60⟩, ⟨13.2, 70⟩, ⟨13.3, 80⟩, ⟨13.4, 90⟩, ⟨13.6, 100⟩] rfl (by decide +kernel)
    (by decide +kernel) (by decide +kernel)

end
end AstroPowerBox.Battery
