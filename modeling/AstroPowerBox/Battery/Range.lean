import AstroPowerBox.Battery.Resting

/-!
# Range of the charge

Every sample clamps what it computes, so counter, remaining charge and state of charge stay in their
ranges (`InRange.loop`). What `_initFromMemory` loads is not clamped; `range_iff` says that this is the
only way out.
-/

namespace AstroPowerBox.Battery
open Foundation

/-- The counter and the remaining charge (source `getChargeRemaining`) lie between zero and the
capacity (source `getCapacityTotal`), the state of charge (source `getSoC`) between 0 and 100. -/
structure InRange (s : Lifepo4Battery .binary32) : Prop where
  fine_nonneg : 0 ≤ s.chargeRemainingFine.toInt
  fine_le : s.chargeRemainingFine.toInt ≤ (chargeTotalFine .binary32).toInt
  charge_nonneg : 0 ≤ s.chargeRemaining
  charge_le : s.chargeRemaining ≤ chargeTotal
  soc_nonneg : 0 ≤ s.soc
  soc_le : s.soc ≤ 100

/-- What a file with a possible charge holds. -/
def Possible (remainingCharge : Rounded .binary32) : Prop :=
  0 ≤ remainingCharge ∧ remainingCharge ≤ chargeTotal

/-! ## The operations -/

lemma toInt_chargeTotalFine : (chargeTotalFine .binary32).toInt = 108000002048 := by
  decide +kernel

/-- A clamped percentage is one. -/
lemma percent_mem {R : Rounding} (x : Rounded R) : 0 ≤ min 100 (max 0 x) ∧ min 100 (max 0 x) ≤ 100 := by
  have h100 : (0 : Rounded R) ≤ 100 := Rounded.ofInt_nonneg (n := 100) (by norm_num)
  exact ⟨le_min h100 (le_max_left _ _), min_le_left _ _⟩

/-- Clamping commutes with reading the number. -/
lemma toInt_clamp {a t : Int64} : (max (min a t) 0).toInt = max (min a.toInt t.toInt) 0 := by
  have h0 : (0 : Int64).toInt = 0 := rfl
  change (if (if a ≤ t then a else t) ≤ 0 then 0 else if a ≤ t then a else t).toInt = _
  split_ifs <;> rw [Int64.le_iff_toInt_le] at * <;> omega

/-- A clamped counter is between zero and the capacity. -/
lemma toInt_clamp_mem {a t : Int64} (h : 0 ≤ t.toInt) :
    0 ≤ (max (min a t) 0).toInt ∧ (max (min a t) 0).toInt ≤ t.toInt := by
  rw [toInt_clamp]
  exact ⟨le_max_right _ _, max_le (min_le_right _ _) h⟩

variable {s : Lifepo4Battery .binary32} {x : Sample .binary32} {c : BatteryCall .binary32}
  {calls : List (BatteryCall .binary32)} {r : Rounded .binary32}

/-- The charge that a voltage stands for is at most that of a full battery, which both roundings of
the percentage leave as it is. -/
lemma toInt_chargeFromVoltage_mem :
    0 ≤ x.chargeFromVoltage.toInt ∧
      x.chargeFromVoltage.toInt ≤ (chargeTotalFine .binary32).toInt := by
  obtain ⟨hnonneg, hle⟩ := percent_mem (getSoCFromRestingVoltage x.voltage)
  have hmul : 0 ≤ Rounded.ofInt (chargeTotalFine .binary32).toInt * x.socFromVoltage :=
    Rounded.mul_nonneg (by decide +kernel) hnonneg
  have hcharge : 0 ≤ Rounded.ofInt (chargeTotalFine .binary32).toInt * x.socFromVoltage / 100 :=
    Rounded.div_nonneg hmul (by decide +kernel)
  have hfull : Rounded.ofInt (chargeTotalFine .binary32).toInt * x.socFromVoltage / 100
      ≤ Rounded.ofInt (chargeTotalFine .binary32).toInt * 100 / 100 :=
    Rounded.div_le_div_right (Rounded.mul_le_mul_left hle (by decide +kernel)) (by decide +kernel)
  have htrunc := Rounded.trunc_le_trunc hcharge hfull
  have htotal : (Rounded.ofInt (chargeTotalFine .binary32).toInt * 100 / 100
      : Rounded .binary32).trunc = 108000002048 := by decide +kernel
  have hpos := Rounded.trunc_nonneg hcharge
  rw [htotal] at htrunc
  rw [Sample.chargeFromVoltage, Int64.toInt_ofInt_of_le (by omega) (by omega)]
  exact ⟨hpos, htrunc.trans_eq toInt_chargeTotalFine.symm⟩

/-- Integrating a current clamps the counter. -/
lemma InRange.integrate (h : InRange s) : InRange (s.integrate x) := by
  obtain ⟨hnonneg, hle⟩ := toInt_clamp_mem (a := s.chargeRemainingFine + (s.deltaCharge x).toInt64)
    (t := chargeTotalFine .binary32) (by rw [toInt_chargeTotalFine]; norm_num)
  have hfull : (Rounded.ofInt (chargeTotalFine .binary32).toInt / 1000000 : Rounded .binary32)
      = chargeTotal := by decide +kernel
  exact {
    fine_nonneg := hnonneg
    fine_le := hle
    charge_nonneg := Rounded.div_nonneg (Rounded.ofInt_nonneg hnonneg) (by decide +kernel)
    charge_le := by
      rw [← hfull]
      exact Rounded.div_le_div_right (Rounded.ofInt_le_ofInt hle) (by decide +kernel)
    soc_nonneg := h.soc_nonneg
    soc_le := h.soc_le }

/-- If the assessment sets the counter, then to a charge within the capacity. -/
lemma InRange.assess {achieved : Bool} (h : InRange s) : InRange (s.assess x achieved) := by
  obtain ⟨hvnonneg, hvle⟩ := percent_mem (getSoCFromRestingVoltage x.voltage)
  obtain ⟨hcnonneg, hcle⟩ := percent_mem (s.chargeRemaining / chargePerPercent)
  obtain ⟨hfnonneg, hfle⟩ := toInt_chargeFromVoltage_mem (x := x)
  rw [Lifepo4Battery.assess]
  split_ifs
  · exact { h with
      fine_nonneg := hfnonneg, fine_le := hfle, soc_nonneg := hvnonneg, soc_le := hvle }
  · exact { h with soc_nonneg := hvnonneg, soc_le := hvle }
  · exact { h with soc_nonneg := hcnonneg, soc_le := hcle }

/-- Only three variables are looked at. -/
lemma InRange.congr {s' : Lifepo4Battery .binary32} (h : InRange s)
    (hfine : s'.chargeRemainingFine = s.chargeRemainingFine)
    (hcharge : s'.chargeRemaining = s.chargeRemaining) (hsoc : s'.soc = s.soc) : InRange s' := by
  obtain ⟨h1, h2, h3, h4, h5, h6⟩ := h
  rw [← hfine] at h1 h2
  rw [← hcharge] at h3 h4
  rw [← hsoc] at h5 h6
  exact ⟨h1, h2, h3, h4, h5, h6⟩

/-- A sample keeps the ranges. -/
lemma InRange.sample (h : InRange s) : InRange (s.sample x) := by
  have hidle : InRange (if !x.idle then { s with idleCurrentSince := millis x.time } else s) := by
    split
    · exact h.congr rfl rfl rfl
    · exact h
  have hupdate : ∀ s' : Lifepo4Battery .binary32, InRange s' → InRange
      (if s'.lastUpdate ≠ 0 then (s'.integrate x).assess x (s.idleCurrentTimeAchieved x) else s') := by
    intro s' h'
    split
    · exact h'.integrate.assess
    · exact h'
  exact (hupdate _ hidle).congr rfl rfl rfl

/-- A charge that the memory can hold starts within the ranges. -/
lemma InRange.initFromMemory (h : InRange s) (hr : Possible r) : InRange (s.initFromMemory r) := by
  have hpos := Rounded.trunc_nonneg hr.1
  have hle := Rounded.trunc_le_trunc hr.1 hr.2
  have htotal : (chargeTotal : Rounded .binary32).trunc = 108000 := by decide +kernel
  have hfine : (s.initFromMemory r).chargeRemainingFine.toInt = r.trunc * 1000000 := by
    have hnat : UInt64.ofInt r.trunc * 1000000 = UInt64.ofNat (r.trunc.toNat * 1000000) := by
      rw [UInt64.ofNat_mul, UInt64.ofInt, Int.emod_eq_of_lt hpos (by omega)]
      rfl
    change (UInt64.ofInt r.trunc * 1000000).toInt64.toInt = _
    rw [hnat, UInt64.toInt64_ofNat', Int64.toInt_ofNat_of_lt (by omega)]
    omega
  exact { h with
    fine_nonneg := by rw [hfine]; omega
    fine_le := by rw [hfine, toInt_chargeTotalFine]; omega
    charge_nonneg := hr.1
    charge_le := hr.2 }

/-- A call keeps the ranges, if the battery is initialised or the file holds a possible charge. -/
lemma InRange.loop (h : InRange s) (hr : s.initialized = true ∨ Possible c.remainingCharge) :
    InRange (s.loop c) := by
  have hready : InRange (s.ready c) := by
    rw [Lifepo4Battery.ready]
    split_ifs with hinit
    · exact h
    · exact h.initFromMemory (hr.resolve_left hinit)
  rw [Lifepo4Battery.loop]
  split_ifs
  · exact hready.sample
  · exact hready

/-! ## A run from power-up -/

lemma inRange_init : InRange {} := by
  constructor <;> decide +kernel

/-- After the first call the memory has been read. -/
lemma initialized_after (ne : calls ≠ []) : (after calls).initialized = true := by
  obtain ⟨calls, c, rfl⟩ := List.eq_nil_or_concat calls |>.resolve_left ne
  rw [List.concat_eq_append, after, run_concat, Lifepo4Battery.loop]
  split_ifs <;> simp

/-- The ranges hold after every run, by one induction over the calls. -/
lemma inRange_after (h : ∀ c ∈ calls.head?, Possible c.remainingCharge) : InRange (after calls) := by
  induction calls using List.reverseRecOn with
  | nil => exact inRange_init
  | append_singleton calls c ih =>
    rw [after, run_concat]
    cases calls with
    | nil => exact inRange_init.loop (.inr (h c rfl))
    | cons d calls => exact (ih h).loop (.inl (initialized_after (by simp)))

/-- The first call takes the charge from the file, and a sample then only starts the integration. -/
lemma chargeRemaining_first : (after [c]).chargeRemaining = c.remainingCharge := by
  change (Lifepo4Battery.loop {} c).chargeRemaining = _
  rw [Lifepo4Battery.loop]
  split_ifs
  · rw [Lifepo4Battery.sample]
    cases c.sample.idle <;> rfl
  · rfl

/-- After every call the charge is in its range, exactly if the file does not hold a negative charge
or one above the capacity. -/
theorem range_iff :
    EveryStep (fun hist c => InRange (after (hist ++ [c]))) calls ↔
      ∀ c ∈ calls.head?, Possible c.remainingCharge := by
  constructor
  · rintro h c hc
    obtain ⟨rest, rfl⟩ : ∃ rest, calls = c :: rest := ⟨_, List.eq_cons_of_mem_head? hc⟩
    have hfirst : InRange (after [c]) := h [] c (by simp)
    exact ⟨chargeRemaining_first ▸ hfirst.charge_nonneg, chargeRemaining_first ▸ hfirst.charge_le⟩
  · rintro h hist c ⟨rest, rfl⟩
    refine inRange_after fun d hd => h d ?_
    rw [List.head?_append, Option.mem_def.mp hd]
    rfl

/-! ## A file with a negative charge -/

/-- A charge of -1 in the file is taken over as it is. -/
theorem range_negativeFile :
    ¬ EveryStep (fun hist c => InRange (after (hist ++ [c]))) [⟨1000, 1003, 13, 0, -1⟩] := by
  intro h
  exact absurd (h [] _ List.prefix_rfl).charge_nonneg (by decide +kernel)

end AstroPowerBox.Battery
