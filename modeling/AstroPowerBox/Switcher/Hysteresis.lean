import AstroPowerBox.Foundation.Binary
import AstroPowerBox.Foundation.Run
import AstroPowerBox.Switcher.Charge

/-!
# Charger hysteresis

The latch of `_chargeSwitchLoop` remembers that the battery was charged; the pin is written only
while it is set. `Latched` and `CutOff` say in terms of the calls when the latch is set and when the
charger is off; both are settled by their last call (`latched_concat`, `cutOff_concat`), which is how the
run is followed.
-/

namespace AstroPowerBox.Switcher
open Foundation

section
variable {R : Rounding}

/-- What a call of `_chargeSwitchLoop` reads. -/
structure ChargeCall (R : Rounding) where
  current : Rounded R
  soc : Rounded R
deriving DecidableEq

/-- A call as a step of the charge switch. -/
def ChargeSwitch.step (s : ChargeSwitch R) (c : ChargeCall R) : ChargeSwitch R :=
  s.chargeSwitchLoop c.current c.soc

/-- From some call with a charging current on, the state of charge has not been below the restart
limit. -/
def Latched (start : Rounded R) (calls : List (ChargeCall R)) : Prop :=
  ∃ j : ℕ, (∃ c ∈ calls[j]?, c.current > 0.1) ∧ ∀ k ≥ j, ∀ c ∈ calls[k]?, start ≤ c.soc

/-- The same, and it has been above the stop limit since. -/
def CutOff (start stop : Rounded R) (calls : List (ChargeCall R)) : Prop :=
  ∃ j m : ℕ, j ≤ m ∧ (∃ c ∈ calls[j]?, c.current > 0.1) ∧ (∃ c ∈ calls[m]?, c.soc > stop) ∧
    ∀ k ≥ j, ∀ c ∈ calls[k]?, start ≤ c.soc

variable {start stop : Rounded R} {calls : List (ChargeCall R)} {c : ChargeCall R}

/-- The elements of a list with one more. -/
lemma mem_getElem?_concat {k : ℕ} {d : ChargeCall R} :
    d ∈ (calls ++ [c])[k]? ↔ d ∈ calls[k]? ∨ k = calls.length ∧ d = c := by
  rw [List.getElem?_append]
  split_ifs with hlt
  · simp [hlt.ne]
  · rw [List.getElem?_eq_none (not_lt.mp hlt)]
    cases hk : k - calls.length with
    | zero =>
      have heq : k = calls.length := by omega
      simp [heq, eq_comm]
    | succ i =>
      have hne : k ≠ calls.length := by omega
      simp [hne]

/-- What holds from some call on, holds of the last one, too. -/
lemma forall_getElem?_concat {j : ℕ} (hj : j ≤ calls.length) :
    (∀ k ≥ j, ∀ d ∈ (calls ++ [c])[k]?, start ≤ d.soc) ↔
      start ≤ c.soc ∧ ∀ k ≥ j, ∀ d ∈ calls[k]?, start ≤ d.soc := by
  simp only [mem_getElem?_concat]
  constructor
  · intro h
    exact ⟨h _ hj c (.inr ⟨rfl, rfl⟩), fun k hk d hd => h k hk d (.inl hd)⟩
  · rintro ⟨hc, h⟩ k hk d (hd | ⟨-, rfl⟩)
    · exact h k hk d hd
    · exact hc

lemma le_length_of_mem {j : ℕ} {d : ChargeCall R} (h : d ∈ calls[j]?) : j ≤ calls.length :=
  (List.getElem?_eq_some_iff.mp h).1.le

/-- One more call keeps the latch, or sets it. -/
lemma latched_concat :
    Latched start (calls ++ [c]) ↔ start ≤ c.soc ∧ (Latched start calls ∨ c.current > 0.1) := by
  constructor
  · rintro ⟨j, ⟨d, hd, hcur⟩, hall⟩
    rcases mem_getElem?_concat.mp hd with hd | ⟨rfl, rfl⟩
    · obtain ⟨hc, hall⟩ := (forall_getElem?_concat (le_length_of_mem hd)).mp hall
      exact ⟨hc, .inl ⟨j, ⟨d, hd, hcur⟩, hall⟩⟩
    · exact ⟨((forall_getElem?_concat le_rfl).mp hall).1, .inr hcur⟩
  · rintro ⟨hc, ⟨j, ⟨d, hd, hcur⟩, hall⟩ | hcur⟩
    · refine ⟨j, ⟨d, mem_getElem?_concat.mpr (.inl hd), hcur⟩, ?_⟩
      exact (forall_getElem?_concat (le_length_of_mem hd)).mpr ⟨hc, hall⟩
    · refine ⟨calls.length, ⟨c, mem_getElem?_concat.mpr (.inr ⟨rfl, rfl⟩), hcur⟩, ?_⟩
      refine (forall_getElem?_concat le_rfl).mpr ⟨hc, fun k hk d hd => ?_⟩
      -- no call before this one is so late
      rw [List.getElem?_eq_none hk] at hd
      cases hd

/-- One more call keeps the charger off, or switches it off. -/
lemma cutOff_concat :
    CutOff start stop (calls ++ [c]) ↔ start ≤ c.soc ∧
      (CutOff start stop calls ∨ c.soc > stop ∧ (Latched start calls ∨ c.current > 0.1)) := by
  constructor
  · rintro ⟨j, m, hjm, hj, ⟨e, he, hstop⟩, hall⟩
    rcases mem_getElem?_concat.mp he with he | ⟨rfl, rfl⟩
    · -- both calls lie before this one
      have hle : j ≤ calls.length := hjm.trans (le_length_of_mem he)
      obtain ⟨hc, hall⟩ := (forall_getElem?_concat hle).mp hall
      have hlt : j < calls.length := lt_of_le_of_lt hjm (List.getElem?_eq_some_iff.mp he).1
      obtain ⟨d, hd, hcur⟩ := hj
      rw [List.getElem?_append_left hlt] at hd
      exact ⟨hc, .inl ⟨j, m, hjm, ⟨d, hd, hcur⟩, ⟨e, he, hstop⟩, hall⟩⟩
    · obtain ⟨hc, h⟩ := latched_concat.mp ⟨j, hj, hall⟩
      exact ⟨hc, .inr ⟨hstop, h⟩⟩
  · rintro ⟨hc, ⟨j, m, hjm, ⟨d, hd, hcur⟩, ⟨e, he, hstop⟩, hall⟩ | ⟨hstop, h⟩⟩
    · refine ⟨j, m, hjm, ⟨d, mem_getElem?_concat.mpr (.inl hd), hcur⟩,
        ⟨e, mem_getElem?_concat.mpr (.inl he), hstop⟩, ?_⟩
      exact (forall_getElem?_concat (le_length_of_mem hd)).mpr ⟨hc, hall⟩
    · obtain ⟨j, ⟨d, hd, hcur⟩, hall⟩ := latched_concat.mpr ⟨hc, h⟩
      have hj : j ≤ calls.length := by
        have hlt := (List.getElem?_eq_some_iff.mp hd).1
        rw [List.length_append, List.length_singleton] at hlt
        omega
      exact ⟨j, calls.length, hj, ⟨d, hd, hcur⟩,
        ⟨c, mem_getElem?_concat.mpr (.inr ⟨rfl, rfl⟩), hstop⟩, hall⟩

/-- A charger that is switched off has been latched. -/
lemma CutOff.latched (h : CutOff start stop calls) : Latched start calls := by
  obtain ⟨j, _, _, hj, _, hall⟩ := h
  exact ⟨j, hj, hall⟩

/-- After the calls, with the limits `stop` and `start`. -/
structure Hysteresis (start stop : Rounded R) (calls : List (ChargeCall R)) (s : ChargeSwitch R) :
    Prop where
  limits : s.chargeLimitSoC = (stop, start)
  latch : s.wasCharging = true ↔ Latched start calls
  charger : s.getCharger = false ↔ CutOff start stop calls

/-- One call, by the place of its state of charge in the band. -/
lemma Hysteresis.step {s : ChargeSwitch R} (h : Hysteresis start stop calls s) :
    Hysteresis start stop (calls ++ [c]) (s.step c) := by
  obtain ⟨hlimits, hlatch, hcharger⟩ := h
  have hset : s.Charged c.current ↔ Latched start calls ∨ c.current > 0.1 := by
    rw [ChargeSwitch.Charged, hlatch, or_comm]
  have hcases := s.chargeSwitchLoop_cases c.current c.soc
  have hlimits' : (s.step c).chargeLimitSoC = (stop, start) := by
    rw [ChargeSwitch.step, ChargeSwitch.chargeSwitchLoop_chargeLimitSoC, hlimits]
  rw [hset, hlimits] at hcases
  obtain ⟨hno, heq⟩ | ⟨-, hlow, heq⟩ | ⟨hyes, hlow, hhigh, heq⟩ | ⟨hyes, hlow, hhigh, heq⟩ := hcases
  -- a call before the battery was charged leaves the pin alone, and so has every call before it
  · have hcut : ¬CutOff start stop calls := fun hcut => hno (.inl hcut.latched)
    obtain ⟨hlatched, hcur⟩ := not_or.mp hno
    exact ⟨hlimits',
      by simp [ChargeSwitch.step, heq, latched_concat, hlatch, hlatched, hcur],
      by simp [ChargeSwitch.step, heq, cutOff_concat, hcharger, hcut, hlatched, hcur]⟩
  · have hlow : ¬start ≤ c.soc := not_le.mpr hlow
    exact ⟨hlimits',
      by simp [ChargeSwitch.step, heq, latched_concat, hlow],
      by simp [ChargeSwitch.step, heq, cutOff_concat, hlow, ChargeSwitch.getCharger]⟩
  · exact ⟨hlimits',
      by simp [ChargeSwitch.step, heq, latched_concat, hlow, hyes],
      by simp [ChargeSwitch.step, heq, cutOff_concat, hlow, hyes, hhigh, ChargeSwitch.getCharger]⟩
  -- inside the band the pin stays as it is
  · have hhigh : ¬c.soc > stop := not_lt.mpr hhigh
    refine ⟨hlimits',
      by simp [ChargeSwitch.step, heq, latched_concat, hlow, hyes], ?_⟩
    have hpin : (s.step c).getCharger = s.getCharger := by rw [ChargeSwitch.step, heq]; rfl
    rw [hpin, hcharger]
    simp [cutOff_concat, hlow, hhigh]

/-- From boot, with the limits `stop` and `start` in force. -/
lemma hysteresis_run :
    Hysteresis start stop calls (run ChargeSwitch.step { chargeLimitSoC := (stop, start) } calls) := by
  induction calls using List.reverseRecOn with
  | nil =>
    have hcut : ¬CutOff start stop [] := fun ⟨_, _, _, ⟨_, hd, _⟩, _⟩ => by cases hd
    have hlatched : ¬Latched start [] := fun ⟨_, ⟨_, hd, _⟩, _⟩ => by cases hd
    exact ⟨rfl, by simp [hlatched], by simp [hcut, ChargeSwitch.getCharger]⟩
  | append_singleton calls c ih =>
    rw [run_concat]
    exact ih.step

/-! ## Crossing the band -/

variable {more : List (ChargeCall R)}

/-- It stays off as long as the state of charge is not below the restart limit. -/
lemma CutOff.append (h : CutOff start stop calls) (hmore : ∀ d ∈ more, start ≤ d.soc) :
    CutOff start stop (calls ++ more) := by
  induction more using List.reverseRecOn with
  | nil => rwa [List.append_nil]
  | append_singleton more d ih =>
    rw [← List.append_assoc, cutOff_concat]
    exact ⟨hmore d (by simp), .inl (ih fun e he => hmore e (by simp [he]))⟩

/-- It was off before the state of charge last rose above the stop limit. -/
lemma CutOff.of_append (h : CutOff start stop (calls ++ more)) (hmore : ∀ d ∈ more, d.soc ≤ stop) :
    CutOff start stop calls := by
  induction more using List.reverseRecOn with
  | nil => rwa [List.append_nil] at h
  | append_singleton more d ih =>
    rw [← List.append_assoc, cutOff_concat] at h
    obtain ⟨-, h | ⟨hstop, -⟩⟩ := h
    · exact ih h fun e he => hmore e (by simp [he])
    · exact absurd hstop (not_lt.mpr (hmore d (by simp)))

end

/-- From boot and with fixed limits, the charger is off after the calls if and only if it has been
cut off; a charger that is off, on and off again has seen the state of charge cross the band. -/
theorem charger_off_iff {R : Rounding} (start stop : Rounded R) :
    let after := run ChargeSwitch.step { chargeLimitSoC := (stop, start) }
    (∀ calls, (after calls).getCharger = false ↔ CutOff start stop calls) ∧
    ∀ calls down up, (after calls).getCharger = false → (after (calls ++ down)).getCharger = true →
      (after (calls ++ down ++ up)).getCharger = false →
      (∃ d ∈ down, d.soc < start) ∧ ∃ d ∈ up, d.soc > stop := by
  intro after
  have hoff : ∀ calls, (after calls).getCharger = false ↔ CutOff start stop calls :=
    fun calls => hysteresis_run.charger
  refine ⟨hoff, fun calls down up off on off' => ?_⟩
  have hon : ¬CutOff start stop (calls ++ down) := by simp [← hoff, on]
  constructor
  · by_contra! hdown
    exact hon (((hoff calls).mp off).append hdown)
  · by_contra! hup
    exact hon (((hoff _).mp off').of_append hup)

/-- A charged battery is cut off, discharged below the restart limit and charged again. -/
theorem charger_off_iff_cycle :
    (∃ d ∈ [(⟨0, 94⟩ : ChargeCall Rounding.binary32)], d.soc < 95) ∧
      ∃ d ∈ [(⟨5, 99⟩ : ChargeCall Rounding.binary32)], d.soc > 98 :=
  (charger_off_iff 95 98).2 [⟨5, 99⟩] [⟨0, 94⟩] [⟨5, 99⟩] (by decide +kernel) (by decide +kernel)
    (by decide +kernel)

end AstroPowerBox.Switcher
