import AstroPowerBox.Foundation.Binary
import AstroPowerBox.Storage.NonVolatile

/-!
# Saving and retrying

A pending change is kept by the flag `_dirty` and the time `_lastMod`. `save` clears both before it
knows whether the file will be written, takes any written byte for success, and a `_lastMod` of zero
counts as no modification. `save_retry_iff` settles for which calls, and in which runs, a change is
still saved in the end.
-/

namespace AstroPowerBox.Storage
open Foundation NonVolatile

section
variable {R : Rounding} {ser : Serializer R}

/-- `save` reports success exactly when the file then holds the whole JSON text, and a failure leaves
the pending change as it was. -/
def SaveHonest (ser : Serializer R) (s : NonVolatile R) (stats : BatStats R) (o : FileOutcome) : Prop :=
  let r := s.save ser stats o
  (r.1 = true ↔ s.dirty = true ∧ r.2.file = some (ser.json stats)) ∧
    (r.1 = false →
      r.2.dirty = s.dirty ∧ r.2.lastMod = s.lastMod ∧ r.2.savedStats = s.savedStats)

/-- All file operations succeed, and every byte of the text is taken. -/
def FileOutcome.complete (o : FileOutcome) (text : List UInt8) : Bool :=
  o.opened && o.sought && text.length ≤ o.bytesTaken

variable {s : NonVolatile R} {stats : BatStats R} {o : FileOutcome}

/-- A complete save takes everything over. -/
lemma save_of_complete (hdirty : s.dirty = true) (ho : o.complete (ser.json stats) = true) :
    s.save ser stats o =
      (true, { s with dirty := false, lastMod := 0, savedStats := stats,
                      file := some (ser.json stats) }) := by
  simp only [FileOutcome.complete, Bool.and_eq_true, decide_eq_true_eq] at ho
  obtain ⟨⟨hopen, hseek⟩, hlen⟩ := ho
  have hpos : 0 < (ser.json stats).length := List.length_pos_iff.mpr (ser.json_ne_nil stats)
  simp [save, hdirty, hopen, hseek, List.take_of_length_le hlen, hpos]

/-- Nothing is pending after `save`, whatever became of it. -/
lemma dirty_save : (s.save ser stats o).2.dirty = false := by
  cases hdirty : s.dirty with
  | false => simp [save, hdirty]
  | true =>
    simp only [save, hdirty, if_true]
    split_ifs <;> rfl

/-- Saving does not change the statistics. -/
@[simp] lemma stats_save : (s.save ser stats o).2.stats = s.stats := by
  simp only [save]
  split_ifs <;> rfl

/-- What counts as saved is what was to be saved, or as before. -/
lemma savedStats_save :
    (s.save ser stats o).2.savedStats = stats ∨
      (s.save ser stats o).2.savedStats = s.savedStats := by
  simp only [save]
  split_ifs <;> simp

/-- A save that reports success has opened the file, found its place and written what was taken. -/
lemma of_save_success (h : (s.save ser stats o).1 = true) :
    o.opened = true ∧ o.sought = true ∧
      (s.save ser stats o).2.file = some ((ser.json stats).take o.bytesTaken) := by
  cases hdirty : s.dirty with
  | false => simp [save, hdirty] at h
  | true =>
    cases hopen : o.opened <;> cases hseek : o.sought <;> simp [save, hdirty, hopen, hseek] at h ⊢
    split at h
    case isTrue hpos => rw [if_pos hpos]
    case isFalse => cases h

/-- `save` is honest exactly if nothing is pending or all file operations are complete. -/
lemma saveHonest_iff :
    SaveHonest ser s stats o ↔ (s.dirty = true → o.complete (ser.json stats) = true) := by
  constructor
  · rintro ⟨hsuccess, hfail⟩ hdirty
    have htrue : (s.save ser stats o).1 = true := by
      by_contra h
      have hkept := (hfail (by simpa using h)).1
      rw [dirty_save, hdirty] at hkept
      cases hkept
    obtain ⟨hopen, hseek, hfile⟩ := of_save_success htrue
    have htake : (ser.json stats).take o.bytesTaken = ser.json stats :=
      Option.some_inj.mp (hfile.symm.trans (hsuccess.mp htrue).2)
    have hlen : (ser.json stats).length ≤ o.bytesTaken := List.take_eq_self_iff _ |>.mp htake
    simp [FileOutcome.complete, hopen, hseek, hlen]
  · intro h
    cases hdirty : s.dirty with
    | false => simp [SaveHonest, save, hdirty]
    | true => simp [SaveHonest, save_of_complete hdirty (h hdirty), hdirty]

/-! ## Pending changes -/

/-- A later call of `loop`, more than a minute after the modification at `modified` and before the
counter comes round, saves the statistics if the file operations are complete. -/
def SavedLater (ser : Serializer R) (s : NonVolatile R) (modified : ℕ) : Prop :=
  ∀ time o, modified + 60000 < time → time < modified + 2 ^ 32 →
    o.complete (ser.json s.stats) = true →
      (s.loop ser time o).savedStats = s.stats ∧ (s.loop ser time o).file = some (ser.json s.stats)

def modifiedUpd (g : ℕ) (s : NonVolatile R) : Call R → ℕ
  | .setRemainingCharge remainingCharge time =>
    if remainingCharge ≠ s.stats.remainingCharge then time else g
  | .loop _ _ => g

/-- The real time of the last modification. -/
def modifiedAt (ser : Serializer R) (s0 : NonVolatile R) (calls : List (Call R)) : ℕ :=
  history (step ser) modifiedUpd 0 s0 calls

/-- The call saves honestly, and afterwards a difference to the saved statistics is marked and will be
saved. -/
def RetriesPending (ser : Serializer R) (s0 : NonVolatile R) (hist : List (Call R)) (c : Call R) :
    Prop :=
  let pre := run (step ser) s0 hist
  let post := run (step ser) s0 (hist ++ [c])
  (∀ time o, c = .loop time o → pre.saveRequired time = true →
    SaveHonest ser pre pre.stats o) ∧
  (post.stats ≠ post.savedStats →
    post.dirty = true ∧ SavedLater ser post (modifiedAt ser s0 (hist ++ [c])))

/-- The file operations of a call that has to save a pending change are complete; and a modification
away from the saved charge is not made at reading 0 of the clock, unless it is one of more than 100
mAh. -/
def RetryArmed (ser : Serializer R) (s0 : NonVolatile R) (hist : List (Call R)) : Call R → Prop
  | .loop time o =>
    let pre := run (step ser) s0 hist
    pre.saveRequired time = true → pre.dirty = true → o.complete (ser.json pre.stats) = true
  | .setRemainingCharge remainingCharge time =>
    let pre := run (step ser) s0 hist
    remainingCharge ≠ pre.stats.remainingCharge →
    remainingCharge ≠ pre.savedStats.remainingCharge →
      millis time ≠ 0 ∨ (pre.savedStats.remainingCharge - remainingCharge).abs > 0.1 * 3600

variable {s0 : NonVolatile R} {hist calls : List (Call R)} {c : Call R}

/-- A call that changes the charge is the last modification from then on. -/
lemma modifiedAt_concat :
    modifiedAt ser s0 (hist ++ [c])
      = modifiedUpd (modifiedAt ser s0 hist) (run (step ser) s0 hist) c := history_concat _

/-- The statistics differ from the saved ones in the remaining charge at most. -/
def SavedButCharge (s : NonVolatile R) : Prop :=
  { s.stats with remainingCharge := s.savedStats.remainingCharge } = s.savedStats

/-- A difference to the saved statistics is marked, with the time of the modification, and one of the
two conditions of `loop` will see it. -/
structure Armed (s : NonVolatile R) (modified : ℕ) : Prop where
  dirty : s.stats ≠ s.savedStats → s.dirty = true
  lastMod : s.dirty = true → s.lastMod = millis modified
  seen : s.stats ≠ s.savedStats → millis modified ≠ 0 ∨
    (s.savedStats.remainingCharge - s.stats.remainingCharge).abs > 0.1 * 3600

/-- Where nothing is pending, nothing has to be seen. -/
lemma Armed.of_saved {g : ℕ} (h : s.stats = s.savedStats) (hdirty : s.dirty = false) :
    Armed s g where
  dirty pending := absurd h pending
  lastMod hpend := by
    rw [hdirty] at hpend
    cases hpend
  seen pending := absurd h pending

/-- A pending change is saved by any later call with complete operations. -/
lemma Armed.savedLater {g : ℕ} (h : Armed s g) (pending : s.stats ≠ s.savedStats) :
    SavedLater ser s g := by
  intro time o hlate hwrap ho
  have hrequired : s.saveRequired time = true := by
    simp only [saveRequired, Bool.or_eq_true, decide_eq_true_eq]
    refine (h.seen pending).imp_left fun hne => ?_
    have helapsed : (millis time - millis g).toNat = time - g := elapsed_eq (by omega) (by omega)
    rw [getTimeSinceLastModification, h.lastMod (h.dirty pending), if_pos hne, gt_iff_lt,
      UInt32.lt_iff_toNat_lt, helapsed]
    change 60000 < time - g
    omega
  rw [loop, if_pos hrequired, save_of_complete (h.dirty pending) ho]
  exact ⟨rfl, rfl⟩

/-- A change of the charge stays away from the other statistics. -/
lemma savedButCharge_run (h0 : s0.stats = s0.savedStats) :
    SavedButCharge (run (step ser) s0 calls) := by
  apply run_invariant
  · rw [SavedButCharge, h0]
  · intro s c h
    cases c with
    | setRemainingCharge remainingCharge time =>
      simp only [step, setRemainingCharge]
      split_ifs
      · exact h
      · exact h
    | loop time o =>
      simp only [step, loop]
      split_ifs
      · rw [SavedButCharge, stats_save]
        rcases savedStats_save with hsaved | hsaved
        · rw [hsaved]
        · rw [hsaved]
          exact h
      · exact h

/-- In a run whose calls all keep the retry armed, it is armed. -/
lemma armed_run (h0 : s0.stats = s0.savedStats) (hdirty : s0.dirty = false)
    (h : EveryStep (RetryArmed ser s0) calls) :
    Armed (run (step ser) s0 calls) (modifiedAt ser s0 calls) := by
  induction calls using List.reverseRecOn with
  | nil => exact .of_saved h0 hdirty
  | append_singleton hist c ih =>
    obtain ⟨h, hc⟩ := everyStep_concat.mp h
    have ih := ih h
    have hbut : SavedButCharge (run (step ser) s0 hist) := savedButCharge_run h0
    rw [modifiedAt_concat, run_concat]
    unfold RetryArmed at hc
    generalize run (step ser) s0 hist = s at *
    cases c with
    | setRemainingCharge remainingCharge time =>
      simp only [step, setRemainingCharge, modifiedUpd]
      split_ifs with hmod
      · -- the charge is the only difference, so back at its saved value nothing is pending
        refine ⟨fun _ => rfl, fun _ => rfl, fun pending => hc hmod fun heq => pending ?_⟩
        subst heq
        exact hbut
      · exact ih
    | loop time o =>
      simp only [step, loop, modifiedUpd]
      split_ifs with hrequired
      · cases hpend : s.dirty with
        | false => simpa [save, hpend] using ih
        | true =>
          -- a complete save leaves nothing pending
          rw [save_of_complete hpend (hc hrequired hpend)]
          exact .of_saved rfl rfl
      · exact ih

/-- A modification at reading 0 of the clock, of at most 100 mAh, is never saved. -/
lemma not_savedLater {g : ℕ} (hne : s.stats ≠ s.savedStats) (hzero : s.lastMod = 0)
    (hsmall : ¬ (s.savedStats.remainingCharge - s.stats.remainingCharge).abs > 0.1 * 3600) :
    ¬ SavedLater ser s g := by
  intro h
  have hsaved := (h (g + 60001) ⟨true, true, (ser.json s.stats).length⟩ (by omega) (by omega)
    (by simp [FileOutcome.complete])).1
  have hrequired : s.saveRequired (g + 60001) = false := by
    simp [saveRequired, getTimeSinceLastModification, hzero, hsmall]
  rw [loop, hrequired, if_neg (by simp)] at hsaved
  exact hne hsaved.symm

/-- Pending changes are retried until they are saved, exactly in the runs in which every save that
finds one is complete, and none is made at reading 0 of the clock. -/
lemma retriesPending_iff (h0 : s0.stats = s0.savedStats) (hdirty : s0.dirty = false) :
    EveryStep (RetriesPending ser s0) calls ↔ EveryStep (RetryArmed ser s0) calls := by
  constructor
  · intro h hist c pre
    obtain ⟨hhonest, hpending⟩ := h hist c pre
    cases c with
    | loop time o =>
      intro hrequired hpend
      exact saveHonest_iff.mp (hhonest time o rfl hrequired) hpend
    | setRemainingCharge remainingCharge time =>
      intro hmod hne
      -- otherwise neither condition of `loop` ever sees the modification
      by_contra harmed
      set s := run (step ser) s0 hist with hs
      rw [not_or, not_not] at harmed
      have hpost : run (step ser) s0 (hist ++ [.setRemainingCharge remainingCharge time])
          = { s.modify time with stats := { s.stats with remainingCharge } } := by
        rw [run_concat, ← hs, step, setRemainingCharge, if_pos hmod]
        rfl
      generalize run (step ser) s0 (hist ++ [.setRemainingCharge remainingCharge time]) = post at *
      have hdiff : post.stats ≠ post.savedStats := by
        rw [hpost]
        intro heq
        exact hne (congrArg BatStats.remainingCharge heq)
      refine not_savedLater hdiff ?_ ?_ (hpending hdiff).2
      · rw [hpost]
        exact harmed.1
      · rw [hpost]
        exact harmed.2
  · intro h
    refine h.imp fun hist c h => ⟨?_, ?_⟩
    · rintro time o rfl hrequired
      exact saveHonest_iff.mpr ((everyStep_concat.mp h).2 hrequired)
    · intro hne
      have harmed := armed_run h0 hdirty h
      exact ⟨harmed.dirty hne, harmed.savedLater hne⟩

/-- `save` is honest exactly if nothing is pending or all its file operations are complete; and from
the start of the firmware, pending changes are retried until they are saved exactly in the runs whose
calls keep the retry armed. -/
theorem save_retry_iff (ser : Serializer R) :
    (∀ s stats o, SaveHonest ser s stats o ↔
      (s.dirty = true → o.complete (ser.json stats) = true)) ∧
    ∀ file parsed calls, EveryStep (RetriesPending ser (.new file parsed)) calls ↔
      EveryStep (RetryArmed ser (.new file parsed)) calls :=
  ⟨fun _ _ _ => saveHonest_iff, fun _ _ _ => retriesPending_iff rfl rfl⟩

end

/-! ## A full file system -/

/-- The JSON text of statistics that are whole numbers below ten million. -/
def wholeJson : Serializer .binary32 where
  json stats :=
    0x7B :: ("\"total coulomb charged\":" ++ toString stats.totalCoulombCharged.trunc
      ++ ",\"total coulomb discharged\":" ++ toString stats.totalCoulombDischarged.trunc
      ++ ",\"remaining charge\":" ++ toString stats.remainingCharge.trunc).toUTF8.toList ++ [0x7D]
  json_ne_nil _ := by simp

/-- The remaining charge changes, and a minute later the file cannot be opened. -/
def forgetfulRun : List (Call .binary32) :=
  [.setRemainingCharge 100 5000, .loop 70000 ⟨false, false, 0⟩]

/-- A save that fails forgets the change. -/
theorem save_forgets : ¬ EveryStep (RetriesPending wholeJson (.new none none)) forgetfulRun := by
  intro h
  obtain ⟨hhonest, -⟩ := h (forgetfulRun.take 1) _ List.prefix_rfl
  have hkept := (hhonest _ _ rfl (by decide +kernel)).2 (by decide +kernel)
  exact absurd hkept.1 (by decide +kernel)

end AstroPowerBox.Storage
