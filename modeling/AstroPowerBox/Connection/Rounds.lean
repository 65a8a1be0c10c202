import AstroPowerBox.Connection.Attempts
import AstroPowerBox.Foundation.Progress

/-!
# Every network gets its turn

While no network answers, the handler goes round its list in bounded time (`rounds_in_time`). A delay
may take twice as long as it should: a stamp that happens to be 0 is taken for none by the next
disconnect, which sets it again. The WiFi library may report any number of failed connections between
two calls of `loop`; a `Pass` is such a call with the reports before it.
-/

namespace AstroPowerBox.Connection
open Foundation Handler

/-- A call of `loop`, and the disconnects that are reported before it. -/
structure Pass where
  disconnects : List ℕ := []
  start : ℕ
  stop : ℕ
  mdnsBegin : Bool := false
  telegramBegin : Bool := false
deriving DecidableEq

instance : Timed Pass where
  start := Pass.start
  stop := Pass.stop

/-- The events of a pass. -/
def Pass.events (p : Pass) : List Event :=
  p.disconnects.map .disconnected ++ [.loop p.start p.stop p.mdnsBegin p.telegramBegin]

/-- The history, by the events of a pass. -/
def proceed (hist : List Event) (p : Pass) : List Event := hist ++ p.events

section
variable {ssidListLen d k t : ℕ} {hist : List Event} {p : Pass} {passes : List Pass} {times : List ℕ}

/-- No IP is held, and `k` attempts have been made. -/
def Tried (ssidListLen k : ℕ) (hist : List Event) : Prop :=
  ipHeld hist = false ∧ k ≤ (entries ssidListLen hist).length

/-- Besides, the stamp is set. -/
def TriedSince (ssidListLen k : ℕ) (hist : List Event) : Prop :=
  Tried ssidListLen k hist ∧ (after ssidListLen hist).disconnectedSince ≠ 0

/-! ## One pass -/

/-- Disconnect reports give no IP back. -/
lemma ipHeld_disconnects (hip : ipHeld hist = false) :
    ipHeld (hist ++ times.map .disconnected) = false := by
  induction times using List.reverseRecOn with
  | nil => simpa using hip
  | append_singleton times time ih => simp [← List.append_assoc, ipHeld_concat, ipStep]

/-- Disconnects are no attempts. -/
lemma entries_disconnects :
    entries ssidListLen (hist ++ times.map .disconnected) = entries ssidListLen hist := by
  induction times using List.reverseRecOn with
  | nil => simp
  | append_singleton times time ih =>
    rw [List.map_append, ← List.append_assoc, List.map_singleton, entries_concat, ih]
    simp [attempt]

/-- A stamp that is set stays. -/
lemma disconnectedSince_disconnects
    (hset : (after ssidListLen hist).disconnectedSince ≠ 0) :
    (after ssidListLen (hist ++ times.map .disconnected)).disconnectedSince
      = (after ssidListLen hist).disconnectedSince := by
  induction times using List.reverseRecOn with
  | nil => simp
  | append_singleton times time ih =>
    rw [List.map_append, ← List.append_assoc, List.map_singleton, after_concat,
      disconnectedSince_step, stamp, ih, if_neg hset]

/-- A pass makes an attempt, or its call finds that the delay is not over. -/
lemma proceed_cases (ssidListLen : ℕ) (p : Pass) (hip : ipHeld hist = false) :
    (entries ssidListLen (proceed hist p)).length = (entries ssidListLen hist).length + 1 ∨
    (entries ssidListLen (proceed hist p)).length = (entries ssidListLen hist).length ∧
      (after ssidListLen (proceed hist p)).disconnectedSince
        = (after ssidListLen (hist ++ p.disconnects.map .disconnected)).disconnectedSince ∧
      (millis p.start - (after ssidListLen (proceed hist p)).disconnectedSince).toNat < 10001 := by
  have hgot : (after ssidListLen (hist ++ p.disconnects.map .disconnected)).gotIp = false := by
    rw [gotIp_after, ipHeld_disconnects hip]
  rw [proceed, Pass.events, ← List.append_assoc, entries_concat, entries_disconnects, after_concat,
    disconnectedSince_step, stamp]
  by_cases late : 10000 < millis p.start -
      (after ssidListLen (hist ++ p.disconnects.map .disconnected)).disconnectedSince
  · left
    simp [attempt, hgot, late]
  · right
    have hearly : ¬ (10000 : UInt32).toNat < _ := fun h => late (UInt32.lt_iff_toNat_lt.mpr h)
    refine ⟨?_, ?_, ?_⟩
    · simp [attempt, late]
    · simp [attempt, late]
    · simp only [attempt, late, and_false, if_false, Option.elim_none]
      exact Nat.lt_succ_of_le (not_lt.mp hearly)

/-- A pass in which no network answers gives no IP back. -/
lemma ipHeld_proceed (hip : ipHeld hist = false) : ipHeld (proceed hist p) = false := by
  rw [proceed, Pass.events, ← List.append_assoc, ipHeld_concat, ipStep, ipHeld_disconnects hip]

/-! ## Round after round -/

/-- Once the stamp is set, the next attempt comes when the delay is over. -/
lemma tried_of_stamped (pos : 0 < d) (room : d ≤ 2 ^ 29) :
    LeadsTo proceed (fun _ => True) d (10001 + 4 * d) (TriedSince ssidListLen k)
      (Tried ssidListLen (k + 1)) := by
  refine .of_timeout (fun hist => (after ssidListLen hist).disconnectedSince) pos (by omega) ?_
  rintro hist p ⟨⟨hip, hk⟩, hset⟩ -
  rcases proceed_cases ssidListLen p hip with hattempt | ⟨hnone, hstamp, hearly⟩
  · exact .inr ⟨ipHeld_proceed hip, by omega⟩
  · rw [disconnectedSince_disconnects hset] at hstamp
    rw [hstamp] at hearly
    exact .inl ⟨⟨⟨ipHeld_proceed hip, by omega⟩, hstamp ▸ hset⟩, hstamp, hearly⟩

/-- A stamp that is 0 leads to an attempt all the same, unless a disconnect sets it. -/
lemma tried_or_stamped (pos : 0 < d) (room : d ≤ 2 ^ 29) :
    LeadsTo proceed (fun _ => True) d (10001 + 4 * d) (Tried ssidListLen k) fun hist =>
      Tried ssidListLen (k + 1) hist ∨ TriedSince ssidListLen k hist := by
  have hzero : LeadsTo proceed (fun _ => True) d (10001 + 4 * d)
      (fun hist => Tried ssidListLen k hist ∧ (after ssidListLen hist).disconnectedSince = 0)
      fun hist => Tried ssidListLen (k + 1) hist ∨ TriedSince ssidListLen k hist := by
    refine .of_timeout (fun hist => (after ssidListLen hist).disconnectedSince) pos (by omega) ?_
    rintro hist p ⟨⟨hip, hk⟩, hstampZero⟩ -
    rcases proceed_cases ssidListLen p hip with hattempt | ⟨hnone, hstamp, hearly⟩
    · exact .inr (.inl ⟨ipHeld_proceed hip, by omega⟩)
    · by_cases hset : (after ssidListLen (proceed hist p)).disconnectedSince = 0
      · refine .inl ⟨⟨⟨ipHeld_proceed hip, by omega⟩, hset⟩, ?_, ?_⟩
        · rw [hset, hstampZero]
        · rwa [hset, ← hstampZero] at hearly
      · exact .inr (.inr ⟨⟨ipHeld_proceed hip, by omega⟩, hset⟩)
  have hset : LeadsTo proceed (fun _ => True) d (10001 + 4 * d) (TriedSince ssidListLen k)
      fun hist => Tried ssidListLen (k + 1) hist ∨ TriedSince ssidListLen k hist :=
    (LeadsTo.of_imp fun hist h => .inr h).mono (by omega)
  refine (hzero.or hset).imp_left fun hist h => ?_
  by_cases hstamp : (after ssidListLen hist).disconnectedSince = 0
  · exact .inl ⟨h, hstamp⟩
  · exact .inr ⟨h, hstamp⟩

/-- One more attempt is made in time. -/
lemma tried_succ (pos : 0 < d) (room : d ≤ 2 ^ 29) :
    LeadsTo proceed (fun _ => True) d (20002 + 8 * d) (Tried ssidListLen k)
      (Tried ssidListLen (k + 1)) := by
  have hset : LeadsTo proceed (fun _ => True) d (10001 + 4 * d) (TriedSince ssidListLen k)
      (Tried ssidListLen (k + 1)) := tried_of_stamped pos room
  have hdone : LeadsTo proceed (fun _ => True) d (10001 + 4 * d) (Tried ssidListLen (k + 1))
      (Tried ssidListLen (k + 1)) := (LeadsTo.of_imp fun hist h => h).mono (by omega)
  exact ((tried_or_stamped pos room).trans (hdone.or hset)).mono (by omega)

/-- So any number of attempts, one after the other. -/
lemma tried_add (pos : 0 < d) (room : d ≤ 2 ^ 29) (m : ℕ) :
    LeadsTo proceed (fun _ => True) d (m * (20002 + 8 * d)) (Tried ssidListLen k)
      (Tried ssidListLen (k + m)) := by
  induction m with
  | zero => exact (LeadsTo.of_imp fun hist h => h).mono (by omega)
  | succ m ih =>
    rw [Nat.succ_mul]
    exact ih.trans (tried_succ pos room)

/-- What has been tried stays tried. -/
lemma Tried.proceed (h : Tried ssidListLen k hist) : Tried ssidListLen k (proceed hist p) := by
  obtain ⟨hip, hk⟩ := h
  refine ⟨ipHeld_proceed hip, ?_⟩
  rcases proceed_cases ssidListLen p hip with hattempt | ⟨hnone, -, -⟩
  · omega
  · omega

/-- The passes are a history of events. -/
lemma run_proceed : run proceed hist passes = hist ++ passes.flatMap Pass.events := by
  induction passes using List.reverseRecOn with
  | nil => simp
  | append_singleton passes p ih => simp [Connection.proceed, ih]

/-- After any history, as long as no network answers, each entry of a list of 1 to 127 entries is tried
within 20002 ms and 8 `d` for every entry of the list, with passes less than `d` ms apart, for every `d` up
to `2 ^ 29`. -/
theorem rounds_in_time (ssidListLen : ℕ) (pos : 1 ≤ ssidListLen) (small : ssidListLen ≤ 127)
    (hist : List Event) (passes : List Pass) (d t : ℕ) (hip : ipHeld hist = false) (hd : 0 < d)
    (room : d ≤ 2 ^ 29) (steady : Steady (fun _ => True) d t passes)
    (long : t + ssidListLen * (20002 + 8 * d) ≤ endTime t passes) :
    ∀ entry : ℕ, entry < ssidListLen → (entry : ℤ) ∈
      (entries ssidListLen (hist ++ passes.flatMap Pass.events)).drop
        (entries ssidListLen hist).length := by
  have hleads : LeadsTo proceed (fun _ => True) d (ssidListLen * (20002 + 8 * d))
      (Tried ssidListLen (entries ssidListLen hist).length)
      (Tried ssidListLen ((entries ssidListLen hist).length + ssidListLen)) :=
    tried_add hd room ssidListLen
  have htried := hleads.run_of_keeps (fun _ _ _ h => h.proceed) ⟨hip, le_rfl⟩ steady long
  rw [run_proceed] at htried
  have hperm := (roundRobin_run pos small).perm htried.2
  intro entry hentry
  have hmem : (entry : ℤ) ∈ (List.range ssidListLen).map Nat.cast :=
    List.mem_map.mpr ⟨entry, List.mem_range.mpr hentry, rfl⟩
  exact List.mem_of_mem_take (hperm.mem_iff.mpr hmem)

end

/-- A call of `loop` every second for more than two minutes, and reports of failed connections. -/
def unansweredPasses : List Pass :=
  (List.range 130).map fun n =>
    { disconnects := [1000 * n + 500], start := 1000 * (n + 1), stop := 1000 * (n + 1) + 1 }

/-- An access point that never answers. -/
theorem rounds_in_time_unanswered : 2 ∈
    (entries 3 ([] ++ unansweredPasses.flatMap Pass.events)).drop (entries 3 []).length :=
  rounds_in_time 3 (by decide) (by decide) [] unansweredPasses 2000 0 rfl (by decide) (by decide)
    (by decide +kernel) (by decide +kernel) 2 (by decide)

end AstroPowerBox.Connection
