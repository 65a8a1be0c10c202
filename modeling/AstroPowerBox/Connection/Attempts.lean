import AstroPowerBox.Connection.Handler
import Mathlib.Order.Interval.Finset.Nat

/-!
# Attempts to connect

The stamp `_disconnectedSince` is a reading made at the last attempt, or at the loss of a connection
after it, or later (`Stamped`); where it is 0 it is replaced by a later reading. `attempts_spaced` reads
off it how far apart the attempts are, and off `_authNdx` that they go round the list.
-/

namespace AstroPowerBox.Connection
open Foundation Handler

/-! ## What has happened -/

/-- An IP is held from its callback up to the next disconnect. -/
def ipStep (held : Bool) : Event → Bool
  | .gotIp _ => true
  | .disconnected _ => false
  | .loop _ _ _ _ => held

def ipHeld (events : List Event) : Bool := run ipStep false events

/-- The time of a disconnect that ends a connection. -/
def lossIn (held : Bool) : Event → List ℕ
  | .disconnected time => if held then [time] else []
  | _ => []

def losses (events : List Event) : List ℕ := outputs ipStep lossIn false events

def wifiCalls (ssidListLen : ℕ) (events : List Event) : List WifiCall :=
  outputs (step ssidListLen) (calls ssidListLen) {} events

def WifiCall.beginTime : WifiCall → Option ℕ
  | begin _ time => some time
  | reconnect _ => none

def WifiCall.entry : WifiCall → Option ℤ
  | begin entry _ => some entry
  | reconnect _ => none

def WifiCall.reconnectTime : WifiCall → Option ℕ
  | begin _ _ => none
  | reconnect time => some time

def beginTimes (ssidListLen : ℕ) (events : List Event) : List ℕ :=
  (wifiCalls ssidListLen events).filterMap WifiCall.beginTime

/-- The entries of the list that are used, in order. -/
def entries (ssidListLen : ℕ) (events : List Event) : List ℤ :=
  (wifiCalls ssidListLen events).filterMap WifiCall.entry

def reconnectTimes (ssidListLen : ℕ) (events : List Event) : List ℕ :=
  (wifiCalls ssidListLen events).filterMap WifiCall.reconnectTime

/-- `WiFi.begin` is called while no IP is held, and more than 10000 ms after every call before it and
after every loss of a connection. -/
def BeginsInTime (ssidListLen : ℕ) (hist : List Event) (ev : Event) : Prop :=
  ∀ entry time, .begin entry time ∈ (after ssidListLen hist).calls ssidListLen ev →
    ipHeld hist = false ∧ (∀ t ∈ beginTimes ssidListLen hist, t + 10000 < time) ∧
    ∀ t ∈ losses hist, t + 10000 < time

variable {ssidListLen : ℕ} {s : Handler} {hist events : List Event} {ev : Event} {time : ℕ}

/-- One more event is one more step. -/
lemma after_concat : after ssidListLen (hist ++ [ev]) = (after ssidListLen hist).step ssidListLen ev :=
  run_concat _

lemma ipHeld_concat : ipHeld (hist ++ [ev]) = ipStep (ipHeld hist) ev := run_concat _

/-- An event adds the loss that it is. -/
lemma losses_concat : losses (hist ++ [ev]) = losses hist ++ lossIn (ipHeld hist) ev :=
  outputs_concat _ _

/-- An event adds the calls that it makes. -/
lemma wifiCalls_concat : wifiCalls ssidListLen (hist ++ [ev])
    = wifiCalls ssidListLen hist ++ (after ssidListLen hist).calls ssidListLen ev :=
  outputs_concat _ _

/-! ## What an event does -/

/-- The time of the attempt that an event makes, if it makes one. -/
def attempt (s : Handler) : Event → Option ℕ
  | .loop start stop _ _ =>
    if s.gotIp = false ∧ 10000 < millis start - s.disconnectedSince then some stop else none
  | _ => none

/-- The time of the reconnect that an event makes, if it makes one. -/
def reconnect (s : Handler) : Event → Option ℕ
  | .disconnected time => if 60000 < millis time - s.lastReconnect then some time else none
  | _ => none

/-- What a disconnect report does, and whether it reconnects. -/
lemma disconnected_eq : s.onDisconnected time =
    ({ s with
      gotIp := false
      connectedSince := 0
      telegramStarted := false
      disconnectedSince := if s.disconnectedSince = 0 then millis time else s.disconnectedSince
      lastReconnect := (reconnect s (.disconnected time)).elim s.lastReconnect millis },
    (reconnect s (.disconnected time)).toList.map .reconnect) := by
  simp only [onDisconnected, reconnect, gt_iff_lt]
  split_ifs <;> rfl

/-- The services touch their own two flags only. -/
lemma services_eq {mdnsBegin telegramBegin : Bool} : s.services mdnsBegin telegramBegin =
    { s with
      mdnsStarted := (s.services mdnsBegin telegramBegin).mdnsStarted
      telegramStarted := (s.services mdnsBegin telegramBegin).telegramStarted } := by
  simp only [services]
  split_ifs <;> rfl

/-- What an event leaves in `_disconnectedSince`: an attempt stamps, and so does a disconnect that finds
no stamp. -/
def stamp (s : Handler) (ev : Event) : UInt32 :=
  match ev with
  | .gotIp _ => 0
  | .disconnected time => if s.disconnectedSince = 0 then millis time else s.disconnectedSince
  | .loop .. => (attempt s ev).elim s.disconnectedSince millis

/-- All that an event can do, but for the variables that nothing depends on. -/
lemma handle_eq (ssidListLen : ℕ) (s : Handler) (ev : Event) :
    ∃ connectedSince telegramStarted mdnsStarted, s.handle ssidListLen ev =
      ({ authNdx := (attempt s ev).elim s.authNdx fun _ => nextNdx ssidListLen s.authNdx
         disconnectedSince := stamp s ev
         connectedSince
         lastReconnect := (reconnect s ev).elim s.lastReconnect millis
         gotIp := ipStep s.gotIp ev
         telegramStarted
         mdnsStarted },
      (attempt s ev).toList.map (.begin (nextNdx ssidListLen s.authNdx).toInt) ++
        (reconnect s ev).toList.map .reconnect) := by
  cases ev with
  | gotIp time => exact ⟨_, _, _, rfl⟩
  | disconnected time => exact ⟨_, _, _, disconnected_eq⟩
  | loop start stop mdnsBegin telegramBegin =>
    by_cases hip : s.gotIp = true
    · have hattempt : attempt s (.loop start stop mdnsBegin telegramBegin) = none :=
        if_neg (by simp [hip])
      refine ⟨s.connectedSince, (s.services mdnsBegin telegramBegin).telegramStarted,
        (s.services mdnsBegin telegramBegin).mdnsStarted, ?_⟩
      rw [handle, loop, if_pos hip, services_eq, stamp, hattempt]
      rfl
    · by_cases helapsed : 10000 < millis start - s.disconnectedSince
      · have hattempt : attempt s (.loop start stop mdnsBegin telegramBegin) = some stop :=
          if_pos ⟨Bool.eq_false_of_not_eq_true hip, helapsed⟩
        refine ⟨0, s.telegramStarted, s.mdnsStarted, ?_⟩
        rw [handle, loop, if_neg hip, if_pos helapsed, stamp, hattempt]
        rfl
      · have hattempt : attempt s (.loop start stop mdnsBegin telegramBegin) = none :=
          if_neg fun h => helapsed h.2
        refine ⟨s.connectedSince, s.telegramStarted, s.mdnsStarted, ?_⟩
        rw [handle, loop, if_neg hip, if_neg helapsed, stamp, hattempt]
        rfl

/-- The flag follows the reports. -/
@[simp] lemma gotIp_step : (s.step ssidListLen ev).gotIp = ipStep s.gotIp ev := by
  obtain ⟨_, _, _, heq⟩ := handle_eq ssidListLen s ev
  rw [step, heq]

/-- Only an attempt goes on to the next entry. -/
lemma authNdx_step : (s.step ssidListLen ev).authNdx
    = (attempt s ev).elim s.authNdx fun _ => nextNdx ssidListLen s.authNdx := by
  obtain ⟨_, _, _, heq⟩ := handle_eq ssidListLen s ev
  rw [step, heq]

/-- Only a reconnect is stamped as one. -/
lemma lastReconnect_step : (s.step ssidListLen ev).lastReconnect
    = (reconnect s ev).elim s.lastReconnect millis := by
  obtain ⟨_, _, _, heq⟩ := handle_eq ssidListLen s ev
  rw [step, heq]

/-- What an event leaves in the stamp. -/
lemma disconnectedSince_step : (s.step ssidListLen ev).disconnectedSince = stamp s ev := by
  obtain ⟨_, _, _, heq⟩ := handle_eq ssidListLen s ev
  rw [step, heq]

/-- An event makes at most one attempt and one reconnect. -/
lemma calls_eq : s.calls ssidListLen ev
    = (attempt s ev).toList.map (.begin (nextNdx ssidListLen s.authNdx).toInt) ++
      (reconnect s ev).toList.map .reconnect := by
  obtain ⟨_, _, _, heq⟩ := handle_eq ssidListLen s ev
  rw [calls, heq]

/-- An attempt is made in a pass, without an IP, 10 s after the stamp. -/
lemma attempt_eq_some : attempt s ev = some time ↔ ∃ start mdnsBegin telegramBegin,
    ev = .loop start time mdnsBegin telegramBegin ∧ s.gotIp = false ∧
      10000 < millis start - s.disconnectedSince := by
  cases ev with
  | gotIp t => simp [attempt]
  | disconnected t => simp [attempt]
  | loop start stop mdnsBegin telegramBegin =>
    rw [attempt, Option.ite_none_right_eq_some]
    constructor
    · rintro ⟨h, heq⟩
      cases heq
      exact ⟨start, mdnsBegin, telegramBegin, rfl, h⟩
    · rintro ⟨_, _, _, heq, h⟩
      cases heq
      exact ⟨h, rfl⟩

/-- A disconnect reconnects a minute after the last reconnect. -/
lemma reconnect_eq_some : reconnect s ev = some time ↔
    ev = .disconnected time ∧ 60000 < millis time - s.lastReconnect := by
  cases ev with
  | gotIp t => simp [reconnect]
  | loop start stop mdnsBegin telegramBegin => simp [reconnect]
  | disconnected t =>
    rw [reconnect, Option.ite_none_right_eq_some]
    constructor
    · rintro ⟨h, heq⟩
      cases heq
      exact ⟨rfl, h⟩
    · rintro ⟨heq, h⟩
      cases heq
      exact ⟨h, rfl⟩

/-! ## The calls of a run -/

/-- The flag says whether an IP is held. -/
lemma gotIp_after : (after ssidListLen events).gotIp = ipHeld events := by
  induction events using List.reverseRecOn with
  | nil => rfl
  | append_singleton hist ev ih => rw [after_concat, gotIp_step, ih, ipHeld_concat]

/-- An event adds the time of its attempt. -/
lemma beginTimes_concat : beginTimes ssidListLen (hist ++ [ev])
    = beginTimes ssidListLen hist ++ (attempt (after ssidListLen hist) ev).toList := by
  rw [beginTimes, wifiCalls_concat, List.filterMap_append, calls_eq, List.filterMap_append]
  cases attempt (after ssidListLen hist) ev <;> cases reconnect (after ssidListLen hist) ev <;> rfl

/-- An event adds the time of its reconnect. -/
lemma reconnectTimes_concat : reconnectTimes ssidListLen (hist ++ [ev])
    = reconnectTimes ssidListLen hist ++ (reconnect (after ssidListLen hist) ev).toList := by
  rw [reconnectTimes, wifiCalls_concat, List.filterMap_append, calls_eq, List.filterMap_append]
  cases attempt (after ssidListLen hist) ev <;> cases reconnect (after ssidListLen hist) ev <;> rfl

/-- An attempt uses the next entry. -/
lemma entries_concat : entries ssidListLen (hist ++ [ev])
    = entries ssidListLen hist ++ (attempt (after ssidListLen hist) ev).toList.map fun _ =>
        (nextNdx ssidListLen (after ssidListLen hist).authNdx).toInt := by
  rw [entries, wifiCalls_concat, List.filterMap_append, calls_eq, List.filterMap_append]
  cases attempt (after ssidListLen hist) ev <;> cases reconnect (after ssidListLen hist) ev <;> rfl

/-! ## Time between the calls -/

/-- The times from which the delay of an attempt counts. -/
def marks (ssidListLen : ℕ) (events : List Event) : List ℕ :=
  beginTimes ssidListLen events ++ losses events

/-- The stamp is cleared while an IP is held, and otherwise a reading after all of these times. -/
structure Stamped (ssidListLen : ℕ) (events : List Event) : Prop where
  marks_le : ∀ t ∈ marks ssidListLen events, t ≤ endTime 0 events
  cleared : ipHeld events = true → (after ssidListLen events).disconnectedSince = 0
  since : ipHeld events = false → StampedAfter (after ssidListLen events).disconnectedSince
    (marks ssidListLen events) (endTime 0 events)

/-- The marks of one more event. -/
lemma mem_marks_concat {t : ℕ} : t ∈ marks ssidListLen (hist ++ [ev]) ↔
    t ∈ marks ssidListLen hist ∨ attempt (after ssidListLen hist) ev = some t ∨
      t ∈ lossIn (ipHeld hist) ev := by
  simp only [marks, beginTimes_concat, losses_concat, List.mem_append, Option.mem_toList]
  tauto

/-- An event that is neither an attempt nor a loss. -/
lemma marks_concat_of_none (hattempt : attempt (after ssidListLen hist) ev = none)
    (hloss : lossIn (ipHeld hist) ev = []) :
    marks ssidListLen (hist ++ [ev]) = marks ssidListLen hist := by
  simp [marks, beginTimes_concat, losses_concat, hattempt, hloss]

/-- An attempt is made at the end of its event. -/
lemma eq_stop_of_attempt (h : attempt s ev = some time) : time = Timed.stop ev := by
  obtain ⟨_, _, _, rfl, -⟩ := attempt_eq_some.mp h
  rfl

/-- A connection is lost at the end of its event. -/
lemma eq_stop_of_loss {held : Bool} (h : time ∈ lossIn held ev) : time = Timed.stop ev := by
  cases ev with
  | gotIp t => cases h
  | loop start stop mdnsBegin telegramBegin => cases h
  | disconnected t =>
    rw [lossIn] at h
    split at h
    · exact List.mem_singleton.mp h
    · cases h

/-- The stamp of power-up. -/
lemma stamped_nil : Stamped ssidListLen [] where
  marks_le := by simp [marks, beginTimes, wifiCalls, losses]
  cleared := fun _ => rfl
  since := fun _ => ⟨0, le_rfl, rfl, by simp [marks, beginTimes, wifiCalls, losses]⟩

namespace Stamped

/-- No mark is in the future. -/
lemma marks_le_stop (h : Stamped ssidListLen hist) (le : endTime 0 hist ≤ Timed.stop ev) :
    ∀ t ∈ marks ssidListLen (hist ++ [ev]), t ≤ Timed.stop ev := by
  intro t ht
  rcases mem_marks_concat.mp ht with ht | ht | ht
  · exact (h.marks_le t ht).trans le
  · exact (eq_stop_of_attempt ht).le
  · exact (eq_stop_of_loss ht).le

/-- An IP clears the stamp. -/
lemma gotIp (h : Stamped ssidListLen hist) (le : endTime 0 hist ≤ time) :
    Stamped ssidListLen (hist ++ [.gotIp time]) where
  marks_le := by
    rw [endTime_concat]
    exact h.marks_le_stop le
  cleared _ := by rw [after_concat, disconnectedSince_step, stamp]
  since hheld := by simp [ipHeld_concat, ipStep] at hheld

/-- A disconnect that ends a connection finds the stamp cleared; another one replaces it at most by a
later reading. -/
lemma disconnected (h : Stamped ssidListLen hist) (le : endTime 0 hist ≤ time) :
    Stamped ssidListLen (hist ++ [.disconnected time]) where
  marks_le := by
    rw [endTime_concat]
    exact h.marks_le_stop le
  cleared hheld := by simp [ipHeld_concat, ipStep] at hheld
  since _ := by
    rw [after_concat, disconnectedSince_step, stamp, endTime_concat]
    split_ifs with hzero
    · exact .stamped_now (h.marks_le_stop le)
    · -- no connection has ended, and the stamp is kept
      have hheld : ipHeld hist = false := by
        rw [← Bool.not_eq_true]
        exact fun hheld => hzero (h.cleared hheld)
      rw [marks_concat_of_none rfl (by rw [hheld]; rfl)]
      exact (h.since hheld).mono le

/-- Only an attempt is stamped by `loop`. -/
lemma loop {start stop : ℕ} {mdnsBegin telegramBegin : Bool} (h : Stamped ssidListLen hist)
    (le : endTime 0 hist ≤ stop) :
    Stamped ssidListLen (hist ++ [.loop start stop mdnsBegin telegramBegin]) where
  marks_le := by
    rw [endTime_concat]
    exact h.marks_le_stop le
  cleared hheld := by
    rw [ipHeld_concat, ipStep] at hheld
    rw [after_concat, disconnectedSince_step, stamp]
    cases hattempt : attempt (after ssidListLen hist) (.loop start stop mdnsBegin telegramBegin) with
    | none => exact h.cleared hheld
    | some t =>
      obtain ⟨_, _, _, -, hip, -⟩ := attempt_eq_some.mp hattempt
      rw [gotIp_after, hheld] at hip
      cases hip
  since hheld := by
    rw [ipHeld_concat, ipStep] at hheld
    rw [after_concat, disconnectedSince_step, stamp, endTime_concat]
    cases hattempt : attempt (after ssidListLen hist) (.loop start stop mdnsBegin telegramBegin) with
    | none =>
      rw [marks_concat_of_none hattempt rfl]
      exact (h.since hheld).mono le
    | some t =>
      rw [eq_stop_of_attempt hattempt]
      exact .stamped_now (h.marks_le_stop le)

end Stamped

/-- The stamp is right after every run, by induction on the events. -/
lemma stamped_run (chron : Chronological 0 events) : Stamped ssidListLen events := by
  induction events using List.reverseRecOn with
  | nil => exact stamped_nil
  | append_singleton hist ev ih =>
    obtain ⟨hchron, hstart, hstop⟩ := chronological_concat.mp chron
    have h := ih hchron
    cases ev with
    | gotIp time => exact h.gotIp hstart
    | disconnected time => exact h.disconnected hstart
    | loop start stop mdnsBegin telegramBegin => exact h.loop (hstart.trans hstop)

/-- An attempt is made no earlier than its stamp allows, so 10 s after every mark. -/
lemma beginsInTime (chron : Chronological 0 (hist ++ [ev])) : BeginsInTime ssidListLen hist ev := by
  intro entry time hmem
  rw [calls_eq, List.mem_append] at hmem
  have hattempt : attempt (after ssidListLen hist) ev = some time := by
    rcases hmem with hmem | hmem
    · obtain ⟨t, ht, heq⟩ := List.mem_map.mp hmem
      cases heq
      exact Option.mem_toList.mp ht
    · obtain ⟨t, -, heq⟩ := List.mem_map.mp hmem
      cases heq
  obtain ⟨start, _, _, rfl, hip, helapsed⟩ := attempt_eq_some.mp hattempt
  obtain ⟨hchron, hstart, hstop⟩ := chronological_concat.mp chron
  rw [gotIp_after] at hip
  have hlt := ((stamped_run hchron).since hip).lt_of_lt_elapsed hstart helapsed
  refine ⟨hip, fun t ht => ?_, fun t ht => ?_⟩
  · exact (hlt t (List.mem_append_left _ ht)).trans_le hstop
  · exact (hlt t (List.mem_append_right _ ht)).trans_le hstop

/-- The stamp of the reconnects, by induction on the events. -/
lemma stamped_reconnect (chron : Chronological 0 events) :
    StampedAfter (after ssidListLen events).lastReconnect (reconnectTimes ssidListLen events)
      (endTime 0 events) := by
  induction events using List.reverseRecOn with
  | nil => exact ⟨0, le_rfl, rfl, by simp [reconnectTimes, wifiCalls]⟩
  | append_singleton hist ev ih =>
    obtain ⟨hchron, hstart, hstop⟩ := chronological_concat.mp chron
    have h := ih hchron
    rw [after_concat, lastReconnect_step, reconnectTimes_concat, endTime_concat]
    cases hreconnect : reconnect (after ssidListLen hist) ev with
    | none => simpa using h.mono (hstart.trans hstop)
    | some t =>
      obtain ⟨rfl, -⟩ := reconnect_eq_some.mp hreconnect
      refine .stamped_now fun t' ht' => ?_
      rcases List.mem_append.mp ht' with ht' | ht'
      · exact (h.le_now t' ht').trans hstart
      · exact (List.mem_singleton.mp ht').le

/-- Two reconnects are more than a minute apart. -/
lemma reconnects_apart (chron : Chronological 0 events) :
    (reconnectTimes ssidListLen events).Pairwise fun t t' => t + 60000 < t' := by
  induction events using List.reverseRecOn with
  | nil => exact List.Pairwise.nil
  | append_singleton hist ev ih =>
    obtain ⟨hchron, hstart, -⟩ := chronological_concat.mp chron
    rw [reconnectTimes_concat, List.pairwise_append]
    refine ⟨ih hchron, ?_, fun t ht t' ht' => ?_⟩
    · cases reconnect (after ssidListLen hist) ev <;> simp
    · obtain ⟨rfl, helapsed⟩ := reconnect_eq_some.mp (Option.mem_toList.mp ht')
      have hlt : t + UInt32.toNat 60000 < t' :=
        (stamped_reconnect hchron).lt_of_lt_elapsed hstart helapsed t ht
      simpa using hlt

/-! ## Round the list -/

/-- The entry of the attempt with number `k`. -/
def entryOf (ssidListLen k : ℕ) : ℤ := (k % ssidListLen : ℕ)

/-- The next entry is the next one of the list, or the first one behind its end. -/
lemma toInt_nextNdx {authNdx : Int8} {k : ℕ} (pos : 1 ≤ ssidListLen) (small : ssidListLen ≤ 127)
    (hk : k ≤ ssidListLen) (hndx : authNdx.toInt = k - 1) :
    (nextNdx ssidListLen authNdx).toInt = entryOf ssidListLen k := by
  have hsucc : (authNdx + 1).toInt = k := by
    have hone : (1 : Int8).toInt = 1 := rfl
    rw [Int8.toInt_add, hndx, hone, sub_add_cancel]
    exact Int.bmod_eq_of_le (by omega) (by omega)
  have hlt : k % ssidListLen < ssidListLen := Nat.mod_lt _ pos
  rw [nextNdx, hsucc, Int.tmod_eq_emod_of_nonneg (Int.natCast_nonneg k), ← Int.natCast_emod,
    Int8.toInt_ofInt_of_le (by omega) (by omega)]
  rfl

/-- The attempts have used the entries in order, and the index is that of the last one. -/
def RoundRobin (ssidListLen : ℕ) (events : List Event) : Prop :=
  ∃ m k : ℕ, entries ssidListLen events = (List.range m).map (entryOf ssidListLen) ∧
    k ≤ ssidListLen ∧ (after ssidListLen events).authNdx.toInt = k - 1 ∧
    k % ssidListLen = m % ssidListLen

/-- The entries go round, by induction on the events. -/
lemma roundRobin_run (pos : 1 ≤ ssidListLen) (small : ssidListLen ≤ 127) :
    RoundRobin ssidListLen events := by
  induction events using List.reverseRecOn with
  | nil => exact ⟨0, 0, rfl, Nat.zero_le _, rfl, rfl⟩
  | append_singleton hist ev ih =>
    obtain ⟨m, k, hentries, hk, hndx, hmod⟩ := ih
    rw [RoundRobin, after_concat, authNdx_step, entries_concat, hentries]
    cases attempt (after ssidListLen hist) ev with
    | none => exact ⟨m, k, by simp, hk, hndx, hmod⟩
    | some t =>
      have hnext := toInt_nextNdx pos small hk hndx
      refine ⟨m + 1, k % ssidListLen + 1, ?_, Nat.mod_lt _ pos, ?_, ?_⟩
      · rw [hnext, List.range_succ, List.map_append, entryOf, hmod]
        rfl
      · rw [Option.elim_some, hnext, entryOf]
        omega
      · rw [hmod, Nat.mod_add_mod]

/-- Consecutive attempts, as many as there are entries, use all of them. -/
lemma RoundRobin.perm (h : RoundRobin ssidListLen events) {i : ℕ}
    (hi : i + ssidListLen ≤ (entries ssidListLen events).length) :
    (((entries ssidListLen events).drop i).take ssidListLen).Perm
      ((List.range ssidListLen).map Nat.cast) := by
  obtain ⟨m, -, hentries, -⟩ := h
  rw [hentries, List.length_map, List.length_range] at hi
  have hwindow : ((List.range m).drop i).take ssidListLen = List.range' i ssidListLen := by
    rw [List.range_eq_range', List.drop_range', List.take_range'_of_length_ge (by omega), zero_add,
      mul_one]
  have hmod : ((List.range' i ssidListLen).map (· % ssidListLen)).Perm (List.range ssidListLen) := by
    have hIco : (List.range' i (i + ssidListLen - i) : Multiset ℕ).map (· % ssidListLen)
        = Multiset.range ssidListLen := Nat.multiset_Ico_map_mod i ssidListLen
    rw [Nat.add_sub_cancel_left] at hIco
    exact Multiset.coe_eq_coe.mp hIco
  rw [hentries, ← List.map_drop, ← List.map_take, hwindow]
  have hentry : entryOf ssidListLen = Nat.cast ∘ (· % ssidListLen) := rfl
  rw [hentry, ← List.map_map]
  exact hmod.map Nat.cast

/-! ## The attempts of a run -/

/-- In every run attempts are made without an IP only, more than 10000 ms after the attempts before them
and after the connections that were lost; as many as the list is long use each of its entries once; and
reconnects are more than 60000 ms apart. -/
theorem attempts_spaced (ssidListLen : ℕ) (pos : 1 ≤ ssidListLen) (small : ssidListLen ≤ 127)
    (events : List Event) (chron : Chronological 0 events) :
    EveryStep (BeginsInTime ssidListLen) events ∧
    (∀ i, i + ssidListLen ≤ (entries ssidListLen events).length →
      (((entries ssidListLen events).drop i).take ssidListLen).Perm
        ((List.range ssidListLen).map Nat.cast)) ∧
    (reconnectTimes ssidListLen events).Pairwise fun t t' => t + 60000 < t' := by
  refine ⟨fun hist ev pre => ?_, fun i hi => ?_, ?_⟩
  · exact beginsInTime (chron.of_prefix pre)
  · exact (roundRobin_run pos small).perm hi
  · exact reconnects_apart chron

/-- A connection is lost at reading 0 of the clock, and a later disconnect stamps it again. -/
def lostAtWrap : List Event :=
  [.loop 10001 10002 true true, .gotIp 12000, .disconnected 4294967296, .disconnected 4294970000,
    .loop 4294979000 4294979001 true true, .loop 4294980001 4294980002 true true,
    .disconnected 4295030000]

/-- A connection that is lost when the clock reads zero, and an attempt to get it back. -/
theorem attempts_spaced_lostAtWrap :
    wifiCalls 2 lostAtWrap = [.begin 0 10002, .begin 1 4294980002, .reconnect 4295030000] ∧
    EveryStep (BeginsInTime 2) lostAtWrap ∧
    (∀ i, i + 2 ≤ (entries 2 lostAtWrap).length →
      (((entries 2 lostAtWrap).drop i).take 2).Perm ((List.range 2).map Nat.cast)) ∧
    (reconnectTimes 2 lostAtWrap).Pairwise fun t t' => t + 60000 < t' :=
  ⟨by decide +kernel,
    attempts_spaced 2 (by decide) (by decide) lostAtWrap (by decide +kernel)⟩

end AstroPowerBox.Connection
