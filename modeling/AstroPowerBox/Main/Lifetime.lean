import AstroPowerBox.Battery.Range
import AstroPowerBox.Main.Loop
import AstroPowerBox.Storage.Restart
import Mathlib.Data.Rat.Denumerable

/-!
# The life of a box

A session begins with `setup`, which reads the file of the statistics, and ends when the power is cut,
at any moment; the next session finds the file that is left. A save empties the file before it writes,
so a cut may leave any part of the text.

Whatever is cut when, the file is the one that the box was delivered with, or what a save has left of
the text of a reported charge (`fileAfter_traced`). A text that is cut short is not read; so a session
starts with an old charge or with none (`restored_was_reported`), and never with an impossible one
(`ranges_for_life`).
-/

namespace AstroPowerBox.Storage
open Foundation NonVolatile

section
variable {R : Rounding}

/-- The text of the statistics. -/
def JsonLibrary.text (lib : JsonLibrary) (stats : BatStats R) : List UInt8 :=
  lib.serialize (convertToJson stats .null)

/-- The charge that a session starts with. -/
def JsonLibrary.restored (lib : JsonLibrary) (file : Option (List UInt8)) : Rounded R :=
  (lib.restart file).stats.remainingCharge

/-- A text of which a part is missing is not read. -/
def JsonLibrary.RefusesParts (lib : JsonLibrary) (R : Rounding) : Prop :=
  ∀ (stats : BatStats R) (n : ℕ), n < (lib.text stats).length →
    lib.deserialize ((lib.text stats).take n) = none

/-- The file is `first`, or what a save has left of the text of a charge in `K`. -/
def LeftBySave (lib : JsonLibrary) (K : Rounded R → Prop) (first file : Option (List UInt8)) :
    Prop :=
  file = first ∨ ∃ (stats : BatStats R) (n : ℕ), K stats.remainingCharge ∧
    file = some ((lib.text stats).take n)

/-- What is to be saved is in `K`, and so is what has been saved. -/
structure Traced (lib : JsonLibrary) (K : Rounded R → Prop) (first : Option (List UInt8))
    (s : NonVolatile R) : Prop where
  dirty : s.dirty = true → K s.stats.remainingCharge
  file : LeftBySave lib K first s.file

variable {lib : JsonLibrary} {K K' : Rounded R → Prop} {first file : Option (List UInt8)}
  {s : NonVolatile R}

/-- A weaker property is left, too. -/
lemma LeftBySave.mono (h : LeftBySave lib K first file) (imp : ∀ r, K r → K' r) :
    LeftBySave lib K' first file := by
  rcases h with hfirst | ⟨stats, n, hk, hfile⟩
  · exact .inl hfirst
  · exact .inr ⟨stats, n, imp _ hk, hfile⟩

namespace Traced

lemma mono (h : Traced lib K first s) (imp : ∀ r, K r → K' r) : Traced lib K' first s :=
  ⟨fun hdirty => imp _ (h.dirty hdirty), h.file.mono imp⟩

/-- A reported charge may be set. -/
lemma setRemainingCharge {r : Rounded R} (h : Traced lib K first s) (hr : K r) (time : ℕ) :
    Traced lib K first (s.setRemainingCharge r time) := by
  rw [NonVolatile.setRemainingCharge]
  split_ifs
  · exact ⟨fun _ => hr, h.file⟩
  · exact h

/-- However far the file operations get. -/
lemma save (h : Traced lib K first s) (o : FileOutcome) :
    Traced lib K first (s.save lib.serializer s.stats o).2 := by
  refine ⟨fun hdirty => absurd hdirty (by rw [dirty_save]; simp), ?_⟩
  cases hdirty : s.dirty with
  | false => simpa [NonVolatile.save, hdirty] using h.file
  | true =>
    have hk := h.dirty hdirty
    cases hopen : o.opened with
    | false => simpa [NonVolatile.save, hdirty, hopen] using h.file
    | true =>
      cases hseek : o.sought with
      | false => exact .inr ⟨s.stats, 0, hk, by simp [NonVolatile.save, hdirty, hopen, hseek]⟩
      | true =>
        refine .inr ⟨s.stats, o.bytesTaken, hk, ?_⟩
        simp only [NonVolatile.save, hdirty, hopen, hseek, Bool.and_self, if_true]
        split_ifs <;> rfl

/-- The memory saves what it holds, and nothing else. -/
lemma loop (h : Traced lib K first s) (time : ℕ) (o : FileOutcome) :
    Traced lib K first (s.loop lib.serializer time o) := by
  rw [NonVolatile.loop]
  split_ifs
  · exact h.save o
  · exact h

end Traced

/-- What the next session reads of such a file. -/
lemma restored_of_leftBySave (refuses : lib.RefusesParts R) (h : LeftBySave lib K first file) :
    lib.restored file = (lib.restored first : Rounded R) ∨ lib.restored file = (0 : Rounded R) ∨
      ∃ (stats : BatStats R) (doc : Json), K stats.remainingCharge ∧
        lib.deserialize (lib.text stats) = some doc ∧
        lib.restored file = (convertFromJson doc : BatStats R).remainingCharge := by
  rcases h with rfl | ⟨stats, n, hk, rfl⟩
  · exact .inl rfl
  · right
    by_cases hpart : n < (lib.text stats).length
    · left
      simp [JsonLibrary.restored, JsonLibrary.restart, NonVolatile.new, refuses stats n hpart]
    · have hwhole : (lib.text stats).take n = lib.text stats :=
        List.take_of_length_le (not_lt.mp hpart)
      rw [hwhole]
      cases hdoc : lib.deserialize (lib.text stats) with
      | none =>
        exact .inl (by simp [JsonLibrary.restored, JsonLibrary.restart, NonVolatile.new, hdoc])
      | some doc =>
        exact .inr ⟨stats, doc, hk, hdoc, by
          simp [JsonLibrary.restored, JsonLibrary.restart, NonVolatile.new, hdoc]⟩

end
end AstroPowerBox.Storage

namespace AstroPowerBox.Main
open Foundation Battery Storage

/-! ## One session -/

namespace Box
section
variable {R : Rounding}

/-- The charges that the battery reports in an event. -/
def reports (ser : Serializer R) (s : Box R) : Event R → List (Rounded R)
  | .iteration i =>
    if s.loopRuns i then
      ((beforeBattery ser s i).battery.reported ((beforeBattery ser s i).batteryCall i)).toList
    else []
  | .callback _ => []

/-- The box after `setup`, which reads the file. -/
def restart (lib : JsonLibrary) (file : Option (List UInt8)) : Box R :=
  .boot file (file.bind fun text => (lib.deserialize text).map convertFromJson)

/-- The box at the end of a session that began with `file`. -/
def session (lib : JsonLibrary) (file : Option (List UInt8)) (events : List (Event R)) : Box R :=
  run (step lib.serializer) (restart lib file) events

/-- The charges that the battery reports in a session. -/
def reported (lib : JsonLibrary) (file : Option (List UInt8)) (events : List (Event R)) :
    List (Rounded R) :=
  outputs (step lib.serializer) (reports lib.serializer) (restart lib file) events

variable {lib : JsonLibrary} {ser : Serializer R} {K : Rounded R → Prop}
  {first file : Option (List UInt8)} {s : Box R} {i : Iteration R} {ev : Event R}
  {events : List (Event R)}

lemma battery_beforeBattery : (beforeBattery ser s i).battery = s.battery :=
  keeps_beforeSwitcher.1

/-- Before the battery the memory has had its own call. -/
lemma nvmem_beforeBattery : (beforeBattery ser s i).nvmem
    = s.nvmem.loop ser i.nvmemTime ((s.beforeSwitcher i).fileOutcome i) := by
  change (s.beforeSwitcher i).nvmem.loop _ _ _ = _
  rw [keeps_beforeSwitcher.2]
  rfl

/-- What is reported is saved, sooner or later. -/
lemma traced_step (h : Traced lib K first s.nvmem) (hk : ∀ r ∈ reports lib.serializer s ev, K r) :
    Traced lib K first (s.step lib.serializer ev).nvmem := by
  cases ev with
  | callback cb => rwa [show (s.step lib.serializer (.callback cb)).nvmem = s.nvmem from
      (keeps_callbacks [cb]).2]
  | iteration i =>
    simp only [reports] at hk
    simp only [step, iterate]
    split_ifs at hk ⊢ with hruns
    · have hloop : Traced lib K first (beforeBattery lib.serializer s i).nvmem := by
        rw [nvmem_beforeBattery]
        exact h.loop _ _
      simp only [batteryLoop, reportCalls]
      cases hreported : (beforeBattery lib.serializer s i).battery.reported
          ((beforeBattery lib.serializer s i).batteryCall i) with
      | none => exact hloop
      | some r => exact hloop.setRemainingCharge (hk r (by simp [hreported])) _
    · rwa [keeps_afterOta.2]

/-- Every charge in a session is traced, by induction on the events. -/
lemma traced_session (h : LeftBySave lib K first file) (hk : ∀ r ∈ reported lib file events, K r) :
    Traced lib K first (session lib file events).nvmem := by
  induction events using List.reverseRecOn with
  | nil => exact ⟨nofun, h⟩
  | append_singleton events ev ih =>
    rw [reported, outputs_concat] at hk
    rw [session, run_concat]
    refine traced_step (ih fun r hr => hk r ?_) fun r hr => hk r ?_
    · exact List.mem_append_left _ hr
    · exact List.mem_append_right _ hr

end

section
variable {ser : Serializer .binary32} {s : Box .binary32} {i : Iteration .binary32}
  {ev : Event .binary32}

/-- The battery is in its ranges, and the memory holds a possible charge. -/
structure Sane (s : Box .binary32) : Prop where
  battery : InRange s.battery
  charge : Possible s.nvmem.stats.remainingCharge

/-- Only battery and memory are looked at. -/
lemma Sane.congr {s' : Box .binary32} (h : Sane s) (hbattery : s'.battery = s.battery)
    (hnvmem : s'.nvmem = s.nvmem) : Sane s' :=
  ⟨by rw [hbattery]; exact h.battery, by rw [hnvmem]; exact h.charge⟩

/-- Saving does not change the statistics. -/
lemma stats_loop {R : Rounding} {m : NonVolatile R} {ser : Serializer R} {time : ℕ}
    {o : FileOutcome} : (m.loop ser time o).stats = m.stats := by
  rw [NonVolatile.loop]
  split_ifs
  · exact stats_save
  · rfl

/-- What comes before the battery keeps the ranges. -/
lemma Sane.beforeBattery (h : Sane s) : Sane (beforeBattery ser s i) where
  battery := by
    rw [battery_beforeBattery]
    exact h.battery
  charge := by
    rw [nvmem_beforeBattery, stats_loop]
    exact h.charge

/-- The battery is initialised with a possible charge and keeps its ranges from then on. -/
lemma Sane.batteryLoop (h : Sane s) : InRange (s.battery.loop (s.batteryCall i)) :=
  h.battery.loop (.inr h.charge)

/-- The battery reports a charge within its range. -/
lemma possible_of_reported {r : Rounded .binary32} (h : Sane s)
    (hr : s.battery.reported (s.batteryCall i) = some r) : Possible r := by
  rw [Lifepo4Battery.reported] at hr
  split_ifs at hr
  cases hr
  exact ⟨h.batteryLoop.charge_nonneg, h.batteryLoop.charge_le⟩

/-- So does every event. -/
lemma possible_reports (h : Sane s) : ∀ r ∈ reports ser s ev, Possible r := by
  intro r hr
  cases ev with
  | callback cb => cases hr
  | iteration i =>
    rw [reports] at hr
    split_ifs at hr
    · exact possible_of_reported h.beforeBattery (Option.mem_toList.mp hr)
    · cases hr

/-- One event keeps the ranges. -/
lemma Sane.step (h : Sane s) : Sane (s.step ser ev) := by
  cases ev with
  | callback cb =>
    obtain ⟨hbattery, hnvmem⟩ := keeps_callbacks (s := s) [cb]
    exact h.congr hbattery hnvmem
  | iteration i =>
    simp only [Box.step, iterate]
    split_ifs
    · refine ⟨h.beforeBattery.batteryLoop, ?_⟩
      simp only [Box.batteryLoop, reportCalls]
      cases hreported : (Box.beforeBattery ser s i).battery.reported
          ((Box.beforeBattery ser s i).batteryCall i) with
      | none => exact h.beforeBattery.charge
      | some r =>
        change Possible (NonVolatile.setRemainingCharge _ r _).stats.remainingCharge
        rw [NonVolatile.setRemainingCharge]
        split_ifs
        · exact possible_of_reported h.beforeBattery hreported
        · exact h.beforeBattery.charge
    · exact h.congr keeps_afterOta.1 keeps_afterOta.2

variable {lib : JsonLibrary} {file : Option (List UInt8)} {events : List (Event .binary32)}

lemma sane_session (h : Possible (lib.restored file)) : Sane (session lib file events) :=
  run_invariant _ ⟨inRange_init, h⟩ (fun _ _ h => h.step) events

/-- A session reports charges within the range only. -/
lemma possible_reported (h : Possible (lib.restored file)) :
    ∀ r ∈ reported lib file events, Possible r := by
  induction events using List.reverseRecOn with
  | nil => exact nofun
  | append_singleton events ev ih =>
    intro r hr
    rw [reported, outputs_concat, List.mem_append] at hr
    rcases hr with hr | hr
    · exact ih r hr
    · exact possible_reports (sane_session h) r hr

end

/-! ## Session after session -/

section
variable {R : Rounding} (lib : JsonLibrary) (first : Option (List UInt8))

/-- The file after the sessions, the first of which began with `first`. -/
def fileAfter (sessions : List (List (Event R))) : Option (List UInt8) :=
  run (fun file events => (session lib file events).nvmem.file) first sessions

/-- The charges that the battery reports in the sessions. -/
def reportedAfter (sessions : List (List (Event R))) : List (Rounded R) :=
  outputs (fun file events => (session lib file events).nvmem.file) (reported lib) first sessions

variable {lib first} {sessions : List (List (Event R))} {events : List (Event R)}

/-- The file is the first one, or what is left of the text of a reported charge. -/
lemma fileAfter_traced :
    LeftBySave lib (fun r => r ∈ reportedAfter lib first sessions) first
      (fileAfter lib first sessions) := by
  induction sessions using List.reverseRecOn with
  | nil => exact .inl rfl
  | append_singleton sessions events ih =>
    rw [fileAfter, run_concat, reportedAfter, outputs_concat]
    refine (traced_session (ih.mono fun r hr => ?_) fun r hr => ?_).file
    · exact List.mem_append_left _ hr
    · exact List.mem_append_right _ hr

end

variable {lib : JsonLibrary} {first : Option (List UInt8)}
  {sessions : List (List (Event .binary32))}

/-- A possible charge comes back as one. -/
def ReadsPossible (lib : JsonLibrary) : Prop :=
  ∀ (stats : BatStats .binary32) (doc : Json), Possible stats.remainingCharge →
    lib.deserialize (lib.text stats) = some doc →
    Possible (convertFromJson doc : BatStats .binary32).remainingCharge

/-- What a save has left is restored within the range: a whole file is read back, and a part is
refused. -/
lemma possible_restored {file : Option (List UInt8)} (refuses : lib.RefusesParts .binary32)
    (reads : ReadsPossible lib) (hfirst : Possible (lib.restored first))
    (h : LeftBySave lib Possible first file) : Possible (lib.restored file) := by
  rcases restored_of_leftBySave refuses h with heq | heq | ⟨stats, doc, hk, hdoc, heq⟩
  · rwa [heq]
  · rw [heq]
    exact ⟨le_rfl, by decide +kernel⟩
  · rw [heq]
    exact reads stats doc hk hdoc

/-- The file after any sessions, by induction on them. -/
lemma fileAfter_possible (refuses : lib.RefusesParts .binary32) (reads : ReadsPossible lib)
    (hfirst : Possible (lib.restored first)) :
    LeftBySave lib Possible first (fileAfter lib first sessions) := by
  refine run_invariant _ (.inl rfl) (fun file events h => ?_) sessions
  exact (traced_session h (possible_reported (possible_restored refuses reads hfirst h))).file

end Box

/-! ## Life -/

open Box

/-- The charge that a session starts with is the one that the first file held, none, or what is read
back of a charge that was reported in an earlier session. -/
theorem restored_was_reported {R : Rounding} (lib : JsonLibrary) (first : Option (List UInt8))
    (sessions : List (List (Event R))) (refuses : lib.RefusesParts R) :
    let charge : Rounded R := lib.restored (fileAfter lib first sessions)
    charge = lib.restored first ∨ charge = 0 ∨
      ∃ stats : BatStats R, stats.remainingCharge ∈ reportedAfter lib first sessions ∧
        ∃ doc, lib.deserialize (lib.text stats) = some doc ∧
          charge = (convertFromJson doc : BatStats R).remainingCharge := by
  intro charge
  rcases restored_of_leftBySave refuses fileAfter_traced with h | h | ⟨stats, doc, hk, hdoc, heq⟩
  · exact .inl h
  · exact .inr (.inl h)
  · exact .inr (.inr ⟨stats, hk, doc, hdoc, heq⟩)

/-- If the first file held a possible charge, and the JSON library refuses texts of which a part is missing
and reads possible charges back as possible ones, then at every moment of every session the battery is in
its ranges, and the memory holds a possible charge. -/
theorem ranges_for_life (lib : JsonLibrary) (first : Option (List UInt8))
    (sessions : List (List (Event .binary32))) (events : List (Event .binary32))
    (refuses : lib.RefusesParts .binary32) (reads : ReadsPossible lib)
    (hfirst : Possible (lib.restored first)) :
    Sane (session lib (fileAfter lib first sessions) events) :=
  sane_session (possible_restored refuses reads hfirst (fileAfter_possible refuses reads hfirst))

/-! ## A battery that gets full -/

/-- Charges that are whole numbers. -/
def wholeCharges : List (Rounded .binary32) := [107800, 108000]

/-- A library for the texts of these charges. -/
def wholeLibrary : JsonLibrary where
  serialize doc :=
    let stats : BatStats .binary32 := convertFromJson doc
    if stats ∈ wholeCharges.map fun charge => { remainingCharge := charge } then
      wholeJson.json stats
    else [0x7B, 0x7D]
  deserialize text :=
    (wholeCharges.find? fun charge => text = wholeJson.json { remainingCharge := charge }).map
      fun charge => convertToJson { remainingCharge := charge } .null
  serialize_ne_nil doc := by
    dsimp only
    split_ifs
    · exact wholeJson.json_ne_nil _
    · exact List.cons_ne_nil _ _

/-- A pass that charges the battery with 833 mA. -/
def chargingPass (time : ℕ) : Event .binary32 :=
  .iteration
    { connected := false
      switcher := .brief .noCommand time ⟨false, []⟩
      nvmemTime := time + 1
      file := ⟨true, true, 200⟩
      powersTime := time + 1
      powers := fun _ => (⟨time + 1, ⟨false, []⟩⟩, ⟨time + 1, ⟨false, []⟩⟩)
      batteryGate := time + 2
      batteryTime := time + 2
      batteryVoltage := ⟨time + 2, ⟨true, [0x35, 0x20]⟩⟩
      batteryCurrent := ⟨time + 2, ⟨true, [0x07, 0xD0]⟩⟩ }

/-- The battery gets full, the charge is saved a minute later, and the power is cut. -/
def chargingSession : List (Event .binary32) := [1000, 301000, 362100].map chargingPass

/-- The file of a nearly full battery. -/
def nearlyFull : Option (List UInt8) := some (wholeJson.json { remainingCharge := 107800 })

/-- The library for concrete runs reads whole texts only. -/
lemma wholeLibrary_refusesParts : wholeLibrary.RefusesParts .binary32 := by
  intro stats n hn
  have hlength : ∀ charge ∈ wholeCharges,
      (wholeJson.json { remainingCharge := charge }).length = 82 := by decide +kernel
  have hle : (wholeLibrary.text stats).length ≤ 82 := by
    simp only [JsonLibrary.text, wholeLibrary, convertFromJson_convertToJson]
    split_ifs with hknown
    · obtain ⟨charge, hcharge, rfl⟩ := List.mem_map.mp hknown
      exact (hlength charge hcharge).le
    · decide
  simp only [wholeLibrary, Option.map_eq_none_iff, List.find?_eq_none]
  intro charge hcharge htext
  have heq := congrArg List.length (of_decide_eq_true htext)
  rw [hlength charge hcharge, List.length_take] at heq
  omega

/-- What it reads is a charge that it has written. -/
lemma wholeLibrary_readsPossible : ReadsPossible wholeLibrary := by
  intro stats doc _ hdoc
  obtain ⟨charge, hfind, rfl⟩ := Option.map_eq_some_iff.mp hdoc
  have hpossible : ∀ charge ∈ wholeCharges, Possible charge := by
    unfold Possible
    decide +kernel
  rw [convertFromJson_convertToJson]
  exact hpossible charge (List.mem_of_find?_eq_some hfind)

lemma restored_nearlyFull : wholeLibrary.restored nearlyFull = (107800 : Rounded .binary32) := by
  decide +kernel

/-- One session that charges the battery. -/
theorem restored_was_reported_full :
    wholeLibrary.restored (fileAfter wholeLibrary nearlyFull [chargingSession])
        = (108000 : Rounded .binary32) ∧
      ((108000 : Rounded .binary32) = wholeLibrary.restored nearlyFull ∨
        (108000 : Rounded .binary32) = 0 ∨
        ∃ stats : BatStats .binary32,
          stats.remainingCharge ∈ reportedAfter wholeLibrary nearlyFull [chargingSession] ∧
          ∃ doc, wholeLibrary.deserialize (wholeLibrary.text stats) = some doc ∧
            108000 = (convertFromJson doc : BatStats .binary32).remainingCharge) := by
  have hfull : wholeLibrary.restored (fileAfter wholeLibrary nearlyFull [chargingSession])
      = (108000 : Rounded .binary32) := by decide +kernel
  have h := restored_was_reported wholeLibrary nearlyFull [chargingSession]
    wholeLibrary_refusesParts
  rw [hfull] at h
  exact ⟨hfull, h⟩

/-- The session after it. -/
theorem ranges_for_life_full :
    Sane (session wholeLibrary (fileAfter wholeLibrary nearlyFull [chargingSession])
      chargingSession) :=
  ranges_for_life wholeLibrary nearlyFull [chargingSession] chargingSession
    wholeLibrary_refusesParts wholeLibrary_readsPossible
    (by rw [restored_nearlyFull]; exact ⟨by decide +kernel, by decide +kernel⟩)

end AstroPowerBox.Main
