import AstroPowerBox.Foundation.Json
import AstroPowerBox.Storage.Save

/-!
# What a restart loads

The file against the shadow copy `_savedStats`. A save that succeeds makes them equal, and reading the
file back gives what was written (`convertFromJson_convertToJson`); nothing else changes either. The
flag `_dirty` is set by every modification, so a charge that has drifted too far is never left unsaved
(`Synced`, kept by every call). `loss_bounded` draws the bound from it.
-/

namespace AstroPowerBox.Storage
open Foundation NonVolatile

section
variable {R : Rounding}

/-- Source `convertToJson` for `batStats`. -/
def convertToJson (src : BatStats R) (dst : Json) : Json :=
  ((dst.set "total coulomb charged" (.num src.totalCoulombCharged.val)).set
    "total coulomb discharged" (.num src.totalCoulombDischarged.val)).set
    "remaining charge" (.num src.remainingCharge.val)

/-- A member that is a number (`is<float>`), else the default of the statistics. -/
def asFloat : Json → Rounded R
  | .num x => .ofRat x
  | _ => 0

/-- Source `convertFromJson` for `batStats`. -/
def convertFromJson (src : Json) : BatStats R where
  totalCoulombCharged := asFloat (src.get "total coulomb charged")
  totalCoulombDischarged := asFloat (src.get "total coulomb discharged")
  remainingCharge := asFloat (src.get "remaining charge")

/-- A represented number is read back as itself. -/
@[simp] lemma asFloat_num {a : Rounded R} : asFloat (.num a.val) = a := by
  ext
  exact a.fixed

/-- The statistics survive the way through a document. -/
lemma convertFromJson_convertToJson {stats : BatStats R} :
    convertFromJson (convertToJson stats .null) = stats := by
  simp [convertFromJson, convertToJson]

/-- The JSON library: the text of a document, never empty, and the document of a text, if it can be
parsed. -/
structure JsonLibrary where
  serialize : Json → List UInt8
  deserialize : List UInt8 → Option Json
  serialize_ne_nil : ∀ doc, serialize doc ≠ []

namespace JsonLibrary
variable (lib : JsonLibrary)

/-- The text of the statistics. -/
def serializer : Serializer R where
  json stats := lib.serialize (convertToJson stats .null)
  json_ne_nil _ := lib.serialize_ne_nil _

/-- Source `non_volatile::non_volatile`, with what the file holds. -/
def restart (file : Option (List UInt8)) : NonVolatile R :=
  .new file (file.bind fun text => (lib.deserialize text).map convertFromJson)

/-- In every call of `loop` the file operations would be complete, and the text of the statistics
would be read back as it was written. -/
def FileWorks (s0 : NonVolatile R) (hist : List (Call R)) : Call R → Prop
  | .loop _ o =>
    let stats := (run (step lib.serializer) s0 hist).stats
    o.complete (lib.serialize (convertToJson stats .null)) = true ∧
      lib.deserialize (lib.serialize (convertToJson stats .null))
        = some (convertToJson stats .null)
  | .setRemainingCharge _ _ => True

/-- After a call of `loop` a restart would load the saved charge, and the charge has not moved away
from it by more than 100 mAh. -/
def LossBounded (s0 : NonVolatile R) (hist : List (Call R)) : Call R → Prop
  | .loop time o =>
    let s := run (step lib.serializer) s0 (hist ++ [.loop time o])
    (lib.restart s.file : NonVolatile R).stats.remainingCharge = s.savedStats.remainingCharge ∧
      (s.savedStats.remainingCharge - s.stats.remainingCharge).abs ≤ 0.1 * 3600
  | .setRemainingCharge _ _ => True

/-- The file holds the saved statistics, and these are the current ones unless there are changes. -/
structure Synced (s : NonVolatile R) : Prop where
  file : (lib.restart s.file : NonVolatile R).stats = s.savedStats
  clean : s.dirty = false → s.savedStats.remainingCharge = s.stats.remainingCharge

end JsonLibrary

variable {lib : JsonLibrary} {s : NonVolatile R} {o : FileOutcome}

/-- A charge that is saved has not moved. -/
lemma abs_sub_self_le {a : Rounded R} : (a - a).abs ≤ 0.1 * 3600 := by
  have htenth : (0 : Rounded R) ≤ 0.1 := Rounded.ofRat_nonneg (by norm_num)
  have hhour : (0 : Rounded R) ≤ 3600 := Rounded.ofRat_nonneg (by norm_num)
  rw [Rounded.sub_self, Rounded.abs_zero]
  exact Rounded.mul_nonneg htenth hhour

namespace JsonLibrary

/-- A complete save brings file and statistics together. -/
lemma Synced.of_save (ho : o.complete (lib.serialize (convertToJson s.stats .null)) = true)
    (hread : lib.deserialize (lib.serialize (convertToJson s.stats .null))
      = some (convertToJson s.stats .null)) (hdirty : s.dirty = true) :
    lib.Synced (s.save lib.serializer s.stats o).2 ∧
      (s.save lib.serializer s.stats o).2.savedStats = (s.save lib.serializer s.stats o).2.stats := by
  have hsave : s.save lib.serializer s.stats o = _ := save_of_complete hdirty ho
  rw [hsave]
  refine ⟨⟨?_, fun _ => rfl⟩, rfl⟩
  simp [restart, new, serializer, hread, convertFromJson_convertToJson]

/-- A call of `loop` keeps file and shadow copy together, and the charge near the saved one. -/
lemma Synced.loop (h : lib.Synced s) (time : ℕ)
    (ho : o.complete (lib.serialize (convertToJson s.stats .null)) = true)
    (hread : lib.deserialize (lib.serialize (convertToJson s.stats .null))
      = some (convertToJson s.stats .null)) :
    lib.Synced (s.loop lib.serializer time o) ∧
      ((s.loop lib.serializer time o).savedStats.remainingCharge
        - (s.loop lib.serializer time o).stats.remainingCharge).abs ≤ 0.1 * 3600 := by
  rw [NonVolatile.loop]
  split_ifs with hrequired
  · cases hdirty : s.dirty with
    | true =>
      obtain ⟨hsynced, heq⟩ := of_save ho hread hdirty
      refine ⟨hsynced, ?_⟩
      rw [heq]
      exact abs_sub_self_le
    | false =>
      -- nothing to save: the charge is the saved one
      have hkeep : (s.save lib.serializer s.stats o).2 = s := by simp [save, hdirty]
      rw [hkeep, h.clean hdirty]
      exact ⟨h, abs_sub_self_le⟩
  · simp only [saveRequired, Bool.or_eq_true, decide_eq_true_eq, not_or] at hrequired
    exact ⟨h, not_lt.mp hrequired.2⟩

/-- A new charge is marked, and the file keeps the old one. -/
lemma Synced.setRemainingCharge {remainingCharge : Rounded R} {time : ℕ} (h : lib.Synced s) :
    lib.Synced (s.setRemainingCharge remainingCharge time) := by
  rw [NonVolatile.setRemainingCharge]
  split_ifs
  · exact ⟨h.file, fun hdirty => by cases hdirty⟩
  · exact h

variable {file : Option (List UInt8)} {calls : List (Call R)}

/-- The file is never behind what counts as saved, by induction on the calls. -/
lemma synced_run (h : EveryStep (lib.FileWorks (lib.restart file)) calls) :
    lib.Synced (run (step lib.serializer) (lib.restart file : NonVolatile R) calls) := by
  induction calls using List.reverseRecOn with
  | nil => exact ⟨rfl, fun _ => rfl⟩
  | append_singleton hist c ih =>
    obtain ⟨hhist, hc⟩ := everyStep_concat.mp h
    rw [run_concat]
    cases c with
    | setRemainingCharge remainingCharge time => exact (ih hhist).setRemainingCharge
    | loop time o => exact ((ih hhist).loop time hc.1 hc.2).1

end JsonLibrary

/-- From a restart on, with files that work: after every `loop` another restart would load the saved
charge, which is at most 100 mAh away from the current one; and in every state, unless there are
changes, the saved charge is the current one. -/
theorem loss_bounded (lib : JsonLibrary) (file : Option (List UInt8)) (calls : List (Call R))
    (works : EveryStep (lib.FileWorks (lib.restart file)) calls) :
    EveryStep (lib.LossBounded (lib.restart file)) calls ∧
    ∀ hist, hist <+: calls →
      let s := run (step lib.serializer) (lib.restart file) hist
      s.dirty = false → s.savedStats.remainingCharge = s.stats.remainingCharge := by
  constructor
  · refine works.imp fun hist c h => ?_
    obtain ⟨hhist, hc⟩ := everyStep_concat.mp h
    cases c with
    | setRemainingCharge remainingCharge time => trivial
    | loop time o =>
      obtain ⟨hsynced, hle⟩ := (JsonLibrary.synced_run hhist).loop time hc.1 hc.2
      rw [JsonLibrary.LossBounded, run_concat]
      exact ⟨congrArg BatStats.remainingCharge hsynced.file, hle⟩
  · exact fun hist pre => (JsonLibrary.synced_run (works.of_prefix pre)).clean

end

/-! ## The first save -/

/-- A library that reads the text of a charge of 500 As. -/
def chargeLibrary : JsonLibrary where
  serialize doc := wholeJson.json (convertFromJson doc)
  deserialize text :=
    if text = wholeJson.json { remainingCharge := 500 } then
      some (convertToJson (R := .binary32) { remainingCharge := 500 } .null)
    else none
  serialize_ne_nil _ := wholeJson.json_ne_nil _

/-- A charge of 500 As is reported to a box without a file, and saved. -/
def firstSave : List (Call .binary32) := [.setRemainingCharge 500 5000, .loop 5100 ⟨true, true, 200⟩]

/-- The first save of a new file. -/
theorem loss_bounded_firstSave :
    EveryStep (chargeLibrary.LossBounded (chargeLibrary.restart none)) firstSave := by
  have hread : ∀ stats : BatStats .binary32, stats = { remainingCharge := 500 } →
      chargeLibrary.deserialize (chargeLibrary.serialize (convertToJson stats .null))
        = some (convertToJson stats .null) := by
    rintro _ rfl
    exact if_pos (congrArg wholeJson.json convertFromJson_convertToJson)
  refine (loss_bounded chargeLibrary none firstSave ?_).1
  have hfirst : EveryStep (chargeLibrary.FileWorks (chargeLibrary.restart none))
      [.setRemainingCharge (500 : Rounded .binary32) 5000] := everyStep_singleton.mpr trivial
  have hsecond : chargeLibrary.FileWorks (chargeLibrary.restart none)
      [.setRemainingCharge (500 : Rounded .binary32) 5000] (.loop 5100 ⟨true, true, 200⟩) :=
    ⟨by decide +kernel, hread _ (by decide +kernel)⟩
  exact everyStep_concat.mpr ⟨hfirst, hsecond⟩

end AstroPowerBox.Storage
