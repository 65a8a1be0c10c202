import AstroPowerBox.Communication.Types
import AstroPowerBox.Foundation.Documents

/-!
# The size of the document

Source `communication.hpp`: a message is made in `_doc`, which has room for a fixed number of
members. How many the 1024 bytes are, and what happens to the others, is up to the library
(`BoundedDocuments`). What the records of `communication_types.cpp` assign is here the list of the
members, in the order of the assignments; it makes up the document (`toJson_members`). With less room
the last members are missing, so the message is whole with room for 69 members or more and otherwise
not (`documentIn_eq_iff`).
-/

namespace AstroPowerBox.Communication
open Foundation

section
variable {R : Rounding}

/-- The member that `qualityToJson` assigns. -/
def qualityMember (src : InfoQuality) : Member :=
  (["quality"], .str (match src with
    | .good => "good"
    | .medium => "medium"
    | .bad => "bad"))

def ConsumerInfo.members (src : ConsumerInfo R) : List Member :=
  [(["is powered"], .bool src.isPowered),
   (["is active"], .bool src.isActive),
   (["voltage"], .num src.voltage.val),
   (["current"], .num src.current.val),
   (["power"], .num src.power.val),
   (["average power"], .num src.avgPower.val),
   (["shunt ADC"], .num src.shuntAdc.toInt)]

def BatInfo.members (src : BatInfo R) : List Member :=
  [qualityMember src.quality,
   (["SoC"], .num src.soc.val),
   (["energy"], .num src.energy.val),
   (["voltage"], .num src.voltage.val),
   (["current"], .num src.current.val),
   (["shunt ADC"], .num src.shuntAdc.toInt),
   (["seconds to full"], .num src.chargeSecondsRemainingToFullSoC.toNat),
   (["seconds to bulk"], .num src.chargeSecondsRemainingToBulkSoC.toNat),
   (["seconds to empty"], .num src.dischargeSecondsRemainingToEmpty.toNat),
   (["seconds to reserved"], .num src.dischargeSecondsRemainingToReserved.toNat)]

def DewSensorInfo.members (src : DewSensorInfo R) : List Member :=
  [qualityMember src.quality,
   (["temperature"], .num src.temperature.val),
   (["relative humidity"], .num src.relHumidity.val)]

/-- A record that is assigned to a member: an object, and then its own members. -/
def record (key : String) (members : List Member) : List Member :=
  ([key], .obj []) :: Member.under key members

def TxContent.consumers (src : TxContent R) : List Member :=
  record "charger" src.chargerInfo.members ++ record "pc" src.pcInfo.members
    ++ record "mount" src.mountInfo.members ++ record "camera" src.cameraInfo.members
    ++ record "heater1" src.heater1Info.members ++ record "heater2" src.heater2Info.members

/-- The five numbers and flags at the head of a message. -/
def TxContent.head (src : TxContent R) : List Member :=
  [(["time"], .num src.timestamp.toNat),
   (["button pressed"], .bool src.buttonPressed),
   (["shutdown PC"], .bool src.shutdownPC),
   (["press count"], .num src.pressCount.toNat),
   (["wifi dbm"], .num src.wifiStrength.toInt)]

def TxContent.members (src : TxContent R) : List Member :=
  src.head ++ record "battery info" src.batteryInfo.members
    ++ record "dew info" src.dewInfo.members ++ record "consumers" src.consumers

/-- The document of a message, as the library makes it (source `_doc.set(tx)`). -/
def TxContent.documentIn (L : BoundedDocuments) (tx : TxContent R) : Json :=
  L.content (run L.put L.empty tx.members)

/-! ## The members make up the document -/

variable {L : BoundedDocuments} {tx : TxContent R}

/-- An object that is filled path by path is set as a whole. -/
lemma run_record {doc : Json} {key : String} {members : List Member} (h : doc.takesMembers = true) :
    run (fun doc m => doc.setPath m.1 m.2) doc (record key members)
      = doc.set key (run (fun doc m => doc.setPath m.1 m.2) (.obj []) members) :=
  Member.run_under h

lemma run_consumerInfo {info : ConsumerInfo R} :
    run (fun doc m => doc.setPath m.1 m.2) (.obj []) info.members = info.convertToJson .null := rfl

/-- The members of the battery, one after the other, make its object. -/
lemma run_batInfo {info : BatInfo R} :
    run (fun doc m => doc.setPath m.1 m.2) (.obj []) info.members = info.convertToJson .null := by
  obtain ⟨quality⟩ := info
  cases quality <;> rfl

/-- The members of the dew sensor, one after the other, make its object. -/
lemma run_dewSensorInfo {info : DewSensorInfo R} :
    run (fun doc m => doc.setPath m.1 m.2) (.obj []) info.members = info.convertToJson .null := by
  obtain ⟨quality⟩ := info
  cases quality <;> rfl

/-- The six consumers make the object `consumers`. -/
lemma run_consumers : run (fun doc m => doc.setPath m.1 m.2) (.obj []) tx.consumers
    = tx.document.get "consumers" := by
  have hempty : (Json.obj []).takesMembers = true := rfl
  rw [TxContent.get_consumers, TxContent.consumers]
  simp only [run_append, run_record, run_consumerInfo, Json.takesMembers_set, hempty]

/-- All members, one after the other, make the document. -/
theorem toJson_members : Member.toJson tx.members = tx.document := by
  have hhead : run (fun doc m => doc.setPath m.1 m.2) .null tx.head
      = ((((Json.null.set "time" (.num tx.timestamp.toNat)).set "button pressed"
          (.bool tx.buttonPressed)).set "shutdown PC" (.bool tx.shutdownPC)).set "press count"
          (.num tx.pressCount.toNat)).set "wifi dbm" (.num tx.wifiStrength.toInt) := rfl
  have hnull : Json.null.takesMembers = true := rfl
  rw [Member.toJson, TxContent.members]
  simp only [run_append, run_record, run_batInfo, run_dewSensorInfo, run_consumers, hhead,
    Json.takesMembers_set, hnull, TxContent.get_consumers]
  rfl

/-! ## What there is room for -/

/-- The paths of a message, in the order of the assignments. -/
def layout : List Path := Member.paths ({} : TxContent .exact).members

/-- The paths do not depend on what is sent. -/
lemma paths_members : Member.paths tx.members = layout := rfl

/-- Each path of the layout comes after the objects that it is in. -/
lemma follows_layout : Follows [] layout := by decide +kernel

/-- A status has 69 members. -/
lemma length_members : tx.members.length = 69 := rfl

/-- The members that are assigned first are there. -/
lemma documentIn_eq : tx.documentIn L = Member.toJson (tx.members.take L.room) :=
  (BoundedDocuments.held_run (paths_members ▸ follows_layout)).2

/-- No value brings members of its own. -/
def Plain (ms : List Member) : Prop := ∀ m ∈ ms, ∀ key, m.2.get key = .null

/-- Two plain lists are one plain list. -/
lemma Plain.append {ms ms' : List Member} (h : Plain ms) (h' : Plain ms') : Plain (ms ++ ms') :=
  fun m hm => (List.mem_append.mp hm).elim (h m) (h' m)

/-- Members that are put into an object stay plain. -/
lemma Plain.record {ms : List Member} {key : String} (h : Plain ms) : Plain (record key ms) := by
  intro m hm
  rcases List.mem_cons.mp hm with rfl | hunder
  · exact fun key => rfl
  · obtain ⟨m', hm', rfl⟩ := List.mem_map.mp hunder
    exact h m' hm'

lemma plain_consumerInfo {info : ConsumerInfo R} : Plain info.members := by
  simp [Plain, ConsumerInfo.members, Json.get]

/-- Every member of the status is a number or a flag. -/
lemma plain_members : Plain tx.members := by
  have hhead : Plain tx.head := by simp [Plain, TxContent.head, Json.get]
  have hbattery : Plain tx.batteryInfo.members := by
    simp [Plain, BatInfo.members, qualityMember, Json.get]
  have hdew : Plain tx.dewInfo.members := by
    simp [Plain, DewSensorInfo.members, qualityMember, Json.get]
  have hconsumers : Plain tx.consumers := by
    refine .append (.append (.append (.append (.append ?_ ?_) ?_) ?_) ?_) ?_
    all_goals exact .record plain_consumerInfo
  exact ((hhead.append hbattery.record).append hdew.record).append hconsumers.record

/-- What is assigned late is not there if there is not enough room. -/
lemma getPath_documentIn_of_le {path : Path} {count : ℕ} (hroom : L.room ≤ count)
    (hpath : path ≠ []) (hbefore : ∀ q ∈ layout.take count, ¬ path <+: q) :
    (tx.documentIn L).getPath path = .null := by
  have hpaths : Member.paths (tx.members.take count) = layout.take count := List.map_take
  rw [documentIn_eq]
  refine Member.getPath_of_unwritten (fun m hm => plain_members m (List.mem_of_mem_take hm))
    (fun m hm => hbefore m.1 ?_) hpath
  rw [← hpaths]
  exact List.mem_map_of_mem (List.take_subset_take_left _ hroom hm)

/-- The member that is assigned last. -/
def lastPath : Path := ["consumers", "heater2", "shunt ADC"]

/-- The member that is assigned last is the reading of the shunt of heater 2. -/
lemma getPath_lastPath :
    tx.document.getPath lastPath = .num tx.heater2Info.shuntAdc.toInt := by
  have hempty : (Json.obj []).takesMembers = true := rfl
  simp [lastPath, Json.getPath, TxContent.get_consumers, ConsumerInfo.convertToJson, hempty]

/-- Without room for 69 members, the last one is missing. -/
lemma getPath_lastPath_of_lt (hsmall : L.room < 69) : (tx.documentIn L).getPath lastPath = .null :=
  getPath_documentIn_of_le (Nat.le_of_lt_succ hsmall) (by decide) (by decide +kernel)

/-- A message is sent whole exactly if the document has room for 69 members; with less room the last
member is missing, at least. -/
theorem documentIn_eq_iff (L : BoundedDocuments) (tx : TxContent R) :
    (tx.documentIn L = tx.document ↔ 69 ≤ L.room) ∧
      (L.room < 69 → (tx.documentIn L).getPath lastPath = .null ∧
        tx.document.getPath lastPath = .num tx.heater2Info.shuntAdc.toInt) := by
  refine ⟨⟨fun h => ?_, fun hroom => ?_⟩, fun hsmall => ?_⟩
  · by_contra hsmall
    have hlast : (tx.documentIn L).getPath lastPath = .null :=
      getPath_lastPath_of_lt (Nat.lt_of_not_le hsmall)
    rw [h, getPath_lastPath] at hlast
    cases hlast
  · rw [documentIn_eq, List.take_of_length_le (length_members.trans_le hroom), toJson_members]
  · exact ⟨getPath_lastPath_of_lt hsmall, getPath_lastPath⟩

/-- What is assigned early is also there if there is not enough room. -/
lemma getPath_documentIn {path : Path} {count : ℕ} (hroom : count ≤ L.room)
    (apart : ∀ q ∈ layout.drop count, ¬ q <+: path ∧ ¬ path <+: q) :
    (tx.documentIn L).getPath path = tx.document.getPath path := by
  have hpaths : Member.paths (tx.members.drop count) = layout.drop count := List.map_drop
  have hrest : ∀ m ∈ tx.members.drop count, ¬ m.1 <+: path ∧ ¬ path <+: m.1 := by
    intro m hm
    refine apart m.1 ?_
    rw [← hpaths]
    exact List.mem_map_of_mem hm
  have hcut : tx.members.take L.room
      = tx.members.take count ++ (tx.members.drop count).take (L.room - count) := by
    rw [← List.take_add, Nat.add_sub_cancel' hroom]
  rw [documentIn_eq, hcut, Member.getPath_of_apart fun m hm => hrest m (List.mem_of_mem_take hm),
    ← Member.getPath_of_apart hrest, List.take_append_drop, toJson_members]

end

end AstroPowerBox.Communication
