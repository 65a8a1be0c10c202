import AstroPowerBox.Foundation.Json
import AstroPowerBox.Foundation.Rounding

/-!
# Status document

Source `src/communication/communication_types.hpp` and `communication_types.cpp`: the records of a
status message and the document made of them.
-/

namespace AstroPowerBox.Communication
open Foundation

inductive InfoQuality where
  | bad
  | medium
  | good
deriving DecidableEq

section
variable {R : Rounding}

structure BatInfo (R : Rounding) where
  quality : InfoQuality := .bad
  soc : Rounded R := 0
  energy : Rounded R := 0
  voltage : Rounded R := 0
  current : Rounded R := 0
  shuntAdc : Int16 := 0
  chargeSecondsRemainingToFullSoC : UInt32 := 0
  chargeSecondsRemainingToBulkSoC : UInt32 := 0
  dischargeSecondsRemainingToEmpty : UInt32 := 0
  dischargeSecondsRemainingToReserved : UInt32 := 0
deriving DecidableEq

@[ext]
structure ConsumerInfo (R : Rounding) where
  isPowered : Bool := false
  isActive : Bool := false
  voltage : Rounded R := 0
  current : Rounded R := 0
  power : Rounded R := 0
  avgPower : Rounded R := 0
  shuntAdc : Int16 := 0
deriving DecidableEq

structure DewSensorInfo (R : Rounding) where
  quality : InfoQuality := .bad
  temperature : Rounded R := 0
  relHumidity : Rounded R := 0
deriving DecidableEq

structure TxContent (R : Rounding) where
  timestamp : UInt32 := 0
  pressCount : UInt32 := 0
  buttonPressed : Bool := false
  shutdownPC : Bool := false
  wifiStrength : Int8 := 0
  batteryInfo : BatInfo R := {}
  dewInfo : DewSensorInfo R := {}
  chargerInfo : ConsumerInfo R := {}
  pcInfo : ConsumerInfo R := {}
  mountInfo : ConsumerInfo R := {}
  cameraInfo : ConsumerInfo R := {}
  heater1Info : ConsumerInfo R := {}
  heater2Info : ConsumerInfo R := {}
deriving DecidableEq

/-! ## Conversion

A record that is assigned to a member becomes a document of its own. -/

def qualityToJson (src : InfoQuality) (dst : Json) : Json :=
  match src with
  | .good => dst.set "quality" (.str "good")
  | .medium => dst.set "quality" (.str "medium")
  | .bad => dst.set "quality" (.str "bad")

/-- Source `convertToJson` for `consumerInfo`. -/
def ConsumerInfo.convertToJson (src : ConsumerInfo R) (dst : Json) : Json :=
  let dst := dst.set "is powered" (.bool src.isPowered)
  let dst := dst.set "is active" (.bool src.isActive)
  let dst := dst.set "voltage" (.num src.voltage.val)
  let dst := dst.set "current" (.num src.current.val)
  let dst := dst.set "power" (.num src.power.val)
  let dst := dst.set "average power" (.num src.avgPower.val)
  dst.set "shunt ADC" (.num src.shuntAdc.toInt)

/-- Source `convertToJson` for `batInfo`. -/
def BatInfo.convertToJson (src : BatInfo R) (dst : Json) : Json :=
  let dst := qualityToJson src.quality dst
  let dst := dst.set "SoC" (.num src.soc.val)
  let dst := dst.set "energy" (.num src.energy.val)
  let dst := dst.set "voltage" (.num src.voltage.val)
  let dst := dst.set "current" (.num src.current.val)
  let dst := dst.set "shunt ADC" (.num src.shuntAdc.toInt)
  let dst := dst.set "seconds to full" (.num src.chargeSecondsRemainingToFullSoC.toNat)
  let dst := dst.set "seconds to bulk" (.num src.chargeSecondsRemainingToBulkSoC.toNat)
  let dst := dst.set "seconds to empty" (.num src.dischargeSecondsRemainingToEmpty.toNat)
  dst.set "seconds to reserved" (.num src.dischargeSecondsRemainingToReserved.toNat)

/-- Source `convertToJson` for `dewSensorInfo`. -/
def DewSensorInfo.convertToJson (src : DewSensorInfo R) (dst : Json) : Json :=
  let dst := qualityToJson src.quality dst
  let dst := dst.set "temperature" (.num src.temperature.val)
  dst.set "relative humidity" (.num src.relHumidity.val)

/-- The object under `consumers`, a new one if there is none. -/
def consumersObject (dst : Json) : Json :=
  match dst.get "consumers" with
  | .obj members => .obj members
  | _ => .obj []

/-- Source `convertToJson` for `txContent`. -/
def TxContent.convertToJson (src : TxContent R) (dst : Json) : Json :=
  let dst := dst.set "time" (.num src.timestamp.toNat)
  let dst := dst.set "button pressed" (.bool src.buttonPressed)
  let dst := dst.set "shutdown PC" (.bool src.shutdownPC)
  let dst := dst.set "press count" (.num src.pressCount.toNat)
  let dst := dst.set "wifi dbm" (.num src.wifiStrength.toInt)
  let dst := dst.set "battery info" (src.batteryInfo.convertToJson .null)
  let dst := dst.set "dew info" (src.dewInfo.convertToJson .null)
  let jConsumers := consumersObject dst
  let jConsumers := jConsumers.set "charger" (src.chargerInfo.convertToJson .null)
  let jConsumers := jConsumers.set "pc" (src.pcInfo.convertToJson .null)
  let jConsumers := jConsumers.set "mount" (src.mountInfo.convertToJson .null)
  let jConsumers := jConsumers.set "camera" (src.cameraInfo.convertToJson .null)
  let jConsumers := jConsumers.set "heater1" (src.heater1Info.convertToJson .null)
  let jConsumers := jConsumers.set "heater2" (src.heater2Info.convertToJson .null)
  dst.set "consumers" jConsumers

/-- Source `_doc.set`: the document of a message. -/
def TxContent.document (tx : TxContent R) : Json := tx.convertToJson .null

/-! ## Reading the document -/

variable {tx tx' : TxContent R} {info info' : ConsumerInfo R} {key : String}

/-- Two objects are equal only if all members are. -/
lemma ConsumerInfo.convertToJson_inj :
    info.convertToJson .null = info'.convertToJson .null ↔ info = info' := by
  refine ⟨fun h => ?_, fun h => h ▸ rfl⟩
  have hget : ∀ key, (info.convertToJson .null).get key = (info'.convertToJson .null).get key :=
    fun key => congrArg (Json.get · key) h
  ext
  · simpa [convertToJson] using hget "is powered"
  · simpa [convertToJson] using hget "is active"
  · simpa [convertToJson] using hget "voltage"
  · simpa [convertToJson] using hget "current"
  · simpa [convertToJson] using hget "power"
  · simpa [convertToJson] using hget "average power"
  · simpa [convertToJson, Int16.toInt_inj] using hget "shunt ADC"

@[simp] lemma takesMembers_qualityToJson {quality : InfoQuality} {dst : Json} :
    (qualityToJson quality dst).takesMembers = dst.takesMembers := by
  cases quality <;> simp [qualityToJson]

/-- The six consumers in the order in which they are set. -/
lemma TxContent.get_consumers : tx.document.get "consumers" =
    ((((((Json.obj []).set "charger" (tx.chargerInfo.convertToJson .null)).set "pc"
      (tx.pcInfo.convertToJson .null)).set "mount" (tx.mountInfo.convertToJson .null)).set "camera"
      (tx.cameraInfo.convertToJson .null)).set "heater1" (tx.heater1Info.convertToJson .null)).set
      "heater2" (tx.heater2Info.convertToJson .null) := by
  simp [document, convertToJson, consumersObject]

/-- The other members do not depend on the consumers. -/
lemma TxContent.get_congr (hkey : key ≠ "consumers")
    (h : { tx' with
      chargerInfo := tx.chargerInfo, pcInfo := tx.pcInfo, mountInfo := tx.mountInfo,
      cameraInfo := tx.cameraInfo, heater1Info := tx.heater1Info,
      heater2Info := tx.heater2Info } = tx) : tx'.document.get key = tx.document.get key := by
  rw [← h]
  simp [document, convertToJson, hkey.symm]

end
end AstroPowerBox.Communication
