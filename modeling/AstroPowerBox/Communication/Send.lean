import AstroPowerBox.Battery.Loop
import AstroPowerBox.Communication.Types
import AstroPowerBox.Foundation.Binary
import AstroPowerBox.Sensors.Psens
import AstroPowerBox.Switcher.Button
import AstroPowerBox.Switcher.Charge
import AstroPowerBox.Switcher.Consumers

/-!
# Status message

Source `communication::_send`: the records of a message, read off the device. Each consumer is to be
described by its own channel and switch (`Device.describe`). The last block of the source fills the
record of the first heater a second time, so `send_eq` finds the second heater in the place of the
first, and `document_iff` settles what the document still says.
-/

namespace AstroPowerBox.Communication
open Foundation Sensors Switcher Battery

section
variable {R : Rounding}

/-- What the sensors answer for a channel. -/
structure ChannelReadings (R : Rounding) where
  voltage : Rounded R
  current : Rounded R
  power : Rounded R
  shuntAdc : Int16
deriving DecidableEq

/-- What a message is made of. -/
structure Device (R : Rounding) where
  readings : PsensChannel → ChannelReadings R
  pins : Pins := {}
  charge : ChargeSwitch R := {}
  btnInfo : ButtonInfo := {}
  consumersState : ConsumersState := .offIdle
  battery : Lifepo4Battery R := {}
  rssi : Int8 := 0
  time : ℕ := 0

namespace Device

def getHeater (d : Device R) (heaterNr : ℕ) : Rounded R :=
  .ofInt (if heaterNr ≠ 0 then d.pins.heaterPwmValues.2 else d.pins.heaterPwmValues.1) / 10.23

/-- The record of a consumer: its channel, whether it is powered, and the current from which on it is
active. The average power is the power (source `getAvgPower`). -/
def consumerInfo (d : Device R) (channel : PsensChannel) (isPowered : Bool)
    (activeCurrent : Rounded R) : ConsumerInfo R where
  isPowered := isPowered
  isActive := (d.readings channel).current > activeCurrent
  voltage := (d.readings channel).voltage
  current := (d.readings channel).current
  power := (d.readings channel).power
  avgPower := (d.readings channel).power
  shuntAdc := (d.readings channel).shuntAdc

/-- The record of the charger, from the battery channel. -/
def chargerInfo (d : Device R) : ConsumerInfo R :=
  let battery := d.readings .ch1Battery
  { isPowered := d.charge.getCharger
    isActive := battery.current > 0.1
    voltage := battery.voltage
    current := max battery.current 0
    power := battery.voltage * max battery.current 0
    avgPower := battery.voltage * max battery.current 0
    shuntAdc := battery.shuntAdc }

/-- The record of the battery. -/
def batteryInfo (d : Device R) : BatInfo R where
  quality := if d.battery.socGood then .good else .medium
  soc := d.battery.soc
  energy := d.battery.chargeRemaining
  voltage := (d.readings .ch1Battery).voltage
  current := (d.readings .ch1Battery).current
  shuntAdc := (d.readings .ch1Battery).shuntAdc

def send (d : Device R) : TxContent R :=
  let tx : TxContent R := {
    timestamp := millis d.time
    pressCount := d.btnInfo.numPressesSinceStart
    buttonPressed := d.btnInfo.pressed
    shutdownPC := d.consumersState = .onWait4pcShutdown
    wifiStrength := d.rssi
    batteryInfo := d.batteryInfo }
  let tx := { tx with chargerInfo := d.chargerInfo }
  let tx := { tx with pcInfo := d.consumerInfo .ch4Pc d.pins.getConsumers 0.4 }
  let tx := { tx with mountInfo := d.consumerInfo .ch5Mount d.pins.getMount 0.4 }
  let tx := { tx with cameraInfo := d.consumerInfo .ch6ImagingCam d.pins.getCamera 0.2 }
  let tx := { tx with heater1Info := d.consumerInfo .ch2DewHeater1 (d.getHeater 0 > 0) 0.2 }
  -- the block of the second heater writes the first record again
  { tx with heater1Info := d.consumerInfo .ch3DewHeater2 (d.getHeater 1 > 0) 0.2 }

end Device

/-! ## What the document should say -/

/-- The consumers with a channel of their own. -/
inductive Consumer where
  | pc
  | mount
  | camera
  | heater1
  | heater2
deriving DecidableEq

namespace Consumer

/-- The member of the consumer. -/
def key : Consumer → String
  | pc => "pc"
  | mount => "mount"
  | camera => "camera"
  | heater1 => "heater1"
  | heater2 => "heater2"

def channel : Consumer → PsensChannel
  | pc => .ch4Pc
  | mount => .ch5Mount
  | camera => .ch6ImagingCam
  | heater1 => .ch2DewHeater1
  | heater2 => .ch3DewHeater2

/-- The current from which on the consumer is active. -/
def activeCurrent : Consumer → Rounded R
  | pc => 0.4
  | mount => 0.4
  | _ => 0.2

/-- The pins without the setting of the consumer. -/
def without (pins : Pins) : Consumer → Pins
  | pc => { pins with consumers := false }
  | mount => { pins with mount := false }
  | camera => { pins with camera := false }
  | heater1 => { pins with heaterPwmValues := (0, pins.heaterPwmValues.2) }
  | heater2 => { pins with heaterPwmValues := (pins.heaterPwmValues.1, 0) }

end Consumer

namespace Device

/-- The consumer is switched on. -/
def isPowered (d : Device R) : Consumer → Bool
  | .pc => d.pins.getConsumers
  | .mount => d.pins.getMount
  | .camera => d.pins.getCamera
  | .heater1 => d.getHeater 0 > 0
  | .heater2 => d.getHeater 1 > 0

/-- A consumer by its own channel and switch. -/
def describe (d : Device R) (k : Consumer) : ConsumerInfo R :=
  d.consumerInfo k.channel (d.isPowered k) k.activeCurrent

end Device

/-- The object of a consumer in a document. -/
def consumerObject (doc : Json) (name : String) : Json := (doc.get "consumers").get name

/-- Every consumer is described by its own channel and switch. -/
def DescribesOwn (d : Device R) : Prop :=
  ∀ k : Consumer, consumerObject d.send.document k.key = (d.describe k).convertToJson .null

/-- The devices differ in the readings and the setting of the consumer at most. -/
structure SameExcept (k : Consumer) (d d' : Device R) : Prop where
  readings : ∀ channel, channel ≠ k.channel → d'.readings channel = d.readings channel
  pins : k.without d'.pins = k.without d.pins
  rest : d' = { d with readings := d'.readings, pins := d'.pins }

/-- The documents differ inside the object of the consumer at most. -/
def SameOutside (k : Consumer) (doc doc' : Json) : Prop :=
  (∀ key, key ≠ "consumers" → doc'.get key = doc.get key) ∧
    ∀ name, name ≠ k.key → consumerObject doc' name = consumerObject doc name

/-! ## What it says -/

variable {d d' : Device R} {j k : Consumer}

namespace Device

/-- The record under the key of a consumer. -/
def shown (d : Device R) : Consumer → ConsumerInfo R
  | .heater1 => d.describe .heater2
  | .heater2 => {}
  | k => d.describe k

/-- Neither heater reads anything, nor is it switched on. -/
def HeatersBlank (d : Device R) : Prop := d.describe .heater1 = {} ∧ d.describe .heater2 = {}

end Device

/-- What the document says of a consumer. -/
lemma consumerObject_send :
    consumerObject d.send.document k.key = (d.shown k).convertToJson .null := by
  rw [consumerObject, TxContent.get_consumers]
  cases k <;> simp [Consumer.key] <;> rfl

/-- Only the records of the heaters can be wrong: the second block overwrites the first one. -/
lemma describesOwn_iff : DescribesOwn d ↔ d.HeatersBlank := by
  have hown : DescribesOwn d ↔ ∀ k, d.shown k = d.describe k := by
    refine forall_congr' fun k => ?_
    rw [consumerObject_send, ConsumerInfo.convertToJson_inj]
  rw [hown]
  constructor
  · intro h
    have hblank : d.describe .heater2 = {} := (h .heater2).symm
    exact ⟨(h .heater1).symm.trans hblank, hblank⟩
  · rintro ⟨hfirst, hsecond⟩ k
    cases k with
    | heater1 => exact hsecond.trans hfirst.symm
    | heater2 => exact hsecond.symm
    | pc | mount | camera => rfl

/-- Whether another consumer is powered does not depend on the pins of this one. -/
lemma isPowered_of_without (hne : j ≠ k) (h : k.without d'.pins = k.without d.pins) :
    d'.isPowered j = d.isPowered j := by
  cases k <;> rw [Consumer.without, Consumer.without, Pins.mk.injEq] at h <;>
    obtain ⟨hconsumers, hmount, hcamera, hheaters⟩ := h <;>
    cases j <;> simp_all [Device.isPowered, Device.getHeater, Pins.getConsumers, Pins.getMount,
      Pins.getCamera]

namespace SameExcept

/-- What describes another consumer has not changed. -/
lemma describe_eq (same : SameExcept k d d') (hne : j ≠ k) : d'.describe j = d.describe j := by
  have hchannel : j.channel ≠ k.channel := by
    revert hne
    cases j <;> cases k <;> simp [Consumer.channel]
  rw [Device.describe, Device.describe, isPowered_of_without hne same.pins, Device.consumerInfo,
    same.readings _ hchannel]
  rfl

/-- The records that are shown are the same, unless the readings are those of the second heater. -/
lemma shown_eq (same : SameExcept k d d') (hne : j ≠ k)
    (hheater : k ≠ .heater2 ∨ d'.describe .heater2 = d.describe .heater2) :
    d'.shown j = d.shown j := by
  cases j with
  | heater1 =>
    rcases hheater with hne | heq
    · exact same.describe_eq hne.symm
    · exact heq
  | heater2 => rfl
  | pc | mount | camera => exact same.describe_eq hne

/-- The charger is described by nothing of a consumer. -/
lemma chargerInfo_eq (same : SameExcept k d d') : d'.chargerInfo = d.chargerInfo := by
  have hbattery : d'.readings .ch1Battery = d.readings .ch1Battery :=
    same.readings _ (by cases k <;> simp [Consumer.channel])
  have hcharge : d'.charge = d.charge := by rw [same.rest]
  rw [Device.chargerInfo, Device.chargerInfo, hbattery, hcharge]

/-- The messages agree in everything but the consumers. -/
lemma send_eq (same : SameExcept k d d') : { d'.send with
    chargerInfo := d.send.chargerInfo, pcInfo := d.send.pcInfo, mountInfo := d.send.mountInfo,
    cameraInfo := d.send.cameraInfo, heater1Info := d.send.heater1Info,
    heater2Info := d.send.heater2Info } = d.send := by
  have hbattery : d'.readings .ch1Battery = d.readings .ch1Battery :=
    same.readings _ (by cases k <;> simp [Consumer.channel])
  have hinfo : d'.batteryInfo = d.batteryInfo := by
    have hloop : d'.battery = d.battery := by rw [same.rest]
    rw [Device.batteryInfo, Device.batteryInfo, hbattery, hloop]
  have hbtn : d'.btnInfo = d.btnInfo := by rw [same.rest]
  have hstate : d'.consumersState = d.consumersState := by rw [same.rest]
  have htime : d'.time = d.time := by rw [same.rest]
  have hrssi : d'.rssi = d.rssi := by rw [same.rest]
  simp only [Device.send, hinfo, hbtn, hstate, htime, hrssi]

end SameExcept

/-- The object of a consumer depends on the consumers of its key only. -/
lemma consumerObject_congr {name : String} (hcharger : d'.chargerInfo = d.chargerInfo)
    (h : ∀ j : Consumer, j.key = name → d'.shown j = d.shown j) :
    consumerObject d'.send.document name = consumerObject d.send.document name := by
  by_cases hname : ∃ j : Consumer, j.key = name
  · obtain ⟨j, rfl⟩ := hname
    rw [consumerObject_send, consumerObject_send, h j rfl]
  · -- only the charger is left
    have hne : ∀ j : Consumer, j.key ≠ name := fun j hj => hname ⟨j, hj⟩
    have hpc : "pc" ≠ name := hne .pc
    have hmount : "mount" ≠ name := hne .mount
    have hcamera : "camera" ≠ name := hne .camera
    have hheater1 : "heater1" ≠ name := hne .heater1
    have hheater2 : "heater2" ≠ name := hne .heater2
    have hsend : d'.send.chargerInfo = d.send.chargerInfo := hcharger
    simp [consumerObject, TxContent.get_consumers, hpc, hmount, hcamera, hheater1, hheater2, hsend]

/-- Only heater 2 changes the record of another consumer. -/
lemma sameOutside_iff (same : SameExcept k d d') :
    SameOutside k d.send.document d'.send.document ↔
      k ≠ .heater2 ∨ d'.describe .heater2 = d.describe .heater2 := by
  constructor
  · rintro ⟨-, hconsumers⟩
    by_contra hchange
    obtain ⟨rfl, hne⟩ := not_or.mp hchange |>.imp_left not_not.mp
    -- the change shows in the object of the first heater
    have hfirst := hconsumers Consumer.heater1.key (by simp [Consumer.key])
    rw [consumerObject_send, consumerObject_send, ConsumerInfo.convertToJson_inj] at hfirst
    exact hne hfirst
  · intro hheater
    refine ⟨fun key hkey => TxContent.get_congr hkey same.send_eq, fun name hname => ?_⟩
    refine consumerObject_congr same.chargerInfo_eq fun j hj => same.shown_eq ?_ hheater
    rintro rfl
    exact hname hj.symm

/-- Every consumer is described by its own channel exactly if the heaters have nothing to say; and a
change of one consumer stays inside its object exactly if it is not the second heater, or nothing that
is shown of it changes. -/
theorem document_iff :
    (∀ d : Device R, DescribesOwn d ↔ d.HeatersBlank) ∧
    ∀ k (d d' : Device R), SameExcept k d d' →
      (SameOutside k d.send.document d'.send.document ↔
        k ≠ .heater2 ∨ d'.describe .heater2 = d.describe .heater2) :=
  ⟨fun _ => describesOwn_iff, fun _ _ _ => sameOutside_iff⟩

end

/-! ## The first heater is on -/

/-- A device whose channels all read zero, but for one. -/
def deviceWith (channel : PsensChannel) (readings : ChannelReadings .binary32)
    (heaterPwmValues : ℤ × ℤ) : Device .binary32 where
  readings c := if c = channel then readings else ⟨0, 0, 0, 0⟩
  pins := { heaterPwmValues }

/-- The first heater takes 1 A at 12 V. -/
def heater1On : Device .binary32 := deviceWith .ch2DewHeater1 ⟨12, 1, 12, 1000⟩ (511, 0)

/-- Heater 1 is shown with what describes heater 2. -/
theorem document_heater1On : ¬ DescribesOwn heater1On := by
  intro h
  have hblank := (describesOwn_iff.mp h).1
  exact absurd (congrArg ConsumerInfo.isPowered hblank) (by decide +kernel)

/-- Switching the second heater on stays outside the other objects only as long as it is not shown. -/
theorem document_iff_heater2On :
    SameOutside .heater2 (deviceWith .ch3DewHeater2 ⟨0, 0, 0, 0⟩ (0, 0)).send.document
        (deviceWith .ch3DewHeater2 ⟨12, 1, 12, 1000⟩ (0, 511)).send.document ↔
      Consumer.heater2 ≠ .heater2 ∨
        (deviceWith .ch3DewHeater2 ⟨12, 1, 12, 1000⟩ (0, 511)).describe .heater2
          = (deviceWith .ch3DewHeater2 ⟨0, 0, 0, 0⟩ (0, 0)).describe .heater2 :=
  document_iff.2 .heater2 _ _ {
    readings := fun channel hne => by
      have hne : channel ≠ .ch3DewHeater2 := hne
      simp [deviceWith, hne]
    pins := rfl
    rest := rfl }

end AstroPowerBox.Communication
