import AstroPowerBox.Communication.Types
import AstroPowerBox.Foundation.Binary

/-!
# The other end

Source `ESP_comm::_parseRxData` of the program on the PC: a status document becomes an entry of the
log, and may shut the PC down. What the box sends as an unsigned number the PC reads as a signed one,
and a number that is too large for it reads as zero: `received_iff`.

Left out: the text of the log file with its date, and the debug output.
-/

namespace AstroPowerBox.Gui
open Foundation Communication

/-! ## Accessors of Qt

As Qt documents them, they have defaults for what is not of their type. -/

/-- `QJsonValue::isDouble`. -/
def isDouble : Json → Bool
  | .num _ => true
  | _ => false

/-- `QJsonValue::toDouble`. -/
def toDouble : Json → ℚ
  | .num x => x
  | _ => 0

/-- `QJsonValue::toInt`: zero, unless the number is a signed integer of 32 bits. -/
def toInt : Json → ℤ
  | .num x => if x.den = 1 ∧ -2 ^ 31 ≤ x.num ∧ x.num < 2 ^ 31 then x.num else 0
  | _ => 0

/-- `QJsonValue::toBool`. -/
def toBool : Json → Bool
  | .bool b => b
  | _ => false

/-- `QJsonValue::toObject`. -/
def toObject : Json → Json
  | .obj members => .obj members
  | _ => .obj []

section
variable {R : Rounding}

/-- What `logger::append` is given. -/
structure LogEntry (R : Rounding) where
  controllerTime : UInt32
  voltage : Rounded R
  current : Rounded R
deriving DecidableEq

/-- Source `ESP_comm`: the log, and the number of shutdowns that it has started. -/
structure EspComm (R : Rounding) where
  log : List (LogEntry R) := []
  shutdowns : ℕ := 0
deriving DecidableEq

/-- A datagram: whether it comes from the expected address, and its document, if it can be parsed. -/
structure Datagram where
  fromEsp : Bool
  doc : Option Json

/-- Source `jObj["shutdown PC"].toBool()`. -/
def shutdownRequested (jObj : Json) : Bool := toBool (jObj.get "shutdown PC")

namespace EspComm

def append (s : EspComm R) (controllerTime : UInt32) (voltage current : Rounded R) : EspComm R :=
  { s with log := s.log ++ [⟨controllerTime, voltage, current⟩] }

/-- The entry that a document gives, if it is plausible. -/
def logDocument (s : EspComm R) (jObj : Json) : EspComm R :=
  let val := jObj.get "time"
  let controllerTime : UInt32 := if isDouble val then .ofInt (toInt val) else 0
  let logBat := isDouble val
  let val := (toObject (jObj.get "battery info")).get "voltage"
  let batVoltage : Rounded R := if isDouble val then .ofRat (toDouble val) else 0
  let logBat := if isDouble val then logBat && batVoltage ≥ 1 else false
  let val := (toObject (jObj.get "battery info")).get "current"
  let batCurrent : Rounded R := if isDouble val then .ofRat (toDouble val) else 0
  let logBat := if isDouble val then logBat else false
  if logBat then s.append controllerTime batVoltage batCurrent else s

def parseRxData (s : EspComm R) (isAstroMiniPc : Bool) (rx : Datagram) : EspComm R :=
  if rx.fromEsp then
    match rx.doc with
    | none => s
    | some jObj =>
      let s := s.logDocument jObj
      if shutdownRequested jObj && isAstroMiniPc then { s with shutdowns := s.shutdowns + 1 } else s
  else s

end EspComm

/-! ## What arrives -/

variable {tx : TxContent R} {s : EspComm R}

/-- The entry as it was sent. -/
def sentEntry (tx : TxContent R) : LogEntry R :=
  ⟨tx.timestamp, tx.batteryInfo.voltage, tx.batteryInfo.current⟩

/-- Exactly one entry is appended, as it was sent, and the PC sees the flag that was sent. -/
def Received (s : EspComm R) (isAstroMiniPc : Bool) (tx : TxContent R) : Prop :=
  (s.parseRxData isAstroMiniPc ⟨true, some tx.document⟩).log = s.log ++ [sentEntry tx] ∧
    shutdownRequested tx.document = tx.shutdownPC

instance {isAstroMiniPc : Bool} : Decidable (Received s isAstroMiniPc tx) :=
  inferInstanceAs (Decidable (_ ∧ _))

/-- A document with a member is an object. -/
lemma toObject_set {doc value : Json} {key : String} (h : doc.takesMembers = true) :
    toObject (doc.set key value) = doc.set key value := by
  cases doc with
  | null => rfl
  | obj members => rfl
  | bool b => cases h
  | num x => cases h
  | str s => cases h

lemma get_time : tx.document.get "time" = .num tx.timestamp.toNat := by
  simp [TxContent.document, TxContent.convertToJson]

/-- The record of the battery is an object. -/
lemma toObject_batteryInfo :
    toObject (tx.document.get "battery info") = tx.batteryInfo.convertToJson .null := by
  have hget : tx.document.get "battery info" = tx.batteryInfo.convertToJson .null := by
    simp [TxContent.document, TxContent.convertToJson]
  rw [hget, BatInfo.convertToJson, toObject_set (by simp)]

/-- The PC reads the flag that the box has set. -/
lemma shutdownRequested_document : shutdownRequested tx.document = tx.shutdownPC := by
  simp [shutdownRequested, toBool, TxContent.document, TxContent.convertToJson]

/-- A number from 2 ^ 31 on is read as zero. -/
lemma ofInt_toInt_toNat {n : UInt32} :
    UInt32.ofInt (toInt (.num n.toNat)) = if n.toNat < 2 ^ 31 then n else 0 := by
  have hlt := n.toNat_lt
  have hnum : (n.toNat : ℚ).num = n.toNat := Rat.num_natCast _
  have hden : (n.toNat : ℚ).den = 1 := Rat.den_natCast _
  rw [toInt, hnum, hden]
  split_ifs with hfits hsmall hsmall
  · rw [UInt32.ofInt, Int.emod_eq_of_lt (by omega) (by omega), Int.toNat_natCast,
      UInt32.ofNat_toNat]
  · omega
  · omega
  · rfl

/-- A status of a charged battery is logged with the time that the PC reads. -/
lemma logDocument_document (charged : 1 ≤ tx.batteryInfo.voltage) :
    s.logDocument tx.document = s.append (if tx.timestamp.toNat < 2 ^ 31 then tx.timestamp else 0)
      tx.batteryInfo.voltage tx.batteryInfo.current := by
  have hvoltage : (tx.batteryInfo.convertToJson .null).get "voltage"
      = .num tx.batteryInfo.voltage.val := by simp [BatInfo.convertToJson]
  have hcurrent : (tx.batteryInfo.convertToJson .null).get "current"
      = .num tx.batteryInfo.current.val := by simp [BatInfo.convertToJson]
  have hexact : ∀ a : Rounded R, Rounded.ofRat a.val = a := fun a => Rounded.ext a.fixed
  rw [EspComm.logDocument, toObject_batteryInfo, hvoltage, hcurrent, get_time]
  simp only [isDouble, toDouble, if_true, hexact, ofInt_toInt_toNat]
  simp [charged]

/-- A plausible message is received as it was sent, exactly if its time stamp is a signed number of 32
bits. -/
theorem received_iff (s : EspComm R) (isAstroMiniPc : Bool) (tx : TxContent R)
    (charged : 1 ≤ tx.batteryInfo.voltage) :
    Received s isAstroMiniPc tx ↔ tx.timestamp.toNat < 2 ^ 31 := by
  have hlog : (s.parseRxData isAstroMiniPc ⟨true, some tx.document⟩).log
      = s.log ++ [⟨if tx.timestamp.toNat < 2 ^ 31 then tx.timestamp else 0,
          tx.batteryInfo.voltage, tx.batteryInfo.current⟩] := by
    simp only [EspComm.parseRxData, if_true, logDocument_document charged]
    split <;> rfl
  rw [Received, hlog, sentEntry]
  constructor
  · rintro ⟨hentry, -⟩
    by_contra hlarge
    -- a large time stamp is read as zero, which is not large
    rw [if_neg hlarge, List.append_cancel_left_eq, List.singleton_inj, LogEntry.mk.injEq] at hentry
    rw [← hentry.1] at hlarge
    exact hlarge (by decide)
  · intro hsmall
    exact ⟨by rw [if_pos hsmall], shutdownRequested_document⟩

end

/-! ## After 25 days -/

/-- A message of a box that has been running for 2147483648 ms. -/
def lateMessage : TxContent .binary32 where
  timestamp := 0x80000000
  batteryInfo := { voltage := 13, current := 1 }

theorem received_lateMessage : ¬ Received {} true lateMessage := by
  decide +kernel

theorem received_iff_lateMessage :
    Received {} true lateMessage ↔ lateMessage.timestamp.toNat < 2 ^ 31 :=
  received_iff {} true lateMessage (by decide +kernel)

end AstroPowerBox.Gui
