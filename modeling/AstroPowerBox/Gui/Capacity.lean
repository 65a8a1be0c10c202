import AstroPowerBox.Communication.Capacity
import AstroPowerBox.Gui.EspComm

/-!
# Messages that are not whole

The PC looks at four members of a message, which are among the first eleven. With room for these it
does not matter to it what else is missing.
-/

namespace AstroPowerBox.Gui
open Foundation Communication

section
variable {R : Rounding} {L : BoundedDocuments} {s : EspComm R} {isAstroMiniPc : Bool}
  {tx : TxContent R}

/-- The members are those of the object. -/
lemma get_toObject {doc : Json} {key : String} : (toObject doc).get key = doc.get key := by
  cases doc <;> rfl

/-- The members that the PC looks at. -/
def lookedAt : List Path :=
  [["time"], ["shutdown PC"], ["battery info", "voltage"], ["battery info", "current"]]

/-- Documents that agree on them have the same effect. -/
lemma EspComm.parseRxData_congr {doc doc' : Json}
    (h : ∀ path ∈ lookedAt, doc.getPath path = doc'.getPath path) :
    s.parseRxData isAstroMiniPc ⟨true, some doc⟩
      = s.parseRxData isAstroMiniPc ⟨true, some doc'⟩ := by
  have htime : doc.get "time" = doc'.get "time" := h ["time"] (by simp [lookedAt])
  have hshutdown : doc.get "shutdown PC" = doc'.get "shutdown PC" :=
    h ["shutdown PC"] (by simp [lookedAt])
  have hvoltage :
      (doc.get "battery info").get "voltage" = (doc'.get "battery info").get "voltage" :=
    h ["battery info", "voltage"] (by simp [lookedAt])
  have hcurrent :
      (doc.get "battery info").get "current" = (doc'.get "battery info").get "current" :=
    h ["battery info", "current"] (by simp [lookedAt])
  simp only [parseRxData, logDocument, shutdownRequested, get_toObject, htime, hshutdown, hvoltage,
    hcurrent]

/-- Without a current no entry is made. -/
lemma EspComm.logDocument_of_null {doc : Json}
    (h : (doc.get "battery info").get "current" = .null) : s.logDocument doc = s := by
  simp [logDocument, get_toObject, h, isDouble]

/-- A datagram with a document logs what the document holds. -/
lemma EspComm.log_parseRxData {doc : Json} :
    (s.parseRxData isAstroMiniPc ⟨true, some doc⟩).log = (s.logDocument doc).log := by
  simp only [parseRxData, if_true]
  split_ifs <;> rfl

/-- Without room for eleven members the current is missing, and no entry is made. -/
lemma log_of_lt (hsmall : L.room < 11) :
    (s.parseRxData isAstroMiniPc ⟨true, some (tx.documentIn L)⟩).log = s.log := by
  have hcurrent : (tx.documentIn L).getPath ["battery info", "current"] = .null :=
    getPath_documentIn_of_le (Nat.le_of_lt_succ hsmall) (List.cons_ne_nil _ _) (by decide +kernel)
  rw [Json.getPath, Json.getPath, Json.getPath] at hcurrent
  rw [EspComm.log_parseRxData, EspComm.logDocument_of_null hcurrent]

/-- A plausible message has the effect of the whole one, exactly if there was room for eleven
members; with less room no entry is made. -/
theorem same_effect_iff (L : BoundedDocuments) (s : EspComm R) (isAstroMiniPc : Bool)
    (tx : TxContent R) (charged : 1 ≤ tx.batteryInfo.voltage) :
    (s.parseRxData isAstroMiniPc ⟨true, some (tx.documentIn L)⟩
        = s.parseRxData isAstroMiniPc ⟨true, some tx.document⟩ ↔ 11 ≤ L.room) ∧
      (L.room < 11 →
        (s.parseRxData isAstroMiniPc ⟨true, some (tx.documentIn L)⟩).log = s.log) := by
  refine ⟨⟨fun h => ?_, fun hroom => ?_⟩, log_of_lt⟩
  · by_contra hsmall
    have hlog : s.log = (s.parseRxData isAstroMiniPc ⟨true, some tx.document⟩).log := by
      rw [← h, log_of_lt (Nat.lt_of_not_le hsmall)]
    rw [EspComm.log_parseRxData, logDocument_document charged, EspComm.append] at hlog
    exact List.cons_ne_nil _ _ (List.self_eq_append_right.mp hlog)
  · have apart : ∀ path ∈ lookedAt, ∀ q ∈ layout.drop 11, ¬ q <+: path ∧ ¬ path <+: q := by
      decide +kernel
    exact EspComm.parseRxData_congr fun path hpath => getPath_documentIn hroom (apart path hpath)

end

/-- A message with 13 V. -/
def chargedMessage : TxContent .binary32 where
  batteryInfo := { voltage := 13 }

/-- A library with room for 64 members. -/
theorem same_effect_iff_charged :
    (({} : EspComm .binary32).parseRxData true
          ⟨true, some (chargedMessage.documentIn (.ofList 64))⟩
        = ({} : EspComm .binary32).parseRxData true ⟨true, some chargedMessage.document⟩ ↔ 11 ≤ 64) ∧
      (64 < 11 → (({} : EspComm .binary32).parseRxData true
        ⟨true, some (chargedMessage.documentIn (.ofList 64))⟩).log = ({} : EspComm .binary32).log) :=
  same_effect_iff (.ofList 64) {} true chargedMessage (by decide +kernel)

end AstroPowerBox.Gui
