import AstroPowerBox.Foundation.Clock
import AstroPowerBox.Foundation.Rounding

/-!
# Non-volatile memory

Source `src/non volatile/non_volatile.cpp`: the battery statistics in RAM, the ones saved last, and the
file. `save` opens the file for writing, which empties it, seeks to its start and writes the JSON text;
a `FileOutcome` says how far it gets. The text itself is made by a JSON library (`Serializer`).

Left out: the date of the last calibration, which is neither written nor read, and the messages on the
display.
-/

namespace AstroPowerBox.Storage
open Foundation

section
variable {R : Rounding}

structure BatStats (R : Rounding) where
  totalCoulombCharged : Rounded R := 0
  totalCoulombDischarged : Rounded R := 0
  remainingCharge : Rounded R := 0
deriving DecidableEq

/-- The JSON text of the statistics (`convertToJson` and the library's `serializeJson`): an object, so
not empty. -/
structure Serializer (R : Rounding) where
  json : BatStats R → List UInt8
  json_ne_nil : ∀ stats, json stats ≠ []

/-- What the file operations of a `save` do: open, seek, and the number of bytes that are taken of
those offered for writing. -/
structure FileOutcome where
  opened : Bool
  sought : Bool
  bytesTaken : ℕ
deriving DecidableEq

/-- Source `non_volatile`, with the content of its file, if there is one. -/
structure NonVolatile (R : Rounding) where
  dirty : Bool := false
  lastMod : UInt32 := 0
  stats : BatStats R := {}
  savedStats : BatStats R := {}
  file : Option (List UInt8) := none
deriving DecidableEq

namespace NonVolatile

/-- Source `non_volatile::non_volatile`, with the statistics that the file holds, if it can be
parsed. -/
def new (file : Option (List UInt8)) (parsed : Option (BatStats R)) : NonVolatile R :=
  { stats := parsed.getD {}, savedStats := parsed.getD {}, file }

def save (s : NonVolatile R) (ser : Serializer R) (stats : BatStats R) (o : FileOutcome) :
    Bool × NonVolatile R :=
  if s.dirty then
    let s := { s with dirty := false, lastMod := 0 }
    let s := { s with file := if o.opened then some [] else s.file }
    if o.opened && o.sought then
      let written := (ser.json stats).take o.bytesTaken
      let s := { s with file := some written }
      if written.length > 0 then (true, { s with savedStats := stats }) else (false, s)
    else (false, s)
  else (false, s)

def modify (s : NonVolatile R) (time : ℕ) : NonVolatile R :=
  { s with dirty := true, lastMod := millis time }

def setRemainingCharge (s : NonVolatile R) (remainingCharge : Rounded R) (time : ℕ) :
    NonVolatile R :=
  if remainingCharge ≠ s.stats.remainingCharge then
    let s := s.modify time
    { s with stats := { s.stats with remainingCharge } }
  else s

def getTimeSinceLastModification (s : NonVolatile R) (time : ℕ) : UInt32 :=
  if s.lastMod ≠ 0 then millis time - s.lastMod else 0

/-- The condition in `loop`: a minute has passed, or 100 mAh have flown. -/
def saveRequired (s : NonVolatile R) (time : ℕ) : Bool :=
  s.getTimeSinceLastModification time > 60000 ||
    (s.savedStats.remainingCharge - s.stats.remainingCharge).abs > 0.1 * 3600

def loop (s : NonVolatile R) (ser : Serializer R) (time : ℕ) (o : FileOutcome) : NonVolatile R :=
  if s.saveRequired time then (s.save ser s.stats o).2 else s

/-- A call from outside. -/
inductive Call (R : Rounding) where
  | setRemainingCharge (remainingCharge : Rounded R) (time : ℕ)
  | loop (time : ℕ) (o : FileOutcome)
deriving DecidableEq

def step (ser : Serializer R) (s : NonVolatile R) : Call R → NonVolatile R
  | .setRemainingCharge remainingCharge time => s.setRemainingCharge remainingCharge time
  | .loop time o => s.loop ser time o

end NonVolatile
end
end AstroPowerBox.Storage
