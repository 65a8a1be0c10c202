import AstroPowerBox.Foundation.Clock

/-!
# Button and key lock

Source `_buttonISR` and `_buttonLoop` in `src/switcher/switcher.cpp`. The interrupt records each
edge of the button; a poll samples the clock first and takes its snapshot of the record after it, so
an edge may be handled between the two.
-/

namespace AstroPowerBox.Switcher
open Foundation

inductive KeyLockState where
  | lockedWait4release
  | lockedIdle
  | unlockingHold
  | unlockingWait4release
  | unlockingReleaseDelay
  | unlockingWait4ack
  | unlockedIdle
deriving DecidableEq

structure ButtonInfo where
  lastButtonPressTime : UInt32 := 0
  lastButtonReleaseTime : UInt32 := 0
  numPressesSinceStart : UInt32 := 0
  pressed : Bool := false
deriving DecidableEq

/-- What the interrupt finds: the level of the button pin, low while it is pressed, and the time. -/
structure Edge where
  state : Bool
  time : ℕ
deriving DecidableEq

def buttonISR (btnInfo : ButtonInfo) (edge : Edge) : ButtonInfo :=
  if edge.state then
    { btnInfo with lastButtonReleaseTime := millis edge.time, pressed := false }
  else
    { btnInfo with
      lastButtonPressTime := millis edge.time
      numPressesSinceStart := btnInfo.numPressesSinceStart + 1
      pressed := true }

/-- The key lock, the record of the interrupt and the request of the user. -/
structure Button where
  btnInfo : ButtonInfo := {}
  keyLockState : KeyLockState := .lockedIdle
  ledPwmValue : ℤ := 0
  unlockDuration : UInt32 := 10000
  prevBtnPressCount : UInt32 := 0
  consumerPowerRequest : Bool := false
deriving DecidableEq

/-- Source `_setLedPwm`: the duty of the pin is `_ledPwmValue`. -/
def Button.setLedPwm (s : Button) (pwmVal : ℤ) : Button := { s with ledPwmValue := pwmVal }

/-- The `switch` of `_buttonLoop`. -/
def Button.keyLock (s : Button) (sysTime : UInt32) : Button :=
  let btnInfo := s.btnInfo
  match s.keyLockState with
  | .lockedWait4release => if !btnInfo.pressed then { s with keyLockState := .lockedIdle } else s
  | .lockedIdle =>
    let s := s.setLedPwm 1
    if btnInfo.pressed then { s with keyLockState := .unlockingHold } else s
  | .unlockingHold =>
    let s := s.setLedPwm 511
    if !btnInfo.pressed then { s with keyLockState := .lockedIdle }
    else if sysTime - btnInfo.lastButtonPressTime ≥ 1000 then
      { s with keyLockState := .unlockingWait4release }
    else s
  | .unlockingWait4release =>
    let s := s.setLedPwm 1
    if !btnInfo.pressed then { s with keyLockState := .unlockingReleaseDelay }
    else if sysTime - btnInfo.lastButtonPressTime ≥ 2000 then
      { s with keyLockState := .lockedWait4release }
    else s
  | .unlockingReleaseDelay =>
    if btnInfo.pressed then { s with keyLockState := .lockedWait4release }
    else if sysTime - btnInfo.lastButtonReleaseTime ≥ 1000 then
      { s with keyLockState := .unlockingWait4ack }
    else s
  | .unlockingWait4ack =>
    let s := s.setLedPwm 1023
    if btnInfo.pressed then { s with keyLockState := .unlockedIdle }
    else if sysTime - btnInfo.lastButtonReleaseTime ≥ 2000 then
      { s with keyLockState := .lockedIdle }
    else s
  | .unlockedIdle =>
    let s := s.setLedPwm (if btnInfo.pressed then 1023 else if s.consumerPowerRequest then 255 else 5)
    if sysTime - btnInfo.lastButtonReleaseTime ≥ s.unlockDuration ∧
        sysTime - btnInfo.lastButtonPressTime ≥ s.unlockDuration then
      { s with keyLockState := .lockedWait4release }
    else s

def Button.buttonLoop (s : Button) (sysTime : UInt32) : Button :=
  let s := s.keyLock sysTime
  let toggle := s.btnInfo.numPressesSinceStart ≠ s.prevBtnPressCount ∧
    s.keyLockState = .unlockedIdle ∧ sysTime - s.btnInfo.lastButtonReleaseTime > 250
  { s with
    consumerPowerRequest := if toggle then !s.consumerPowerRequest else s.consumerPowerRequest
    prevBtnPressCount := s.btnInfo.numPressesSinceStart }

/-- What a poll meets: the edges since the last snapshot that are handled before the clock is
sampled, the time of the sample, and the edges handled between the sample and the snapshot. -/
structure Poll where
  edges : List Edge := []
  time : ℕ
  lateEdges : List Edge := []
deriving DecidableEq

/-- The interrupts up to the snapshot, and `_buttonLoop`. -/
def Button.poll (s : Button) (p : Poll) : Button :=
  { s with btnInfo := (p.edges ++ p.lateEdges).foldl buttonISR s.btnInfo }.buttonLoop (millis p.time)

end AstroPowerBox.Switcher
