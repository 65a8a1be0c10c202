import AstroPowerBox.Foundation.Clock
import AstroPowerBox.Sensors.Psens

/-!
# Status display

Model of `statusDisplay` (`src/oled/oled.cpp`, `oled.hpp`) and of the screens it owns
(`screen_content.hpp`, `screen_content.cpp`). The display keeps one screen object, which is compared
with a requested screen through `getType`. Drawing goes to a buffer, which `display` of the driver
brings onto the panel. Of both only the content is kept; the symbols of the status bar have their own
places.
-/

namespace AstroPowerBox.Display
open Foundation Sensors

inductive EScreen where
  | home
  | startup
  | powerBatCam
  | powerPcMount
  | powerHeaters
  | idle
  | off
deriving DecidableEq

/-- The objects derived from `screenBaseClass`. -/
inductive Screen where
  | homeScreen
  | startupScreen
  | powerScreen (top bottom : PsensChannel)
  | idleScreen
  | offScreen
deriving DecidableEq

/-- The content of the buffer or of the panel; a message may lie over a screen. -/
inductive Content where
  | blank
  | screen (a : Screen)
  | message
  | mixed
deriving DecidableEq

/-- A screen that does not clear the display first is drawn over what is there. Over itself it is only
brought up to date. -/
def Content.draw (a : Screen) : Content → Content
  | .blank => .screen a
  | .screen b => if a = b then .screen a else .mixed
  | .message => .mixed
  | .mixed => .mixed

def uint32Max : UInt32 := 4294967295

namespace Screen

def getType : Screen → EScreen
  | homeScreen => .home
  | startupScreen => .startup
  | powerScreen _ _ => .home
  | idleScreen => .home
  | offScreen => .off

/-- Source `show`: the buffer, and the time of the next update from the time at the end of drawing. -/
def «show» (a : Screen) (buffer : Content) (time : ℕ) : Content × UInt32 :=
  match a with
  | homeScreen => (buffer.draw a, millis time + 1000)
  | startupScreen => (.screen a, uint32Max)
  | powerScreen _ _ => (buffer.draw a, millis time + 200)
  | idleScreen => (.blank, uint32Max)
  | offScreen => (.blank, uint32Max)

/-- What the screen draws on a display that has been cleared. -/
def content (a : Screen) : Content := (a.show .blank 0).1

end Screen

/-- The object that `setScreen` makes for a screen. -/
def EScreen.create : EScreen → Screen
  | home => .homeScreen
  | startup => .startupScreen
  | powerBatCam => .powerScreen .ch1Battery .ch6ImagingCam
  | powerPcMount => .powerScreen .ch4Pc .ch5Mount
  | powerHeaters => .powerScreen .ch2DewHeater1 .ch3DewHeater2
  | idle => .idleScreen
  | off => .offScreen

structure StatusDisplay where
  nextBarUpdate : UInt32 := 0
  nextContentUpdate : UInt32 := 0
  noContentUntil : UInt32 := 0
  wasSuppressed : Bool := false
  screen : Option Screen := none
  buffer : Content
  panel : Content

def barUpdateDelay : UInt32 := 50

namespace StatusDisplay

/-- A display before its first screen; the driver has left something in the buffer. -/
def boot (splash : Content) : StatusDisplay := { buffer := splash, panel := splash }

def getScreen (d : StatusDisplay) : EScreen := d.screen.elim .off Screen.getType

def setScreen (d : StatusDisplay) (screen : EScreen) : StatusDisplay :=
  if screen ≠ d.getScreen then
    { d with
      screen := some screen.create
      buffer := .blank
      nextBarUpdate := 0
      nextContentUpdate := 0 }
  else d

/-- Source `suppressContentTemporary`, by a caller that may have drawn a message in the buffer. -/
def suppressContentTemporary (d : StatusDisplay) (drawn : Bool) (durationMs : UInt32) (time : ℕ) :
    StatusDisplay :=
  { d with
    buffer := if drawn then .message else d.buffer
    nextBarUpdate := 0
    wasSuppressed := true
    noContentUntil := millis time + durationMs }

/-- The screen that `loop` shows at a time, if any. -/
def contentDue (d : StatusDisplay) (sysTime : UInt32) : Option Screen :=
  if sysTime ≥ d.nextContentUpdate ∧ sysTime > d.noContentUntil then d.screen else none

/-- The first part of `loop`: a screen is shown, after a message on a cleared display. -/
def showContent (d : StatusDisplay) (a : Screen) (time : ℕ) : StatusDisplay :=
  let d := if d.wasSuppressed then
    { d with wasSuppressed := false, buffer := .blank, nextBarUpdate := 0 } else d
  { d with buffer := (a.show d.buffer time).1, nextContentUpdate := (a.show d.buffer time).2 }

/-- The second part of `loop`: the status bar, and the panel if anything was drawn. -/
def showBar (d : StatusDisplay) (shown : Bool) (sysTime : UInt32) : StatusDisplay :=
  if sysTime ≥ d.nextBarUpdate then
    { d with nextBarUpdate := sysTime + barUpdateDelay, panel := d.buffer }
  else if shown then { d with panel := d.buffer } else d

/-- Source `loop`, between the reading of the clock and the end of drawing. -/
def loop (d : StatusDisplay) (start stop : ℕ) : StatusDisplay :=
  match d.contentDue (millis start) with
  | some a => (d.showContent a stop).showBar true (millis start)
  | none => d.showBar false (millis start)

end StatusDisplay

inductive DisplayRequest where
  | setScreen (screen : EScreen)
  | suppressContentTemporary (drawn : Bool) (durationMs : UInt32)
  | loop
deriving DecidableEq

/-- A call of the display, between two times. -/
structure DisplayCall where
  start : ℕ
  stop : ℕ
  request : DisplayRequest

instance : Timed DisplayCall where
  start := DisplayCall.start
  stop := DisplayCall.stop

def StatusDisplay.step (d : StatusDisplay) (c : DisplayCall) : StatusDisplay :=
  match c.request with
  | .setScreen screen => d.setScreen screen
  | .suppressContentTemporary drawn durationMs =>
    d.suppressContentTemporary drawn durationMs c.start
  | .loop => d.loop c.start c.stop

/-! ## Drawing -/

variable {a : Screen} {time : ℕ} {d : StatusDisplay}

@[simp] lemma Screen.show_blank : (a.show .blank time).1 = a.content := by
  cases a <;> rfl

@[simp] lemma Screen.show_content : (a.show a.content time).1 = a.content := by
  cases a <;> simp [Screen.show, Screen.content, Content.draw]

@[simp] lemma Screen.content_ne_message : a.content ≠ .message := by
  cases a <;> simp [Screen.show, Screen.content, Content.draw]

/-- No other screen looks like the home screen. -/
lemma Screen.content_eq_home (h : a.content = Screen.homeScreen.content) : a = .homeScreen := by
  cases a with
  | homeScreen => rfl
  | startupScreen => cases h
  | powerScreen top bottom => cases h
  | idleScreen => cases h
  | offScreen => cases h

/-- No other screen is the home screen. -/
lemma EScreen.create_eq_home {s : EScreen} (h : s.create = .homeScreen) : s = .home := by
  cases s <;> first | rfl | cases h

/-- A screen is what its type makes, unless it is taken for the home screen. -/
lemma Screen.create_getType : a.getType = .home ∨ a = a.getType.create := by
  cases a with
  | homeScreen => exact .inl rfl
  | startupScreen => exact .inr rfl
  | powerScreen top bottom => exact .inl rfl
  | idleScreen => exact .inl rfl
  | offScreen => exact .inr rfl

/-! ## What a call of `loop` does -/

namespace StatusDisplay

/-- The content is due by the clock, and its screen is the active one. -/
lemma contentDue_eq_some {sysTime : UInt32} :
    d.contentDue sysTime = some a ↔
      (d.nextContentUpdate ≤ sysTime ∧ d.noContentUntil < sysTime) ∧ d.screen = some a := by
  rw [contentDue, Option.ite_none_right_eq_some]

/-- The type of the active screen. -/
lemma getScreen_of_screen (h : d.screen = some a) : d.getScreen = a.getType := by
  rw [getScreen, h, Option.elim_some]

/-- Drawing changes no screen. -/
@[simp] lemma screen_showContent : (d.showContent a time).screen = d.screen := by
  simp only [showContent]
  split_ifs
  · rfl
  · rfl

/-- Nor does the status bar. -/
@[simp] lemma screen_showBar {shown : Bool} {sysTime : UInt32} :
    (d.showBar shown sysTime).screen = d.screen := by
  rw [showBar]
  split_ifs
  · rfl
  · rfl
  · rfl

/-- The status bar leaves the content alone. -/
@[simp] lemma buffer_showBar {shown : Bool} {sysTime : UInt32} :
    (d.showBar shown sysTime).buffer = d.buffer := by
  rw [showBar]
  split_ifs
  · rfl
  · rfl
  · rfl

/-- Something that was drawn is brought onto the panel. -/
lemma panel_showBar {shown : Bool} {sysTime : UInt32}
    (h : shown = true ∨ d.panel = d.buffer ∨ d.nextBarUpdate = 0) :
    (d.showBar shown sysTime).panel = d.buffer := by
  rw [showBar]
  split_ifs with hbar hshown
  · rfl
  · rfl
  · rcases h with h | h | h
    · exact absurd h hshown
    · exact h
    · rw [h] at hbar
      exact absurd UInt32.zero_le hbar

@[simp] lemma screen_loop {start stop : ℕ} : (d.loop start stop).screen = d.screen := by
  rw [loop]
  split
  · rw [screen_showBar, screen_showContent]
  · rw [screen_showBar]

/-! ## What a call does not touch -/

/-- A request for a screen changes no suppression. -/
lemma noContentUntil_setScreen {s : EScreen} : (d.setScreen s).noContentUntil = d.noContentUntil := by
  rw [setScreen]
  split_ifs
  · rfl
  · rfl

/-- Nor does the status bar. -/
lemma noContentUntil_showBar {shown : Bool} {sysTime : UInt32} :
    (d.showBar shown sysTime).noContentUntil = d.noContentUntil := by
  rw [showBar]
  split_ifs
  · rfl
  · rfl
  · rfl

/-- Nor does the content. -/
lemma noContentUntil_showContent : (d.showContent a time).noContentUntil = d.noContentUntil := by
  simp only [showContent]
  split_ifs
  · rfl
  · rfl

/-- So the loop changes none. -/
lemma noContentUntil_loop {start stop : ℕ} :
    (d.loop start stop).noContentUntil = d.noContentUntil := by
  rw [loop]
  split
  · exact noContentUntil_showBar.trans noContentUntil_showContent
  · exact noContentUntil_showBar

end StatusDisplay
end AstroPowerBox.Display
