import AstroPowerBox.RingBuffer.Rb
import AstroPowerBox.Switcher.Loop

/-!
# Telegram bot

Source `src/telegram_bot/telegram_bot.cpp`: what a message makes of the pending commands and of the
relays, and the fetching of the commands by `switcher::loop`. The library that receives the messages
invokes the callback of a button itself, before it hands over the message.

The answers are left out, up to the commands that they confirm (`confirms`); so are the handling of
plain texts and the echo, which change nothing else, and the display.
-/

namespace AstroPowerBox.Telegram
open Foundation Switcher RingBuffer

/-- The message types of the library. -/
inductive MessageType where
  | query
  | text
  | reply
  | other
deriving DecidableEq

/-- The callbacks of the inline keyboards (source `begin`). -/
inductive Callback where
  | pingRequested
  | subrelayConsumers
  | subrelayNotImplemented
  | abortKeyboard
deriving DecidableEq

/-- A message, and the callback that `getNewMessage` invokes for it. -/
structure TBMessage where
  messageType : MessageType
  text : String := ""
  callbackQueryData : String := ""
  callback : Option Callback := none
deriving DecidableEq

def startsWith (s start : String) : Bool := start.toList.isPrefixOf s.toList

def endsWith (s tail : String) : Bool := tail.toList.isSuffixOf s.toList

/-! ## The pending commands -/

/-- The value of a command. -/
def code : Command → UInt8
  | .noCommand => 0
  | .powerConsumersOn => 1
  | .powerConsumersOff => 2
  | .htr1Off => 3
  | .htr1_5W => 4
  | .htr1_10W => 5
  | .htr1_15W => 6
  | .htr1Auto => 7
  | .htr2Off => 8
  | .htr2_5W => 9
  | .htr2_10W => 10
  | .htr2_15W => 11
  | .htr2Auto => 12

/-- The bytes of a command, an `int`. -/
def encode (cmd : Command) : List UInt8 := [code cmd, 0, 0, 0]

/-- The command with the given bytes. -/
def decode (bytes : List UInt8) : Command :=
  match bytes.headD 0 with
  | 1 => .powerConsumersOn
  | 2 => .powerConsumersOff
  | 3 => .htr1Off
  | 4 => .htr1_5W
  | 5 => .htr1_10W
  | 6 => .htr1_15W
  | 7 => .htr1Auto
  | 8 => .htr2Off
  | 9 => .htr2_5W
  | 10 => .htr2_10W
  | 11 => .htr2_15W
  | 12 => .htr2Auto
  | _ => .noCommand

/-- A command is read back from its bytes. -/
@[simp] lemma decode_encode {cmd : Command} : decode (encode cmd) = cmd := by
  cases cmd <;> rfl

@[simp] lemma length_encode (cmd : Command) : (encode cmd).length = 4 := rfl

/-- `_pendingCommands.write(&cmd)`, whose result nobody looks at. -/
def enqueue (pendingCommands : RbBase) (cmd : Command) : RbBase :=
  match pendingCommands.write (encode cmd) with
  | some (_, pendingCommands) => pendingCommands
  | none => pendingCommands

def getAndClearCommand (pendingCommands : RbBase) : Command × RbBase :=
  match pendingCommands.read with
  | some (some bytes, pendingCommands) => (decode bytes, pendingCommands)
  | some (none, pendingCommands) => (.noCommand, pendingCommands)
  | none => (.noCommand, pendingCommands)

/-! ## The messages -/

section
variable {R : Rounding}

/-- The switcher with the sensors, and the commands for it (source `_pendingCommands`). -/
structure System (R : Rounding) where
  switcher : Switcher.System R := {}
  pendingCommands : RbBase

/-- A call of `AstroTelegramBot::loop`, with the messages that there are, or an event of the
switcher. -/
inductive Event (R : Rounding) where
  | telegram (msgs : List TBMessage)
  | switcher (ev : Switcher.Event R)

namespace System

/-- The system at boot, with the outcome of the allocation. -/
def boot (allocated : Bool) : System R := { pendingCommands := .new 4 10 allocated }

def getConsumers (s : System R) : Bool := s.switcher.switcher.power.pins.getConsumers

/-- The command of `_subrelayConsumers`. -/
def requestedCommand (s : System R) : Command :=
  if !s.getConsumers then .powerConsumersOn else .powerConsumersOff

def subrelayConsumers (s : System R) : System R :=
  { s with pendingCommands := enqueue s.pendingCommands s.requestedCommand }

/-- The other callbacks only answer. -/
def invoke (s : System R) : Option Callback → System R
  | some .subrelayConsumers => s.subrelayConsumers
  | _ => s

def handleQuery (s : System R) (msg : TBMessage) : System R :=
  if msg.callbackQueryData = "Relay" then s
  else if startsWith msg.callbackQueryData "Relay" then
    let relayNr := msg.callbackQueryData.toUTF8.toList.getD 5 0 - 48
    let requestedState := endsWith msg.callbackQueryData "On"
    let power := s.switcher.switcher.power
    match relayNr with
    | 0 => { s with switcher.switcher.power.pins := power.pins.setConsumers requestedState }
    | 1 =>
      { s with switcher.switcher.charge := s.switcher.switcher.charge.setCharger requestedState }
    | 2 => { s with switcher.switcher.power.pins := power.pins.setMount requestedState }
    | _ => s
  else s

/-- The command of a reply (source `_handleReplies`). -/
def replyCommand (text : String) : Command :=
  if text = "\u2744 Aus" then .htr1Off
  else if text = "💧 5W" then .htr1_5W
  else if text = "\u2668 10W" then .htr1_10W
  else if text = "🔥 15W" then .htr1_15W
  else if text = "📉 Auto" then .htr1Auto
  else .noCommand

def handleReplies (s : System R) (msg : TBMessage) : System R :=
  if startsWith msg.text "Abbrechen" then s
  else if replyCommand msg.text ≠ .noCommand then
    { s with pendingCommands := enqueue s.pendingCommands (replyCommand msg.text) }
  else s

/-- One message in `AstroTelegramBot::loop`. -/
def handle (s : System R) (msg : TBMessage) : System R :=
  let s := s.invoke msg.callback
  match msg.messageType with
  | .query => s.handleQuery msg
  | .reply => s.handleReplies msg
  | _ => s

/-- The commands that the handling of a message confirms to the user. -/
def confirms (s : System R) (msg : TBMessage) : List Command :=
  (if msg.callback = some .subrelayConsumers then [s.requestedCommand] else []) ++
    if msg.messageType = .reply ∧ startsWith msg.text "Abbrechen" = false ∧
        replyCommand msg.text ≠ .noCommand then
      [replyCommand msg.text]
    else []

/-! ## Runs -/

/-- One event: a call of the bot handles at most ten messages, a call of the switcher fetches one
command. -/
def step (s : System R) : Event R → System R
  | .telegram msgs => (msgs.take 10).foldl handle s
  | .switcher (.loop call) =>
    let (command, pendingCommands) := getAndClearCommand s.pendingCommands
    { switcher := s.switcher.step (.loop { call with command }), pendingCommands }
  | .switcher (.read r) => { s with switcher := s.switcher.step (.read r) }

/-- The commands that an event confirms. -/
def confirmedBy (s : System R) : Event R → List Command
  | .telegram msgs => outputs handle confirms s (msgs.take 10)
  | .switcher _ => []

/-- The commands, other than none, that `getAndClearCommand` returns in an event. -/
def returnedBy (s : System R) : Event R → List Command
  | .switcher (.loop _) => [(getAndClearCommand s.pendingCommands).1].filter (· ≠ .noCommand)
  | _ => []

end System
end
end AstroPowerBox.Telegram
