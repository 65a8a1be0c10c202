import AstroPowerBox.Foundation.Clock

/-!
# Connection handler

Source `src/connection/connection.cpp`. Two callbacks of the WiFi library and `loop` share the time
stamps; `_disconnectedSince` is 0 while the box is connected, and at reading 0 of the clock. An event
takes the handler to its next state and makes calls of the WiFi library. The list of networks is not
part of the sources; its length is a parameter, and a network is the number of its entry.

Left out: the messages on the display, the services that are set up when the box is connected, and
the debug output.
-/

namespace AstroPowerBox.Connection
open Foundation

/-- A call of the WiFi library, and the time at which it is made. -/
inductive WifiCall where
  | begin (entry : ℤ) (time : ℕ)
  | reconnect (time : ℕ)
deriving DecidableEq

/-- The variables of the handler; `int_fast8_t` has at least 8 bits. -/
structure Handler where
  authNdx : Int8 := -1
  disconnectedSince : UInt32 := 0
  connectedSince : UInt32 := 0
  lastReconnect : UInt32 := 0
  gotIp : Bool := false
  telegramStarted : Bool := false
  mdnsStarted : Bool := false

/-- A callback, or a call of `loop` with the times at which it looks at the clock and at which it
tries the next network, and the outcomes of `MDNS.begin` and `telegramBot.begin`. -/
inductive Event where
  | gotIp (time : ℕ)
  | disconnected (time : ℕ)
  | loop (start stop : ℕ) (mdnsBegin telegramBegin : Bool)
deriving DecidableEq

instance : Timed Event where
  start
    | .gotIp time => time
    | .disconnected time => time
    | .loop start _ _ _ => start
  stop
    | .gotIp time => time
    | .disconnected time => time
    | .loop _ stop _ _ => stop

namespace Handler

/-- The index after the increment and the remainder of C. -/
def nextNdx (ssidListLen : ℕ) (authNdx : Int8) : Int8 :=
  .ofInt ((authNdx + 1).toInt.tmod ssidListLen)

def tryNextSSID (ssidListLen : ℕ) (s : Handler) (time : ℕ) : Handler × List WifiCall :=
  let authNdx := nextNdx ssidListLen s.authNdx
  ({ s with authNdx, disconnectedSince := millis time, connectedSince := 0 },
    [.begin authNdx.toInt time])

/-- The handler of `onStationModeGotIP`. -/
def onGotIp (s : Handler) (time : ℕ) : Handler :=
  { s with gotIp := true, connectedSince := millis time, disconnectedSince := 0 }

/-- The handler of `onStationModeDisconnected`. -/
def onDisconnected (s : Handler) (time : ℕ) : Handler × List WifiCall :=
  let sysTime := millis time
  let s := { s with gotIp := false, connectedSince := 0, telegramStarted := false }
  let s := if s.disconnectedSince = 0 then { s with disconnectedSince := sysTime } else s
  if sysTime - s.lastReconnect > 60000 then
    ({ s with lastReconnect := sysTime }, [.reconnect time])
  else (s, [])

/-- The branch of `loop` for a box that is connected. -/
def services (s : Handler) (mdnsBegin telegramBegin : Bool) : Handler :=
  let s := if !s.mdnsStarted then { s with mdnsStarted := mdnsBegin } else s
  if !s.telegramStarted then { s with telegramStarted := telegramBegin } else s

def loop (ssidListLen : ℕ) (s : Handler) (start stop : ℕ) (mdnsBegin telegramBegin : Bool) :
    Handler × List WifiCall :=
  if s.gotIp then (s.services mdnsBegin telegramBegin, [])
  else if millis start - s.disconnectedSince > 10000 then s.tryNextSSID ssidListLen stop
  else (s, [])

def handle (ssidListLen : ℕ) (s : Handler) : Event → Handler × List WifiCall
  | .gotIp time => (s.onGotIp time, [])
  | .disconnected time => s.onDisconnected time
  | .loop start stop mdnsBegin telegramBegin =>
    s.loop ssidListLen start stop mdnsBegin telegramBegin

def step (ssidListLen : ℕ) (s : Handler) (ev : Event) : Handler := (s.handle ssidListLen ev).1

/-- The calls that an event makes. -/
def calls (ssidListLen : ℕ) (s : Handler) (ev : Event) : List WifiCall :=
  (s.handle ssidListLen ev).2

/-- The handler after a run from boot. -/
def after (ssidListLen : ℕ) (events : List Event) : Handler := run (step ssidListLen) {} events

end Handler
end AstroPowerBox.Connection
