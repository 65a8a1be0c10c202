import AstroPowerBox.Foundation.Binary
import AstroPowerBox.RingBuffer.Refine
import AstroPowerBox.RingBuffer.Iterate
import AstroPowerBox.MovingAverage.Failure
import AstroPowerBox.Sensors.Cache
import AstroPowerBox.Sensors.Transfer
import AstroPowerBox.Sensors.Chip
import AstroPowerBox.Switcher.Inrush
import AstroPowerBox.Switcher.PowerCut
import AstroPowerBox.Switcher.Hysteresis
import AstroPowerBox.Switcher.Cutoff
import AstroPowerBox.Switcher.Debounce
import AstroPowerBox.Switcher.Windows
import AstroPowerBox.Switcher.Snapshot
import AstroPowerBox.Switcher.Progress
import AstroPowerBox.Switcher.Relock
import AstroPowerBox.Battery.Resting
import AstroPowerBox.Battery.Range
import AstroPowerBox.Battery.Settling
import AstroPowerBox.Battery.Accounting
import AstroPowerBox.Storage.Restart
import AstroPowerBox.Main.Update
import AstroPowerBox.Main.Periodic
import AstroPowerBox.Main.Firmware
import AstroPowerBox.Main.Datagrams
import AstroPowerBox.Main.Demand
import AstroPowerBox.Telegram.Commands
import AstroPowerBox.Connection.Attempts
import AstroPowerBox.Connection.Rounds
import AstroPowerBox.Communication.Send
import AstroPowerBox.Communication.Transmit
import AstroPowerBox.Display.FixedPoint
import AstroPowerBox.Display.Redraw
import AstroPowerBox.Gui.EspComm
import AstroPowerBox.Gui.Protocol
import AstroPowerBox.Main.Lifetime
import AstroPowerBox.Gui.Logger
import AstroPowerBox.Gui.Capacity
import AstroPowerBox.Display.Gfx
import AstroPowerBox.Display.UpdateScreen
import AstroPowerBox.Display.StatusBar
import AstroPowerBox.Display.HomeScreen
