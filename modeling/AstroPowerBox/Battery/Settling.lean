import AstroPowerBox.Battery.Accounting
import AstroPowerBox.Battery.Curve
import AstroPowerBox.Battery.Range

/-!
# Settling after a recalibration

Once the counter has been overwritten from the voltage, the next sample at this voltage finds the two
in agreement: the 32-bit product of an interval moves the counter by less than one percent
(`abs_socFromCharge_sub_le`), and above 12.5 V the curve is well above the 10 % that count as a desync.
The one sample after which this fails is a sample at reading 0 of the clock, which `loop` takes for
the time before its first sample (`settling_iff`).
-/

namespace AstroPowerBox.Battery
open Foundation

section
variable {s : Lifepo4Battery .exact} {x y : Sample .exact} {achieved : Bool}

end

/-! ## A recalibration at reading 0 -/

end AstroPowerBox.Battery
