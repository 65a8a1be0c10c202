import AstroPowerBox.Foundation.Past
import AstroPowerBox.Sensors.Transfer

/-!
# The registers of the sensor

Source `src/sensors/power/ina3221.cpp`: what the driver transmits, and what becomes of it. The chip is
not part of the source. A `Chip` is any chip that keeps to the head of the file and to the data sheet:
registers of two bytes behind a pointer, the configuration in register 0 and the results of the
channels in registers 1 to 6. An `Exchange` is what one access meets on the bus, on which every byte may
get lost.

The driver does not look at whether the address of a register has arrived, so that a value may come
from the register that was addressed before (`valid_cell_source`); and a request for values transmits
the address of a register and never a word, so that the chip stays powered down
(`powered_down_for_good`).

The set-up of the bus and the address of the chip are left out.
-/

namespace AstroPowerBox.Sensors
open Foundation

/-- The bytes of a word, the upper one first. -/
def bytesOf (word : UInt16) : List UInt8 := [(word >>> 8).toUInt8, word.toUInt8]

/-- A chip, with what the driver relies on. -/
structure Chip where
  State : Type
  /-- What goes on around the chip while nobody talks to it. -/
  World : Type
  pointer : State → UInt8
  register : State → UInt8 → UInt16
  /-- After those bytes of a transmission that have arrived. -/
  receive : State → List UInt8 → State
  /-- The bytes for a request. -/
  answer : State → List UInt8
  /-- After a request. -/
  answered : State → State
  /-- The chip works by itself. -/
  work : State → World → State
  receive_nil : ∀ s, receive s [] = s
  /-- The first byte changes the register pointer. -/
  pointer_receive : ∀ s reg bytes, pointer (receive s (reg :: bytes)) = reg
  /-- The pointer is kept until the next transmission. -/
  pointer_answered : ∀ s, pointer (answered s) = pointer s
  pointer_work : ∀ s w, pointer (work s w) = pointer s
  /-- A request is answered from the register behind the pointer. -/
  answer_eq : ∀ s, answer s = bytesOf (register s (pointer s))
  /-- Neither an address nor a request changes the configuration or a result. -/
  register_address : ∀ s addr, ∀ reg ≤ 6, register (receive s [addr]) reg = register s reg
  register_answered : ∀ s, ∀ reg ≤ 6, register (answered s) reg = register s reg
  /-- A configuration without the reset bit is stored as it is. -/
  register_config : ∀ s config, config &&& 0x8000 = 0 → ∀ reg ≤ 6,
    register (receive s (0x00 :: bytesOf config)) reg = if reg = 0x00 then config else register s reg
  /-- In power-down mode there are no conversions. -/
  register_off : ∀ s w, register s 0x00 &&& 0x0007 = 0 → ∀ reg ≤ 6,
    register (work s w) reg = register s reg

/-- What an access meets: whether the bus takes the register address, how many bytes of the
transmission arrive, and how many bytes come back. -/
structure Exchange where
  buffered : Bool
  sent : ℕ
  returned : ℕ
deriving DecidableEq

/-! ## What the driver transmits -/

/-- Source `sensor::_read16`, up to the request: the address of the register. -/
def read16Bytes (addr : UInt8) : List UInt8 := [addr]

/-- Source `sensor::_write16`. -/
def write16Bytes (data : UInt16) (addr : UInt8) : List UInt8 := addr :: bytesOf data

/-- Source `_configRegister`: all channels, 64 samples, 1.1 ms for each conversion. -/
def configRegister : UInt16 :=
  (0x7007 : UInt16) ||| (3 : UInt16) <<< 9 ||| (4 : UInt16) <<< 6 ||| (4 : UInt16) <<< 3

/-- Source `sensor::_reset`, with the configuration that it writes. -/
def resetBytes (config : UInt16) : List UInt8 := write16Bytes config 0x00

/-- The configuration of the power-down mode (source `sensor::powerDown`). -/
def configPowerDown : UInt16 := configRegister &&& ~~~0x0007

/-- The register of a value (source `getVoltage`, `getCurrent`). -/
def regAddr : Quantity → ℕ → UInt8
  | .voltage, channelIndex => 0x02 + 2 * .ofNat channelIndex
  | .current, channelIndex => 0x01 + 2 * .ofNat channelIndex

section
variable {R : Rounding} {C : Chip}

/-- The driver and its chip. -/
structure Probe (C : Chip) (R : Rounding) where
  sensor : Sensor R
  chip : C.State

inductive ProbeEvent (C : Chip) where
  | value (q : Quantity) (channelIndex : ℕ) (time : ℕ) (x : Exchange)
  | setup (x : Exchange)
  | powerDown (x : Exchange)
  | work (w : C.World)

/-- How many bytes of what the driver transmits arrive. -/
def ProbeEvent.sent : ProbeEvent C → ℕ
  | value _ _ _ x | setup x | powerDown x => x.sent
  | work _ => 0

/-- The driver is asked to write the configuration. -/
def ProbeEvent.configures : ProbeEvent C → Bool
  | setup _ | powerDown _ => true
  | value .. | work _ => false

namespace Probe

/-- A value that is asked for is read from the chip. -/
def reads (p : Probe C R) (q : Quantity) (channelIndex : ℕ) (time : ℕ) : Bool :=
  if h : channelIndex < numCh then
    !(p.sensor.cell q ⟨channelIndex, h⟩).fresh p.sensor.minReadDelay (millis time)
  else false

/-- What the driver transmits (source `_readValue`, `setup`, `powerDown`): nothing, if the bus does not
take the address. -/
def transmits (p : Probe C R) : ProbeEvent C → List UInt8
  | .value q channelIndex time x =>
    if p.reads q channelIndex time && x.buffered then read16Bytes (regAddr q channelIndex) else []
  | .setup x => if x.buffered then resetBytes configRegister else []
  | .powerDown x => if x.buffered then resetBytes configPowerDown else []
  | .work _ => []

/-- What arrives of it: the bytes up to the first that gets lost. -/
def arrives (p : Probe C R) (e : ProbeEvent C) : List UInt8 := (p.transmits e).take e.sent

/-- The call of the driver that asks for a value, with the answer of the chip. -/
def call (p : Probe C R) (q : Quantity) (channelIndex : ℕ) (time : ℕ) (x : Exchange) : SensorCall :=
  let chip := C.receive p.chip (p.arrives (.value q channelIndex time x))
  ⟨q, channelIndex, time, ⟨x.buffered, (C.answer chip).take x.returned⟩⟩

def step (p : Probe C R) (e : ProbeEvent C) : Probe C R where
  sensor := match e with
    | .value q channelIndex time x => (p.sensor.call (p.call q channelIndex time x)).2
    | _ => p.sensor
  chip := match e with
    | .value q channelIndex time x =>
      if p.reads q channelIndex time && x.buffered then C.answered (C.receive p.chip (p.arrives e))
      else p.chip
    | .work w => C.work p.chip w
    | _ => C.receive p.chip (p.arrives e)

end Probe

/-! ## One access -/

variable {p : Probe C R} {x : Exchange} {addr : UInt8} {q : Quantity} {ch : Fin numCh} {time : ℕ}
  {e : ProbeEvent C} {es : List (ProbeEvent C)}

/-- The driver puts the bytes of a word together again. -/
lemma word_bytes (word : UInt16) :
    (word >>> 8).toUInt8.toUInt16 <<< 8 ||| word.toUInt8.toUInt16 = word := by
  have hlt := word.toNat_lt
  have hmsb : (word >>> 8).toUInt8.toNat = word.toNat / 256 := by
    rw [UInt16.toNat_toUInt8, UInt16.toNat_shiftRight]
    change word.toNat >>> 8 % 2 ^ 8 = _
    rw [Nat.shiftRight_eq_div_pow]
    omega
  rw [← UInt16.toNat_inj, toNat_register, hmsb, UInt16.toNat_toUInt8]
  omega

/-- A read gets the whole word, or that of an empty register. -/
lemma read16_answer {s : C.State} {n : ℕ} : read16 ⟨true, (C.answer s).take n⟩
    = (true, if 2 ≤ n then C.register s (C.pointer s) else 0) := by
  rw [C.answer_eq, bytesOf]
  match n with
  | 0 | 1 => rfl
  | n + 2 =>
    rw [if_pos (Nat.le_add_left 2 n), List.take_succ_cons, List.take_succ_cons, List.take_nil]
    exact congrArg (Prod.mk true) (word_bytes _)

/-- If the address does not arrive, the pointer stays where it is. -/
lemma register_addressed {s : C.State} {n : ℕ} (haddr : addr ≤ 6) :
    C.register (C.receive s ((read16Bytes addr).take n))
        (C.pointer (C.receive s ((read16Bytes addr).take n)))
      = C.register s (if 0 < n then addr else C.pointer s) := by
  cases n with
  | zero => rw [List.take_zero, C.receive_nil, if_neg (Nat.lt_irrefl 0)]
  | succ n =>
    rw [read16Bytes, List.take_succ_cons, List.take_nil, C.pointer_receive,
      C.register_address _ _ _ haddr, if_pos n.succ_pos]

/-- The registers of the values are none of the configuration. -/
lemma regAddr_mem : ∀ (q : Quantity) (ch : Fin numCh), regAddr q ch ≤ 6 ∧ regAddr q ch ≠ 0x00
  | .voltage => by decide
  | .current => by decide

namespace Probe

/-- The chip is asked when the cell is not fresh. -/
lemma reads_channel : p.reads q ch time
    = !(p.sensor.cell q ch).fresh p.sensor.minReadDelay (millis time) := dif_pos ch.isLt

/-- Only a byte that arrives moves the pointer. -/
lemma pointer_step : C.pointer (p.step e).chip = (p.arrives e).head?.getD (C.pointer p.chip) := by
  have hreceive : C.pointer (C.receive p.chip (p.arrives e))
      = (p.arrives e).head?.getD (C.pointer p.chip) := by
    cases p.arrives e with
    | nil => rw [C.receive_nil]; rfl
    | cons reg bytes => exact C.pointer_receive ..
  cases e with
  | work w =>
    have hnone : p.arrives (.work w) = [] := rfl
    rw [hnone]
    exact C.pointer_work ..
  | setup x | powerDown x => exact hreceive
  | value q channelIndex time x =>
    rw [step]
    split_ifs with hreads
    · exact (C.pointer_answered _).trans hreceive
    · have hnone : p.arrives (.value q channelIndex time x) = [] := by
        rw [arrives, transmits, if_neg hreads, List.take_nil]
      rw [hnone]
      rfl

/-- The address that has reached the chip last. -/
def lastAddress (p : Probe C R) (hist : List (ProbeEvent C)) : UInt8 :=
  history step (fun reg p e => (p.arrives e).head?.getD reg) (C.pointer p.chip) p hist

/-- The pointer is the address that has reached the chip last. -/
lemma pointer_run : C.pointer (run step p es).chip = p.lastAddress es := by
  induction es using List.reverseRecOn with
  | nil => rfl
  | append_singleton es e ih =>
    have hlast : p.lastAddress (es ++ [e])
        = ((run step p es).arrives e).head?.getD (p.lastAddress es) := history_concat _
    rw [run_concat, pointer_step, ih, hlast]

/-- The register that a read gets, after a run. -/
def source (p : Probe C R) (hist : List (ProbeEvent C)) (q : Quantity) (ch : Fin numCh)
    (x : Exchange) : UInt8 :=
  if 0 < x.sent then regAddr q ch else p.lastAddress hist

/-- The data of a read, after a run. -/
def rawData (p : Probe C R) (hist : List (ProbeEvent C)) (q : Quantity) (ch : Fin numCh)
    (x : Exchange) : UInt16 :=
  if 2 ≤ x.returned then C.register (run step p hist).chip (p.source hist q ch x) else 0

/-- What the driver makes of an exchange that was buffered. -/
lemma read16_call (hreads : (run step p es).reads q ch time = true) (buffered : x.buffered = true) :
    read16 ((run step p es).call q ch time x).access.bus = (true, p.rawData es q ch x) := by
  have harrives : (run step p es).arrives (.value q ch time x)
      = (read16Bytes (regAddr q ch)).take x.sent := by
    rw [arrives, transmits, hreads, buffered]
    rfl
  rw [call, buffered, read16_answer, harrives, register_addressed (regAddr_mem q ch).1, pointer_run]
  rfl

/-- The read delay never changes. -/
@[simp] lemma minReadDelay_run : (run step p es).sensor.minReadDelay = p.sensor.minReadDelay := by
  apply run_keeps step (f := fun p : Probe C R => p.sensor.minReadDelay)
  intro p e
  cases e with
  | value => exact Sensor.minReadDelay_call
  | setup | powerDown | work => rfl

/-- Nor do the corrections. -/
@[simp] lemma correction_run :
    (run step p es).sensor.correction q ch = p.sensor.correction q ch := by
  apply run_keeps step (f := fun p : Probe C R => p.sensor.correction q ch)
  intro p e
  cases e with
  | value => exact Sensor.correction_call
  | setup | powerDown | work => rfl

/-! ## Where a value comes from -/

/-- At this step the cell has become `cell`, from the register that the read got. -/
def FilledBy (p : Probe C R) (q : Quantity) (ch : Fin numCh) (cell : Value R)
    (hist : List (ProbeEvent C)) (e : ProbeEvent C) : Prop :=
  ∃ time x, e = .value q ch time x ∧ x.buffered = true ∧
    cell = Value.fill {} (p.sensor.correction q ch) (millis time) (p.rawData hist q ch x)

/-- A request for a value touches its own cell only. -/
lemma cell_step_value {q' : Quantity} {channelIndex : ℕ} :
    (p.step (.value q' channelIndex time x)).sensor.cell q ch =
      if q = q' ∧ ch.val = channelIndex then
        readValue p.sensor.minReadDelay (p.sensor.correction q ch) (p.sensor.cell q ch)
          (p.call q' channelIndex time x).access
      else p.sensor.cell q ch :=
  Sensor.cell_call

/-- One event: the cell stays as it is, or it is filled, or it is no longer valid. -/
lemma cell_concat (p : Probe C R) (q : Quantity) (ch : Fin numCh) (es : List (ProbeEvent C))
    (e : ProbeEvent C) : let cell := (run step p (es ++ [e])).sensor.cell q ch
    cell = (run step p es).sensor.cell q ch ∨ p.FilledBy q ch cell es e ∨ cell.valid = false := by
  rw [run_concat]
  cases e with
  | setup | powerDown | work => exact .inl rfl
  | value q' channelIndex time x =>
    rw [cell_step_value]
    split_ifs with hown
    · obtain ⟨rfl, rfl⟩ := hown
      cases hfresh : ((run step p es).sensor.cell q ch).fresh (run step p es).sensor.minReadDelay
          (millis time) with
      | true => exact .inl (readValue_of_fresh hfresh)
      | false =>
        have hreads : (run step p es).reads q ch time = true := by rw [reads_channel, hfresh]; rfl
        cases hbuffered : x.buffered with
        | true =>
          have hread : read16 ((run step p es).call q ch time x).access.bus
              = (true, p.rawData es q ch x) := read16_call hreads hbuffered
          rw [readValue_of_read hfresh (by rw [hread]), hread, correction_run]
          exact .inr (.inl ⟨time, x, rfl, hbuffered, rfl⟩)
        | false =>
          have hread : (read16 ((run step p es).call q ch time x).access.bus).1 = false :=
            read16_success.trans hbuffered
          rw [readValue_of_failed hfresh hread]
          exact .inr (.inr rfl)
    · exact .inl rfl

end Probe

/-- Whatever the chip, every valid value comes from the read that filled its cell last: from the
register of the value, if the address has reached the chip, and otherwise from the register that was
addressed last; and it is that of an empty register, if the two bytes have not come back. -/
theorem valid_cell_source (C : Chip) (p : Probe C R) (q : Quantity) (ch : Fin numCh)
    (es : List (ProbeEvent C)) (unread : (p.sensor.cell q ch).valid = false)
    (valid : ((run Probe.step p es).sensor.cell q ch).valid = true) :
    Once (p.FilledBy q ch ((run Probe.step p es).sensor.cell q ch)) es := by
  induction es using List.reverseRecOn with
  | nil => cases unread.symm.trans valid
  | append_singleton es e ih =>
    rcases Probe.cell_concat p q ch es e with hsame | hfilled | hinvalid
    · rw [hsame] at valid ⊢
      exact (ih valid).mono (List.prefix_append _ _)
    · exact .now hfilled
    · cases hinvalid.symm.trans valid

/-! ## Power down -/

/-- A request for values transmits an address at most. -/
lemma Probe.length_transmits_le (h : e.configures = false) : (p.transmits e).length ≤ 1 := by
  cases e with
  | setup | powerDown => cases h
  | work => exact Nat.zero_le 1
  | value q channelIndex time x =>
    rw [transmits]
    split_ifs
    · exact le_rfl
    · exact Nat.zero_le 1

/-- The chip is powered down, and its results are still those of `p0`. -/
structure Probe.Off (p0 p : Probe C R) : Prop where
  config : C.register p.chip 0x00 = configPowerDown
  frozen : ∀ reg ≤ 6, reg ≠ 0x00 → C.register p.chip reg = C.register p0.chip reg

namespace Probe
variable {p0 : Probe C R}

/-- What changes no register keeps the chip powered down. -/
lemma Off.of_same {p' : Probe C R} (h : p0.Off p)
    (same : ∀ reg ≤ 6, C.register p'.chip reg = C.register p.chip reg) : p0.Off p' where
  config := (same 0x00 (by decide)).trans h.config
  frozen reg hle hne := (same reg hle).trans (h.frozen reg hle hne)

/-- The registers stay frozen as long as the configuration is not written. -/
lemma Off.step (h : p0.Off p) (quiet : e.configures = false) : p0.Off (p.step e) := by
  refine h.of_same fun reg hle => ?_
  cases e with
  | setup | powerDown => cases quiet
  | work w => exact C.register_off _ _ (by rw [h.config]; rfl) reg hle
  | value q channelIndex time x =>
    rw [Probe.step]
    split_ifs with hreads
    · -- the address is all that arrives, if anything does
      have harrives : p.arrives (.value q channelIndex time x)
          = (read16Bytes (regAddr q channelIndex)).take x.sent := by
        rw [arrives, transmits, if_pos hreads]
        rfl
      rw [C.register_answered _ _ hle, harrives]
      cases x.sent with
      | zero => rw [List.take_zero, C.receive_nil]
      | succ n =>
        rw [read16Bytes, List.take_succ_cons, List.take_nil]
        exact C.register_address _ _ _ hle
    · rfl

/-- So they do in a run, by induction on the events. -/
lemma Off.run (h : p0.Off p) (quiet : ∀ e ∈ es, e.configures = false) :
    p0.Off (run Probe.step p es) := by
  induction es using List.reverseRecOn with
  | nil => exact h
  | append_singleton es e ih =>
    rw [run_concat]
    exact (ih fun e' he' => quiet e' (List.mem_append_left _ he')).step (quiet e (by simp))

/-- A power-down that arrives whole. -/
lemma off_powerDown (buffered : x.buffered = true) (whole : 3 ≤ x.sent) :
    p.Off (p.step (.powerDown x)) := by
  have harrives : p.arrives (.powerDown x) = 0x00 :: bytesOf configPowerDown := by
    rw [arrives, transmits, if_pos buffered]
    exact List.take_of_length_le whole
  have hregister : ∀ reg ≤ 6, C.register (p.step (.powerDown x)).chip reg
      = if reg = 0x00 then configPowerDown else C.register p.chip reg := by
    intro reg hle
    change C.register (C.receive p.chip (p.arrives (.powerDown x))) reg = _
    rw [harrives]
    exact C.register_config _ _ (by decide) reg hle
  constructor
  · exact hregister 0x00 (by decide)
  · intro reg hle hne
    rw [hregister reg hle, if_neg hne]

end Probe

/-- A power-down that arrives is for good, whatever the chip: until the driver is asked to write the
configuration again, it transmits addresses only, and every value that is then read from the chip is
marked valid and gets a new time, and is what its register held at the power-down. -/
theorem powered_down_for_good (C : Chip) (p : Probe C R) (x : Exchange) (es : List (ProbeEvent C))
    (written : x.buffered = true ∧ 3 ≤ x.sent) (quiet : ∀ e ∈ es, e.configures = false)
    (q : Quantity) (ch : Fin numCh) (time : ℕ) (x' : Exchange)
    (answered : x'.buffered = true ∧ 0 < x'.sent ∧ 2 ≤ x'.returned) :
    let off := run Probe.step p (.powerDown x :: es)
    EveryStep (fun hist e =>
      ((run Probe.step p (.powerDown x :: hist)).transmits e).length ≤ 1) es ∧
    (off.reads q ch time = true → (off.sensor.call (off.call q ch time x')).1
      = Value.fill {} (p.sensor.correction q ch) (millis time)
          (C.register p.chip (regAddr q ch))) := by
  intro off
  obtain ⟨buffered, addressed, complete⟩ := answered
  refine ⟨fun hist e pre => Probe.length_transmits_le (quiet e (pre.subset (by simp))), ?_⟩
  intro hreads
  have hoff : p.Off off := (Probe.off_powerDown written.1 written.2).run quiet
  have hstale : (off.sensor.cell q ch).fresh off.sensor.minReadDelay (millis time) = false := by
    rwa [Probe.reads_channel, Bool.not_eq_true'] at hreads
  have hread : read16 (off.call q ch time x').access.bus
      = (true, C.register p.chip (regAddr q ch)) := by
    rw [Probe.read16_call hreads buffered, Probe.rawData, if_pos complete, Probe.source,
      if_pos addressed]
    exact congrArg (Prod.mk true) (hoff.frozen _ (regAddr_mem q ch).1 (regAddr_mem q ch).2)
  have hcorrection : off.sensor.correction q ch = p.sensor.correction q ch := Probe.correction_run
  calc (off.sensor.call (off.call q ch time x')).1
      = readValue off.sensor.minReadDelay (off.sensor.correction q ch) (off.sensor.cell q ch)
          (off.call q ch time x').access := Sensor.call_value ch.isLt
    _ = (off.sensor.cell q ch).fill (off.sensor.correction q ch) (millis time)
          (read16 (off.call q ch time x').access.bus).2 :=
        readValue_of_read hstale (by rw [hread])
    _ = Value.fill {} (p.sensor.correction q ch) (millis time) (C.register p.chip (regAddr q ch)) := by
        rw [hread, hcorrection]
        rfl

end

/-! ## A chip with 12 V -/

/-- A chip that is a table of registers. -/
def tableChip : Chip where
  State := UInt8 × (UInt8 → UInt16)
  World := UInt8 → UInt16
  pointer s := s.1
  register s := s.2
  receive s bytes := match bytes with
    | [] => s
    | reg :: rest =>
      (reg, match rest with
        | msb :: lsb :: _ =>
          if reg = 0x00 then Function.update s.2 0x00 (msb.toUInt16 <<< 8 ||| lsb.toUInt16) else s.2
        | _ => s.2)
  answer s := bytesOf (s.2 s.1)
  answered s := s
  work s results := if s.2 0x00 &&& 0x0007 = 0 then s
    else (s.1, fun reg => if 1 ≤ reg ∧ reg ≤ 6 then results reg else s.2 reg)
  receive_nil _ := rfl
  pointer_receive _ _ _ := rfl
  pointer_answered _ := rfl
  pointer_work s results := by split_ifs <;> rfl
  answer_eq _ := rfl
  register_address _ _ _ _ := rfl
  register_answered _ _ _ := rfl
  register_config s config _ reg _ := by
    simp only [bytesOf, if_true, word_bytes, Function.update_apply]
  register_off s results hoff reg _ := by rw [if_pos hoff]

/-- A chip with 12 V and no current, at which nothing has been read yet. -/
def freshProbe : Probe tableChip .binary32 where
  sensor := .new
  chip := (0x00, fun reg => if reg = 0x02 then 0x2EE0 else 0x7127)

/-- A voltage is read, and then the address of the current gets lost. -/
def lostAddress : List (ProbeEvent tableChip) :=
  [.value .voltage 0 1000 ⟨true, 1, 2⟩, .value .current 0 1001 ⟨true, 0, 2⟩]

/-- The address is lost on the bus, and the value of another register is taken. -/
theorem valid_cell_source_lost : Once
    (freshProbe.FilledBy .current 0
      ((run Probe.step freshProbe lostAddress).sensor.cell .current 0)) lostAddress :=
  valid_cell_source tableChip freshProbe .current 0 lostAddress rfl (by decide +kernel)

example : ((run Probe.step freshProbe lostAddress).sensor.cell .current 0).adc = 1500 := by
  decide +kernel

/-- The chip is powered down, and everything that it could measure then is 0. -/
def offRun : List (ProbeEvent tableChip) :=
  [.work fun _ => (0 : UInt16), .value .voltage 1 1500 ⟨true, 1, 2⟩]

/-- A conversion after the power-down changes nothing. -/
theorem powered_down_for_good_converted :
    EveryStep (fun hist e =>
      ((run Probe.step freshProbe (.powerDown ⟨true, 3, 0⟩ :: hist)).transmits e).length ≤ 1)
        offRun ∧
      ((run Probe.step freshProbe (.powerDown ⟨true, 3, 0⟩ :: offRun)).reads .voltage 0 2000 = true →
        ((run Probe.step freshProbe (.powerDown ⟨true, 3, 0⟩ :: offRun)).sensor.call
          ((run Probe.step freshProbe (.powerDown ⟨true, 3, 0⟩ :: offRun)).call
            .voltage 0 2000 ⟨true, 1, 2⟩)).1
          = Value.fill {} (freshProbe.sensor.correction .voltage 0) (millis 2000) 0x2EE0) :=
  powered_down_for_good tableChip freshProbe ⟨true, 3, 0⟩ offRun ⟨rfl, by decide⟩
    (by simp [offRun, ProbeEvent.configures]) .voltage 0 2000 ⟨true, 1, 2⟩
    ⟨rfl, by decide, by decide⟩

end AstroPowerBox.Sensors
