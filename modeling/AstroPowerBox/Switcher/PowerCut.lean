import AstroPowerBox.Switcher.Loop
import AstroPowerBox.Switcher.Sequence

/-!
# Power cut of the PC

While the machine waits for the PC to shut down, a PC current below 0.2 A cuts its power. The driver
hands on the value of a cell whatever became of the transaction: a register read that delivers another
number of bytes than two counts as a reading of zero, and a refused one leaves the old value in the
cell. `powerCut_iff` settles in which runs only received bytes cut the power.
-/

namespace AstroPowerBox.Switcher
open Foundation Sensors

section
variable {R : Rounding}

/-- The readings made in a run from power-up. -/
def readings (events : List (Event R)) : List Reading := outputs System.step System.readings {} events

/-- The time at which the power machine entered its state in a run from power-up. -/
def powerEnteredAt (t0 : ℕ) (events : List (Event R)) : ℕ :=
  enteredAt t0 {} (outputs System.step System.powerCalls {} events)

/-- The last access that filled the cell of the PC current, after the readings `rs`. -/
def lastPcFill (R : Rounding) (rs : List Reading) : Option Access :=
  lastFill 10 (lowShuntCorrection : AdcCorrection R) {} (accesses .current .ch4Pc rs)

/-- The call cuts the power of the PC before the hour of waiting is over. -/
def CutsEarly (t0 : ℕ) (hist : List (Event R)) (call : LoopCall R) : Prop :=
  (run System.step {} hist).switcher.power.consumersState = .onWait4pcShutdown ∧
    (run System.step {} (hist ++ [.loop call])).switcher.power.consumersState = .offIdle ∧
    call.start < powerEnteredAt t0 hist + 3600000

instance {t0 : ℕ} {hist : List (Event R)} {call : LoopCall R} : Decidable (CutsEarly t0 hist call) :=
  inferInstanceAs (Decidable (_ ∧ _ ∧ _))

/-- The call attempts a bus read of the PC current. -/
def AttemptsRead (hist : List (Event R)) (call : LoopCall R) : Prop :=
  ((run System.step {} hist).sensors.cell .current .ch4Pc).fresh 10 (millis call.pc.time) = false

instance {hist : List (Event R)} {call : LoopCall R} : Decidable (AttemptsRead hist call) :=
  inferInstanceAs (Decidable (_ = false))

/-- If the event cuts the power of the PC early, then on a current below 0.2 A that was decoded from
exactly two received bytes, and no bus read of the event failed to deliver them. -/
def CutOnReceivedBytes (t0 : ℕ) (hist : List (Event R)) : Event R → Prop
  | .loop call =>
    CutsEarly t0 hist call →
      (∃ a, lastPcFill R (readings hist ++ [pcReading call]) = some a ∧ a.bus.complete = true ∧
        decode (lowShuntCorrection : AdcCorrection R) (read16 a.bus).2 < 0.2) ∧
      (AttemptsRead hist call → call.pc.bus.complete = true)
  | .read _ => True

/-- A call that may cut the power early meets a complete transaction; or a refused one while the cell
holds at least 0.2 A; or it makes none, and the one that filled the cell was complete. -/
def PcReadingComplete (t0 : ℕ) (hist : List (Event R)) : Event R → Prop
  | .loop call =>
    (run System.step {} hist).switcher.power.consumersState = .onWait4pcShutdown →
    (run System.step {} hist).switcher.request call = false →
    call.start < powerEnteredAt t0 hist + 3600000 →
      (AttemptsRead hist call → call.pc.bus.complete = true ∨ call.pc.bus.pointerAccepted = false ∧
        0.2 ≤ ((run System.step {} hist).sensors.cell .current .ch4Pc).value) ∧
      (¬ AttemptsRead hist call → ∀ a ∈ lastPcFill R (readings hist), a.bus.complete = true)
  | .read _ => True

variable {t0 : ℕ} {hist events : List (Event R)} {call : LoopCall R} {a : Access}

/-! ## The reading of the PC current -/

/-- The cell of the PC current after a run. -/
def pcCell (hist : List (Event R)) : Value R :=
  run (readValue 10 lowShuntCorrection) {} (accesses .current .ch4Pc (readings hist))

/-- The cell of the PC, by the readings of it. -/
lemma cell_pc : (run System.step {} hist).sensors.cell .current .ch4Pc = pcCell hist := by
  rw [run_sensors, Psens.cell_run]
  rfl

/-- The current that the machine compares, by the readings of it. -/
lemma pcCurrent_eq :
    (powerCall (run System.step {} hist).switcher (run System.step {} hist).sensors call).pcCurrent
      = (readValue 10 lowShuntCorrection (pcCell hist) call.pc).value := by
  rw [← cell_pc, powerCall, Psens.getCurrent, Psens.get_value, run_sensors, Psens.minReadDelay_run,
    Psens.correction_run]
  rfl

/-- A reading that fills the cell is the last one. -/
lemma lastPcFill_concat :
    lastPcFill R (readings hist ++ [pcReading call])
      = if (pcCell hist).fills 10 call.pc then some call.pc else lastPcFill R (readings hist) := by
  rw [lastPcFill, accesses_concat, pcReading, if_pos ⟨rfl, rfl⟩, lastFill_concat]
  rfl

/-- A register read without exactly two bytes decodes to less than 0.2 A. -/
lemma decode_of_incomplete (h : a.bus.complete = false) :
    decode (lowShuntCorrection : AdcCorrection R) (read16 a.bus).2 < 0.2 := by
  have hraw : (read16 a.bus).2 = 0 := by
    unfold read16
    split
    case isFalse => rfl
    case isTrue accepted =>
      split
      case h_1 eq => simp [Transaction.complete, accepted, eq] at h
      case h_2 => rfl
  have hpos : 0 < (0.2 : Rounded R).val := R.round_pos (by norm_num)
  rw [hraw, decode_zero, Rounded.lt_def, Rounded.zero_val]
  exact hpos

/-! ## The power cut -/

/-- If the machine finds the hour over, it is. -/
lemma lt_start_of_hour (chron : Chronological t0 (hist ++ [.loop call]))
    (hon : (run System.step {} hist).switcher.power.consumersState ≠ .offIdle)
    (h : 3600000 < millis call.start - (run System.step {} hist).switcher.power.lastStateChange) :
    powerEnteredAt t0 hist + 3600000 < call.start := by
  have chron := (chronological_powerCalls (s := {}) chron).1
  rw [outputs_concat] at chron
  rw [run_power] at hon h
  exact lt_start_of_timeout rfl chron hon h

/-- Before the hour is over, only a current below 0.2 A moves the machine on without a request. -/
lemma cutsEarly_iff (chron : Chronological t0 (hist ++ [.loop call])) :
    CutsEarly t0 hist call ↔
      (run System.step {} hist).switcher.power.consumersState = .onWait4pcShutdown ∧
        (run System.step {} hist).switcher.request call = false ∧
        call.start < powerEnteredAt t0 hist + 3600000 ∧
        (readValue 10 lowShuntCorrection (pcCell hist) call.pc).value < 0.2 := by
  have htimeout := lt_start_of_hour chron
  rw [CutsEarly, run_concat, ← pcCurrent_eq]
  generalize run System.step {} hist = s at *
  have tr : Transition (powerCall s.switcher s.sensors call) s.switcher.power
      (s.step (.loop call)).switcher.power := consumerPowerLoop_transition
  constructor
  · rintro ⟨hs, hoff, hearly⟩
    generalize s.switcher.power = pre at *
    generalize (s.step (.loop call)).switcher.power = post at *
    cases tr with
    | pcOff req cause =>
      refine ⟨rfl, req, hearly, cause.resolve_right fun timeout => ?_⟩
      have hlate := htimeout (by simp) timeout
      exact absurd hearly (not_lt.mpr hlate.le)
    | resume | wait4pc => cases hoff
    | _ => cases hs
  · rintro ⟨hs, req, hearly, hlow⟩
    refine ⟨hs, ?_, hearly⟩
    generalize s.switcher.power = pre at *
    generalize (s.step (.loop call)).switcher.power = post at *
    cases tr with
    | pcOff => rfl
    | resume req' =>
      rw [show (powerCall s.switcher s.sensors call).requestedState = false from req] at req'
      cases req'
    | wait4pc _ nocause => exact absurd (.inl hlow) nocause
    | _ => cases hs

/-- A reading below 0.2 A comes from a complete transaction exactly if the transaction that is made
is complete, or is refused while the cell holds more; and if none is made, the last one was. -/
lemma reading_iff :
    ((readValue 10 lowShuntCorrection (pcCell hist) call.pc).value < (0.2 : Rounded R) →
      (∃ a, lastPcFill R (readings hist ++ [pcReading call]) = some a ∧ a.bus.complete = true ∧
        decode (lowShuntCorrection : AdcCorrection R) (read16 a.bus).2 < 0.2) ∧
      (AttemptsRead hist call → call.pc.bus.complete = true)) ↔
      (AttemptsRead hist call → call.pc.bus.complete = true ∨ call.pc.bus.pointerAccepted = false ∧
        0.2 ≤ (pcCell hist).value) ∧
      (¬ AttemptsRead hist call → ∀ a ∈ lastPcFill R (readings hist), a.bus.complete = true) := by
  unfold AttemptsRead
  rw [cell_pc, lastPcFill_concat, Value.fills]
  cases hfresh : (pcCell hist).fresh 10 (millis call.pc.time) with
  | true =>
    -- no transaction: the one that filled the cell decides
    have hvalid : (pcCell hist).valid = true := by
      simp only [Value.fresh, Bool.and_eq_true] at hfresh
      exact hfresh.2
    obtain ⟨a, hlast, hcell⟩ := run_eq_fill rfl hvalid
    have hlast : lastPcFill R (readings hist) = some a := hlast
    have hvalue : (pcCell hist).value = decode lowShuntCorrection (read16 a.bus).2 := by
      rw [pcCell, hcell]
      rfl
    rw [readValue_of_fresh hfresh, hvalue, hlast]
    cases hbus : a.bus.complete with
    | true => simp [hbus]
    | false => simpa [hbus] using decode_of_incomplete hbus
  | false =>
    cases hread : (read16 call.pc.bus).1 with
    | true =>
      -- the cell is filled, with a reading of zero unless two bytes came
      have haccepted : call.pc.bus.pointerAccepted = true := read16_success.symm.trans hread
      rw [readValue_of_read hfresh hread]
      cases hbus : call.pc.bus.complete with
      | true => simp [Value.fill, hbus]
      | false => simpa [Value.fill, haccepted] using decode_of_incomplete hbus
    | false =>
      -- the old value stays in the cell and is handed on
      have hrefused : call.pc.bus.pointerAccepted = false := read16_success.symm.trans hread
      have hbus : call.pc.bus.complete = false := by
        simp [Transaction.complete, hrefused]
      rw [readValue_of_failed hfresh hread]
      simp [hrefused, hbus]

/-- Only received bytes cut the power of the PC early, exactly in the runs in which every call that
may do it meets complete transactions. -/
theorem powerCut_iff (chron : Chronological t0 events) :
    EveryStep (CutOnReceivedBytes t0) events ↔ EveryStep (PcReadingComplete t0) events := by
  refine forall₂_congr fun hist ev => forall_congr' fun pre => ?_
  have chron : Chronological t0 (hist ++ [ev]) := chron.of_prefix pre
  cases ev with
  | read r => exact Iff.rfl
  | loop call =>
    simp only [CutOnReceivedBytes, PcReadingComplete, cutsEarly_iff chron, cell_pc]
    simp only [and_imp]
    exact forall₂_congr fun _ _ => forall_congr' fun _ => by simpa only [cell_pc] using reading_iff

end

/-! ## A turn-on, a power-down and a short read -/

/-- The machine comes to wait for the PC, which draws 1.5 A. -/
def waitingRun : List (Event .binary32) :=
  [.loop (.brief .powerConsumersOn 1000 ⟨true, [0x2E, 0xE0]⟩),
    .loop (.brief .noCommand 1300 ⟨true, [0x2E, 0xE0]⟩),
    .loop (.brief .noCommand 1500 ⟨true, [0x2E, 0xE0]⟩),
    .loop (.brief .noCommand 2600 ⟨true, [0x2E, 0xE0]⟩),
    .loop (.brief .powerConsumersOff 2700 ⟨true, [0x2E, 0xE0]⟩),
    .loop (.brief .noCommand 3000 ⟨true, [0x2E, 0xE0]⟩),
    .loop (.brief .noCommand 3100 ⟨true, [0x0E, 0x10]⟩)]

/-- The sensor answers the next reading with one byte. -/
def shortRead : LoopCall .binary32 := .brief .noCommand 3200 ⟨true, [0x0E]⟩

/-- A read that gets no byte is taken for a current of zero. -/
theorem powerCut_shortRead :
    ¬ EveryStep (CutOnReceivedBytes 0) (waitingRun ++ [.loop shortRead]) := by
  intro h
  have hcut := (h waitingRun _ List.prefix_rfl (by decide +kernel)).2
  exact absurd (hcut (by decide +kernel)) (by decide)

theorem powerCut_iff_shortRead :
    EveryStep (CutOnReceivedBytes 0) (waitingRun ++ [.loop shortRead]) ↔
      EveryStep (PcReadingComplete 0) (waitingRun ++ [.loop shortRead]) :=
  powerCut_iff (by decide +kernel)

end AstroPowerBox.Switcher
