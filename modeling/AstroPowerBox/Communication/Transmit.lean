import AstroPowerBox.Communication.Send

/-!
# Sending the status

Source `communication::transmit`, and the readings of `communication::_send`: each channel is asked for
its current and then for its voltage, and the shunt is the one of the current that was read last. A
message is due when more than a second has passed since the last one by the clock of the box.
-/

namespace AstroPowerBox.Communication
open Foundation Sensors

/-- What a call of `transmit` meets: the time at which it looks at the clock, the time of the message, the
bus at the readings of each channel, and the signal strength. -/
structure TransmitCall where
  start : ℕ
  stop : ℕ
  current : PsensChannel → Access
  voltage : PsensChannel → Access
  rssi : Int8 := 0

instance : Timed TransmitCall where
  start := TransmitCall.start
  stop := TransmitCall.stop

/-- A call that takes no time and meets the same bus at every reading. -/
def TransmitCall.brief (time : ℕ) (bus : Transaction) : TransmitCall where
  start := time
  stop := time
  current := fun _ => ⟨time, bus⟩
  voltage := fun _ => ⟨time, bus⟩

/-- The message is due. -/
def due (lastTxTime : UInt32) (call : TransmitCall) : Bool := millis call.start - lastTxTime > 1000

/-- The channels in the order in which `_send` reads them. -/
def sendOrder : List PsensChannel :=
  [.ch1Battery, .ch4Pc, .ch5Mount, .ch6ImagingCam, .ch2DewHeater1, .ch3DewHeater2]

section
variable {R : Rounding} {sensors : Psens R} {readings : PsensChannel → ChannelReadings R}
  {call : TransmitCall} {chs : List PsensChannel}

/-- Current and voltage of a channel, and what the sensors keep of it. -/
def readChannel (call : TransmitCall) (s : (PsensChannel → ChannelReadings R) × Psens R)
    (channel : PsensChannel) : (PsensChannel → ChannelReadings R) × Psens R :=
  let (current, sensors) := s.2.getCurrent channel (call.current channel)
  let (voltage, sensors) := sensors.getVoltage channel (call.voltage channel)
  let readings := ⟨voltage, current, sensors.powers channel, sensors.getAdcShunt channel⟩
  (Function.update s.1 channel readings, sensors)

/-- The readings of a message, and the sensors after them. -/
def readAll (sensors : Psens R) (call : TransmitCall) :
    (PsensChannel → ChannelReadings R) × Psens R :=
  sendOrder.foldl (readChannel call) (fun _ => ⟨0, 0, 0, 0⟩, sensors)

/-- The readings that a message makes of the sensors. -/
def sendReadings (call : TransmitCall) : List Reading :=
  sendOrder.flatMap fun channel =>
    [⟨.current, channel, call.current channel⟩, ⟨.voltage, channel, call.voltage channel⟩]

/-- The loop over the channels takes two readings of each. -/
lemma sensors_foldl : (chs.foldl (readChannel call) (readings, sensors)).2
    = run Psens.step sensors (chs.flatMap fun channel =>
        [⟨.current, channel, call.current channel⟩, ⟨.voltage, channel, call.voltage channel⟩]) := by
  induction chs generalizing readings sensors with
  | nil => rfl
  | cons channel chs ih =>
    rw [List.flatMap_cons, run_append]
    exact ih

/-- The sensors serve these readings one after the other. -/
lemma sensors_readAll : (readAll sensors call).2 = run Psens.step sensors (sendReadings call) :=
  sensors_foldl

end

/-! ## The messages of a run -/

section
variable {lastTxTime : UInt32} {call : TransmitCall} {calls : List TransmitCall}

/-- More than a second since the last datagram. -/
lemma due_iff : due lastTxTime call = true ↔ 1000 < millis call.start - lastTxTime :=
  decide_eq_true_iff

/-- The stamp after a call. -/
def txStep (lastTxTime : UInt32) (call : TransmitCall) : UInt32 :=
  if due lastTxTime call then millis call.start else lastTxTime

/-- The time at which a call finds that a message is due. -/
def txTimes (lastTxTime : UInt32) (call : TransmitCall) : List ℕ :=
  if due lastTxTime call then [call.start] else []

/-- The stamp is not before a message, nor before the boot. -/
lemma stamped_tx (chron : Chronological 0 calls) :
    StampedAfter (run txStep 0 calls) (0 :: outputs txStep txTimes 0 calls) (endTime 0 calls) := by
  induction calls using List.reverseRecOn with
  | nil => exact .stamped_now (by simp)
  | append_singleton calls call ih =>
    obtain ⟨hchron, hstart, hstop⟩ := chronological_concat.mp chron
    have h := ih hchron
    rw [run_concat, outputs_concat, endTime_concat, txStep, txTimes]
    split_ifs with hdue
    · -- the stamp is set by the message of this call
      have hnow : StampedAfter (millis call.start) (0 :: outputs txStep txTimes 0 calls ++ [call.start])
          call.start := by
        refine .stamped_now fun t ht => ?_
        rcases List.mem_append.mp ht with ht | ht
        · exact (h.le_now t ht).trans hstart
        · exact (List.mem_singleton.mp ht).le
      exact hnow.mono hstop
    · rw [List.append_nil]
      exact h.mono (hstart.trans hstop)

/-- Messages are more than a second apart, and so is the first one from the boot. -/
theorem tx_apart (chron : Chronological 0 calls) :
    (0 :: outputs txStep txTimes 0 calls).Pairwise fun t t' => t + 1000 < t' := by
  induction calls using List.reverseRecOn with
  | nil => exact List.pairwise_singleton _ _
  | append_singleton calls call ih =>
    obtain ⟨hchron, hstart, -⟩ := chronological_concat.mp chron
    rw [outputs_concat, ← List.cons_append, List.pairwise_append]
    refine ⟨ih hchron, ?_, fun t ht t' ht' => ?_⟩
    · rw [txTimes]
      split_ifs <;> simp
    · rw [txTimes] at ht'
      split_ifs at ht' with hdue
      · obtain rfl := List.mem_singleton.mp ht'
        have hlt : t + (1000 : UInt32).toNat < call.start :=
          (stamped_tx hchron).lt_of_lt_elapsed hstart (due_iff.mp hdue) t ht
        simpa using hlt
      · cases ht'

end
end AstroPowerBox.Communication
