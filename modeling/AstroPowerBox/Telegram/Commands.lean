import AstroPowerBox.Foundation.Binary
import AstroPowerBox.RingBuffer.Refine
import AstroPowerBox.Telegram.Bot

/-!
# From the user to the switcher

The commands wait in a ring buffer of ten, which is a bounded queue (`Represents`): an event puts the
commands it confirms at the end and takes what it returns from the front (`Holds.step`). A command is
confirmed whether the buffer takes it or not, so the switcher receives what was confirmed as long as
there is room for it (`commands_iff`).
-/

namespace AstroPowerBox.Telegram
open Foundation Switcher RingBuffer

/-- The number of commands that fit into the buffer. -/
def capacity (rb : RbBase) : ℕ := if rb.memOk then 10 else 0

/-- The buffer holds the commands `q`; without memory it stays as it is. -/
def Holds (rb : RbBase) (q : List Command) : Prop :=
  (rb.Represents (q.map encode) ∧ rb.elementSize = 4 ∧ rb.numElements = 10) ∨
    (rb = .new 4 10 false ∧ q = [])

/-- A new queue is empty. -/
lemma holds_new {allocated : Bool} : Holds (.new 4 10 allocated) [] := by
  cases allocated with
  | true => exact .inl ⟨.new (by decide) rfl, rfl, rfl⟩
  | false => exact .inr ⟨rfl, rfl⟩

namespace Holds
variable {rb : RbBase} {q cmds : List Command}

/-- It holds as many commands as the buffer has elements. -/
lemma remainingElm (h : Holds rb q) : rb.remainingElm.toNat = q.length := by
  obtain ⟨hrep, -, -⟩ | ⟨rfl, rfl⟩ := h
  · rw [hrep.remainingElm, List.length_map]
  · rfl

/-- It holds no more than there is room for. -/
lemma length_le (h : Holds rb q) : q.length ≤ capacity rb := by
  obtain ⟨hrep, -, hnum⟩ | ⟨rfl, rfl⟩ := h
  · have hle := hrep.length_le
    rw [List.length_map, hnum] at hle
    rw [capacity, if_pos hrep.memOk]
    exact hle
  · exact Nat.zero_le _

/-- A command is queued, or refused if there is no room. -/
lemma enqueue (h : Holds rb q) (cmd : Command) :
    Holds (enqueue rb cmd) (Fifo.step (capacity rb) q (.push cmd)).2 ∧
      capacity (Telegram.enqueue rb cmd) = capacity rb := by
  obtain ⟨hrep, hsize, hnum⟩ | ⟨rfl, rfl⟩ := h
  · have hcap : capacity rb = 10 := if_pos hrep.memOk
    have hten : rb.numElements.toNat = 10 := by rw [hnum]; rfl
    by_cases hlt : q.length < 10
    · have hroom : (q.map encode).length < rb.numElements.toNat := by rwa [List.length_map, hten]
      obtain ⟨rb', hwrite, hrep', hsize', hnum'⟩ :=
        hrep.write hroom ((length_encode cmd).trans (by rw [hsize]; rfl))
      have henqueue : Telegram.enqueue rb cmd = rb' := by rw [Telegram.enqueue, hwrite]
      have hpush : (Fifo.step 10 q (.push cmd)).2 = q ++ [cmd] := by simp [Fifo.step, hlt]
      rw [henqueue, hcap, hpush]
      refine ⟨.inl ⟨?_, hsize'.trans hsize, hnum'.trans hnum⟩, if_pos hrep'.memOk⟩
      rw [List.map_append]
      exact hrep'
    · -- a full buffer takes nothing
      have hfull : rb.full = true := by
        have hle := hrep.length_le
        rw [List.length_map, hten] at hle
        rw [hrep.full_eq, decide_eq_true_iff, List.length_map, hten]
        omega
      have henqueue : Telegram.enqueue rb cmd = rb := by simp [Telegram.enqueue, RbBase.write, hfull]
      have hpush : (Fifo.step 10 q (.push cmd)).2 = q := by simp [Fifo.step, hlt]
      rw [henqueue, hcap, hpush]
      exact ⟨.inl ⟨hrep, hsize, hnum⟩, rfl⟩
  · exact ⟨.inr ⟨rfl, rfl⟩, rfl⟩

/-- Commands are queued in order, as many as there is room for. -/
lemma enqueue_all (h : Holds rb q) :
    Holds (cmds.foldl Telegram.enqueue rb) ((q ++ cmds).take (capacity rb)) := by
  rw [← Fifo.foldl_push h.length_le]
  induction cmds generalizing rb q with
  | nil => exact h
  | cons cmd cmds ih =>
    obtain ⟨hfirst, hcap⟩ := h.enqueue cmd
    have hrest := ih hfirst
    rw [hcap] at hrest
    exact hrest

/-- The oldest command is taken out. -/
lemma getAndClearCommand (h : Holds rb q) :
    (getAndClearCommand rb).1 = q.headD .noCommand ∧ Holds (getAndClearCommand rb).2 q.tail := by
  obtain ⟨hrep, hsize, hnum⟩ | ⟨rfl, rfl⟩ := h
  · obtain ⟨rb', hread, hrep', hsize', hnum'⟩ := hrep.read
    rw [← List.map_tail] at hrep'
    have hholds : Holds rb' q.tail := .inl ⟨hrep', hsize'.trans hsize, hnum'.trans hnum⟩
    cases q with
    | nil => simpa [Telegram.getAndClearCommand, hread] using hholds
    | cons cmd q => simpa [Telegram.getAndClearCommand, hread] using hholds
  · exact ⟨rfl, .inr ⟨rfl, rfl⟩⟩

end Holds

section
variable {R : Rounding} {s : System R} {msg : TBMessage} {ev : Event R} {q : List Command}
  {allocated : Bool} {hist events : List (Event R)}

namespace System

/-! ## One event -/

/-- A query queues no command. -/
lemma pendingCommands_handleQuery : (s.handleQuery msg).pendingCommands = s.pendingCommands := by
  simp only [handleQuery]
  split_ifs
  · rfl
  · split <;> rfl
  · rfl

/-- A callback queues the command that was asked for before. -/
lemma pendingCommands_invoke {callback : Option Callback} :
    (s.invoke callback).pendingCommands = run enqueue s.pendingCommands
      (if callback = some .subrelayConsumers then [s.requestedCommand] else []) := by
  cases callback with
  | none => rfl
  | some callback => cases callback <;> rfl

/-- A reply queues its command, unless it is a refusal. -/
lemma pendingCommands_handleReplies :
    (s.handleReplies msg).pendingCommands = run enqueue s.pendingCommands
      (if startsWith msg.text "Abbrechen" = false ∧ replyCommand msg.text ≠ .noCommand then
        [replyCommand msg.text] else []) := by
  rw [handleReplies]
  split_ifs with hcancel hcommand hcommand <;> simp_all [run]

/-- A message puts the commands that it confirms into the buffer. -/
lemma pendingCommands_handle :
    (s.handle msg).pendingCommands = run enqueue s.pendingCommands (s.confirms msg) := by
  rw [confirms, run_append, ← pendingCommands_invoke, handle]
  cases htype : msg.messageType with
  | query => simpa using pendingCommands_handleQuery
  | reply => simpa using pendingCommands_handleReplies
  | text => simp
  | other => simp

/-- Only real commands are confirmed. -/
lemma ne_noCommand_of_confirms {cmd : Command} (h : cmd ∈ s.confirms msg) : cmd ≠ .noCommand := by
  rcases List.mem_append.mp h with h | h
  · split_ifs at h
    · rw [List.mem_singleton.mp h, requestedCommand]
      split <;> simp
    · cases h
  · split_ifs at h with hreply
    · rw [List.mem_singleton.mp h]
      exact hreply.2.2
    · cases h

/-- No confirmation queues the empty command. -/
lemma ne_noCommand_of_confirmedBy {cmd : Command} (h : cmd ∈ s.confirmedBy ev) :
    cmd ≠ .noCommand := by
  cases ev with
  | switcher ev => cases h
  | telegram msgs =>
    rw [confirmedBy] at h
    generalize msgs.take 10 = msgs at h
    induction msgs using List.reverseRecOn with
    | nil => cases h
    | append_singleton msgs msg ih =>
      rw [outputs_concat] at h
      rcases List.mem_append.mp h with h | h
      · exact ih h
      · exact ne_noCommand_of_confirms h

/-- An event puts what it confirms at the end, as far as there is room, and takes what it returns from
the front. -/
lemma holds_step (ev : Event R) (h : Holds s.pendingCommands q)
    (hreal : ∀ cmd ∈ q, cmd ≠ .noCommand) :
    ∃ q', Holds (s.step ev).pendingCommands q' ∧ (∀ cmd ∈ q', cmd ≠ .noCommand) ∧
      s.returnedBy ev ++ q' = (q ++ s.confirmedBy ev).take (capacity s.pendingCommands) := by
  cases ev with
  | telegram msgs =>
    refine ⟨(q ++ s.confirmedBy (.telegram msgs)).take (capacity s.pendingCommands), ?_, ?_, rfl⟩
    · have hproject : (run handle s (msgs.take 10)).pendingCommands
          = run enqueue s.pendingCommands (s.confirmedBy (.telegram msgs)) :=
        run_project handle confirms System.pendingCommands fun _ _ => pendingCommands_handle
      change Holds (run handle s (msgs.take 10)).pendingCommands _
      rw [hproject]
      exact h.enqueue_all
    · intro cmd hcmd
      rcases List.mem_append.mp (List.mem_of_mem_take hcmd) with hcmd | hcmd
      · exact hreal cmd hcmd
      · exact ne_noCommand_of_confirmedBy hcmd
  | switcher ev =>
    have hkeep : (q ++ s.confirmedBy (.switcher ev)).take (capacity s.pendingCommands) = q := by
      rw [confirmedBy, List.append_nil, List.take_of_length_le h.length_le]
    rw [hkeep]
    cases ev with
    | read r => exact ⟨q, h, hreal, rfl⟩
    | loop call =>
      obtain ⟨hfront, htail⟩ := h.getAndClearCommand
      refine ⟨q.tail, htail, fun cmd hcmd => hreal cmd (List.mem_of_mem_tail hcmd), ?_⟩
      rw [returnedBy, hfront]
      cases q with
      | nil => rfl
      | cons cmd q =>
        have hcmd : cmd ≠ .noCommand := hreal cmd List.mem_cons_self
        simp [hcmd]

end System

/-! ## A run -/

/-- The system after a run from boot. -/
def after (allocated : Bool) (events : List (Event R)) : System R :=
  run System.step (.boot allocated) events

/-- The commands that have been confirmed in a run from boot. -/
def confirmed (allocated : Bool) (events : List (Event R)) : List Command :=
  outputs System.step System.confirmedBy (.boot allocated) events

/-- The commands that `getAndClearCommand` has returned in a run from boot. -/
def returned (allocated : Bool) (events : List (Event R)) : List Command :=
  outputs System.step System.returnedBy (.boot allocated) events

/-- The commands that were returned are the first of those that were confirmed, and the others are
still pending. -/
def InOrder (allocated : Bool) (events : List (Event R)) : Prop :=
  returned allocated events <+: confirmed allocated events ∧
    (confirmed allocated events).length = (returned allocated events).length
      + (after allocated events).pendingCommands.remainingElm.toNat

/-- There is room for every command that the event confirms. -/
def RoomForAll (allocated : Bool) (hist : List (Event R)) (ev : Event R) : Prop :=
  let s := after allocated hist
  s.pendingCommands.remainingElm.toNat + (s.confirmedBy ev).length ≤ capacity s.pendingCommands

lemma after_concat : after allocated (hist ++ [ev]) = (after allocated hist).step ev := run_concat _

lemma confirmed_concat : confirmed allocated (hist ++ [ev])
    = confirmed allocated hist ++ (after allocated hist).confirmedBy ev := outputs_concat _ _

lemma returned_concat : returned allocated (hist ++ [ev])
    = returned allocated hist ++ (after allocated hist).returnedBy ev := outputs_concat _ _

/-- In every run the buffer holds real commands; as long as there is room, they are what was confirmed
and has not been returned. -/
lemma exists_holds (allocated : Bool) (events : List (Event R)) :
    ∃ q, Holds (after allocated events).pendingCommands q ∧ (∀ cmd ∈ q, cmd ≠ .noCommand) ∧
      (EveryStep (RoomForAll allocated) events →
        confirmed allocated events = returned allocated events ++ q) := by
  induction events using List.reverseRecOn with
  | nil => exact ⟨[], holds_new, by simp, fun _ => rfl⟩
  | append_singleton hist ev ih =>
    obtain ⟨q, hq, hreal, heq⟩ := ih
    obtain ⟨q', hq', hreal', hmove⟩ := System.holds_step ev hq hreal
    rw [after_concat]
    refine ⟨q', hq', hreal', fun h => ?_⟩
    obtain ⟨h, hroom⟩ := everyStep_concat.mp h
    have hfits : (q ++ (after allocated hist).confirmedBy ev).length
        ≤ capacity (after allocated hist).pendingCommands := by
      rw [List.length_append, ← hq.remainingElm]
      exact hroom
    rw [List.take_of_length_le hfits] at hmove
    rw [confirmed_concat, returned_concat, heq h, List.append_assoc, List.append_assoc, hmove]

/-- What holds after every event holds at the end. -/
lemma inOrder_of_everyStep (h : EveryStep (fun hist ev => InOrder allocated (hist ++ [ev])) events) :
    InOrder allocated events := by
  induction events using List.reverseRecOn with
  | nil =>
    have hempty : (after allocated ([] : List (Event R))).pendingCommands.remainingElm.toNat = 0 :=
      holds_new.remainingElm
    refine ⟨List.prefix_rfl, ?_⟩
    rw [hempty]
    rfl
  | append_singleton hist ev => exact (everyStep_concat.mp h).2

/-- The switcher receives the confirmed commands in order and none is lost, exactly in the runs in
which there is room for every command that is confirmed. -/
theorem commands_iff :
    EveryStep (fun hist ev => InOrder allocated (hist ++ [ev])) events ↔
      EveryStep (RoomForAll allocated) events := by
  constructor
  · intro h
    refine h.imp fun hist ev h => ?_
    obtain ⟨h, hev⟩ := everyStep_concat.mp h
    obtain ⟨q, hq, hreal, -⟩ := exists_holds allocated hist
    obtain ⟨q', hq', -, hmove⟩ := System.holds_step ev hq hreal
    have hbefore := (inOrder_of_everyStep h).2
    have hafter := hev.2
    rw [confirmed_concat, returned_concat, after_concat, hq'.remainingElm, List.length_append,
      List.length_append, hbefore, hq.remainingElm] at hafter
    -- what the event does not return and the buffer does not hold is lost
    have hlength := congrArg List.length hmove
    rw [List.length_append, List.length_take, List.length_append] at hlength
    rw [RoomForAll, hq.remainingElm]
    omega
  · intro h
    refine h.imp fun hist ev h => ?_
    obtain ⟨q, hq, -, heq⟩ := exists_holds allocated (hist ++ [ev])
    rw [InOrder, heq h, hq.remainingElm, List.length_append]
    exact ⟨List.prefix_append _ _, rfl⟩

end

/-! ## Eleven commands -/

/-- The button for the consumers is pressed ten times, and a heater power is chosen. -/
def busyChat : List TBMessage :=
  .replicate 10 ⟨.query, "", "RelayConsumers", some .subrelayConsumers⟩

/-- A heater power is chosen. -/
def heaterReply (text : String) : TBMessage := { messageType := .reply, text }

/-- The switcher fetches a command. -/
def fetch (time : ℕ) : Event .binary32 := .switcher (.loop (.brief .noCommand time ⟨true, [0x2E, 0xE0]⟩))

/-- The eleventh command comes before the switcher has fetched one; one more is chosen later. -/
def crowdedRun : List (Event .binary32) :=
  [.telegram busyChat, .telegram [heaterReply "💧 5W"], fetch 1000,
    .telegram [heaterReply "🔥 15W"]] ++ (List.range 10).map fun n => fetch (2000 + 1000 * n)

/-- A full queue refuses a confirmed command, and the next one is returned. -/
theorem commands_lost : ¬ returned true crowdedRun <+: confirmed true crowdedRun := by
  decide +kernel

end AstroPowerBox.Telegram
