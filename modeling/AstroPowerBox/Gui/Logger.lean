import AstroPowerBox.Foundation.Csv
import AstroPowerBox.Foundation.Decimal
import AstroPowerBox.Foundation.Run
import AstroPowerBox.Gui.EspComm

/-!
# The log file

Source `src/gui/AstroBoxGUI/logger/logger.cpp`. A row is written with a line end before it and none
after it, and `Qt::endl` flushes the stream: so the file always lags one row behind, and the last row
gets there only when the program is closed. A program that is killed takes it along.

`log_for_life` says what the file holds after any sessions of the program. The stream does what Qt
documents of `QTextStream`; what Qt makes of dates and numbers is a parameter (`Formats`). Left out are
write errors of an open file.
-/

namespace AstroPowerBox.Gui
open Foundation

/-- A row of the file. -/
abbrev Row := List (Cell ';')

/-- What the stream and `QDateTime::toString` make of the values in a row. -/
structure Formats (R : Rounding) (δ : Type) where
  date : δ → Cell ';'
  clock : δ → Cell ';'
  float : Rounded R → Cell ';'

/-- The text of a column name. -/
def columnName (text : String) (h : ';' ∉ text.toList ∧ '\n' ∉ text.toList := by decide) :
    Cell ';' :=
  ⟨text.toList, h.1, h.2⟩

/-- The names of the columns. -/
def header : Row :=
  [columnName "Date", columnName "Time", columnName "Controller", columnName "Battery Voltage",
    columnName "Battery Current"]

/-- `QString::number`, as Qt documents it: the decimal digits. -/
def number (n : UInt32) : Cell ';' where
  text := Decimal.padded 0 n.toNat
  sep_notMem h := absurd (Decimal.isDigit_of_mem_padded h) (by decide)
  newline_notMem h := absurd (Decimal.isDigit_of_mem_padded h) (by decide)

section
variable {R : Rounding} {δ : Type}

def Formats.row (fmt : Formats R δ) (now : δ) (entry : LogEntry R) : Row :=
  [fmt.date now, fmt.clock now, number entry.controllerTime, fmt.float entry.voltage,
    fmt.float entry.current]

end

/-- Source `logger`: whether the file could be opened, what it holds, and what is still in the
stream. -/
structure Logger where
  opened : Bool
  file : List Char
  stream : List Char := []

namespace Logger

/-- `QTextStream::flush`, as Qt documents it: the device is given what is still in the stream. One that
is not open takes nothing. -/
def flush (s : Logger) : Logger :=
  { s with file := if s.opened then s.file ++ s.stream else s.file, stream := [] }

def write (s : Logger) (text : List Char) : Logger := { s with stream := s.stream ++ text }

/-- `Qt::endl`, as Qt documents it: a line end, and the stream is flushed. -/
def endl (s : Logger) : Logger := (s.write ['\n']).flush

/-- Source `logger::append`. -/
def append (s : Logger) (row : Row) : Logger :=
  let s := if s.file.length = 0 then s.write (line header) else s
  s.endl.write (line row)

end Logger

/-! ## Sessions of the program -/

/-- A session of the program: whether the file could be opened, the datagrams with the time of their
arrival, and whether the program was closed at the end, or killed. -/
structure PcSession (δ : Type) where
  opened : Bool
  arrivals : List (δ × Datagram)
  closed : Bool

section
variable {R : Rounding} {δ : Type} (fmt : Formats R δ) (isAstroMiniPc : Bool)

/-- The program, with its logger. -/
structure PcProgram (R : Rounding) where
  comm : EspComm R := {}
  logger : Logger

/-- A datagram arrives: what `_parseRxData` gives to the logger is appended to the file. -/
def PcProgram.receive (s : PcProgram R) (a : δ × Datagram) : PcProgram R :=
  let comm := s.comm.parseRxData isAstroMiniPc a.2
  let entries := comm.log.drop s.comm.log.length
  { comm, logger := run Logger.append s.logger (entries.map (fmt.row a.1)) }

/-- The program at the end of the session. -/
def PcSession.run (file : List Char) (session : PcSession δ) : PcProgram R :=
  Foundation.run (PcProgram.receive fmt isAstroMiniPc)
    { logger := { opened := session.opened, file } } session.arrivals

/-- What the session leaves of the file; only the destructor of the logger flushes the last row. -/
def PcSession.leave (file : List Char) (session : PcSession δ) : List Char :=
  let s := (session.run fmt isAstroMiniPc file).logger
  if session.closed then s.flush.file else s.file

/-- The rows of a session. -/
def PcSession.rows (session : PcSession δ) : List Row :=
  session.arrivals.flatMap fun a =>
    (EspComm.parseRxData {} isAstroMiniPc a.2).log.map (fmt.row a.1)

/-- The rows that get into the file. -/
def PcSession.kept (session : PcSession δ) : List Row :=
  let rows := session.rows fmt isAstroMiniPc
  if session.opened then if session.closed then rows else rows.dropLast else []

end

/-! ## Rows of one session -/

/-- The records of a file to which something has been written. -/
def started (file : List Char) : List (List (List Char)) :=
  if file.length = 0 then [cellTexts header] else records ';' file

section
variable {old : List Char} {rows : List Row} {row : Row} {s : Logger}

/-- A row is one record. -/
lemma records_row (h : 2 ≤ row.length) : records ';' (line row) = [cellTexts row] :=
  records_line (by decide) h

lemma records_header : records ';' (line header) = [cellTexts header] := records_row (by decide)

/-- A row stays in the stream; what was there, and the line end, get into the file. -/
lemma append_of_opened (h : s.opened = true) : s.append row =
    { opened := true
      file := (s.file ++ s.stream ++ if s.file.length = 0 then line header else []) ++ ['\n']
      stream := line row } := by
  rw [Logger.append]
  split_ifs <;> simp [Logger.endl, Logger.write, Logger.flush, h]

/-- Without a file nothing is written. -/
lemma append_of_not_opened (h : s.opened = false) (row : Row) :
    (s.append row).opened = false ∧ (s.append row).file = s.file := by
  rw [Logger.append]
  split_ifs <;> simp [Logger.endl, Logger.write, Logger.flush, h]

/-- After some rows the file lags one row behind. -/
structure Lags (old : List Char) (pre : List Row) (row : Row) (s : Logger) : Prop where
  opened : s.opened = true
  stream : s.stream = line row
  file : ∃ text, s.file = text ++ ['\n'] ∧ records ';' text = started old ++ pre.map cellTexts

/-- The first row stays in the stream. -/
lemma lags_append : Lags old [] row (Logger.append { opened := true, file := old } row) := by
  rw [append_of_opened rfl]
  refine ⟨rfl, rfl, _, rfl, ?_⟩
  rw [started, List.map_nil, List.append_nil, List.append_nil]
  split_ifs with hempty
  · rw [List.length_eq_zero_iff.mp hempty, List.nil_append, records_header]
  · rw [List.append_nil]

/-- The row before gets into the file, where it ends a line. -/
lemma Lags.append {pre : List Row} {prev : Row} (h : Lags old pre prev s)
    (hprev : 2 ≤ prev.length) : Lags old (pre ++ [prev]) row (s.append row) := by
  obtain ⟨text, hfile, hrecords⟩ := h.file
  have hne : s.file.length ≠ 0 := by simp [hfile]
  rw [append_of_opened h.opened]
  refine ⟨rfl, rfl, _, rfl, ?_⟩
  rw [if_neg hne, List.append_nil, h.stream, hfile, List.append_assoc, List.singleton_append,
    records_newline, hrecords, records_row hprev, List.map_append, List.append_assoc]
  rfl

/-- After every row the file lags one behind, by induction on the rows. -/
lemma lags_run (old : List Char) (hrows : ∀ r ∈ rows, 2 ≤ r.length) (hrow : 2 ≤ row.length) :
    Lags old rows row (run Logger.append { opened := true, file := old } (rows ++ [row])) := by
  induction rows using List.reverseRecOn generalizing row with
  | nil => exact lags_append
  | append_singleton rows prev ih =>
    have hprev : 2 ≤ prev.length := hrows prev (by simp)
    rw [run_concat]
    exact (ih (fun r hr => hrows r (List.mem_append_left _ hr)) hprev).append hprev

/-- If the program is killed, the file has all rows but the last. -/
lemma Lags.killed {pre : List Row} (h : Lags old pre row s) :
    records ';' s.file = started old ++ pre.map cellTexts ∧ s.file.length ≠ 0 := by
  obtain ⟨text, hfile, hrecords⟩ := h.file
  rw [hfile, records_ended]
  exact ⟨hrecords, by simp⟩

/-- If it is closed, the file has them all. -/
lemma Lags.closed {pre : List Row} (h : Lags old pre row s) (hrow : 2 ≤ row.length) :
    records ';' s.flush.file = started old ++ (pre ++ [row]).map cellTexts ∧
      s.flush.file.length ≠ 0 := by
  obtain ⟨text, hfile, hrecords⟩ := h.file
  have hflush : s.flush.file = text ++ '\n' :: line row := by
    simp [Logger.flush, h.opened, hfile, h.stream]
  rw [hflush, records_newline, hrecords, records_row hrow, List.map_append, List.append_assoc]
  exact ⟨rfl, by simp⟩

/-- Without a file no row is written. -/
lemma file_run_of_not_opened (h : s.opened = false) (rows : List Row) :
    (run Logger.append s rows).opened = false ∧ (run Logger.append s rows).file = s.file := by
  let I (s' : Logger) : Prop := s'.opened = false ∧ s'.file = s.file
  refine run_invariant _ (I := I) ⟨h, rfl⟩ ?_ rows
  rintro s' row ⟨hopened, hfile⟩
  obtain ⟨hstill, hkept⟩ := append_of_not_opened hopened row
  exact ⟨hstill, hkept.trans hfile⟩

end

/-! ## One session -/

section
variable {R : Rounding} {δ : Type} {fmt : Formats R δ} {isAstroMiniPc : Bool}
  {session : PcSession δ} {file : List Char}

/-- The log only grows, by what the datagram gives on its own. -/
lemma log_parseRxData {s : EspComm R} {rx : Datagram} :
    (s.parseRxData isAstroMiniPc rx).log
      = s.log ++ (EspComm.parseRxData {} isAstroMiniPc rx : EspComm R).log := by
  have hdoc : ∀ jObj, (s.logDocument jObj).log
      = s.log ++ (EspComm.logDocument {} jObj : EspComm R).log := by
    intro jObj
    simp only [EspComm.logDocument]
    split_ifs <;> simp [EspComm.append]
  rw [EspComm.parseRxData, EspComm.parseRxData]
  split_ifs
  · cases rx.doc with
    | none => simp
    | some jObj =>
      dsimp only
      split_ifs <;> exact hdoc jObj
  · simp

/-- The logger is given the rows of the session. -/
lemma logger_run : (session.run fmt isAstroMiniPc file).logger
    = run Logger.append { opened := session.opened, file } (session.rows fmt isAstroMiniPc) := by
  rw [PcSession.run, PcSession.rows]
  induction session.arrivals using List.reverseRecOn with
  | nil => rfl
  | append_singleton arrivals a ih =>
    rw [run_concat, List.flatMap_append, run_append, ← ih, PcProgram.receive, log_parseRxData,
      List.drop_left]
    simp

/-- Every row has more than one cell. -/
lemma two_le_length_of_mem_rows {row : Row} (h : row ∈ session.rows fmt isAstroMiniPc) :
    2 ≤ row.length := by
  obtain ⟨a, -, hrow⟩ := List.mem_flatMap.mp h
  obtain ⟨entry, -, rfl⟩ := List.mem_map.mp hrow
  exact (by decide : 2 ≤ 5)

/-- The session writes to the file. -/
def PcSession.Writes (fmt : Formats R δ) (isAstroMiniPc : Bool) (session : PcSession δ) : Prop :=
  session.opened = true ∧ session.rows fmt isAstroMiniPc ≠ []

/-- A session that writes nothing leaves the file as it is. -/
lemma leave_of_not_writes (file : List Char) (h : ¬ session.Writes fmt isAstroMiniPc) :
    session.leave fmt isAstroMiniPc file = file ∧ session.kept fmt isAstroMiniPc = [] := by
  rw [PcSession.leave, PcSession.kept, logger_run]
  cases hopened : session.opened with
  | false =>
    obtain ⟨hstill, hfile⟩ := file_run_of_not_opened (s := { opened := false, file }) rfl
      (session.rows fmt isAstroMiniPc)
    exact ⟨by simp [Logger.flush, hstill, hfile], by simp⟩
  | true =>
    have hnone : session.rows fmt isAstroMiniPc = [] := by
      by_contra hsome
      exact h ⟨hopened, hsome⟩
    exact ⟨by simp [hnone, Logger.flush], by simp [hnone]⟩

/-- A session that writes leaves what it keeps behind what was there. -/
lemma records_leave (file : List Char) (h : session.Writes fmt isAstroMiniPc) :
    records ';' (session.leave fmt isAstroMiniPc file)
        = started file ++ (session.kept fmt isAstroMiniPc).map cellTexts ∧
      (session.leave fmt isAstroMiniPc file).length ≠ 0 := by
  obtain ⟨hopened, hsome⟩ := h
  have hlength : ∀ row ∈ session.rows fmt isAstroMiniPc, 2 ≤ row.length :=
    fun row => two_le_length_of_mem_rows
  obtain ⟨pre, row, hrows⟩ := List.eq_nil_or_concat' _ |>.resolve_left hsome
  rw [hrows] at hlength
  have hrow : 2 ≤ row.length := hlength row (by simp)
  have hlags := lags_run file (fun r hr => hlength r (List.mem_append_left _ hr)) hrow
  rw [PcSession.leave, PcSession.kept, logger_run, hrows, hopened]
  cases session.closed with
  | true => simpa using hlags.closed hrow
  | false => simpa using hlags.killed

end

/-! ## Session after session -/

/-- After any sessions of the program, of which some were killed: the file that the program found, or
a line with the names of the columns if it was empty, and then the entries that `_parseRxData` has made
of the datagrams, in order, except for the last one of each session that was killed. -/
theorem log_for_life {R : Rounding} {δ : Type} (fmt : Formats R δ) (isAstroMiniPc : Bool)
    (old : List Char) (sessions : List (PcSession δ)) :
    let file := run (fun file session => session.leave fmt isAstroMiniPc file) old sessions
    records ';' file = (if file.length = 0 then [] else started old) ++
        (sessions.flatMap (PcSession.kept fmt isAstroMiniPc)).map cellTexts ∧
      (file.length = 0 ↔
        old.length = 0 ∧ ∀ session ∈ sessions, ¬ session.Writes fmt isAstroMiniPc) := by
  induction sessions using List.reverseRecOn with
  | nil =>
    refine ⟨?_, by simp⟩
    rw [run_nil, started]
    split_ifs with hempty
    · rw [List.length_eq_zero_iff.mp hempty, records_nil]
      rfl
    · exact (List.append_nil _).symm
  | append_singleton sessions session ih =>
    obtain ⟨hrecords, hempty⟩ := ih
    rw [run_concat, List.flatMap_append, List.flatMap_singleton, List.map_append]
    set file := run (fun file session => session.leave fmt isAstroMiniPc file) old sessions
    by_cases hwrites : session.Writes fmt isAstroMiniPc
    · obtain ⟨hleave, hne⟩ := records_leave file hwrites
      refine ⟨?_, ⟨fun h => absurd h hne, fun h => absurd hwrites (h.2 session (by simp))⟩⟩
      rw [hleave, if_neg hne, ← List.append_assoc]
      congr 1
      rw [started]
      split_ifs with hfile
      · -- nothing has been written so far
        rw [List.length_eq_zero_iff.mp hfile, records_nil, List.length_nil, if_pos rfl] at hrecords
        rw [started, if_pos (hempty.mp hfile).1]
        exact (congrArg _ hrecords)
      · rw [hrecords, if_neg hfile]
    · obtain ⟨hleave, hkept⟩ := leave_of_not_writes file hwrites
      refine ⟨?_, ?_⟩
      · rw [hleave, hkept, List.map_nil, List.append_nil]
        exact hrecords
      · rw [hleave, hempty]
        simp [hwrites, or_imp, forall_and]

end AstroPowerBox.Gui
