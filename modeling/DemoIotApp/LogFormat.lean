import DemoIotApp.Library.CString
import DemoIotApp.Library.Lines
import DemoIotApp.Library.Printf
import DemoIotApp.Platform

/-!
# `custom_log_format.c`: the lines of the log

Every entry becomes one line of fixed-width fields, and behind them the text that the client
wrote. Nothing keeps a newline out of that text.
-/

namespace DemoIotApp

open Library

structure LogTime where
  hour : ℕ
  min : ℕ
  sec : ℕ

structure EmitterMetadata where
  filteringLevel : ℕ

structure ConsumerMetadata where
  id : ℕ
  name : CStr
  timestamp : ℕ
  filteringLevel : ℕ

/-- `OS_LoggerEntry_t` -/
structure LogEntry where
  emitterMetadata : EmitterMetadata
  consumerMetadata : ConsumerMetadata
  msg : CStr

/-- `OS_LoggerFormat_Handle_t`: the string in the buffer. -/
structure LogFormat where
  buffer : List UInt8

/-- What the logger library decides: the lengths, the clock and an error code. -/
structure LoggerLib where
  idLength : ℕ
  nameLength : ℕ
  logLevelLength : ℕ
  entryMessageLength : ℕ
  idLength_pos : 0 < idLength
  nameLength_pos : 0 < nameLength
  logLevelLength_pos : 0 < logLevelLength
  /-- `OS_LoggerTimestamp_getTime`, for a timestamp and a time zone. -/
  getTime : ℕ → ℕ → LogTime
  errorInvalidParameter : ℤ

namespace LoggerLib

variable (L : LoggerLib)

/-- The line up to the blank before the message: `"%.*u %-*s %02d:%02d:%02d %*u %*u "`. -/
def lineHead (entry : LogEntry) : List UInt8 :=
  let tm := L.getTime entry.consumerMetadata.timestamp 0
  zeroPadded L.idLength entry.consumerMetadata.id ++ [32] ++
    padRight L.nameLength entry.consumerMetadata.name.chars ++ [32] ++
      zeroPadded 2 tm.hour ++ [58] ++ zeroPadded 2 tm.min ++ [58] ++ zeroPadded 2 tm.sec ++ [32] ++
        padLeft L.logLevelLength (decimal entry.emitterMetadata.filteringLevel) ++ [32] ++
          padLeft L.logLevelLength (decimal entry.consumerMetadata.filteringLevel) ++ [32]

/-- `msg_len` -/
def msgLen (entry : LogEntry) : ℕ :=
  let msgLen := entry.msg.chars.length
  if msgLen > L.entryMessageLength then L.entryMessageLength else msgLen

/-- `"%.*s"` -/
def printedMsg (entry : LogEntry) : List UInt8 := entry.msg.chars.take (L.msgLen entry)

/-- `_Log_format_convert` -/
def logFormatConvert (self : LogFormat) (entry : Option LogEntry) : ℤ × LogFormat :=
  match entry with
  | none => (L.errorInvalidParameter, self)
  | some entry =>
      (osSuccess, { self with buffer := L.lineHead entry ++ L.printedMsg entry ++ [10] })

/-- The log after the entries were converted and printed one by one. -/
def logText (self : LogFormat) : List LogEntry → List UInt8
  | [] => []
  | entry :: entries =>
      let (_, self) := L.logFormatConvert self (some entry)
      self.buffer ++ logText self entries

/-- What a reader of the log wants to know of an entry. -/
def view (entry : LogEntry) : ℕ × List UInt8 :=
  (entry.consumerMetadata.id, entry.msg.chars.take L.entryMessageLength)

/-- The logger fills in the fields so that every one fits in its width. -/
structure WellFormed (entry : LogEntry) : Prop where
  id_lt : entry.consumerMetadata.id < 10 ^ L.idLength
  length_name : entry.consumerMetadata.name.chars.length ≤ L.nameLength
  newline_notMem_name : 10 ∉ entry.consumerMetadata.name.chars
  hour_lt : (L.getTime entry.consumerMetadata.timestamp 0).hour < 10 ^ 2
  min_lt : (L.getTime entry.consumerMetadata.timestamp 0).min < 10 ^ 2
  sec_lt : (L.getTime entry.consumerMetadata.timestamp 0).sec < 10 ^ 2
  emitterLevel_lt : entry.emitterMetadata.filteringLevel < 10 ^ L.logLevelLength
  consumerLevel_lt : entry.consumerMetadata.filteringLevel < 10 ^ L.logLevelLength

def headWidth : ℕ := L.idLength + L.nameLength + 2 * L.logLevelLength + 13

variable {L}

/-! ## The head of a line -/

theorem printedMsg_eq_take (entry : LogEntry) :
    L.printedMsg entry = entry.msg.chars.take L.entryMessageLength := by
  rw [printedMsg, msgLen]
  split_ifs with hlen
  · rfl
  · rw [List.take_length, List.take_of_length_le (not_lt.mp hlen)]

theorem WellFormed.length_level {n : ℕ} (h : n < 10 ^ L.logLevelLength) :
    (padLeft L.logLevelLength (decimal n)).length = L.logLevelLength :=
  length_padLeft (length_decimal_le L.logLevelLength_pos h)

theorem WellFormed.length_lineHead {entry : LogEntry} (h : L.WellFormed entry) :
    (L.lineHead entry).length = L.headWidth := by
  simp only [lineHead, List.length_append, List.length_singleton, length_zeroPadded h.id_lt,
    length_padRight h.length_name, length_zeroPadded h.hour_lt, length_zeroPadded h.min_lt,
    length_zeroPadded h.sec_lt, WellFormed.length_level h.emitterLevel_lt,
    WellFormed.length_level h.consumerLevel_lt, headWidth]
  omega

theorem newline_notMem_zeroPadded (precision n : ℕ) : 10 ∉ zeroPadded precision n :=
  fun h ↦ absurd (le_of_mem_zeroPadded h) (by decide)

theorem newline_notMem_padLeft (width n : ℕ) : 10 ∉ padLeft width (decimal n) := by
  intro h
  rcases mem_padLeft h with h | h
  · exact absurd h (by decide)
  · exact newline_notMem_zeroPadded 1 n h

theorem WellFormed.newline_notMem_lineHead {entry : LogEntry} (h : L.WellFormed entry) :
    10 ∉ L.lineHead entry := by
  have hname : 10 ∉ padRight L.nameLength entry.consumerMetadata.name.chars := by
    intro hmem
    rcases mem_padRight hmem with hmem | hmem
    · exact absurd hmem (by decide)
    · exact h.newline_notMem_name hmem
  simp [lineHead, hname, newline_notMem_zeroPadded, newline_notMem_padLeft]

theorem WellFormed.ofDecimal_lineHead {entry : LogEntry} (h : L.WellFormed entry) :
    ofDecimal ((L.lineHead entry).take L.idLength) = entry.consumerMetadata.id := by
  have hid : (L.lineHead entry).take L.idLength =
      zeroPadded L.idLength entry.consumerMetadata.id := by
    simp only [lineHead, List.append_assoc]
    exact List.take_left' (length_zeroPadded h.id_lt)
  rw [hid, ofDecimal_zeroPadded]

/-! ## Reading the log back -/

variable (L) in
/-- The lines of well-formed entries. -/
def lineFormat : LineFormat UInt8 where
  separator := 10
  width := L.headWidth
  IsHead head := ∃ entry, L.WellFormed entry ∧ L.lineHead entry = head
  length_head := by
    rintro _ ⟨entry, h, rfl⟩
    exact h.length_lineHead
  separator_notMem := by
    rintro _ ⟨entry, h, rfl⟩
    exact h.newline_notMem_lineHead

variable (L) in
def line (entry : LogEntry) : List UInt8 × List UInt8 := (L.lineHead entry, L.printedMsg entry)

variable (L) in
/-- The entry that a line shows. -/
def readLine (line : List UInt8 × List UInt8) : ℕ × List UInt8 :=
  (ofDecimal (line.1.take L.idLength), line.2)

theorem logText_eq_text (self : LogFormat) (entries : List LogEntry) :
    L.logText self entries = L.lineFormat.text (entries.map L.line) := by
  induction entries generalizing self with
  | nil => rfl
  | cons entry entries ih =>
      simp [logText, logFormatConvert, ih, LineFormat.text_cons, line, lineFormat]

theorem WellFormed.readLine_line {entry : LogEntry} (h : L.WellFormed entry) :
    L.readLine (L.line entry) = L.view entry := by
  rw [readLine, line, h.ofDecimal_lineHead, printedMsg_eq_take, view]

theorem WellFormed.plain_line {entry : LogEntry} (h : L.WellFormed entry)
    (hmsg : ¬L.lineFormat.Embeds (L.printedMsg entry)) : L.lineFormat.Plain (L.line entry) where
  head := ⟨entry, h, rfl⟩
  body := hmsg

/-- The log tells who wrote what as long as no message goes on, behind a newline, as the line
of an entry begins. -/
theorem logText_determines_entries (self self' : LogFormat) {entries entries' : List LogEntry}
    (h : ∀ entry ∈ entries, L.WellFormed entry) (h' : ∀ entry ∈ entries', L.WellFormed entry)
    (hmsg : ∀ entry ∈ entries, ¬L.lineFormat.Embeds (L.printedMsg entry))
    (hmsg' : ∀ entry ∈ entries', ¬L.lineFormat.Embeds (L.printedMsg entry))
    (htext : L.logText self entries = L.logText self' entries') :
    entries.map L.view = entries'.map L.view := by
  rw [logText_eq_text, logText_eq_text] at htext
  have hlines : entries.map L.line = entries'.map L.line := by
    refine LineFormat.text_injective ?_ ?_ htext
    · exact List.forall_mem_map.mpr fun entry hmem ↦ (h entry hmem).plain_line (hmsg entry hmem)
    · exact List.forall_mem_map.mpr fun entry hmem ↦ (h' entry hmem).plain_line (hmsg' entry hmem)
  calc entries.map L.view = (entries.map L.line).map L.readLine := by
        rw [List.map_map]
        exact List.map_congr_left fun entry hmem ↦ (h entry hmem).readLine_line.symm
    _ = (entries'.map L.line).map L.readLine := by rw [hlines]
    _ = entries'.map L.view := by
        rw [List.map_map]
        exact List.map_congr_left fun entry hmem ↦ (h' entry hmem).readLine_line

/-- A logger with a message buffer that holds more than the head of a line. -/
def smallLogger : LoggerLib where
  idLength := 2
  nameLength := 6
  logLevelLength := 1
  entryMessageLength := 40
  idLength_pos := by decide
  nameLength_pos := by decide
  logLevelLength_pos := by decide
  getTime timestamp timeZone :=
    ⟨(timestamp / 3600 + timeZone) % 24, timestamp / 60 % 60, timestamp % 60⟩
  errorInvalidParameter := -1

def sensorEntry (msg : CStr) : LogEntry where
  emitterMetadata := ⟨4⟩
  consumerMetadata := ⟨3, ⟨asciiBytes "SENSOR", by decide⟩, 3661, 4⟩
  msg := msg

def cloudEntry (msg : CStr) : LogEntry where
  emitterMetadata := ⟨2⟩
  consumerMetadata := ⟨2, ⟨asciiBytes "CLOUD", by decide⟩, 3662, 2⟩
  msg := msg

theorem wellFormed_sensorEntry (msg : CStr) : smallLogger.WellFormed (sensorEntry msg) := by
  constructor <;> dsimp only [sensorEntry] <;> decide

theorem wellFormed_cloudEntry (msg : CStr) : smallLogger.WellFormed (cloudEntry msg) := by
  constructor <;> dsimp only [cloudEntry] <;> decide

theorem logText_determines_sensorEntry :
    [sensorEntry ⟨List.replicate 41 97, by decide⟩].map smallLogger.view =
      [sensorEntry ⟨List.replicate 40 97 ++ [98], by decide⟩].map smallLogger.view := by
  refine logText_determines_entries ⟨[]⟩ ⟨[]⟩ ?_ ?_ ?_ ?_ ?_
  · exact List.forall_mem_singleton.mpr (wellFormed_sensorEntry _)
  · exact List.forall_mem_singleton.mpr (wellFormed_sensorEntry _)
  · exact List.forall_mem_singleton.mpr (LineFormat.not_embeds_of_notMem (by decide))
  · exact List.forall_mem_singleton.mpr (LineFormat.not_embeds_of_notMem (by decide))
  · rw [logText_eq_text, logText_eq_text]
    decide

/-- The sensor writes a line of the cloud connector. -/
theorem logText_forged :
    let entries := [sensorEntry ⟨asciiBytes "ok\n02 CLOUD  01:01:02 2 2 bye", by decide⟩]
    let entries' :=
      [sensorEntry ⟨asciiBytes "ok", by decide⟩, cloudEntry ⟨asciiBytes "bye", by decide⟩]
    (∀ entry ∈ entries ++ entries', smallLogger.WellFormed entry) ∧
      smallLogger.headWidth < smallLogger.entryMessageLength ∧
      (∀ self, smallLogger.logText self entries = smallLogger.logText self entries') ∧
      entries.map smallLogger.view ≠ entries'.map smallLogger.view := by
  intro entries entries'
  refine ⟨?_, by decide, fun self ↦ ?_, by decide⟩
  · simp only [entries, entries', List.cons_append, List.nil_append, List.forall_mem_cons]
    exact ⟨wellFormed_sensorEntry _, wellFormed_sensorEntry _, wellFormed_cloudEntry _, by simp⟩
  · rw [logText_eq_text, logText_eq_text]
    decide

/-- Otherwise the text is also that of the entry cut at the newline, followed by an entry that
nobody wrote. -/
theorem WellFormed.exists_forged {entry : LogEntry} (h : L.WellFormed entry)
    (hmsg : L.lineFormat.Embeds (L.printedMsg entry)) :
    ∃ cut forged, L.WellFormed cut ∧ L.WellFormed forged ∧
      ∀ self, L.logText self [entry] = L.logText self [cut, forged] := by
  obtain ⟨before, head, after, ⟨other, hother, rfl⟩, hprinted⟩ := hmsg
  rw [printedMsg_eq_take] at hprinted
  have hmem : ∀ c ∈ before ++ L.lineFormat.separator :: (L.lineHead other ++ after),
      c ∈ entry.msg.chars := fun c hc ↦ List.mem_of_mem_take (hprinted ▸ hc)
  have hlen := List.length_take_le L.entryMessageLength entry.msg.chars
  rw [hprinted, List.length_append, List.length_cons, List.length_append] at hlen
  let cut : LogEntry := { entry with
    msg := ⟨before, fun hzero ↦ entry.msg.zero_notMem (hmem 0 (by simp [hzero]))⟩ }
  let forged : LogEntry := { other with
    msg := ⟨after, fun hzero ↦ entry.msg.zero_notMem (hmem 0 (by simp [hzero]))⟩ }
  have hcut : L.line cut = (L.lineHead entry, before) := by
    rw [line, printedMsg_eq_take, List.take_of_length_le (by dsimp only [cut]; omega)]
    rfl
  have hforged : L.line forged = (L.lineHead other, after) := by
    rw [line, printedMsg_eq_take, List.take_of_length_le (by dsimp only [forged]; omega)]
    rfl
  refine ⟨cut, forged, { h with }, { hother with }, fun self ↦ ?_⟩
  rw [logText_eq_text, logText_eq_text, List.map_cons, List.map_cons, hcut, List.map_cons, hforged,
    line, printedMsg_eq_take, hprinted]
  exact LineFormat.text_embedded _ _ _ _

end LoggerLib

end DemoIotApp
