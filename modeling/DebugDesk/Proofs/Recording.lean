/-
  A recording reads back line by line.

  A line of a recording holds nothing, or a batch, or it offends (`Holds`, `Offends`), and a carriage
  return at its end makes no difference to that.  So it does not matter that the walk over the bytes
  leaves carriage returns where the lines of a file have none (`readFrom_linesBehind`).

  What is read depends on the first line that offends, or on all lines if none does, and these two
  cases are all there is (`all_hold_or_first_offends`).  In the first the error is that of the line,
  with its number among all lines, blank ones included; in the second the batches are those that the
  lines hold, in order.

  A file into which batches were written, each on a line of its own, is of the second kind
  (`Written.exists_lines`).  For this, the print of a batch must be one line whatever its texts are,
  and no blank one, however many blanks they are made of.
-/
import DebugDesk.Proofs.Json.Line
import DebugDesk.Proofs.Json.Wire
import DebugDesk.Proofs.Recording.Lines
import DebugDesk.Sample
import Mathlib.Data.List.ReduceOption

namespace DebugDesk

namespace Recording

/-! ## What a line holds -/

/-- **What a line of a recording holds**: nothing if it is blank, or the batch that its text is
    decoded to. -/
inductive Holds (line : List UInt8) : Option Batch → Prop where
  | nothing {text : String} (isText : textOf? line = some text)
    (blank : ∀ c ∈ text.toList, Text.isBlank c = true) : Holds line none
  | batch {text : String} {b : Batch} (isText : textOf? line = some text)
    (visible : ∃ c ∈ text.toList, Text.isBlank c = false)
    (decoded : Json.decode? Batch.ofJson? text = some b) : Holds line (some b)

/-- **Why a line cannot be read**: it is no text, or its text is neither blank nor decoded to a
    batch. -/
inductive Offends (origin : String) (number : Nat) (line : List UInt8) : RecordingError → Prop where
  | noText (isNoText : textOf? line = none) :
    Offends origin number line (.unreadable "stream did not contain valid UTF-8")
  | noBatch {text : String} (isText : textOf? line = some text)
    (visible : ∃ c ∈ text.toList, Text.isBlank c = false)
    (undecoded : Json.decode? Batch.ofJson? text = none) :
    Offends origin number line (.invalidBatch origin number)

theorem isBlankLine_of_blank {text : String} (h : ∀ c ∈ text.toList, Text.isBlank c = true) :
    isBlankLine text = true := List.all_eq_true.mpr h

theorem not_isBlankLine_of_visible {text : String}
    (h : ∃ c ∈ text.toList, Text.isBlank c = false) : ¬ isBlankLine text = true := by
  obtain ⟨c, hc, hvisible⟩ := h
  intro hblank
  rw [List.all_eq_true.mp hblank c hc] at hvisible
  nomatch hvisible

theorem blank_or_visible (text : String) :
    (∀ c ∈ text.toList, Text.isBlank c = true) ∨ ∃ c ∈ text.toList, Text.isBlank c = false := by
  cases hall : text.toList.all Text.isBlank with
  | true => exact .inl (List.all_eq_true.mp hall)
  | false =>
    obtain ⟨c, hc, hvisible⟩ := List.all_eq_false.mp hall
    exact .inr ⟨c, hc, Bool.eq_false_iff.mpr hvisible⟩

/-- A line holds something or nothing, or it offends. -/
theorem holds_or_offends (origin : String) (number : Nat) (line : List UInt8) :
    (∃ held, Holds line held) ∨ ∃ e, Offends origin number line e := by
  cases htext : textOf? line with
  | none => exact .inr ⟨_, .noText htext⟩
  | some text =>
    rcases blank_or_visible text with hblank | hvisible
    · exact .inl ⟨none, .nothing htext hblank⟩
    · cases hdecoded : Json.decode? Batch.ofJson? text with
      | none => exact .inr ⟨_, .noBatch htext hvisible hdecoded⟩
      | some b => exact .inl ⟨some b, .batch htext hvisible hdecoded⟩

variable {origin : String} {line : List UInt8} {lines : List (List UInt8)}

theorem readFrom_of_holds {held : Option Batch} (h : Holds line held) (number : Nat)
    (lines : List (List UInt8)) :
    readFrom origin number (line :: lines) =
      (readFrom origin (number + 1) lines).map (held.toList ++ ·) := by
  rw [readFrom]
  cases h with
  | nothing isText blank =>
    simp only [isText, if_pos (isBlankLine_of_blank blank)]
    cases readFrom origin (number + 1) lines <;> rfl
  | batch isText visible decoded =>
    have hread : Batch.read? _ = some _ := decoded
    simp only [isText, if_neg (not_isBlankLine_of_visible visible), hread]
    rfl

theorem readFrom_of_offends {number : Nat} {e : RecordingError}
    (h : Offends origin number line e) (lines : List (List UInt8)) :
    readFrom origin number (line :: lines) = .error e := by
  rw [readFrom]
  cases h with
  | noText isNoText => simp only [isNoText]
  | noBatch isText visible undecoded =>
    have hread : Batch.read? _ = none := undecoded
    simp only [isText, if_neg (not_isBlankLine_of_visible visible), hread]

/-! ### A carriage return at the end -/

theorem exists_text_of_append_return {text : String} (h : textOf? (line ++ [0x0D]) = some text) :
    ∃ front, textOf? line = some front ∧ text = front ++ "\r" := by
  rw [textOf?_append_return] at h
  obtain ⟨front, hfront, rfl⟩ := Option.map_eq_some_iff.mp h
  exact ⟨front, hfront, rfl⟩

theorem visible_of_append_return {text : String}
    (h : ∃ c ∈ (text ++ "\r").toList, Text.isBlank c = false) :
    ∃ c ∈ text.toList, Text.isBlank c = false := by
  obtain ⟨c, hc, hvisible⟩ := h
  rw [String.toList_append] at hc
  rcases List.mem_append.mp hc with hc | hc
  · exact ⟨c, hc, hvisible⟩
  · -- the carriage return is blank
    rw [List.mem_singleton.mp hc] at hvisible
    nomatch hvisible

theorem decode?_append_return (text : String) :
    Json.decode? Batch.ofJson? (text ++ "\r") = Json.decode? Batch.ofJson? text := by
  have hread := Json.read?_append_blank (show Json.isSpace '\r' = true by decide) text
  exact congrArg (·.bind Batch.ofJson?) hread

theorem Holds.withoutReturn {held : Option Batch} (h : Holds line held) :
    Holds (withoutReturn line) held := by
  rcases withoutReturn_cases line with hline | hline
  · rw [hline] at h
    cases h with
    | nothing isText blank =>
      obtain ⟨front, hfront, rfl⟩ := exists_text_of_append_return isText
      refine .nothing hfront fun c hc => blank c ?_
      rw [String.toList_append]
      exact List.mem_append_left _ hc
    | batch isText visible decoded =>
      obtain ⟨front, hfront, rfl⟩ := exists_text_of_append_return isText
      rw [decode?_append_return] at decoded
      exact .batch hfront (visible_of_append_return visible) decoded
  · rw [hline]
    exact h

theorem Offends.withoutReturn {number : Nat} {e : RecordingError}
    (h : Offends origin number line e) : Offends origin number (withoutReturn line) e := by
  rcases withoutReturn_cases line with hline | hline
  · rw [hline] at h
    cases h with
    | noText isNoText =>
      rw [textOf?_append_return] at isNoText
      exact .noText (Option.map_eq_none_iff.mp isNoText)
    | noBatch isText visible undecoded =>
      obtain ⟨front, hfront, rfl⟩ := exists_text_of_append_return isText
      rw [decode?_append_return] at undecoded
      exact .noBatch hfront (visible_of_append_return visible) undecoded
  · rw [hline]
    exact h

theorem readFrom_withoutReturn (number : Nat) (line : List UInt8) (lines : List (List UInt8)) :
    readFrom origin number (withoutReturn line :: lines) = readFrom origin number (line :: lines) := by
  rcases holds_or_offends origin number line with ⟨held, h⟩ | ⟨e, h⟩
  · rw [readFrom_of_holds h, readFrom_of_holds h.withoutReturn]
  · rw [readFrom_of_offends h, readFrom_of_offends h.withoutReturn]

/-- Lines that are read alike may stand behind any line. -/
theorem readFrom_cons_congr {number : Nat} {others : List (List UInt8)}
    (h : readFrom origin (number + 1) lines = readFrom origin (number + 1) others)
    (line : List UInt8) :
    readFrom origin number (line :: lines) = readFrom origin number (line :: others) := by
  rcases holds_or_offends origin number line with ⟨held, hline⟩ | ⟨e, hline⟩
  · rw [readFrom_of_holds hline, readFrom_of_holds hline, h]
  · rw [readFrom_of_offends hline, readFrom_of_offends hline]

/-- **The walk over the bytes reads the lines of the file.** -/
theorem readFrom_linesBehind {bytes : List UInt8} (h : Lines bytes lines) :
    ∀ number, readFrom origin number (linesBehind [] bytes) = readFrom origin number lines := by
  induction h with
  | none => exact fun number => rfl
  | unended nonempty single =>
    intro number
    rw [linesBehind_of_notMem single [] nonempty]
    rfl
  | @ended line rest lines single _ ih =>
    intro number
    rw [linesBehind_append single, readFrom_withoutReturn]
    exact readFrom_cons_congr (ih (number + 1)) line

theorem read_of_lines {bytes : ByteArray} (h : Lines bytes.toList lines) :
    read origin bytes = readFrom origin 1 lines := readFrom_linesBehind h 1

/-! ## What all lines hold -/

/-- **All lines of a recording hold something or nothing, or there is a first line that offends.** -/
theorem all_hold_or_first_offends (origin : String) (lines : List (List UInt8)) :
    ∀ number, (∃ held, List.Forall₂ Holds lines held) ∨
      ∃ before line after e, lines = before ++ line :: after ∧
        (∀ l ∈ before, ∃ held, Holds l held) ∧ Offends origin (number + before.length) line e := by
  induction lines with
  | nil => exact fun _ => .inl ⟨[], .nil⟩
  | cons line lines ih =>
    intro number
    rcases holds_or_offends origin number line with ⟨held, hline⟩ | ⟨e, hline⟩
    · rcases ih (number + 1) with ⟨all, hall⟩ | ⟨before, bad, after, e, rfl, hbefore, hbad⟩
      · exact .inl ⟨held :: all, .cons hline hall⟩
      · refine .inr ⟨line :: before, bad, after, e, rfl, ?_, ?_⟩
        · exact List.forall_mem_cons.mpr ⟨⟨held, hline⟩, hbefore⟩
        · have hnumber : number + (before.length + 1) = number + 1 + before.length := by omega
          rw [List.length_cons, hnumber]
          exact hbad
    · exact .inr ⟨[], line, lines, e, rfl, fun l hl => absurd hl List.not_mem_nil, hline⟩

theorem reduceOption_cons (held : Option Batch) (all : List (Option Batch)) :
    (held :: all).reduceOption = held.toList ++ all.reduceOption := by
  cases held <;> rfl

/-- Lines of which none offends are read in full. -/
theorem readFrom_of_all_hold {held : List (Option Batch)} (h : List.Forall₂ Holds lines held) :
    ∀ number, readFrom origin number lines = .ok held.reduceOption := by
  induction h with
  | nil => exact fun _ => rfl
  | cons hline _ ih =>
    intro number
    rw [readFrom_of_holds hline, ih, reduceOption_cons]
    rfl

/-- The first line that offends decides, whatever stands behind it. -/
theorem readFrom_of_first_offends {before : List (List UInt8)} {e : RecordingError} :
    ∀ {number}, (∀ l ∈ before, ∃ held, Holds l held) →
      Offends origin (number + before.length) line e →
      ∀ after, readFrom origin number (before ++ line :: after) = .error e := by
  induction before with
  | nil => exact fun _ hline => readFrom_of_offends hline
  | cons first before ih =>
    intro number hbefore hline after
    obtain ⟨⟨held, hfirst⟩, hrest⟩ := List.forall_mem_cons.mp hbefore
    have hnumber : number + (before.length + 1) = number + 1 + before.length := by omega
    rw [List.length_cons, hnumber] at hline
    rw [List.cons_append, readFrom_of_holds hfirst, ih hrest hline]
    rfl

/-- A recording is read exactly if all of its lines hold something or nothing. -/
theorem readFrom_eq_ok_iff {number : Nat} {batches : List Batch} :
    readFrom origin number lines = .ok batches ↔
      ∃ held, List.Forall₂ Holds lines held ∧ held.reduceOption = batches := by
  constructor
  · intro h
    rcases all_hold_or_first_offends origin lines number with
      ⟨held, hall⟩ | ⟨before, line, after, e, rfl, hbefore, hline⟩
    · rw [readFrom_of_all_hold hall] at h
      exact ⟨held, hall, Except.ok.inj h⟩
    · rw [readFrom_of_first_offends hbefore hline] at h
      nomatch h
  · rintro ⟨held, hall, rfl⟩
    exact readFrom_of_all_hold hall number

/-- Otherwise the first line that offends is the error. -/
theorem readFrom_eq_error_iff {number : Nat} {e : RecordingError} :
    readFrom origin number lines = .error e ↔
      ∃ before line after, lines = before ++ line :: after ∧
        (∀ l ∈ before, ∃ held, Holds l held) ∧ Offends origin (number + before.length) line e := by
  constructor
  · intro h
    rcases all_hold_or_first_offends origin lines number with
      ⟨held, hall⟩ | ⟨before, line, after, e', rfl, hbefore, hline⟩
    · rw [readFrom_of_all_hold hall] at h
      nomatch h
    · rw [readFrom_of_first_offends hbefore hline] at h
      obtain rfl := Except.error.inj h
      exact ⟨before, line, after, rfl, hbefore, hline⟩
  · rintro ⟨before, line, after, rfl, hbefore, hline⟩
    exact readFrom_of_first_offends hbefore hline after

/-! ## Written recordings -/

/-- A line as it is written: a batch in JSON, or blanks. -/
inductive Writes : List Char → Option Batch → Prop where
  | batch (b : Batch) : Writes b.toJson.print.toList (some b)
  | blank {text : List Char} (blank : ∀ c ∈ text, Text.isBlank c = true) (single : '\n' ∉ text) :
    Writes text none

/-- How a line is ended. -/
inductive LineEnd where
  | feed
  | returnAndFeed

/-- The bytes that end a line. -/
def LineEnd.bytes : LineEnd → List UInt8
  | feed => [0x0A]
  | returnAndFeed => [0x0D, 0x0A]

/-- **A file into which batches were written**: each on a line of its own, with blank lines anywhere
    between them and lines ended in either way.  The last line is not ended, but it may be empty. -/
inductive Written : List UInt8 → List Batch → Prop where
  | last {text : List Char} {held : Option Batch} (h : Writes text held) :
    Written (Text.utf8 text) held.toList
  | line {text : List Char} {held : Option Batch} {rest : List UInt8} {batches : List Batch}
    (h : Writes text held) (lineEnd : LineEnd) (hrest : Written rest batches) :
    Written (Text.utf8 text ++ lineEnd.bytes ++ rest) (held.toList ++ batches)

variable {text : List Char} {held : Option Batch}

theorem render_batch (b : Batch) : ∃ rest, b.toJson.print.toList = '\x7b' :: rest := by
  rw [Json.print, String.toList_ofList]
  exact ⟨_, rfl⟩

theorem Writes.single (h : Writes text held) : '\n' ∉ text := by
  cases h with
  | batch b => exact (b.carries.isLine (by decide)).single
  | blank _ single => exact single

/-- Nothing is written on an empty line. -/
theorem Writes.eq_none_of_nil (h : Writes [] held) : held = none := by
  generalize hempty : ([] : List Char) = text at h
  cases h with
  | batch b =>
    obtain ⟨rest, hrest⟩ := render_batch b
    rw [hrest] at hempty
    nomatch hempty
  | blank _ _ => rfl

/-- **A line that is written holds what was written.** -/
theorem Writes.holds (h : Writes text held) : Holds (Text.utf8 text) held := by
  have hisText : textOf? (Text.utf8 text) = some (String.ofList text) := by
    rw [textOf?_eq_some_iff, String.toList_ofList]
  cases h with
  | batch b =>
    rw [String.ofList_toList] at hisText
    obtain ⟨rest, hrest⟩ := render_batch b
    refine .batch hisText ⟨'\x7b', ?_, by decide⟩ (b.carries.isLine (by decide)).decoded
    rw [hrest]
    exact List.mem_cons_self
  | blank blank _ =>
    refine .nothing hisText ?_
    rw [String.toList_ofList]
    exact blank

/-- **The lines of a written file hold the batches.** -/
theorem Written.exists_lines {bytes : List UInt8} {batches : List Batch} (h : Written bytes batches) :
    ∃ lines held, Lines bytes lines ∧ List.Forall₂ Holds lines held ∧ held.reduceOption = batches := by
  induction h with
  | @last text held h =>
    by_cases hnil : Text.utf8 text = []
    · obtain rfl := Text.utf8_eq_nil_iff.mp hnil
      rw [h.eq_none_of_nil]
      exact ⟨[], [], .none, .nil, rfl⟩
    · refine ⟨_, [held], .unended hnil (Text.feed_notMem_utf8 h.single), .cons h.holds .nil, ?_⟩
      exact List.reduceOption_singleton held
  | @line text held rest batches h lineEnd _ ih =>
    obtain ⟨lines, all, hlines, hall, rfl⟩ := ih
    have hsingle := Text.feed_notMem_utf8 h.single
    cases lineEnd with
    | feed =>
      refine ⟨_, held :: all, ?_, .cons h.holds.withoutReturn hall, reduceOption_cons held all⟩
      rw [LineEnd.bytes, List.append_assoc]
      exact .ended hsingle hlines
    | returnAndFeed =>
      have hsingle' : 0x0A ∉ Text.utf8 text ++ [0x0D] :=
        List.not_mem_append hsingle (by decide)
      have hended := Lines.ended hsingle' hlines
      rw [withoutReturn_append_return, List.append_assoc] at hended
      refine ⟨_, held :: all, ?_, .cons h.holds hall, reduceOption_cons held all⟩
      rw [LineEnd.bytes, List.append_assoc]
      exact hended

/-! ## Line by line -/

/-- **A recording reads back line by line.**  A file into which batches were written, each on a line
    of its own, reads as these batches, however lines are ended and wherever blank lines stand.  Any
    file at all is read exactly if each of its lines is blank or is decoded to a batch, and then as the
    batches of its lines in order.  Otherwise the first line that offends is the error, with its number
    among all lines from one if it is a text, and nothing behind it matters. -/
theorem reads_line_by_line (origin : String) (bytes : ByteArray) :
    (∀ batches, Written bytes.toList batches → read origin bytes = .ok batches) ∧
    ∃ lines, Lines bytes.toList lines ∧ (∀ others, Lines bytes.toList others → others = lines) ∧
      (∀ batches, read origin bytes = .ok batches ↔
        ∃ held, List.Forall₂ Holds lines held ∧ held.reduceOption = batches) ∧
      ∀ e, read origin bytes = .error e ↔
        ∃ before line after, lines = before ++ line :: after ∧
          (∀ l ∈ before, ∃ held, Holds l held) ∧ Offends origin (1 + before.length) line e := by
  constructor
  · intro batches hwritten
    obtain ⟨lines, held, hlines, hall, hbatches⟩ := hwritten.exists_lines
    rw [read_of_lines hlines]
    exact readFrom_eq_ok_iff.mpr ⟨held, hall, hbatches⟩
  · obtain ⟨lines, hlines⟩ := exists_lines bytes.toList
    refine ⟨lines, hlines, fun _ => hlines.unique, fun batches => ?_, fun e => ?_⟩
    · rw [read_of_lines hlines]
      exact readFrom_eq_ok_iff
    · rw [read_of_lines hlines]
      exact readFrom_eq_error_iff

/-! ## Blank lines in a mix, and bytes that are no text -/

/-- A batch whose texts hold a line feed and quotes. -/
def crooked : Batch := ⟨"udf\n1", [.debugger "\"w1\"" "> /tmp/a.py(5)<module>()\r\n"]⟩

/-- The two batches of a recording with a blank line in front of each and lines ended in both ways.
    The last line has no end. -/
def mixed : List UInt8 :=
  Text.utf8 [] ++ LineEnd.feed.bytes ++
  (Text.utf8 crooked.toJson.print.toList ++ LineEnd.returnAndFeed.bytes ++
  (Text.utf8 [' ', '\u3000'] ++ LineEnd.returnAndFeed.bytes ++
  Text.utf8 (Sample.paused "w2" 5).toJson.print.toList))

/-- A blank line, a line that is no batch, and a byte that is no text. -/
def spoiled : List UInt8 := Text.utf8 "\noops\r\n".toList ++ [0xFF]

/-- The first recording is read in full.  In the second, line 2 is reported, and not the bytes behind
    it. -/
theorem reads_mixed_and_spoiled :
    Written mixed [crooked, Sample.paused "w2" 5] ∧
      read "log" ⟨mixed.toArray⟩ = .ok [crooked, Sample.paused "w2" 5] ∧
      Lines spoiled [[], Text.utf8 "oops".toList, [0xFF]] ∧
      read "log" ⟨spoiled.toArray⟩ = .error (.invalidBatch "log" 2) := by
  have hmixed : Written mixed [crooked, Sample.paused "w2" 5] :=
    .line (.blank (List.all_eq_true.mp rfl) (by decide)) .feed (.line (.batch crooked) .returnAndFeed
      (.line (.blank (List.all_eq_true.mp rfl) (by decide)) .returnAndFeed (.last (.batch _))))
  have hspoiled : Lines spoiled [[], Text.utf8 "oops".toList, [0xFF]] := by
    have hlast : Lines [0xFF] [[0xFF]] := .unended (by decide) (by decide)
    have hoops : 0x0A ∉ Text.utf8 "oops\r".toList := Text.feed_notMem_utf8 (by decide)
    exact .ended List.not_mem_nil (.ended hoops hlast)
  obtain ⟨hread, _⟩ := reads_line_by_line "log" ⟨mixed.toArray⟩
  obtain ⟨_, lines, _, hunique, _, herror⟩ := reads_line_by_line "log" ⟨spoiled.toArray⟩
  rw [toList_mk] at hread hunique
  obtain rfl := hunique _ hspoiled
  have hempty : Writes [] none := .blank (List.all_eq_true.mp rfl) (by decide)
  have hoops : Offends "log" 2 (Text.utf8 "oops".toList) (.invalidBatch "log" 2) :=
    .noBatch (textOf?_eq_some_iff.mpr rfl) ⟨'o', by decide, by decide⟩ (by decide)
  exact ⟨hmixed, hread _ hmixed, hspoiled, (herror _).mpr ⟨[[]], _, [[0xFF]], rfl,
    List.forall_mem_singleton.mpr ⟨none, hempty.holds⟩, hoops⟩⟩

end Recording

end DebugDesk
