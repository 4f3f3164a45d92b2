/-
  Recordings of console batches.

  A recording is a file of lines, each a batch in JSON.  A line feed ends a line, and the last line
  need not have one; a carriage return in front of a line feed is left to whoever reads the line,
  to whom it is a blank.  Blank lines count as lines but hold no batch.

  Reading goes line by line and stops at the first line that is no text or no batch, so what comes
  behind that line does not matter.
-/
import DebugDesk.Console
import DebugDesk.Json.Reader
import DebugDesk.Text.Blank
import DebugDesk.Text.Decimal

namespace DebugDesk

/-! ## Lines -/

/-- The lines of a file, where some bytes of the first line have been passed already. -/
def linesBehind (passed : List UInt8) : List UInt8 → List (List UInt8)
  | [] => if passed = [] then [] else [passed.reverse]
  | byte :: bytes =>
    if byte = 0x0A then passed.reverse :: linesBehind [] bytes
    else linesBehind (byte :: passed) bytes

/-- The lines of a file, without their line feeds. -/
def linesOf (bytes : ByteArray) : List (List UInt8) := linesBehind [] bytes.toList

/-- The text of a line, if it is encoded in UTF-8. -/
def textOf? (line : List UInt8) : Option String := String.fromUTF8? ⟨line.toArray⟩

/-- Whether a line holds nothing but blanks. -/
def isBlankLine (text : String) : Bool := text.toList.all Text.isBlank

/-! ## Batches -/

/-- Why a recording cannot be read. -/
inductive RecordingError where
  /-- The file, or a line of it, cannot be read as text. -/
  | unreadable (reason : String)
  /-- A line, counted from one, is no batch. -/
  | invalidBatch (origin : String) (line : Nat)
  deriving DecidableEq, Repr

/-- Where a line is that holds no batch. -/
def RecordingError.heading (origin : String) (line : Nat) : String :=
  origin ++ ":" ++ String.ofList (Text.Decimal.digits line) ++ ": invalid console update: "

/-- The diagnostic of a recording. -/
def RecordingError.message : RecordingError → String
  | unreadable reason => "i/o error: " ++ reason
  | invalidBatch origin line => heading origin line ++ "the line holds no batch"

/-- The batch that a text writes. -/
def Batch.read? (text : String) : Option Batch := (Json.read? text).bind Batch.ofJson?

namespace Recording

/-- The batches on the lines of a recording from the given number on. -/
def readFrom (origin : String) (number : Nat) : List (List UInt8) → Except RecordingError (List Batch)
  | [] => .ok []
  | line :: lines =>
    match textOf? line with
    | none => .error (.unreadable "stream did not contain valid UTF-8")
    | some text =>
      if isBlankLine text then readFrom origin (number + 1) lines
      else match Batch.read? text with
        | none => .error (.invalidBatch origin number)
        | some batch => (readFrom origin (number + 1) lines).map (batch :: ·)

/-- **The batches of a recording**, or why its first offending line offends. -/
def read (origin : String) (bytes : ByteArray) : Except RecordingError (List Batch) :=
  readFrom origin 1 (linesOf bytes)

end Recording

end DebugDesk
