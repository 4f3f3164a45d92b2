/-
  Reading console titles.

  A title is classified by what stands before its trailing blanks:

      Breakpoint D at P:E             the breakpoint D was set on line E of the file P
      Deleted breakpoint D at P:E     it was removed
      > …(N)…                         a worker stopped at line N

  In a confirmation `D` and `E` are ASCII digits and `P` is any non-empty path on one line; since
  `E` holds no colon, it starts behind the last one, whatever the path is called.

  In a frame marker the line number stands in the last group `(N)` of the first line, and at least
  one character stands between the opening and that group.  The digits of a group may be of any
  script; only ASCII digits make a line number, and a last group that is no line number makes the
  title unrecognized even if an earlier one would be.

  The openings of the three forms start with three different letters, so no title has two forms
  and the order in which they are tried does not matter.
-/
import DebugDesk.Event
import DebugDesk.Text.Blank
import DebugDesk.Text.Decimal
import DebugDesk.Text.Split

namespace DebugDesk.Event

open DebugDesk.Text (after? splitLast trimEnd isDecimalDigit)
open DebugDesk.Text.Decimal (word32?)

/-! ## Confirmations: `D at P:E` -/

/-- The id and the line of a confirmation, behind its opening. -/
def confirmation? (text : List Char) : Option (UInt32 × UInt32) := do
  let id ← word32? (text.takeWhile Char.isDigit)
  let place ← after? " at ".toList (text.dropWhile Char.isDigit)
  let (path, line) ← splitLast ':' place
  let line ← word32? line
  if path = [] ∨ '\n' ∈ path then none else some (id, line)

/-! ## Frame markers: the last group `(N)` -/

/-- The digits of a group `(N)` that stands at the start of a text. -/
def groupAt? : List Char → Option (List Char)
  | '(' :: text =>
    let digits := text.takeWhile isDecimalDigit
    if digits ≠ [] ∧ (text.dropWhile isDecimalDigit).head? = some ')' then some digits else none
  | _ => none

/-- The digits of the last group of a text. -/
def lastGroup? : List Char → Option (List Char)
  | [] => none
  | c :: text =>
    match lastGroup? text with
    | some digits => some digits
    | none => groupAt? (c :: text)

/-- The line of a stop, behind the opening of a frame marker. -/
def stop? (text : List Char) : Option UInt32 := do
  let digits ← lastGroup? ((text.takeWhile (· ≠ '\n')).drop 1)
  word32? digits

/-! ## Titles -/

/-- The event of a title without trailing blanks. -/
def ofTrimmed (text : List Char) : Event :=
  match after? "Deleted breakpoint ".toList text with
  | some rest =>
    match confirmation? rest with
    | some (id, line) => deleted id line
    | none => unrecognized
  | none =>
    match after? "Breakpoint ".toList text with
    | some rest =>
      match confirmation? rest with
      | some (id, line) => created id line
      | none => unrecognized
    | none =>
      match after? "> ".toList text with
      | some rest =>
        match stop? rest with
        | some line => paused line
        | none => unrecognized
      | none => unrecognized

/-- **The event of a console title.**  Every title has one. -/
def ofTitle (title : String) : Event := ofTrimmed (trimEnd title.toList)

example : ofTitle "Breakpoint 3 at C:\\work\\udf.py:7" = created 3 7 := by decide
example : ofTitle "Deleted breakpoint 1 at /a.py:10\n" = deleted 1 10 := by decide
example : ofTitle "> /srv/job(2)/udf.py(8)run()" = paused 8 := by decide
example : ofTitle "> a(5)(٣)" = unrecognized := by decide
example : ofTitle "Breakpoint 99999999999 at /a.py:1" = unrecognized := by decide

end DebugDesk.Event
