/-
  Dates and times.

  A moment is a date, a time of day, or a date with a time and perhaps an offset, in the notation
  of RFC 3339: `1979-05-27T07:32:00.5+01:00`.  A letter of either case or a space may stand between
  date and time.  The day has to exist in its month, a minute may have a leap second, and a
  fraction of a second has at least one digit.
-/
import DebugDesk.Text.Decimal

namespace DebugDesk.Toml

/-- The number that the next digits write, if there are that many and it is within bounds. -/
def digits? (count least greatest : Nat) (text : List Char) : Option (Nat × List Char) :=
  match Text.Decimal.natural? (text.take count) with
  | some n =>
    if (text.take count).length = count ∧ least ≤ n ∧ n ≤ greatest then some (n, text.drop count)
    else none
  | none => none

/-- What follows a fixed character. -/
def behind? (c : Char) : List Char → Option (List Char)
  | [] => none
  | d :: rest => if d = c then some rest else none

/-- The number of days in a month of a year. -/
def daysIn (year month : Nat) : Nat :=
  if month = 2 then
    if year % 4 = 0 ∧ (year % 100 ≠ 0 ∨ year % 400 = 0) then 29 else 28
  else if month = 4 ∨ month = 6 ∨ month = 9 ∨ month = 11 then 30
  else 31

/-- What follows a date. -/
def afterDate? (text : List Char) : Option (List Char) := do
  let (year, text) ← digits? 4 0 9999 text
  let text ← behind? '-' text
  let (month, text) ← digits? 2 1 12 text
  let text ← behind? '-' text
  let (_, text) ← digits? 2 1 (daysIn year month) text
  return text

/-- What follows a time of day. -/
def afterTime? (text : List Char) : Option (List Char) := do
  let (_, text) ← digits? 2 0 23 text
  let text ← behind? ':' text
  let (_, text) ← digits? 2 0 59 text
  let text ← behind? ':' text
  let (_, text) ← digits? 2 0 60 text
  match text with
  | '.' :: fraction =>
    if fraction.takeWhile Char.isDigit = [] then none else some (fraction.dropWhile Char.isDigit)
  | text => some text

/-- Whether a text is the offset of a time, or empty. -/
def isOffset (text : List Char) : Bool :=
  match text with
  | [] => true
  | ['Z'] => true
  | ['z'] => true
  | sign :: text =>
    (sign = '+' || sign = '-') &&
      match (do
        let (_, text) ← digits? 2 0 23 text
        let text ← behind? ':' text
        let (_, text) ← digits? 2 0 59 text
        return text : Option (List Char)) with
      | some [] => true
      | _ => false

/-- Whether a text is a date. -/
def isDate (text : List Char) : Bool := afterDate? text = some []

/-- Whether a text is a moment. -/
def isMoment (text : List Char) : Bool :=
  match afterDate? text with
  | some [] => true
  | some (separator :: text) =>
    (separator = 'T' || separator = 't' || separator = ' ') &&
      match afterTime? text with
      | some text => isOffset text
      | none => false
  | none => afterTime? text = some []

example : isMoment "1979-05-27T07:32:00.5-07:00".toList ∧ isMoment "2000-02-29".toList := by decide
example : ¬ isMoment "1900-02-29".toList ∧ ¬ isMoment "07:32".toList := by decide

end DebugDesk.Toml
