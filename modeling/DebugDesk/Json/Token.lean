/-
  The tokens of JSON text.

  Scanning is one walk over the characters.  Between tokens it skips the four blanks of the
  grammar, takes each mark as a token, and opens a string at a quote; any other character starts a
  word, which ends where a blank, a mark or a quote begins and has to be a number or one of the
  three literals.

  The text of a string is read in two steps, because an escape may write half of a character:
  first into code units, then, pairing the halves, into characters.  A string with a half that
  has no partner is well formed and yet has no text; its token is `text none`.  In the same way a
  number too great for a double becomes the atom `unreadable`; its digits and its power of ten are
  rounded one by one, which decides the numbers around the greatest double.
-/
import DebugDesk.Json.Basic
import DebugDesk.Text.Decimal
import DebugDesk.Text.Double

namespace DebugDesk.Json

/-- A token. -/
inductive Token where
  | openArray
  | closeArray
  | openObject
  | closeObject
  | comma
  | colon
  /-- A string; without content if it holds half of a surrogate pair. -/
  | text (content : Option String)
  /-- A number or a literal. -/
  | atom (value : Json)

/-! ## Strings -/

/-- The value of a hexadecimal digit. -/
def hexDigit? (c : Char) : Option Nat :=
  if '0' ≤ c ∧ c ≤ '9' then some (c.toNat - '0'.toNat)
  else if 'a' ≤ c ∧ c ≤ 'f' then some (c.toNat - 'a'.toNat + 10)
  else if 'A' ≤ c ∧ c ≤ 'F' then some (c.toNat - 'A'.toNat + 10)
  else none

/-- The code unit that four hexadecimal digits write. -/
def hexUnit? (a b c d : Char) : Option Nat :=
  match hexDigit? a, hexDigit? b, hexDigit? c, hexDigit? d with
  | some a, some b, some c, some d => some (((a * 16 + b) * 16 + c) * 16 + d)
  | _, _, _, _ => none

/-- The code point that a one-letter escape writes. -/
def letterEscape? (c : Char) : Option Nat :=
  if c = '"' then some 0x22
  else if c = '\\' then some 0x5C
  else if c = '/' then some 0x2F
  else if c = 'b' then some 0x08
  else if c = 'f' then some 0x0C
  else if c = 'n' then some 0x0A
  else if c = 'r' then some 0x0D
  else if c = 't' then some 0x09
  else none

/-- The code units of what stands between the quotes of a string, if it is well formed.  A
    character that stands for itself is one unit, its code point. -/
def units? : List Char → Option (List Nat)
  | [] => some []
  | '\\' :: 'u' :: a :: b :: c :: d :: rest =>
    match hexUnit? a b c d with
    | some unit => (units? rest).map (unit :: ·)
    | none => none
  | '\\' :: c :: rest =>
    match letterEscape? c with
    | some unit => (units? rest).map (unit :: ·)
    | none => none
  | c :: rest =>
    if c = '\\' ∨ c.toNat < 0x20 then none else (units? rest).map (c.toNat :: ·)

/-- Whether a code unit is the first half of a surrogate pair. -/
def isHighHalf (unit : Nat) : Bool := 0xD800 ≤ unit && unit < 0xDC00

/-- Whether a code unit is the second half of a surrogate pair. -/
def isLowHalf (unit : Nat) : Bool := 0xDC00 ≤ unit && unit < 0xE000

/-- The characters that code units write, if every half of a surrogate pair has its partner. -/
def ofUnits? : List Nat → Option (List Char)
  | [] => some []
  | [unit] => if isHighHalf unit || isLowHalf unit then none else some [Char.ofNat unit]
  | unit :: next :: rest =>
    if isHighHalf unit && isLowHalf next then
      (ofUnits? rest).map (Char.ofNat (0x10000 + (unit - 0xD800) * 0x400 + (next - 0xDC00)) :: ·)
    else if isHighHalf unit || isLowHalf unit then none
    else (ofUnits? (next :: rest)).map (Char.ofNat unit :: ·)

/-- The string between two quotes: `none` if it is malformed, `some none` if it has no text. -/
def stringOf? (raw : List Char) : Option (Option String) :=
  (units? raw).map fun units => (ofUnits? units).map String.ofList

/-! ## Numbers -/

/-- The exponent written behind the digits of a number, with its optional sign. -/
def exponent? : List Char → Option Int
  | '-' :: digits => (Text.Decimal.natural? digits).map fun n => -(n : Int)
  | '+' :: digits => (Text.Decimal.natural? digits).map fun n => (n : Int)
  | digits => (Text.Decimal.natural? digits).map fun n => (n : Int)

/-- The parts of a number without its sign: the whole digits, the digits of the fraction and the
    exponent, with `none` for a part that is not written. -/
def numberParts? (text : List Char) : Option (List Char × Option (List Char) × Option Int) :=
  let (whole, rest) := text.span Char.isDigit
  if whole = [] ∨ (whole.length > 1 ∧ whole.head? = some '0') then none
  else
    let (fraction, rest) : Option (List Char) × List Char := match rest with
      | '.' :: rest => (some (rest.takeWhile Char.isDigit), rest.dropWhile Char.isDigit)
      | rest => (none, rest)
    if fraction = some [] then none
    else match rest with
      | [] => some (whole, fraction, none)
      | mark :: rest =>
        if mark = 'e' ∨ mark = 'E' then
          match exponent? rest with
          | some e => some (whole, fraction, some e)
          | none => none
        else none

/-- The number that a word writes. -/
def number? (word : List Char) : Option Json :=
  let (negative, text) := match word with
    | '-' :: text => (true, text)
    | text => (false, text)
  match numberParts? text with
  | none => none
  | some (whole, fraction, exponent) =>
    let fractionDigits := fraction.getD []
    let digits := Text.Decimal.valueFrom 0 (whole ++ fractionDigits)
    let scaled := Text.Scaled.ofDigits whole fractionDigits (exponent.getD 0)
    if !scaled.inDoubleRange then some .unreadable
    else if fraction.isSome || exponent.isSome || (negative && digits == 0) then
      some (.decimal (String.ofList word))
    else some (.integer (if negative then -(digits : Int) else digits))

/-- The value of a word: a literal or a number. -/
def atom? (word : List Char) : Option Json :=
  if word = ['n', 'u', 'l', 'l'] then some .null
  else if word = ['t', 'r', 'u', 'e'] then some (.bool true)
  else if word = ['f', 'a', 'l', 's', 'e'] then some (.bool false)
  else number? word

/-! ## The walk -/

/-- Whether a character may stand between tokens. -/
def isSpace (c : Char) : Bool := c = ' ' || c = '\t' || c = '\n' || c = '\r'

/-- The token of a mark. -/
def mark? (c : Char) : Option Token :=
  if c = '[' then some .openArray
  else if c = ']' then some .closeArray
  else if c = '\x7b' then some .openObject
  else if c = '\x7d' then some .closeObject
  else if c = ',' then some .comma
  else if c = ':' then some .colon
  else none

/-- Where the walk stands; the characters of a token under way are held last first. -/
inductive Scan where
  | between
  | inString (raw : List Char)
  /-- In a string, behind a backslash. -/
  | inEscape (raw : List Char)
  | inWord (raw : List Char)

/-- The tokens that a word under way and a character behind it complete. -/
def finished? : Scan → Option (List Token)
  | .between => some []
  | .inWord raw => (atom? raw.reverse).map fun value => [.atom value]
  | .inString _ => none
  | .inEscape _ => none

/-- One character: the tokens that it completes, and where the walk stands behind it. -/
def advance? (scan : Scan) (c : Char) : Option (List Token × Scan) :=
  match scan with
  | .inString raw =>
    if c = '"' then (stringOf? raw.reverse).map fun content => ([.text content], .between)
    else if c = '\\' then some ([], .inEscape (c :: raw))
    else some ([], .inString (c :: raw))
  | .inEscape raw => some ([], .inString (c :: raw))
  | .between =>
    if isSpace c then some ([], .between)
    else if c = '"' then some ([], .inString [])
    else match mark? c with
      | some token => some ([token], .between)
      | none => some ([], .inWord [c])
  | .inWord raw =>
    if isSpace c then (finished? (.inWord raw)).map fun tokens => (tokens, .between)
    else if c = '"' then (finished? (.inWord raw)).map fun tokens => (tokens, .inString [])
    else match mark? c with
      | some token => (finished? (.inWord raw)).map fun tokens => (tokens ++ [token], .between)
      | none => some ([], .inWord (c :: raw))

/-- The tokens of the rest of a text. -/
def tokensFrom? (scan : Scan) : List Char → Option (List Token)
  | [] => finished? scan
  | c :: rest =>
    match advance? scan c with
    | none => none
    | some ([], scan) => tokensFrom? scan rest
    | some (tokens, scan) => (tokensFrom? scan rest).map (tokens ++ ·)

/-- The tokens of a text. -/
def tokens? (text : List Char) : Option (List Token) := tokensFrom? .between text

end DebugDesk.Json
