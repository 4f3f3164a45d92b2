/-
  Strings, numbers and the other values without parts.

  There are four notations of strings: with or without escapes, and on one line or on several.
  A line break behind the opening quotes of a string on several lines is dropped, every other one
  counts as a line feed, and a backslash at the end of a line takes away the break and all blanks
  up to the next visible character.

  All other values are words: the longest run of letters, digits and the signs that numbers and
  moments are written with.  A date may be followed by a space and a time; that is the one value
  that holds a space.
-/
import DebugDesk.Json.Token
import DebugDesk.Text.Decimal
import DebugDesk.Text.Double
import DebugDesk.Toml.Basic
import DebugDesk.Toml.Moment

namespace DebugDesk.Toml

open DebugDesk.Json (hexDigit?)

/-! ## Characters -/

/-- A blank within a line. -/
def isSpace (c : Char) : Bool := c = ' ' || c = '\t'

/-- A character that may stand in a comment or, unless it ends the string, in a string. -/
def isVisible (c : Char) : Bool := c = '\t' || (0x20 ≤ c.toNat && c.toNat ≠ 0x7F)

/-- What follows a line break, if one comes next. -/
def afterBreak? : List Char → Option (List Char)
  | '\n' :: rest => some rest
  | '\r' :: '\n' :: rest => some rest
  | _ => none

/-- A text without a line break at its start. -/
def dropBreak (text : List Char) : List Char := (afterBreak? text).getD text

/-! ## Strings -/

/-- The character that a one-letter escape writes. -/
def escaped? (c : Char) : Option Char :=
  if c = 'b' then some '\x08'
  else if c = 't' then some '\t'
  else if c = 'n' then some '\n'
  else if c = 'f' then some '\x0c'
  else if c = 'r' then some '\r'
  else if c = '"' then some '"'
  else if c = '\\' then some '\\'
  else none

/-- The character that hexadecimal digits write. -/
def hexChar? (digits : List Char) : Option Char :=
  match digits.mapM hexDigit? with
  | some digits =>
    let code := digits.foldl (fun n d => n * 16 + d) 0
    if h : code.isValidChar then some (Char.ofNatAux code h) else none
  | none => none

/-- The rest of a string on one line, behind its opening quote, and what follows it. -/
def basic? : List Char → Option (List Char × List Char)
  | '"' :: rest => some ([], rest)
  | '\\' :: 'u' :: a :: b :: c :: d :: rest =>
    match hexChar? [a, b, c, d] with
    | some x => (basic? rest).map fun (text, rest) => (x :: text, rest)
    | none => none
  | '\\' :: 'U' :: a :: b :: c :: d :: e :: f :: g :: h :: rest =>
    match hexChar? [a, b, c, d, e, f, g, h] with
    | some x => (basic? rest).map fun (text, rest) => (x :: text, rest)
    | none => none
  | '\\' :: c :: rest =>
    match escaped? c with
    | some x => (basic? rest).map fun (text, rest) => (x :: text, rest)
    | none => none
  | c :: rest =>
    if c ≠ '\\' && isVisible c then (basic? rest).map fun (text, rest) => (c :: text, rest) else none
  | [] => none

/-- The rest of a string on several lines, behind its opening quotes, and what follows it.  While
    `skipping`, blanks and line breaks are passed over. -/
def basicLines? (skipping : Bool) : List Char → Option (List Char × List Char)
  | '"' :: '"' :: '"' :: '"' :: '"' :: rest => some (['"', '"'], rest)
  | '"' :: '"' :: '"' :: '"' :: rest => some (['"'], rest)
  | '"' :: '"' :: '"' :: rest => some ([], rest)
  | '\r' :: '\n' :: rest =>
    if skipping then basicLines? true rest
    else (basicLines? false rest).map fun (text, rest) => ('\n' :: text, rest)
  | '\n' :: rest =>
    if skipping then basicLines? true rest
    else (basicLines? false rest).map fun (text, rest) => ('\n' :: text, rest)
  | '\\' :: 'u' :: a :: b :: c :: d :: rest =>
    match hexChar? [a, b, c, d] with
    | some x => (basicLines? false rest).map fun (text, rest) => (x :: text, rest)
    | none => none
  | '\\' :: 'U' :: a :: b :: c :: d :: e :: f :: g :: h :: rest =>
    match hexChar? [a, b, c, d, e, f, g, h] with
    | some x => (basicLines? false rest).map fun (text, rest) => (x :: text, rest)
    | none => none
  | '\\' :: c :: rest =>
    match escaped? c with
    | some x => (basicLines? false rest).map fun (text, rest) => (x :: text, rest)
    | none =>
      if (afterBreak? ((c :: rest).dropWhile isSpace)).isSome then basicLines? true (c :: rest)
      else none
  | c :: rest =>
    if c = '\\' || !isVisible c then none
    else if skipping && isSpace c then basicLines? true rest
    else (basicLines? false rest).map fun (text, rest) => (c :: text, rest)
  | [] => none

/-- The rest of a string without escapes on several lines, behind its opening quotes. -/
def literalLines? : List Char → Option (List Char × List Char)
  | '\'' :: '\'' :: '\'' :: '\'' :: '\'' :: rest => some (['\'', '\''], rest)
  | '\'' :: '\'' :: '\'' :: '\'' :: rest => some (['\''], rest)
  | '\'' :: '\'' :: '\'' :: rest => some ([], rest)
  | '\r' :: '\n' :: rest => (literalLines? rest).map fun (text, rest) => ('\n' :: text, rest)
  | c :: rest =>
    if c = '\n' || isVisible c then (literalLines? rest).map fun (text, rest) => (c :: text, rest)
    else none
  | [] => none

/-- The rest of a string without escapes on one line, behind its opening quote. -/
def literal? (text : List Char) : Option (List Char × List Char) :=
  let content := text.takeWhile fun c => c ≠ '\'' && isVisible c
  match text.dropWhile fun c => c ≠ '\'' && isVisible c with
  | '\'' :: rest => some (content, rest)
  | _ => none

/-- A string in any notation. -/
def string? : List Char → Option (List Char × List Char)
  | '"' :: '"' :: '"' :: rest => basicLines? false (dropBreak rest)
  | '"' :: rest => basic? rest
  | '\'' :: '\'' :: '\'' :: rest => literalLines? (dropBreak rest)
  | '\'' :: rest => literal? rest
  | _ => none

/-! ## Numbers -/

/-- The digits of a run in which single underscores may stand between digits. -/
def grouped? (isDigit : Char → Bool) : List Char → Option (List Char)
  | [] => none
  | [c] => if isDigit c then some [c] else none
  | c :: '_' :: rest => if isDigit c then (grouped? isDigit rest).map (c :: ·) else none
  | c :: rest => if isDigit c then (grouped? isDigit rest).map (c :: ·) else none

/-- The digits of a number without leading zeros. -/
def wholeDigits? (text : List Char) : Option (List Char) :=
  match grouped? Char.isDigit text with
  | some digits => if digits.length > 1 && digits.head? == some '0' then none else some digits
  | none => none

/-- The sign of a number, and what follows it. -/
def splitSign : List Char → Bool × List Char
  | '-' :: text => (true, text)
  | '+' :: text => (false, text)
  | text => (false, text)

/-- An integer of 64 bits. -/
def bounded? (n : Int) : Option Toml :=
  if Int64.minValue.toInt ≤ n ∧ n ≤ Int64.maxValue.toInt then some (integer n) else none

/-- The integer that digits of some base write behind the mark of the base. -/
def based? (base : Nat) (text : List Char) : Option Toml :=
  let digit? (c : Char) : Option Nat := (hexDigit? c).filter (· < base)
  match grouped? (fun c => (digit? c).isSome) text with
  | some digits => bounded? (digits.foldl (fun n c => n * base + (digit? c).getD 0) 0 : Nat)
  | none => none

/-- The integer that a word writes. -/
def integer? (word : List Char) : Option Toml :=
  match word with
  | '0' :: 'x' :: text => based? 16 text
  | '0' :: 'o' :: text => based? 8 text
  | '0' :: 'b' :: text => based? 2 text
  | word =>
    let (negative, text) := splitSign word
    match wholeDigits? text with
    | some digits =>
      let n := Text.Decimal.valueFrom 0 digits
      bounded? (if negative then -(n : Int) else n)
    | none => none

/-- The exponent of a float, behind its mark. -/
def exponent? (text : List Char) : Option Int :=
  let (negative, text) := splitSign text
  match grouped? Char.isDigit text with
  | some digits =>
    let n := Text.Decimal.valueFrom 0 digits
    some (if negative then -(n : Int) else n)
  | none => none

/-- Whether a word is a float.  A positive one has to stay within the range of a double. -/
def isFloat (word : List Char) : Bool :=
  let (negative, text) := splitSign word
  let isPart (c : Char) : Bool := c.isDigit || c = '_'
  if text = "inf".toList || text = "nan".toList then true
  else
    let rest := text.dropWhile isPart
    match wholeDigits? (text.takeWhile isPart) with
    | none => false
    | some whole =>
      let (fraction, rest) : Option (List Char) × List Char := match rest with
        | '.' :: rest => (grouped? Char.isDigit (rest.takeWhile isPart), rest.dropWhile isPart)
        | rest => (some [], rest)
      match fraction with
      | none => false
      | some fraction =>
        let exponent : Option Int := match rest with
          | [] => if fraction = [] then none else some 0
          | mark :: rest => if mark = 'e' || mark = 'E' then exponent? rest else none
        match exponent with
        | none => false
        | some e =>
          negative ||
            Text.inDoubleRange (Text.Decimal.valueFrom 0 (whole ++ fraction)) (e - fraction.length)

/-! ## Words -/

/-- A character of a word. -/
def isWordChar (c : Char) : Bool :=
  c.isAlphanum || c = '+' || c = '-' || c = '.' || c = ':' || c = '_'

/-- The value of a word. -/
def word? (word : List Char) : Option Toml :=
  if word = "true".toList then some (boolean true)
  else if word = "false".toList then some (boolean false)
  else if isMoment word then some (moment (String.ofList word))
  else if isFloat word then some (float (String.ofList word))
  else integer? word

/-- A value without parts that is no string, and what follows it. -/
def wordValue? (text : List Char) : Option (Toml × List Char) :=
  let word := text.takeWhile isWordChar
  let rest := text.dropWhile isWordChar
  match rest with
  | ' ' :: c :: more =>
    if isDate word && c.isDigit then
      let time := (c :: more).takeWhile isWordChar
      (word? (word ++ ' ' :: time)).map (·, (c :: more).dropWhile isWordChar)
    else (word? word).map (·, rest)
  | rest => (word? word).map (·, rest)

end DebugDesk.Toml
