/-
  Reading TOML documents.

  A document is a sequence of lines: blank lines and comments, headers, and keys with values.
  Values nest in arrays and tables written in place; how deep they may nest is fixed, and this
  bound is what the recursion on values descends on.  A loop over the parts of a value or over the
  lines takes at least one character a round, so the length of the text bounds it.
-/
import DebugDesk.Text.Split
import DebugDesk.Toml.Scalar

namespace DebugDesk.Toml

/-- How deep arrays and tables in place may nest, and how many keys a dotted key may have. -/
def maxNesting : Nat := 79

/-! ## Between the parts -/

/-- A text without the blanks at its start. -/
def dropSpaces (text : List Char) : List Char := text.dropWhile isSpace

/-- A text without the blanks, line breaks and comments at its start.  A comment ends at a line
    break. -/
def dropGap? (inComment : Bool) : List Char → Option (List Char)
  | [] => if inComment then none else some []
  | '\r' :: '\n' :: rest => dropGap? false rest
  | c :: rest =>
    if c = '\n' then dropGap? false rest
    else if inComment then (if isVisible c then dropGap? true rest else none)
    else if isSpace c then dropGap? false rest
    else if c = '#' then dropGap? true rest
    else some (c :: rest)

/-- What follows the end of a line: blanks, perhaps a comment, and a break or the end of the text. -/
def afterLine? (text : List Char) : Option (List Char) :=
  let text := match dropSpaces text with
    | '#' :: comment => comment.dropWhile isVisible
    | text => text
  match text with
  | [] => some []
  | text => afterBreak? text

/-! ## Keys -/

/-- A character of a key without quotes. -/
def isKeyChar (c : Char) : Bool := c.isAlphanum || c = '_' || c = '-'

/-- A key, and what follows it. -/
def key? (text : List Char) : Option (String × List Char) :=
  match text with
  | '"' :: rest => (basic? rest).map fun (key, rest) => (String.ofList key, rest)
  | '\'' :: rest => (literal? rest).map fun (key, rest) => (String.ofList key, rest)
  | text =>
    let key := text.takeWhile isKeyChar
    if key = [] then none else some (String.ofList key, text.dropWhile isKeyChar)

/-- A dotted key of at most so many keys, with blanks around each, and what follows it. -/
def path? : Nat → List Char → Option (Path × List Char)
  | 0, _ => none
  | count + 1, text =>
    match key? (dropSpaces text) with
    | none => none
    | some (key, rest) =>
      match dropSpaces rest with
      | '.' :: rest =>
        (path? count rest).map fun (path, rest) => ({ path with front := key :: path.front }, rest)
      | rest => some (⟨[], key⟩, rest)

/-! ## Values -/

/-- A reader: a value and what follows it. -/
abbrev ValueReader := List Char → Option (Toml × List Char)

/-- The items of an array, behind its opening bracket, and what follows it. -/
def items? (value? : ValueReader) : Nat → List Char → Option (List Toml × List Char)
  | 0, _ => none
  | rounds + 1, text =>
    match dropGap? false text with
    | none => none
    | some (']' :: rest) => some ([], rest)
    | some text =>
      match value? text with
      | none => none
      | some (value, rest) =>
        match dropGap? false rest with
        | some (',' :: rest) =>
          (items? value? rounds rest).map fun (values, rest) => (value :: values, rest)
        | some (']' :: rest) => some ([value], rest)
        | _ => none

/-- A key with its value, and what follows it. -/
def pair? (value? : ValueReader) (text : List Char) : Option ((Path × Toml) × List Char) :=
  match path? maxNesting text with
  | some (path, '=' :: rest) =>
    (value? (dropSpaces rest)).map fun (value, rest) => ((path, value), rest)
  | _ => none

/-- The keys and values of a table in place from one key on, and what follows the table. -/
def pairs? (value? : ValueReader) : Nat → List Char → Option (List (Path × Toml) × List Char)
  | 0, _ => none
  | rounds + 1, text =>
    match pair? value? text with
    | none => none
    | some (pair, rest) =>
      match dropSpaces rest with
      | ',' :: rest => (pairs? value? rounds rest).map fun (pairs, rest) => (pair :: pairs, rest)
      | '\x7d' :: rest => some ([pair], rest)
      | _ => none

/-- The table in place behind an opening brace, and what follows it. -/
def inPlace? (value? : ValueReader) (text : List Char) : Option (Toml × List Char) :=
  match dropSpaces text with
  | '\x7d' :: rest => some (table .inPlace [], rest)
  | text =>
    match pairs? value? text.length text with
    | some (pairs, rest) => (ofPairs? pairs).map (·, rest)
    | none => none

/-- A value that nests at most so many levels deep, and what follows it. -/
def value? : (levels : Nat) → ValueReader
  | 0, text =>
    match text with
    | '[' :: _ => none
    | '\x7b' :: _ => none
    | text => (string? text).elim (wordValue? text) fun (s, rest) => some (string (String.ofList s), rest)
  | levels + 1, text =>
    match text with
    | '[' :: rest =>
      (items? (value? levels) rest.length rest).map fun (items, rest) => (array items, rest)
    | '\x7b' :: rest => inPlace? (value? levels) rest
    | text => (string? text).elim (wordValue? text) fun (s, rest) => some (string (String.ofList s), rest)

/-! ## Lines -/

/-- A document under way: its root table, and the path of the table opened last. -/
structure Document where
  root : Toml := table .header []
  opened : List String := []

/-- A header behind its opening brackets, and what follows its line. -/
def header? (closing : List Char) (text : List Char) : Option (Path × List Char) :=
  match path? maxNesting text with
  | some (path, rest) =>
    match Text.after? closing rest with
    | some rest => (afterLine? rest).map (path, ·)
    | none => none
  | none => none

/-- The next line that is neither blank nor a comment, applied to a document, and what follows it. -/
def line? (d : Document) (text : List Char) : Option (Document × List Char) :=
  match text with
  | '[' :: '[' :: rest =>
    match header? [']', ']'] rest with
    | some (path, rest) =>
      (openElement? path d.root).map fun root => ({ root, opened := path.all }, rest)
    | none => none
  | '[' :: rest =>
    match header? [']'] rest with
    | some (path, rest) =>
      (openTable? path d.root).map fun root => ({ root, opened := path.all }, rest)
    | none => none
  | text =>
    match pair? (value? maxNesting) text with
    | some ((path, value), rest) =>
      match put? d.opened path value d.root, afterLine? rest with
      | some root, some rest => some ({ d with root }, rest)
      | _, _ => none
    | none => none

/-- The lines of a document, one a round. -/
def lines? : Nat → Document → List Char → Option Document
  | 0, _, _ => none
  | rounds + 1, d, text =>
    match dropSpaces text with
    | [] => some d
    | c :: rest =>
      if c = '#' || c = '\n' || c = '\r' then
        match afterLine? (c :: rest) with
        | some rest => lines? rounds d rest
        | none => none
      else match line? d (c :: rest) with
        | some (d, rest) => lines? rounds d rest
        | none => none

/-- **The root table of a document.**  A byte order mark at its start is passed over. -/
def read? (text : String) : Option Toml :=
  let text := match text.toList with
    | '\ufeff' :: rest => rest
    | text => text
  (lines? (text.length + 1) {} text).map (·.root)

end DebugDesk.Toml
