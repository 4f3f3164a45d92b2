/-
  TOML documents as values.

  A document is a table of named values.  Its tables come about in four ways: by a header, by
  standing on the way of a longer header, by a dotted key, or in place between braces.  How a
  table came about decides what later lines may still add to it, so a table remembers its origin:

    * a header may open a table that so far only stood on the way of others, but no other;
    * a dotted key may go through tables that are not yet opened by a header, and may put values
      only into tables that dotted keys made;
    * nothing is ever added to a table or an array written in place;
    * a key gets one value.

  `openTable?`, `openElement?` and `put?` are the three kinds of lines, as functions on the root table.
-/
import DebugDesk.Json.Basic

namespace DebugDesk

/-- How a table came about. -/
inductive Toml.Origin where
  /-- The table of a header, an element of an array of tables, or the root. -/
  | header
  /-- A table on the way of a longer header. -/
  | implied
  /-- A table on the way of a dotted key. -/
  | dotted
  /-- A table between braces. -/
  | inPlace
  deriving DecidableEq

/-- A TOML value. -/
inductive Toml where
  | string (s : String)
  | integer (n : Int)
  /-- A number with a fraction or an exponent, an infinity or a not-a-number; its own text. -/
  | float (literal : String)
  | boolean (b : Bool)
  /-- A date, a time or both; its own text. -/
  | moment (literal : String)
  /-- An array between brackets. -/
  | array (items : List Toml)
  /-- An array of tables, made by headers. -/
  | tables (elements : List Toml)
  | table (origin : Toml.Origin) (entries : List (String × Toml))
  deriving Inhabited

namespace Toml

/-! ## Changing a table -/

/-- Changes the value at a key of some entries, or adds one; `f` is given what stands there. -/
def alter? (key : String) (f : Option Toml → Option Toml) :
    List (String × Toml) → Option (List (String × Toml))
  | [] => (f none).map fun value => [(key, value)]
  | (k, v) :: rest =>
    if k = key then (f (some v)).map fun value => (k, value) :: rest
    else (alter? key f rest).map ((k, v) :: ·)

/-- Changes the entries of the last of some tables. -/
def alterLast? (f : Toml → Option Toml) : List Toml → Option (List Toml)
  | [] => none
  | [last] => (f last).map ([·])
  | element :: elements => (alterLast? f elements).map (element :: ·)

/-- Changes the table at the end of a path of keys that starts in a table.  Missing tables on the
    way are made with the given origin, and an array of tables stands for its last element. -/
def descend? (origin : Origin) (f : Toml → Option Toml) : (path : List String) → Toml → Option Toml
  | [], t => f t
  | key :: path, table kind entries =>
    let step : Option Toml → Option Toml
      | none => descend? origin f path (table origin [])
      | some (tables elements) => (alterLast? (descend? origin f path) elements).map tables
      | some (table .inPlace _) => none
      | some (table .header entries) =>
        if origin = .dotted then none else descend? origin f path (table .header entries)
      | some (table kind entries) => descend? origin f path (table kind entries)
      | some _ => none
    (alter? key step entries).map (table kind)
  | _ :: _, _ => none

/-- Opens the table of a header in the table that holds it. -/
def openIn? (key : String) : Toml → Option Toml
  | table kind entries =>
    let step : Option Toml → Option Toml
      | none => some (table .header [])
      | some (table .implied entries) => some (table .header entries)
      | some _ => none
    (alter? key step entries).map (table kind)
  | _ => none

/-- Adds an element to an array of tables in the table that holds it. -/
def appendIn? (key : String) : Toml → Option Toml
  | table kind entries =>
    let step : Option Toml → Option Toml
      | none => some (tables [table .header []])
      | some (tables elements) => some (tables (elements ++ [table .header []]))
      | some _ => none
    (alter? key step entries).map (table kind)
  | _ => none

/-- Gives a key its value in the table that a dotted key ends in.  A key behind dots may only stand
    in a table that dotted keys made. -/
def putIn? (isDotted : Bool) (key : String) (value : Toml) : Toml → Option Toml
  | table kind entries =>
    if isDotted && kind ≠ .dotted then none
    else
      let step : Option Toml → Option Toml
        | none => some value
        | some _ => none
      (alter? key step entries).map (table kind)
  | _ => none

/-! ## Lines of a document -/

/-- A dotted key: the keys before the last, and the last. -/
structure Path where
  front : List String
  last : String
  deriving DecidableEq

/-- All keys of a dotted key. -/
def Path.all (p : Path) : List String := p.front ++ [p.last]

/-- A header: opens a table. -/
def openTable? (p : Path) (root : Toml) : Option Toml := descend? .implied (openIn? p.last) p.front root

/-- A header of an array of tables: adds an element. -/
def openElement? (p : Path) (root : Toml) : Option Toml :=
  descend? .implied (appendIn? p.last) p.front root

/-- A key with its value, in the table opened last. -/
def put? (opened : List String) (p : Path) (value : Toml) (root : Toml) : Option Toml :=
  descend? .implied (descend? .dotted (putIn? (!p.front.isEmpty) p.last value) p.front) opened root

/-- The table between braces with the given keys and values. -/
def ofPairs? (pairs : List (Path × Toml)) : Option Toml :=
  pairs.foldlM (fun t pair => put? [] pair.1 pair.2 t) (table .inPlace [])

/-! ## As records -/

mutual

/-- The value as the record format sees it.  A moment is nothing that a field can hold. -/
def toJson : Toml → Json
  | string s => .string s
  | integer n => .integer n
  | float literal => .decimal literal
  | boolean b => .bool b
  | moment _ => .object []
  | array items => .array (itemsToJson items)
  | tables elements => .array (itemsToJson elements)
  | table _ entries => .object (entriesToJson entries)

/-- `toJson`, for all items of an array. -/
def itemsToJson : List Toml → List Json
  | [] => []
  | item :: items => toJson item :: itemsToJson items

/-- `toJson`, for the values of all entries. -/
def entriesToJson : List (String × Toml) → List (String × Json)
  | [] => []
  | (key, value) :: entries => (key, toJson value) :: entriesToJson entries

end

end Toml

end DebugDesk
