/-
  Records in JSON.

  A record is an object of named fields, or an array of the same fields in their declared order.
  The two forms, and every order and repetition of fields, are told apart once, by `fields?`,
  which gives the fields that are present in the declared order:

    * in an object, unknown fields are passed over, whatever they hold, and a known field may
      stand only once;
    * in an array, the fields at the end may be left out, and nothing may stand behind the last.

  A tagged record carries in one of its fields the name of its kind, and which fields are known
  depends on that name; so its value is kept whole until the name is found, and every part of it
  has to be readable.
-/
import DebugDesk.Json.Basic

namespace DebugDesk.Json

/-- The fields of a record that are present, in their declared order. -/
abbrev Fields := List (String × Json)

/-- The fields of a record with the given names. -/
def fields? (names : List String) : Json → Option Fields
  | object fields =>
    if names.all fun name => fields.countP (·.1 == name) ≤ 1 then
      some (names.filterMap fun name => (fields.lookup name).map (name, ·))
    else none
  | array items => if items.length ≤ names.length then some (names.zip items) else none
  | _ => none

/-- The kind of a tagged record, and the record without its tag. -/
def tagged? (tag : String) (value : Json) : Option (String × Json) :=
  if !value.isReadable then none
  else match value with
    | object fields =>
      match fields.filter (·.1 == tag) with
      | [(_, string kind)] => some (kind, object (fields.filter (·.1 != tag)))
      | _ => none
    | array (string kind :: items) => some (kind, array items)
    | _ => none

namespace Fields

/-- A field that has to be present. -/
def required? {α : Type} (fields : Fields) (name : String) (read? : Json → Option α) : Option α :=
  match fields.lookup name with
  | some value => read? value
  | none => none

/-- A field that stands for a default where it is absent. -/
def optional? {α : Type} (fields : Fields) (name : String) (default : α) (read? : Json → Option α) :
    Option α :=
  match fields.lookup name with
  | some value => read? value
  | none => some default

end Fields

/-! ## Values of fields -/

/-- A string. -/
def asString? : Json → Option String
  | string s => some s
  | _ => none

/-- A truth value. -/
def asBool? : Json → Option Bool
  | bool b => some b
  | _ => none

/-- An integer between two bounds. -/
def asInteger? (least greatest : Int) : Json → Option Int
  | integer n => if least ≤ n ∧ n ≤ greatest then some n else none
  | _ => none

/-- An unsigned word of 32 bits. -/
def asWord32? (value : Json) : Option UInt32 :=
  (asInteger? 0 (UInt32.size - 1) value).map fun n => UInt32.ofNat n.toNat

/-- An unsigned word of 64 bits. -/
def asWord64? (value : Json) : Option UInt64 :=
  (asInteger? 0 (UInt64.size - 1) value).map fun n => UInt64.ofNat n.toNat

/-- A natural number that fits a word of 64 bits. -/
def asClock? (value : Json) : Option Nat :=
  (asInteger? 0 (UInt64.size - 1) value).map Int.toNat

/-- `null` as nothing, and any other value as the reader reads it. -/
def asNullable? {α : Type} (read? : Json → Option α) : Json → Option (Option α)
  | null => some none
  | value => (read? value).map some

/-- All items of an array. -/
def asList? {α : Type} (read? : Json → Option α) : Json → Option (List α)
  | array items => items.mapM read?
  | _ => none

/-! ## Values to print -/

/-- A word of 32 bits as a number. -/
def ofWord32 (w : UInt32) : Json := integer w.toNat

/-- A value that may be absent, as `null` where it is. -/
def ofNullable {α : Type} (write : α → Json) : Option α → Json
  | none => null
  | some a => write a

/-- An array of strings. -/
def ofStrings (strings : List String) : Json := array (strings.map string)

end DebugDesk.Json
