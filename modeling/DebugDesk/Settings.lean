/-
  Settings of a desk.

  Three things can be chosen: which types of operator get a board, the type of message in which
  requests are sent, and the kind of boards.  Each has a default, and a record of settings need
  only name what it changes.
-/
import DebugDesk.Store

namespace DebugDesk

/-- The settings of a desk. -/
structure Settings where
  /-- The types of operator that run user-defined functions and get a board. -/
  operatorTypes : List String :=
    ["PythonUDFV2", "PythonUDFSourceV2", "DualInputPortsPythonUDFV2"]
  /-- The type of message in which requests are sent. -/
  messageType : String := "DebugCommandRequest"
  /-- The kind of boards. -/
  storeMode : StoreMode := .single
  deriving DecidableEq, Inhabited, Repr

namespace Settings

/-- Whether operators of a type get a board. -/
def tracks (s : Settings) (type : String) : Bool := s.operatorTypes.contains type

theorem tracks_eq (s : Settings) (type : String) : s.tracks type = decide (type ∈ s.operatorTypes) :=
  List.contains_eq_mem type s.operatorTypes

theorem tracks_iff (s : Settings) (type : String) : s.tracks type = true ↔ type ∈ s.operatorTypes :=
  List.contains_iff_mem

/-- The settings as a JSON value. -/
def toJson (s : Settings) : Json :=
  .object [
    ("udf_operator_types", .ofStrings s.operatorTypes),
    ("command_message_type", .string s.messageType),
    ("store_mode", s.storeMode.toJson)]

/-- The settings that a JSON value writes; what it leaves out has its default. -/
def ofJson? (value : Json) : Option Settings := do
  let fields ← value.fields? ["udf_operator_types", "command_message_type", "store_mode"]
  let defaults : Settings := {}
  let operatorTypes ← fields.optional? "udf_operator_types" defaults.operatorTypes
    (Json.asList? Json.asString?)
  let messageType ← fields.optional? "command_message_type" defaults.messageType Json.asString?
  let storeMode ← fields.optional? "store_mode" defaults.storeMode StoreMode.ofJson?
  return { operatorTypes, messageType, storeMode }

end Settings

end DebugDesk
