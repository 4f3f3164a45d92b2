/-
  Status updates and announcements of operators.

  The engine reports, per operator, the state of its execution and two counts of rows.  Only one
  state matters to breakpoints: an operator that is `uninitialized` starts over, and what was
  known about its breakpoints is void.
-/
import DebugDesk.Json.Record
import DebugDesk.Table

namespace DebugDesk

/-- The state of an operator's execution. -/
inductive OperatorState where
  | uninitialized
  | initializing
  | ready
  | running
  | pausing
  | paused
  | resuming
  | completed
  | recovering
  deriving DecidableEq, Inhabited, Repr

namespace OperatorState

/-- All states, in the order of an execution. -/
def all : List OperatorState :=
  [uninitialized, initializing, ready, running, pausing, paused, resuming, completed, recovering]

/-- The name of a state. -/
def name : OperatorState → String
  | uninitialized => "Uninitialized"
  | initializing => "Initializing"
  | ready => "Ready"
  | running => "Running"
  | pausing => "Pausing"
  | paused => "Paused"
  | resuming => "Resuming"
  | completed => "Completed"
  | recovering => "Recovering"

/-- Whether a state voids what is known about breakpoints. -/
def isReset (s : OperatorState) : Bool := s = uninitialized

/-- The state with a given name. -/
def ofName? (name : String) : Option OperatorState := all.find? fun s => s.name = name

/-- The state that a JSON value writes: its name, or an object that gives the name no content. -/
def ofJson? : Json → Option OperatorState
  | .string name => ofName? name
  | .object [(name, .null)] => ofName? name
  | _ => none

theorem ofName?_name (s : OperatorState) : ofName? s.name = some s := by
  cases s <;> decide

end OperatorState

/-- What a status update says about one operator. -/
structure Statistics where
  state : OperatorState
  /-- The rows consumed so far. -/
  inputRows : UInt64 := 0
  /-- The rows produced so far. -/
  outputRows : UInt64 := 0
  deriving DecidableEq, Inhabited

namespace Statistics

/-- The statistics as a JSON value. -/
def toJson (s : Statistics) : Json :=
  .object [
    ("operatorState", .string s.state.name),
    ("aggregatedInputRowCount", .integer s.inputRows.toNat),
    ("aggregatedOutputRowCount", .integer s.outputRows.toNat)]

/-- The statistics that a JSON value writes. -/
def ofJson? (value : Json) : Option Statistics := do
  let fields ← value.fields?
    ["operatorState", "aggregatedInputRowCount", "aggregatedOutputRowCount"]
  let state ← fields.required? "operatorState" OperatorState.ofJson?
  let inputRows ← fields.optional? "aggregatedInputRowCount" 0 Json.asWord64?
  let outputRows ← fields.optional? "aggregatedOutputRowCount" 0 Json.asWord64?
  return { state, inputRows, outputRows }

end Statistics

/-- One status update: what it says about each operator it names. -/
abbrev StatusUpdate := Table Statistics

namespace StatusUpdate

/-- The operators that an update resets, in order. -/
def resets (update : StatusUpdate) : List String :=
  (update.entries.filter fun e => e.2.state.isReset).map (·.1)

/-- The update as a JSON value: an object with a field per operator. -/
def toJson (update : StatusUpdate) : Json :=
  .object (update.entries.map fun e => (e.1, e.2.toJson))

/-- The update that a JSON value writes; an operator that is named twice has the later statistics,
    and the earlier ones have to be well formed all the same. -/
def ofJson? : Json → Option StatusUpdate
  | .object fields =>
    (fields.mapM fun e => (Statistics.ofJson? e.2).map fun s => (e.1, s)).map Table.ofList
  | _ => none

end StatusUpdate

/-- An operator as it is announced. -/
structure Descriptor where
  operator : String
  /-- The name of the operator's type. -/
  type : String
  deriving DecidableEq, Inhabited, Repr

namespace Descriptor

/-- The announcement as a JSON value. -/
def toJson (d : Descriptor) : Json :=
  .object [("operatorId", .string d.operator), ("operatorType", .string d.type)]

/-- The announcement that a JSON value writes. -/
def ofJson? (value : Json) : Option Descriptor := do
  let fields ← value.fields? ["operatorId", "operatorType"]
  let operator ← fields.required? "operatorId" Json.asString?
  let type ← fields.required? "operatorType" Json.asString?
  return { operator, type }

end Descriptor

end DebugDesk
