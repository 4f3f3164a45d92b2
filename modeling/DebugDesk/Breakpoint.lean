/-
  Breakpoint records.

  A record belongs to one source line.  The debugger assigns the id, so a record without an id is
  either a stop on a line where nobody set a breakpoint, or a breakpoint that was removed while a
  worker was stopped at it.  An empty condition means that every pass stops.

  A record is only ever replaced as a whole; `paused` and `detached` are the two replacements that
  keep the other fields.
-/
import DebugDesk.Json.Record
import DebugDesk.Text.Decimal

namespace DebugDesk

/-- The state of the breakpoint on one line. -/
structure Breakpoint where
  /-- The debugger's number for the breakpoint, while one is confirmed. -/
  id : Option UInt32 := none
  /-- The condition under which it stops a worker; empty for always. -/
  condition : String := ""
  /-- Whether a worker stands at the line now. -/
  hit : Bool := false
  deriving DecidableEq, Inhabited, Repr

namespace Breakpoint

/-- A breakpoint that the debugger has just confirmed: no condition, no worker at it. -/
def confirmed (id : UInt32) : Breakpoint := ⟨some id, "", false⟩

/-- The record with another condition. -/
def withCondition (b : Breakpoint) (condition : String) : Breakpoint :=
  { b with condition := condition }

/-- The record with the hit flag as given. -/
def withHit (b : Breakpoint) (hit : Bool) : Breakpoint := { b with hit := hit }

/-- The record of a line at which a worker has stopped. -/
def paused (b : Breakpoint) : Breakpoint := { b with hit := true }

/-- The record of a line whose breakpoint is gone while a worker stands at it. -/
def detached (b : Breakpoint) : Breakpoint := { b with id := none }

/-- The key of a line in a breakpoint map: its decimal text. -/
def lineKey (line : UInt32) : String := String.ofList (Text.Decimal.digits line.toNat)

/-! ## As JSON: an absent id is left out -/

/-- The names of the fields of a record. -/
def fieldNames : List String := ["breakpointId", "condition", "hit"]

/-- The record as a JSON value. -/
def toJson (b : Breakpoint) : Json :=
  let rest := [("condition", Json.string b.condition), ("hit", Json.bool b.hit)]
  .object (match b.id with
    | some id => ("breakpointId", .ofWord32 id) :: rest
    | none => rest)

/-- The record that a JSON value writes; every field may be absent. -/
def ofJson? (value : Json) : Option Breakpoint := do
  let fields ← value.fields? fieldNames
  let id ← fields.optional? "breakpointId" none (Json.asNullable? Json.asWord32?)
  let condition ← fields.optional? "condition" "" Json.asString?
  let hit ← fields.optional? "hit" false Json.asBool?
  return ⟨id, condition, hit⟩

/-! ## Two lines have two keys -/

theorem lineKey_inj {a b : UInt32} (h : lineKey a = lineKey b) : a = b := by
  have h' : Text.Decimal.digits a.toNat = Text.Decimal.digits b.toNat := by
    simpa [lineKey, String.toList_ofList] using congrArg String.toList h
  have := Text.Decimal.word32?_digits a
  rw [h', Text.Decimal.word32?_digits b] at this
  exact (Option.some.inj this).symm

example : ((confirmed 1).withCondition "x > 5").paused = ⟨some 1, "x > 5", true⟩ := by decide
example : lineKey 10 = "10" := by decide

end Breakpoint

end DebugDesk
