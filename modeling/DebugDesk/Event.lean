/-
  Debugger events.

  Of everything a debugger prints, three kinds of line change what is known about breakpoints: the
  confirmation that one was set, the confirmation that one was removed, and the frame marker of a
  stop.  Whatever else it prints is an event too, one that says nothing.
-/
import DebugDesk.Json.Record

namespace DebugDesk

/-- The meaning of one console line. -/
inductive Event where
  /-- A breakpoint was set. -/
  | created (id line : UInt32)
  /-- A breakpoint was removed. -/
  | deleted (id line : UInt32)
  /-- A worker stopped at a line. -/
  | paused (line : UInt32)
  /-- Anything else. -/
  | unrecognized
  deriving DecidableEq, Inhabited, Repr

namespace Event

/-- The source line that an event speaks of. -/
def line? : Event → Option UInt32
  | created _ line => some line
  | deleted _ line => some line
  | paused line => some line
  | unrecognized => none

/-! ## As JSON: a record tagged with the kind of the event -/

/-- The event as a JSON value. -/
def toJson : Event → Json
  | created id line =>
    .object [("event", .string "created"), ("breakpoint_id", .ofWord32 id), ("line", .ofWord32 line)]
  | deleted id line =>
    .object [("event", .string "deleted"), ("breakpoint_id", .ofWord32 id), ("line", .ofWord32 line)]
  | paused line => .object [("event", .string "paused"), ("line", .ofWord32 line)]
  | unrecognized => .object [("event", .string "unrecognized")]

/-- The id and the line of a confirmation. -/
def confirmationOfJson? (value : Json) : Option (UInt32 × UInt32) := do
  let fields ← value.fields? ["breakpoint_id", "line"]
  let id ← fields.required? "breakpoint_id" Json.asWord32?
  let line ← fields.required? "line" Json.asWord32?
  return (id, line)

/-- The event that a JSON value writes. -/
def ofJson? (value : Json) : Option Event := do
  let (kind, rest) ← value.tagged? "event"
  if kind = "created" then
    let (id, line) ← confirmationOfJson? rest
    return created id line
  else if kind = "deleted" then
    let (id, line) ← confirmationOfJson? rest
    return deleted id line
  else if kind = "paused" then
    let fields ← rest.fields? ["line"]
    let line ← fields.required? "line" Json.asWord32?
    return paused line
  else if kind = "unrecognized" then
    let _ ← rest.fields? []
    return unrecognized
  else none

end Event

end DebugDesk
