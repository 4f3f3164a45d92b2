/-
  Snapshots: what replicas exchange.

  A snapshot is the whole state of a replica at one moment: its clock and all its registers,
  deletions included.  Merging takes over every register whose stamp is greater, so it does not
  matter in which order, how often or how late snapshots arrive.

  On the way a snapshot is JSON, with one record per register.
-/
import DebugDesk.Replica

namespace DebugDesk

/-- The state of a replica at one moment. -/
structure Snapshot where
  /-- The replica that took it. -/
  origin : String
  /-- The clock of that replica. -/
  clock : Nat
  /-- The registers with their keys. -/
  records : List (String × Register)
  deriving DecidableEq, Inhabited

namespace Replica

/-- The present state, for peers. -/
def snapshot (r : Replica) : Snapshot := ⟨r.id, r.clock, r.registers.entries⟩

/-- **Takes over what a snapshot knows better.** -/
def merge (r : Replica) (s : Snapshot) : Replica :=
  s.records.foldl (fun r e => r.take e.1 e.2) { r with clock := max r.clock s.clock }

end Replica

/-! ## As JSON -/

namespace Snapshot

/-- One register with its key as a JSON value. -/
def recordToJson (record : String × Register) : Json :=
  .object [
    ("key", .string record.1),
    ("value", .ofNullable Breakpoint.toJson record.2.value),
    ("clock", .integer record.2.stamp.clock),
    ("writer", .string record.2.stamp.writer)]

/-- The snapshot as a JSON value. -/
def toJson (s : Snapshot) : Json :=
  .object [
    ("origin", .string s.origin),
    ("clock", .integer s.clock),
    ("records", .array (s.records.map recordToJson))]

/-- The register and the key that a JSON value writes. -/
def recordOfJson? (value : Json) : Option (String × Register) := do
  let fields ← value.fields? ["key", "value", "clock", "writer"]
  let key ← fields.required? "key" Json.asString?
  let value ← fields.optional? "value" none (Json.asNullable? Breakpoint.ofJson?)
  let clock ← fields.required? "clock" Json.asClock?
  let writer ← fields.required? "writer" Json.asString?
  return (key, ⟨value, ⟨clock, writer⟩⟩)

/-- The snapshot that a JSON value writes; keys may repeat and stand in any order. -/
def ofJson? (value : Json) : Option Snapshot := do
  let fields ← value.fields? ["origin", "clock", "records"]
  let origin ← fields.required? "origin" Json.asString?
  let clock ← fields.required? "clock" Json.asClock?
  let records ← fields.required? "records" (Json.asList? recordOfJson?)
  return { origin, clock, records }

end Snapshot

end DebugDesk
