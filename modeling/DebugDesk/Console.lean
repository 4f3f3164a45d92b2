/-
  Console batches.

  What the workers of an operator print arrives in batches of messages, in the order in which it
  was printed.  A message has a title, further text, and some description of its origin; the title
  alone says what happened (`Message.event`).

  In JSON only the worker, the title, the operator and the name inside a category have to be
  present; everything else stands for its default where it is absent.
-/
import DebugDesk.Event.Title
import DebugDesk.Json.Record

namespace DebugDesk

/-- When a message was printed. -/
structure Timestamp where
  /-- Seconds since the epoch. -/
  seconds : Int64 := 0
  /-- Nanoseconds within the second. -/
  nanos : Int32 := 0
  deriving DecidableEq, Inhabited

/-- One console message of one worker. -/
structure Message where
  worker : String
  timestamp : Timestamp := {}
  /-- The first line of what was printed. -/
  title : String
  /-- The lines behind the first. -/
  body : String := ""
  /-- Who printed it, such as the debugger. -/
  source : String := ""
  /-- The category of the message, such as `DEBUGGER` or `PRINT`. -/
  category : String := ""
  deriving DecidableEq, Inhabited

/-- The messages that the workers of one operator printed, in order. -/
structure Batch where
  operator : String
  messages : List Message := []
  deriving DecidableEq, Inhabited

namespace Timestamp

/-- The time as a JSON value. -/
def toJson (t : Timestamp) : Json :=
  .object [("seconds", .integer t.seconds.toInt), ("nanos", .integer t.nanos.toInt)]

/-- The time that a JSON value writes. -/
def ofJson? (value : Json) : Option Timestamp := do
  let fields ← value.fields? ["seconds", "nanos"]
  let seconds ← fields.optional? "seconds" 0
    (Json.asInteger? Int64.minValue.toInt Int64.maxValue.toInt)
  let nanos ← fields.optional? "nanos" 0
    (Json.asInteger? Int32.minValue.toInt Int32.maxValue.toInt)
  return ⟨Int64.ofInt seconds, Int32.ofInt nanos⟩

end Timestamp

namespace Message

/-- A message of a worker's debugger with the given title. -/
def debugger (worker title : String) : Message :=
  { worker, title, source := "(Pdb)", category := "DEBUGGER" }

/-- What a message says has happened. -/
def event (m : Message) : Event := Event.ofTitle m.title

/-- The names of the fields of a message. -/
def fieldNames : List String := ["workerId", "timestamp", "title", "message", "source", "msgType"]

/-- The message as a JSON value. -/
def toJson (m : Message) : Json :=
  .object [
    ("workerId", .string m.worker),
    ("timestamp", m.timestamp.toJson),
    ("title", .string m.title),
    ("message", .string m.body),
    ("source", .string m.source),
    ("msgType", .object [("name", .string m.category)])]

/-- The name inside a category. -/
def categoryOfJson? (value : Json) : Option String := do
  let fields ← value.fields? ["name"]
  fields.required? "name" Json.asString?

/-- The message that a JSON value writes. -/
def ofJson? (value : Json) : Option Message := do
  let fields ← value.fields? fieldNames
  let worker ← fields.required? "workerId" Json.asString?
  let timestamp ← fields.optional? "timestamp" {} Timestamp.ofJson?
  let title ← fields.required? "title" Json.asString?
  let body ← fields.optional? "message" "" Json.asString?
  let source ← fields.optional? "source" "" Json.asString?
  let category ← fields.optional? "msgType" "" categoryOfJson?
  return { worker, timestamp, title, body, source, category }

end Message

namespace Batch

/-- The names of the fields of a batch. -/
def fieldNames : List String := ["operatorId", "messages"]

/-- The batch as a JSON value. -/
def toJson (b : Batch) : Json :=
  .object [("operatorId", .string b.operator), ("messages", .array (b.messages.map Message.toJson))]

/-- The batch that a JSON value writes. -/
def ofJson? (value : Json) : Option Batch := do
  let fields ← value.fields? fieldNames
  let operator ← fields.required? "operatorId" Json.asString?
  let messages ← fields.optional? "messages" [] (Json.asList? Message.ofJson?)
  return { operator, messages }

end Batch

end DebugDesk
