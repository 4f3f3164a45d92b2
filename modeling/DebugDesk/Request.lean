/-
  Requests: commands with an address.

  A command reaches a worker as a request that names the operator and the worker and carries the
  command's text.  A transport is handed the request as the payload of an outbound message; a
  payload is a plain JSON value whose objects list their fields in the order of their names.
-/
import DebugDesk.Command
import DebugDesk.Json.Record
import DebugDesk.Table

namespace DebugDesk

/-- A command text addressed to one worker of an operator. -/
structure Request where
  operator : String
  worker : String
  /-- The command's text. -/
  cmd : String
  deriving DecidableEq, Inhabited, Repr

namespace Request

/-- The request that carries a command. -/
def ofCommand (operator worker : String) (command : Command) : Request :=
  { operator, worker, cmd := command.text }

/-- The command that a request carries. -/
def command (r : Request) : Except Command.ParseError Command := Command.parse r.cmd

/-- The request as a JSON value. -/
def toJson (r : Request) : Json :=
  .object [("operatorId", .string r.operator), ("workerId", .string r.worker), ("cmd", .string r.cmd)]

/-- The request as the payload of a message: the same fields in the order of their names. -/
def toPayload (r : Request) : Json :=
  .object [("cmd", .string r.cmd), ("operatorId", .string r.operator), ("workerId", .string r.worker)]

/-- The request that a JSON value writes. -/
def ofJson? (value : Json) : Option Request := do
  let fields ← value.fields? ["operatorId", "workerId", "cmd"]
  let operator ← fields.required? "operatorId" Json.asString?
  let worker ← fields.required? "workerId" Json.asString?
  let cmd ← fields.required? "cmd" Json.asString?
  return { operator, worker, cmd }

/-- What a payload tells whom, if it is a request that carries a command. -/
def told? (payload : Json) : Option (String × Command) := do
  let request ← ofJson? payload
  let command ← request.command.toOption
  return (request.worker, command)

/-- What the payloads of a recorded transport tell whom, in order, if they all are such requests. -/
def allTold? (payloads : List Json) : Option (List (String × Command)) := payloads.mapM told?

end Request

/-! ## Payloads -/

namespace Json

mutual

/-- The value with the fields of every object in the order of their names; of two fields with one
    name the later stays. -/
def sorted : Json → Json
  | array items => array (itemsSorted items)
  | object fields => object (Table.ofList (fieldsSorted fields)).entries
  | value => value

/-- `sorted`, for all items of an array. -/
def itemsSorted : List Json → List Json
  | [] => []
  | item :: items => sorted item :: itemsSorted items

/-- `sorted`, for the values of all fields. -/
def fieldsSorted : List (String × Json) → List (String × Json)
  | [] => []
  | (name, value) :: fields => (name, sorted value) :: fieldsSorted fields

end

/-- A value of any shape, if all of it can be held. -/
def asPayload? (value : Json) : Option Json :=
  if value.isReadable then some value.sorted else none

end Json

/-- A message for a transport. -/
structure Outbound where
  messageType : String
  payload : Json
  deriving Inhabited

namespace Outbound

/-- The message as a JSON value. -/
def toJson (m : Outbound) : Json :=
  .object [("messageType", .string m.messageType), ("payload", m.payload)]

/-- The message that a JSON value writes. -/
def ofJson? (value : Json) : Option Outbound := do
  let fields ← value.fields? ["messageType", "payload"]
  let messageType ← fields.required? "messageType" Json.asString?
  let payload ← fields.required? "payload" Json.asPayload?
  return { messageType, payload }

end Outbound

end DebugDesk
