/-
  Sending requests.

  A transport accepts or refuses each request it is handed, and what it answers may depend on
  everything it was handed before; so a transport is a function of the attempts so far.  Nothing
  is retried and nothing is awaited: whoever sends to several workers sends in order and stops at
  the first refusal.

  `sendAll` keeps the attempts, refused ones included, in the order in which they were made.
-/
import DebugDesk.Request

namespace DebugDesk

/-- Why a transport refuses a request. -/
inductive TransportError where
  /-- Nobody receives any more. -/
  | closed
  /-- The payload cannot be written as JSON. -/
  | unwritable (reason : String)
  /-- This request is refused. -/
  | rejected (reason : String)
  deriving DecidableEq, Repr

/-- The diagnostic of a transport. -/
def TransportError.message : TransportError → String
  | closed => "transport closed"
  | unwritable reason => "payload serialization failed: " ++ reason
  | rejected reason => "message rejected: " ++ reason

/-- One request that a transport was handed, and what became of it. -/
structure Attempt where
  /-- The type of message in which it was sent. -/
  messageType : String
  request : Request
  /-- Why it was refused, if it was. -/
  refusal : Option TransportError
  deriving DecidableEq

namespace Attempt

/-- Whether the request was delivered. -/
def isDelivered (a : Attempt) : Bool := a.refusal.isNone

/-- The payloads that were delivered, in order. -/
def payloads (attempts : List Attempt) : List Json :=
  (attempts.filter isDelivered).map (·.request.toPayload)

end Attempt

/-- What a transport answers to a request of some message type, after some attempts: a refusal, or
    nothing when it delivers. -/
abbrev Transport := List Attempt → String → Request → Option TransportError

namespace Transport

/-- The transport that delivers everything. -/
def reliable : Transport := fun _ _ _ => none

/-- The transport that refuses everything because nobody receives any more. -/
def closed : Transport := fun _ _ _ => some .closed

/-- The transport that refuses requests to some workers, by name, and answers the others as
    another transport does. -/
def rejecting (workers : List String) (other : Transport) : Transport :=
  fun past messageType request =>
    if workers.contains request.worker then some (.rejected (request.worker ++ " gone"))
    else other past messageType request

/-- Sends one request. -/
def send (t : Transport) (messageType : String) (past : List Attempt) (request : Request) :
    List Attempt × Except TransportError Unit :=
  let refusal := t past messageType request
  (past ++ [⟨messageType, request, refusal⟩],
    match refusal with
    | none => .ok ()
    | some e => .error e)

/-- Sends requests in order, and stops at the first that is refused. -/
def sendAll (t : Transport) (messageType : String) (past : List Attempt) :
    List Request → List Attempt × Except TransportError Unit
  | [] => (past, .ok ())
  | request :: requests =>
    match t.send messageType past request with
    | (past, .ok ()) => sendAll t messageType past requests
    | refused => refused

/-! ## What was tried -/

theorem sendAll_nil (t : Transport) (messageType : String) (past : List Attempt) :
    t.sendAll messageType past [] = (past, .ok ()) := rfl

end Transport

/-! ## Workers -/

/-- The workers that run an operator, in order. -/
abbrev Roster := String → List String

namespace Roster

/-- The roster of a table; an operator outside the table has no workers. -/
def ofTable (table : Table (List String)) : Roster := fun operator => (table.get? operator).getD []

/-- The roster with the same workers for every operator. -/
def const (workers : List String) : Roster := fun _ => workers

end Roster

end DebugDesk
