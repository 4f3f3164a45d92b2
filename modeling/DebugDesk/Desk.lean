/-
  The desk.

  A desk follows the debuggers of all workers of some operators.  It keeps a board per operator,
  hears what the consoles print, and sends commands to workers.

    * Setting and removing a breakpoint only sends a command (`toggle`).  The board changes when
      the debugger confirms on the console (`hear`).
    * Editing a condition sends it to every worker and changes the board at once
      (`editCondition`), but not before every worker has been sent it.
    * A stop marks its line, and creates the record where there is none.  A removal drops the
      record, unless a worker stands at the line; then the record stays without its id.
    * After every console message the board is looked at: as long as no worker stands anywhere,
      every worker is told to go on (`resumeIfIdle`).

  The desk owns its board store and its log of attempts; the workers and the transport belong to
  the place where it stands, and every operation that sends is given them.  An operation that
  fails keeps what was done before the failure, and says so in the desk it returns.
-/
import DebugDesk.Console
import DebugDesk.Settings
import DebugDesk.Status
import DebugDesk.Transport

namespace DebugDesk

/-! ## Boards and events -/

/-- What an event changes on a board.  A confirmation starts a new record. -/
def Board.apply (board : Board) : Event → Board
  | .created id line => board.set (Breakpoint.lineKey line) (.confirmed id)
  | .deleted _ line =>
    let key := Breakpoint.lineKey line
    match board.get? key with
    | some b => if b.hit then board.set key b.detached else board.delete key
    | none => board
  | .paused line =>
    let key := Breakpoint.lineKey line
    board.set key ((board.get? key).getD {}).paused
  | .unrecognized => board

/-- What going on changes for one record: without an id it disappears, and with one it is no
    longer hit. -/
def Board.release (board : Board) (entry : String × Breakpoint) : Board :=
  if entry.2.id.isNone then board.delete entry.1
  else if entry.2.hit then board.set entry.1 (entry.2.withHit false)
  else board

/-- What going on changes on a board. -/
def Board.releaseAll (board : Board) : Board := board.entries.foldl Board.release board

/-! ## Errors -/

/-- Why an operation of a desk fails. -/
inductive DeskError where
  | store (e : StoreError)
  | transport (e : TransportError)
  /-- The settings cannot be read. -/
  | settings (reason : String)
  deriving DecidableEq, Repr

namespace DeskError

/-- The diagnostic of a desk. -/
def message : DeskError → String
  | store e => e.message
  | transport e => "dispatch failed: " ++ e.message
  | settings reason => "configuration error: " ++ reason

/-- Whether an operator was never registered. -/
def isNotInitialized : DeskError → Bool
  | store (.notInitialized _) => true
  | _ => false

/-- Whether a transport refused a request. -/
def isTransport : DeskError → Bool
  | transport _ => true
  | _ => false

end DeskError

/-! ## The desk and where it stands -/

/-- Boards and attempts of one observer. -/
structure Desk where
  settings : Settings
  store : Store
  /-- All requests handed to the transport, in order. -/
  attempts : List Attempt := []

/-- The place where a desk stands: the workers it knows of, and the transport it sends on. -/
structure Site where
  roster : Roster
  transport : Transport

namespace Desk

/-- A desk without operators. -/
def ofSettings (madeUp : String) (settings : Settings) : Desk :=
  { settings, store := .ofMode madeUp settings.storeMode }

/-- Lifts an answer of the store. -/
def fromStore {α : Type} (answer : Except StoreError α) : Except DeskError α :=
  answer.mapError .store

/-- The handle of a registered operator's board. -/
def handle? (d : Desk) (operator : String) : Except DeskError Store.Handle :=
  fromStore (d.store.handle? operator)

/-- Changes a board. -/
def update (d : Desk) (h : Store.Handle) (f : Board → Board) : Desk :=
  { d with store := d.store.update h f }

/-! ## Registering -/

/-- Registers an operator, whatever its type. -/
def register (d : Desk) (operator : String) : Desk :=
  { d with store := (d.store.create operator).1 }

/-- Hears of an operator: registers it if its type is tracked, and says whether it is. -/
def announce (d : Desk) (operator : Descriptor) : Desk × Bool :=
  if d.settings.tracks operator.type then (d.register operator.operator, true) else (d, false)

/-! ## Status updates -/

/-- Empties the board of one operator of an update if it is reset; counts boards emptied. -/
def resetOne (state : Desk × Nat) (entry : String × Statistics) : Desk × Nat :=
  if entry.2.state.isReset then
    match state.1.store.clear entry.1 with
    | .ok store => ({ state.1 with store }, state.2 + 1)
    | .error _ => state
  else state

/-- Takes a status update: empties the board of every registered operator that is reset, and says
    how many those are. -/
def takeStatus (d : Desk) (update : StatusUpdate) : Desk × Nat :=
  update.entries.foldl resetOne (d, 0)

/-! ## Sending -/

/-- Sends a command to some workers of an operator in order, and stops at the first refusal. -/
def dispatchAll (d : Desk) (site : Site) (operator : String) (workers : List String)
    (command : Command) : Desk × Except DeskError Unit :=
  let (attempts, answer) := site.transport.sendAll d.settings.messageType d.attempts
    (workers.map (Request.ofCommand operator · command))
  ({ d with attempts }, answer.mapError .transport)

/-- Sends a command to all workers of an operator. -/
def broadcast (d : Desk) (site : Site) (operator : String) (command : Command) :
    Desk × Except DeskError Unit :=
  d.dispatchAll site operator (site.roster operator) command

/-- Tells one worker to go on. -/
def resume (d : Desk) (site : Site) (operator worker : String) : Desk × Except DeskError Unit :=
  d.dispatchAll site operator [worker] .resume

/-- Tells one worker to run to the next line. -/
def stepOver (d : Desk) (site : Site) (operator worker : String) : Desk × Except DeskError Unit :=
  d.dispatchAll site operator [worker] .next

/-! ## Console batches -/

/-- Tells all workers of an operator to go on, unless one stands somewhere. -/
def resumeIfIdle (d : Desk) (site : Site) (h : Store.Handle) : Desk × Except DeskError Unit :=
  if (d.store.board h).anyHit then (d, .ok ()) else d.broadcast site h.operator .resume

/-- Takes messages one by one: each first changes the board and then lets idle workers go on.  A
    refusal ends the batch behind the message at which it happened. -/
def hearAll (site : Site) (h : Store.Handle) : Desk → List Message → Desk × Except DeskError Unit
  | d, [] => (d, .ok ())
  | d, m :: messages =>
    match (d.update h (·.apply m.event)).resumeIfIdle site h with
    | (d, .ok ()) => hearAll site h d messages
    | stopped => stopped

/-- **Takes a console batch.** -/
def hear (d : Desk) (site : Site) (batch : Batch) : Desk × Except DeskError Unit :=
  match d.handle? batch.operator with
  | .ok h => hearAll site h d batch.messages
  | .error e => (d, .error e)

/-! ## Conditions -/

/-- The condition of the breakpoint with an id; empty if no record has the id. -/
def condition? (d : Desk) (operator : String) (id : UInt32) : Except DeskError String :=
  (d.handle? operator).map fun h =>
    match (d.store.board h).find? id with
    | some (_, b) => b.condition
    | none => ""

/-- Changes the condition of the breakpoint with an id, unless no record has the id or the
    condition is the same.  The board changes once every worker has been sent the condition. -/
def editCondition (d : Desk) (site : Site) (operator : String) (id : UInt32) (condition : String) :
    Desk × Except DeskError Unit :=
  match d.handle? operator with
  | .error e => (d, .error e)
  | .ok h =>
    match (d.store.board h).find? id with
    | none => (d, .ok ())
    | some (key, b) =>
      if b.condition = condition then (d, .ok ())
      else match d.broadcast site operator (.condition id condition) with
        | (d, .ok ()) => (d.update h (·.set key (b.withCondition condition)), .ok ())
        | refused => refused

/-! ## Toggling and going on -/

/-- Asks for the breakpoint on a line to be removed if the line has a record, and to be set
    otherwise.  The board stays as it is. -/
def toggle (d : Desk) (site : Site) (operator : String) (line : UInt32) :
    Desk × Except DeskError Unit :=
  match d.handle? operator with
  | .error e => (d, .error e)
  | .ok h =>
    let known := (d.store.board h).contains (Breakpoint.lineKey line)
    d.broadcast site operator (if known then .clearAt line else .breakAt line)

/-- Notes that the workers of an operator have gone on.  Sends nothing. -/
def noteResumed (d : Desk) (operator : String) : Desk × Except DeskError Unit :=
  match d.handle? operator with
  | .error e => (d, .error e)
  | .ok h => (d.update h Board.releaseAll, .ok ())

end Desk

end DebugDesk
