/-
  Replaying a recording.

  A replay feeds recorded batches to a fresh desk that follows one operator, over a transport that
  delivers everything.  It answers with the requests that were sent and with the breakpoints at
  the end.  Printed, that is one line per request and one line for the breakpoints, each a JSON
  value.
-/
import DebugDesk.Desk.Loop
import DebugDesk.Json.Printer
import DebugDesk.Recording

namespace DebugDesk

/-- The operator whose recording is replayed. -/
structure Target where
  operator : String
  /-- The type under which the operator is announced. -/
  type : String
  workers : List String := []
  deriving DecidableEq, Inhabited

/-- What a replay ends with. -/
structure Replay where
  /-- The requests sent, in order. -/
  requests : List Request
  /-- The breakpoints behind the last batch, in the order of their keys. -/
  breakpoints : List (String × Breakpoint)
  /-- What the event loop counted. -/
  tally : Tally
  deriving DecidableEq

namespace Replay

/-- The place of a desk that follows only a target. -/
def site (target : Target) : Site where
  roster := .ofTable (Table.empty.insert target.operator target.workers)
  transport := .reliable

/-- The feeds of a replay: the target is announced, and all batches are ready. -/
def feeds (target : Target) (batches : List Batch) : Feeds where
  announcements := .ofList [⟨target.operator, target.type⟩]
  updates := []
  batches := .ofList batches

/-- **Replays batches.**  Fails if the settings do not track the type of the target. -/
def run (madeUp : String) (settings : Settings) (target : Target) (batches : List Batch) :
    Except DeskError Replay :=
  let (desk, tally) := (Desk.ofSettings madeUp settings).run (.const (site target)) (feeds target batches)
  (desk.handle? target.operator).map fun h =>
    { requests := (desk.attempts.filter Attempt.isDelivered).map (·.request)
      breakpoints := (desk.store.board h).entries
      tally }

/-- The breakpoints of a replay as a JSON value. -/
def breakpointsToJson (r : Replay) : Json :=
  .object (r.breakpoints.map fun e => (e.1, e.2.toJson))

/-- The lines of a replay: its requests, and then its breakpoints. -/
def lines (r : Replay) : List String :=
  r.requests.map (·.toPayload.print) ++ [r.breakpointsToJson.print]

/-- The text of a replay; every line ends with a line feed. -/
def text (r : Replay) : String := String.join (r.lines.map (· ++ "\n"))

end Replay

end DebugDesk
