/-
  The event loop.

  Three feeds bring announcements, status updates and console batches.  A feed that is asked
  answers with an item, says that none is ready yet, or has ended.  In every round the feeds are
  asked in this order, until one answers with an item; the item is taken before anything is asked
  again.  So announcements come before status updates and these before batches wherever more than
  one is ready, every feed keeps its own order, and the loop ends when all three feeds have.

  A batch that fails is counted and stops nothing.  The workers and the transport may be others from
  item to item (`Sites`).

  A round that takes no item uses up an answer of some feed, or all feeds have ended: that is why
  the loop ends.
-/
import DebugDesk.Desk

namespace DebugDesk

/-- What a feed will answer when it is asked: an item, or nothing yet.  Behind the last answer the
    feed has ended. -/
abbrev Feed (α : Type) := List (Option α)

/-- A feed whose items are all ready. -/
def Feed.ofList {α : Type} (items : List α) : Feed α := items.map some

/-- The items of a feed in order. -/
def Feed.items {α : Type} (feed : Feed α) : List α := feed.filterMap id

/-- What an event loop has counted. -/
structure Tally where
  /-- Announcements of operators that are tracked. -/
  registered : Nat := 0
  /-- Boards emptied. -/
  cleared : Nat := 0
  /-- Batches taken to their end. -/
  batches : Nat := 0
  /-- Batches that failed. -/
  failures : Nat := 0
  deriving DecidableEq, Inhabited, Repr

/-- The three feeds of a loop. -/
structure Feeds where
  announcements : Feed Descriptor
  updates : Feed StatusUpdate
  batches : Feed Batch

/-- An item of some feed. -/
inductive Item where
  | announcement (operator : Descriptor)
  | update (update : StatusUpdate)
  | batch (batch : Batch)

namespace Feeds

/-! ## One round -/

/-- The number of answers that three feeds have left. -/
def length (f : Feeds) : Nat := f.announcements.length + f.updates.length + f.batches.length

/-- One round: the item that the feeds answer with, if there is one, and what is left of them. -/
def ask (f : Feeds) : Option Item × Feeds :=
  match f.announcements with
  | some operator :: rest => (some (.announcement operator), { f with announcements := rest })
  | announcements =>
    let f := { f with announcements := announcements.tail }
    match f.updates with
    | some update :: rest => (some (.update update), { f with updates := rest })
    | updates =>
      let f := { f with updates := updates.tail }
      match f.batches with
      | some batch :: rest => (some (.batch batch), { f with batches := rest })
      | batches => (none, { f with batches := batches.tail })

/-- A round uses up an answer unless all feeds have ended. -/
theorem length_ask_lt (f : Feeds) (h : f.length ≠ 0) : (ask f).2.length < f.length := by
  obtain ⟨announcements, updates, batches⟩ := f
  simp only [length] at h
  rcases announcements with _ | ⟨_ | operator, announcements⟩ <;>
    rcases updates with _ | ⟨_ | update, updates⟩ <;>
      rcases batches with _ | ⟨_ | batch, batches⟩ <;>
        simp [ask, length] at h ⊢ <;> omega

end Feeds

/-- Where the items of a loop are taken: the site of each, by how many were taken before it. -/
abbrev Sites := Nat → Site

namespace Sites

/-- One site for all items. -/
def const (site : Site) : Sites := fun _ => site

/-- The sites behind the first item. -/
def later (sites : Sites) : Sites := fun taken => sites (taken + 1)

end Sites

namespace Desk

/-! ## Taking the items -/

/-- Takes an announcement. -/
def takeAnnouncement (state : Desk × Tally) (operator : Descriptor) : Desk × Tally :=
  let (desk, tracked) := state.1.announce operator
  (desk, if tracked then { state.2 with registered := state.2.registered + 1 } else state.2)

/-- Takes a status update. -/
def takeUpdate (state : Desk × Tally) (update : StatusUpdate) : Desk × Tally :=
  let (desk, cleared) := state.1.takeStatus update
  (desk, { state.2 with cleared := state.2.cleared + cleared })

/-- Takes a batch. -/
def takeBatch (site : Site) (state : Desk × Tally) (batch : Batch) : Desk × Tally :=
  match state.1.hear site batch with
  | (desk, .ok ()) => (desk, { state.2 with batches := state.2.batches + 1 })
  | (desk, .error _) => (desk, { state.2 with failures := state.2.failures + 1 })

/-- Takes an item of any feed. -/
def takeItem (site : Site) (state : Desk × Tally) : Item → Desk × Tally
  | .announcement operator => takeAnnouncement state operator
  | .update update => takeUpdate state update
  | .batch batch => takeBatch site state batch

/-- The loop from some state on: in every round the feeds are asked, and the item that they answer
    with is taken before they are asked again. -/
def runFrom (sites : Sites) (state : Desk × Tally) (f : Feeds) : Desk × Tally :=
  if _h : f.length = 0 then state
  else runFrom (if f.ask.1.isSome then sites.later else sites)
    (f.ask.1.elim state (takeItem (sites 0) state)) f.ask.2
termination_by f.length
decreasing_by exact Feeds.length_ask_lt f (by assumption)

/-- **Runs the loop until all feeds have ended.** -/
def run (d : Desk) (sites : Sites) (f : Feeds) : Desk × Tally := runFrom sites (d, {}) f

end Desk

end DebugDesk
