/-
  The event loop loses, repeats and reorders nothing.

  `Desk.Rounds` tells what a loop has to do, round by round and without the function that decides
  which feed is asked: an announcement is taken wherever one is ready; an update only where no
  announcement is; a batch only where nothing else is; where nothing is ready the loop waits; and it
  ends where all feeds have ended, and nowhere else.  What is ready when is up to the feeds, which
  may say "not yet" as often as they like.

  The crux is that there is exactly one way through these rounds, and that it is the one that
  `Desk.run` goes (`rounds_iff`).  It takes the items of `Feeds.schedule`.  Then everything else is
  read off the rounds by induction:

    * every feed's items are taken, each once and in the feed's order (`Rounds.items_eq`);
    * the loop leaves the desk that a session of the same calls leaves, and counts the replies of
      that session (`takeItems_eq_play`), whatever batches fail in it;
    * where everything is ready at once, announcements come first and batches last
      (`schedule_ofList`).
-/
import DebugDesk.Desk.Loop
import DebugDesk.Proofs.Desk.Call
import DebugDesk.Sample
import Mathlib.Algebra.Ring.Nat

namespace DebugDesk

/-! ## Feeds that are asked -/

namespace Feed

variable {α : Type}

/-- Whether a feed that is asked now answers with an item. -/
def isReady : Feed α → Bool
  | some _ :: _ => true
  | _ => false

theorem exists_of_isReady {feed : Feed α} (ready : feed.isReady = true) :
    ∃ item rest, feed = some item :: rest := by
  rcases feed with _ | ⟨_ | item, rest⟩
  · nomatch ready
  · nomatch ready
  · exact ⟨item, rest, rfl⟩

theorem eq_of_not_isReady {feed : Feed α} (idle : feed.isReady = false) :
    feed = [] ∨ ∃ rest, feed = none :: rest := by
  rcases feed with _ | ⟨_ | item, rest⟩
  · exact Or.inl rfl
  · exact Or.inr ⟨rest, rfl⟩
  · nomatch idle

/-- A feed that is asked in vain keeps its items. -/
theorem items_tail {feed : Feed α} (idle : feed.isReady = false) : items feed.tail = items feed := by
  rcases eq_of_not_isReady idle with rfl | ⟨rest, rfl⟩ <;> rfl

end Feed

namespace Feeds

/-- **The items of three feeds in the order in which a loop takes them.** -/
def schedule (f : Feeds) : List Item :=
  if _h : f.length = 0 then [] else f.ask.1.toList ++ schedule f.ask.2
termination_by f.length
decreasing_by exact length_ask_lt f (by assumption)

/-! ## What a round answers -/

section Ask

variable {announcements : Feed Descriptor} {updates : Feed StatusUpdate} {batches : Feed Batch}

theorem ask_announcement (operator : Descriptor) :
    ask ⟨some operator :: announcements, updates, batches⟩
      = (some (.announcement operator), ⟨announcements, updates, batches⟩) := rfl

theorem ask_update (idle : announcements.isReady = false) (update : StatusUpdate) :
    ask ⟨announcements, some update :: updates, batches⟩
      = (some (.update update), ⟨announcements.tail, updates, batches⟩) := by
  rcases Feed.eq_of_not_isReady idle with rfl | ⟨_, rfl⟩ <;> rfl

theorem ask_batch (idle : announcements.isReady = false) (idle' : updates.isReady = false)
    (batch : Batch) :
    ask ⟨announcements, updates, some batch :: batches⟩
      = (some (.batch batch), ⟨announcements.tail, updates.tail, batches⟩) := by
  rcases Feed.eq_of_not_isReady idle with rfl | ⟨_, rfl⟩ <;>
    rcases Feed.eq_of_not_isReady idle' with rfl | ⟨_, rfl⟩ <;> rfl

theorem ask_nothing (idle : announcements.isReady = false) (idle' : updates.isReady = false)
    (idle'' : batches.isReady = false) :
    ask ⟨announcements, updates, batches⟩
      = (none, ⟨announcements.tail, updates.tail, batches.tail⟩) := by
  rcases Feed.eq_of_not_isReady idle with rfl | ⟨_, rfl⟩ <;>
    rcases Feed.eq_of_not_isReady idle' with rfl | ⟨_, rfl⟩ <;>
      rcases Feed.eq_of_not_isReady idle'' with rfl | ⟨_, rfl⟩ <;> rfl

end Ask

variable {f rest : Feeds}

theorem eq_of_length_eq_zero (h : f.length = 0) : f = ⟨[], [], []⟩ := by
  obtain ⟨announcements, updates, batches⟩ := f
  simp only [length, Nat.add_eq_zero_iff, List.length_eq_zero_iff] at h
  obtain ⟨⟨rfl, rfl⟩, rfl⟩ := h
  rfl

theorem length_ne_zero_of_ask {item : Item} (h : f.ask = (some item, rest)) : f.length ≠ 0 := by
  intro hzero
  rw [eq_of_length_eq_zero hzero] at h
  nomatch h

theorem schedule_of_item {item : Item} (h : f.ask = (some item, rest)) :
    f.schedule = item :: rest.schedule := by
  rw [schedule, dif_neg (length_ne_zero_of_ask h), h]
  rfl

theorem schedule_of_nothing (left : f.length ≠ 0) (h : f.ask = (none, rest)) :
    f.schedule = rest.schedule := by
  rw [schedule, dif_neg left, h]
  rfl

end Feeds

namespace Desk

/-! ## The loop, round by round -/

/-- **The rounds of a loop**: from the sites of its items, some feeds, and a desk and counts to start
    with, to the items that are taken and the desk and counts in the end. -/
inductive Rounds : Sites → Feeds → Desk × Tally → List Item → Desk × Tally → Prop where
  /-- All feeds have ended. -/
  | ended (sites : Sites) (state : Desk × Tally) : Rounds sites ⟨[], [], []⟩ state [] state
  /-- An announcement is ready. -/
  | announcement {sites : Sites} {announcements : Feed Descriptor} {updates : Feed StatusUpdate}
    {batches : Feed Batch} {state result : Desk × Tally} {items : List Item} (operator : Descriptor)
    (behind : Rounds sites.later ⟨announcements, updates, batches⟩ (takeAnnouncement state operator)
      items result) :
    Rounds sites ⟨some operator :: announcements, updates, batches⟩ state
      (.announcement operator :: items) result
  /-- An update is ready, and no announcement is. -/
  | update {sites : Sites} {announcements : Feed Descriptor} {updates : Feed StatusUpdate}
    {batches : Feed Batch} {state result : Desk × Tally} {items : List Item} (update : StatusUpdate)
    (idle : announcements.isReady = false)
    (behind : Rounds sites.later ⟨announcements.tail, updates, batches⟩ (takeUpdate state update)
      items result) :
    Rounds sites ⟨announcements, some update :: updates, batches⟩ state
      (.update update :: items) result
  /-- A batch is ready, and neither an announcement nor an update is. -/
  | batch {sites : Sites} {announcements : Feed Descriptor} {updates : Feed StatusUpdate}
    {batches : Feed Batch} {state result : Desk × Tally} {items : List Item} (batch : Batch)
    (idle : announcements.isReady = false) (idle' : updates.isReady = false)
    (behind : Rounds sites.later ⟨announcements.tail, updates.tail, batches⟩
      (takeBatch (sites 0) state batch)
      items result) :
    Rounds sites ⟨announcements, updates, some batch :: batches⟩ state
      (.batch batch :: items) result
  /-- Nothing is ready, and some feed has not ended. -/
  | wait {sites : Sites} {announcements : Feed Descriptor} {updates : Feed StatusUpdate}
    {batches : Feed Batch} {state result : Desk × Tally} {items : List Item}
    (idle : announcements.isReady = false) (idle' : updates.isReady = false)
    (idle'' : batches.isReady = false)
    (left : Feeds.length ⟨announcements, updates, batches⟩ ≠ 0)
    (behind : Rounds sites ⟨announcements.tail, updates.tail, batches.tail⟩ state items result) :
    Rounds sites ⟨announcements, updates, batches⟩ state items result

variable {sites : Sites} {f rest : Feeds} {state result : Desk × Tally} {items : List Item}

theorem runFrom_of_item {item : Item} (h : f.ask = (some item, rest)) :
    runFrom sites state f = runFrom sites.later (takeItem (sites 0) state item) rest := by
  rw [runFrom, dif_neg (Feeds.length_ne_zero_of_ask h), h]
  rfl

theorem runFrom_of_nothing (left : f.length ≠ 0) (h : f.ask = (none, rest)) :
    runFrom sites state f = runFrom sites state rest := by
  rw [runFrom, dif_neg left, h]
  rfl

/-- The loop goes the only way that there is. -/
theorem Rounds.eq_schedule (h : Rounds sites f state items result) :
    items = f.schedule ∧ result = runFrom sites state f := by
  induction h with
  | ended sites state => exact ⟨by rw [Feeds.schedule]; rfl, by rw [runFrom]; rfl⟩
  | announcement operator behind ih =>
    rw [Feeds.schedule_of_item (Feeds.ask_announcement operator),
      runFrom_of_item (Feeds.ask_announcement operator), ih.1, ih.2]
    exact ⟨rfl, rfl⟩
  | update update idle behind ih =>
    rw [Feeds.schedule_of_item (Feeds.ask_update idle update),
      runFrom_of_item (Feeds.ask_update idle update), ih.1, ih.2]
    exact ⟨rfl, rfl⟩
  | batch batch idle idle' behind ih =>
    rw [Feeds.schedule_of_item (Feeds.ask_batch idle idle' batch),
      runFrom_of_item (Feeds.ask_batch idle idle' batch), ih.1, ih.2]
    exact ⟨rfl, rfl⟩
  | wait idle idle' idle'' left behind ih =>
    have hask := Feeds.ask_nothing idle idle' idle''
    rw [Feeds.schedule_of_nothing left hask, runFrom_of_nothing left hask]
    exact ih

/-- There is a way through the rounds, whatever the feeds answer. -/
theorem exists_rounds (f : Feeds) : ∀ (sites : Sites) (state : Desk × Tally),
    ∃ items result, Rounds sites f state items result := by
  -- every round uses up an answer, so the induction is on how many are left
  induction hlength : f.length using Nat.strongRecOn generalizing f with
  | ind n ih =>
    intro sites state
    by_cases left : f.length = 0
    · rw [Feeds.eq_of_length_eq_zero left]
      exact ⟨[], state, .ended sites state⟩
    · have hrest : ∀ {item : Option Item} {rest : Feeds}, f.ask = (item, rest) →
          ∀ (sites : Sites) (state : Desk × Tally),
            ∃ items result, Rounds sites rest state items result := by
        intro item rest hask
        have hlt := Feeds.length_ask_lt f left
        rw [hask, hlength] at hlt
        exact ih _ hlt rest rfl
      obtain ⟨announcements, updates, batches⟩ := f
      cases idle : announcements.isReady with
      | true =>
        obtain ⟨operator, announcements, rfl⟩ := Feed.exists_of_isReady idle
        obtain ⟨items, result, h⟩ := hrest rfl sites.later (takeAnnouncement state operator)
        exact ⟨_, result, .announcement operator h⟩
      | false =>
        cases idle' : updates.isReady with
        | true =>
          obtain ⟨update, updates, rfl⟩ := Feed.exists_of_isReady idle'
          obtain ⟨items, result, h⟩ :=
            hrest (Feeds.ask_update idle update) sites.later (takeUpdate state update)
          exact ⟨_, result, .update update idle h⟩
        | false =>
          cases idle'' : batches.isReady with
          | true =>
            obtain ⟨batch, batches, rfl⟩ := Feed.exists_of_isReady idle''
            obtain ⟨items, result, h⟩ := hrest (Feeds.ask_batch idle idle' batch) sites.later
              (takeBatch (sites 0) state batch)
            exact ⟨_, result, .batch batch idle idle' h⟩
          | false =>
            obtain ⟨items, result, h⟩ := hrest (Feeds.ask_nothing idle idle' idle'') sites state
            exact ⟨items, result, .wait idle idle' idle'' left h⟩

/-- **There is exactly one way through the rounds, and the loop goes it.** -/
theorem rounds_iff : Rounds sites f state items result ↔
    items = f.schedule ∧ result = runFrom sites state f := by
  constructor
  · exact Rounds.eq_schedule
  · rintro ⟨rfl, rfl⟩
    obtain ⟨items, result, h⟩ := exists_rounds f sites state
    obtain ⟨rfl, rfl⟩ := h.eq_schedule
    exact h

/-! ## Every item once, in order -/

end Desk

namespace Item

/-- The operator that an item announces, if it is an announcement. -/
def announcement? : Item → Option Descriptor
  | announcement operator => some operator
  | _ => none

/-- The update that an item is, if it is one. -/
def update? : Item → Option StatusUpdate
  | update u => some u
  | _ => none

/-- The batch that an item is, if it is one. -/
def batch? : Item → Option Batch
  | batch b => some b
  | _ => none

/-- The call by which a desk takes an item. -/
def call : Item → Desk.Call
  | announcement operator => .announce operator
  | update u => .takeStatus u
  | batch b => .hear b

end Item

namespace Desk

variable {sites : Sites} {f : Feeds} {state result : Desk × Tally} {items : List Item}

/-- **The rounds take the items of every feed, each once and in the feed's order.** -/
theorem Rounds.items_eq (h : Rounds sites f state items result) :
    items.filterMap Item.announcement? = f.announcements.items ∧
      items.filterMap Item.update? = f.updates.items ∧
      items.filterMap Item.batch? = f.batches.items := by
  induction h with
  | ended sites state => exact ⟨rfl, rfl, rfl⟩
  | announcement operator behind ih =>
    exact ⟨congrArg (operator :: ·) ih.1, ih.2.1, ih.2.2⟩
  | update update idle behind ih =>
    rw [Feed.items_tail idle] at ih
    exact ⟨ih.1, congrArg (update :: ·) ih.2.1, ih.2.2⟩
  | batch batch idle idle' behind ih =>
    rw [Feed.items_tail idle, Feed.items_tail idle'] at ih
    exact ⟨ih.1, ih.2.1, congrArg (batch :: ·) ih.2.2⟩
  | wait idle idle' idle'' left behind ih =>
    rw [Feed.items_tail idle, Feed.items_tail idle', Feed.items_tail idle''] at ih
    exact ih

/-- The desk and the counts after some items, each taken at its site. -/
def takeItems : Sites → Desk × Tally → List Item → Desk × Tally
  | _, state, [] => state
  | sites, state, item :: items => takeItems sites.later (takeItem (sites 0) state item) items

theorem Rounds.eq_takeItems (h : Rounds sites f state items result) :
    result = takeItems sites state items := by
  induction h with
  | ended sites state => rfl
  | announcement operator behind ih => exact ih
  | update update idle behind ih => exact ih
  | batch batch idle idle' behind ih => exact ih
  | wait idle idle' idle'' left behind ih => exact ih

theorem takeItems_const (site : Site) (items : List Item) : ∀ state : Desk × Tally,
    takeItems (.const site) state items = items.foldl (takeItem site) state := by
  induction items with
  | nil => exact fun state => rfl
  | cons item items ih => exact fun state => ih (takeItem site state item)

/-! ## The desk and the counts -/

/-- The turns in which a desk takes items, each at its site. -/
def turnsOf : Sites → List Item → List Turn
  | _, [] => []
  | sites, item :: items => (sites 0, item.call) :: turnsOf sites.later items

/-- The replies to some turns. -/
def replies (d : Desk) (turns : List Turn) : List Reply := (d.watch turns).map (·.reply)

/-- The number of boards that a reply says were emptied. -/
def Reply.cleared? : Reply → Option Nat
  | cleared boards => some boards
  | _ => none

end Desk

/-- The counts with one more reply. -/
def Tally.count (t : Tally) : Desk.Reply → Tally
  | .tracked true => { t with registered := t.registered + 1 }
  | .cleared boards => { t with cleared := t.cleared + boards }
  | .done => { t with batches := t.batches + 1 }
  | .failed _ => { t with failures := t.failures + 1 }
  | _ => t

theorem Tally.cleared_foldl_count (replies : List Desk.Reply) : ∀ t : Tally,
    (replies.foldl Tally.count t).cleared
      = t.cleared + (replies.filterMap Desk.Reply.cleared?).sum := by
  induction replies with
  | nil => exact fun t => rfl
  | cons reply replies ih =>
    intro t
    rw [List.foldl_cons, ih, List.filterMap_cons]
    cases reply with
    | cleared boards => exact Nat.add_assoc _ _ _
    | tracked answer => cases answer <;> rfl
    | _ => rfl

namespace Desk

/-- Taking an item is making its call and counting the reply. -/
theorem takeItem_eq (site : Site) (d : Desk) (t : Tally) (item : Item) :
    takeItem site (d, t) item =
      ((d.perform site item.call).1, t.count (d.perform site item.call).2) := by
  cases item with
  | announcement operator =>
    show takeAnnouncement (d, t) operator
      = ((d.announce operator).1, t.count (.tracked (d.announce operator).2))
    unfold takeAnnouncement
    rcases d.announce operator with ⟨e, _ | _⟩ <;> rfl
  | update update => rfl
  | batch batch =>
    show takeBatch site (d, t) batch
      = ((d.hear site batch).1, t.count (.ofAnswer (fun _ => .done) (d.hear site batch).2))
    unfold takeBatch
    rcases d.hear site batch with ⟨e, _ | _⟩ <;> rfl

/-- **Taking items is a session of their calls**, and the counts are those of its replies. -/
theorem takeItems_eq_play (items : List Item) : ∀ (sites : Sites) (d : Desk) (t : Tally),
    takeItems sites (d, t) items =
      (d.play (turnsOf sites items), (d.replies (turnsOf sites items)).foldl Tally.count t) := by
  induction items with
  | nil => exact fun sites d t => rfl
  | cons item items ih =>
    intro sites d t
    rw [takeItems, takeItem_eq, ih]
    rfl

/-! ### Announcements -/

theorem announce_of_tracks {d : Desk} {operator : Descriptor}
    (tracked : d.settings.tracks operator.type = true) :
    d.announce operator = (d.register operator.operator, true) := if_pos tracked

theorem announce_of_not_tracks {d : Desk} {operator : Descriptor}
    (untracked : d.settings.tracks operator.type = false) : d.announce operator = (d, false) := by
  rw [announce, untracked]
  rfl

theorem settings_takeStatus (d : Desk) (update : StatusUpdate) :
    (d.takeStatus update).1.settings = d.settings := by
  refine List.foldlRecOn (motive := fun state : Desk × Nat => state.1.settings = d.settings)
    update.entries resetOne rfl fun state h entry _ => ?_
  rw [resetOne_eq]
  split <;> exact h

theorem settings_hearAll (site : Site) (k : Store.Handle) (messages : List Message) :
    ∀ d : Desk, (hearAll site k d messages).1.settings = d.settings := by
  induction messages with
  | nil => exact fun d => rfl
  | cons m messages ih =>
    intro d
    have hnext : ((d.update k (·.apply m.event)).resumeIfIdle site k).1.settings = d.settings := by
      unfold resumeIfIdle
      split <;> rfl
    unfold hearAll
    split
    · rename_i e heq
      rw [heq] at hnext
      rw [ih e, hnext]
    · exact hnext

/-- No item changes the settings. -/
theorem settings_takeItem (site : Site) (state : Desk × Tally) (item : Item) :
    (takeItem site state item).1.settings = state.1.settings := by
  rw [takeItem_eq]
  cases item with
  | announcement operator =>
    show (state.1.announce operator).1.settings = state.1.settings
    unfold announce
    split <;> rfl
  | update update => exact settings_takeStatus state.1 update
  | batch batch =>
    show (state.1.hear site batch).1.settings = state.1.settings
    unfold hear
    split
    · exact settings_hearAll site _ batch.messages state.1
    · rfl

theorem registered_takeItems (items : List Item) : ∀ (sites : Sites) (state : Desk × Tally),
    (takeItems sites state items).2.registered = state.2.registered +
      ((items.filterMap Item.announcement?).filter (state.1.settings.tracks ·.type)).length := by
  induction items with
  | nil => exact fun sites state => rfl
  | cons item items ih =>
    intro sites state
    rw [takeItems, ih, settings_takeItem, takeItem_eq, List.filterMap_cons]
    cases item with
    | announcement operator =>
      show (state.2.count (.tracked (state.1.announce operator).2)).registered + _ = _
      cases htracks : state.1.settings.tracks operator.type with
      | true =>
        simp only [announce_of_tracks htracks, Tally.count, Item.announcement?, List.filter_cons,
          htracks, if_true, List.length_cons]
        omega
      | false =>
        simp [announce_of_not_tracks htracks, Tally.count, Item.announcement?, htracks]
    | update update => rfl
    | batch batch =>
      show (state.2.count
        (.ofAnswer (fun _ => .done) (state.1.hear (sites 0) batch).2)).registered + _ = _
      cases (state.1.hear (sites 0) batch).2 <;> rfl

/-! ### Batches -/

/-- Every batch is counted, as one that was taken to its end or as one that failed. -/
theorem batches_takeItems (items : List Item) : ∀ (sites : Sites) (state : Desk × Tally),
    (takeItems sites state items).2.batches + (takeItems sites state items).2.failures =
      state.2.batches + state.2.failures + (items.filterMap Item.batch?).length := by
  induction items with
  | nil => exact fun sites state => rfl
  | cons item items ih =>
    intro sites state
    rw [takeItems, ih, takeItem_eq, List.filterMap_cons]
    cases item with
    | announcement operator =>
      show (state.2.count (.tracked (state.1.announce operator).2)).batches
        + (state.2.count (.tracked (state.1.announce operator).2)).failures + _ = _
      cases (state.1.announce operator).2 <;> rfl
    | update update => rfl
    | batch batch =>
      show (state.2.count (.ofAnswer (fun _ => .done) (state.1.hear (sites 0) batch).2)).batches
        + (state.2.count (.ofAnswer (fun _ => .done) (state.1.hear (sites 0) batch).2)).failures
          + _ = _
      cases (state.1.hear (sites 0) batch).2 with
      | ok _ =>
        simp only [Reply.ofAnswer, Tally.count, Item.batch?, List.length_cons]
        omega
      | error e =>
        simp only [Reply.ofAnswer, Tally.count, Item.batch?, List.length_cons]
        omega

/-! ## Everything ready at once -/

theorem rounds_ofList (announcements : List Descriptor) (updates : List StatusUpdate)
    (batches : List Batch) : ∀ (sites : Sites) (state : Desk × Tally), ∃ result,
      Rounds sites ⟨.ofList announcements, .ofList updates, .ofList batches⟩ state
        (announcements.map .announcement ++ updates.map .update ++ batches.map .batch) result := by
  induction announcements with
  | cons operator announcements ih =>
    intro sites state
    obtain ⟨result, h⟩ := ih sites.later (takeAnnouncement state operator)
    exact ⟨result, .announcement operator h⟩
  | nil =>
    induction updates with
    | cons update updates ih =>
      intro sites state
      obtain ⟨result, h⟩ := ih sites.later (takeUpdate state update)
      exact ⟨result, .update update rfl h⟩
    | nil =>
      induction batches with
      | nil => exact fun sites state => ⟨state, .ended sites state⟩
      | cons batch batches ih =>
        intro sites state
        obtain ⟨result, h⟩ := ih sites.later (takeBatch (sites 0) state batch)
        exact ⟨result, .batch batch rfl rfl h⟩

end Desk

/-- Where everything is ready at once, announcements come first and batches last. -/
theorem Feeds.schedule_ofList (announcements : List Descriptor) (updates : List StatusUpdate)
    (batches : List Batch) :
    schedule ⟨.ofList announcements, .ofList updates, .ofList batches⟩ =
      announcements.map .announcement ++ updates.map .update ++ batches.map .batch := by
  obtain ⟨result, h⟩ := Desk.rounds_ofList announcements updates batches
    (.const ⟨.const [], .reliable⟩) (.ofSettings "" {}, {})
  exact h.eq_schedule.1.symm

namespace Desk

/-! ## Nothing is lost, repeated or reordered -/

/-- **The loop loses, repeats and reorders nothing.**  Whatever the feeds bring, whenever it becomes
    ready, and wherever it is taken, the loop goes the only way through its rounds.  It takes the
    items of every feed in order, each once.  The desk it leaves, with its boards and its requests, is
    that of the session that makes the calls in the same order, and the counts are those of the
    replies, so that a batch that fails is counted and stops nothing.  If all items are ready at once,
    all announcements come before all updates and these before all batches. -/
theorem run_takes_every_item (d : Desk) (sites : Sites) (f : Feeds) :
    (∀ items result, Rounds sites f (d, {}) items result ↔
      items = f.schedule ∧ result = d.run sites f) ∧
    (f.schedule.filterMap Item.announcement? = f.announcements.items ∧
      f.schedule.filterMap Item.update? = f.updates.items ∧
      f.schedule.filterMap Item.batch? = f.batches.items) ∧
    d.run sites f = (d.play (turnsOf sites f.schedule),
      (d.replies (turnsOf sites f.schedule)).foldl Tally.count {}) ∧
    ((d.run sites f).2.registered
        = (f.announcements.items.filter (·.type ∈ d.settings.operatorTypes)).length ∧
      (d.run sites f).2.cleared
        = ((d.replies (turnsOf sites f.schedule)).filterMap Reply.cleared?).sum ∧
      (d.run sites f).2.batches + (d.run sites f).2.failures = f.batches.items.length) ∧
    ∀ announcements updates batches,
      Feeds.schedule ⟨.ofList announcements, .ofList updates, .ofList batches⟩
        = announcements.map .announcement ++ updates.map .update ++ batches.map .batch := by
  have hrounds : Rounds sites f (d, {}) f.schedule (d.run sites f) := rounds_iff.mpr ⟨rfl, rfl⟩
  obtain ⟨hannouncements, hupdates, hbatches⟩ := hrounds.items_eq
  have htaken : d.run sites f = takeItems sites (d, {}) f.schedule := hrounds.eq_takeItems
  have hsession := htaken.trans (takeItems_eq_play f.schedule sites d {})
  refine ⟨fun items result => rounds_iff, ⟨hannouncements, hupdates, hbatches⟩, hsession,
    ⟨?_, ?_, ?_⟩, Feeds.schedule_ofList⟩
  · rw [htaken, registered_takeItems, hannouncements,
      List.filter_congr fun operator _ => Settings.tracks_eq d.settings operator.type]
    exact Nat.zero_add _
  · rw [hsession, Tally.cleared_foldl_count]
    exact Nat.zero_add _
  · rw [htaken, batches_takeItems, hbatches]
    exact Nat.zero_add _

/-! ## Items that are late -/

/-- An announcement that comes late, a reset that comes later, and two batches in time.  The second
    batch confirms a breakpoint. -/
def lateFeeds : Feeds where
  announcements := [none, some ⟨Sample.operator, "PythonUDFV2"⟩]
  updates := [none, none, some (.ofList [(Sample.operator, { state := .uninitialized })])]
  batches := [some (Sample.paused "w1" 5), some (Sample.created "w1" 1 5)]

/-- A second worker comes while the loop runs: only the first item is taken without it. -/
def lateWorker : Sites
  | 0 => ⟨.const ["w1"], .reliable⟩
  | _ => ⟨.const ["w1", "w2"], .reliable⟩

/-- The first batch is taken before its operator is announced, and fails.  The second is taken while
    the reset is not ready, when both workers are there. -/
theorem run_takes_late_items :
    Feeds.schedule lateFeeds =
        [.batch (Sample.paused "w1" 5), .announcement ⟨Sample.operator, "PythonUDFV2"⟩,
         .batch (Sample.created "w1" 1 5),
         .update (.ofList [(Sample.operator, { state := .uninitialized })])] ∧
      ((ofSettings "" {}).run lateWorker lateFeeds).2
        = { registered := 1, cleared := 1, batches := 1, failures := 1 } ∧
      ((ofSettings "" {}).run lateWorker lateFeeds).1.listing = [(Sample.operator, [])] ∧
      ((ofSettings "" {}).run lateWorker lateFeeds).1.attempts
        = [⟨"DebugCommandRequest", ⟨"PythonUDFV2-operator-1", "w1", "continue"⟩, none⟩,
           ⟨"DebugCommandRequest", ⟨"PythonUDFV2-operator-1", "w2", "continue"⟩, none⟩] := by
  have hrounds := (run_takes_every_item (ofSettings "" {}) lateWorker lateFeeds).1
  obtain ⟨hschedule, hrun⟩ := (hrounds _ _).mp
    (.batch (Sample.paused "w1" 5) rfl rfl <| .announcement _ <|
      .batch (Sample.created "w1" 1 5) rfl rfl <| .update _ rfl <| .ended _ _)
  rw [← hschedule, ← hrun]
  exact ⟨rfl, by decide, by decide, by decide⟩

end Desk

end DebugDesk
