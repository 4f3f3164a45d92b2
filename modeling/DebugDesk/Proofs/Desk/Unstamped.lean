/-
  Which kind of boards a desk keeps cannot be seen.

  `Desk.unstamped` forgets the stamps of all boards, and with them the kind of the store: what
  remains is a desk with plain boards that hold the same records, the same operators and the same
  attempts.  Forgetting is a homomorphism: a call on the desk without stamps gives the same reply,
  and leads to the desk that the call would have led to, without stamps (`perform_unstamped`).  So
  two desks that differ in the kind of their boards only are seen to do the same, turn by turn, for
  ever (`watch_replicated`).

  The crux is that every decision of a desk reads answers of boards, which forgetting keeps
  (`Board.get?_unstamped` and its companions), and every change of a board is one with which
  forgetting commutes, for as long as writes take effect (`Board.Dominant`).
-/
import DebugDesk.Proofs.Desk.Call

namespace DebugDesk

/-! ## Tables under a function -/

namespace Table

variable {α β : Type}

/-- The table with a function applied to all values. -/
def map (f : α → β) (t : Table α) : Table β :=
  ⟨t.entries.map fun e => (e.1, f e.2), List.pairwise_map.mpr t.ascending⟩

theorem get?_map (f : α → β) (t : Table α) (key : String) :
    (t.map f).get? key = (t.get? key).map f := by
  show (t.entries.map fun e => (e.1, f e.2)).lookup key = (t.entries.lookup key).map f
  induction t.entries with
  | nil => rfl
  | cons e rest ih =>
    obtain ⟨k, v⟩ := e
    rw [List.map_cons, List.lookup_cons, List.lookup_cons]
    by_cases hk : key = k
    · have hbeq : (key == k) = true := beq_iff_eq.mpr hk
      rw [hbeq]
      rfl
    · have hbeq : (key == k) = false := beq_eq_false_iff_ne.mpr hk
      rw [hbeq]
      exact ih

theorem map_insert (f : α → β) (t : Table α) (key : String) (value : α) :
    (t.insert key value).map f = (t.map f).insert key (f value) := by
  apply ext_get?
  intro other
  rw [get?_map, get?_insert, get?_insert, get?_map]
  split <;> rfl

theorem contains_map (f : α → β) (t : Table α) (key : String) :
    (t.map f).contains key = t.contains key := by
  rw [contains, contains, get?_map, Option.isSome_map]

end Table

namespace Desk

/-! ## Forgetting stamps -/

/-- The desk with plain boards that hold the same records. -/
def unstamped (d : Desk) : Desk :=
  { settings := { d.settings with storeMode := .single }
    store := ⟨none, d.store.boards.map Board.unstamped⟩
    attempts := d.attempts }

variable {d : Desk}

theorem board_unstamped (d : Desk) (h : Store.Handle) :
    d.unstamped.store.board h = (d.store.board h).unstamped := by
  show ((d.store.boards.map Board.unstamped).get? h.operator).getD (.empty none) = _
  rw [Table.get?_map, Store.board]
  cases d.store.boards.get? h.operator with
  | none => exact (Board.unstamped_empty d.store.writer).symm
  | some board => rfl

theorem contains_unstamped (d : Desk) (operator : String) :
    d.unstamped.store.contains operator = d.store.contains operator :=
  Table.contains_map Board.unstamped d.store.boards operator

theorem handle?_unstamped (d : Desk) (operator : String) :
    d.unstamped.handle? operator = d.handle? operator := by
  rw [handle?, handle?, Store.handle?, Store.handle?, contains_unstamped]

theorem unstamped_update (d : Desk) (h : Store.Handle) (f : Board → Board)
    (hf : (f (d.store.board h)).unstamped = f (d.store.board h).unstamped) :
    (d.update h f).unstamped = d.unstamped.update h f := by
  have hboards : (d.update h f).store.boards.map Board.unstamped
      = (d.unstamped.update h f).store.boards := by
    show (d.store.boards.insert h.operator (f (d.store.board h))).map Board.unstamped
      = (d.store.boards.map Board.unstamped).insert h.operator (f (d.unstamped.store.board h))
    rw [Table.map_insert, board_unstamped, hf]
  show (⟨_, ⟨none, (d.update h f).store.boards.map Board.unstamped⟩, _⟩ : Desk) = _
  rw [hboards]
  rfl

theorem listing_unstamped (d : Desk) : d.unstamped.listing = d.listing := by
  show (d.store.boards.entries.map fun e => (e.1, e.2.unstamped)).map _ = _
  rw [List.map_map]
  apply List.map_congr_left
  intro e _
  show (e.1, e.2.unstamped.entries) = (e.1, e.2.entries)
  rw [Board.entries_unstamped]

/-! ## Sending does not look at boards -/

theorem broadcast_unstamped (d : Desk) (site : Site) (operator : String) (command : Command) :
    d.unstamped.broadcast site operator command =
      ((d.broadcast site operator command).1.unstamped,
        (d.broadcast site operator command).2) := rfl

theorem resumeIfIdle_unstamped (d : Desk) (site : Site) (h : Store.Handle) :
    d.unstamped.resumeIfIdle site h =
      ((d.resumeIfIdle site h).1.unstamped, (d.resumeIfIdle site h).2) := by
  rw [resumeIfIdle, resumeIfIdle, board_unstamped, Board.anyHit_unstamped]
  split
  · rfl
  · exact broadcast_unstamped d site h.operator .resume

/-! ## Call by call -/

theorem register_unstamped (d : Desk) (operator : String) :
    d.unstamped.register operator = (d.register operator).unstamped :=
  (unstamped_update d ⟨operator⟩ id rfl).symm

theorem announce_unstamped (d : Desk) (operator : Descriptor) :
    d.unstamped.announce operator =
      ((d.announce operator).1.unstamped, (d.announce operator).2) := by
  have htracks : d.unstamped.settings.tracks operator.type = d.settings.tracks operator.type := rfl
  rw [announce, announce, htracks, register_unstamped]
  split <;> rfl

theorem resetOne_unstamped {state : Desk × Nat} (h : state.1.Dominant)
    (entry : String × Statistics) :
    resetOne (state.1.unstamped, state.2) entry =
      ((resetOne state entry).1.unstamped, (resetOne state entry).2) := by
  rw [resetOne_eq, resetOne_eq, contains_unstamped]
  split
  · have hclear := unstamped_update state.1 ⟨entry.1⟩ Board.clear
      (Board.unstamped_clear (h.board Board.stable_dominant ⟨entry.1⟩))
    exact congrArg (·, state.2 + 1) hclear.symm
  · rfl

theorem takeStatus_unstamped (h : d.Dominant) (update : StatusUpdate) :
    d.unstamped.takeStatus update =
      ((d.takeStatus update).1.unstamped, (d.takeStatus update).2) := by
  have main : ∀ (entries : List (String × Statistics)) (state : Desk × Nat), state.1.Dominant →
      entries.foldl resetOne (state.1.unstamped, state.2) =
        ((entries.foldl resetOne state).1.unstamped, (entries.foldl resetOne state).2) := by
    intro entries
    induction entries with
    | nil => exact fun state h => rfl
    | cons entry entries ih =>
      intro state h
      rw [List.foldl_cons, List.foldl_cons, resetOne_unstamped h]
      exact ih _ (each_resetOne Board.stable_dominant h entry)
  exact main update.entries (d, 0) h

theorem hearAll_unstamped (site : Site) (k : Store.Handle) (messages : List Message) :
    ∀ {d : Desk}, d.Dominant →
      hearAll site k d.unstamped messages =
        ((hearAll site k d messages).1.unstamped, (hearAll site k d messages).2) := by
  induction messages with
  | nil => exact fun h => rfl
  | cons m messages ih =>
    intro d h
    have hboard := h.board Board.stable_dominant k
    have hnext : (d.update k (·.apply m.event)).Dominant := h.update k (hboard.apply m.event)
    unfold hearAll
    rw [← unstamped_update d k _ (Board.unstamped_apply hboard m.event), resumeIfIdle_unstamped]
    rcases hr : (d.update k (·.apply m.event)).resumeIfIdle site k with ⟨e, answer⟩
    have he : e.Dominant := by
      have hstore := store_resumeIfIdle (d.update k (·.apply m.event)) site k
      rw [hr] at hstore
      change e.store = _ at hstore
      rw [Dominant, hstore]
      exact hnext
    -- the same answer takes both desks to the next message, or stops both at this one
    cases answer with
    | ok _ => exact ih he
    | error _ => rfl

theorem hear_unstamped (h : d.Dominant) (site : Site) (batch : Batch) :
    d.unstamped.hear site batch = ((d.hear site batch).1.unstamped, (d.hear site batch).2) := by
  rw [hear, hear, handle?_unstamped]
  split
  · exact hearAll_unstamped site _ batch.messages h
  · rfl

theorem condition?_unstamped (d : Desk) (operator : String) (id : UInt32) :
    d.unstamped.condition? operator id = d.condition? operator id := by
  rw [condition?, condition?, handle?_unstamped]
  congr 1
  funext k
  rw [board_unstamped, Board.find?_unstamped]

theorem editCondition_unstamped (h : d.Dominant) (site : Site) (operator : String) (id : UInt32)
    (condition : String) :
    d.unstamped.editCondition site operator id condition =
      ((d.editCondition site operator id condition).1.unstamped,
        (d.editCondition site operator id condition).2) := by
  rw [editCondition, editCondition, handle?_unstamped]
  split
  · rfl
  · rename_i k hk
    rw [board_unstamped, Board.find?_unstamped]
    split
    · rfl
    · rename_i key x hfind
      split
      · rfl
      · rw [broadcast_unstamped]
        have hstore := store_broadcast d site operator (.condition id condition)
        rcases hb : d.broadcast site operator (.condition id condition) with ⟨e, answer⟩
        rw [hb] at hstore
        -- sending leaves the boards alone, so the board that was searched is the one written to
        have he : (e.store.board k).Dominant := by
          change e.store = d.store at hstore
          rw [hstore]
          exact h.board Board.stable_dominant k
        cases answer with
        | ok _ =>
          have hset := unstamped_update e k (·.set key (x.withCondition condition))
            (Board.unstamped_set he key (x.withCondition condition))
          exact congrArg (·, Except.ok ()) hset.symm
        | error _ => rfl

theorem toggle_unstamped (d : Desk) (site : Site) (operator : String) (line : UInt32) :
    d.unstamped.toggle site operator line =
      ((d.toggle site operator line).1.unstamped, (d.toggle site operator line).2) := by
  rw [toggle, toggle, handle?_unstamped]
  split
  · rfl
  · rw [board_unstamped, Board.contains_unstamped]
    exact broadcast_unstamped d site operator _

theorem noteResumed_unstamped (h : d.Dominant) (operator : String) :
    d.unstamped.noteResumed operator =
      ((d.noteResumed operator).1.unstamped, (d.noteResumed operator).2) := by
  rw [noteResumed, noteResumed, handle?_unstamped]
  split
  · rfl
  · rename_i k hk
    rw [unstamped_update d k Board.releaseAll (Board.unstamped_releaseAll (h.board Board.stable_dominant k))]

end Desk

/-- Working on a board directly gives the same answer without stamps, and leads to the same
    records. -/
theorem Board.perform_unstamped {b : Board} (h : b.Dominant) (op : Board.Operation) :
    b.unstamped.perform op = ((b.perform op).1.unstamped, (b.perform op).2) := by
  cases op with
  | set key x => exact congrArg (·, Board.Answer.done) (Board.unstamped_set h key x).symm
  | delete key =>
    show (b.unstamped.delete key, Answer.record (b.unstamped.get? key))
      = ((b.delete key).unstamped, Answer.record (b.get? key))
    rw [Board.unstamped_delete h, Board.get?_unstamped]
  | clear => exact congrArg (·, Board.Answer.done) (Board.unstamped_clear h).symm
  | _ => simp [Board.perform]

namespace Desk

variable {d : Desk}

/-- **Forgetting stamps commutes with every call**, and changes no reply. -/
theorem perform_unstamped (h : d.Dominant) (site : Site) (call : Call) :
    d.unstamped.perform site call =
      ((d.perform site call).1.unstamped, (d.perform site call).2) := by
  cases call with
  | register operator =>
    show (d.unstamped.register operator, Reply.handle ⟨operator⟩)
      = ((d.register operator).unstamped, Reply.handle ⟨operator⟩)
    rw [register_unstamped]
  | announce operator => simp only [perform, announce_unstamped]
  | takeStatus update => simp only [perform, takeStatus_unstamped h]
  | hear batch => simp only [perform, hear_unstamped h]
  | handle operator => simp only [perform, handle?_unstamped]
  | condition operator id => simp only [perform, condition?_unstamped]
  | editCondition operator id condition => simp only [perform, editCondition_unstamped h]
  | toggle operator line => simp only [perform, toggle_unstamped]
  | resume operator worker => rfl
  | stepOver operator worker => rfl
  | noteResumed operator => simp only [perform, noteResumed_unstamped h]
  | direct k op =>
    have hop := Board.perform_unstamped (h.board Board.stable_dominant k) op
    simp only [perform, board_unstamped, hop]
    rw [unstamped_update d k (fun b => (b.perform op).1) (congrArg Prod.fst hop).symm]

theorem watch_unstamped (turns : List Turn) :
    ∀ {d : Desk}, d.Dominant → d.unstamped.watch turns = d.watch turns := by
  induction turns with
  | nil => exact fun h => rfl
  | cons turn turns ih =>
    obtain ⟨site, call⟩ := turn
    intro d h
    rw [watch, watch, perform_unstamped h]
    show (⟨_, _, (d.perform site call).1.unstamped.listing⟩ : Sight) ::
      (d.perform site call).1.unstamped.watch turns = _
    rw [ih (dominant_perform h site call), listing_unstamped]
    rfl

/-- **Nobody can tell a desk with replicas from a desk with plain boards.**  Under the same
    settings otherwise, whatever the replicas are called, the same turns get the same replies, make
    the same attempts in the same order, and leave the same entries on all boards after each of
    them; whatever the workers are at each turn, and whatever the transport accepts. -/
theorem watch_replicated (settings : Settings) (id : Option String) (madeUp madeUp' : String)
    (turns : List Turn) :
    (ofSettings madeUp { settings with storeMode := .replicated id }).watch turns =
      (ofSettings madeUp' { settings with storeMode := .single }).watch turns := by
  have hdominant : (ofSettings madeUp { settings with storeMode := .replicated id }).Dominant :=
    Store.each_ofMode madeUp (.replicated id)
  exact (watch_unstamped turns hdominant).symm

end Desk

end DebugDesk
