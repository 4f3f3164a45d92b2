/-
  Calls: everything that can be asked of a desk, as data.

  A session at a desk is a list of turns, each a call together with the place where the desk stands
  at that moment (the workers may change and the transport may do anything).  `Desk.perform`
  answers one call, `Desk.play` makes all turns, and `Desk.watch` writes down what is seen after
  each of them: the reply, all attempts so far, and the entries of every board.

  Whoever got a handle can also work on the board behind it directly (`Call.direct`); every other
  call goes through the desk.

  The crux for what is proved about sessions is how few things ever happen to a board.  A desk
  only creates it empty, clears it, applies an event to it, releases it, or writes a changed
  condition into a record that it holds (`Board.Stable`).  So what these five keep, every board
  keeps through every call (`each_perform`), and no call has to be looked at again.
-/
import DebugDesk.Desk
import DebugDesk.Proofs.Board.Unstamped

namespace DebugDesk

/-! ## Working on a board directly -/

namespace Board

/-- What can be done with a board through a handle. -/
inductive Operation where
  | get (key : String)
  | set (key : String) (b : Breakpoint)
  | delete (key : String)
  | entries
  | size
  | clear
  | isEmpty
  | contains (key : String)
  | find (id : UInt32)
  | anyHit
  deriving DecidableEq, Repr

/-- What a board answers to an operation. -/
inductive Answer where
  | done
  | record (b : Option Breakpoint)
  | records (entries : List (String × Breakpoint))
  | count (n : Nat)
  | flag (answer : Bool)
  | found (entry : Option (String × Breakpoint))
  deriving DecidableEq, Repr

/-- The board after an operation, and its answer.  Deleting answers with the record that was
    there. -/
def perform (b : Board) : Operation → Board × Answer
  | .get key => (b, .record (b.get? key))
  | .set key x => (b.set key x, .done)
  | .delete key => (b.delete key, .record (b.get? key))
  | .entries => (b, .records b.entries)
  | .size => (b, .count b.size)
  | .clear => (b.clear, .done)
  | .isEmpty => (b, .flag b.isEmpty)
  | .contains key => (b, .flag (b.contains key))
  | .find id => (b, .found (b.find? id))
  | .anyHit => (b, .flag b.anyHit)

end Board

/-! ## Calls and replies -/

namespace Desk

/-- What a desk can be asked to do. -/
inductive Call where
  | register (operator : String)
  | announce (operator : Descriptor)
  | takeStatus (update : StatusUpdate)
  | hear (batch : Batch)
  | handle (operator : String)
  | condition (operator : String) (id : UInt32)
  | editCondition (operator : String) (id : UInt32) (condition : String)
  | toggle (operator : String) (line : UInt32)
  | resume (operator worker : String)
  | stepOver (operator worker : String)
  | noteResumed (operator : String)
  /-- An operation on the board behind a handle. -/
  | direct (h : Store.Handle) (op : Board.Operation)
  deriving DecidableEq

/-- Whether a call works on a board directly. -/
def Call.isDirect : Call → Bool
  | direct _ _ => true
  | _ => false

/-- What a desk replies. -/
inductive Reply where
  | done
  | handle (h : Store.Handle)
  | tracked (answer : Bool)
  | cleared (boards : Nat)
  | text (condition : String)
  | board (answer : Board.Answer)
  | failed (e : DeskError)
  deriving DecidableEq

/-- The reply that passes an answer on. -/
def Reply.ofAnswer {α : Type} (reply : α → Reply) : Except DeskError α → Reply
  | .ok a => reply a
  | .error e => failed e

/-- **The desk after a call, and its reply.** -/
def perform (d : Desk) (site : Site) : Call → Desk × Reply
  | .register operator => (d.register operator, .handle ⟨operator⟩)
  | .announce operator => ((d.announce operator).1, .tracked (d.announce operator).2)
  | .takeStatus update => ((d.takeStatus update).1, .cleared (d.takeStatus update).2)
  | .hear batch => ((d.hear site batch).1, .ofAnswer (fun _ => .done) (d.hear site batch).2)
  | .handle operator => (d, .ofAnswer .handle (d.handle? operator))
  | .condition operator id => (d, .ofAnswer .text (d.condition? operator id))
  | .editCondition operator id condition =>
    let (e, answer) := d.editCondition site operator id condition
    (e, .ofAnswer (fun _ => .done) answer)
  | .toggle operator line =>
    let (e, answer) := d.toggle site operator line
    (e, .ofAnswer (fun _ => .done) answer)
  | .resume operator worker =>
    let (e, answer) := d.resume site operator worker
    (e, .ofAnswer (fun _ => .done) answer)
  | .stepOver operator worker =>
    let (e, answer) := d.stepOver site operator worker
    (e, .ofAnswer (fun _ => .done) answer)
  | .noteResumed operator =>
    let (e, answer) := d.noteResumed operator
    (e, .ofAnswer (fun _ => .done) answer)
  | .direct h op =>
    (d.update h fun b => (b.perform op).1, .board ((d.store.board h).perform op).2)

/-- A call, and where the desk stands when it is made. -/
abbrev Turn := Site × Call

/-- The desk after some turns. -/
def play (d : Desk) (turns : List Turn) : Desk :=
  turns.foldl (fun d turn => (d.perform turn.1 turn.2).1) d

/-- What is seen after a turn. -/
structure Sight where
  reply : Reply
  attempts : List Attempt
  /-- The entries of every board, by operator. -/
  boards : List (String × List (String × Breakpoint))
  deriving DecidableEq

/-- The entries of every board, by operator. -/
def listing (d : Desk) : List (String × List (String × Breakpoint)) :=
  d.store.boards.entries.map fun e => (e.1, e.2.entries)

/-- **What is seen of a desk, turn by turn.** -/
def watch (d : Desk) : List Turn → List Sight
  | [] => []
  | (site, call) :: turns =>
    let (e, reply) := d.perform site call
    ⟨reply, e.attempts, e.listing⟩ :: e.watch turns

end Desk

/-! ## What all boards of a store keep -/

/-- What is kept by all that a desk ever does to a board. -/
structure Board.Stable (Q : Board → Prop) : Prop where
  empty : ∀ writer, Q (.empty writer)
  clear : ∀ {b : Board}, Q b → Q b.clear
  apply : ∀ {b : Board}, Q b → ∀ e, Q (b.apply e)
  releaseAll : ∀ {b : Board}, Q b → Q b.releaseAll
  edit : ∀ {b : Board}, Q b → ∀ {key : String} {x : Breakpoint}, (key, x) ∈ b.entries →
    ∀ condition, Q (b.set key (x.withCondition condition))

theorem Board.stable_dominant : Board.Stable Board.Dominant where
  empty := Board.dominant_empty
  clear h := h.clear
  apply h := h.apply
  releaseAll h := h.releaseAll
  edit h _ _ _ _ := h.set _ _

theorem Board.Dominant.perform {b : Board} (h : b.Dominant) (op : Board.Operation) :
    (b.perform op).1.Dominant := by
  cases op with
  | set key x => exact h.set key x
  | delete key => exact h.delete key
  | clear => exact h.clear
  | _ => exact h

namespace Store

/-- Every board of the store is as required. -/
def Each (Q : Board → Prop) (s : Store) : Prop :=
  ∀ operator board, s.boards.get? operator = some board → Q board

variable {Q : Board → Prop} {s : Store}

theorem each_ofMode (madeUp : String) (mode : StoreMode) : (ofMode madeUp mode).Each Q := by
  intro operator board h
  cases mode <;> nomatch h

/-- The board behind a handle is as required, too; behind a handle of an operator that was never
    registered it is empty. -/
theorem Each.board (stable : Board.Stable Q) (h : s.Each Q) (k : Handle) : Q (s.board k) := by
  rw [Store.board]
  cases hget : s.boards.get? k.operator with
  | none => exact stable.empty s.writer
  | some board => exact h k.operator board hget

theorem Each.update (h : s.Each Q) (k : Handle) {f : Board → Board} (hf : Q (f (s.board k))) :
    (s.update k f).Each Q := by
  intro operator board hget
  rw [get?_update] at hget
  split at hget
  · injection hget with he
    rw [← he]
    exact hf
  · exact h operator board hget

end Store

namespace Desk

variable {Q : Board → Prop} {d : Desk}

/-- A desk all whose boards are dominant. -/
abbrev Dominant (d : Desk) : Prop := d.store.Each Board.Dominant

/-! ## Handles -/

theorem handle?_eq_ok_iff {operator : String} {k : Store.Handle} :
    d.handle? operator = .ok k ↔ d.store.contains operator = true ∧ k = ⟨operator⟩ := by
  unfold handle? Store.handle?
  constructor
  · intro h
    split at h
    · rename_i hcontains
      injection h with hk
      exact ⟨hcontains, hk.symm⟩
    · nomatch h
  · rintro ⟨hcontains, rfl⟩
    rw [if_pos hcontains]
    rfl

section Registered

variable {operator : String} {board : Board} (h : d.store.boards.get? operator = some board)

include h

theorem handle?_of_get? : d.handle? operator = .ok ⟨operator⟩ := by
  refine handle?_eq_ok_iff.mpr ⟨?_, rfl⟩
  rw [Store.contains, Table.contains, h]
  rfl

theorem board_of_get? : d.store.board ⟨operator⟩ = board := Store.board_of_get? h

theorem get?_update_self (f : Board → Board) :
    (d.update ⟨operator⟩ f).store.boards.get? operator = some (f board) := by
  rw [update, Store.get?_update, if_pos rfl, board_of_get? h]

theorem noteResumed_of_get? :
    d.noteResumed operator = (d.update ⟨operator⟩ Board.releaseAll, .ok ()) := by
  rw [noteResumed, handle?_of_get? h]

end Registered

/-! ## Sending leaves the boards alone -/

@[simp] theorem store_broadcast (d : Desk) (site : Site) (operator : String) (command : Command) :
    (d.broadcast site operator command).1.store = d.store := rfl

@[simp] theorem store_resumeIfIdle (d : Desk) (site : Site) (h : Store.Handle) :
    (d.resumeIfIdle site h).1.store = d.store := by
  unfold resumeIfIdle
  split <;> rfl

@[simp] theorem store_toggle (d : Desk) (site : Site) (operator : String) (line : UInt32) :
    (d.toggle site operator line).1.store = d.store := by
  unfold toggle
  split
  · rfl
  · exact store_broadcast _ _ _ _

/-! ## What resets and batches do to the boards -/

/-- A reset empties the board of a registered operator, and counts it. -/
theorem resetOne_eq (state : Desk × Nat) (entry : String × Statistics) :
    resetOne state entry =
      if entry.2.state.isReset = true ∧ state.1.store.contains entry.1 = true then
        (state.1.update ⟨entry.1⟩ Board.clear, state.2 + 1)
      else state := by
  unfold resetOne Store.clear Store.handle?
  by_cases hreset : entry.2.state.isReset = true
  · by_cases hcontains : state.1.store.contains entry.1 = true
    · rw [if_pos hreset, if_pos hcontains, if_pos ⟨hreset, hcontains⟩]
      rfl
    · rw [if_pos hreset, if_neg hcontains, if_neg fun h => hcontains h.2]
      rfl
  · rw [if_neg hreset, if_neg fun h => hreset h.1]

/-- **A batch leaves the boards as some of its first messages make them**: all if nothing was
    refused, and otherwise those up to the refusal. -/
theorem store_hearAll (site : Site) (k : Store.Handle) (messages : List Message) :
    ∀ d : Desk, ∃ n, (hearAll site k d messages).1.store =
      (messages.take n).foldl (fun s m => s.update k (·.apply m.event)) d.store := by
  induction messages with
  | nil => exact fun d => ⟨0, rfl⟩
  | cons m messages ih =>
    intro d
    have hnext := store_resumeIfIdle (d.update k (·.apply m.event)) site k
    unfold hearAll
    split
    · rename_i e heq
      rw [heq] at hnext
      change e.store = d.store.update k (·.apply m.event) at hnext
      obtain ⟨n, hn⟩ := ih e
      refine ⟨n + 1, ?_⟩
      rw [hn, hnext]
      rfl
    · exact ⟨1, hnext⟩

theorem store_hearAll_singleton (site : Site) (k : Store.Handle) (d : Desk) (m : Message) :
    (hearAll site k d [m]).1.store = d.store.update k (·.apply m.event) := by
  have hresume := store_resumeIfIdle (d.update k (·.apply m.event)) site k
  unfold hearAll
  split
  · rename_i e heq
    rw [heq] at hresume
    exact hresume
  · exact hresume

/-! ## Every call keeps what is stable -/

theorem each_resetOne (stable : Board.Stable Q) {state : Desk × Nat} (h : state.1.store.Each Q)
    (entry : String × Statistics) : (resetOne state entry).1.store.Each Q := by
  rw [resetOne_eq]
  split
  · exact h.update ⟨entry.1⟩ (stable.clear (h.board stable ⟨entry.1⟩))
  · exact h

theorem each_takeStatus (stable : Board.Stable Q) (h : d.store.Each Q) (update : StatusUpdate) :
    (d.takeStatus update).1.store.Each Q :=
  List.foldlRecOn (motive := fun state : Desk × Nat => state.1.store.Each Q) update.entries resetOne
    h fun _ hstate entry _ => each_resetOne stable hstate entry

theorem each_hearAll (stable : Board.Stable Q) (h : d.store.Each Q) (site : Site)
    (k : Store.Handle) (messages : List Message) :
    (hearAll site k d messages).1.store.Each Q := by
  obtain ⟨n, hn⟩ := store_hearAll site k messages d
  rw [hn]
  exact List.foldlRecOn (motive := fun s : Store => s.Each Q) _ _ h
    fun s hs m _ => hs.update k (stable.apply (hs.board stable k) m.event)

theorem each_hear (stable : Board.Stable Q) (h : d.store.Each Q) (site : Site) (batch : Batch) :
    (d.hear site batch).1.store.Each Q := by
  unfold hear
  split
  · exact each_hearAll stable h site _ batch.messages
  · exact h

theorem each_editCondition (stable : Board.Stable Q) (h : d.store.Each Q) (site : Site)
    (operator : String) (id : UInt32) (condition : String) :
    (d.editCondition site operator id condition).1.store.Each Q := by
  unfold editCondition
  split
  · exact h
  · rename_i k hk
    split
    · exact h
    · rename_i key x hfind
      have hmem : (key, x) ∈ (d.store.board k).entries := List.mem_of_find?_eq_some hfind
      split
      · exact h
      · have hstore := store_broadcast d site operator (.condition id condition)
        split
        · rename_i e heq
          rw [heq] at hstore
          change e.store = d.store at hstore
          show (e.store.update k _).Each Q
          rw [hstore]
          exact h.update k (stable.edit (h.board stable k) hmem condition)
        · rw [hstore]
          exact h

theorem each_noteResumed (stable : Board.Stable Q) (h : d.store.Each Q) (operator : String) :
    (d.noteResumed operator).1.store.Each Q := by
  unfold noteResumed
  split
  · exact h
  · rename_i k hk
    exact h.update k (stable.releaseAll (h.board stable k))

/-- **A call keeps what is stable**, of every board. -/
theorem each_perform (stable : Board.Stable Q) (h : d.store.Each Q) (site : Site) {call : Call}
    (hcall : call.isDirect = false) : (d.perform site call).1.store.Each Q := by
  cases call with
  | register operator => exact h.update ⟨operator⟩ (h.board stable ⟨operator⟩)
  | announce operator =>
    show (d.announce operator).1.store.Each Q
    unfold announce
    split
    · exact h.update ⟨operator.operator⟩ (h.board stable ⟨operator.operator⟩)
    · exact h
  | takeStatus update => exact each_takeStatus stable h update
  | hear batch => exact each_hear stable h site batch
  | handle operator => exact h
  | condition operator id => exact h
  | editCondition operator id condition => exact each_editCondition stable h site operator id condition
  | toggle operator line =>
    show (d.toggle site operator line).1.store.Each Q
    rw [store_toggle]
    exact h
  | resume operator worker => exact h
  | stepOver operator worker => exact h
  | noteResumed operator => exact each_noteResumed stable h operator
  | direct k op => nomatch hcall

/-- Boards stay dominant also where somebody works on them directly. -/
theorem dominant_perform (h : d.Dominant) (site : Site) (call : Call) :
    (d.perform site call).1.Dominant := by
  cases hcall : call.isDirect with
  | false => exact each_perform Board.stable_dominant h site hcall
  | true =>
    cases call with
    | direct k op => exact h.update k ((h.board Board.stable_dominant k).perform op)
    | _ => nomatch hcall

end Desk

end DebugDesk
