/-
  A store in use, and the cells behind its handles.

  Whoever uses a store asks it for handles and works on the boards behind them, also through handles
  that were given out long ago.  An act is one such request, a handle is named by the number under
  which it was given out, and the replies are all that is ever seen (`replies`).

  A handle of the store names an operator.  The other way to keep boards is in cells of their own,
  with a handle that is the address of a cell and a table from operators to addresses (`Cells`).
  There it is a matter of discipline that old handles stay good: an operator that is created again
  must not get another cell, and starting over must empty the cell and not replace it.  A handle
  whose cell is no longer the one in the table would be stranded, and nobody who asks for a new one
  would notice.

  The crux is the invariant `Cells.Shows`: every handle ever given out is the address that the
  table has now for its operator, and no two operators have one address.  It is kept by the three
  things that happen to cells, which are writing to one, handing out an address that is in the
  table, and allocating a cell for an operator that has none.  So the cells reply to all acts as
  the named handles do (`Cells.replies_eq`).
-/
import DebugDesk.Proofs.Desk.Batch
import DebugDesk.Proofs.Desk.Unstamped

namespace DebugDesk

/-! ## Tables with the same keys -/

namespace Table

variable {α β : Type}

theorem keys_map (f : α → β) (t : Table α) : (t.map f).keys = t.keys := by
  show (t.entries.map fun e => (e.1, f e.2)).map (·.1) = t.entries.map (·.1)
  rw [List.map_map]
  rfl

/-- Tables in which the same keys have values list the same keys. -/
theorem keys_eq_of_contains {s : Table α} {t : Table β}
    (h : ∀ key, s.contains key = t.contains key) : s.keys = t.keys := by
  have hunit : (s.map fun _ => ()) = t.map fun _ => () := by
    apply ext_get?
    intro key
    have hkey := h key
    rw [contains, contains] at hkey
    rw [get?_map, get?_map]
    cases hs : s.get? key <;> cases ht : t.get? key <;> simp [hs, ht] at hkey ⊢
  rw [← keys_map (fun _ => ()) s, hunit, keys_map]

theorem size_eq_of_contains {s : Table α} {t : Table β}
    (h : ∀ key, s.contains key = t.contains key) : s.size = t.size := by
  rw [size_eq_length_keys, keys_eq_of_contains h, ← size_eq_length_keys]

end Table

namespace Store

/-! ## Acts and replies -/

/-- What can be asked of a store, and of the boards behind the handles that it gave out. -/
inductive Act where
  | create (operator : String)
  | get (operator : String)
  | clear (operator : String)
  /-- Asks for a handle of the operator's board as a replica. -/
  | replica (operator : String)
  | contains (operator : String)
  | operators
  | size
  | isEmpty
  /-- An operation through the handle that was given out as number `k`. -/
  | through (k : Nat) (op : Board.Operation)
  deriving DecidableEq, Repr

/-- What is seen of an act. -/
inductive Reply where
  | done
  /-- A handle was given out. -/
  | handle
  /-- A handle of a replica that writes under this name was given out. -/
  | replica (id : String)
  | flag (answer : Bool)
  | names (operators : List String)
  | count (n : Nat)
  | board (answer : Board.Answer)
  /-- No handle with this number was given out. -/
  | noHandle
  | failed (e : StoreError)
  deriving DecidableEq, Repr

section Acting

variable {σ τ : Type} (perform : σ → Act → σ × Reply) (perform' : τ → Act → τ × Reply)

/-- The replies to some acts, one after another. -/
def replies (s : σ) : List Act → List Reply
  | [] => []
  | a :: acts => (perform s a).2 :: replies (perform s a).1 acts

/-- What is left after some acts. -/
def after (s : σ) (acts : List Act) : σ := acts.foldl (fun s a => (perform s a).1) s

variable {perform perform'}

/-- **Two ways to act that stay related, act by act, and reply the same, cannot be told apart.** -/
theorem replies_eq_of_related {R : σ → τ → Prop}
    (step : ∀ {s t}, R s t → ∀ a,
      R (perform s a).1 (perform' t a).1 ∧ (perform s a).2 = (perform' t a).2)
    (acts : List Act) : ∀ {s t}, R s t →
      R (after perform s acts) (after perform' t acts) ∧
        replies perform s acts = replies perform' t acts := by
  induction acts with
  | nil => exact fun h => ⟨h, rfl⟩
  | cons a acts ih =>
    intro s t h
    obtain ⟨hnext, hreply⟩ := step h a
    obtain ⟨hafter, hreplies⟩ := ih hnext
    refine ⟨hafter, ?_⟩
    rw [replies, replies, hreply, hreplies]

end Acting

/-! ## The store with the handles it gave out -/

/-- A store and the handles that it gave out so far. -/
structure Usage where
  store : Store
  given : List Handle

namespace Usage

/-- The store with one more handle given out. -/
def give (u : Usage) (h : Handle) : Usage := { u with given := u.given ++ [h] }

/-- The store with the board behind a handle changed. -/
def update (u : Usage) (h : Handle) (f : Board → Board) : Usage :=
  { u with store := u.store.update h f }

/-- **An act on a store**, and its reply. -/
@[simp] def perform (u : Usage) : Act → Usage × Reply
  | .create operator =>
    let (store, h) := u.store.create operator
    ({ u with store }.give h, .handle)
  | .get operator =>
    match u.store.handle? operator with
    | .ok h => (u.give h, .handle)
    | .error e => (u, .failed e)
  | .clear operator =>
    match u.store.clear operator with
    | .ok store => ({ u with store }, .done)
    | .error e => (u, .failed e)
  | .replica operator =>
    match u.store.replica? operator with
    | .ok r => (u.give ⟨operator⟩, .replica r.id)
    | .error e => (u, .failed e)
  | .contains operator => (u, .flag (u.store.contains operator))
  | .operators => (u, .names u.store.operators)
  | .size => (u, .count u.store.size)
  | .isEmpty => (u, .flag u.store.isEmpty)
  | .through k op =>
    match u.given[k]? with
    | some h =>
      (u.update h fun b => (b.perform op).1, .board ((u.store.board h).perform op).2)
    | none => (u, .noHandle)

/-- What an operator's board holds, if the operator has a board. -/
def entries? (u : Usage) (operator : String) : Option (List (String × Breakpoint)) :=
  (u.store.boards.get? operator).map Board.entries

/-- The store of a mode before it is used. -/
def ofMode (madeUp : String) (mode : StoreMode) : Usage := ⟨.ofMode madeUp mode, []⟩

variable {u : Usage} {operator : String}

/-! What an act makes of an operator that has no board, and of one that has. -/

section Absent

variable (h : u.store.boards.get? operator = none)

include h

theorem contains_of_get?_none : u.store.contains operator = false := by
  rw [Store.contains, Table.contains, h]
  rfl

theorem get_of_get?_none : u.perform (.get operator) = (u, .failed (.notInitialized operator)) := by
  simp [perform, handle?, contains_of_get?_none h]

theorem clear_of_get?_none :
    u.perform (.clear operator) = (u, .failed (.notInitialized operator)) := by
  simp [perform, Store.clear, handle?, contains_of_get?_none h, Except.map]

theorem replica_of_get?_none :
    u.perform (.replica operator) = (u, .failed (.notInitialized operator)) := by
  simp [perform, replica?, h]

end Absent

section Present

variable {b : Board} (h : u.store.boards.get? operator = some b)

include h

theorem contains_of_get? : u.store.contains operator = true := by
  rw [Store.contains, Table.contains, h]
  rfl

theorem create_of_get? : u.perform (.create operator) = (u.give ⟨operator⟩, .handle) := by
  have hsame : u.store.update ⟨operator⟩ id = u.store := by
    have hconst : u.store.update ⟨operator⟩ id = u.store.update ⟨operator⟩ fun _ => b := by
      show (⟨_, u.store.boards.insert operator (u.store.board ⟨operator⟩)⟩ : Store) = _
      rw [board_of_get? h]
      rfl
    rw [hconst, update_board h]
  simp only [perform, create, hsame]

theorem get_of_get? : u.perform (.get operator) = (u.give ⟨operator⟩, .handle) := by
  simp [perform, handle?, contains_of_get? h]

theorem clear_of_get? : u.perform (.clear operator) = (u.update ⟨operator⟩ Board.clear, .done) := by
  simp [perform, Store.clear, handle?, contains_of_get? h, Except.map, update]

theorem through_of_get? {k : Nat} (hk : u.given[k]? = some ⟨operator⟩) (op : Board.Operation) :
    u.perform (.through k op) =
      (u.update ⟨operator⟩ fun b => (b.perform op).1, .board (b.perform op).2) := by
  simp only [perform, hk, board_of_get? h]

end Present

theorem replica_of_plain {t : Table Breakpoint}
    (h : u.store.boards.get? operator = some (.plain t)) :
    u.perform (.replica operator) = (u, .failed (.notReplicated operator)) := by
  simp only [perform, replica?, h]

theorem replica_of_shared {r : Replica} (h : u.store.boards.get? operator = some (.shared r)) :
    u.perform (.replica operator) = (u.give ⟨operator⟩, .replica r.id) := by
  simp only [perform, replica?, h]

theorem through_of_none {k : Nat} (hk : u.given[k]? = none) (op : Board.Operation) :
    u.perform (.through k op) = (u, .noHandle) := by
  simp only [perform, hk]

end Usage

/-! ## The store with cells -/

/-- Boards in cells: the addresses of the operators' cells, and the addresses given out. -/
structure Cells where
  writer : Option String
  /-- The address of every operator's cell. -/
  slots : Table Nat
  /-- The boards, by address. -/
  cells : List Board
  given : List Nat

namespace Cells

/-- The cells with one more address given out. -/
def give (c : Cells) (address : Nat) : Cells := { c with given := c.given ++ [address] }

/-- The cells with the board in one of them changed. -/
def update (c : Cells) (address : Nat) (f : Board → Board) : Cells :=
  { c with cells := c.cells.modify address f }

/-- The cells with a new one, for an operator that has none. -/
def allocate (c : Cells) (operator : String) : Cells :=
  { c with
    slots := c.slots.insert operator c.cells.length
    cells := c.cells ++ [.empty c.writer] }

/-- An act on boards in cells, and its reply. -/
@[simp] def perform (c : Cells) : Act → Cells × Reply
  | .create operator =>
    match c.slots.get? operator with
    | some address => (c.give address, .handle)
    | none => ((c.allocate operator).give c.cells.length, .handle)
  | .get operator =>
    match c.slots.get? operator with
    | some address => (c.give address, .handle)
    | none => (c, .failed (.notInitialized operator))
  | .clear operator =>
    match c.slots.get? operator with
    | some address => (c.update address Board.clear, .done)
    | none => (c, .failed (.notInitialized operator))
  | .replica operator =>
    match c.slots.get? operator with
    | some address =>
      match c.cells[address]? with
      | some (.shared r) => (c.give address, .replica r.id)
      | _ => (c, .failed (.notReplicated operator))
    | none => (c, .failed (.notInitialized operator))
  | .contains operator => (c, .flag (c.slots.contains operator))
  | .operators => (c, .names c.slots.keys)
  | .size => (c, .count c.slots.size)
  | .isEmpty => (c, .flag (c.slots.size == 0))
  | .through k op =>
    match c.given[k]? with
    | some address =>
      match c.cells[address]? with
      | some b => (c.update address fun b => (b.perform op).1, .board (b.perform op).2)
      | none => (c, .noHandle)
    | none => (c, .noHandle)

/-- No cells yet. -/
def ofMode (madeUp : String) (mode : StoreMode) : Cells :=
  ⟨(Store.ofMode madeUp mode).writer, .empty, [], []⟩

variable {c : Cells} {operator : String} {address : Nat}

section Slot

variable (h : c.slots.get? operator = some address)

include h

theorem create_of_slot : c.perform (.create operator) = (c.give address, .handle) := by
  simp only [perform, h]

theorem get_of_slot : c.perform (.get operator) = (c.give address, .handle) := by
  simp only [perform, h]

theorem clear_of_slot : c.perform (.clear operator) = (c.update address Board.clear, .done) := by
  simp only [perform, h]

theorem replica_of_plain {t : Table Breakpoint} (hcell : c.cells[address]? = some (.plain t)) :
    c.perform (.replica operator) = (c, .failed (.notReplicated operator)) := by
  simp only [perform, h, hcell]

theorem replica_of_shared {r : Replica} (hcell : c.cells[address]? = some (.shared r)) :
    c.perform (.replica operator) = (c.give address, .replica r.id) := by
  simp only [perform, h, hcell]

end Slot

section NoSlot

variable (h : c.slots.get? operator = none)

include h

theorem create_of_no_slot :
    c.perform (.create operator) = ((c.allocate operator).give c.cells.length, .handle) := by
  simp only [perform, h]

theorem get_of_no_slot : c.perform (.get operator) = (c, .failed (.notInitialized operator)) := by
  simp only [perform, h]

theorem clear_of_no_slot :
    c.perform (.clear operator) = (c, .failed (.notInitialized operator)) := by
  simp only [perform, h]

theorem replica_of_no_slot :
    c.perform (.replica operator) = (c, .failed (.notInitialized operator)) := by
  simp only [perform, h]

end NoSlot

theorem through_of_cell {k : Nat} {b : Board} (hk : c.given[k]? = some address)
    (hcell : c.cells[address]? = some b) (op : Board.Operation) :
    c.perform (.through k op) =
      (c.update address fun b => (b.perform op).1, .board (b.perform op).2) := by
  simp only [perform, hk, hcell]

theorem through_of_none {k : Nat} (hk : c.given[k]? = none) (op : Board.Operation) :
    c.perform (.through k op) = (c, .noHandle) := by
  simp only [perform, hk]

/-- The cells hold the boards of a store, and the addresses given out are those of its handles. -/
structure Shows (c : Cells) (u : Usage) : Prop where
  writer : c.writer = u.store.writer
  /-- An operator's board is what its cell holds. -/
  boards : ∀ operator, u.store.boards.get? operator = (c.slots.get? operator).bind (c.cells[·]?)
  inside : ∀ operator address, c.slots.get? operator = some address → address < c.cells.length
  /-- No two operators have one cell. -/
  apart : ∀ operator other address, c.slots.get? operator = some address →
    c.slots.get? other = some address → operator = other
  /-- Every address given out is the one that the operator of the handle has now. -/
  given : c.given.map some = u.given.map fun h => c.slots.get? h.operator

namespace Shows

variable {u : Usage}

theorem ofMode (madeUp : String) (mode : StoreMode) :
    (Cells.ofMode madeUp mode).Shows (Usage.ofMode madeUp mode) where
  writer := rfl
  boards operator := by cases mode <;> rfl
  inside _ _ h := nomatch h
  apart _ _ _ h := nomatch h
  given := rfl

/-- An operator that has an address has a board, the one in the cell. -/
theorem get?_of_slot (h : c.Shows u) (hslot : c.slots.get? operator = some address) :
    ∃ b, c.cells[address]? = some b ∧ u.store.boards.get? operator = some b := by
  have hin := h.inside operator address hslot
  refine ⟨c.cells[address], List.getElem?_eq_getElem hin, ?_⟩
  rw [h.boards, hslot, Option.bind_some, List.getElem?_eq_getElem hin]

theorem get?_of_no_slot (h : c.Shows u) (hslot : c.slots.get? operator = none) :
    u.store.boards.get? operator = none := by
  rw [h.boards, hslot, Option.bind_none]

theorem contains_eq (h : c.Shows u) (operator : String) :
    u.store.contains operator = c.slots.contains operator := by
  rw [Store.contains, Table.contains, Table.contains]
  cases hslot : c.slots.get? operator with
  | none =>
    rw [h.get?_of_no_slot hslot]
    rfl
  | some address =>
    obtain ⟨b, _, hb⟩ := h.get?_of_slot hslot
    rw [hb]
    rfl

theorem operators_eq (h : c.Shows u) : u.store.operators = c.slots.keys :=
  Table.keys_eq_of_contains h.contains_eq

theorem size_eq (h : c.Shows u) : u.store.size = c.slots.size :=
  Table.size_eq_of_contains h.contains_eq

/-- The handle of a number is of the operator whose cell the address of that number is. -/
theorem given_at (h : c.Shows u) (k : Nat) :
    (c.given[k]?).map some = (u.given[k]?).map fun h => c.slots.get? h.operator := by
  rw [← List.getElem?_map, h.given, List.getElem?_map]

/-- Handing out an address that is in the table keeps handles and addresses together. -/
theorem give (h : c.Shows u) (hslot : c.slots.get? operator = some address) :
    (c.give address).Shows (u.give ⟨operator⟩) where
  writer := h.writer
  boards := h.boards
  inside := h.inside
  apart := h.apart
  given := by
    have hlast : [some address] = [c.slots.get? operator] := by rw [hslot]
    rw [Cells.give, Usage.give, List.map_append, List.map_append, h.given]
    exact congrArg (u.given.map _ ++ ·) hlast

/-- **Writing to an operator's cell changes the operator's board, and no other's.** -/
theorem update (h : c.Shows u) (hslot : c.slots.get? operator = some address) (f : Board → Board) :
    (c.update address f).Shows (u.update ⟨operator⟩ f) where
  writer := h.writer
  boards other := by
    show (u.store.update ⟨operator⟩ f).boards.get? other =
      (c.slots.get? other).bind ((c.cells.modify address f)[·]?)
    rw [Store.get?_update]
    split
    · rename_i heq
      obtain ⟨b, hcell, hb⟩ := h.get?_of_slot hslot
      rw [heq, hslot, Option.bind_some, List.getElem?_modify_eq, hcell, board_of_get? hb]
      rfl
    · rename_i hne
      rw [h.boards other]
      cases hother : c.slots.get? other with
      | none => rfl
      | some address' =>
        -- another operator's cell is another cell
        have hapart : address ≠ address' := by
          rintro rfl
          exact hne (h.apart other operator _ hother hslot)
        rw [Option.bind_some, Option.bind_some, List.getElem?_modify_ne _ _ hapart]
  inside other address' hother := by
    show address' < (c.cells.modify address f).length
    rw [List.length_modify]
    exact h.inside other address' hother
  apart := h.apart
  given := h.given

/-- **A new cell strands no handle**: the address of every other operator stays. -/
theorem allocate (h : c.Shows u) (hslot : c.slots.get? operator = none) :
    (c.allocate operator).Shows (u.update ⟨operator⟩ id) where
  writer := h.writer
  boards other := by
    show (u.store.update ⟨operator⟩ id).boards.get? other =
      ((c.slots.insert operator c.cells.length).get? other).bind
        ((c.cells ++ [.empty c.writer])[·]?)
    rw [Store.get?_update, Table.get?_insert]
    split
    · rw [board_of_get?_none (h.get?_of_no_slot hslot), ← h.writer, Option.bind_some,
        List.getElem?_concat_length]
      rfl
    · rw [h.boards other]
      cases hother : c.slots.get? other with
      | none => rfl
      | some address =>
        rw [Option.bind_some, Option.bind_some,
          List.getElem?_append_left (h.inside other address hother)]
  inside other address hother := by
    show address < (c.cells ++ [_]).length
    change (c.slots.insert operator c.cells.length).get? other = some address at hother
    rw [List.length_append, List.length_singleton]
    rw [Table.get?_insert] at hother
    split at hother
    · injection hother with heq
      omega
    · have := h.inside other address hother
      omega
  apart other other' address hother hother' := by
    change (c.slots.insert operator c.cells.length).get? other = some address at hother
    change (c.slots.insert operator c.cells.length).get? other' = some address at hother'
    rw [Table.get?_insert] at hother hother'
    split at hother <;> split at hother'
    · rename_i heq heq'
      rw [heq, heq']
    · -- the new address lies behind all others
      have := h.inside other' address hother'
      injection hother with heq
      omega
    · have := h.inside other address hother
      injection hother' with heq
      omega
    · exact h.apart other other' address hother hother'
  given := by
    show c.given.map some =
      u.given.map fun k => (c.slots.insert operator c.cells.length).get? k.operator
    rw [h.given]
    apply List.map_congr_left
    intro k hk
    have hmem : c.slots.get? k.operator ∈ c.given.map some := by
      rw [h.given]
      exact List.mem_map_of_mem hk
    obtain ⟨address, _, haddress⟩ := List.mem_map.mp hmem
    have hne : k.operator ≠ operator := by
      intro heq
      rw [heq, hslot] at haddress
      nomatch haddress
    rw [Table.get?_insert, if_neg hne]

/-- **Every act keeps cells and store together**, and gets the same reply from both. -/
theorem perform (h : c.Shows u) (a : Act) :
    (c.perform a).1.Shows (u.perform a).1 ∧ (c.perform a).2 = (u.perform a).2 := by
  cases a with
  | create operator =>
    cases hslot : c.slots.get? operator with
    | some address =>
      obtain ⟨b, _, hb⟩ := h.get?_of_slot hslot
      rw [create_of_slot hslot, Usage.create_of_get? hb]
      exact ⟨h.give hslot, rfl⟩
    | none =>
      rw [create_of_no_slot hslot]
      refine ⟨(h.allocate hslot).give ?_, rfl⟩
      show (c.slots.insert operator c.cells.length).get? operator = _
      rw [Table.get?_insert, if_pos rfl]
  | get operator =>
    cases hslot : c.slots.get? operator with
    | some address =>
      obtain ⟨b, _, hb⟩ := h.get?_of_slot hslot
      rw [get_of_slot hslot, Usage.get_of_get? hb]
      exact ⟨h.give hslot, rfl⟩
    | none =>
      rw [get_of_no_slot hslot, Usage.get_of_get?_none (h.get?_of_no_slot hslot)]
      exact ⟨h, rfl⟩
  | clear operator =>
    cases hslot : c.slots.get? operator with
    | some address =>
      obtain ⟨b, _, hb⟩ := h.get?_of_slot hslot
      rw [clear_of_slot hslot, Usage.clear_of_get? hb]
      exact ⟨h.update hslot Board.clear, rfl⟩
    | none =>
      rw [clear_of_no_slot hslot, Usage.clear_of_get?_none (h.get?_of_no_slot hslot)]
      exact ⟨h, rfl⟩
  | replica operator =>
    cases hslot : c.slots.get? operator with
    | some address =>
      obtain ⟨b, hcell, hb⟩ := h.get?_of_slot hslot
      cases b with
      | plain t =>
        rw [replica_of_plain hslot hcell, Usage.replica_of_plain hb]
        exact ⟨h, rfl⟩
      | shared r =>
        rw [replica_of_shared hslot hcell, Usage.replica_of_shared hb]
        exact ⟨h.give hslot, rfl⟩
    | none =>
      rw [replica_of_no_slot hslot, Usage.replica_of_get?_none (h.get?_of_no_slot hslot)]
      exact ⟨h, rfl⟩
  | contains operator => exact ⟨h, congrArg Reply.flag (h.contains_eq operator).symm⟩
  | operators => exact ⟨h, congrArg Reply.names h.operators_eq.symm⟩
  | size => exact ⟨h, congrArg Reply.count h.size_eq.symm⟩
  | isEmpty => exact ⟨h, congrArg (fun n => Reply.flag (n == 0)) h.size_eq.symm⟩
  | through k op =>
    have hk := h.given_at k
    cases hgiven : u.given[k]? with
    | none =>
      have hnone : c.given[k]? = none := by simpa [hgiven] using hk
      rw [through_of_none hnone, Usage.through_of_none hgiven]
      exact ⟨h, rfl⟩
    | some handle =>
      rw [hgiven] at hk
      obtain ⟨address, haddress, hslot⟩ := Option.map_eq_some_iff.mp hk
      obtain ⟨b, hcell, hb⟩ := h.get?_of_slot hslot.symm
      rw [through_of_cell haddress hcell, Usage.through_of_get? hb hgiven]
      exact ⟨h.update hslot.symm _, rfl⟩

end Shows

/-- **Addresses of cells cannot be told from handles**: the replies to all acts are the same, and
    after them every address given out is that of its operator's board. -/
theorem replies_eq (madeUp : String) (mode : StoreMode) (acts : List Act) :
    (after Cells.perform (ofMode madeUp mode) acts).Shows
        (after Usage.perform (.ofMode madeUp mode) acts) ∧
      replies Cells.perform (ofMode madeUp mode) acts =
        replies Usage.perform (.ofMode madeUp mode) acts :=
  replies_eq_of_related Shows.perform acts (Shows.ofMode madeUp mode)

end Cells

end Store

end DebugDesk
