/-
  A store with its handles is a shelf of plain maps.

  What users of a store go by fits in one picture (`Shelf`): for every operator that was ever
  created a finite map from keys to records, and for every handle that was given out the operator
  whose map it opens.  Creating puts an empty map on the shelf where there is none, clearing puts an
  empty map in place of the one there, and a handle works on whatever map its operator has now.

  The store keeps replicas with clocks and tombstones where the picture has maps, and creates and
  clears by changing boards in place.  It can be told from the picture by nothing that it replies,
  whatever its mode is and however long handles are kept (`replies_eq_shelf`).

  The crux is the relation `Shelf.Reads` between the two.  Every map is the table of the live
  records of the operator's board, which is of the kind that the mode asks for and takes every write,
  and every handle is of an operator that has a map.  The last is why no handle finds nothing behind
  it: maps are only ever put on the shelf.
-/
import DebugDesk.Proofs.Board.Plain
import DebugDesk.Proofs.Replica.Observed
import DebugDesk.Proofs.Store.Usage
import Mathlib.Data.List.Dedup

namespace DebugDesk

/-! ## The kind of a board -/

namespace Board

/-- The name under which a board is written, if it is a replica. -/
def writer : Board → Option String
  | plain _ => none
  | shared r => some r.id

theorem writer_empty (name : Option String) : (empty name).writer = name := by
  cases name <;> rfl

/-- No operation changes the kind of a board. -/
theorem writer_perform (b : Board) (op : Operation) : (b.perform op).1.writer = b.writer := by
  cases b with
  | plain t => cases op <;> rfl
  | shared r =>
    cases op with
    | set key x => exact congrArg some (Replica.Edit.apply_id r (.set key x))
    | delete key => exact congrArg some (Replica.Edit.apply_id r (.delete key))
    | clear => exact congrArg some (Replica.Edit.apply_id r .clear)
    | _ => rfl

/-- A board in order: of the kind that is asked for, and such that it takes every write. -/
def Sound (name : Option String) (b : Board) : Prop := b.writer = name ∧ b.Dominant

theorem sound_empty (name : Option String) : (empty name).Sound name :=
  ⟨writer_empty name, dominant_empty name⟩

theorem Sound.perform {name : Option String} {b : Board} (h : b.Sound name) (op : Operation) :
    (b.perform op).1.Sound name :=
  ⟨(writer_perform b op).trans h.1, h.2.perform op⟩

theorem live_empty (name : Option String) : (empty name).live = .empty := by
  cases name <;> rfl

end Board

namespace Store

/-! ## The shelf -/

/-- Plain maps, one per operator, and the operators of the handles that were given out. -/
structure Shelf where
  /-- The name under which replicas are handed out, if any are. -/
  writer : Option String
  maps : Table (Table Breakpoint)
  given : List String

namespace Shelf

/-- The shelf with one more handle given out. -/
def give (s : Shelf) (operator : String) : Shelf := { s with given := s.given ++ [operator] }

/-- The shelf with a map in an operator's place. -/
def put (s : Shelf) (operator : String) (t : Table Breakpoint) : Shelf :=
  { s with maps := s.maps.insert operator t }

/-- **What an act on a store means**, and its reply. -/
@[simp] def perform (s : Shelf) : Act → Shelf × Reply
  | .create operator =>
    match s.maps.get? operator with
    | some _ => (s.give operator, .handle)
    | none => ((s.put operator .empty).give operator, .handle)
  | .get operator =>
    match s.maps.get? operator with
    | some _ => (s.give operator, .handle)
    | none => (s, .failed (.notInitialized operator))
  | .clear operator =>
    match s.maps.get? operator with
    | some _ => (s.put operator .empty, .done)
    | none => (s, .failed (.notInitialized operator))
  | .replica operator =>
    match s.maps.get? operator, s.writer with
    | some _, some id => (s.give operator, .replica id)
    | some _, none => (s, .failed (.notReplicated operator))
    | none, _ => (s, .failed (.notInitialized operator))
  | .contains operator => (s, .flag (s.maps.contains operator))
  | .operators => (s, .names s.maps.keys)
  | .size => (s, .count s.maps.size)
  | .isEmpty => (s, .flag (s.maps.size == 0))
  | .through k op =>
    match s.given[k]? with
    | some operator =>
      match s.maps.get? operator with
      | some t => (s.put operator (t.perform op).1, .board (t.perform op).2)
      | none => (s, .noHandle)
    | none => (s, .noHandle)

/-- The empty shelf. -/
def ofMode (madeUp : String) (mode : StoreMode) : Shelf :=
  ⟨(Store.ofMode madeUp mode).writer, .empty, []⟩

variable {s : Shelf} {operator : String}

section Present

variable {t : Table Breakpoint} (h : s.maps.get? operator = some t)

include h

theorem create_of_map : s.perform (.create operator) = (s.give operator, .handle) := by
  simp only [perform, h]

theorem get_of_map : s.perform (.get operator) = (s.give operator, .handle) := by
  simp only [perform, h]

theorem clear_of_map : s.perform (.clear operator) = (s.put operator .empty, .done) := by
  simp only [perform, h]

theorem replica_of_none (hwriter : s.writer = none) :
    s.perform (.replica operator) = (s, .failed (.notReplicated operator)) := by
  simp only [perform, h, hwriter]

theorem replica_of_some {id : String} (hwriter : s.writer = some id) :
    s.perform (.replica operator) = (s.give operator, .replica id) := by
  simp only [perform, h, hwriter]

theorem through_of_map {k : Nat} (hk : s.given[k]? = some operator) (op : Board.Operation) :
    s.perform (.through k op) = (s.put operator (t.perform op).1, .board (t.perform op).2) := by
  simp only [perform, hk, h]

end Present

section Absent

variable (h : s.maps.get? operator = none)

include h

theorem create_of_no_map :
    s.perform (.create operator) = ((s.put operator .empty).give operator, .handle) := by
  simp only [perform, h]

theorem get_of_no_map : s.perform (.get operator) = (s, .failed (.notInitialized operator)) := by
  simp only [perform, h]

theorem clear_of_no_map :
    s.perform (.clear operator) = (s, .failed (.notInitialized operator)) := by
  simp only [perform, h]

theorem replica_of_no_map :
    s.perform (.replica operator) = (s, .failed (.notInitialized operator)) := by
  simp only [perform, h]

end Absent

theorem through_of_none {k : Nat} (hk : s.given[k]? = none) (op : Board.Operation) :
    s.perform (.through k op) = (s, .noHandle) := by
  simp only [perform, hk]

theorem get?_put_self (s : Shelf) (operator : String) (t : Table Breakpoint) :
    (s.put operator t).maps.get? operator = some t := by
  rw [put, Table.get?_insert, if_pos rfl]

/-- No act changes the name under which replicas are handed out. -/
theorem writer_perform (s : Shelf) (a : Act) : (s.perform a).1.writer = s.writer := by
  cases a <;> simp only [perform] <;> (repeat' split) <;> rfl

theorem writer_after (acts : List Act) : ∀ s : Shelf, (after perform s acts).writer = s.writer := by
  induction acts with
  | nil => exact fun s => rfl
  | cons a acts ih => exact fun s => (ih (s.perform a).1).trans (writer_perform s a)

/-! ## Who has a map -/

theorem contains_put (s : Shelf) (operator other : String) (t : Table Breakpoint) :
    (s.put operator t).maps.contains other = (decide (other = operator) || s.maps.contains other) :=
  Table.contains_insert _ _ _ _

/-- Putting another map in place of one that is there registers nobody. -/
theorem contains_put_of_map {t : Table Breakpoint} (h : s.maps.get? operator = some t)
    (t' : Table Breakpoint) (other : String) :
    (s.put operator t').maps.contains other = s.maps.contains other := by
  have hself : s.maps.contains operator = true := by
    rw [Table.contains, h]
    rfl
  rw [contains_put]
  by_cases hother : other = operator
  · rw [hother, hself, Bool.or_true]
  · rw [decide_eq_false hother, Bool.false_or]

/-- **An act gives a map to the operator that it creates, and to nobody else**, and it takes no map
    away. -/
theorem contains_perform (s : Shelf) (a : Act) (other : String) :
    (s.perform a).1.maps.contains other =
      (decide (a = .create other) || s.maps.contains other) := by
  cases a with
  | create operator =>
    have heq : decide (Act.create operator = .create other) = decide (other = operator) := by
      simp [eq_comm]
    rw [heq]
    cases h : s.maps.get? operator with
    | some t =>
      rw [create_of_map h, ← contains_put, contains_put_of_map h t]
      rfl
    | none =>
      rw [create_of_no_map h]
      exact contains_put s operator other .empty
  | get operator =>
    cases h : s.maps.get? operator with
    | some t => rw [get_of_map h]; rfl
    | none => rw [get_of_no_map h]; rfl
  | clear operator =>
    cases h : s.maps.get? operator with
    | some t =>
      rw [clear_of_map h]
      exact contains_put_of_map h .empty other
    | none => rw [clear_of_no_map h]; rfl
  | replica operator =>
    cases h : s.maps.get? operator with
    | some t =>
      cases hwriter : s.writer with
      | none => rw [replica_of_none h hwriter]; rfl
      | some id => rw [replica_of_some h hwriter]; rfl
    | none => rw [replica_of_no_map h]; rfl
  | through k op =>
    cases hk : s.given[k]? with
    | none => rw [through_of_none hk]; rfl
    | some operator =>
      cases h : s.maps.get? operator with
      | some t =>
        rw [through_of_map h hk]
        exact contains_put_of_map h _ other
      | none => simp [perform, hk, h]
  | _ => rfl

/-- **Exactly the created operators have a map.** -/
theorem contains_after (acts : List Act) (other : String) : ∀ s : Shelf,
    (after perform s acts).maps.contains other =
      (decide (.create other ∈ acts) || s.maps.contains other) := by
  induction acts with
  | nil => exact fun s => rfl
  | cons a acts ih =>
    intro s
    show (after perform (s.perform a).1 acts).maps.contains other = _
    rw [ih, contains_perform]
    by_cases ha : a = .create other
    · simp [ha]
    · have ha' : ¬ .create other = a := fun h => ha h.symm
      simp [ha, ha']

/-! ## The store reads as the shelf -/

/-- Every map is what the board of its operator holds, and every handle is of an operator that has
    one. -/
structure Reads (s : Shelf) (u : Usage) : Prop where
  writer : s.writer = u.store.writer
  maps : ∀ operator, s.maps.get? operator = (u.store.boards.get? operator).map Board.live
  sound : u.store.Each (Board.Sound s.writer)
  given : s.given = u.given.map (·.operator)
  registered : ∀ h ∈ u.given, (u.store.boards.get? h.operator).isSome

namespace Reads

variable {u : Usage}

theorem ofMode (madeUp : String) (mode : StoreMode) :
    (Shelf.ofMode madeUp mode).Reads (Usage.ofMode madeUp mode) where
  writer := rfl
  maps operator := by cases mode <;> rfl
  sound := each_ofMode madeUp mode
  given := rfl
  registered _ h := absurd h List.not_mem_nil

theorem get?_map (h : s.Reads u) {b : Board} (hb : u.store.boards.get? operator = some b) :
    s.maps.get? operator = some b.live := by
  rw [h.maps, hb]
  rfl

theorem get?_no_map (h : s.Reads u) (hb : u.store.boards.get? operator = none) :
    s.maps.get? operator = none := by
  rw [h.maps, hb]
  rfl

theorem contains_eq (h : s.Reads u) (operator : String) :
    u.store.contains operator = s.maps.contains operator := by
  rw [Store.contains, Table.contains, Table.contains, h.maps, Option.isSome_map]

theorem operators_eq (h : s.Reads u) : u.store.operators = s.maps.keys :=
  Table.keys_eq_of_contains h.contains_eq

theorem size_eq (h : s.Reads u) : u.store.size = s.maps.size :=
  Table.size_eq_of_contains h.contains_eq

/-- Behind every handle stands a board, and the shelf knows of whom. -/
theorem exists_board (h : s.Reads u) {k : Nat} {handle : Handle} (hk : u.given[k]? = some handle) :
    ∃ b, u.store.boards.get? handle.operator = some b ∧ s.given[k]? = some handle.operator := by
  have hsome := h.registered handle (List.mem_of_getElem? hk)
  obtain ⟨b, hb⟩ := Option.isSome_iff_exists.mp hsome
  refine ⟨b, hb, ?_⟩
  rw [h.given, List.getElem?_map, hk]
  rfl

/-- Giving out a handle of an operator that has a board. -/
theorem give (h : s.Reads u) (hb : (u.store.boards.get? operator).isSome) :
    (s.give operator).Reads (u.give ⟨operator⟩) where
  writer := h.writer
  maps := h.maps
  sound := h.sound
  given := by
    show s.given ++ [operator] = (u.given ++ [(⟨operator⟩ : Handle)]).map Handle.operator
    rw [h.given, List.map_append]
    rfl
  registered k hk := by
    rcases List.mem_append.mp hk with hk | hk
    · exact h.registered k hk
    · obtain rfl := List.mem_singleton.mp hk
      exact hb

/-- **Changing a board in place changes the operator's map, and no other.** -/
theorem update (h : s.Reads u) (operator : String) {f : Board → Board}
    (hsound : (f (u.store.board ⟨operator⟩)).Sound s.writer) :
    (s.put operator (f (u.store.board ⟨operator⟩)).live).Reads (u.update ⟨operator⟩ f) where
  writer := h.writer
  maps other := by
    show (s.maps.insert operator _).get? other =
      ((u.store.update ⟨operator⟩ f).boards.get? other).map Board.live
    rw [Table.get?_insert, Store.get?_update]
    split
    · rfl
    · exact h.maps other
  sound := h.sound.update ⟨operator⟩ hsound
  given := h.given
  registered k hk := by
    show ((u.store.update ⟨operator⟩ f).boards.get? k.operator).isSome
    rw [Store.get?_update]
    split
    · rfl
    · exact h.registered k hk

/-- An operation on a registered operator's board does to its map what it does to a plain map. -/
theorem update_perform (h : s.Reads u) {b : Board} (hb : u.store.boards.get? operator = some b)
    (op : Board.Operation) :
    (s.put operator (b.live.perform op).1).Reads
      (u.update ⟨operator⟩ fun b => (b.perform op).1) := by
  have hsound : b.Sound s.writer := h.sound operator b hb
  have hupdate := h.update operator (f := fun b => (b.perform op).1) (by
    rw [board_of_get? hb]
    exact hsound.perform op)
  rw [board_of_get? hb, (Board.perform_live hsound.2 op).1] at hupdate
  exact hupdate

/-- **Every act means for the store what it means for the shelf**, and gets the same reply. -/
theorem perform (h : s.Reads u) (a : Act) :
    (s.perform a).1.Reads (u.perform a).1 ∧ (s.perform a).2 = (u.perform a).2 := by
  cases a with
  | create operator =>
    cases hb : u.store.boards.get? operator with
    | some b =>
      rw [create_of_map (h.get?_map hb), Usage.create_of_get? hb]
      exact ⟨h.give (by rw [hb]; rfl), rfl⟩
    | none =>
      have hempty : u.store.board ⟨operator⟩ = .empty s.writer := by
        rw [board_of_get?_none hb, h.writer]
      have hupdate := h.update operator (f := id) (by
        rw [hempty]
        exact Board.sound_empty s.writer)
      rw [hempty, id, Board.live_empty] at hupdate
      rw [create_of_no_map (h.get?_no_map hb)]
      refine ⟨hupdate.give ?_, rfl⟩
      show ((u.store.update ⟨operator⟩ id).boards.get? operator).isSome
      rw [Store.get?_update, if_pos rfl]
      rfl
  | get operator =>
    cases hb : u.store.boards.get? operator with
    | some b =>
      rw [get_of_map (h.get?_map hb), Usage.get_of_get? hb]
      exact ⟨h.give (by rw [hb]; rfl), rfl⟩
    | none =>
      rw [get_of_no_map (h.get?_no_map hb), Usage.get_of_get?_none hb]
      exact ⟨h, rfl⟩
  | clear operator =>
    cases hb : u.store.boards.get? operator with
    | some b =>
      rw [clear_of_map (h.get?_map hb), Usage.clear_of_get? hb]
      exact ⟨h.update_perform hb .clear, rfl⟩
    | none =>
      rw [clear_of_no_map (h.get?_no_map hb), Usage.clear_of_get?_none hb]
      exact ⟨h, rfl⟩
  | replica operator =>
    cases hb : u.store.boards.get? operator with
    | some b =>
      -- whether there is a replica to hand out is the same for all operators
      have hwriter : b.writer = s.writer := (h.sound operator b hb).1
      cases b with
      | plain t =>
        rw [replica_of_none (h.get?_map hb) hwriter.symm, Usage.replica_of_plain hb]
        exact ⟨h, rfl⟩
      | shared r =>
        rw [replica_of_some (h.get?_map hb) hwriter.symm, Usage.replica_of_shared hb]
        exact ⟨h.give (by rw [hb]; rfl), rfl⟩
    | none =>
      rw [replica_of_no_map (h.get?_no_map hb), Usage.replica_of_get?_none hb]
      exact ⟨h, rfl⟩
  | contains operator => exact ⟨h, congrArg Reply.flag (h.contains_eq operator).symm⟩
  | operators => exact ⟨h, congrArg Reply.names h.operators_eq.symm⟩
  | size => exact ⟨h, congrArg Reply.count h.size_eq.symm⟩
  | isEmpty => exact ⟨h, congrArg (fun n => Reply.flag (n == 0)) h.size_eq.symm⟩
  | through k op =>
    cases hk : u.given[k]? with
    | none =>
      have hnone : s.given[k]? = none := by
        rw [h.given, List.getElem?_map, hk]
        rfl
      rw [through_of_none hnone, Usage.through_of_none hk]
      exact ⟨h, rfl⟩
    | some handle =>
      obtain ⟨b, hb, hgiven⟩ := h.exists_board hk
      have hsound : b.Sound s.writer := h.sound handle.operator b hb
      rw [through_of_map (h.get?_map hb) hgiven, Usage.through_of_get? hb hk,
        (Board.perform_live hsound.2 op).2]
      exact ⟨h.update_perform hb op, rfl⟩

theorem entries?_eq (h : s.Reads u) (operator : String) :
    u.entries? operator = (s.maps.get? operator).map Table.entries := by
  rw [Usage.entries?, h.maps, Option.map_map]
  exact congrArg (Option.map · _) (funext Board.entries_eq_live)

theorem entries?_of_put {t : Table Breakpoint} (h : (s.put operator t).Reads u) :
    u.entries? operator = some t.entries := by
  rw [h.entries?_eq, get?_put_self]
  rfl

theorem entries?_create (h : s.Reads u) (hb : u.store.boards.get? operator = none) :
    (u.perform (.create operator)).1.entries? operator = some [] := by
  have hnext := (h.perform (.create operator)).1
  rw [create_of_no_map (h.get?_no_map hb)] at hnext
  -- giving out a handle leaves the maps as they are
  have hput := hnext.entries?_eq operator
  exact hput.trans (congrArg (Option.map _) (get?_put_self s operator .empty))

theorem entries?_clear (h : s.Reads u) {b : Board}
    (hb : u.store.boards.get? operator = some b) :
    (u.perform (.clear operator)).1.entries? operator = some [] := by
  have hnext := (h.perform (.clear operator)).1
  rw [clear_of_map (h.get?_map hb)] at hnext
  exact hnext.entries?_of_put

/-- **Every handle, however old, works on the map of its operator.** -/
theorem through (h : s.Reads u) {k : Nat} {handle : Handle} (hk : u.given[k]? = some handle) :
    ∃ t, s.maps.get? handle.operator = some t ∧
      ∀ op, (u.perform (.through k op)).2 = .board (t.perform op).2 ∧
        (u.perform (.through k op)).1.entries? handle.operator = some (t.perform op).1.entries := by
  obtain ⟨b, hb, hgiven⟩ := h.exists_board hk
  refine ⟨b.live, h.get?_map hb, fun op => ?_⟩
  obtain ⟨hnext, hreply⟩ := h.perform (.through k op)
  rw [through_of_map (h.get?_map hb) hgiven] at hnext hreply
  exact ⟨hreply.symm, hnext.entries?_of_put⟩

end Reads

theorem reads_after (madeUp : String) (mode : StoreMode) (acts : List Act) :
    (after Shelf.perform (.ofMode madeUp mode) acts).Reads
      (after Usage.perform (.ofMode madeUp mode) acts) :=
  (replies_eq_of_related Reads.perform acts (Reads.ofMode madeUp mode)).1

theorem replies_eq_usage (madeUp : String) (mode : StoreMode) (acts : List Act) :
    replies Shelf.perform (.ofMode madeUp mode) acts =
      replies Usage.perform (.ofMode madeUp mode) acts :=
  (replies_eq_of_related Reads.perform acts (Reads.ofMode madeUp mode)).2

end Shelf

/-! ## Who is registered -/

/-- The operator that an act creates. -/
def Act.created? : Act → Option String
  | .create operator => some operator
  | _ => none

theorem mem_filterMap_created? (acts : List Act) (operator : String) :
    operator ∈ acts.filterMap Act.created? ↔ .create operator ∈ acts := by
  rw [List.mem_filterMap]
  constructor
  · rintro ⟨a, ha, hcreated⟩
    cases a <;> cases hcreated
    exact ha
  · intro h
    exact ⟨_, h, rfl⟩

namespace Usage

theorem contains_after (madeUp : String) (mode : StoreMode) (acts : List Act) (operator : String) :
    (after perform (ofMode madeUp mode) acts).store.contains operator =
      decide (.create operator ∈ acts) := by
  rw [(Shelf.reads_after madeUp mode acts).contains_eq, Shelf.contains_after]
  exact Bool.or_false _

theorem get?_after_eq_none_iff (madeUp : String) (mode : StoreMode) {acts : List Act}
    {operator : String} :
    (after perform (ofMode madeUp mode) acts).store.boards.get? operator = none ↔
      .create operator ∉ acts := by
  have hcontains := contains_after madeUp mode acts operator
  rw [Store.contains, Table.contains] at hcontains
  rw [← Option.isNone_iff_eq_none, ← Option.not_isSome, hcontains, Bool.not_eq_true',
    decide_eq_false_iff_not]

/-- **The operators of a store are those that have been created.** -/
theorem mem_operators_after (madeUp : String) (mode : StoreMode) (acts : List Act)
    (operator : String) :
    operator ∈ (after perform (ofMode madeUp mode) acts).store.operators ↔
      .create operator ∈ acts := by
  have hcontains := contains_after madeUp mode acts operator
  rw [Store.contains] at hcontains
  rw [Store.operators, Table.mem_keys_iff, hcontains, decide_eq_true_iff]

/-- **A store counts its operators once each**: they are as many as there are different ones among
    those created. -/
theorem size_after (madeUp : String) (mode : StoreMode) (acts : List Act) :
    (after perform (ofMode madeUp mode) acts).store.size =
      (acts.filterMap Act.created?).dedup.length := by
  have hnodup : (after perform (ofMode madeUp mode) acts).store.operators.Nodup :=
    Table.keys_nodup _
  have hperm := (List.perm_ext_iff_of_nodup hnodup (List.nodup_dedup _)).mpr fun operator => by
    rw [mem_operators_after, List.mem_dedup, mem_filterMap_created?]
  rw [Store.size, Table.size_eq_length_keys]
  exact hperm.length_eq

/-! ## Whom an act concerns -/

variable (u : Usage)

/-- The operator whose board an act may change. -/
def concerned? : Act → Option String
  | .create operator => some operator
  | .clear operator => some operator
  | .through k _ => (u.given[k]?).map (·.operator)
  | _ => none

theorem get?_update_of_ne {operator other : String} (hne : other ≠ operator) (f : Board → Board) :
    (u.update ⟨operator⟩ f).store.boards.get? other = u.store.boards.get? other := by
  show (u.store.update ⟨operator⟩ f).boards.get? other = _
  rw [Store.get?_update, if_neg hne]

/-- **An act leaves the boards of all operators alone whom it does not concern.** -/
theorem get?_perform_of_ne {a : Act} {other : String} (hne : u.concerned? a ≠ some other) :
    (u.perform a).1.store.boards.get? other = u.store.boards.get? other := by
  cases a with
  | create operator =>
    exact get?_update_of_ne u (fun h => hne (congrArg some h.symm)) id
  | clear operator =>
    cases hb : u.store.boards.get? operator with
    | some b =>
      rw [clear_of_get? hb]
      exact get?_update_of_ne u (fun h => hne (congrArg some h.symm)) Board.clear
    | none => rw [clear_of_get?_none hb]
  | get operator =>
    cases hb : u.store.boards.get? operator with
    | some b => rw [get_of_get? hb]; rfl
    | none => rw [get_of_get?_none hb]
  | replica operator =>
    cases hb : u.store.boards.get? operator with
    | some b =>
      cases b with
      | plain t => rw [replica_of_plain hb]
      | shared r => rw [replica_of_shared hb]; rfl
    | none => rw [replica_of_get?_none hb]
  | through k op =>
    cases hk : u.given[k]? with
    | none => rw [through_of_none hk]
    | some handle =>
      have hne' : other ≠ handle.operator := by
        rintro rfl
        exact hne (by rw [concerned?, hk]; rfl)
      simp only [perform, hk]
      exact get?_update_of_ne u hne' _
  | _ => rfl

theorem replica_of_get? {operator : String} {b : Board}
    (h : u.store.boards.get? operator = some b) :
    u.perform (.replica operator) =
      match b.writer with
      | none => (u, .failed (.notReplicated operator))
      | some id => (u.give ⟨operator⟩, .replica id) := by
  cases b with
  | plain t => exact replica_of_plain h
  | shared r => exact replica_of_shared h

end Usage

/-! ## The store is a shelf -/

/-- **A store with its handles is one plain map per operator.**  Whatever is asked of a store of any
    mode, and through handles however old, it replies as a shelf of maps does, and so do boards in
    cells of their own; afterwards every board holds what the map holds.

      * The operators are those created, in ascending order and counted once each.
      * Creating puts an empty map where there is none, and else only gives out a handle.  Getting,
        clearing and asking for a replica fail where nothing was created, and change nothing.
      * Clearing leaves the empty map, the registration and all handles.  A replica is refused where
        the mode has none, and there only.
      * Every handle ever given out works on the map of its operator, and every address ever given
        out is the one that its operator still has.
      * An act changes no board but that of the operator whom it concerns. -/
theorem replies_eq_shelf (madeUp : String) (mode : StoreMode) (acts : List Act) :
    let u := after Usage.perform (.ofMode madeUp mode) acts
    let c := after Cells.perform (.ofMode madeUp mode) acts
    let s := after Shelf.perform (.ofMode madeUp mode) acts
    (replies Usage.perform (.ofMode madeUp mode) acts =
        replies Shelf.perform (.ofMode madeUp mode) acts ∧
      replies Cells.perform (.ofMode madeUp mode) acts =
        replies Shelf.perform (.ofMode madeUp mode) acts ∧
      ∀ o, u.entries? o = (s.maps.get? o).map Table.entries) ∧
    (u.store.operators.Pairwise (· < ·) ∧
      (∀ o, o ∈ u.store.operators ↔ .create o ∈ acts) ∧
      u.store.size = (acts.filterMap Act.created?).dedup.length) ∧
    (∀ o, .create o ∉ acts →
      (u.perform (.create o)).1.entries? o = some [] ∧
      ∀ a ∈ [Act.get o, .clear o, .replica o], u.perform a = (u, .failed (.notInitialized o))) ∧
    (∀ o, .create o ∈ acts →
      (∀ a ∈ [Act.create o, .get o], u.perform a = (u.give ⟨o⟩, .handle)) ∧
      ((u.perform (.clear o)).2 = .done ∧ (u.perform (.clear o)).1.entries? o = some [] ∧
        (u.perform (.clear o)).1.given = u.given) ∧
      u.perform (.replica o) =
        match mode with
        | .single => (u, .failed (.notReplicated o))
        | .replicated id => (u.give ⟨o⟩, .replica (id.getD madeUp))) ∧
    (∀ k h, u.given[k]? = some h → ∃ t, s.maps.get? h.operator = some t ∧
      ∀ op, (u.perform (.through k op)).2 = .board (t.perform op).2 ∧
        (u.perform (.through k op)).1.entries? h.operator = some (t.perform op).1.entries) ∧
    c.given.map some = u.given.map (fun h => c.slots.get? h.operator) ∧
    ∀ a o, u.concerned? a ≠ some o →
      (u.perform a).1.store.boards.get? o = u.store.boards.get? o := by
  intro u c s
  have hreads : s.Reads u := Shelf.reads_after madeUp mode acts
  have hcells := Cells.replies_eq madeUp mode acts
  have hreplies := (Shelf.replies_eq_usage madeUp mode acts).symm
  refine ⟨⟨hreplies, hcells.2.trans hreplies, hreads.entries?_eq⟩,
    ⟨Table.keys_ascending _, Usage.mem_operators_after madeUp mode acts,
      Usage.size_after madeUp mode acts⟩, ?absent, ?present, fun k h hk => hreads.through hk,
    hcells.1.given, fun a o hne => Usage.get?_perform_of_ne u hne⟩
  case absent =>
    intro o hcreate
    have hb : u.store.boards.get? o = none := (Usage.get?_after_eq_none_iff madeUp mode).mpr hcreate
    refine ⟨hreads.entries?_create hb, ?_⟩
    intro a ha
    simp only [List.mem_cons, List.not_mem_nil, or_false] at ha
    rcases ha with rfl | rfl | rfl
    · exact Usage.get_of_get?_none hb
    · exact Usage.clear_of_get?_none hb
    · exact Usage.replica_of_get?_none hb
  case present =>
    intro o hcreate
    obtain ⟨b, hb⟩ : ∃ b, u.store.boards.get? o = some b := by
      rw [← Option.ne_none_iff_exists']
      exact fun hb => (Usage.get?_after_eq_none_iff madeUp mode).mp hb hcreate
    refine ⟨?_, ⟨?_, hreads.entries?_clear hb, ?_⟩, ?_⟩
    · intro a ha
      simp only [List.mem_cons, List.not_mem_nil, or_false] at ha
      rcases ha with rfl | rfl
      · exact Usage.create_of_get? hb
      · exact Usage.get_of_get? hb
    · rw [Usage.clear_of_get? hb]
    · rw [Usage.clear_of_get? hb]
      rfl
    · have hwriter : b.writer = (Store.ofMode madeUp mode).writer :=
        (hreads.sound o b hb).1.trans (Shelf.writer_after acts _)
      rw [Usage.replica_of_get? u hb, hwriter]
      cases mode <;> rfl

/-- Two handles of one operator, with a clearing and another creation between them, in use. -/
def oldAndNew : List Act :=
  [.create "op", .through 0 (.set "10" (.confirmed 1)), .clear "op", .create "op",
    .through 1 (.set "20" (.confirmed 2))]

/-- The old handle sees what was written through the new one, and nobody else is registered. -/
theorem replies_through_old_handle :
    let u := after Usage.perform (.ofMode "b" (.replicated (some "a"))) oldAndNew
    .create "op" ∈ oldAndNew ∧ .create "other" ∉ oldAndNew ∧ u.given[0]? = some ⟨"op"⟩ ∧
      (u.perform (.replica "op")).2 = .replica "a" ∧
      u.perform (.get "other") = (u, .failed (.notInitialized "other")) ∧
      (u.perform (.through 0 .entries)).2 = .board (.records [("20", .confirmed 2)]) ∧
      (u.perform (.clear "op")).1.store.boards.get? "other" = u.store.boards.get? "other" := by
  intro u
  have hcreated : .create "op" ∈ oldAndNew := by decide
  have hforeign : .create "other" ∉ oldAndNew := by decide
  have hgiven : u.given[0]? = some ⟨"op"⟩ := by decide
  obtain ⟨_, _, habsent, hpresent, hhandles, _, hothers⟩ :=
    replies_eq_shelf "b" (.replicated (some "a")) oldAndNew
  obtain ⟨t, ht, hthrough⟩ := hhandles 0 ⟨"op"⟩ hgiven
  have hholds : some t.entries = some [("20", .confirmed 2)] := by
    rw [← Option.map_some, ← ht]
    decide
  refine ⟨hcreated, hforeign, hgiven, ?_, ?_, ?_, ?_⟩
  · rw [(hpresent "op" hcreated).2.2]
    rfl
  · exact (habsent "other" hforeign).2 _ (by simp)
  · rw [(hthrough .entries).1]
    injection hholds with hentries
    rw [Table.perform, hentries]
  · exact hothers (.clear "op") "other" (by decide)

end Store

end DebugDesk
