/-
  What a status update leaves.

  A status update clears the board of every registered operator that it resets, and counts them;
  nothing else happens (`get?_takeStatus`, `count_takeStatus`).  So the question is what clearing
  leaves.

  On a plain board nothing.  On a replica clearing writes one deletion per breakpoint, in the order
  of the keys, under the next readings of its clock: the deletion for the record at place `n`
  carries the reading `clock + n + 1`.  A deletion is a write like any other, so it takes effect
  exactly if its stamp beats that of the register.  A record therefore outlasts clearing if its
  register carries a stamp that its deletion does not beat (`Board.Outlasts`), and only then
  (`Board.mem_entries_clear_iff`).

  Where all that was ever merged came from replicas, no register is ahead of the clock, and nothing
  outlasts.  But a snapshot is believed whatever it says.  One whose clock is behind the stamps of
  its own records puts registers ahead of the replica's clock, because merging raises the clock to
  that of the snapshot and not to those of the records: a reset then counts the board as cleared and
  leaves the record on it (`reset_leaves_overstated`).  The crux is that this is the only way
  (`reset_empties`): as long as every snapshot that was merged covers its own records, a reset
  empties the board, whatever else was set, deleted, heard, edited, refused or merged before.
-/
import DebugDesk.Json.Printer
import DebugDesk.Json.Reader
import DebugDesk.Proofs.Replica.Word
import DebugDesk.Proofs.Session
import DebugDesk.Sample

namespace DebugDesk

/-! ## What clearing leaves -/

namespace Board

/-- Whether a record outlasts clearing: the board is a replica, and the register of the record is
    not beaten by the deletion that clearing writes at its key. -/
def Outlasts : Board → String → Breakpoint → Prop
  | plain _, _, _ => False
  | shared r, key, x => ∃ n held, r.entries[n]? = some (key, x) ∧
      r.registers.get? key = some held ∧ ¬ held.stamp < ⟨r.clock + n + 1, r.id⟩

end Board

namespace Replica

/-- A deletion that is not beaten leaves no breakpoint, and one that is leaves what was there. -/
theorem get?_clear {r : Replica} {n : Nat} {key : String} {x : Breakpoint} {held : Register}
    (hplace : r.entries[n]? = some (key, x)) (hheld : r.registers.get? key = some held) :
    r.clear.get? key = if held.stamp < ⟨r.clock + n + 1, r.id⟩ then none else some x := by
  have hasc : (r.entries.map fun e => (e.1, (none : Option Breakpoint))).Pairwise
      fun c c' => c.1 < c'.1 := List.pairwise_map.mpr r.entries_ascending
  have hdeletion : (r.entries.map fun e => (e.1, (none : Option Breakpoint)))[n]?
      = some (key, none) := by
    rw [List.getElem?_map, hplace]
    rfl
  have hvalue : held.value = some x := by
    have hget := (mem_entries_iff r key x).mp (List.mem_of_getElem? hplace)
    rw [get?, hheld] at hget
    exact hget
  rw [get?, clear_eq_writeAll, get?_registers_writeAll _ hasc hdeletion, hheld, join_some]
  split
  · rfl
  · exact hvalue

end Replica

namespace Board

/-- **Exactly the records that outlast clearing are left by it.** -/
theorem mem_entries_clear_iff (b : Board) (key : String) (x : Breakpoint) :
    (key, x) ∈ b.clear.entries ↔ b.Outlasts key x := by
  cases b with
  | plain t => exact ⟨fun h => absurd h List.not_mem_nil, False.elim⟩
  | shared r =>
    show (key, x) ∈ r.clear.entries ↔ _
    rw [Replica.mem_entries_iff]
    constructor
    · intro hleft
      by_cases hmem : key ∈ r.entries.map (·.1)
      · obtain ⟨⟨k, y⟩, hentry, rfl⟩ := List.mem_map.mp hmem
        obtain ⟨n, hplace⟩ := List.mem_iff_getElem?.mp hentry
        obtain ⟨held, hheld, _⟩ :=
          Option.bind_eq_some_iff.mp ((Replica.mem_entries_iff r k y).mp hentry)
        rw [Replica.get?_clear hplace hheld] at hleft
        split at hleft
        · nomatch hleft
        · rename_i hnot
          obtain rfl : y = x := Option.some.inj hleft
          exact ⟨n, held, hplace, hheld, hnot⟩
      · -- clearing writes nothing at the key, so the record would have been there before
        have hnot : key ∉ (r.entries.map fun e => (e.1, (none : Option Breakpoint))).map (·.1) := by
          rw [List.map_map]
          exact hmem
        rw [Replica.get?, Replica.clear_eq_writeAll,
          Replica.get?_registers_writeAll_of_notMem _ r hnot] at hleft
        exact absurd (List.mem_map_of_mem ((Replica.mem_entries_iff r key x).mpr hleft)) hmem
    · rintro ⟨n, held, hplace, hheld, hnot⟩
      rw [Replica.get?_clear hplace hheld, if_neg hnot]

theorem entries_clear_of_dominant {b : Board} (h : b.Dominant) : b.clear.entries = [] := by
  rw [← entries_unstamped, unstamped_clear h]
  rfl

end Board

/-! ## What an update does to the boards -/

namespace Store

/-- Changing the board of a registered operator registers nobody. -/
theorem contains_update {s : Store} {h : Handle} (hreg : s.contains h.operator = true)
    (f : Board → Board) (operator : String) :
    (s.update h f).contains operator = s.contains operator := by
  rw [contains, Table.contains, get?_update]
  split
  · rename_i hop
    rw [hop, hreg]
    rfl
  · rfl

end Store

namespace Desk

/-- Empties the board of a registered operator, and counts it. -/
def resetBoard (state : Desk × Nat) (operator : String) : Desk × Nat :=
  if state.1.store.contains operator then
    (state.1.update ⟨operator⟩ Board.clear, state.2 + 1)
  else state

/-- Working off what is said about operators, in any order, empties the boards of those that are
    reset. -/
theorem foldl_resetOne (said : List (String × Statistics)) (state : Desk × Nat) :
    said.foldl resetOne state =
      ((said.filter fun e => e.2.state.isReset).map (·.1)).foldl resetBoard state := by
  have hstep : resetOne = fun state entry =>
      if entry.2.state.isReset then resetBoard state entry.1 else state := by
    funext state entry
    rw [resetOne_eq, resetBoard]
    split
    · rename_i h
      rw [if_pos h.1, if_pos h.2]
    · rename_i h
      split
      · rename_i hreset
        rw [if_neg fun hcontains => h ⟨hreset, hcontains⟩]
      · rfl
  rw [hstep, List.foldl_map, List.foldl_filter]

/-- **A status update clears the boards of the operators that it resets, and does nothing else.** -/
theorem takeStatus_eq (d : Desk) (update : StatusUpdate) :
    d.takeStatus update = update.resets.foldl resetBoard (d, 0) :=
  foldl_resetOne update.entries (d, 0)

/-- Emptying boards changes neither the settings, nor the name of the replicas, nor the log. -/
theorem kept_foldl_resetBoard (operators : List String) (state : Desk × Nat) :
    (operators.foldl resetBoard state).1.settings = state.1.settings ∧
      (operators.foldl resetBoard state).1.store.writer = state.1.store.writer ∧
      (operators.foldl resetBoard state).1.attempts = state.1.attempts := by
  refine List.foldlRecOn (motive := fun reached : Desk × Nat =>
    reached.1.settings = state.1.settings ∧ reached.1.store.writer = state.1.store.writer ∧
      reached.1.attempts = state.1.attempts)
    operators resetBoard ⟨rfl, rfl, rfl⟩ fun reached h operator _ => ?_
  unfold resetBoard
  split <;> exact h

theorem attempts_takeStatus (d : Desk) (update : StatusUpdate) :
    (d.takeStatus update).1.attempts = d.attempts := by
  rw [takeStatus_eq]
  exact (kept_foldl_resetBoard update.resets (d, 0)).2.2

theorem contains_resetBoard (state : Desk × Nat) (operator other : String) :
    (resetBoard state operator).1.store.contains other = state.1.store.contains other := by
  unfold resetBoard
  split
  · rename_i h
    exact Store.contains_update (h := ⟨operator⟩) h Board.clear other
  · rfl

theorem get?_resetBoard (state : Desk × Nat) (operator other : String) :
    (resetBoard state operator).1.store.boards.get? other =
      if other = operator then (state.1.store.boards.get? other).map Board.clear
      else state.1.store.boards.get? other := by
  unfold resetBoard
  split
  · rename_i h
    show (state.1.store.update ⟨operator⟩ Board.clear).boards.get? other = _
    rw [Store.get?_update]
    split
    · rename_i hop
      obtain ⟨board, hboard⟩ := Option.isSome_iff_exists.mp h
      rw [hop, board_of_get? hboard]
      exact (congrArg (Option.map Board.clear) hboard).symm
    · rfl
  · rename_i h
    split
    · rename_i hop
      have hnone : state.1.store.boards.get? operator = none := Option.not_isSome_iff_eq_none.mp h
      rw [hop, hnone]
      rfl
    · rfl

theorem count_foldl_resetBoard (operators : List String) : ∀ state : Desk × Nat,
    (operators.foldl resetBoard state).2 =
      state.2 + (operators.filter state.1.store.contains).length := by
  induction operators with
  | nil => exact fun state => rfl
  | cons operator operators ih =>
    intro state
    have hsame : operators.filter (resetBoard state operator).1.store.contains
        = operators.filter state.1.store.contains :=
      List.filter_congr fun other _ => contains_resetBoard state operator other
    rw [List.foldl_cons, ih, hsame, List.filter_cons]
    unfold resetBoard
    split
    · rw [List.length_cons]
      omega
    · rfl

theorem get?_foldl_resetBoard (operators : List String) : ∀ {state : Desk × Nat},
    operators.Nodup → ∀ other,
      (operators.foldl resetBoard state).1.store.boards.get? other =
        if other ∈ operators then (state.1.store.boards.get? other).map Board.clear
        else state.1.store.boards.get? other := by
  induction operators with
  | nil =>
    intro state _ other
    rw [if_neg List.not_mem_nil]
    rfl
  | cons operator operators ih =>
    intro state hnodup other
    obtain ⟨hnot, hnodup⟩ := List.nodup_cons.mp hnodup
    rw [List.foldl_cons, ih hnodup, get?_resetBoard]
    by_cases hop : other = operator
    · -- no operator is reset twice
      subst hop
      rw [if_pos rfl, if_neg hnot, if_pos List.mem_cons_self]
    · rw [if_neg hop]
      simp [hop]

theorem resets_nodup (update : StatusUpdate) : update.resets.Nodup := by
  rw [StatusUpdate.resets, List.Nodup, List.pairwise_map]
  exact (update.ascending.filter _).imp String.ne_of_lt

theorem get?_takeStatus (d : Desk) (update : StatusUpdate) (operator : String) :
    (d.takeStatus update).1.store.boards.get? operator =
      if operator ∈ update.resets then (d.store.boards.get? operator).map Board.clear
      else d.store.boards.get? operator := by
  rw [takeStatus_eq, get?_foldl_resetBoard _ (resets_nodup update)]

theorem count_takeStatus (d : Desk) (update : StatusUpdate) :
    (d.takeStatus update).2 = (update.resets.filter d.store.contains).length := by
  rw [takeStatus_eq, count_foldl_resetBoard, Nat.zero_add]

end Desk

/-! ## Snapshots from anywhere -/

/-- Whether the clock of a snapshot covers its records: none of them is stamped later.  Snapshots
    that replicas take do (`Replica.Dominant.snapshot`), but a text may write any. -/
def Snapshot.Covers (s : Snapshot) : Prop := ∀ record ∈ s.records, record.2.stamp.clock ≤ s.clock

namespace Desk

/-- What can happen to a desk: a call, or the merge of a snapshot from anywhere. -/
inductive Incident where
  | call (turn : Turn)
  | merge (operator : String) (s : Snapshot)

/-- The desk after an incident. -/
def undergo (d : Desk) : Incident → Desk
  | .call turn => (d.perform turn.1 turn.2).1
  | .merge operator s => d.merge operator s

/-- A desk that starts under some settings, after some incidents. -/
def after (madeUp : String) (settings : Settings) (incidents : List Incident) : Desk :=
  incidents.foldl undergo (ofSettings madeUp settings)

/-- **Boards stay dominant as long as all snapshots that are merged cover their records.** -/
theorem dominant_after (madeUp : String) (settings : Settings) (incidents : List Incident)
    (covered : ∀ operator s, .merge operator s ∈ incidents → s.Covers) :
    (after madeUp settings incidents).Dominant := by
  refine List.foldlRecOn (motive := fun d : Desk => d.Dominant) incidents undergo
    (Store.each_ofMode madeUp settings.storeMode) fun d h incident hmem => ?_
  cases incident with
  | call turn => exact dominant_perform h turn.1 turn.2
  | merge operator s =>
    exact each_merge Session.exchanged_dominant h operator (covered operator s hmem)

/-! ## What a reset leaves -/

/-- **A reset empties a board of all but the records that outlast it, and that is of all if every
    snapshot that was ever merged covers its records.**  Whatever happened before, the count is that
    of the registered operators that are reset, and exactly those records are left on a board whose
    registers are not beaten by the deletions that the reset writes.  A clock that is a word needs a
    reading for each of these deletions; while it has them, it makes no difference that it is one. -/
theorem reset_empties (madeUp : String) (settings : Settings) (incidents : List Incident)
    (update : StatusUpdate) (operator : String) (board : Board)
    (reset : operator ∈ update.resets)
    (registered : (after madeUp settings incidents).store.boards.get? operator = some board) :
    ((after madeUp settings incidents).takeStatus update).2
        = (update.resets.filter (after madeUp settings incidents).store.contains).length ∧
    ∃ left, ((after madeUp settings incidents).takeStatus update).1.store.boards.get? operator
        = some left ∧
      (∀ key x, (key, x) ∈ left.entries ↔ board.Outlasts key x) ∧
      ((∀ operator s, .merge operator s ∈ incidents → s.Covers) → left.entries = []) ∧
      ∀ r, board = .shared r → r.clock + r.entries.length < UInt64.size →
        left = .shared (Replica.Edit.clear.applyWord r) := by
  refine ⟨count_takeStatus _ update, board.clear, ?_, board.mem_entries_clear_iff,
    fun covered => ?_, ?_⟩
  · rw [get?_takeStatus, if_pos reset, registered]
    rfl
  · exact Board.entries_clear_of_dominant
      (dominant_after madeUp settings incidents covered operator board registered)
  · rintro r rfl hleft
    exact congrArg Board.shared (Replica.Edit.applyWord_eq_apply (e := .clear) hleft).symm

/-! ## A snapshot behind its own records -/

/-- Settings under which a desk keeps replicas. -/
def replicaSettings : Settings := { storeMode := .replicated (some "a") }

/-- The operator of the sample starts over. -/
def startsOver : StatusUpdate := .ofList [(Sample.operator, { state := .uninitialized })]

/-- A snapshot of one breakpoint, stamped with the reading 7, under some clock. -/
def snapshotAt (clock : Nat) : Snapshot := ⟨"b", clock, [("5", ⟨some (.confirmed 1), ⟨7, "b"⟩⟩)]⟩

/-- The operator of the sample is registered, and a snapshot is merged into its board. -/
def merged (s : Snapshot) : List Incident :=
  [.call (⟨.const [], .reliable⟩, .register Sample.operator), .merge Sample.operator s]

/-- What the board holds then, if the snapshot covers its record. -/
def coveredBoard : Replica := ⟨"a", 7, .ofList [("5", ⟨some (.confirmed 1), ⟨7, "b"⟩⟩)]⟩

/-- What was merged from a snapshot that covers its record is gone after the reset, and a clock that
    is a word has a reading for the deletion. -/
theorem reset_empties_covered :
    (after "" replicaSettings (merged (snapshotAt 7))).store.boards.get? Sample.operator
        = some (.shared coveredBoard) ∧
      coveredBoard.entries = [("5", .confirmed 1)] ∧
      coveredBoard.clock + coveredBoard.entries.length < UInt64.size ∧
      ((after "" replicaSettings (merged (snapshotAt 7))).takeStatus startsOver).2 = 1 ∧
      ∃ left, ((after "" replicaSettings (merged (snapshotAt 7))).takeStatus
        startsOver).1.store.boards.get? Sample.operator = some left ∧ left.entries = [] ∧
          left = .shared (Replica.Edit.clear.applyWord coveredBoard) := by
  have covered : ∀ operator s, .merge operator s ∈ merged (snapshotAt 7) → s.Covers := by
    intro operator s hmem
    simp only [merged, List.mem_cons, List.not_mem_nil, reduceCtorEq, Incident.merge.injEq,
      false_or, or_false] at hmem
    rw [hmem.2]
    intro record hrecord
    rw [List.mem_singleton.mp hrecord]
    exact Nat.le_refl 7
  have hboard : (after "" replicaSettings (merged (snapshotAt 7))).store.boards.get? Sample.operator
      = some (.shared coveredBoard) := by decide
  have hreadings : coveredBoard.clock + coveredBoard.entries.length < UInt64.size := by decide
  obtain ⟨hcount, left, hleft, _, hempty, hword⟩ :=
    reset_empties "" replicaSettings (merged (snapshotAt 7)) startsOver Sample.operator _
      (by decide) hboard
  exact ⟨hboard, by decide, hreadings, hcount.trans (by decide), left, hleft, hempty covered,
    hword coveredBoard rfl hreadings⟩

/-- **A snapshot behind its own records outlasts a reset.**  The text of such a snapshot is read as
    any other; once it is merged, the reset counts the board as cleared and leaves the breakpoint on
    it. -/
theorem reset_leaves_overstated :
    (Json.read? (snapshotAt 0).toJson.print).bind Snapshot.ofJson? = some (snapshotAt 0) ∧
      Sample.operator ∈ startsOver.resets ∧
      ((after "" replicaSettings (merged (snapshotAt 0))).takeStatus startsOver).2 = 1 ∧
      ((after "" replicaSettings (merged (snapshotAt 0))).takeStatus startsOver).1.listing
        = [(Sample.operator, [("5", .confirmed 1)])] := by
  exact ⟨by decide +kernel, by decide, by decide, by decide⟩

end Desk

end DebugDesk
