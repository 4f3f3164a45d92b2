/-
  Nothing stays on a board without a reason.

  At every moment of a session every record is the record of a source line, and behind it is a
  breakpoint that the debugger has numbered or a worker that stands there; whatever was printed,
  edited, refused, reset or merged on the way, and at whichever desks.  A record that has only the
  worker behind it ends with the stop: it is gone as soon as it is noted that the workers have gone
  on.
-/
import DebugDesk.Proofs.Board.Lifecycle
import DebugDesk.Proofs.Session
import DebugDesk.Sample

namespace DebugDesk

/-! ## Grounded snapshots -/

/-- Merging the snapshot does no harm to writes, and all its records are grounded. -/
structure Snapshot.Grounded (s : Snapshot) : Prop where
  dominant : ∀ e ∈ s.records, e.2.stamp.clock ≤ s.clock
  held : ∀ e ∈ s.records, ∀ x, e.2.value = some x → x.Grounded e.1

/-- **Merging grounded replicas keeps records grounded**, since registers are taken over whole. -/
theorem Board.exchanged_grounded : Board.Exchanged Board.Grounded Snapshot.Grounded where
  snapshot {r} h := by
    refine ⟨Replica.Dominant.snapshot h.dominant, ?_⟩
    rintro ⟨key, register⟩ hmem x hx
    have hreg := (Table.mem_entries_iff _ _ _).mp hmem
    refine h.held (b := .shared r) ?_
    show (r.registers.get? key).bind (·.value) = some x
    rw [hreg]
    exact hx
  merge {r s} h hs := by
    refine ⟨Replica.Dominant.merge h.dominant hs.dominant, ?_⟩
    intro key x hget
    obtain ⟨register, hreg, hx⟩ := Option.bind_eq_some_iff.mp hget
    rcases Replica.mem_of_get?_merge hreg with hreg | hmem
    · refine h.held ?_
      show (r.registers.get? key).bind (·.value) = some x
      rw [hreg]
      exact hx
    · exact hs.held (key, register) hmem x hx

namespace Session

variable {ι : Type} [DecidableEq ι]

/-- Records are grounded at every moment of a session in which nobody works on a board directly. -/
theorem each_grounded (madeUp : ι → String) (settings : ι → Settings) (moves : List (Move ι))
    (hmoves : ∀ m ∈ moves, m.isIndirect = true) (i : ι) :
    ((run madeUp settings moves).desk i).store.Each Board.Grounded := by
  refine (each_run Board.exchanged_grounded madeUp settings moves ?_).desk i
  intro j turn hmem d h
  have hindirect : turn.2.isDirect = false := by simpa [Move.isIndirect] using hmoves _ hmem
  exact Desk.each_perform Board.stable_grounded h turn.1 hindirect

/-- **Every record is the record of a line, and one without an id marks a stop and ends with it.**
    That holds at every desk and at every moment of a session, of plain boards and of replicas,
    under any names and after any merges, and whatever was refused. -/
theorem grounded_of_mem_entries (madeUp : ι → String) (settings : ι → Settings)
    (moves : List (Move ι)) (hmoves : ∀ m ∈ moves, m.isIndirect = true) (i : ι)
    (operator : String) (board : Board)
    (hboard : ((run madeUp settings moves).desk i).store.boards.get? operator = some board) :
    ∀ e ∈ board.entries,
      (∃ line, e.1 = Breakpoint.lineKey line) ∧
      (e.2.id = none → e.2.hit = true ∧
        ∃ d after, ((run madeUp settings moves).desk i).noteResumed operator = (d, .ok ()) ∧
          d.store.boards.get? operator = some after ∧ after.get? e.1 = none) := by
  intro e hmem
  have hgrounded := each_grounded madeUp settings moves hmoves i operator board hboard
  have hget : board.get? e.1 = some e.2 := (board.mem_entries_iff e.1 e.2).mp hmem
  obtain ⟨hline, hstop⟩ := hgrounded.held hget
  refine ⟨hline, fun hid => ⟨hstop hid, _, board.releaseAll, Desk.noteResumed_of_get? hboard, ?_, ?_⟩⟩
  · rw [Desk.update, Store.get?_update, if_pos rfl, Desk.board_of_get? hboard]
  · rw [Board.get?_releaseAll hgrounded.dominant, hget, Option.bind_some, Breakpoint.released, hid]
    rfl

/-! ## A stop that was heard of elsewhere -/

/-- One desk hears of a stop, and another merges what the first knows. -/
def handedOver : List (Move Bool) :=
  [.call false (⟨.const ["w1"], .reliable⟩, .register Sample.operator),
   .call false (⟨.const ["w1"], .reliable⟩, .hear (Sample.paused "w1" 5)),
   .share false Sample.operator,
   .call true (⟨.const ["w1"], .closed⟩, .register Sample.operator),
   .merge true 0]

/-- Settings under which both desks keep replicas. -/
def twoReplicas : Bool → Settings
  | false => { storeMode := .replicated (some "a") }
  | true => { storeMode := .replicated (some "b") }

/-- The second desk marks the line as well, and drops the record when its workers have gone on. -/
theorem handedOver_grounded :
    ("5", ⟨none, "", true⟩) ∈
        (((run (fun _ => "") twoReplicas handedOver).desk true).store.board ⟨Sample.operator⟩).entries ∧
      ∃ d after, ((run (fun _ => "") twoReplicas handedOver).desk true).noteResumed Sample.operator
          = (d, .ok ()) ∧
        d.store.boards.get? Sample.operator = some after ∧ after.get? "5" = none := by
  have hmem : ("5", ⟨none, "", true⟩) ∈
      (((run (fun _ => "") twoReplicas handedOver).desk true).store.board ⟨Sample.operator⟩).entries := by
    decide
  exact ⟨hmem, ((grounded_of_mem_entries (fun _ => "") twoReplicas handedOver (by decide) true
    Sample.operator _ rfl _ hmem).2 rfl).2⟩

end Session

end DebugDesk
