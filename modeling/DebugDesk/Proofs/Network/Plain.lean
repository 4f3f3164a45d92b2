/-
  Between merges a replica is a plain map.

  In a network the clock of a replica has passed every reading that it holds, whatever chain of
  merges its registers came through, because a replica reflects what it has observed.  So its own
  next stamp beats every register (`lt_next_stamp`), be it a value or the trace of a deletion,
  written by itself or by a peer with a greater name or from a time when the peer's clock was far
  ahead.  That is all it takes for writes to take effect, and with it for every operation to do to
  the live records what it does to a plain map.
-/
import DebugDesk.Proofs.Board.Plain
import DebugDesk.Proofs.Network.Convergence

namespace DebugDesk

namespace Replica

/-- On a dominant replica the stamp of the next write beats every register. -/
theorem Dominant.lt_next_stamp {r : Replica} (h : r.Dominant) {key : String} {old : Register}
    (hold : r.registers.get? key = some old) : old.stamp < ⟨r.clock + 1, r.id⟩ := by
  have hle : old.stamp.clock ≤ r.clock := h key old hold
  exact Or.inl (Nat.lt_succ_of_le hle)

end Replica

namespace Network

variable {ι : Type} [DecidableEq ι]

theorem dominant_replica (name : ι ↪ String) (moves : List (Move ι)) (i : ι) :
    ((run name moves).replica i).Dominant :=
  ((sound_run name moves).each i).reflects.dominant

/-- **A replica behaves as a plain map between merges.**  After every run of a network, any row of
    operations on a replica gives the answers, and after each of them the entries, of the plain
    board with the same entries, which are those of the plain map; they stand in strictly ascending
    order.  A set changes what its key answers and a deletion takes its key away, both of them
    nothing else, and clearing leaves no entry.  In particular every write takes effect: its stamp
    beats whatever register the key has, and the key holds what was written. -/
theorem plain_between_merges (name : ι ↪ String) (moves : List (Move ι)) (i : ι) :
    let r := (run name moves).replica i
    (∀ ops, (Board.shared r).sights ops = (Board.plain r.live).sights ops ∧
      (Board.plain r.live).sights ops = r.live.sights ops) ∧
    r.live.entries = r.entries ∧ r.entries.Pairwise (fun a b => a.1 < b.1) ∧
    (∀ key b other, (r.set key b).get? other = if other = key then some b else r.get? other) ∧
    (∀ key other, (r.delete key).get? other = if other = key then none else r.get? other) ∧
    r.clear.entries = [] ∧
    ∀ key value,
      (∀ old, r.registers.get? key = some old → old.stamp < ⟨r.clock + 1, r.id⟩) ∧
      (r.write key value).registers.get? key = some ⟨value, ⟨r.clock + 1, r.id⟩⟩ := by
  intro r
  have h : r.Dominant := dominant_replica name moves i
  refine ⟨?_, rfl, r.entries_ascending, ?_, ?_, ?_, ?_⟩
  · intro ops
    have hshared : (Board.shared r).sights ops = r.live.sights ops :=
      Board.sights_live ops (b := .shared r) h
    have hplain : (Board.plain r.live).sights ops = r.live.sights ops :=
      Board.sights_live ops (b := .plain r.live) trivial
    exact ⟨hshared.trans hplain.symm, hplain⟩
  · intro key b other
    exact Board.get?_set (b := .shared r) h key other b
  · intro key other
    exact Board.get?_delete (b := .shared r) h key other
  · exact congrArg Table.entries (Replica.live_clear h)
  · intro key value
    refine ⟨fun old hold => h.lt_next_stamp hold, ?_⟩
    rw [Replica.get?_registers_write h, if_pos rfl]

/-- When the deletion has come back, its trace carries the greater name; the next write beats it. -/
theorem written_over_deletion :
    let r := (run twoNames outAndBack).replica false
    r.registers.get? "10" = some ⟨none, ⟨2, "b"⟩⟩ ∧ r.id = "a" ∧
      (⟨2, "b"⟩ : Stamp) < ⟨r.clock + 1, r.id⟩ ∧
      (r.set "10" (.confirmed 1)).get? "10" = some (.confirmed 1) := by
  intro r
  have htrace : r.registers.get? "10" = some ⟨none, ⟨2, "b"⟩⟩ := by decide
  obtain ⟨_, _, _, hset, _, _, hwrite⟩ := plain_between_merges twoNames outAndBack false
  refine ⟨htrace, by decide, (hwrite "10" none).1 _ htrace, ?_⟩
  rw [hset, if_pos rfl]

end Network

end DebugDesk
