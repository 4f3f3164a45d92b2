/-
  A stamp is used once.

  In a network whose replicas have different names, a stamp tells which write it belongs to.  No two
  of the writes ever made carry the same one, not even two with the same key and value, and whatever
  a replica or a snapshot holds is one of these writes, unchanged, by whichever chain of snapshots
  it came (`Sound.mem_issued_of_holds`).  So two registers that meet under one stamp are the same
  register of the same key, and it does not matter which of them a merge keeps.

  The crux is `Sound.nodup_step`.  Within an edit the clock rises from write to write
  (`nodup_stamped`), and an edit as a whole writes behind all that its writer ever wrote
  (`SoundAt.writes_fresh`), while other writers have other names.
-/
import DebugDesk.Proofs.Network.Clock
import DebugDesk.Proofs.Network.Convergence
import Mathlib.Data.List.Nodup

namespace DebugDesk

namespace Replica

/-- The writes that make some changes one after another carry a new stamp each. -/
theorem nodup_stamped (id : String) (changes : List (String × Option Breakpoint)) :
    ∀ clock : Nat, ((stamped id clock changes).map (·.2.stamp)).Nodup := by
  induction changes with
  | nil => exact fun _ => List.nodup_nil
  | cons c changes ih =>
    intro clock
    refine List.nodup_cons.mpr ⟨fun hmem => ?_, ih (clock + 1)⟩
    obtain ⟨w, hw, heq⟩ := List.mem_map.mp hmem
    have hlater : clock + 1 < w.2.stamp.clock := (mem_stamped hw).2.1
    have hsame : w.2.stamp.clock = clock + 1 := congrArg Stamp.clock heq
    omega

end Replica

namespace Network

variable {ι : Type}

/-! ## What replicas and snapshots hold -/

/-- **A network holds a register** at a key if a replica does, or a snapshot that was taken has a
    record of it. -/
inductive Holds (n : Network ι) (key : String) (register : Register) : Prop where
  | replica (i : ι) (h : (n.replica i).registers.get? key = some register) : Holds n key register
  | record {p : Snapshot × List Write} (sent : p ∈ n.sent) (h : (key, register) ∈ p.1.records) :
    Holds n key register

variable {name : ι → String} {n : Network ι}

/-- What a network holds was written, as it is held. -/
theorem Sound.mem_issued_of_holds (h : Sound name n) {key : String} {register : Register}
    (hheld : n.Holds key register) : (key, register) ∈ n.issued := by
  cases hheld with
  | replica i hreg => exact (h.each i).observed_issued _ ((h.each i).reflects.mem hreg)
  | record sent hrecord =>
    obtain ⟨r, hs, hreflects, hissued⟩ := h.sent _ sent
    rw [hs] at hrecord
    exact hissued _ (hreflects.mem ((Table.mem_entries_iff _ _ _).mp hrecord))

/-! ## Writes and their stamps -/

variable [DecidableEq ι]

/-- **A move uses no stamp that was used before**, and none twice. -/
theorem Sound.nodup_step (h : Sound name n) (hn : (n.issued.map (·.2.stamp)).Nodup) (m : Move ι) :
    ((n.step m).issued.map (·.2.stamp)).Nodup := by
  cases m with
  | edit i e =>
    show ((n.issued ++ e.writes (n.replica i)).map (·.2.stamp)).Nodup
    rw [List.map_append]
    refine List.Nodup.append hn (Replica.nodup_stamped _ _ _) fun stamp hold hnew => ?_
    -- one of the edit's own stamps would have been used before
    obtain ⟨w', hw', rfl⟩ := List.mem_map.mp hold
    obtain ⟨w, hw, heq⟩ := List.mem_map.mp hnew
    exact (h.each i).writes_fresh hw hw' heq
  | share i => exact hn
  | merge i k =>
    simp only [Network.step]
    split <;> exact hn

theorem nodup_run (name : ι ↪ String) (moves : List (Move ι)) :
    ((run name moves).issued.map (·.2.stamp)).Nodup := by
  induction moves using List.reverseRecOn with
  | nil => exact List.nodup_nil
  | append_singleton moves m ih =>
    rw [run_append_move]
    exact (sound_run name moves).nodup_step ih m

/-- **Stamps identify writes, and clocks dominate them.**  After every run the clock of each replica
    has passed the readings of all its registers, and the clock of each snapshot those of all its
    records.  Of all writes ever made no two carry the same stamp.  Whatever a replica or a snapshot
    holds is one of these writes, so two that carry the same stamp have the same key and value. -/
theorem stamps_identify_writes (name : ι ↪ String) (moves : List (Move ι)) :
    let n := run name moves
    (∀ i key register, (n.replica i).registers.get? key = some register →
      register.stamp.clock ≤ (n.replica i).clock) ∧
    (∀ p ∈ n.sent, ∀ record ∈ p.1.records, record.2.stamp.clock ≤ p.1.clock) ∧
    (n.issued.map (·.2.stamp)).Nodup ∧
    ∀ key register, n.Holds key register → (key, register) ∈ n.issued ∧
      ∀ key' register', n.Holds key' register' → register.stamp = register'.stamp →
        key = key' ∧ register.value = register'.value := by
  intro n
  have hcounted : Counted n := counted_run name moves
  have h : Sound name n := sound_run name moves
  refine ⟨hcounted.dominant, hcounted.covered, nodup_run name moves, fun key register hheld => ?_⟩
  have hissued : (key, register) ∈ n.issued := h.mem_issued_of_holds hheld
  refine ⟨hissued, fun key' register' hheld' hstamp => ?_⟩
  have hsame : (key, register) = (key', register') :=
    h.distinct _ hissued _ (h.mem_issued_of_holds hheld') hstamp
  injection hsame with hkey hregister
  exact ⟨hkey, congrArg Register.value hregister⟩

/-- After the deletion has come back, the first replica holds what the second snapshot has a record
    of: the register of the only write under that stamp. -/
theorem outAndBack_identified :
    (run twoNames outAndBack).Holds "10" ⟨none, ⟨2, "b"⟩⟩ ∧
      ((run twoNames outAndBack).issued.map (·.2.stamp)).Nodup ∧
      ∀ key register, (run twoNames outAndBack).Holds key register → register.stamp = ⟨2, "b"⟩ →
        key = "10" ∧ register.value = none := by
  have hheld : (run twoNames outAndBack).Holds "10" ⟨none, ⟨2, "b"⟩⟩ :=
    .replica false (by decide)
  obtain ⟨_, _, hnodup, hholds⟩ := stamps_identify_writes twoNames outAndBack
  exact ⟨hheld, hnodup, fun key register h hstamp => (hholds key register h).2 _ _ hheld hstamp⟩

end Network

end DebugDesk
