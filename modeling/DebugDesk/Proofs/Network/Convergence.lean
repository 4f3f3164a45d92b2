/-
  Replicas that have observed the same writes agree.

  In a network no two writes share a stamp, so among the writes to a key that a replica has
  observed there is at most one that no other beats: the newest.  A replica reflects what it has
  observed, so its register at the key is exactly that write, or is absent if there is none
  (`Newest`).  What a replica holds is thereby a function of the set of writes it has observed; by
  which snapshots they came, in which order and how often, leaves no trace.
-/
import DebugDesk.Proofs.Network

namespace DebugDesk

namespace Network

open Replica (Newest)

variable {ι : Type} [DecidableEq ι]

/-- The register of a replica at a key is the newest observed write to the key. -/
theorem newest_register (name : ι ↪ String) (moves : List (Move ι)) (i : ι) (key : String) :
    Newest ((run name moves).observed i) key (((run name moves).replica i).registers.get? key) := by
  have h := sound_run name moves
  refine ((h.each i).reflects.unbeaten key).newest fun w hw w' hw' _ heq => ?_
  exact h.distinct w ((h.each i).observed_issued w hw) w' ((h.each i).observed_issued w' hw') heq

/-- **Replicas converge.**  After every run each register holds the newest of the writes to its key
    that the replica has observed, and is absent if there was none.  Replicas that have observed
    the same writes, be it in one run or in two, hold the same registers, tombstones included,
    and list the same entries. -/
theorem registers_eq_of_observed (name : ι ↪ String) (moves : List (Move ι)) (i : ι) :
    (∀ key, Newest ((run name moves).observed i) key
      (((run name moves).replica i).registers.get? key)) ∧
    ∀ (moves' : List (Move ι)) (j : ι),
      (∀ w, w ∈ (run name moves).observed i ↔ w ∈ (run name moves').observed j) →
        ((run name moves).replica i).registers = ((run name moves').replica j).registers ∧
        ((run name moves).replica i).entries = ((run name moves').replica j).entries := by
  refine ⟨newest_register name moves i, fun moves' j same => ?_⟩
  have hreg : ((run name moves).replica i).registers = ((run name moves').replica j).registers := by
    apply Table.ext_get?
    intro key
    exact (newest_register name moves i key).eq_of_mem_iff (newest_register name moves' j key) same
  refine ⟨hreg, ?_⟩
  rw [Replica.entries, Replica.entries, hreg]

/-! ## A deletion comes back -/

/-- The names of two replicas. -/
def twoNames : Bool ↪ String where
  toFun i := if i then "b" else "a"
  inj' := by rintro (_ | _) (_ | _) <;> simp

/-- The first replica writes, the second deletes what it got of that, and the first merges the
    deletion and afterwards, late, its own old snapshot. -/
def outAndBack : List (Move Bool) :=
  [.edit false (.set "10" (.confirmed 1)), .share false, .merge true 0,
   .edit true (.delete "10"), .share true, .merge false 1, .merge false 0]

/-- Both replicas have observed the same two writes, so both hold the deletion. -/
theorem outAndBack_converges :
    (∀ w, w ∈ (run twoNames outAndBack).observed false ↔
        w ∈ (run twoNames outAndBack).observed true) ∧
      ((run twoNames outAndBack).replica false).registers =
        ((run twoNames outAndBack).replica true).registers ∧
      ((run twoNames outAndBack).replica false).entries =
        ((run twoNames outAndBack).replica true).entries ∧
      ((run twoNames outAndBack).replica false).registers.entries = [("10", ⟨none, ⟨2, "b"⟩⟩)] ∧
      ((run twoNames outAndBack).replica false).entries = [] := by
  have hsub : ∀ w ∈ (run twoNames outAndBack).observed false,
      w ∈ (run twoNames outAndBack).observed true := by decide
  have hsup : ∀ w ∈ (run twoNames outAndBack).observed true,
      w ∈ (run twoNames outAndBack).observed false := by decide
  have same : ∀ w, w ∈ (run twoNames outAndBack).observed false ↔
      w ∈ (run twoNames outAndBack).observed true := fun w => ⟨hsub w, hsup w⟩
  obtain ⟨hregisters, hentries⟩ :=
    (registers_eq_of_observed twoNames outAndBack false).2 outAndBack true same
  exact ⟨same, hregisters, hentries, by decide, by decide⟩

end Network

end DebugDesk
