/-
  Clocks count no further than writes.

  A write raises the clock of its replica by one, and a merge raises it to the clock of another.  So
  no clock, and no reading in a register or on its way in a snapshot, is ever greater than the number
  of writes that all replicas together have made so far, whatever they are called and in whichever
  order, how late and how often snapshots were merged.

  The crux is `Counted`.  The number of writes never falls, so a reading that was within it once
  stays so; a merge takes the greater of two clocks that are both within it (`Counted.merge`); and an
  edit that makes `k` writes raises both the number and the clock by `k` (`Counted.edit`).

  A clock that is a word of 64 bits starts again at zero behind its last reading.  By the bound it
  takes that many writes to get there, and up to then a network of such clocks does in every move
  what one with unbounded clocks does (`runWord_eq_run`).
-/
import DebugDesk.Proofs.Network
import DebugDesk.Proofs.Replica.Word
import Mathlib.Data.List.Induction
import Mathlib.Logic.Function.Basic

namespace DebugDesk

namespace Replica

/-! ## The readings of an edit -/

theorem length_stamped (id : String) (changes : List (String × Option Breakpoint)) :
    ∀ clock : Nat, (stamped id clock changes).length = changes.length := by
  induction changes with
  | nil => exact fun _ => rfl
  | cons c changes ih => exact fun clock => congrArg Nat.succ (ih (clock + 1))

theorem Edit.length_writes (r : Replica) (e : Edit) : (e.writes r).length = e.count r := by
  rw [Edit.writes, length_stamped, Edit.length_changes]

/-- Each write is stamped with the next reading. -/
theorem clock_of_getElem?_stamped {id : String} {changes : List (String × Option Breakpoint)} :
    ∀ {clock k : Nat} {w : Write}, (stamped id clock changes)[k]? = some w →
      w.2.stamp.clock = clock + k + 1 := by
  induction changes with
  | nil =>
    intro clock k w h
    nomatch h
  | cons c changes ih =>
    intro clock k w h
    cases k with
    | zero =>
      obtain rfl : _ = w := Option.some.inj h
      rfl
    | succ k =>
      have hlater : w.2.stamp.clock = clock + 1 + k + 1 := ih h
      omega

theorem Dominant.edit {r : Replica} (h : r.Dominant) (e : Edit) : (e.apply r).Dominant := by
  cases e with
  | set key b => exact h.set key b
  | delete key => exact h.delete key
  | clear => exact h.clear

end Replica

namespace Network

open Replica (Edit)

variable {ι : Type} [DecidableEq ι]

/-! ## How many writes a run makes -/

/-- How many writes a move makes. -/
def Move.count (n : Network ι) : Move ι → Nat
  | .edit i e => e.count (n.replica i)
  | .share _ => 0
  | .merge _ _ => 0

/-- How many writes all replicas together make in some moves. -/
def count (n : Network ι) : List (Move ι) → Nat
  | [] => 0
  | m :: moves => m.count n + (n.step m).count moves

theorem length_issued_step (n : Network ι) (m : Move ι) :
    (n.step m).issued.length = n.issued.length + m.count n := by
  cases m with
  | edit i e =>
    show (n.issued ++ e.writes (n.replica i)).length = _
    rw [List.length_append, Edit.length_writes]
    rfl
  | share i => rfl
  | merge i k =>
    simp only [Network.step]
    split <;> rfl

theorem length_issued_foldl (moves : List (Move ι)) : ∀ n : Network ι,
    (moves.foldl step n).issued.length = n.issued.length + n.count moves := by
  induction moves with
  | nil => exact fun _ => rfl
  | cons m moves ih =>
    intro n
    rw [List.foldl_cons, ih, length_issued_step, count, Nat.add_assoc]

/-- The number of writes ever made is the number that the moves make. -/
theorem length_issued_run (name : ι → String) (moves : List (Move ι)) :
    (run name moves).issued.length = (start name).count moves := by
  rw [run, length_issued_foldl]
  exact Nat.zero_add _

/-! ## What every run keeps -/

/-- No reading in a network exceeds the number of writes made so far. -/
structure Counted (n : Network ι) : Prop where
  clock_le : ∀ i, (n.replica i).clock ≤ n.issued.length
  dominant : ∀ i, (n.replica i).Dominant
  sent_le : ∀ p ∈ n.sent, p.1.clock ≤ n.issued.length
  covered : ∀ p ∈ n.sent, ∀ record ∈ p.1.records, record.2.stamp.clock ≤ p.1.clock
  /-- Nor did it when the reading was used first. -/
  issued_le : ∀ k w, n.issued[k]? = some w → w.2.stamp.clock ≤ k + 1

omit [DecidableEq ι] in
theorem counted_start (name : ι → String) : Counted (start name) where
  clock_le _ := Nat.zero_le _
  dominant i := Replica.dominant_empty (name i)
  sent_le _ hp := absurd hp List.not_mem_nil
  covered _ hp := absurd hp List.not_mem_nil
  issued_le _ _ h := nomatch h

variable {n : Network ι}

theorem Counted.edit (h : Counted n) (i : ι) (e : Edit) : Counted (n.step (.edit i e)) := by
  have hlength : (n.step (.edit i e)).issued.length = n.issued.length + e.count (n.replica i) :=
    length_issued_step n (.edit i e)
  refine ⟨?_, ?_, fun p hp => ?_, h.covered, fun k w hk => ?_⟩
  · rw [hlength]
    refine (Function.forall_update_iff n.replica fun _ r => r.clock ≤ _).mpr
      ⟨?_, fun j _ => Nat.le_add_right_of_le (h.clock_le j)⟩
    rw [Edit.apply_clock]
    exact Nat.add_le_add_right (h.clock_le i) _
  · exact (Function.forall_update_iff n.replica fun _ r => r.Dominant).mpr
      ⟨(h.dominant i).edit e, fun j _ => h.dominant j⟩
  · rw [hlength]
    exact Nat.le_add_right_of_le (h.sent_le p hp)
  · change (n.issued ++ e.writes (n.replica i))[k]? = some w at hk
    -- new writes stand behind all old ones, and their readings start at a clock within these
    rcases Nat.lt_or_ge k n.issued.length with hold | hnew
    · rw [List.getElem?_append_left hold] at hk
      exact h.issued_le k w hk
    · rw [List.getElem?_append_right hnew] at hk
      have hclock := Replica.clock_of_getElem?_stamped hk
      have hle := h.clock_le i
      omega

theorem Counted.share (h : Counted n) (i : ι) : Counted (n.step (.share i)) where
  clock_le := h.clock_le
  dominant := h.dominant
  sent_le p hp := by
    rcases List.mem_append.mp hp with hp | hp
    · exact h.sent_le p hp
    · rw [List.mem_singleton.mp hp]
      exact h.clock_le i
  covered p hp := by
    rcases List.mem_append.mp hp with hp | hp
    · exact h.covered p hp
    · rw [List.mem_singleton.mp hp]
      exact (h.dominant i).snapshot
  issued_le := h.issued_le

omit [DecidableEq ι] in
/-- **A merge raises no clock above the number of writes.** -/
theorem Counted.merge_clock_le (h : Counted n) (i : ι) {p : Snapshot × List Write}
    (hp : p ∈ n.sent) : ((n.replica i).merge p.1).clock ≤ n.issued.length := by
  rw [Replica.merge_clock]
  exact Nat.max_le.mpr ⟨h.clock_le i, h.sent_le p hp⟩

theorem Counted.merge (h : Counted n) (i : ι) (k : Nat) : Counted (n.step (.merge i k)) := by
  simp only [Network.step]
  split
  · exact h
  · rename_i s seen hk
    have hsent : (s, seen) ∈ n.sent := List.mem_of_getElem? hk
    refine ⟨?_, ?_, h.sent_le, h.covered, h.issued_le⟩
    · exact (Function.forall_update_iff n.replica fun _ r => r.clock ≤ _).mpr
        ⟨h.merge_clock_le i hsent, fun j _ => h.clock_le j⟩
    · exact (Function.forall_update_iff n.replica fun _ r => r.Dominant).mpr
        ⟨(h.dominant i).merge (h.covered _ hsent), fun j _ => h.dominant j⟩

theorem Counted.step (h : Counted n) (m : Move ι) : Counted (n.step m) := by
  cases m with
  | edit i e => exact h.edit i e
  | share i => exact h.share i
  | merge i k => exact h.merge i k

/-- **Every run is counted**, also where several replicas have one name. -/
theorem counted_run (name : ι → String) (moves : List (Move ι)) : Counted (run name moves) :=
  List.foldlRecOn (motive := Counted) moves Network.step (counted_start name)
    fun _ h m _ => h.step m

/-! ## Networks of clocks that are words -/

/-- The network after a move, if clocks are words of 64 bits. -/
def stepWord (n : Network ι) : Move ι → Network ι
  | .edit i e =>
    { n.step (.edit i e) with
      replica := Function.update n.replica i (e.applyWord (n.replica i)) }
  | m => n.step m

/-- The network after a run, if clocks are words of 64 bits. -/
def runWord (name : ι → String) (moves : List (Move ι)) : Network ι :=
  moves.foldl stepWord (start name)

theorem Counted.stepWord_eq_step (h : Counted n) {m : Move ι}
    (within : (n.step m).issued.length < UInt64.size) : n.stepWord m = n.step m := by
  cases m with
  | edit i e =>
    have hle := h.clock_le i
    rw [length_issued_step] at within
    change n.issued.length + e.count (n.replica i) < UInt64.size at within
    rw [stepWord, Edit.applyWord_eq_apply (by omega)]
    rfl
  | share i => rfl
  | merge i k => rfl

/-- **No clock that is a word gets to its end** before there have been as many writes. -/
theorem runWord_eq_run (name : ι → String) (moves : List (Move ι))
    (within : (run name moves).issued.length < UInt64.size) : runWord name moves = run name moves := by
  induction moves using List.reverseRecOn with
  | nil => rfl
  | append_singleton moves m ih =>
    rw [run_append_move] at within ⊢
    have hbefore : (run name moves).issued.length < UInt64.size := by
      rw [length_issued_step] at within
      omega
    rw [runWord, List.foldl_append, ← runWord, ih hbefore]
    exact (counted_run name moves).stepWord_eq_step within

/-- **The clock cannot run away.**  After every run, no replica's clock, no reading in a register, no
    clock of a snapshot and no reading in a record exceeds the number of writes that all replicas
    made, and merging any snapshot that was taken does not change that.  The write made as number `k`
    carries a reading of at most `k`.  So until there have been as many writes as a word of 64 bits
    has values, a run with clocks that are such words is the run. -/
theorem clocks_within_writes (name : ι → String) (moves : List (Move ι)) :
    let n := run name moves
    let made := (start name).count moves
    (∀ i, (n.replica i).clock ≤ made ∧
      (∀ key register, (n.replica i).registers.get? key = some register →
        register.stamp.clock ≤ made) ∧
      ∀ p ∈ n.sent, ((n.replica i).merge p.1).clock ≤ made) ∧
    (∀ p ∈ n.sent, p.1.clock ≤ made ∧
      ∀ record ∈ p.1.records, record.2.stamp.clock ≤ made) ∧
    n.issued.length = made ∧
    (∀ k w, n.issued[k]? = some w → w.2.stamp.clock ≤ k + 1) ∧
    (made < UInt64.size → runWord name moves = n) := by
  intro n made
  have h : Counted n := counted_run name moves
  have hmade : n.issued.length = made := length_issued_run name moves
  rw [← hmade]
  refine ⟨fun i => ⟨h.clock_le i, ?_, fun p hp => h.merge_clock_le i hp⟩,
    fun p hp => ⟨h.sent_le p hp, ?_⟩, rfl, h.issued_le, runWord_eq_run name moves⟩
  · intro key register hreg
    exact Nat.le_trans (h.dominant i key register hreg) (h.clock_le i)
  · intro record hrecord
    exact Nat.le_trans (h.covered p hp record hrecord) (h.sent_le p hp)

/-- Two replicas of one name.  The first sets two keys and clears them; the second merges the four
    writes, deletes what is not there, and merges them again. -/
def namesakes : List (Move Bool) :=
  [.edit false (.set "5" (.confirmed 1)), .edit false (.set "7" (.confirmed 2)), .edit false .clear,
   .share false, .merge true 0, .edit true (.delete "5"), .merge true 0]

/-- These are four writes, and the second clock is no further. -/
theorem namesakes_within_writes :
    (start fun _ => "a").count namesakes = 4 ∧
      ((run (fun _ => "a") namesakes).replica true).clock ≤ 4 ∧
      (4 < UInt64.size ∧ runWord (fun _ => "a") namesakes = run (fun _ => "a") namesakes) := by
  have hmade : (start fun _ => "a").count namesakes = 4 := by decide
  obtain ⟨heach, _, _, _, hword⟩ := clocks_within_writes (fun _ => "a") namesakes
  rw [hmade] at heach hword
  exact ⟨hmade, (heach true).1, by decide, hword (by decide)⟩

end Network

end DebugDesk
