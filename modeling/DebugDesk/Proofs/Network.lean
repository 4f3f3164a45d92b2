/-
  Networks of replicas.

  Any number of observers keep replicas under different names, all empty at first.  A run is a list
  of moves: an observer edits its replica, takes a snapshot of it, or merges a snapshot that was
  taken at any earlier moment by anyone, itself included.  Snapshots are never used up, so a run
  may merge them in any order, any number of times, or never.

  Besides the replicas a network keeps three records that no replica can read: what each replica
  has observed (its own writes, and with a merge all that the origin had observed when it took the
  snapshot), the same for every snapshot, and all writes ever made.

  The crux is `Sound`, what all runs keep:

    * every replica, and the origin of every snapshot at its time, reflects what it has observed;
    * no two writes of the whole network share a stamp.

  The second needs that names differ, and that a writer's clock has passed every reading under
  which it ever wrote (`SoundAt.own_le`), also after its own writes have come back to it through
  peers.
-/
import DebugDesk.Proofs.Replica.Observed
import Mathlib.Logic.Embedding.Basic

namespace DebugDesk

open Replica (Edit stamped mem_stamped stamped_distinct)

/-- Replicas, the snapshots they took, and what was written and observed on the way. -/
structure Network (ι : Type) where
  replica : ι → Replica
  /-- What each replica has observed. -/
  observed : ι → List Write
  /-- All snapshots taken, each with what its origin had observed by then. -/
  sent : List (Snapshot × List Write)
  /-- All writes ever made. -/
  issued : List Write

namespace Network

variable {ι : Type}

/-- What can happen in a network. -/
inductive Move (ι : Type) where
  /-- An observer edits its replica. -/
  | edit (i : ι) (e : Edit)
  /-- An observer takes a snapshot of its replica. -/
  | share (i : ι)
  /-- An observer merges the snapshot that was taken as number `k`, if there is one yet. -/
  | merge (i : ι) (k : Nat)
  deriving DecidableEq

/-- A network in which nothing has happened. -/
def start (name : ι → String) : Network ι := ⟨fun i => .empty (name i), fun _ => [], [], []⟩

variable [DecidableEq ι]

/-- The network after a move. -/
def step (n : Network ι) : Move ι → Network ι
  | .edit i e =>
    { n with
      replica := Function.update n.replica i (e.apply (n.replica i))
      observed := Function.update n.observed i (n.observed i ++ e.writes (n.replica i))
      issued := n.issued ++ e.writes (n.replica i) }
  | .share i => { n with sent := n.sent ++ [((n.replica i).snapshot, n.observed i)] }
  | .merge i k =>
    match n.sent[k]? with
    | none => n
    | some (s, seen) =>
      { n with
        replica := Function.update n.replica i ((n.replica i).merge s)
        observed := Function.update n.observed i (n.observed i ++ seen) }

/-- **The network after a run.** -/
def run (name : ι → String) (moves : List (Move ι)) : Network ι := moves.foldl step (start name)

theorem run_append_move (name : ι → String) (moves : List (Move ι)) (m : Move ι) :
    run name (moves ++ [m]) = (run name moves).step m := by
  rw [run, List.foldl_append]
  rfl

/-! ## One replica among all writes -/

/-- What all runs keep of the replica under a name, given all writes ever made and those that the
    replica has observed. -/
structure SoundAt (name : String) (issued : List Write) (r : Replica) (seen : List Write) :
    Prop where
  id_eq : r.id = name
  reflects : r.Reflects seen
  observed_issued : ∀ w ∈ seen, w ∈ issued
  /-- The clock has passed all readings under which the replica ever wrote. -/
  own_le : ∀ w ∈ issued, w.2.stamp.writer = name → w.2.stamp.clock ≤ r.clock

namespace SoundAt

variable {name : String} {issued seen more : List Write} {r : Replica}

theorem empty (name : String) : SoundAt name [] (.empty name) [] where
  id_eq := rfl
  reflects := Replica.reflects_empty name
  observed_issued _ hw := hw
  own_le _ hw := absurd hw List.not_mem_nil

/-- The writes of an edit carry the name of the editing replica and readings behind its clock. -/
theorem mem_writes (h : SoundAt name issued r seen) {e : Edit} {w : Write} (hw : w ∈ e.writes r) :
    w.2.stamp.writer = name ∧ r.clock < w.2.stamp.clock ∧
      w.2.stamp.clock ≤ (e.apply r).clock := by
  obtain ⟨hid, hlt, hle⟩ := mem_stamped hw
  refine ⟨hid.trans h.id_eq, hlt, ?_⟩
  rw [Edit.apply_eq_writeAll, Replica.writeAll_clock]
  exact hle

/-- A write that an edit makes is new: its stamp was never used before. -/
theorem writes_fresh (h : SoundAt name issued r seen) {e : Edit} {w w' : Write}
    (hw : w ∈ e.writes r) (hw' : w' ∈ issued) : w.2.stamp ≠ w'.2.stamp := by
  intro heq
  obtain ⟨hid, hlt, _⟩ := h.mem_writes hw
  have hle : w'.2.stamp.clock ≤ r.clock := h.own_le w' hw' (by rw [← heq]; exact hid)
  rw [← heq] at hle
  omega

theorem edit (h : SoundAt name issued r seen) (e : Edit) :
    SoundAt name (issued ++ e.writes r) (e.apply r) (seen ++ e.writes r) where
  id_eq := (Edit.apply_id r e).trans h.id_eq
  reflects := h.reflects.edit e
  observed_issued w hw := by
    rcases List.mem_append.mp hw with hw | hw
    · exact List.mem_append_left _ (h.observed_issued w hw)
    · exact List.mem_append_right _ hw
  own_le w hw hname := by
    rcases List.mem_append.mp hw with hw | hw
    · have hle := h.own_le w hw hname
      rw [Edit.apply_eq_writeAll, Replica.writeAll_clock]
      omega
    · exact (h.mem_writes hw).2.2

/-- Writes of others leave a replica as it is. -/
theorem of_others (h : SoundAt name issued r seen) (hmore : ∀ w ∈ more, w.2.stamp.writer ≠ name) :
    SoundAt name (issued ++ more) r seen where
  id_eq := h.id_eq
  reflects := h.reflects
  observed_issued w hw := List.mem_append_left _ (h.observed_issued w hw)
  own_le w hw hname := by
    rcases List.mem_append.mp hw with hw | hw
    · exact h.own_le w hw hname
    · exact absurd hname (hmore w hw)

theorem merge (h : SoundAt name issued r seen) {peer : Replica} (hpeer : peer.Reflects more)
    (hmore : ∀ w ∈ more, w ∈ issued) :
    SoundAt name issued (r.merge peer.snapshot) (seen ++ more) where
  id_eq := (Replica.merge_id r peer.snapshot).trans h.id_eq
  reflects := h.reflects.merge hpeer
  observed_issued w hw := by
    rcases List.mem_append.mp hw with hw | hw
    · exact h.observed_issued w hw
    · exact hmore w hw
  own_le w hw hname := by
    rw [Replica.merge_clock]
    exact Nat.le_trans (h.own_le w hw hname) (Nat.le_max_left _ _)

end SoundAt

/-! ## What every run keeps -/

/-- What holds of two families at every place holds after both change at one place, if it holds
    there. -/
theorem forall_update {α β : Type} {R : ι → α → β → Prop} {f : ι → α} {g : ι → β}
    (h : ∀ i, R i (f i) (g i)) {j : ι} {a : α} {b : β} (hj : R j a b) (i : ι) :
    R i (Function.update f j a i) (Function.update g j b i) := by
  by_cases hi : i = j
  · subst hi
    rw [Function.update_self, Function.update_self]
    exact hj
  · rw [Function.update_of_ne hi, Function.update_of_ne hi]
    exact h i

/-- The state of a network that only ever ran. -/
structure Sound (name : ι → String) (n : Network ι) : Prop where
  each : ∀ i, SoundAt (name i) n.issued (n.replica i) (n.observed i)
  sent : ∀ p ∈ n.sent, ∃ r : Replica, p.1 = r.snapshot ∧ r.Reflects p.2 ∧ ∀ w ∈ p.2, w ∈ n.issued
  /-- No two writes share a stamp. -/
  distinct : ∀ w ∈ n.issued, ∀ w' ∈ n.issued, w.2.stamp = w'.2.stamp → w = w'

omit [DecidableEq ι] in
theorem sound_start (name : ι → String) : Sound name (start name) where
  each i := SoundAt.empty (name i)
  sent _ hp := absurd hp List.not_mem_nil
  distinct _ hw := absurd hw List.not_mem_nil

theorem Sound.edit {name : ι ↪ String} {n : Network ι} (h : Sound name n) (i : ι) (e : Edit) :
    Sound name (n.step (.edit i e)) where
  each j := by
    show SoundAt (name j) (n.issued ++ e.writes (n.replica i))
      (Function.update n.replica i _ j) (Function.update n.observed i _ j)
    by_cases hj : j = i
    · subst hj
      rw [Function.update_self, Function.update_self]
      exact (h.each j).edit e
    · rw [Function.update_of_ne hj, Function.update_of_ne hj]
      refine (h.each j).of_others fun w hw hname => hj ?_
      -- the new writes carry the editing replica's name, and names differ
      exact name.injective (hname.symm.trans ((h.each i).mem_writes hw).1)
  sent p hp := by
    obtain ⟨r, hs, hr, hissued⟩ := h.sent p hp
    exact ⟨r, hs, hr, fun w hw => List.mem_append_left _ (hissued w hw)⟩
  distinct w hw w' hw' heq := by
    rcases List.mem_append.mp hw with hw | hw <;> rcases List.mem_append.mp hw' with hw' | hw'
    · exact h.distinct w hw w' hw' heq
    · exact absurd heq.symm ((h.each i).writes_fresh hw' hw)
    · exact absurd heq ((h.each i).writes_fresh hw hw')
    · exact stamped_distinct hw hw' heq

theorem Sound.share {name : ι ↪ String} {n : Network ι} (h : Sound name n) (i : ι) :
    Sound name (n.step (.share i)) where
  each := h.each
  sent p hp := by
    rcases List.mem_append.mp hp with hp | hp
    · exact h.sent p hp
    · obtain rfl := List.mem_singleton.mp hp
      exact ⟨n.replica i, rfl, (h.each i).reflects, (h.each i).observed_issued⟩
  distinct := h.distinct

theorem Sound.merge {name : ι ↪ String} {n : Network ι} (h : Sound name n) (i : ι) (k : Nat) :
    Sound name (n.step (.merge i k)) := by
  simp only [Network.step]
  split
  · exact h
  · rename_i s seen hk
    obtain ⟨peer, hs, hpeer, hissued⟩ := h.sent _ (List.mem_of_getElem? hk)
    change s = peer.snapshot at hs
    subst hs
    exact ⟨forall_update h.each ((h.each i).merge hpeer hissued), h.sent, h.distinct⟩

theorem Sound.step {name : ι ↪ String} {n : Network ι} (h : Sound name n) (m : Move ι) :
    Sound name (n.step m) := by
  cases m with
  | edit i e => exact h.edit i e
  | share i => exact h.share i
  | merge i k => exact h.merge i k

theorem Sound.foldl_step {name : ι ↪ String} (moves : List (Move ι)) :
    ∀ {n : Network ι}, Sound name n → Sound name (moves.foldl Network.step n) := by
  induction moves with
  | nil => exact fun h => h
  | cons m moves ih => exact fun h => ih (h.step m)

/-- **Every run is sound**, as long as no two replicas have one name. -/
theorem sound_run (name : ι ↪ String) (moves : List (Move ι)) : Sound name (run name moves) :=
  Sound.foldl_step moves (sound_start name)

end Network

end DebugDesk
