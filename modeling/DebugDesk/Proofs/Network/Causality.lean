/-
  What was seen is overtaken for good.

  A write that is made in the knowledge of another one carries the later stamp: when its writer had
  observed the other write, its clock had reached the reading of that write, and a write carries the
  next reading (`Reflects.lt_of_mem_writes`).  A replica that has observed the newer write holds the
  newest write it has observed, so it holds this one or a still newer one, and never again the one
  that was overtaken (`overtaken_for_good`).  Snapshots from before may be merged as late and as
  often as anyone likes; they can only bring what the register has already beaten.

  That goes for deletions as for values.  What was deleted, or cleared away, by somebody who had
  seen it does not come back; and what was written over a peer's record prevails wherever it is
  merged, until somebody writes something newer.
-/
import DebugDesk.Proofs.Network.Convergence

namespace DebugDesk

namespace Replica

/-! ## What an edit puts at a key -/

/-- What an edit of a replica puts at a key: a value, or the absence of one where there was a
    breakpoint. -/
inductive Edit.Puts (r : Replica) : Edit → String → Option Breakpoint → Prop where
  | set (key : String) (b : Breakpoint) : Puts r (.set key b) key (some b)
  | delete (key : String) (live : (r.get? key).isSome) : Puts r (.delete key) key none
  | clear (key : String) (live : (r.get? key).isSome) : Puts r .clear key none

variable {r : Replica} {e : Edit} {key : String} {value : Option Breakpoint}

theorem Edit.Puts.mem_changes (h : e.Puts r key value) : (key, value) ∈ e.changes r := by
  cases h with
  | set key b => exact List.mem_singleton.mpr rfl
  | delete key hlive =>
    show (key, none) ∈ (if (r.get? key).isSome then [(key, none)] else [])
    rw [if_pos hlive]
    exact List.mem_singleton.mpr rfl
  | clear key hlive =>
    obtain ⟨b, hb⟩ := Option.isSome_iff_exists.mp hlive
    exact List.mem_map.mpr ⟨(key, b), (mem_entries_iff r key b).mpr hb, rfl⟩

/-- An edit puts one value at a key and no other. -/
theorem Edit.Puts.eq_of_mem_changes (h : e.Puts r key value) {other : Option Breakpoint}
    (hmem : (key, other) ∈ e.changes r) : other = value := by
  cases h with
  | set key b => exact congrArg Prod.snd (List.mem_singleton.mp hmem)
  | delete key hlive =>
    change (key, other) ∈ (if (r.get? key).isSome then [(key, none)] else []) at hmem
    rw [if_pos hlive] at hmem
    exact congrArg Prod.snd (List.mem_singleton.mp hmem)
  | clear key hlive =>
    obtain ⟨_, _, he⟩ := List.mem_map.mp hmem
    exact (congrArg Prod.snd he).symm

/-- The writes that make some changes carry these changes, each under some stamp. -/
theorem exists_mem_stamped_iff {id : String} {changes : List (String × Option Breakpoint)} :
    ∀ clock : Nat, (∃ stamp, (key, ⟨value, stamp⟩) ∈ stamped id clock changes) ↔
      (key, value) ∈ changes := by
  induction changes with
  | nil =>
    exact fun _ =>
      ⟨fun ⟨_, h⟩ => absurd h List.not_mem_nil, fun h => absurd h List.not_mem_nil⟩
  | cons c changes ih =>
    intro clock
    rw [List.mem_cons, ← ih (clock + 1)]
    constructor
    · rintro ⟨stamp, h⟩
      rcases List.mem_cons.mp h with h | h
      · injection h with hkey hregister
        injection hregister with hvalue
        exact Or.inl (by rw [hkey, hvalue])
      · exact Or.inr ⟨stamp, h⟩
    · rintro (rfl | ⟨stamp, h⟩)
      · exact ⟨⟨clock + 1, id⟩, List.mem_cons_self⟩
      · exact ⟨stamp, List.mem_cons_of_mem _ h⟩

/-- **A write carries a later stamp than all its writer had observed.** -/
theorem Reflects.lt_of_mem_writes {seen : List Write} (h : r.Reflects seen) {old new : Write}
    (hold : old ∈ seen) (hnew : new ∈ e.writes r) : old.2.stamp < new.2.stamp := by
  have hle : old.2.stamp.clock ≤ r.clock := h.clock_le old hold
  have hlt : r.clock < new.2.stamp.clock := (mem_stamped hnew).2.1
  exact Or.inl (Nat.lt_of_le_of_lt hle hlt)

/-- Where a write was observed, the newest one to its key is this write or a newer one. -/
theorem Newest.of_mem {writes : List Write} {held : Option Register} (h : Newest writes key held)
    {new : Register} (hmem : (key, new) ∈ writes) :
    ∃ register, held = some register ∧ (key, register) ∈ writes ∧
      (register = new ∨ new.stamp < register.stamp) := by
  cases held with
  | none => exact absurd rfl (h _ hmem)
  | some register => exact ⟨register, rfl, h.1, (h.2 _ hmem rfl).imp_left Eq.symm⟩

end Replica

namespace Network

open Replica (Edit Newest)

variable {ι : Type} [DecidableEq ι]

/-- **What was seen is overtaken for good.**  A replica that has observed a write to a key edits the
    key: it sets it, or it deletes it or clears while there is a breakpoint.  That is one new write,
    with what the edit puts there.  From then on no replica that has observed the new write holds
    the old one, whatever else was written, and whichever snapshots were merged; and as long as it
    has observed no still newer write to the key, the key answers with what the edit put there. -/
theorem overtaken_for_good (name : ι ↪ String) (before : List (Move ι)) (i : ι) (e : Edit)
    (key : String) (value : Option Breakpoint) (old : Register)
    (puts : e.Puts ((run name before).replica i) key value)
    (seen : (key, old) ∈ (run name before).observed i) :
    (∃ stamp, (key, ⟨value, stamp⟩) ∈ e.writes ((run name before).replica i)) ∧
    ∀ new, (key, new) ∈ e.writes ((run name before).replica i) →
      new.value = value ∧
      ∀ (after : List (Move ι)) (j : ι),
        (key, new) ∈ (run name (before ++ .edit i e :: after)).observed j →
          ((run name (before ++ .edit i e :: after)).replica j).registers.get? key ≠ some old ∧
          ((∀ w ∈ (run name (before ++ .edit i e :: after)).observed j, w.1 = key →
              ¬ new.stamp < w.2.stamp) →
            ((run name (before ++ .edit i e :: after)).replica j).get? key = value) := by
  refine ⟨(Replica.exists_mem_stamped_iff _).mpr puts.mem_changes, fun new hnew => ?_⟩
  have hvalue : new.value = value :=
    puts.eq_of_mem_changes ((Replica.exists_mem_stamped_iff _).mp ⟨new.stamp, hnew⟩)
  have hlt : old.stamp < new.stamp :=
    ((sound_run name before).each i).reflects.lt_of_mem_writes seen hnew
  refine ⟨hvalue, fun after j hobserved => ?_⟩
  obtain ⟨register, hheld, hmem, hnewest⟩ :=
    (newest_register name (before ++ .edit i e :: after) j key).of_mem hobserved
  constructor
  · intro hold
    -- the register held is at least as new as the new write, and the old one is not
    obtain rfl : register = old := Option.some.inj (hheld.symm.trans hold)
    rcases hnewest with rfl | hnewer
    · exact Stamp.lt_irrefl _ hlt
    · exact Stamp.lt_irrefl _ (Stamp.lt_trans hlt hnewer)
  · intro hlatest
    obtain rfl : register = new := hnewest.resolve_right (hlatest _ hmem rfl)
    rw [Replica.get?, hheld]
    exact hvalue

/-! ## A late snapshot brings nothing back -/

/-- In the exchange `outAndBack` the second replica deletes what it got from the first, and the
    first merges its own old snapshot last: it does not hold its old write again, and has no
    breakpoint there. -/
theorem outAndBack_overtaken :
    ("10", (⟨some (.confirmed 1), ⟨1, "a"⟩⟩ : Register)) ∈
        (run twoNames (outAndBack.take 3)).observed true ∧
      Edit.Puts ((run twoNames (outAndBack.take 3)).replica true) (.delete "10") "10" none ∧
      ((run twoNames outAndBack).replica false).registers.get? "10"
        ≠ some ⟨some (.confirmed 1), ⟨1, "a"⟩⟩ ∧
      ((run twoNames outAndBack).replica false).get? "10" = none := by
  have seen : ("10", (⟨some (.confirmed 1), ⟨1, "a"⟩⟩ : Register)) ∈
      (run twoNames (outAndBack.take 3)).observed true := by decide
  have puts :
      Edit.Puts ((run twoNames (outAndBack.take 3)).replica true) (.delete "10") "10" none :=
    .delete "10" (by decide)
  obtain ⟨_, hall⟩ := overtaken_for_good twoNames (outAndBack.take 3) true (.delete "10") "10" none
    ⟨some (.confirmed 1), ⟨1, "a"⟩⟩ puts seen
  obtain ⟨_, hlater⟩ := hall ⟨none, ⟨2, "b"⟩⟩ (by decide)
  obtain ⟨hnot, hlatest⟩ := hlater (outAndBack.drop 4) false (by decide)
  exact ⟨seen, puts, hnot, hlatest (by decide)⟩

end Network

end DebugDesk
