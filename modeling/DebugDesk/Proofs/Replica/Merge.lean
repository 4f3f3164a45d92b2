/-
  Merging in any order.

  Snapshots arrive late, twice and in any order, and they need not come from replicas that kept to
  the rules: a snapshot may carry any clock, any writers, deletions, and several records for one
  key.  Merging them one after another (`mergeAll`) confronts the replica's own registers with all
  the records (`offered`), and what it leaves depends on nothing but which these are.

  The crux is that taking over one record keeps every register unbeaten among all that was offered
  so far (`unbeaten_take`), whether the key had a register before or not, and whether it stood in
  the same snapshot already.  So after a run of merges each register is an unbeaten one of all that
  was offered (`unbeaten_mergeAll`).  It is the newest, and thereby the only one possible, if the
  records agree: under one key and one stamp stands one value (`Agreeing`).  Without agreement the
  record that comes first would win, and the order would show.

  The clocks need no agreement: the clock after the merges is the greatest of all (`max?_mergeAll`).
-/
import DebugDesk.Proofs.Replica.Observed

namespace DebugDesk

namespace Replica

/-! ## Runs of merges -/

/-- Merges snapshots one after another. -/
def mergeAll (r : Replica) (snapshots : List Snapshot) : Replica := snapshots.foldl merge r

/-- All that meets when snapshots are merged: the replica's own registers and all records. -/
def offered (r : Replica) (snapshots : List Snapshot) : List Write :=
  r.registers.entries ++ snapshots.flatMap (·.records)

/-- Under one key and one stamp stands one value. -/
def Agreeing (writes : List Write) : Prop :=
  ∀ w ∈ writes, ∀ w' ∈ writes, w.1 = w'.1 → w.2.stamp = w'.2.stamp → w.2.value = w'.2.value

instance (writes : List Write) : Decidable (Agreeing writes) :=
  inferInstanceAs (Decidable (∀ w ∈ writes, ∀ w' ∈ writes, _ → _ → _))

theorem Agreeing.eq {writes : List Write} (h : Agreeing writes) {w w' : Write} (hw : w ∈ writes)
    (hw' : w' ∈ writes) (hkey : w.1 = w'.1) (hstamp : w.2.stamp = w'.2.stamp) : w = w' := by
  have hvalue := h w hw w' hw' hkey hstamp
  obtain ⟨key, value, stamp⟩ := w
  obtain ⟨key', value', stamp'⟩ := w'
  subst hkey hstamp hvalue
  rfl

theorem mem_offered_iff {r : Replica} {snapshots : List Snapshot} {w : Write} :
    w ∈ r.offered snapshots ↔
      w ∈ r.registers.entries ∨ ∃ s ∈ snapshots, w ∈ s.records := by
  rw [offered, List.mem_append, List.mem_flatMap]

/-- What is offered depends on nothing but which snapshots there are. -/
theorem mem_offered_congr (r : Replica) {snapshots snapshots' : List Snapshot}
    (same : ∀ s, s ∈ snapshots' ↔ s ∈ snapshots) (w : Write) :
    w ∈ r.offered snapshots' ↔ w ∈ r.offered snapshots := by
  rw [mem_offered_iff, mem_offered_iff]
  simp only [same]

/-! ## Registers -/

/-- Every register of a replica is unbeaten among its registers, which are one to a key. -/
theorem unbeaten_entries (r : Replica) (key : String) :
    Unbeaten r.registers.entries key (r.registers.get? key) := by
  cases hreg : r.registers.get? key with
  | none =>
    intro w hw hkey
    have hget : r.registers.get? w.1 = some w.2 := (Table.mem_entries_iff _ _ _).mp hw
    rw [hkey, hreg] at hget
    nomatch hget
  | some register =>
    refine ⟨(Table.mem_entries_iff _ _ _).mpr hreg, ?_⟩
    intro w hw hkey hlt
    have hget : r.registers.get? w.1 = some w.2 := (Table.mem_entries_iff _ _ _).mp hw
    rw [hkey, hreg] at hget
    injection hget with heq
    rw [heq] at hlt
    exact Stamp.lt_irrefl _ hlt

/-- **Taking over one more record keeps every register unbeaten** among all that was offered. -/
theorem unbeaten_take {r : Replica} {seen : List Write}
    (h : ∀ key, Unbeaten seen key (r.registers.get? key)) (e : Write) (key : String) :
    Unbeaten (seen ++ [e]) key ((r.take e.1 e.2).registers.get? key) := by
  rw [get?_take]
  split
  · rename_i hkey
    subst hkey
    have hnew : Unbeaten [e] e.1 (some e.2) := by
      refine ⟨List.mem_singleton.mpr rfl, ?_⟩
      intro w hw _ hlt
      rw [List.mem_singleton.mp hw] at hlt
      exact Stamp.lt_irrefl _ hlt
    exact (h e.1).join hnew
  · rename_i hne
    refine (h key).append_of_forall_ne fun w hw => ?_
    rw [List.mem_singleton.mp hw]
    exact fun heq => hne heq.symm

theorem unbeaten_foldl_take (records : List Write) : ∀ {r : Replica} {seen : List Write},
    (∀ key, Unbeaten seen key (r.registers.get? key)) → ∀ key,
      Unbeaten (seen ++ records) key
        ((records.foldl (fun r e => r.take e.1 e.2) r).registers.get? key) := by
  induction records with
  | nil =>
    intro r seen h key
    rw [List.append_nil]
    exact h key
  | cons e records ih =>
    intro r seen h key
    have hrest := ih (unbeaten_take h e) key
    rw [List.append_assoc] at hrest
    exact hrest

theorem unbeaten_foldl_merge (snapshots : List Snapshot) : ∀ {r : Replica} {seen : List Write},
    (∀ key, Unbeaten seen key (r.registers.get? key)) → ∀ key,
      Unbeaten (seen ++ snapshots.flatMap (·.records)) key
        ((r.mergeAll snapshots).registers.get? key) := by
  induction snapshots with
  | nil =>
    intro r seen h key
    rw [List.flatMap_nil, List.append_nil]
    exact h key
  | cons s snapshots ih =>
    intro r seen h key
    have hrest := ih (r := r.merge s) (unbeaten_foldl_take s.records h) key
    rw [List.append_assoc] at hrest
    rw [List.flatMap_cons]
    exact hrest

/-- **After merges every register is unbeaten among all that was offered.** -/
theorem unbeaten_mergeAll (r : Replica) (snapshots : List Snapshot) (key : String) :
    Unbeaten (r.offered snapshots) key ((r.mergeAll snapshots).registers.get? key) :=
  unbeaten_foldl_merge snapshots r.unbeaten_entries key

theorem newest_mergeAll {r : Replica} {snapshots : List Snapshot}
    (agreeing : Agreeing (r.offered snapshots)) (key : String) :
    Newest (r.offered snapshots) key ((r.mergeAll snapshots).registers.get? key) :=
  (unbeaten_mergeAll r snapshots key).newest fun _ hw _ hw' => agreeing.eq hw hw'

/-! ## Clocks and names -/

theorem mergeAll_clock (snapshots : List Snapshot) : ∀ r : Replica,
    (r.mergeAll snapshots).clock = (snapshots.map (·.clock)).foldl max r.clock := by
  induction snapshots with
  | nil => exact fun r => rfl
  | cons s snapshots ih =>
    intro r
    show ((r.merge s).mergeAll snapshots).clock = _
    rw [ih (r.merge s), merge_clock, List.map_cons, List.foldl_cons]

theorem mergeAll_id (snapshots : List Snapshot) : ∀ r : Replica,
    (r.mergeAll snapshots).id = r.id := by
  induction snapshots with
  | nil => exact fun r => rfl
  | cons s snapshots ih => exact fun r => (ih (r.merge s)).trans (merge_id r s)

/-- The clock after merges is the greatest of the replica's and the snapshots' clocks. -/
theorem max?_mergeAll (r : Replica) (snapshots : List Snapshot) :
    (r.clock :: snapshots.map (·.clock)).max? = some (r.mergeAll snapshots).clock := by
  rw [List.max?_cons', mergeAll_clock]

theorem mergeAll_clock_congr (r : Replica) {snapshots snapshots' : List Snapshot}
    (same : ∀ s, s ∈ snapshots' ↔ s ∈ snapshots) :
    (r.mergeAll snapshots').clock = (r.mergeAll snapshots).clock := by
  have hmem : ∀ c, c ∈ r.clock :: snapshots'.map (·.clock) ↔
      c ∈ r.clock :: snapshots.map (·.clock) := by
    intro c
    simp only [List.mem_cons, List.mem_map, same]
  obtain ⟨hin, hle⟩ := List.max?_eq_some_iff.mp (max?_mergeAll r snapshots)
  obtain ⟨hin', hle'⟩ := List.max?_eq_some_iff.mp (max?_mergeAll r snapshots')
  have h₁ := hle _ ((hmem _).mp hin')
  have h₂ := hle' _ ((hmem _).mpr hin)
  omega

/-! ## Order and repetition -/

theorem eq_of_parts {r r' : Replica} (hid : r.id = r'.id) (hclock : r.clock = r'.clock)
    (hregisters : r.registers = r'.registers) : r = r' := by
  cases r
  cases r'
  cases hid
  cases hclock
  cases hregisters
  rfl

/-- **Order and repetition do not matter** among agreeing records. -/
theorem mergeAll_congr {r : Replica} {snapshots snapshots' : List Snapshot}
    (agreeing : Agreeing (r.offered snapshots)) (same : ∀ s, s ∈ snapshots' ↔ s ∈ snapshots) :
    r.mergeAll snapshots' = r.mergeAll snapshots := by
  have hoffered := mem_offered_congr r same
  have hagreeing : Agreeing (r.offered snapshots') := by
    intro w hw w' hw'
    exact agreeing w ((hoffered w).mp hw) w' ((hoffered w').mp hw')
  have hreg : (r.mergeAll snapshots').registers = (r.mergeAll snapshots).registers := by
    apply Table.ext_get?
    intro key
    exact (newest_mergeAll hagreeing key).eq_of_mem_iff (newest_mergeAll agreeing key) hoffered
  have hclock := mergeAll_clock_congr r same
  have hid : (r.mergeAll snapshots').id = (r.mergeAll snapshots).id := by
    rw [mergeAll_id, mergeAll_id]
  exact eq_of_parts hid hclock hreg

/-- **Merging is order independent and idempotent.**  Take a replica and snapshots, whatever their
    clocks, writers and records, that agree on the value under each key and stamp.  After merging
    them all, each register is the one with the greatest stamp of all that was offered for its key,
    and is absent if nothing was; the clock is the greatest of all clocks; any row of the same
    snapshots, permuted and with any of them repeated, leads to the same replica, tombstones
    included; and merging one of them once more changes nothing. -/
theorem mergeAll_any_order (r : Replica) (snapshots : List Snapshot)
    (agreeing : Agreeing (r.offered snapshots)) :
    (∀ key, Newest (r.offered snapshots) key ((r.mergeAll snapshots).registers.get? key)) ∧
    (r.clock :: snapshots.map (·.clock)).max? = some (r.mergeAll snapshots).clock ∧
    (∀ snapshots' : List Snapshot, (∀ s, s ∈ snapshots' ↔ s ∈ snapshots) →
      r.mergeAll snapshots' = r.mergeAll snapshots) ∧
    ∀ s ∈ snapshots, (r.mergeAll snapshots).merge s = r.mergeAll snapshots := by
  refine ⟨newest_mergeAll agreeing, max?_mergeAll r snapshots, ?_, ?_⟩
  · intro snapshots' same
    exact mergeAll_congr agreeing same
  · intro s hs
    -- once more at the end is one of the repetitions
    have hagain : (r.mergeAll snapshots).merge s = r.mergeAll (snapshots ++ [s]) := by
      rw [mergeAll, mergeAll, List.foldl_append]
      rfl
    rw [hagain]
    refine mergeAll_congr agreeing fun s' => ?_
    rw [List.mem_append, List.mem_singleton]
    constructor
    · rintro (h | rfl)
      · exact h
      · exact hs
    · exact Or.inl

/-! ## Two snapshots that cross -/

/-- A snapshot with two records for one key, the newer one in front. -/
def twice : Snapshot :=
  ⟨"b", 3, [("7", ⟨some (.confirmed 2), ⟨5, "b"⟩⟩), ("7", ⟨some (.confirmed 1), ⟨4, "b"⟩⟩)]⟩

/-- A snapshot that knows of a deletion at the same reading, by a writer with a greater name. -/
def gone : Snapshot :=
  ⟨"c", 9, [("7", ⟨none, ⟨5, "c"⟩⟩), ("10", ⟨some (.confirmed 3), ⟨1, "c"⟩⟩)]⟩

/-- A replica with a register of its own merges both, in either order and with one repeated: the
    deletion stays, because its stamp is the greatest. -/
theorem mergeAll_crossing :
    Agreeing (((empty "a").set "7" (.confirmed 9)).offered [twice, gone]) ∧
      ((empty "a").set "7" (.confirmed 9)).mergeAll [gone, twice, gone] =
        ((empty "a").set "7" (.confirmed 9)).mergeAll [twice, gone] ∧
      (((empty "a").set "7" (.confirmed 9)).mergeAll [twice, gone]).registers.get? "7" =
        some ⟨none, ⟨5, "c"⟩⟩ := by
  have agreeing : Agreeing (((empty "a").set "7" (.confirmed 9)).offered [twice, gone]) := by
    decide
  obtain ⟨_, _, hany, _⟩ := mergeAll_any_order _ _ agreeing
  refine ⟨agreeing, hany [gone, twice, gone] ?_, by decide⟩
  intro s
  simp only [List.mem_cons, List.not_mem_nil, or_false]
  constructor
  · rintro (h | h | h)
    · exact Or.inr h
    · exact Or.inl h
    · exact Or.inr h
  · rintro (h | h)
    · exact Or.inr (Or.inl h)
    · exact Or.inl h

end Replica

end DebugDesk
