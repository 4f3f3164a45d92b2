/-
  A replica between merges is a plain table of its breakpoints.

  A replica answers from its registers, and a register answers with what it holds only if it holds
  a value.  `Replica.live` takes the registers that do, without their stamps: an ordinary table,
  with the replica's own entries and look-ups.

  The crux is when a write takes effect at all.  It does exactly if its stamp beats the register's,
  and a fresh stamp beats every register that carries no later reading than the replica's clock
  (`Replica.Dominant`).  Under this one premise

    * `live_set`:    setting a key is inserting it into the table,
    * `live_delete`: deleting a key is erasing it,
    * `live_clear`:  clearing leaves the empty table,

  tombstones and foreign stamps notwithstanding, and the premise holds again afterwards.  A merge
  keeps it as long as the snapshot's clock, too, dominates what the snapshot carries.
-/
import DebugDesk.Replica.Snapshot

namespace DebugDesk

/-- Behind its first entry, an ascending list does not answer the key of that entry. -/
theorem Table.lookup_eq_none_of_pairwise {α : Type} {key : String} {value : α}
    {rest : List (String × α)} (h : ((key, value) :: rest).Pairwise fun a b => a.1 < b.1) :
    rest.lookup key = none := by
  rw [List.lookup_eq_none_iff]
  intro e he
  have hlt : key < e.1 := List.rel_of_pairwise_cons h he
  rw [bne_iff_ne]
  exact String.ne_of_lt hlt

namespace Replica

/-! ## The live table -/

theorem mem_entries_iff (r : Replica) (key : String) (b : Breakpoint) :
    (key, b) ∈ r.entries ↔ r.get? key = some b := by
  rw [entries, List.mem_filterMap, get?]
  constructor
  · rintro ⟨⟨k, register⟩, hmem, hval⟩
    obtain ⟨v, hv, he⟩ := Option.map_eq_some_iff.mp hval
    injection he with hk hb
    subst hk hb
    rw [(Table.mem_entries_iff _ _ _).mp hmem, Option.bind_some, hv]
  · intro h
    obtain ⟨register, hreg, hv⟩ := Option.bind_eq_some_iff.mp h
    refine ⟨(key, register), (Table.mem_entries_iff _ _ _).mpr hreg, ?_⟩
    show register.value.map (key, ·) = some (key, b)
    rw [hv]; rfl

theorem entries_ascending (r : Replica) : r.entries.Pairwise fun a b => a.1 < b.1 := by
  rw [entries, List.pairwise_filterMap]
  refine r.registers.ascending.imp ?_
  intro a a' hlt b hb b' hb'
  obtain ⟨_, _, rfl⟩ := Option.map_eq_some_iff.mp hb
  obtain ⟨_, _, rfl⟩ := Option.map_eq_some_iff.mp hb'
  exact hlt

/-- The breakpoints of a replica as a table of their own. -/
def live (r : Replica) : Table Breakpoint := ⟨r.entries, r.entries_ascending⟩

theorem get?_live (r : Replica) (key : String) : r.live.get? key = r.get? key := by
  apply Option.ext
  intro b
  rw [← Table.mem_entries_iff, ← mem_entries_iff]
  rfl

theorem live_eq_of_get? {r : Replica} {t : Table Breakpoint} (h : ∀ key, r.get? key = t.get? key) :
    r.live = t :=
  Table.ext_get? fun key => (r.get?_live key).trans (h key)

/-! ## Clocks that dominate -/

/-- No register carries a later reading than the replica's clock. -/
def Dominant (r : Replica) : Prop :=
  ∀ key register, r.registers.get? key = some register → register.stamp.clock ≤ r.clock

theorem dominant_empty (id : String) : (empty id).Dominant := by
  intro key register h
  nomatch h

/-- A register that is not beaten stays, one that is gives way. -/
theorem join_some (old new : Register) :
    Register.join (some old) new = if old.stamp < new.stamp then new else old := rfl

theorem join_eq_or (old : Option Register) (new : Register) :
    Register.join old new = new ∨ old = some (Register.join old new) := by
  cases old with
  | none => exact Or.inl rfl
  | some old =>
    rw [join_some]
    split
    · exact Or.inl rfl
    · exact Or.inr rfl

/-- A register with a reading behind the clock gives way to one with a reading after it. -/
theorem Dominant.join_eq {r : Replica} (h : r.Dominant) (key : String) {new : Register}
    (later : r.clock < new.stamp.clock) : Register.join (r.registers.get? key) new = new := by
  cases hreg : r.registers.get? key with
  | none => rfl
  | some old =>
    have hle : old.stamp.clock ≤ r.clock := h key old hreg
    have hlt : old.stamp < new.stamp := Or.inl (Nat.lt_of_le_of_lt hle later)
    rw [join_some, if_pos hlt]

/-- **A write on a dominant replica takes effect**, whoever wrote the register before. -/
theorem get?_registers_write {r : Replica} (h : r.Dominant) (key other : String)
    (value : Option Breakpoint) :
    (r.write key value).registers.get? other =
      if other = key then some ⟨value, ⟨r.clock + 1, r.id⟩⟩ else r.registers.get? other := by
  rw [write, get?_take]
  split
  · -- the write carries the reading next to the clock's
    exact congrArg some (h.join_eq key (Nat.lt_succ_self r.clock))
  · rfl

theorem get?_write {r : Replica} (h : r.Dominant) (key other : String)
    (value : Option Breakpoint) :
    (r.write key value).get? other = if other = key then value else r.get? other := by
  rw [get?, get?_registers_write h]
  split <;> rfl

theorem get?_write_of_ne (r : Replica) {key other : String} (hne : other ≠ key)
    (value : Option Breakpoint) : (r.write key value).get? other = r.get? other := by
  rw [get?, write, get?_take, if_neg hne]
  rfl

/-- Where a write does not take effect, it changes nothing. -/
theorem get?_write_self (r : Replica) (key : String) (value : Option Breakpoint) :
    (r.write key value).get? key = value ∨ (r.write key value).get? key = r.get? key := by
  rw [get?, write, get?_take, if_pos rfl]
  rcases join_eq_or (r.registers.get? key) ⟨value, ⟨r.clock + 1, r.id⟩⟩ with h | h
  · exact Or.inl (congrArg (·.value) h)
  · exact Or.inr (congrArg (·.bind (·.value)) h.symm)

theorem Dominant.write {r : Replica} (h : r.Dominant) (key : String) (value : Option Breakpoint) :
    (r.write key value).Dominant := by
  intro other register hreg
  rw [get?_registers_write h] at hreg
  rw [write_clock]
  split at hreg
  · injection hreg with he
    subst he
    exact Nat.le_refl _
  · have := h other register hreg
    omega

/-! ## Set, delete and clear -/

theorem Dominant.set {r : Replica} (h : r.Dominant) (key : String) (b : Breakpoint) :
    (r.set key b).Dominant := h.write key (some b)

theorem live_set {r : Replica} (h : r.Dominant) (key : String) (b : Breakpoint) :
    (r.set key b).live = r.live.insert key b := by
  apply live_eq_of_get?
  intro other
  rw [set, get?_write h, Table.get?_insert, get?_live]

theorem Dominant.delete {r : Replica} (h : r.Dominant) (key : String) : (r.delete key).Dominant := by
  rw [Replica.delete]
  split
  · exact h.write key none
  · exact h

theorem live_delete {r : Replica} (h : r.Dominant) (key : String) :
    (r.delete key).live = r.live.erase key := by
  apply live_eq_of_get?
  intro other
  rw [Table.get?_erase, get?_live, delete]
  split
  · rw [get?_write h]
  · rename_i hnone
    split
    · rename_i heq
      subst heq
      exact Option.not_isSome_iff_eq_none.mp hnone
    · rfl

/-- Deletions in a row: each of the keys answers nothing afterwards, all others as before. -/
theorem get?_foldl_write_none (keys : List String) : ∀ {r : Replica}, r.Dominant →
    (keys.foldl (fun r key => r.write key none) r).Dominant ∧
    ∀ other, (keys.foldl (fun r key => r.write key none) r).get? other =
      if other ∈ keys then none else r.get? other := by
  induction keys with
  | nil =>
    intro r h
    exact ⟨h, fun other => by simp⟩
  | cons key keys ih =>
    intro r h
    obtain ⟨hdom, hget⟩ := ih (h.write key none)
    refine ⟨hdom, fun other => ?_⟩
    rw [List.foldl_cons, hget other, get?_write h]
    by_cases hk : other = key <;> simp [hk]

theorem Dominant.clear {r : Replica} (h : r.Dominant) : r.clear.Dominant :=
  (get?_foldl_write_none _ h).1

theorem live_clear {r : Replica} (h : r.Dominant) : r.clear.live = .empty := by
  apply live_eq_of_get?
  intro key
  rw [clear, (get?_foldl_write_none _ h).2 key, Table.get?_empty]
  split
  · rfl
  · rename_i hnot
    -- a key to which clearing does not write had no breakpoint before
    cases hget : r.get? key with
    | none => rfl
    | some b =>
      exact absurd (List.mem_map_of_mem ((mem_entries_iff r key b).mpr hget)) hnot

/-! ## Merges -/

theorem foldl_take_clock (records : List (String × Register)) : ∀ r : Replica,
    (records.foldl (fun r e => r.take e.1 e.2) r).clock = r.clock := by
  induction records with
  | nil => exact fun r => rfl
  | cons e records ih => exact fun r => ih (r.take e.1 e.2)

theorem merge_clock (r : Replica) (s : Snapshot) : (r.merge s).clock = max r.clock s.clock :=
  foldl_take_clock s.records _

/-- What a replica holds after taking over some records was there before or is one of them. -/
theorem mem_of_get?_foldl_take (records : List (String × Register)) :
    ∀ {r : Replica} {key : String} {register : Register},
    (records.foldl (fun r e => r.take e.1 e.2) r).registers.get? key = some register →
    r.registers.get? key = some register ∨ (key, register) ∈ records := by
  induction records with
  | nil => exact fun h => Or.inl h
  | cons e records ih =>
    intro r key register h
    rcases ih h with htake | hmem
    · rw [get?_take] at htake
      split at htake
      · rename_i hk
        injection htake with hreg
        subst hk
        rcases join_eq_or (r.registers.get? e.1) e.2 with hj | hj
        · exact Or.inr (by rw [← hreg, hj]; exact List.mem_cons_self)
        · exact Or.inl (by rw [← hreg]; exact hj)
      · exact Or.inl htake
    · exact Or.inr (List.mem_cons_of_mem _ hmem)

theorem mem_of_get?_merge {r : Replica} {s : Snapshot} {key : String} {register : Register}
    (h : (r.merge s).registers.get? key = some register) :
    r.registers.get? key = some register ∨ (key, register) ∈ s.records :=
  mem_of_get?_foldl_take (r := { r with clock := max r.clock s.clock }) s.records h

theorem Dominant.merge {r : Replica} (h : r.Dominant) {s : Snapshot}
    (hs : ∀ e ∈ s.records, e.2.stamp.clock ≤ s.clock) : (r.merge s).Dominant := by
  intro key register hreg
  rw [merge_clock]
  rcases mem_of_get?_merge hreg with hreg | hmem
  · have := h key register hreg
    omega
  · have := hs (key, register) hmem
    simp only at this
    omega

theorem Dominant.snapshot {r : Replica} (h : r.Dominant) :
    ∀ e ∈ r.snapshot.records, e.2.stamp.clock ≤ r.snapshot.clock := by
  rintro ⟨key, register⟩ hmem
  exact h key register ((Table.mem_entries_iff _ _ _).mp hmem)

end Replica

end DebugDesk
