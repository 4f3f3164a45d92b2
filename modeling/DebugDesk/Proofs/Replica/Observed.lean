/-
  What a replica knows: the writes it has observed.

  A replica changes by edits of its own and by merges.  An edit is a list of writes (one for a
  set, one for a deletion that finds something, one per breakpoint for clearing), and each write
  carries a stamp of its own: the replica's name and the next reading of its clock.  A merge brings
  everything that the snapshot's origin had observed when it took the snapshot.

  The crux is `Replica.Reflects`: a replica *reflects* a list of writes if every register holds an
  unbeaten one among the writes to its key, if a key without a register has none, and if no write
  carries a later reading than the clock.  Reflecting is kept by

    * `Reflects.write`: a write, which beats all that was observed because its reading is new;
    * `Reflects.merge`: a merge, because the better of two unbeaten registers is unbeaten by both
      lists; it is the only place where registers of two replicas meet.

  An unbeaten write is the newest one (`Newest`) where no other write to the key has its stamp.
  That is no matter of one replica: it needs that no two writes of the whole network share a stamp.
-/
import DebugDesk.Proofs.Replica.Live

namespace DebugDesk

/-- A write: the key to which it goes, and the register that it proposes there. -/
abbrev Write := String × Register

namespace Replica

/-! ## The writes that edits are made of -/

/-- Writes values, or the absence of values, one after another. -/
def writeAll (r : Replica) (changes : List (String × Option Breakpoint)) : Replica :=
  changes.foldl (fun r c => r.write c.1 c.2) r

/-- The writes by which a writer makes changes, from some reading of its clock on. -/
def stamped (id : String) : Nat → List (String × Option Breakpoint) → List Write
  | _, [] => []
  | clock, (key, value) :: changes =>
    (key, ⟨value, ⟨clock + 1, id⟩⟩) :: stamped id (clock + 1) changes

theorem clear_eq_writeAll (r : Replica) :
    r.clear = r.writeAll (r.entries.map fun e => (e.1, none)) := by
  rw [clear, writeAll, List.foldl_map, List.foldl_map]

namespace Edit

/-- The values, or absences of values, that an edit writes. -/
def changes (r : Replica) : Edit → List (String × Option Breakpoint)
  | set key b => [(key, some b)]
  | delete key => if (r.get? key).isSome then [(key, none)] else []
  | clear => r.entries.map fun e => (e.1, none)

/-- The writes that an edit makes. -/
def writes (r : Replica) (e : Edit) : List Write := stamped r.id r.clock (e.changes r)

theorem apply_eq_writeAll (r : Replica) (e : Edit) : e.apply r = r.writeAll (e.changes r) := by
  cases e with
  | set key b => rfl
  | delete key =>
    show r.delete key = r.writeAll (if (r.get? key).isSome then [(key, none)] else [])
    rw [Replica.delete]
    split <;> rfl
  | clear => exact clear_eq_writeAll r

end Edit

theorem writeAll_id (changes : List (String × Option Breakpoint)) :
    ∀ r : Replica, (r.writeAll changes).id = r.id := by
  induction changes with
  | nil => exact fun r => rfl
  | cons c changes ih => exact fun r => ih (r.write c.1 c.2)

theorem Edit.apply_id (r : Replica) (e : Edit) : (e.apply r).id = r.id := by
  rw [Edit.apply_eq_writeAll, writeAll_id]

theorem writeAll_clock (changes : List (String × Option Breakpoint)) :
    ∀ r : Replica, (r.writeAll changes).clock = r.clock + changes.length := by
  induction changes with
  | nil => exact fun r => rfl
  | cons c changes ih =>
    intro r
    have h := ih (r.write c.1 c.2)
    rw [write_clock] at h
    show ((r.write c.1 c.2).writeAll changes).clock = _
    rw [h, List.length_cons]
    omega

theorem get?_registers_write_eq (r : Replica) (key other : String) (value : Option Breakpoint) :
    (r.write key value).registers.get? other =
      if other = key then
        some (Register.join (r.registers.get? key) ⟨value, ⟨r.clock + 1, r.id⟩⟩)
      else r.registers.get? other :=
  get?_take _ key other _

/-- Writes leave the registers of other keys as they are. -/
theorem get?_registers_writeAll_of_notMem {key : String}
    (changes : List (String × Option Breakpoint)) :
    ∀ r : Replica, key ∉ changes.map (·.1) →
      (r.writeAll changes).registers.get? key = r.registers.get? key := by
  induction changes with
  | nil => exact fun r _ => rfl
  | cons c changes ih =>
    intro r hnot
    rw [List.map_cons, List.mem_cons, not_or] at hnot
    show ((r.write c.1 c.2).writeAll changes).registers.get? key = _
    rw [ih (r.write c.1 c.2) hnot.2, get?_registers_write_eq, if_neg hnot.1]

/-- Where the keys ascend, no key is written twice, and the change at place `n` is tried under the
    reading `clock + n + 1`. -/
theorem get?_registers_writeAll (changes : List (String × Option Breakpoint)) :
    ∀ {r : Replica} {n : Nat} {key : String} {value : Option Breakpoint},
      changes.Pairwise (fun c c' => c.1 < c'.1) → changes[n]? = some (key, value) →
      (r.writeAll changes).registers.get? key =
        some (Register.join (r.registers.get? key) ⟨value, ⟨r.clock + n + 1, r.id⟩⟩) := by
  induction changes with
  | nil =>
    intro r n key value _ hplace
    nomatch hplace
  | cons c changes ih =>
    intro r n key value hasc hplace
    have hlater : ∀ c' ∈ changes, c.1 < c'.1 := (List.pairwise_cons.mp hasc).1
    show ((r.write c.1 c.2).writeAll changes).registers.get? key = _
    cases n with
    | zero =>
      obtain rfl : c = (key, value) := Option.some.inj hplace
      have hnot : key ∉ changes.map (·.1) := by
        intro hmem
        obtain ⟨c', hc', heq⟩ := List.mem_map.mp hmem
        exact absurd heq.symm (String.ne_of_lt (hlater c' hc'))
      rw [get?_registers_writeAll_of_notMem changes _ hnot, get?_registers_write_eq, if_pos rfl]
    | succ n =>
      have hlt : c.1 < key := hlater (key, value) (List.mem_of_getElem? hplace)
      have hne : key ≠ c.1 := (String.ne_of_lt hlt).symm
      have hclock : (r.write c.1 c.2).clock + n + 1 = r.clock + (n + 1) + 1 := by
        rw [write_clock]
        omega
      rw [ih (List.Pairwise.of_cons hasc) hplace, hclock, get?_registers_write_eq, if_neg hne]
      rfl

/-- On a dominant replica the change at place `n` takes effect, under that reading. -/
theorem Dominant.get?_registers_writeAll {r : Replica} (h : r.Dominant)
    {changes : List (String × Option Breakpoint)}
    (ascending : changes.Pairwise fun c c' => c.1 < c'.1) {n : Nat} {key : String}
    {value : Option Breakpoint} (place : changes[n]? = some (key, value)) :
    (r.writeAll changes).registers.get? key = some ⟨value, ⟨r.clock + n + 1, r.id⟩⟩ := by
  have hlater : r.clock < r.clock + n + 1 := by omega
  rw [Replica.get?_registers_writeAll _ ascending place, h.join_eq key hlater]

theorem mem_stamped {id : String} {changes : List (String × Option Breakpoint)} :
    ∀ {clock : Nat} {w : Write}, w ∈ stamped id clock changes →
      w.2.stamp.writer = id ∧ clock < w.2.stamp.clock ∧
        w.2.stamp.clock ≤ clock + changes.length := by
  induction changes with
  | nil => exact fun h => absurd h List.not_mem_nil
  | cons c changes ih =>
    intro clock w h
    rw [List.length_cons]
    rcases List.mem_cons.mp h with h | h
    · subst h
      exact ⟨rfl, Nat.lt_succ_self clock, by show clock + 1 ≤ _; omega⟩
    · obtain ⟨hid, hlt, hle⟩ := ih h
      exact ⟨hid, by omega, by omega⟩

/-- A writer never uses a stamp twice, because its clock rises with every write. -/
theorem stamped_distinct {id : String} {changes : List (String × Option Breakpoint)} :
    ∀ {clock : Nat} {w w' : Write}, w ∈ stamped id clock changes → w' ∈ stamped id clock changes →
      w.2.stamp = w'.2.stamp → w = w' := by
  induction changes with
  | nil => exact fun h => absurd h List.not_mem_nil
  | cons c changes ih =>
    intro clock w w' h h' heq
    have hclock := congrArg Stamp.clock heq
    rcases List.mem_cons.mp h with h | h <;> rcases List.mem_cons.mp h' with h' | h'
    · rw [h, h']
    · have := (mem_stamped h').2.1
      rw [h] at hclock
      have : clock + 1 = w'.2.stamp.clock := hclock
      omega
    · have := (mem_stamped h).2.1
      rw [h'] at hclock
      have : w.2.stamp.clock = clock + 1 := hclock
      omega
    · exact ih h h' heq

/-! ## Unbeaten registers -/

/-- What some writes can leave at a key: no register if none of them went there, and otherwise the
    register of one of them whose stamp no other exceeds. -/
def Unbeaten (writes : List Write) (key : String) : Option Register → Prop
  | none => ∀ w ∈ writes, w.1 ≠ key
  | some register => (key, register) ∈ writes ∧
      ∀ w ∈ writes, w.1 = key → ¬ register.stamp < w.2.stamp

theorem Unbeaten.append_of_forall_ne {seen more : List Write} {key : String}
    {held : Option Register} (h : Unbeaten seen key held) (hne : ∀ w ∈ more, w.1 ≠ key) :
    Unbeaten (seen ++ more) key held := by
  cases held with
  | none =>
    intro w hw
    rcases List.mem_append.mp hw with hw | hw
    · exact h w hw
    · exact hne w hw
  | some register =>
    refine ⟨List.mem_append_left _ h.1, fun w hw hk => ?_⟩
    rcases List.mem_append.mp hw with hw | hw
    · exact h.2 w hw hk
    · exact absurd hk (hne w hw)

theorem lt_of_not_lt_of_lt {a b c : Stamp} (hab : ¬ b < a) (hbc : b < c) : a < c := by
  rcases Stamp.lt_trichotomy a b with h | h | h
  · exact Stamp.lt_trans h hbc
  · rw [h]; exact hbc
  · exact absurd h hab

/-- **Joining keeps the better of two unbeaten registers**, and that one is unbeaten by both. -/
theorem Unbeaten.join {seen more : List Write} {key : String} {old : Option Register}
    {new : Register} (hold : Unbeaten seen key old) (hnew : Unbeaten more key (some new)) :
    Unbeaten (seen ++ more) key (some (Register.join old new)) := by
  cases old with
  | none =>
    refine ⟨List.mem_append_right _ hnew.1, fun w hw hk => ?_⟩
    rcases List.mem_append.mp hw with hw | hw
    · exact absurd hk (hold w hw)
    · exact hnew.2 w hw hk
  | some old =>
    rw [join_some]
    split
    · rename_i hlt
      -- what beat the new register would have beaten the old one, too
      refine ⟨List.mem_append_right _ hnew.1, fun w hw hk hbeat => ?_⟩
      rcases List.mem_append.mp hw with hw | hw
      · exact hold.2 w hw hk (Stamp.lt_trans hlt hbeat)
      · exact hnew.2 w hw hk hbeat
    · rename_i hnot
      refine ⟨List.mem_append_left _ hold.1, fun w hw hk hbeat => ?_⟩
      rcases List.mem_append.mp hw with hw | hw
      · exact hold.2 w hw hk hbeat
      · exact hnew.2 w hw hk (lt_of_not_lt_of_lt hnot hbeat)

/-! ## The newest register -/

/-- What the newest of some writes leaves at a key: no register if none of them went there, and
    otherwise the register of the one whose stamp exceeds those of all others. -/
def Newest (writes : List Write) (key : String) : Option Register → Prop
  | none => ∀ w ∈ writes, w.1 ≠ key
  | some register => (key, register) ∈ writes ∧
      ∀ w ∈ writes, w.1 = key → w.2 = register ∨ w.2.stamp < register.stamp

/-- Where no two writes to a key share a stamp, an unbeaten one beats all others. -/
theorem Unbeaten.newest {writes : List Write} {key : String} {held : Option Register}
    (h : Unbeaten writes key held)
    (distinct : ∀ w ∈ writes, ∀ w' ∈ writes, w.1 = w'.1 → w.2.stamp = w'.2.stamp → w = w') :
    Newest writes key held := by
  cases held with
  | none => exact h
  | some register =>
    obtain ⟨hmem, hmax⟩ := h
    refine ⟨hmem, fun w hw hk => ?_⟩
    rcases Stamp.lt_trichotomy w.2.stamp register.stamp with hlt | heq | hgt
    · exact Or.inr hlt
    · exact Or.inl (congrArg Prod.snd (distinct w hw (key, register) hmem hk heq))
    · exact absurd hgt (hmax w hw hk)

/-- The newest of some writes depends on nothing but which writes they are. -/
theorem Newest.eq_of_mem_iff {writes writes' : List Write} {key : String}
    {held held' : Option Register} (h : Newest writes key held) (h' : Newest writes' key held')
    (same : ∀ w, w ∈ writes ↔ w ∈ writes') : held = held' := by
  cases held with
  | none =>
    cases held' with
    | none => rfl
    | some register' => exact absurd rfl (h _ ((same _).mpr h'.1))
  | some register =>
    cases held' with
    | none => exact absurd rfl (h' _ ((same _).mp h.1))
    | some register' =>
      -- each is among the other's writes, and they cannot both be the older one
      rcases h'.2 _ ((same _).mp h.1) rfl with heq | hlt
      · exact congrArg some heq
      · rcases h.2 _ ((same _).mpr h'.1) rfl with heq' | hlt'
        · exact congrArg some heq'.symm
        · exact absurd (Stamp.lt_trans hlt hlt') (Stamp.lt_irrefl _)

/-! ## Reflecting what was observed -/

/-- A replica reflects the writes it has observed. -/
structure Reflects (r : Replica) (seen : List Write) : Prop where
  /-- Every register is unbeaten among the writes to its key. -/
  unbeaten : ∀ key, Unbeaten seen key (r.registers.get? key)
  /-- No write carries a later reading than the clock. -/
  clock_le : ∀ w ∈ seen, w.2.stamp.clock ≤ r.clock

theorem reflects_empty (id : String) : (empty id).Reflects [] where
  unbeaten _ _ hw := absurd hw List.not_mem_nil
  clock_le _ hw := absurd hw List.not_mem_nil

theorem Reflects.mem {r : Replica} {seen : List Write} (h : r.Reflects seen) {key : String}
    {register : Register} (hreg : r.registers.get? key = some register) :
    (key, register) ∈ seen := by
  have hu := h.unbeaten key
  rw [hreg] at hu
  exact hu.1

theorem Reflects.dominant {r : Replica} {seen : List Write} (h : r.Reflects seen) : r.Dominant :=
  fun _ _ hreg => h.clock_le _ (h.mem hreg)

theorem Reflects.write {r : Replica} {seen : List Write} (h : r.Reflects seen) (key : String)
    (value : Option Breakpoint) :
    (r.write key value).Reflects (seen ++ [(key, ⟨value, ⟨r.clock + 1, r.id⟩⟩)]) where
  unbeaten other := by
    rw [get?_registers_write h.dominant]
    split
    · rename_i hk
      subst hk
      refine ⟨List.mem_append_right _ (List.mem_singleton.mpr rfl), fun w hw _ => ?_⟩
      have hle : w.2.stamp.clock ≤ r.clock + 1 := by
        rcases List.mem_append.mp hw with hw | hw
        · have := h.clock_le w hw
          omega
        · obtain rfl := List.mem_singleton.mp hw
          exact Nat.le_refl _
      -- a stamp that beat the fresh one would carry its reading, and only the fresh one does
      rintro (hlt | ⟨heq, hlt⟩)
      · exact absurd hle (Nat.not_le_of_lt hlt)
      · rcases List.mem_append.mp hw with hw | hw
        · have := h.clock_le w hw
          have : r.clock + 1 = w.2.stamp.clock := heq
          omega
        · rw [List.mem_singleton.mp hw] at hlt
          exact String.lt_irrefl _ hlt
    · rename_i hk
      refine (h.unbeaten other).append_of_forall_ne fun w hw => ?_
      rw [List.mem_singleton.mp hw]
      exact fun he => hk he.symm
  clock_le w hw := by
    rw [write_clock]
    rcases List.mem_append.mp hw with hw | hw
    · have := h.clock_le w hw
      omega
    · obtain rfl := List.mem_singleton.mp hw
      exact Nat.le_refl _

theorem Reflects.writeAll (changes : List (String × Option Breakpoint)) :
    ∀ {r : Replica} {seen : List Write}, r.Reflects seen →
      (r.writeAll changes).Reflects (seen ++ stamped r.id r.clock changes) := by
  induction changes with
  | nil =>
    intro r seen h
    rw [stamped, List.append_nil]
    exact h
  | cons c changes ih =>
    intro r seen h
    have hrest := ih (h.write c.1 c.2)
    rw [List.append_assoc] at hrest
    exact hrest

theorem Reflects.edit {r : Replica} {seen : List Write} (h : r.Reflects seen) (e : Edit) :
    (e.apply r).Reflects (seen ++ e.writes r) := by
  rw [Edit.apply_eq_writeAll]
  exact h.writeAll (e.changes r)

/-! ## Merging what a peer had observed -/

/-- Taking over registers with ascending keys meets every key at most once. -/
theorem get?_foldl_take_ascending (records : List (String × Register)) (key : String) :
    ∀ r : Replica, records.Pairwise (fun a b => a.1 < b.1) →
      (records.foldl (fun r e => r.take e.1 e.2) r).registers.get? key =
        match records.lookup key with
        | none => r.registers.get? key
        | some new => some (Register.join (r.registers.get? key) new) := by
  induction records with
  | nil => exact fun r _ => rfl
  | cons e records ih =>
    intro r h
    obtain ⟨k, new⟩ := e
    rw [List.foldl_cons, ih (r.take k new) (List.Pairwise.of_cons h), get?_take, List.lookup_cons]
    by_cases hk : key = k
    · subst hk
      have hnone : records.lookup key = none := Table.lookup_eq_none_of_pairwise h
      simp [hnone]
    · have hbeq : (key == k) = false := beq_eq_false_iff_ne.mpr hk
      simp [hbeq, hk]

/-- **What a key holds after a peer's snapshot was merged.** -/
theorem get?_merge_snapshot (r peer : Replica) (key : String) :
    (r.merge peer.snapshot).registers.get? key =
      match peer.registers.get? key with
      | none => r.registers.get? key
      | some new => some (Register.join (r.registers.get? key) new) :=
  get?_foldl_take_ascending peer.registers.entries key _ peer.registers.ascending

theorem Reflects.merge {r peer : Replica} {seen more : List Write} (h : r.Reflects seen)
    (hpeer : peer.Reflects more) : (r.merge peer.snapshot).Reflects (seen ++ more) where
  unbeaten key := by
    have hmore := hpeer.unbeaten key
    rw [get?_merge_snapshot]
    cases hreg : peer.registers.get? key with
    | none =>
      rw [hreg] at hmore
      exact (h.unbeaten key).append_of_forall_ne hmore
    | some new =>
      rw [hreg] at hmore
      exact (h.unbeaten key).join hmore
  clock_le w hw := by
    have hclock : (r.merge peer.snapshot).clock = max r.clock peer.clock := merge_clock r _
    rw [hclock]
    rcases List.mem_append.mp hw with hw | hw
    · have := h.clock_le w hw
      omega
    · have := hpeer.clock_le w hw
      omega

theorem foldl_take_id (records : List (String × Register)) : ∀ r : Replica,
    (records.foldl (fun r e => r.take e.1 e.2) r).id = r.id := by
  induction records with
  | nil => exact fun r => rfl
  | cons e records ih => exact fun r => ih (r.take e.1 e.2)

theorem merge_id (r : Replica) (s : Snapshot) : (r.merge s).id = r.id :=
  foldl_take_id s.records _

end Replica

end DebugDesk
