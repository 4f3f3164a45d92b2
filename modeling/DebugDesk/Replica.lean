/-
  Replicas of a breakpoint map.

  Several observers may keep the map of one operator, each in a replica of its own, and exchange
  what they know in any order.  Per key a replica holds a register: a value and the stamp of the
  write that put it there.  A stamp is a clock reading and the name of the writer, compared in
  this order, and a register gives way to strictly greater stamps only.

  Two rules make the replicas agree once they have seen the same writes:

    * a deletion is a write of no value, so its register stays and still beats older writes;
    * a write raises the replica's clock by one and carries the new reading, and taking over a
      peer's registers raises the clock to the peer's, so a write beats every write that its
      writer had seen.

  A replica's breakpoints are the registers that hold a value; `get?` and `entries` see no others.

  A clock is a word of 64 bits, and nothing keeps a write from going behind its last reading.  So
  edits come in two kinds: `Edit.applyWord` makes them by such a clock, and `Edit.apply` by one that
  has no end.  They are the same while there are readings left.
-/
import DebugDesk.Breakpoint
import DebugDesk.Table

namespace DebugDesk

/-! ## Stamps -/

/-- When and by whom a register was written. -/
structure Stamp where
  clock : Nat
  writer : String
  deriving DecidableEq, Inhabited, Repr

namespace Stamp

/-- Stamps compare by clock, and among equal clocks by writer. -/
instance : LT Stamp :=
  ⟨fun a b => a.clock < b.clock ∨ (a.clock = b.clock ∧ a.writer < b.writer)⟩

instance (a b : Stamp) : Decidable (a < b) :=
  inferInstanceAs (Decidable (a.clock < b.clock ∨ (a.clock = b.clock ∧ a.writer < b.writer)))

theorem lt_irrefl (a : Stamp) : ¬ a < a := by
  rintro (h | ⟨_, h⟩)
  · exact Nat.lt_irrefl _ h
  · exact String.lt_irrefl _ h

theorem lt_trans {a b c : Stamp} (hab : a < b) (hbc : b < c) : a < c := by
  rcases hab with h | ⟨h, hw⟩ <;> rcases hbc with h' | ⟨h', hw'⟩
  · exact .inl (Nat.lt_trans h h')
  · exact .inl (h' ▸ h)
  · exact .inl (h ▸ h')
  · exact .inr ⟨h.trans h', String.lt_trans hw hw'⟩

theorem lt_trichotomy (a b : Stamp) : a < b ∨ a = b ∨ b < a := by
  rcases Nat.lt_trichotomy a.clock b.clock with h | h | h
  · exact .inl (.inl h)
  · by_cases hab : a.writer < b.writer
    · exact .inl (.inr ⟨h, hab⟩)
    · by_cases hba : b.writer < a.writer
      · exact .inr (.inr (.inr ⟨h.symm, hba⟩))
      · refine .inr (.inl ?_)
        have hw := String.le_antisymm (String.not_lt.mp hba) (String.not_lt.mp hab)
        cases a; cases b; simp only at h hw; rw [h, hw]
  · exact .inr (.inr (.inl h))

end Stamp

/-! ## Registers -/

/-- What one key holds, and the stamp of the write that put it there.  A register without a value
    is the trace of a deletion. -/
structure Register where
  value : Option Breakpoint
  stamp : Stamp
  deriving DecidableEq, Inhabited, Repr

namespace Register

/-- The register that remains where a second one arrives: the second only if its stamp is strictly
    greater, or if there was none. -/
def join (old : Option Register) (new : Register) : Register :=
  match old with
  | none => new
  | some old => if old.stamp < new.stamp then new else old

end Register

/-! ## Replicas -/

/-- One observer's copy of a breakpoint map. -/
structure Replica where
  /-- The name under which this replica writes. -/
  id : String
  /-- The greatest clock reading made or seen. -/
  clock : Nat
  /-- A register per key ever written. -/
  registers : Table Register
  deriving DecidableEq

namespace Replica

/-- A replica that has seen nothing. -/
def empty (id : String) : Replica := ⟨id, 0, .empty⟩

instance : Inhabited Replica := ⟨empty ""⟩

/-- Takes over a register for a key. -/
def take (r : Replica) (key : String) (register : Register) : Replica :=
  { r with registers := r.registers.upsert key fun old => Register.join old register }

/-- Writes a value, or the absence of one, under a fresh stamp. -/
def write (r : Replica) (key : String) (value : Option Breakpoint) : Replica :=
  { r with clock := r.clock + 1 }.take key ⟨value, ⟨r.clock + 1, r.id⟩⟩

/-- The breakpoint at a key. -/
def get? (r : Replica) (key : String) : Option Breakpoint :=
  (r.registers.get? key).bind (·.value)

/-- The breakpoints in the order of their keys. -/
def entries (r : Replica) : List (String × Breakpoint) :=
  r.registers.entries.filterMap fun e => e.2.value.map (e.1, ·)

/-- Puts a breakpoint at a key. -/
def set (r : Replica) (key : String) (b : Breakpoint) : Replica := r.write key (some b)

/-- Removes the breakpoint at a key; where there is none, nothing is written. -/
def delete (r : Replica) (key : String) : Replica :=
  if (r.get? key).isSome then r.write key none else r

/-- Removes all breakpoints, one write each, in the order of their keys. -/
def clear (r : Replica) : Replica :=
  (r.entries.map (·.1)).foldl (fun r key => r.write key none) r

/-! ## Edits -/

/-- A change of a replica by its own observer. -/
inductive Edit where
  | set (key : String) (b : Breakpoint)
  | delete (key : String)
  | clear
  deriving DecidableEq, Repr

/-- The replica after an edit. -/
def Edit.apply (r : Replica) : Edit → Replica
  | set key b => r.set key b
  | delete key => r.delete key
  | clear => r.clear

/-- A write by a clock that is a word of 64 bits: behind its last reading it starts again at zero. -/
def writeWord (r : Replica) (key : String) (value : Option Breakpoint) : Replica :=
  let clock := (UInt64.ofNat r.clock + 1).toNat
  { r with clock }.take key ⟨value, ⟨clock, r.id⟩⟩

/-- An edit by such a clock. -/
def Edit.applyWord (r : Replica) : Edit → Replica
  | set key b => r.writeWord key (some b)
  | delete key => if (r.get? key).isSome then r.writeWord key none else r
  | clear => (r.entries.map (·.1)).foldl (fun r key => r.writeWord key none) r

/-! ## What a write changes -/

theorem get?_take (r : Replica) (key other : String) (register : Register) :
    (r.take key register).registers.get? other =
      if other = key then some (Register.join (r.registers.get? key) register)
      else r.registers.get? other :=
  Table.get?_upsert _ _ _ _

theorem write_clock (r : Replica) (key : String) (value : Option Breakpoint) :
    (r.write key value).clock = r.clock + 1 := rfl

example : (((empty "a").set "10" (.confirmed 1)).delete "10").registers.entries
    = [("10", ⟨none, ⟨2, "a"⟩⟩)] := by decide

end Replica

end DebugDesk
