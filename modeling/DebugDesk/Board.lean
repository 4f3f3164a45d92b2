/-
  Boards: the breakpoints of one operator.

  A board maps line keys to breakpoint records.  It is a plain table where one observer keeps it,
  and a replica where several do; which of the two it is cannot be told from its entries and from
  what the operations here answer.  Whoever follows a debugger works with boards and does not
  look inside.
-/
import DebugDesk.Replica

namespace DebugDesk

/-- The breakpoints of one operator, by line key. -/
inductive Board where
  | plain (table : Table Breakpoint)
  | shared (replica : Replica)
  deriving DecidableEq

namespace Board

/-- An empty board; a replica if it has a name to write under. -/
def empty : (writer : Option String) → Board
  | none => plain .empty
  | some id => shared (.empty id)

instance : Inhabited Board := ⟨plain .empty⟩

/-- The record at a key. -/
def get? : Board → String → Option Breakpoint
  | plain t, key => t.get? key
  | shared r, key => r.get? key

/-- Puts a record at a key. -/
def set : Board → String → Breakpoint → Board
  | plain t, key, b => plain (t.insert key b)
  | shared r, key, b => shared (r.set key b)

/-- Removes the record at a key. -/
def delete : Board → String → Board
  | plain t, key => plain (t.erase key)
  | shared r, key => shared (r.delete key)

/-- All records in the order of their keys. -/
def entries : Board → List (String × Breakpoint)
  | plain t => t.entries
  | shared r => r.entries

/-- Removes all records. -/
def clear : Board → Board
  | plain _ => plain .empty
  | shared r => shared r.clear

/-- The number of records. -/
def size (board : Board) : Nat := board.entries.length

/-- Whether there is no record. -/
def isEmpty (board : Board) : Bool := board.size == 0

/-- Whether there is a record at a key. -/
def contains (board : Board) (key : String) : Bool := (board.get? key).isSome

/-- The first entry, in the order of keys, whose breakpoint has the given id. -/
def find? (board : Board) (id : UInt32) : Option (String × Breakpoint) :=
  board.entries.find? fun e => e.2.id == some id

/-- Whether a worker stands at some line. -/
def anyHit (board : Board) : Bool := board.entries.any fun e => e.2.hit

theorem anyHit_iff (board : Board) : board.anyHit = true ↔ ∃ e ∈ board.entries, e.2.hit = true :=
  List.any_eq_true

end Board

end DebugDesk
