/-
  The store: one board per operator.

  A store creates the board of an operator when it first hears of it and never drops it; starting
  over empties the board in place.  So whoever holds an operator's board holds it for good, and a
  handle need only say whose board it is: `Handle`s are given out by `create` and `handle?`, and
  two handles of one operator always reach the same board.

  All boards of a store are of one kind, chosen when the store is set up.
-/
import DebugDesk.Board

namespace DebugDesk

/-! ## The kind of boards -/

/-- What boards a store creates. -/
inductive StoreMode where
  /-- Plain tables, for a single observer. -/
  | single
  /-- Replicas that write under the given name, or under one made up when none is given. -/
  | replicated (id : Option String)
  deriving DecidableEq, Inhabited, Repr

namespace StoreMode

/-- The mode as a JSON value. -/
def toJson : StoreMode → Json
  | single => .object [("kind", .string "local")]
  | replicated id =>
    .object [("kind", .string "replicated"), ("replica_id", .ofNullable .string id)]

/-- The mode that a JSON value writes. -/
def ofJson? (value : Json) : Option StoreMode := do
  let (kind, rest) ← value.tagged? "kind"
  if kind = "local" then
    let _ ← rest.fields? []
    return single
  else if kind = "replicated" then
    let fields ← rest.fields? ["replica_id"]
    let id ← fields.optional? "replica_id" none (Json.asNullable? Json.asString?)
    return replicated id
  else none

end StoreMode

/-! ## Errors -/

/-- Why a store cannot answer. -/
inductive StoreError where
  /-- The operator was never registered. -/
  | notInitialized (operator : String)
  /-- The operator's board is no replica. -/
  | notReplicated (operator : String)
  deriving DecidableEq, Repr

/-- The diagnostic of a store. -/
def StoreError.message : StoreError → String
  | notInitialized operator => "debug state not initialized for operator " ++ operator
  | notReplicated operator => "debug state for operator " ++ operator ++ " is not replicated"

/-! ## The store -/

/-- One board per registered operator. -/
structure Store where
  /-- The name under which the store's replicas write; none in a store of plain tables. -/
  writer : Option String
  /-- The boards by operator. -/
  boards : Table Board
  deriving DecidableEq

namespace Store

/-- A store without operators.  The name made up for its replicas is used if the mode gives none. -/
def ofMode (madeUp : String) : StoreMode → Store
  | .single => ⟨none, .empty⟩
  | .replicated id => ⟨some (id.getD madeUp), .empty⟩

/-- A lasting reference to an operator's board. -/
structure Handle where
  operator : String
  deriving DecidableEq, Inhabited

/-- The board behind a handle. -/
def board (s : Store) (h : Handle) : Board :=
  (s.boards.get? h.operator).getD (.empty s.writer)

/-- Changes the board behind a handle. -/
def update (s : Store) (h : Handle) (f : Board → Board) : Store :=
  { s with boards := s.boards.insert h.operator (f (s.board h)) }

/-- Registers an operator, which leaves a board it already has as it is. -/
def create (s : Store) (operator : String) : Store × Handle :=
  (s.update ⟨operator⟩ id, ⟨operator⟩)

/-- Whether an operator is registered. -/
def contains (s : Store) (operator : String) : Bool := s.boards.contains operator

/-- The handle of a registered operator. -/
def handle? (s : Store) (operator : String) : Except StoreError Handle :=
  if s.contains operator then .ok ⟨operator⟩ else .error (.notInitialized operator)

/-- Empties the board of a registered operator. -/
def clear (s : Store) (operator : String) : Except StoreError Store :=
  (s.handle? operator).map fun h => s.update h Board.clear

/-- The replica that is a registered operator's board. -/
def replica? (s : Store) (operator : String) : Except StoreError Replica :=
  match s.boards.get? operator with
  | none => .error (.notInitialized operator)
  | some (.plain _) => .error (.notReplicated operator)
  | some (.shared r) => .ok r

/-- The registered operators in order. -/
def operators (s : Store) : List String := s.boards.keys

/-- The number of registered operators. -/
def size (s : Store) : Nat := s.boards.size

/-- Whether no operator is registered. -/
def isEmpty (s : Store) : Bool := s.size == 0

/-! ## Whose board changes -/

theorem get?_update (s : Store) (h : Handle) (f : Board → Board) (operator : String) :
    (s.update h f).boards.get? operator =
      if operator = h.operator then some (f (s.board h)) else s.boards.get? operator :=
  Table.get?_insert _ _ _ _

theorem board_update_self (s : Store) (h : Handle) (f : Board → Board) :
    (s.update h f).board h = f (s.board h) := by
  rw [board, get?_update, if_pos rfl]; rfl

theorem board_update_of_ne (s : Store) {h k : Handle} (ne : k.operator ≠ h.operator)
    (f : Board → Board) : (s.update h f).board k = s.board k := by
  rw [board, get?_update, if_neg ne]; rfl

theorem board_of_get? {s : Store} {operator : String} {b : Board}
    (h : s.boards.get? operator = some b) : s.board ⟨operator⟩ = b := by
  rw [board, h]; rfl

theorem board_of_get?_none {s : Store} {operator : String} (h : s.boards.get? operator = none) :
    s.board ⟨operator⟩ = .empty s.writer := by
  rw [board, h]; rfl

end Store

end DebugDesk
