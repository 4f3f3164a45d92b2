/-
  What a plain map does.

  `Table.perform` says once what every operation on a board means if the board is nothing but a
  finite map from keys to records: setting inserts, deleting erases and answers with what was there,
  clearing leaves the empty map, and the seven questions are answered from the entries.

  A plain board does that by definition, and a replica does it to the table of its live records
  (`Board.perform_live`) as long as writes take effect on it.  What holds for one operation holds
  for any row of them, since each leaves a board on which writes take effect: whoever sees the
  answers and the entries after every operation (`Board.sights`) sees what a plain map with the same
  entries would have shown (`Board.sights_live`).
-/
import DebugDesk.Proofs.Desk.Unstamped

namespace DebugDesk

/-! ## The plain map -/

namespace Table

/-- An operation on a plain map: the map afterwards, and the answer. -/
def perform (t : Table Breakpoint) : Board.Operation → Table Breakpoint × Board.Answer
  | .get key => (t, .record (t.get? key))
  | .set key b => (t.insert key b, .done)
  | .delete key => (t.erase key, .record (t.get? key))
  | .entries => (t, .records t.entries)
  | .size => (t, .count t.size)
  | .clear => (empty, .done)
  | .isEmpty => (t, .flag (t.size == 0))
  | .contains key => (t, .flag (t.contains key))
  | .find id => (t, .found (t.entries.find? fun e => e.2.id == some id))
  | .anyHit => (t, .flag (t.entries.any fun e => e.2.hit))

/-- What is seen of a plain map during a row of operations: each answer, and the entries then. -/
def sights (t : Table Breakpoint) :
    List Board.Operation → List (Board.Answer × List (String × Breakpoint))
  | [] => []
  | op :: ops => ((t.perform op).2, (t.perform op).1.entries) :: (t.perform op).1.sights ops

end Table

/-! ## Boards as plain maps -/

namespace Board

/-- What is seen of a board during a row of operations: each answer, and the entries then. -/
def sights (b : Board) : List Operation → List (Answer × List (String × Breakpoint))
  | [] => []
  | op :: ops => ((b.perform op).2, (b.perform op).1.entries) :: (b.perform op).1.sights ops

theorem perform_plain (t : Table Breakpoint) (op : Operation) :
    (plain t).perform op = (plain (t.perform op).1, (t.perform op).2) := by
  cases op <;> rfl

theorem entries_eq_live (b : Board) : b.entries = b.live.entries := by
  cases b <;> rfl

/-- **An operation does to the live records what it does to a plain map**, and answers the same. -/
theorem perform_live {b : Board} (h : b.Dominant) (op : Operation) :
    (b.perform op).1.live = (b.live.perform op).1 ∧ (b.perform op).2 = (b.live.perform op).2 := by
  have hperform := perform_unstamped h op
  rw [unstamped, perform_plain] at hperform
  injection hperform with hboard hanswer
  injection hboard with hlive
  exact ⟨hlive.symm, hanswer.symm⟩

/-- **A row of operations shows what it would show on the plain map** with the same entries. -/
theorem sights_live (ops : List Operation) : ∀ {b : Board}, b.Dominant →
    b.sights ops = b.live.sights ops := by
  induction ops with
  | nil => exact fun _ => rfl
  | cons op ops ih =>
    intro b h
    obtain ⟨hlive, hanswer⟩ := perform_live h op
    rw [sights, Table.sights, ih (h.perform op), entries_eq_live, hlive, hanswer]

end Board

end DebugDesk
