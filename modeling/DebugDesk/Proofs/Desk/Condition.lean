/-
  The record that an id stands for.

  A condition is read and changed by the id of its breakpoint, but records are kept by line.  As a
  rule one record carries an id.  It need not be so: a debugger that starts over counts from one
  again, and a board may then hold records of two lines with one id.  Reading and changing still
  speak of the same record, since both take the first that they find, and the entries stand in the
  order of their keys.  It is the record at the least key among those with the id (`Board.Holder`),
  where "10" comes before "9".

  The crux is that a change does not move the holder (`Board.Holder.set`): it touches neither a key
  nor an id.  So what was written is what is read afterwards, and asking for the same condition
  again finds it there and does nothing at all, however often and wherever it is asked
  (`edit_changes_what_is_read`).
-/
import DebugDesk.Proofs.Desk.Delivery
import DebugDesk.Proofs.Desk.History

namespace DebugDesk

/-! ## The holder of an id -/

namespace Board

/-- The record at a key is the one that an id stands for: it carries the id, and no record at a
    smaller key does. -/
structure Holder (b : Board) (id : UInt32) (key : String) (x : Breakpoint) : Prop where
  held : b.get? key = some x
  numbered : x.id = some id
  least : ∀ other y, b.get? other = some y → y.id = some id → ¬ other < key

variable {b : Board} {id : UInt32} {key : String} {x : Breakpoint}

/-- No id has two holders. -/
theorem Holder.unique {other : String} {y : Breakpoint} (h : b.Holder id key x)
    (h' : b.Holder id other y) : key = other ∧ x = y := by
  have hnot : ¬ key < other := h'.least key x h.held h.numbered
  have hnot' : ¬ other < key := h.least other y h'.held h'.numbered
  have hkey : key = other := String.le_antisymm (String.not_lt.mp hnot') (String.not_lt.mp hnot)
  have hheld : b.get? key = some y := by
    rw [hkey]
    exact h'.held
  exact ⟨hkey, Option.some.inj (h.held.symm.trans hheld)⟩

/-- What is found first stands at the least key, because the entries ascend. -/
theorem holder_of_find? (h : b.find? id = some (key, x)) : b.Holder id key x := by
  obtain ⟨hid, before, after, hentries, hbefore⟩ := List.find?_eq_some_iff_append.mp h
  have hasc := b.entries_ascending
  rw [hentries] at hasc
  have hmem : (key, x) ∈ b.entries := List.mem_of_find?_eq_some h
  refine ⟨(b.mem_entries_iff key x).mp hmem, beq_iff_eq.mp hid, ?_⟩
  intro other y hy hyid hlt
  have hother : (other, y) ∈ before ++ (key, x) :: after := by
    rw [← hentries]
    exact (b.mem_entries_iff other y).mpr hy
  rcases List.mem_append.mp hother with hother | hother
  · -- an entry before the one that was found does not carry the id
    have hno := hbefore (other, y) hother
    simp [hyid] at hno
  · rcases List.mem_cons.mp hother with hother | hother
    · have hkey : other = key := congrArg Prod.fst hother
      exact absurd hkey (String.ne_of_lt hlt)
    · have hbehind : key < other :=
        List.rel_of_pairwise_cons (List.pairwise_append.mp hasc).2.1 hother
      exact String.lt_asymm hbehind hlt

theorem find?_eq_none_iff (b : Board) (id : UInt32) :
    b.find? id = none ↔ ∀ key x, b.get? key = some x → x.id ≠ some id := by
  rw [find?, List.find?_eq_none]
  constructor
  · intro h key x hx hid
    have hno := h (key, x) ((b.mem_entries_iff key x).mpr hx)
    exact hno (beq_iff_eq.mpr hid)
  · rintro h ⟨key, x⟩ hmem hid
    exact h key x ((b.mem_entries_iff key x).mp hmem) (beq_iff_eq.mp hid)

/-- **What is found by an id is its holder.** -/
theorem find?_eq_some_iff : b.find? id = some (key, x) ↔ b.Holder id key x := by
  constructor
  · exact holder_of_find?
  · intro h
    cases hfind : b.find? id with
    | none => exact absurd h.numbered ((b.find?_eq_none_iff id).mp hfind key x h.held)
    | some entry =>
      obtain ⟨other, y⟩ := entry
      obtain ⟨rfl, rfl⟩ := h.unique (holder_of_find? hfind)
      rfl

/-- **A changed condition does not move the holder.** -/
theorem Holder.set (h : b.Holder id key x) (hdom : b.Dominant) (condition : String) :
    (b.set key (x.withCondition condition)).Holder id key (x.withCondition condition) where
  held := by rw [get?_set hdom, if_pos rfl]
  numbered := h.numbered
  least other y hy hyid := by
    rw [get?_set hdom] at hy
    split at hy
    · rename_i hkey
      rw [hkey]
      exact String.lt_irrefl key
    · exact h.least other y hy hyid

end Board

/-! ## Reading and changing -/

namespace Desk

variable {d : Desk} {operator : String} {board : Board} {id : UInt32} {key : String}
  {x : Breakpoint}

section Registered

variable (h : d.store.boards.get? operator = some board)

include h

theorem condition?_of_holder (holder : board.Holder id key x) :
    d.condition? operator id = .ok x.condition := by
  have hboard : d.store.board ⟨operator⟩ = board := board_of_get? h
  have hfind : board.find? id = some (key, x) := Board.find?_eq_some_iff.mpr holder
  simp only [condition?, handle?_of_get? h, Except.map, hboard, hfind]

theorem condition?_of_no_holder (none_holds : board.find? id = none) :
    d.condition? operator id = .ok "" := by
  have hboard : d.store.board ⟨operator⟩ = board := board_of_get? h
  simp only [condition?, handle?_of_get? h, Except.map, hboard, none_holds]

/-- Where nothing is refused, all workers are told another condition, and the holder has it. -/
theorem editCondition_of_reliable {site : Site} (reliable : site.Reliable)
    (holder : board.Holder id key x) {condition : String} (change : x.condition ≠ condition) :
    d.editCondition site operator id condition =
      (d.leave operator (board.set key (x.withCondition condition))
        (told operator (site.roster operator) (.condition id condition) d.settings), .ok ()) := by
  have hboard : d.store.board ⟨operator⟩ = board := board_of_get? h
  have handed := handed_dispatchAll d site operator (site.roster operator) (.condition id condition)
  rw [dispatchAll_of_reliable reliable] at handed
  rw [editCondition_of_ok h site (Board.find?_eq_some_iff.mpr holder) change handed]
  show ((⟨d.settings, d.store.update ⟨operator⟩ _, _⟩ : Desk), Except.ok ()) = _
  rw [Store.update, hboard]
  rfl

/-- Asking for the condition that the holder has, or for an id without one, does nothing at all, any
    number of times and at any places. -/
theorem editCondition_again {condition : String}
    (same : ∀ key x, board.Holder id key x → x.condition = condition) (again : List Site) :
    d.play (again.map fun site => (site, .editCondition operator id condition)) = d ∧
      ∀ site ∈ again, d.editCondition site operator id condition = (d, .ok ()) := by
  have honce : ∀ site, d.editCondition site operator id condition = (d, .ok ()) := fun site =>
    editCondition_of_no_change h site fun key x hfind => same key x (Board.holder_of_find? hfind)
  refine ⟨?_, fun site _ => honce site⟩
  induction again with
  | nil => rfl
  | cons site again ih =>
    have hfirst : (d.perform site (.editCondition operator id condition)).1 = d := by
      show (d.editCondition site operator id condition).1 = d
      rw [honce site]
    show (d.perform site (.editCondition operator id condition)).1.play _ = d
    rw [hfirst]
    exact ih

end Registered

/-- The condition of an id is the same for all holders, because there is one at most. -/
theorem same_of_holder (holder : board.Holder id key x) :
    ∀ other y, board.Holder id other y → y.condition = x.condition := by
  intro other y hy
  obtain ⟨_, rfl⟩ := holder.unique hy
  rfl

/-- **A changed condition is written to the record that it is read from.**  On an honest board, where
    nothing is refused, an edit succeeds.  It does nothing if no record carries the id, or if the
    holder of the id has the condition already.  Otherwise every worker is told the condition, in the
    order of the roster, and nothing changes but the condition of the holder; of a replica's
    registers only that of the holder is written.  Afterwards the condition is read for the id, and
    asking for it again, any number of times and at any places, sends nothing and leaves the desk as
    it is, with every stamp and clock. -/
theorem edit_changes_what_is_read (d : Desk) (operator : String) (board : Board)
    (registered : d.store.boards.get? operator = some board) (honest : board.Honest)
    (site : Site) (reliable : site.Reliable) (id : UInt32) (condition : String) :
    ∃ e left, d.editCondition site operator id condition = (e, .ok ()) ∧
      e.store.boards.get? operator = some left ∧
      (∀ other, other ≠ operator → e.store.boards.get? other = d.store.boards.get? other) ∧
      (((∀ key x, board.get? key = some x → x.id ≠ some id) ∧
          e = d ∧ e.condition? operator id = .ok "") ∨
        ∃ key x, board.Holder id key x ∧
          d.condition? operator id = .ok x.condition ∧ e.condition? operator id = .ok condition ∧
          (x.condition = condition → e = d) ∧
          (x.condition ≠ condition →
            e.attempts = d.attempts ++
              told operator (site.roster operator) (.condition id condition) d.settings ∧
            (∀ other, left.get? other =
              if other = key then some { x with condition } else board.get? other) ∧
            ∀ r, board = .shared r → ∃ r', left = .shared r' ∧ r'.clock = r.clock + 1 ∧
              ∀ other, other ≠ key → r'.registers.get? other = r.registers.get? other)) ∧
      ∀ again : List Site,
        e.play (again.map fun site => (site, .editCondition operator id condition)) = e ∧
        ∀ site ∈ again, e.editCondition site operator id condition = (e, .ok ()) := by
  have hdom : board.Dominant := honest.dominant
  cases hfind : board.find? id with
  | none =>
    have hno : ∀ key x, board.get? key = some x → x.id ≠ some id :=
      (board.find?_eq_none_iff id).mp hfind
    have hsame : ∀ key x, board.Holder id key x → x.condition = condition := fun key x holder =>
      absurd holder.numbered (hno key x holder.held)
    have hagain := editCondition_again registered hsame
    exact ⟨d, board, (hagain [site]).2 site List.mem_cons_self, registered, fun _ _ => rfl,
      Or.inl ⟨hno, rfl, condition?_of_no_holder registered hfind⟩, hagain⟩
  | some entry =>
    obtain ⟨key, x⟩ := entry
    have holder : board.Holder id key x := Board.holder_of_find? hfind
    have hread := condition?_of_holder registered holder
    by_cases hchange : x.condition = condition
    · subst hchange
      have hagain := editCondition_again registered (same_of_holder holder)
      exact ⟨d, board, (hagain [site]).2 site List.mem_cons_self, registered, fun _ _ => rfl,
        Or.inr ⟨key, x, holder, hread, hread, fun _ => rfl, fun hne => absurd rfl hne⟩, hagain⟩
    · have hedit := editCondition_of_reliable registered reliable holder hchange
      have hholder := holder.set hdom condition
      have hleft := (get?_leave d operator operator (board.set key (x.withCondition condition))
        (told operator (site.roster operator) (.condition id condition) d.settings)).trans
          (if_pos rfl)
      have hothers : ∀ other, other ≠ operator →
          (d.leave operator (board.set key (x.withCondition condition))
            (told operator (site.roster operator) (.condition id condition)
              d.settings)).store.boards.get? other = d.store.boards.get? other :=
        fun other hne => (get?_leave d operator other _ _).trans (if_neg hne)
      refine ⟨_, _, hedit, hleft, hothers, Or.inr ⟨key, x, holder, hread,
        condition?_of_holder hleft hholder, fun heq => absurd heq hchange, fun _ => ?_⟩,
        editCondition_again hleft (same_of_holder hholder)⟩
      refine ⟨rfl, fun other => Board.get?_set hdom key other _, ?_⟩
      rintro r rfl
      refine ⟨r.set key (x.withCondition condition), rfl, rfl, fun other hne => ?_⟩
      rw [Replica.set, Replica.get?_registers_write hdom, if_neg hne]

/-! ## Two lines with one id -/

/-- The debugger of the first worker starts over, and gives its first id to another line. -/
def confirmedTwice : Desk :=
  ((ofSettings "" {}).register Sample.operator).play
    [(calm, .hear (Sample.created "w1" 1 9)), (calm, .hear (Sample.created "w1" 1 10))]

/-- The condition goes to line 10, whose key comes before that of line 9. -/
theorem edit_confirmedTwice :
    confirmedTwice.store.boards.get? Sample.operator
        = some (.plain (.ofList [("9", .confirmed 1), ("10", .confirmed 1)])) ∧
      ∃ e left, confirmedTwice.editCondition calm Sample.operator 1 "x > 5" = (e, .ok ()) ∧
        e.store.boards.get? Sample.operator = some left ∧
        left.entries = [("10", ⟨some 1, "x > 5", false⟩), ("9", .confirmed 1)] ∧
        e.condition? Sample.operator 1 = .ok "x > 5" ∧
        e.attempts = confirmedTwice.attempts ++
          [.delivered "DebugCommandRequest" ⟨"PythonUDFV2-operator-1", "w1", "condition 1 x > 5"⟩,
           .delivered "DebugCommandRequest" ⟨"PythonUDFV2-operator-1", "w2", "condition 1 x > 5"⟩] := by
  have hget : confirmedTwice.store.boards.get? Sample.operator
      = some (.plain (.ofList [("9", .confirmed 1), ("10", .confirmed 1)])) := by decide
  obtain ⟨e, left, hedit, hleft, _, hcases, _⟩ := edit_changes_what_is_read confirmedTwice
    Sample.operator _ hget (.plain _) calm (fun _ _ _ => rfl) 1 "x > 5"
  rcases hcases with ⟨hnone, _⟩ | ⟨_, _, _, _, hread, _⟩
  · exact absurd rfl (hnone "9" (.confirmed 1) (by decide))
  · -- the desk after the edit can be computed
    have he : (confirmedTwice.editCondition calm Sample.operator 1 "x > 5").1 = e :=
      congrArg Prod.fst hedit
    subst he
    refine ⟨hget, _, left, hedit, hleft, ?_, hread, by decide⟩
    have hcomputed : (confirmedTwice.editCondition calm Sample.operator 1 "x > 5").1.store.boards.get?
        Sample.operator
        = some (.plain (.ofList [("9", .confirmed 1), ("10", ⟨some 1, "x > 5", false⟩)])) := by
      decide
    obtain rfl := Option.some.inj (hleft.symm.trans hcomputed)
    decide

end Desk

end DebugDesk
