/-
  What becomes of a condition behind it.

  A breakpoint is asked for at all workers at once, and each of them confirms it when it gets there.
  So one breakpoint is confirmed several times, and in between somebody may have put a condition on
  it.  The workers have the condition then, those that confirm late like the others, and the board
  has it, too; one would expect it to stay there for as long as the id belongs to the line.

  It does not.  A confirmation starts a new record, whatever the record that is there, and a new
  record has no condition (`reconfirmation_drops_condition`).  Every worker still stops under the
  condition, and asking for none does nothing, since the board has none already.

  The crux is that nothing else takes a condition away.  As long as the id stays with its line and
  with no other (`Event.leavesId`), a record with the id keeps its condition unless its own line is
  confirmed (`Board.Sole.apply`): a stop keeps it, and what is said about other lines neither
  touches it nor brings the id to another record.  So of the messages that were taken, the only
  question is whether one of them confirmed the line (`condition_until_reconfirmed`).
-/
import DebugDesk.Proofs.Desk.Condition
import DebugDesk.Proofs.Desk.Pause

namespace DebugDesk

/-! ## Events that leave an id with its line -/

namespace Event

/-- Whether an event leaves an id with a line: what it confirms is this id for this line, or another
    id for another line, and it removes nothing from the line. -/
def leavesId (id line : UInt32) : Event → Bool
  | created other place => (other == id) == (place == line)
  | deleted _ place => place != line
  | _ => true

variable {e : Event} {id line : UInt32}

theorem leavesId_created {other place : UInt32}
    (h : (created other place).leavesId id line = true) : other = id ↔ place = line := by
  have hbeq : (other == id) = (place == line) := beq_iff_eq.mp h
  rw [← beq_iff_eq (a := other), ← beq_iff_eq (a := place), hbeq]

theorem line?_of_confirms (h : e.confirms line = true) : e.line? = some line := by
  cases e with
  | created other place => exact congrArg some (beq_iff_eq.mp h)
  | _ => nomatch h

/-- The record of the line keeps the id, and its condition unless the line is confirmed. -/
theorem change_of_line (h : e.leavesId id line = true) (hline : e.line? = some line)
    {x : Breakpoint} (hx : x.id = some id) :
    ∃ y, e.change (some x) = some y ∧ y.id = some id ∧
      y.condition = if e.confirms line then "" else x.condition := by
  cases e with
  | created other place =>
    obtain rfl : place = line := Option.some.inj hline
    obtain rfl : other = id := (leavesId_created h).mpr rfl
    exact ⟨.confirmed other, rfl, rfl, (if_pos (beq_self_eq_true place)).symm⟩
  | deleted other place =>
    obtain rfl : place = line := Option.some.inj hline
    exact absurd rfl (bne_iff_ne.mp h)
  | paused place => exact ⟨x.paused, rfl, hx, rfl⟩
  | unrecognized => nomatch hline

/-- On another line only a record with the id can become one with the id. -/
theorem exists_of_change (h : e.leavesId id line = true) (hline : e.line? ≠ some line)
    {record : Option Breakpoint} {y : Breakpoint} (hy : e.change record = some y)
    (hid : y.id = some id) : ∃ x, record = some x ∧ x.id = some id := by
  cases e with
  | created other place =>
    obtain rfl : Breakpoint.confirmed other = y := Option.some.inj hy
    have hplace : place = line := (leavesId_created h).mp (Option.some.inj hid)
    exact absurd (congrArg some hplace) hline
  | deleted other place =>
    obtain ⟨x, _, hleft⟩ := Option.bind_eq_some_iff.mp hy
    split at hleft
    · -- what is left of a removed breakpoint has no id
      obtain rfl : x.detached = y := Option.some.inj hleft
      nomatch hid
    · nomatch hleft
  | paused place =>
    obtain rfl : (record.getD {}).paused = y := Option.some.inj hy
    cases record with
    | none => nomatch hid
    | some x => exact ⟨x, rfl, hid⟩
  | unrecognized => exact ⟨y, hy, hid⟩

end Event

/-! ## The only record with an id -/

namespace Board

/-- The record of a line carries an id, and no other record does. -/
structure Sole (b : Board) (id line : UInt32) (x : Breakpoint) : Prop where
  held : b.get? (Breakpoint.lineKey line) = some x
  numbered : x.id = some id
  alone : ∀ key y, b.get? key = some y → y.id = some id → key = Breakpoint.lineKey line

variable {b : Board} {id line : UInt32} {x : Breakpoint}

theorem Sole.holder (h : b.Sole id line x) : b.Holder id (Breakpoint.lineKey line) x where
  held := h.held
  numbered := h.numbered
  least other y hy hid := by
    rw [h.alone other y hy hid]
    exact String.lt_irrefl _

theorem Sole.withCondition (h : b.Sole id line x) (hdom : b.Dominant) (condition : String) :
    (b.set (Breakpoint.lineKey line) (x.withCondition condition)).Sole id line
      (x.withCondition condition) where
  held := (get?_set hdom _ _ _).trans (if_pos rfl)
  numbered := h.numbered
  alone key y hy hid := by
    rw [get?_set hdom] at hy
    split at hy
    · assumption
    · exact h.alone key y hy hid

/-- **What an event makes of the only record with an id**: it remains the only one, and it keeps its
    condition unless its line is confirmed. -/
theorem Sole.apply (h : b.Sole id line x) (hdom : b.Dominant) {e : Event}
    (he : e.leavesId id line = true) :
    ∃ y, (b.apply e).Sole id line y ∧
      y.condition = if e.confirms line then "" else x.condition := by
  have halone : ∀ key y, (b.apply e).get? key = some y → y.id = some id →
      key = Breakpoint.lineKey line := by
    intro key y hy hid
    rw [get?_apply hdom] at hy
    split at hy
    · rename_i hkey
      by_cases hline : e.line? = some line
      · rw [hline] at hkey
        exact (Option.some.inj hkey).symm
      · obtain ⟨z, hz, hzid⟩ := Event.exists_of_change he hline hy hid
        exact h.alone key z hz hzid
    · exact h.alone key y hy hid
  have hget := get?_apply_line hdom e line
  by_cases hline : e.line? = some line
  · obtain ⟨y, hy, hid, hcondition⟩ := Event.change_of_line he hline h.numbered
    rw [if_pos hline, h.held, hy] at hget
    exact ⟨y, ⟨hget, hid, halone⟩, hcondition⟩
  · have hquiet : ¬ e.confirms line = true := fun hconfirms =>
      hline (Event.line?_of_confirms hconfirms)
    rw [if_neg hline, h.held] at hget
    exact ⟨x, ⟨hget, h.numbered, halone⟩, (if_neg hquiet).symm⟩

/-- The same for messages in a row: one confirmation among them is enough. -/
theorem Sole.applyAll (messages : List Message) : ∀ {b : Board} {x : Breakpoint},
    b.Sole id line x → b.Dominant → (∀ m ∈ messages, m.event.leavesId id line = true) →
      ∃ y, (b.applyAll messages).Sole id line y ∧
        y.condition = if messages.any (·.event.confirms line) then "" else x.condition := by
  induction messages with
  | nil => exact fun h _ _ => ⟨_, h, rfl⟩
  | cons m messages ih =>
    intro b x h hdom hleaves
    obtain ⟨y, hy, hfirst⟩ := h.apply hdom (hleaves m List.mem_cons_self)
    obtain ⟨z, hz, hrest⟩ := ih hy (hdom.apply m.event) fun m' hmem =>
      hleaves m' (List.mem_cons_of_mem m hmem)
    refine ⟨z, hz, ?_⟩
    rw [hrest, hfirst, List.any_cons]
    cases m.event.confirms line with
    | true => exact ite_self _
    | false => rfl

end Board

namespace Desk

variable {d : Desk} {operator : String} {board : Board} {id line : UInt32} {x : Breakpoint}

/-! ## The condition behind an edit -/

/-- An edit that succeeds leaves the condition on the only record with the id. -/
theorem sole_of_editCondition (h : d.store.boards.get? operator = some board)
    (sole : board.Sole id line x) (hdom : board.Dominant) {site : Site} {condition : String}
    (answered : (d.editCondition site operator id condition).2 = .ok ()) :
    ∃ left y, (d.editCondition site operator id condition).1.store.boards.get? operator = some left ∧
      left.Dominant ∧ left.Sole id line y ∧ y.condition = condition := by
  by_cases hsame : x.condition = condition
  · subst hsame
    have hnone := editCondition_of_no_change h site fun key y hfind =>
      same_of_holder sole.holder key y (Board.holder_of_find? hfind)
    rw [hnone]
    exact ⟨board, x, h, hdom, sole, rfl⟩
  · obtain ⟨e, answer, handed, hanswer, hwritten, _⟩ := exists_handed_editCondition h site id
      condition (Board.find?_eq_some_iff.mpr sole.holder) hsame
    have hsent : e.store.boards.get? operator = some board := by
      rw [handed.store_eq]
      exact h
    rw [hwritten (hanswer.symm.trans answered)]
    exact ⟨_, _, get?_update_self hsent _, hdom.set _ _, sole.withCondition hdom condition, rfl⟩

/-- **A condition lasts exactly until its line is confirmed again.**  On an honest board one record
    carries an id, its condition is changed with success, and then batches are heard at any places
    in which the id stays with its line.  If none of them confirms the line, the condition is read
    for the id.  In any case some first messages of each batch were taken, all of them where nothing
    is refused, and what is read is the condition if none of these confirmed the line, and no
    condition otherwise. -/
theorem condition_until_reconfirmed (d : Desk) (operator : String) (board : Board)
    (registered : d.store.boards.get? operator = some board) (honest : board.Honest)
    (id line : UInt32) (x : Breakpoint) (sole : board.Sole id line x)
    (site : Site) (condition : String)
    (answered : (d.editCondition site operator id condition).2 = .ok ())
    (heard : List (Site × List Message))
    (leaves : ∀ h ∈ heard, ∀ m ∈ h.2, m.event.leavesId id line = true) :
    ((∀ h ∈ heard, ∀ m ∈ h.2, m.event.confirms line = false) →
      ((d.editCondition site operator id condition).1.play
        (hearings operator heard)).condition? operator id = .ok condition) ∧
    ∃ taken, List.Forall₂ (fun h messages => messages <+: h.2) heard taken ∧
      ((∀ h ∈ heard, h.1.Reliable) → taken.flatten = messagesOf heard) ∧
      ((d.editCondition site operator id condition).1.play
        (hearings operator heard)).condition? operator id =
          .ok (if taken.flatten.any (·.event.confirms line) then "" else condition) := by
  obtain ⟨left, y, hleft, hdom, hsole, hcondition⟩ :=
    sole_of_editCondition registered sole honest.dominant answered
  obtain ⟨taken, hprefixes, hall, hplay⟩ := exists_taken operator heard hleft
  -- a message that was taken is one of a batch
  have hmem : ∀ m ∈ taken.flatten, ∃ h ∈ heard, m ∈ h.2 := by
    intro m hm
    obtain ⟨messages, hmessages, hm⟩ := List.mem_flatten.mp hm
    obtain ⟨n, hn, rfl⟩ := List.mem_iff_getElem.mp hmessages
    have hlength : n < heard.length := by
      rw [hprefixes.length_eq]
      exact hn
    have hprefix := hprefixes.get hlength hn
    exact ⟨heard[n], List.getElem_mem hlength, hprefix.subset hm⟩
  obtain ⟨z, hz, hread⟩ := Board.Sole.applyAll taken.flatten hsole hdom fun m hm => by
    obtain ⟨h, hheard, hm⟩ := hmem m hm
    exact leaves h hheard m hm
  have hanswer := condition?_of_holder hplay hz.holder
  rw [hread, hcondition] at hanswer
  refine ⟨fun hquiet => ?_, taken, hprefixes, hall, hanswer⟩
  have hnone : ¬ taken.flatten.any (·.event.confirms line) = true := by
    rw [List.any_eq_true]
    rintro ⟨m, hm, hconfirms⟩
    obtain ⟨h, hheard, hm⟩ := hmem m hm
    rw [hquiet h hheard m hm] at hconfirms
    nomatch hconfirms
  rw [hanswer, if_neg hnone]

/-! ## The second worker is slow -/

/-- A breakpoint on line 5 with a condition. -/
def conditionalAtFive : Desk := (confirmedAtFive.editCondition calm Sample.operator 1 "x > 5").1

/-- The first worker stops at line 5, and a breakpoint on line 8 comes and goes. -/
def aroundLineFive : List (Site × List Message) :=
  [(calm, (Sample.paused "w1" 5).messages ++ (Sample.created "w2" 2 8).messages),
    (middleGone, (Sample.deleted "w1" 2 8).messages)]

/-- The condition outlasts a stop at its line and whatever is said about line 8. -/
theorem condition_aroundLineFive :
    confirmedAtFive.store.boards.get? Sample.operator
        = some (.plain (.ofList [("5", .confirmed 1)])) ∧
      (confirmedAtFive.editCondition calm Sample.operator 1 "x > 5").2 = .ok () ∧
      (conditionalAtFive.play (hearings Sample.operator aroundLineFive)).condition? Sample.operator 1
        = .ok "x > 5" := by
  have hget : confirmedAtFive.store.boards.get? Sample.operator
      = some (.plain (.ofList [("5", .confirmed 1)])) := by decide
  have hsole : (Board.plain (.ofList [("5", .confirmed 1)])).Sole 1 5 (.confirmed 1) := by
    refine ⟨rfl, rfl, fun key y hy _ => ?_⟩
    have hmem := (Board.mem_entries_iff _ key y).mpr hy
    exact congrArg Prod.fst (List.mem_singleton.mp hmem)
  have hlasts := condition_until_reconfirmed confirmedAtFive Sample.operator _ hget (.plain _) 1 5 _
    hsole calm "x > 5" rfl aroundLineFive (by decide)
  exact ⟨hget, rfl, hlasts.1 (by decide)⟩

/-- **The confirmation of a slow worker takes a condition off the board.**  Nothing was refused, and
    what the worker prints speaks of this id on this line; still there is no condition afterwards,
    and asking for none tells the workers nothing. -/
theorem reconfirmation_drops_condition :
    (confirmedAtFive.editCondition calm Sample.operator 1 "x > 5").2 = .ok () ∧
      conditionalAtFive.condition? Sample.operator 1 = .ok "x > 5" ∧
      (Sample.created "w2" 1 5).messages.map (·.event) = [.created 1 5] ∧
      (conditionalAtFive.hear calm (Sample.created "w2" 1 5)).2 = .ok () ∧
      (conditionalAtFive.hear calm (Sample.created "w2" 1 5)).1.condition? Sample.operator 1
        = .ok "" ∧
      (conditionalAtFive.hear calm (Sample.created "w2" 1 5)).1.editCondition calm Sample.operator 1 ""
        = ((conditionalAtFive.hear calm (Sample.created "w2" 1 5)).1, .ok ()) := by
  exact ⟨rfl, rfl, by decide, rfl, rfl, rfl⟩

end Desk

end DebugDesk
