/-
  The history of a line.

  An event speaks of one line or of none, and what it does to a board it does to the record of that
  line (`get?_apply`): a confirmation replaces it, a removal drops it or takes its id, a stop marks
  it or makes it.  All three look at nothing but the record that is there, so an event has an effect
  on records alone, `Event.change`, and a line has a history: the events that speak of it, in order.

  The crux is that different lines have different keys (`Breakpoint.lineKey_inj`).  So the record of
  a line after some messages is what its history makes of the record before (`get?_applyAll`), and
  boards whose lines have the same histories have the same entries (`entries_applyAll_congr`).
  Saying a thing twice changes nothing more (`Event.change_change`).

  The one premise is that writes take effect (`Board.Dominant`).
-/
import DebugDesk.Proofs.Desk.Batch

namespace DebugDesk

/-! ## What an event makes of a record -/

namespace Event

/-- What an event makes of the record of the line that it speaks of. -/
def change : Event → Option Breakpoint → Option Breakpoint
  | created id _, _ => some (.confirmed id)
  | deleted _ _, record => record.bind fun x => if x.hit then some x.detached else none
  | paused _, record => some (record.getD {}).paused
  | unrecognized, record => record

/-- **What is said twice changes nothing more**, whatever the record is. -/
theorem change_change (e : Event) (record : Option Breakpoint) :
    e.change (e.change record) = e.change record := by
  cases e with
  | created id line => rfl
  | deleted id line =>
    cases record with
    | none => rfl
    | some x =>
      obtain ⟨bid, condition, hit⟩ := x
      cases hit <;> rfl
  | paused line => rfl
  | unrecognized => rfl

/-- The history of a line: those of some events that speak of it. -/
def history (line : UInt32) (events : List Event) : List Event :=
  events.filter (·.line? == some line)

theorem history_append (line : UInt32) (events more : List Event) :
    history line (events ++ more) = history line events ++ history line more :=
  List.filter_append events more

theorem history_cons (line : UInt32) (e : Event) (events : List Event) :
    history line (e :: events) =
      if e.line? = some line then e :: history line events else history line events := by
  rw [history, List.filter_cons]
  simp only [beq_iff_eq]
  rfl

/-- The record of a line after the events of its history. -/
def outcome (events : List Event) (record : Option Breakpoint) : Option Breakpoint :=
  events.foldl (fun record e => e.change record) record

end Event

/-! ## One event on a board -/

namespace Board

variable {b c : Board}

/-- Boards that answer the same hold the same. -/
theorem entries_eq_of_get? (h : ∀ key, b.get? key = c.get? key) : b.entries = c.entries := by
  have hlive : b.live = c.live := by
    apply Table.ext_get?
    intro key
    have hkey := h key
    rw [← get?_unstamped b, ← get?_unstamped c] at hkey
    exact hkey
  rw [← entries_unstamped b, ← entries_unstamped c, unstamped, unstamped, hlive]

/-- **An event changes the record of the line that it speaks of**, and no other record. -/
theorem get?_apply (h : b.Dominant) (e : Event) (key : String) :
    (b.apply e).get? key =
      if e.line?.map Breakpoint.lineKey = some key then e.change (b.get? key) else b.get? key := by
  cases e with
  | created id line =>
    show (b.set (Breakpoint.lineKey line) (.confirmed id)).get? key = _
    rw [get?_set h]
    simp only [Event.line?, Option.map_some, Option.some.injEq, eq_comm (a := key)]
    rfl
  | deleted id line =>
    simp only [Event.line?, Option.map_some, Option.some.injEq, Board.apply]
    by_cases hkey : Breakpoint.lineKey line = key
    · -- the record of the line itself: there may be none, and a worker may stand at the line
      subst hkey
      rw [if_pos rfl]
      cases hrecord : b.get? (Breakpoint.lineKey line) with
      | none => exact hrecord
      | some x =>
        show (if x.hit then b.set _ x.detached else b.delete _).get? _
          = if x.hit then some x.detached else none
        cases x.hit with
        | true => exact (get?_set h _ _ _).trans (if_pos rfl)
        | false => exact (get?_delete h _ _).trans (if_pos rfl)
    · rw [if_neg hkey]
      cases b.get? (Breakpoint.lineKey line) with
      | none => rfl
      | some x =>
        show (if x.hit then b.set _ x.detached else b.delete _).get? key = b.get? key
        cases x.hit with
        | true => exact (get?_set h _ _ _).trans (if_neg (Ne.symm hkey))
        | false => exact (get?_delete h _ _).trans (if_neg (Ne.symm hkey))
  | paused line =>
    show (b.set (Breakpoint.lineKey line) _).get? key = _
    rw [get?_set h]
    simp only [Event.line?, Option.map_some, Option.some.injEq, eq_comm (a := key)]
    split
    · rename_i hkey
      rw [← hkey]
      rfl
    · rfl
  | unrecognized => rfl

/-- The same read at a line: different lines have different keys. -/
theorem get?_apply_line (h : b.Dominant) (e : Event) (line : UInt32) :
    (b.apply e).get? (Breakpoint.lineKey line) =
      if e.line? = some line then e.change (b.get? (Breakpoint.lineKey line))
      else b.get? (Breakpoint.lineKey line) := by
  have hkey : e.line?.map Breakpoint.lineKey = some (Breakpoint.lineKey line) ↔
      e.line? = some line := by
    constructor
    · intro hmap
      obtain ⟨other, hother, heq⟩ := Option.map_eq_some_iff.mp hmap
      rw [hother, Breakpoint.lineKey_inj heq]
    · intro hline
      rw [hline]
      rfl
  rw [get?_apply h]
  simp only [hkey]

/-! ## Messages in a row -/

/-- **The record of a line is what the history of the line makes of it**; messages about other lines
    and about nothing do not matter. -/
theorem get?_applyAll (line : UInt32) (messages : List Message) : ∀ {b : Board}, b.Dominant →
    (b.applyAll messages).get? (Breakpoint.lineKey line) =
      Event.outcome (Event.history line (messages.map (·.event)))
        (b.get? (Breakpoint.lineKey line)) := by
  induction messages with
  | nil => exact fun _ => rfl
  | cons m messages ih =>
    intro b h
    have happly := get?_apply_line h m.event line
    have hnext := ih (h.apply m.event)
    rw [List.map_cons, Event.history_cons]
    show ((b.apply m.event).applyAll messages).get? _ = _
    rw [hnext, happly]
    by_cases hline : m.event.line? = some line
    · rw [if_pos hline, if_pos hline]
      rfl
    · rw [if_neg hline, if_neg hline]

/-- Keys that are no line's answer as before. -/
theorem get?_applyAll_of_ne {key : String} (hkey : ∀ line, key ≠ Breakpoint.lineKey line)
    (messages : List Message) : ∀ {b : Board}, b.Dominant →
      (b.applyAll messages).get? key = b.get? key := by
  induction messages with
  | nil => exact fun _ => rfl
  | cons m messages ih =>
    intro b h
    show ((b.apply m.event).applyAll messages).get? key = b.get? key
    rw [ih (h.apply m.event), get?_apply h, if_neg]
    intro hmap
    obtain ⟨line, _, heq⟩ := Option.map_eq_some_iff.mp hmap
    exact hkey line heq.symm

/-- **Messages that give every line the same outcome leave the same entries.** -/
theorem entries_applyAll_congr (h : b.Dominant) {messages others : List Message}
    (same : ∀ line record, Event.outcome (Event.history line (messages.map (·.event))) record =
      Event.outcome (Event.history line (others.map (·.event))) record) :
    (b.applyAll messages).entries = (b.applyAll others).entries := by
  refine entries_eq_of_get? fun key => ?_
  by_cases hkey : ∃ line, key = Breakpoint.lineKey line
  · obtain ⟨line, rfl⟩ := hkey
    rw [get?_applyAll line messages h, get?_applyAll line others h, same]
  · have hne : ∀ line, key ≠ Breakpoint.lineKey line := fun line heq => hkey ⟨line, heq⟩
    rw [get?_applyAll_of_ne hne messages h, get?_applyAll_of_ne hne others h]

end Board

end DebugDesk
