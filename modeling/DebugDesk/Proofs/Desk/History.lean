/-
  Every line of a script has a history of its own.

  The workers of an operator print what they like, in any order and cut into batches in any way.
  Where nothing is refused, the record that a line has in the end is what the history of that line
  makes of the record that it had at first (`lines_keep_apart`): the titles that speak of the line,
  in order, and nothing else.  So messages about different lines may change places, and a message
  that is repeated at once is heard once.

  The crux lies with the boards (`Board.get?_applyAll`).  What is left to see here is that batches
  do not matter (`boardAfter_eq`), and which boards the statement is about: all plain ones, and all
  replicas that only ever merged snapshots of honest peers (`Board.Honest`).
-/
import DebugDesk.Proofs.Board.History
import DebugDesk.Proofs.Desk.Separate
import DebugDesk.Proofs.Network
import DebugDesk.Proofs.Session.Lifecycle
import Mathlib.Data.List.Forall2

namespace DebugDesk

/-! ## Honest boards -/

/-- A board that came about among honest observers: a plain one, whatever it holds, or a replica
    that merged nothing but snapshots of other replicas, in a network or at a desk. -/
inductive Board.Honest : Board → Prop where
  | plain (table : Table Breakpoint) : Honest (.plain table)
  | network {ι : Type} [DecidableEq ι] (name : ι ↪ String) (moves : List (Network.Move ι)) (i : ι) :
    Honest (.shared ((Network.run name moves).replica i))
  | session {ι : Type} [DecidableEq ι] (madeUp : ι → String) (settings : ι → Settings)
    (moves : List (Session.Move ι)) (i : ι) {operator : String} {board : Board}
    (held : ((Session.run madeUp settings moves).desk i).store.boards.get? operator = some board) :
    Honest board

/-- Writes take effect on an honest board. -/
theorem Board.Honest.dominant {b : Board} (h : b.Honest) : b.Dominant := by
  cases h with
  | plain table => exact trivial
  | network name moves i => exact ((Network.sound_run name moves).each i).reflects.dominant
  | session madeUp settings moves i held =>
    exact Session.dominant_run madeUp settings moves i _ _ held

namespace Desk

variable {d : Desk} {operator : String}

/-! ## Batches do not matter -/

/-- The turns in which batches of messages are heard, each at a place of its own. -/
def hearings (operator : String) (heard : List (Site × List Message)) : List Turn :=
  heard.map fun h => (h.1, .hear ⟨operator, h.2⟩)

/-- The board of an operator after some batches. -/
def boardAfter (d : Desk) (operator : String) (heard : List (Site × List Message)) : Board :=
  (d.play (hearings operator heard)).store.board ⟨operator⟩

/-- The messages of some batches. -/
def messagesOf (heard : List (Site × List Message)) : List Message := heard.flatMap (·.2)

/-- Of a batch some first messages are taken: those up to the first refusal. -/
theorem exists_taken_hear {board : Board} (hget : d.store.boards.get? operator = some board)
    (site : Site) (messages : List Message) :
    ∃ taken, taken <+: messages ∧ (site.Reliable → taken = messages) ∧
      (d.hear site ⟨operator, messages⟩).1.store.boards.get? operator
        = some (board.applyAll taken) := by
  have hheard := heard_hear site ⟨operator, messages⟩ hget
  generalize d.hear site ⟨operator, messages⟩ = result at hheard
  cases hheard with
  | all delivered =>
    exact ⟨messages, List.prefix_rfl, fun _ => rfl, (get?_leave _ _ _ _ _).trans (if_pos rfl)⟩
  | cut i before after rest request e number behind upTo delivered refused =>
    refine ⟨messages.take (i + 1), List.take_prefix _ _, fun reliable => ?_,
      (get?_leave _ _ _ _ _).trans (if_pos rfl)⟩
    rw [reliable] at refused
    exact absurd refused (Option.some_ne_none e).symm

/-- Of every batch in a row some first messages are taken, and all of them where nothing is
    refused. -/
theorem exists_taken (operator : String) (heard : List (Site × List Message)) :
    ∀ {d : Desk} {board : Board}, d.store.boards.get? operator = some board →
      ∃ taken, List.Forall₂ (fun h messages => messages <+: h.2) heard taken ∧
        ((∀ h ∈ heard, h.1.Reliable) → taken.flatten = messagesOf heard) ∧
        (d.play (hearings operator heard)).store.boards.get? operator
          = some (board.applyAll taken.flatten) := by
  induction heard with
  | nil => exact fun hget => ⟨[], .nil, fun _ => rfl, hget⟩
  | cons h heard ih =>
    obtain ⟨site, messages⟩ := h
    intro d board hget
    obtain ⟨first, hprefix, hall, hnext⟩ := exists_taken_hear hget site messages
    obtain ⟨taken, hprefixes, hrest, hplay⟩ := ih hnext
    refine ⟨first :: taken, .cons hprefix hprefixes, fun reliable => ?_, ?_⟩
    · have hfirst := hall (reliable _ List.mem_cons_self)
      have htaken := hrest fun h hmem => reliable h (List.mem_cons_of_mem _ hmem)
      rw [List.flatten_cons, hfirst, htaken]
      rfl
    · rw [List.flatten_cons, Board.applyAll_append]
      exact hplay

/-- **Where nothing is refused, only the messages matter**, and not how they are cut into batches. -/
theorem boardAfter_eq (registered : d.store.contains operator = true)
    {heard : List (Site × List Message)} (reliable : ∀ h ∈ heard, h.1.Reliable) :
    d.boardAfter operator heard = (d.store.board ⟨operator⟩).applyAll (messagesOf heard) := by
  obtain ⟨board, hget⟩ := Option.isSome_iff_exists.mp registered
  obtain ⟨taken, _, hall, hplay⟩ := exists_taken operator heard hget
  rw [boardAfter, board_of_get? hplay, board_of_get? hget, hall reliable]

/-! ## Lines keep apart -/

/-- The history of a line in some batches, of which only the titles are read. -/
def historyOf (line : UInt32) (heard : List (Site × List Message)) : List Event :=
  Event.history line (((messagesOf heard).map (·.title)).map Event.ofTitle)

theorem historyOf_eq (line : UInt32) (heard : List (Site × List Message)) :
    historyOf line heard = Event.history line ((messagesOf heard).map (·.event)) := by
  rw [historyOf, List.map_map]
  rfl

/-- Two messages about different lines may change places in every history. -/
theorem history_swap {first second : Message} (apart : first.event.line? ≠ second.event.line?)
    (line : UInt32) (before after : List Message) :
    Event.history line ((before ++ second :: first :: after).map (·.event)) =
      Event.history line ((before ++ first :: second :: after).map (·.event)) := by
  simp only [List.map_append, List.map_cons, Event.history_append, Event.history_cons]
  by_cases hfirst : first.event.line? = some line
  · -- then the second speaks of another line, or of none
    have hsecond : second.event.line? ≠ some line := fun h => apart (hfirst.trans h.symm)
    simp only [if_pos hfirst, if_neg hsecond]
  · rw [if_neg hfirst, if_neg hfirst]

/-- A title that is repeated at once does not change what becomes of a line. -/
theorem outcome_repeat {m again : Message} (same : again.title = m.title) (line : UInt32)
    (before after : List Message) (record : Option Breakpoint) :
    Event.outcome (Event.history line ((before ++ m :: again :: after).map (·.event))) record =
      Event.outcome (Event.history line ((before ++ m :: after).map (·.event))) record := by
  have hevent : again.event = m.event := congrArg Event.ofTitle same
  simp only [List.map_append, List.map_cons, Event.history_append, Event.history_cons, hevent]
  split
  · simp only [Event.outcome, List.foldl_append, List.foldl_cons, Event.change_change]
  · rfl

/-- **Lines keep apart.**  Batches of an operator are heard where nothing is refused, on any honest
    board.  In the end the record of a line is what the titles that speak of the line make of the
    record that was there, in their order; keys that are no line's stay.  Other batches with the
    same history of every line leave the same entries; so do batches with two neighbouring messages
    about different lines exchanged, and batches without an immediate repetition.  A removal drops
    the record of a line at which nobody stands, and otherwise takes its id and nothing else,
    whatever id it names. -/
theorem lines_keep_apart (d : Desk) (operator : String)
    (registered : d.store.contains operator = true)
    (honest : (d.store.board ⟨operator⟩).Honest)
    (heard : List (Site × List Message)) (reliable : ∀ h ∈ heard, h.1.Reliable) :
    (∀ line, (d.boardAfter operator heard).get? (Breakpoint.lineKey line) =
      Event.outcome (historyOf line heard)
        ((d.store.board ⟨operator⟩).get? (Breakpoint.lineKey line))) ∧
    (∀ key, (∀ line, key ≠ Breakpoint.lineKey line) →
      (d.boardAfter operator heard).get? key = (d.store.board ⟨operator⟩).get? key) ∧
    (∀ others : List (Site × List Message), (∀ h ∈ others, h.1.Reliable) →
      ((∀ line, historyOf line others = historyOf line heard) →
        (d.boardAfter operator others).entries = (d.boardAfter operator heard).entries) ∧
      (∀ before first second after, messagesOf heard = before ++ first :: second :: after →
        messagesOf others = before ++ second :: first :: after →
        first.event.line? ≠ second.event.line? →
        (d.boardAfter operator others).entries = (d.boardAfter operator heard).entries) ∧
      ∀ before m again after, messagesOf heard = before ++ m :: after →
        messagesOf others = before ++ m :: again :: after → again.title = m.title →
        (d.boardAfter operator others).entries = (d.boardAfter operator heard).entries) ∧
    ∀ site m id line, site.Reliable → m.event = .deleted id line →
      (d.boardAfter operator (heard ++ [(site, [m])])).get? (Breakpoint.lineKey line) =
        ((d.boardAfter operator heard).get? (Breakpoint.lineKey line)).bind fun x =>
          if x.hit then some { x with id := none } else none := by
  have hdominant := honest.dominant
  have hafter := boardAfter_eq registered reliable
  -- batches whose messages give every line the same outcome leave the same entries
  have hcongr : ∀ others : List (Site × List Message), (∀ h ∈ others, h.1.Reliable) →
      (∀ line record, Event.outcome (historyOf line others) record =
        Event.outcome (historyOf line heard) record) →
      (d.boardAfter operator others).entries = (d.boardAfter operator heard).entries := by
    intro others reliable' hsame
    simp only [historyOf_eq] at hsame
    rw [hafter, boardAfter_eq registered reliable']
    exact Board.entries_applyAll_congr hdominant hsame
  refine ⟨fun line => ?_, fun key hkey => ?_, fun others reliable' => ⟨fun hsame => ?_, ?_, ?_⟩, ?_⟩
  · rw [hafter, Board.get?_applyAll line (messagesOf heard) hdominant, historyOf_eq]
  · rw [hafter, Board.get?_applyAll_of_ne hkey (messagesOf heard) hdominant]
  · exact hcongr others reliable' fun line record => by rw [hsame]
  · intro before first second after hheard hothers apart
    refine hcongr others reliable' fun line record => ?_
    rw [historyOf_eq, historyOf_eq, hheard, hothers, history_swap apart]
  · intro before m again after hheard hothers same
    refine hcongr others reliable' fun line record => ?_
    rw [historyOf_eq, historyOf_eq, hheard, hothers, outcome_repeat same]
  · intro site m id line hsite hdeleted
    have hall : ∀ h ∈ heard ++ [(site, [m])], h.1.Reliable := by
      intro h hmem
      rcases List.mem_append.mp hmem with hmem | hmem
      · exact reliable h hmem
      · rw [List.mem_singleton.mp hmem]
        exact hsite
    have hmessages : messagesOf (heard ++ [(site, [m])]) = messagesOf heard ++ [m] := by
      rw [messagesOf, List.flatMap_append]
      rfl
    rw [boardAfter_eq registered hall, hafter, hmessages, Board.applyAll_append]
    show (((d.store.board ⟨operator⟩).applyAll (messagesOf heard)).apply m.event).get? _ = _
    rw [Board.get?_apply (Board.Dominant.applyAll _ hdominant), hdeleted]
    exact if_pos rfl

/-! ## A removal that comes in turn with a confirmation -/

/-- The desk of an operator whose workers stood at line 5 when another desk heard of them. -/
def informed : Desk := (Session.run (fun _ => "") Session.twoReplicas Session.handedOver).desk true

/-- Line 5 is said to be removed, then line 8 is confirmed. -/
def removalFirst : List (Site × List Message) :=
  [(calm, (Sample.paused "w1" 8).messages ++ (Sample.deleted "w1" 7 5).messages),
    (calm, (Sample.created "w1" 2 8).messages)]

/-- The same in the other order, and in one batch. -/
def confirmationFirst : List (Site × List Message) :=
  [(calm, (Sample.paused "w1" 8).messages ++ (Sample.created "w1" 2 8).messages ++
    (Sample.deleted "w1" 7 5).messages)]

/-- The order does not matter, and line 5 stays marked: the removal speaks of an id that the record
    does not have. -/
theorem removalFirst_entries :
    (informed.boardAfter Sample.operator removalFirst).get? (Breakpoint.lineKey 5)
        = some ⟨none, "", true⟩ ∧
      (informed.boardAfter Sample.operator confirmationFirst).entries
        = (informed.boardAfter Sample.operator removalFirst).entries := by
  have reliable : ∀ h ∈ removalFirst ++ confirmationFirst, h.1.Reliable := by
    intro h hmem
    have hsite : h.1 = calm := by
      simp only [removalFirst, confirmationFirst, List.cons_append, List.nil_append, List.mem_cons,
        List.not_mem_nil, or_false] at hmem
      rcases hmem with rfl | rfl | rfl <;> rfl
    rw [hsite]
    exact fun _ _ _ => rfl
  have held : informed.store.boards.get? Sample.operator
      = some (informed.store.board ⟨Sample.operator⟩) := rfl
  have honest : (informed.store.board ⟨Sample.operator⟩).Honest :=
    .session (fun _ => "") Session.twoReplicas Session.handedOver true held
  have hkept := lines_keep_apart informed Sample.operator (by decide) honest removalFirst
    fun h hmem => reliable h (List.mem_append_left _ hmem)
  constructor
  · rw [hkept.1 5]
    decide
  · have hothers := hkept.2.2.1 confirmationFirst fun h hmem =>
      reliable h (List.mem_append_right _ hmem)
    exact hothers.2.1 (Sample.paused "w1" 8).messages (Message.debugger "w1" _)
      (Message.debugger "w1" _) [] rfl rfl (by decide)

end Desk

end DebugDesk
