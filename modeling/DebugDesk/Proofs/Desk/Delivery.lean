/-
  How far a command gets.

  A user tells one worker to go on or to run to the next line, and tells all workers of an operator
  to set or remove a breakpoint or to change its condition.  Such a command is handed to the workers
  one by one, in the order of the roster, and a transport may refuse at any of them.  The first
  refusal ends it: the workers before have got the command, the one in question was tried, and nobody
  behind it was (`Handed`).  There is nothing in between, and for a desk, a place and a command there
  is only one outcome (`handed_iff`).

  What the boards have to do with it is told by the order of two steps.  Asking for a breakpoint
  writes nothing at all, since its board waits for the console.  A changed condition is written, but
  only behind the last worker, so a refusal leaves the condition that was there
  (`commands_stop_at_refusal`).  The crux is that handing a command on looks at the attempts and the
  transport alone, and leaves the whole store as it is (`Handed.store_eq`): entries, stamps, clocks
  and the boards of everybody else.
-/
import DebugDesk.Proofs.Desk.Batch

namespace DebugDesk

/-! ## Places where nothing is refused -/

/-- Whether nothing is refused at a place. -/
def Site.Reliable (site : Site) : Prop :=
  ∀ past messageType request, site.transport past messageType request = none

theorem Site.Reliable.delivers {site : Site} (h : site.Reliable) (messageType : String)
    (requests : List Request) : ∀ past, site.transport.Delivers messageType past requests := by
  induction requests with
  | nil => exact fun _ => trivial
  | cons request requests ih => exact fun past => ⟨h past messageType request, ih _⟩

namespace Desk

/-- The attempts to send a command to some workers, all delivered. -/
def told (operator : String) (workers : List String) (command : Command) (settings : Settings) :
    List Attempt :=
  workers.map fun worker => .delivered settings.messageType (.ofCommand operator worker command)

theorem told_eq (operator : String) (workers : List String) (command : Command)
    (settings : Settings) : told operator workers command settings =
      (workers.map (Request.ofCommand operator · command)).map (.delivered settings.messageType) := by
  rw [told, List.map_map]
  rfl

/-! ## Handing a command on -/

/-- **What becomes of a command for some workers of an operator**, handed to them in order. -/
inductive Handed (d : Desk) (site : Site) (operator : String) (workers : List String)
    (command : Command) : Desk × Except DeskError Unit → Prop where
  /-- All workers have got it. -/
  | all
    (delivered : site.transport.Delivers d.settings.messageType d.attempts
      (workers.map (Request.ofCommand operator · command))) :
    Handed d site operator workers command
      ({ d with attempts := d.attempts ++ told operator workers command d.settings }, .ok ())
  /-- The workers before some worker have got it, that one refused, and nobody behind was tried. -/
  | upTo (before : List String) (worker : String) (after : List String) (e : TransportError)
    (order : workers = before ++ worker :: after)
    (delivered : site.transport.Delivers d.settings.messageType d.attempts
      (before.map (Request.ofCommand operator · command)))
    (refused : site.transport (d.attempts ++ told operator before command d.settings)
      d.settings.messageType (.ofCommand operator worker command) = some e) :
    Handed d site operator workers command
      ({ d with attempts := d.attempts ++ (told operator before command d.settings ++
          [.refused d.settings.messageType (.ofCommand operator worker command) e]) },
        .error (.transport e))

section Handing

variable {d : Desk} {site : Site} {operator : String} {workers : List String} {command : Command}
  {result : Desk × Except DeskError Unit}

theorem dispatchAll_of_delivers
    (delivered : site.transport.Delivers d.settings.messageType d.attempts
      (workers.map (Request.ofCommand operator · command))) :
    d.dispatchAll site operator workers command =
      ({ d with attempts := d.attempts ++ told operator workers command d.settings }, .ok ()) := by
  rw [dispatchAll, Transport.sendAll_of_delivers delivered, ← told_eq]
  rfl

theorem dispatchAll_of_refused {before : List String} {worker : String} {e : TransportError}
    (after : List String)
    (delivered : site.transport.Delivers d.settings.messageType d.attempts
      (before.map (Request.ofCommand operator · command)))
    (refused : site.transport (d.attempts ++ told operator before command d.settings)
      d.settings.messageType (.ofCommand operator worker command) = some e) :
    d.dispatchAll site operator (before ++ worker :: after) command =
      ({ d with attempts := d.attempts ++ (told operator before command d.settings ++
          [.refused d.settings.messageType (.ofCommand operator worker command) e]) },
        .error (.transport e)) := by
  rw [told_eq] at refused
  rw [dispatchAll, List.map_append, List.map_cons,
    Transport.sendAll_of_refused _ delivered refused, ← told_eq]
  rfl

/-- **A command reaches all workers, or those up to the first that refuses it.** -/
theorem handed_dispatchAll (d : Desk) (site : Site) (operator : String) (workers : List String)
    (command : Command) :
    Handed d site operator workers command (d.dispatchAll site operator workers command) := by
  rcases Transport.delivers_or_refused site.transport d.settings.messageType
    (workers.map (Request.ofCommand operator · command)) d.attempts with
    hall | ⟨requests, request, rest, e, hsplit, hbefore, hrefused⟩
  · rw [dispatchAll_of_delivers hall]
    exact .all hall
  · -- the requests are those to the workers, so the refused one is that to some worker
    obtain ⟨before, behind, hworkers, rfl, hbehind⟩ := List.map_eq_append_iff.mp hsplit
    obtain ⟨worker, after, rfl, rfl, _⟩ := List.map_eq_cons_iff.mp hbehind
    rw [← told_eq] at hrefused
    have houtcome := dispatchAll_of_refused after hbefore hrefused
    rw [← hworkers] at houtcome
    rw [houtcome]
    exact .upTo before worker after e hworkers hbefore hrefused

/-- There is one outcome only, and it is the one that the desk comes to. -/
theorem handed_iff :
    Handed d site operator workers command result ↔
      result = d.dispatchAll site operator workers command := by
  constructor
  · intro h
    cases h with
    | all delivered => exact (dispatchAll_of_delivers delivered).symm
    | upTo before worker after e order delivered refused =>
      subst order
      exact (dispatchAll_of_refused after delivered refused).symm
  · intro h
    rw [h]
    exact handed_dispatchAll d site operator workers command

/-- **Handing a command on leaves the store as it is**, wherever it ends. -/
theorem Handed.store_eq (h : Handed d site operator workers command result) :
    result.1.store = d.store := by
  cases h <;> rfl

/-- A command that was handed on without an error has reached all workers. -/
theorem Handed.delivers (h : Handed d site operator workers command result)
    (hok : result.2 = .ok ()) : site.transport.Delivers d.settings.messageType d.attempts
      (workers.map (Request.ofCommand operator · command)) := by
  cases h with
  | all delivered => exact delivered
  | upTo => nomatch hok

theorem dispatchAll_of_reliable (reliable : site.Reliable) (d : Desk) (operator : String)
    (workers : List String) (command : Command) : d.dispatchAll site operator workers command =
      ({ d with attempts := d.attempts ++ told operator workers command d.settings }, .ok ()) :=
  dispatchAll_of_delivers (reliable.delivers _ _ _)

end Handing

/-! ## What a user asks for -/

variable {d : Desk} {operator : String}

section Registered

variable {board : Board} (h : d.store.boards.get? operator = some board) (site : Site)

include h

theorem toggle_of_get? (line : UInt32) :
    d.toggle site operator line = d.dispatchAll site operator (site.roster operator)
      (if (board.get? (Breakpoint.lineKey line)).isSome then .clearAt line else .breakAt line) := by
  have hboard : d.store.board ⟨operator⟩ = board := board_of_get? h
  rw [toggle, handle?_of_get? h]
  show d.broadcast site operator (if (d.store.board ⟨operator⟩).contains _ then _ else _) = _
  rw [hboard]
  rfl

/-- Where no record has the id, or the one that is found has the condition already, nothing is
    done. -/
theorem editCondition_of_no_change {id : UInt32} {condition : String}
    (same : ∀ key x, board.find? id = some (key, x) → x.condition = condition) :
    d.editCondition site operator id condition = (d, .ok ()) := by
  have hboard : d.store.board ⟨operator⟩ = board := board_of_get? h
  unfold editCondition
  rw [handle?_of_get? h]
  simp only [hboard]
  cases hfind : board.find? id with
  | none => rfl
  | some entry =>
    obtain ⟨key, x⟩ := entry
    have hsame : x.condition = condition := same key x hfind
    simp only [hsame, if_true]

section Changed

variable {id : UInt32} {condition key : String} {x : Breakpoint}
  (found : board.find? id = some (key, x)) (change : x.condition ≠ condition)

include found change

/-- Otherwise the condition is handed to the workers, and written if all have got it. -/
theorem editCondition_of_ok {e : Desk} (handed :
      Handed d site operator (site.roster operator) (.condition id condition) (e, .ok ())) :
    d.editCondition site operator id condition =
      (e.update ⟨operator⟩ (·.set key (x.withCondition condition)), .ok ()) := by
  have hboard : d.store.board ⟨operator⟩ = board := board_of_get? h
  have hsent : d.broadcast site operator (.condition id condition) = (e, .ok ()) :=
    (handed_iff.mp handed).symm
  unfold editCondition
  rw [handle?_of_get? h]
  simp only [hboard, found, if_neg change, hsent]

theorem editCondition_of_error {e : Desk} {error : DeskError} (handed :
      Handed d site operator (site.roster operator) (.condition id condition) (e, .error error)) :
    d.editCondition site operator id condition = (e, .error error) := by
  have hboard : d.store.board ⟨operator⟩ = board := board_of_get? h
  have hsent : d.broadcast site operator (.condition id condition) = (e, .error error) :=
    (handed_iff.mp handed).symm
  unfold editCondition
  rw [handle?_of_get? h]
  simp only [hboard, found, if_neg change, hsent]

end Changed

end Registered

section Unregistered

variable (h : d.store.boards.get? operator = none)

include h

theorem toggle_of_get?_none (site : Site) (line : UInt32) :
    d.toggle site operator line = (d, .error (.store (.notInitialized operator))) := by
  rw [toggle, handle?_of_get?_none h]

theorem editCondition_of_get?_none (site : Site) (id : UInt32) (condition : String) :
    d.editCondition site operator id condition =
      (d, .error (.store (.notInitialized operator))) := by
  rw [editCondition, handle?_of_get?_none h]

theorem condition?_of_get?_none (id : UInt32) :
    d.condition? operator id = .error (.store (.notInitialized operator)) := by
  rw [condition?, handle?_of_get?_none h]
  rfl

theorem noteResumed_of_get?_none :
    d.noteResumed operator = (d, .error (.store (.notInitialized operator))) := by
  rw [noteResumed, handle?_of_get?_none h]

end Unregistered

section Edited

variable {board : Board} (h : d.store.boards.get? operator = some board) (site : Site) (id : UInt32)
  (condition : String)

include h

/-- **A changed condition is written behind the last worker**, or not at all. -/
theorem exists_handed_editCondition {key : String} {x : Breakpoint}
    (found : board.find? id = some (key, x)) (change : x.condition ≠ condition) :
    ∃ e answer,
      Handed d site operator (site.roster operator) (.condition id condition) (e, answer) ∧
      (d.editCondition site operator id condition).2 = answer ∧
      (answer = .ok () → (d.editCondition site operator id condition).1 =
        e.update ⟨operator⟩ (·.set key (x.withCondition condition))) ∧
      (answer ≠ .ok () → (d.editCondition site operator id condition).1 = e) := by
  obtain ⟨⟨e, answer⟩, handed⟩ :
      ∃ result, Handed d site operator (site.roster operator) (.condition id condition) result :=
    ⟨_, handed_dispatchAll d site operator _ _⟩
  refine ⟨e, answer, handed, ?_⟩
  cases answer with
  | ok =>
    rw [editCondition_of_ok h site found change handed]
    exact ⟨rfl, fun _ => rfl, fun hne => absurd rfl hne⟩
  | error error =>
    rw [editCondition_of_error h site found change handed]
    have hnot : (Except.error error : Except DeskError Unit) ≠ .ok () := fun hok => by cases hok
    exact ⟨rfl, fun hok => absurd hok hnot, fun _ => rfl⟩

/-- An edit that changes the store has reached all workers. -/
theorem delivers_of_editCondition
    (changed : (d.editCondition site operator id condition).1.store ≠ d.store) :
    site.transport.Delivers d.settings.messageType d.attempts
        ((site.roster operator).map (Request.ofCommand operator · (.condition id condition))) ∧
      (d.editCondition site operator id condition).2 = .ok () := by
  by_cases hsame : ∀ key x, board.find? id = some (key, x) → x.condition = condition
  · have hnone := editCondition_of_no_change h site hsame
    rw [hnone] at changed
    exact absurd rfl changed
  · obtain ⟨key, x, hfind, hchange⟩ :
        ∃ key x, board.find? id = some (key, x) ∧ x.condition ≠ condition := by
      simpa using hsame
    obtain ⟨e, answer, handed, hanswer, _, hrefused⟩ :=
      exists_handed_editCondition h site id condition hfind hchange
    have hok : answer = .ok () := by
      -- where a worker has refused the condition, the store is that from before
      by_cases hok : answer = .ok ()
      · exact hok
      · have hstore : e.store = d.store := handed.store_eq
        rw [hrefused hok] at changed
        exact absurd hstore changed
    exact ⟨handed.delivers hok, hanswer.trans hok⟩

end Edited

/-- **What a user asks for stops at the first refusal, and leaves the store as it is unless all
    workers have got it.**  Letting a worker go on or step, and asking for a breakpoint to be set or
    removed, change no board, no stamp and no clock at all, however they end.  A changed condition
    is handed to all workers first.  Every one of these commands reaches the workers in order up to
    the first refusal, which is the error that is answered.  Whatever is asked about an operator that
    was never registered fails, sends nothing and changes nothing. -/
theorem commands_stop_at_refusal (d : Desk) (site : Site) (operator : String) :
    (∀ worker,
      Handed d site operator [worker] .resume (d.resume site operator worker) ∧
      Handed d site operator [worker] .next (d.stepOver site operator worker) ∧
      (d.resume site operator worker).1.store = d.store ∧
      (d.stepOver site operator worker).1.store = d.store) ∧
    (∀ line, (d.toggle site operator line).1.store = d.store) ∧
    (∀ board, d.store.boards.get? operator = some board →
      (∀ line, Handed d site operator (site.roster operator)
        (if (board.get? (Breakpoint.lineKey line)).isSome then .clearAt line else .breakAt line)
        (d.toggle site operator line)) ∧
      ∀ id condition,
        ((∀ key x, board.find? id = some (key, x) → x.condition = condition) →
          d.editCondition site operator id condition = (d, .ok ())) ∧
        (∀ key x, board.find? id = some (key, x) → x.condition ≠ condition →
          ∃ e answer,
            Handed d site operator (site.roster operator) (.condition id condition) (e, answer) ∧
            (d.editCondition site operator id condition).2 = answer ∧
            (answer = .ok () → (d.editCondition site operator id condition).1 =
              e.update ⟨operator⟩ (·.set key (x.withCondition condition))) ∧
            (answer ≠ .ok () → (d.editCondition site operator id condition).1 = e)) ∧
        ((d.editCondition site operator id condition).1.store ≠ d.store →
          site.transport.Delivers d.settings.messageType d.attempts
              ((site.roster operator).map (Request.ofCommand operator · (.condition id condition))) ∧
            (d.editCondition site operator id condition).2 = .ok ())) ∧
    (d.store.boards.get? operator = none →
      (∀ line, d.toggle site operator line = (d, .error (.store (.notInitialized operator)))) ∧
      (∀ id condition, d.editCondition site operator id condition
        = (d, .error (.store (.notInitialized operator)))) ∧
      (∀ id, d.condition? operator id = .error (.store (.notInitialized operator))) ∧
      d.noteResumed operator = (d, .error (.store (.notInitialized operator)))) := by
  refine ⟨fun worker => ?_, fun line => store_toggle d site operator line, ?_, ?_⟩
  · have hresume := handed_dispatchAll d site operator [worker] .resume
    have hstep := handed_dispatchAll d site operator [worker] .next
    exact ⟨hresume, hstep, hresume.store_eq, hstep.store_eq⟩
  · intro board h
    constructor
    · intro line
      rw [toggle_of_get? h]
      exact handed_dispatchAll d site operator _ _
    · intro id condition
      exact ⟨editCondition_of_no_change h site,
        fun key x => exists_handed_editCondition h site id condition,
        delivers_of_editCondition h site id condition⟩
  · intro h
    exact ⟨toggle_of_get?_none h site, editCondition_of_get?_none h site,
      condition?_of_get?_none h, noteResumed_of_get?_none h⟩

/-! ## The second of three workers is gone -/

/-- Three workers, of which the second is gone. -/
def middleGone : Site := ⟨.const ["w1", "w2", "w3"], .rejecting ["w2"] .reliable⟩

/-- A desk with a confirmed breakpoint on line 5. -/
def confirmedAtFive : Desk :=
  (((ofSettings "" {}).register Sample.operator).hear ⟨.const [], .reliable⟩
    (Sample.created "w1" 1 5)).1

/-- The first worker has got the condition, the third was not tried, and the board has the old
    one. -/
theorem commands_stop_at_middleGone :
    confirmedAtFive.store.boards.get? Sample.operator
        = some (.plain (.ofList [("5", .confirmed 1)])) ∧
      Handed confirmedAtFive middleGone Sample.operator ["w1", "w2", "w3"] (.clearAt 5)
        (confirmedAtFive.toggle middleGone Sample.operator 5) ∧
      (confirmedAtFive.editCondition middleGone Sample.operator 1 "x > 5").2
        = .error (.transport (.rejected "w2 gone")) ∧
      (confirmedAtFive.editCondition middleGone Sample.operator 1 "x > 5").1.attempts
        = [.delivered "DebugCommandRequest" ⟨"PythonUDFV2-operator-1", "w1", "condition 1 x > 5"⟩,
           .refused "DebugCommandRequest" ⟨"PythonUDFV2-operator-1", "w2", "condition 1 x > 5"⟩
             (.rejected "w2 gone")] ∧
      (confirmedAtFive.editCondition middleGone Sample.operator 1 "x > 5").1.store
        = confirmedAtFive.store := by
  have hget : confirmedAtFive.store.boards.get? Sample.operator
      = some (.plain (.ofList [("5", .confirmed 1)])) := by decide
  have hboard := (commands_stop_at_refusal confirmedAtFive middleGone Sample.operator).2.2.1 _ hget
  exact ⟨hget, hboard.1 5, rfl, by decide, by decide⟩

end Desk

end DebugDesk
