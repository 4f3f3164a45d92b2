/-
  What a replay is a function of.

  A replay runs a fresh desk through its whole loop: the target is announced, the batches of all
  operators are heard, and at the end the requests are collected and the board is read.  None of
  this is seen in what comes out (`run_of_tracks`).  The requests are the log of the target's own
  messages on an empty board, and the breakpoints are what these messages make of it.  Batches of
  other operators are counted as failures, wherever they stand, and the kind of boards, the name of
  a replica and the type of message do not matter at all.

  The crux is that only the target is ever registered, so a batch either is the target's and is
  heard to its end, because nothing is refused, or it fails and leaves the desk as it is
  (`foldl_takeBatch`).  That replicas make no difference holds of every board on which writes take
  effect, and they do on an empty one (`Board.log_unstamped`).
-/
import DebugDesk.Proofs.Desk.Loop
import DebugDesk.Proofs.Desk.Separate
import DebugDesk.Replay

namespace DebugDesk

/-! ## The target's messages -/

/-- The messages of the batches of an operator. -/
def messagesTo (operator : String) (batches : List Batch) : List Message :=
  (batches.filter (·.operator == operator)).flatMap (·.messages)

theorem messagesTo_cons (operator : String) (batch : Batch) (batches : List Batch) :
    messagesTo operator (batch :: batches) =
      (if batch.operator = operator then batch.messages else []) ++ messagesTo operator batches := by
  rw [messagesTo, List.filter_cons]
  by_cases hown : batch.operator = operator
  · rw [if_pos (beq_iff_eq.mpr hown), if_pos hown]
    rfl
  · rw [if_neg fun h => hown (beq_iff_eq.mp h), if_neg hown]
    rfl

namespace Desk

variable {site : Site} {operator : String}

/-! ## Batches where one operator is registered -/

theorem takeBatch_of_unknown {d : Desk} {t : Tally} {batch : Batch}
    (h : d.store.boards.get? batch.operator = none) :
    takeBatch site (d, t) batch = (d, { t with failures := t.failures + 1 }) := by
  rw [takeBatch, hear, handle?_of_get?_none h]

/-- **What batches do to a desk at which one operator is registered**, where nothing is refused. -/
theorem foldl_takeBatch (reliable : site.Reliable) (operator : String) (batches : List Batch) :
    ∀ {d : Desk} {board : Board} {t : Tally}, d.store.boards.get? operator = some board →
      (∀ other, other ≠ operator → d.store.boards.get? other = none) →
      batches.foldl (takeBatch site) (d, t) =
        (d.leave operator (board.applyAll (messagesTo operator batches))
          ((board.log operator (site.roster operator) (messagesTo operator batches)).map
            (.delivered d.settings.messageType)),
        { t with
          batches := t.batches + batches.countP (·.operator == operator)
          failures := t.failures + batches.countP (·.operator != operator) }) := by
  induction batches with
  | nil =>
    intro d board t h _
    show (d, t) = (d.leave operator board [], t)
    rw [leave_self h]
  | cons batch batches ih =>
    intro d board t h hothers
    rw [List.foldl_cons, List.countP_cons, List.countP_cons, messagesTo_cons]
    by_cases hown : batch.operator = operator
    · subst hown
      have htake : takeBatch site (d, t) batch =
          (d.leave batch.operator (board.applyAll batch.messages)
            ((board.log batch.operator (site.roster batch.operator) batch.messages).map
              (.delivered d.settings.messageType)), { t with batches := t.batches + 1 }) := by
        rw [takeBatch, hear_of_reliable reliable h]
      -- the rest is heard on the board that this batch leaves
      have hnext : (d.leave batch.operator (board.applyAll batch.messages)
          ((board.log batch.operator (site.roster batch.operator) batch.messages).map
            (.delivered d.settings.messageType))).store.boards.get? batch.operator
          = some (board.applyAll batch.messages) := by
        rw [get?_leave, if_pos rfl]
      have hothers' : ∀ other, other ≠ batch.operator →
          (d.leave batch.operator (board.applyAll batch.messages)
            ((board.log batch.operator (site.roster batch.operator) batch.messages).map
              (.delivered d.settings.messageType))).store.boards.get? other = none := by
        intro other hne
        rw [get?_leave, if_neg hne]
        exact hothers other hne
      rw [htake, ih hnext hothers', if_pos rfl, Board.applyAll_append, Board.log_append,
        List.map_append, leave_leave, settings_leave]
      simp [Nat.add_assoc, Nat.add_comm 1]
    · rw [takeBatch_of_unknown (hothers batch.operator hown), ih h hothers, if_neg hown,
        List.nil_append]
      simp [hown, Nat.add_assoc, Nat.add_comm 1]

/-- Where nobody is registered, all batches fail. -/
theorem fst_foldl_takeBatch (site : Site) {d : Desk} (h : ∀ other, d.store.boards.get? other = none)
    (batches : List Batch) : ∀ t : Tally, (batches.foldl (takeBatch site) (d, t)).1 = d := by
  induction batches with
  | nil => exact fun t => rfl
  | cons batch batches ih =>
    intro t
    rw [List.foldl_cons, takeBatch_of_unknown (h batch.operator)]
    exact ih _

/-! ## The whole loop -/

/-- An announcement and some batches, all ready at once, are taken one after the other. -/
theorem run_ofList (d : Desk) (site : Site) (operator : Descriptor) (batches : List Batch) :
    d.run (.const site) ⟨.ofList [operator], [], .ofList batches⟩ =
      batches.foldl (takeBatch site) (takeAnnouncement (d, {}) operator) := by
  have hrounds : Rounds (.const site) ⟨.ofList [operator], [], .ofList batches⟩ (d, {})
      (Feeds.schedule ⟨.ofList [operator], [], .ofList batches⟩)
      (d.run (.const site) ⟨.ofList [operator], [], .ofList batches⟩) := rounds_iff.mpr ⟨rfl, rfl⟩
  have hschedule : Feeds.schedule ⟨.ofList [operator], [], .ofList batches⟩
      = .announcement operator :: batches.map .batch :=
    Feeds.schedule_ofList [operator] [] batches
  rw [hrounds.eq_takeItems, takeItems_const, hschedule, List.foldl_cons, List.foldl_map]
  rfl

theorem get?_ofSettings (madeUp : String) (settings : Settings) (operator : String) :
    (ofSettings madeUp settings).store.boards.get? operator = none := by
  rw [ofSettings]
  cases settings.storeMode <;> rfl

/-- A desk at which one operator has been registered, and nothing else has happened. -/
theorem get?_register_ofSettings (madeUp : String) (settings : Settings) (operator other : String) :
    ((ofSettings madeUp settings).register operator).store.boards.get? other =
      if other = operator then some (.empty (ofSettings madeUp settings).store.writer) else none := by
  show ((ofSettings madeUp settings).store.update ⟨operator⟩ id).boards.get? other = _
  rw [Store.get?_update, get?_ofSettings, Store.board, get?_ofSettings]
  rfl

end Desk

namespace Replay

theorem site_reliable (target : Target) : (site target).Reliable := fun _ _ _ => rfl

theorem roster_site (target : Target) : (site target).roster target.operator = target.workers := by
  show ((Table.empty.insert target.operator target.workers).get? target.operator).getD [] = _
  rw [Table.get?_insert, if_pos rfl]
  rfl

/-- The requests of delivered attempts are all of them. -/
theorem requests_delivered (messageType : String) (requests : List Request) :
    ((requests.map (.delivered messageType)).filter Attempt.isDelivered).map (·.request)
      = requests := by
  have hall : (requests.map (Attempt.delivered messageType)).filter Attempt.isDelivered
      = requests.map (.delivered messageType) := by
    refine List.filter_eq_self.mpr fun a ha => ?_
    obtain ⟨request, _, rfl⟩ := List.mem_map.mp ha
    rfl
  rw [hall, List.map_map]
  exact List.map_id requests

variable {settings : Settings} {target : Target}

theorem run_of_not_tracks (madeUp : String) (untracked : settings.tracks target.type = false)
    (batches : List Batch) :
    run madeUp settings target batches = .error (.store (.notInitialized target.operator)) := by
  have hannounce : Desk.takeAnnouncement (Desk.ofSettings madeUp settings, {})
      ⟨target.operator, target.type⟩ = (Desk.ofSettings madeUp settings, {}) := by
    rw [Desk.takeAnnouncement, Desk.announce_of_not_tracks untracked]
    rfl
  have hdesk : ((Desk.ofSettings madeUp settings).run (.const (site target))
      (feeds target batches)).1 = Desk.ofSettings madeUp settings := by
    rw [feeds, Desk.run_ofList, hannounce]
    exact Desk.fst_foldl_takeBatch _ (Desk.get?_ofSettings madeUp settings) batches {}
  show (Desk.handle? ((Desk.ofSettings madeUp settings).run (.const (site target))
    (feeds target batches)).1 target.operator).map _ = _
  rw [hdesk, Desk.handle?_of_get?_none (Desk.get?_ofSettings madeUp settings target.operator)]
  rfl

/-- The loop of a replay of a tracked target. -/
theorem run_desk_of_tracks (madeUp : String) (tracked : settings.tracks target.type = true)
    (batches : List Batch) :
    (Desk.ofSettings madeUp settings).run (.const (site target)) (feeds target batches) =
      (((Desk.ofSettings madeUp settings).register target.operator).leave target.operator
        ((Board.empty (Desk.ofSettings madeUp settings).store.writer).applyAll
          (messagesTo target.operator batches))
        (((Board.empty (Desk.ofSettings madeUp settings).store.writer).log target.operator
          target.workers (messagesTo target.operator batches)).map
            (.delivered settings.messageType)),
      { registered := 1
        batches := batches.countP (·.operator == target.operator)
        failures := batches.countP (·.operator != target.operator) }) := by
  have hannounce : Desk.takeAnnouncement (Desk.ofSettings madeUp settings, {})
      ⟨target.operator, target.type⟩
        = ((Desk.ofSettings madeUp settings).register target.operator, { registered := 1 }) := by
    rw [Desk.takeAnnouncement, Desk.announce_of_tracks tracked]
    rfl
  have hget := Desk.get?_register_ofSettings madeUp settings target.operator
  rw [feeds, Desk.run_ofList, hannounce, Desk.foldl_takeBatch (site_reliable target)
    target.operator batches ((hget target.operator).trans (if_pos rfl))
    fun other hne => (hget other).trans (if_neg hne), roster_site, Nat.zero_add, Nat.zero_add]
  rfl

/-- **A replay of a tracked target is the session of its own messages on an empty board.** -/
theorem run_of_tracks (madeUp : String) (tracked : settings.tracks target.type = true)
    (batches : List Batch) :
    run madeUp settings target batches = .ok {
      requests := (Board.plain .empty).log target.operator target.workers
        (messagesTo target.operator batches)
      breakpoints := ((Board.plain .empty).applyAll (messagesTo target.operator batches)).entries
      tally := {
        registered := 1
        batches := batches.countP (·.operator == target.operator)
        failures := batches.countP (·.operator != target.operator) } } := by
  -- the empty board is of the kind of the store, and without stamps it is the plain one
  have hdominant := Board.dominant_empty (Desk.ofSettings madeUp settings).store.writer
  have hlog := Board.log_unstamped target.operator target.workers
    (messagesTo target.operator batches) hdominant
  have hentries := congrArg Board.entries
    (Board.unstamped_applyAll (messagesTo target.operator batches) hdominant)
  rw [Board.unstamped_empty] at hlog
  rw [Board.entries_unstamped, Board.unstamped_empty] at hentries
  have hboard := (Desk.get?_leave ((Desk.ofSettings madeUp settings).register target.operator)
    target.operator target.operator
    ((Board.empty (Desk.ofSettings madeUp settings).store.writer).applyAll
      (messagesTo target.operator batches))
    (((Board.empty (Desk.ofSettings madeUp settings).store.writer).log target.operator
      target.workers (messagesTo target.operator batches)).map
        (.delivered settings.messageType))).trans (if_pos rfl)
  rw [run, run_desk_of_tracks madeUp tracked]
  simp only [Desk.handle?_of_get? hboard, Except.map, Desk.board_of_get? hboard,
    Desk.attempts_leave]
  rw [hentries]
  have hattempts : ((Desk.ofSettings madeUp settings).register target.operator).attempts = [] := rfl
  rw [hattempts, List.nil_append, requests_delivered, ← hlog]
  rfl

/-- The replay with one more failure counted. -/
def withFailure (r : Replay) : Replay :=
  { r with tally := { r.tally with failures := r.tally.failures + 1 } }

theorem run_insert_foreign (madeUp : String) (settings : Settings) (target : Target)
    {foreign : Batch} (other : foreign.operator ≠ target.operator) (before after : List Batch) :
    run madeUp settings target (before ++ foreign :: after) =
      (run madeUp settings target (before ++ after)).map withFailure := by
  have hmessages : messagesTo target.operator (before ++ foreign :: after)
      = messagesTo target.operator (before ++ after) := by
    simp [messagesTo, other]
  cases htracks : settings.tracks target.type with
  | false => rw [run_of_not_tracks madeUp htracks, run_of_not_tracks madeUp htracks]; rfl
  | true =>
    rw [run_of_tracks madeUp htracks, run_of_tracks madeUp htracks, hmessages]
    simp only [Except.map, withFailure, List.countP_append, List.countP_cons]
    simp [other, Nat.add_assoc]

/-! ## A replay follows its target -/

/-- **A replay follows its target and nothing else.**  If the type of the target is tracked, a
    replay gives the requests and the breakpoints of the target's own messages, heard in order on an
    empty board where nothing is refused; it counts one announcement, the target's batches as heard,
    and all others as failures.  If the type is not tracked, it fails.  Neither the kind of the
    boards nor the type of message makes a difference, and a batch of another operator, wherever it
    stands, makes none but in the count of failures. -/
theorem run_follows_target (madeUp : String) (settings : Settings) (target : Target)
    (batches : List Batch) :
    (settings.tracks target.type = true → run madeUp settings target batches = .ok {
      requests := (Board.plain .empty).log target.operator target.workers
        (messagesTo target.operator batches)
      breakpoints := ((Board.plain .empty).applyAll (messagesTo target.operator batches)).entries
      tally := {
        registered := 1
        cleared := 0
        batches := batches.countP (·.operator == target.operator)
        failures := batches.countP (·.operator != target.operator) } }) ∧
    (settings.tracks target.type = false →
      run madeUp settings target batches = .error (.store (.notInitialized target.operator))) ∧
    (∀ madeUp' settings', settings'.operatorTypes = settings.operatorTypes →
      run madeUp' settings' target batches = run madeUp settings target batches) ∧
    ∀ before foreign after, batches = before ++ foreign :: after →
      foreign.operator ≠ target.operator →
      run madeUp settings target batches =
        (run madeUp settings target (before ++ after)).map withFailure := by
  refine ⟨fun tracked => run_of_tracks madeUp tracked batches,
    fun untracked => run_of_not_tracks madeUp untracked batches, fun madeUp' settings' htypes => ?_,
    ?_⟩
  · have hsame : settings'.tracks target.type = settings.tracks target.type := by
      rw [Settings.tracks, htypes]
      rfl
    cases htracks : settings.tracks target.type with
    | false =>
      rw [run_of_not_tracks madeUp htracks, run_of_not_tracks madeUp' (hsame.trans htracks)]
    | true => rw [run_of_tracks madeUp htracks, run_of_tracks madeUp' (hsame.trans htracks)]
  · rintro before foreign after rfl other
    exact run_insert_foreign madeUp settings target other before after

/-! ## A neighbour between two batches -/

/-- The operator of the sample with two workers. -/
def sampleTarget : Target := ⟨Sample.operator, "PythonUDFV2", ["w1", "w2"]⟩

/-- A confirmation and a stop, and between them a batch of another operator. -/
def interrupted : List Batch :=
  [Sample.created "w1" 1 5, { Sample.paused "w1" 9 with operator := Desk.neighbour },
    Sample.paused "w2" 5]

/-- Behind the confirmation both workers are told to go on, and behind the stop nobody is; the stop
    of the neighbour is on no board.  A desk of plain boards gives the same, and without the batch
    of the neighbour there is one failure less. -/
theorem run_interrupted :
    Desk.replicaSettings.tracks sampleTarget.type = true ∧
      run "" Desk.replicaSettings sampleTarget interrupted = .ok {
        requests := [⟨"PythonUDFV2-operator-1", "w1", "continue"⟩,
          ⟨"PythonUDFV2-operator-1", "w2", "continue"⟩]
        breakpoints := [("5", { id := some 1, hit := true })]
        tally := { registered := 1, batches := 2, failures := 1 } } ∧
      run "" {} sampleTarget interrupted = run "" Desk.replicaSettings sampleTarget interrupted ∧
      run "" Desk.replicaSettings sampleTarget interrupted =
        (run "" Desk.replicaSettings sampleTarget
          [Sample.created "w1" 1 5, Sample.paused "w2" 5]).map withFailure ∧
      run "" {} { sampleTarget with type := "Projection" } interrupted
        = .error (.store (.notInitialized Sample.operator)) := by
  have htracks : Desk.replicaSettings.tracks sampleTarget.type = true := by decide
  obtain ⟨hrun, _, hsame, hforeign⟩ :=
    run_follows_target "" Desk.replicaSettings sampleTarget interrupted
  have huntracked := (run_follows_target "" {} { sampleTarget with type := "Projection" }
    interrupted).2.1 (by decide)
  refine ⟨htracks, (hrun htracks).trans ?_, hsame "" {} rfl,
    hforeign [Sample.created "w1" 1 5] _ [Sample.paused "w2" 5] rfl (by decide), huntracked⟩
  exact congrArg Except.ok (by decide)

end Replay

end DebugDesk
