/-
  What becomes of a console batch.

  A batch changes the board of one operator, message by message, and behind every message that
  leaves nobody standing all workers are told to go on.  Each of these requests may be refused, and
  the first refusal ends the batch.  So what a batch leaves has two sides that could come apart: the
  board, and the requests that were made.

  They do not.  Let the *log* of some messages be what they make the desk send where nothing is
  refused (`Board.log`): behind each message in turn, one request per worker in the order of the
  roster, unless somebody stands on the board as the messages up to this one leave it
  (`Board.applyAll`).  Then a batch either is heard to its end, and its whole log was delivered, or
  it is cut: the log was delivered up to a request that belongs to some message, that request was
  refused, and the board is as the messages up to this one leave it (`hear_cut`).  There is no third
  case, whatever the board, the workers and the transport are, and nobody else's board changes.

  The crux is that the induction over the messages needs no more of the desk than that its operator
  is registered (`heard_hearAll`): the board at the next message is the one that this message leaves,
  and the attempts are those so far with the requests behind this message.
-/
import DebugDesk.Proofs.Desk.Call
import DebugDesk.Sample

namespace DebugDesk

/-! ## What a transport delivers -/

/-- The attempt at a request that was delivered. -/
def Attempt.delivered (messageType : String) (request : Request) : Attempt :=
  ⟨messageType, request, none⟩

/-- The attempt at a request that was refused. -/
def Attempt.refused (messageType : String) (request : Request) (e : TransportError) : Attempt :=
  ⟨messageType, request, some e⟩

namespace Transport

/-- Whether a transport delivers all of some requests, handed to it in order after some attempts. -/
def Delivers (t : Transport) (messageType : String) : List Attempt → List Request → Prop
  | _, [] => True
  | past, request :: requests =>
    t past messageType request = none ∧
      Delivers t messageType (past ++ [.delivered messageType request]) requests

variable {t : Transport} {messageType : String} {past : List Attempt} {requests : List Request}

theorem delivers_append_iff (more : List Request) : ∀ {past : List Attempt},
    t.Delivers messageType past (requests ++ more) ↔
      t.Delivers messageType past requests ∧
        t.Delivers messageType (past ++ requests.map (.delivered messageType)) more := by
  induction requests with
  | nil =>
    intro past
    rw [List.nil_append, List.map_nil, List.append_nil, Delivers, true_and]
  | cons request requests ih =>
    intro past
    rw [List.cons_append, Delivers, Delivers, ih, List.map_cons, List.append_assoc,
      List.singleton_append, and_assoc]

theorem sendAll_of_delivers : ∀ {past : List Attempt}, t.Delivers messageType past requests →
    t.sendAll messageType past requests =
      (past ++ requests.map (.delivered messageType), .ok ()) := by
  induction requests with
  | nil =>
    intro past _
    rw [sendAll_nil, List.map_nil, List.append_nil]
  | cons request requests ih =>
    rintro past ⟨hfirst, hrest⟩
    rw [sendAll, send, hfirst]
    show t.sendAll messageType (past ++ [.delivered messageType request]) requests = _
    rw [ih hrest, List.append_assoc]
    rfl

/-- Sending stops at a request that is refused, and what stands behind it is not tried. -/
theorem sendAll_of_refused {request : Request} {e : TransportError} (after : List Request) :
    ∀ {past : List Attempt}, t.Delivers messageType past requests →
      t (past ++ requests.map (.delivered messageType)) messageType request = some e →
      t.sendAll messageType past (requests ++ request :: after) =
        (past ++ (requests.map (.delivered messageType) ++ [.refused messageType request e]),
          .error e) := by
  induction requests with
  | nil =>
    intro past _ hrefused
    rw [List.map_nil, List.append_nil] at hrefused
    rw [List.nil_append, sendAll, send, hrefused]
    rfl
  | cons first requests ih =>
    rintro past ⟨hfirst, hrest⟩ hrefused
    have hnext : t ((past ++ [.delivered messageType first])
        ++ requests.map (.delivered messageType)) messageType request = some e := by
      rw [List.append_assoc]
      exact hrefused
    rw [List.cons_append, sendAll, send, hfirst]
    show t.sendAll messageType (past ++ [.delivered messageType first]) _ = _
    rw [ih hrest hnext, List.append_assoc]
    rfl

/-- Requests that are not all delivered have a first that is refused. -/
theorem delivers_or_refused (t : Transport) (messageType : String) (requests : List Request) :
    ∀ past : List Attempt, t.Delivers messageType past requests ∨
      ∃ before request after e, requests = before ++ request :: after ∧
        t.Delivers messageType past before ∧
        t (past ++ before.map (.delivered messageType)) messageType request = some e := by
  induction requests with
  | nil => exact fun _ => Or.inl trivial
  | cons first requests ih =>
    intro past
    cases hfirst : t past messageType first with
    | some e =>
      refine Or.inr ⟨[], first, requests, e, rfl, trivial, ?_⟩
      rw [List.map_nil, List.append_nil]
      exact hfirst
    | none =>
      rcases ih (past ++ [.delivered messageType first]) with hall | hcut
      · exact Or.inl ⟨hfirst, hall⟩
      · obtain ⟨before, request, after, e, rfl, hbefore, hrefused⟩ := hcut
        refine Or.inr ⟨first :: before, request, after, e, rfl, ⟨hfirst, hbefore⟩, ?_⟩
        rw [List.append_assoc] at hrefused
        exact hrefused

end Transport

/-! ## The log of some messages -/

namespace Board

/-- The board as some messages leave it. -/
def applyAll (b : Board) (messages : List Message) : Board :=
  messages.foldl (fun b m => b.apply m.event) b

/-- The requests by which the workers of an operator are told to go on; none while there is an entry
    of a line at which somebody stands. -/
def resumptions (b : Board) (operator : String) (workers : List String) : List Request :=
  if ∃ e ∈ b.entries, e.2.hit = true then [] else workers.map (Request.ofCommand operator · .resume)

/-- **What some messages make a desk send where nothing is refused**: behind each message in turn
    the requests for the board as the messages up to this one leave it. -/
def log (b : Board) (operator : String) (workers : List String) (messages : List Message) :
    List Request :=
  (List.range messages.length).flatMap fun i =>
    (b.applyAll (messages.take (i + 1))).resumptions operator workers

theorem log_cons (b : Board) (operator : String) (workers : List String) (m : Message)
    (messages : List Message) :
    b.log operator workers (m :: messages) =
      (b.apply m.event).resumptions operator workers
        ++ (b.apply m.event).log operator workers messages := by
  rw [log, List.length_cons, List.range_succ_eq_map, List.flatMap_cons, List.flatMap_map]
  rfl

theorem applyAll_append (b : Board) (messages more : List Message) :
    b.applyAll (messages ++ more) = (b.applyAll messages).applyAll more :=
  List.foldl_append

theorem log_append (operator : String) (workers : List String) (messages more : List Message) :
    ∀ b : Board, b.log operator workers (messages ++ more) =
      b.log operator workers messages ++ (b.applyAll messages).log operator workers more := by
  induction messages with
  | nil => exact fun b => rfl
  | cons m messages ih =>
    intro b
    rw [List.cons_append, log_cons, log_cons, ih, List.append_assoc]
    rfl

theorem Dominant.applyAll (messages : List Message) : ∀ {b : Board}, b.Dominant →
    (b.applyAll messages).Dominant := by
  induction messages with
  | nil => exact fun h => h
  | cons m messages ih => exact fun h => ih (h.apply m.event)

theorem unstamped_applyAll (messages : List Message) : ∀ {b : Board}, b.Dominant →
    (b.applyAll messages).unstamped = b.unstamped.applyAll messages := by
  induction messages with
  | nil => exact fun _ => rfl
  | cons m messages ih =>
    intro b h
    show ((b.apply m.event).applyAll messages).unstamped = (b.unstamped.apply m.event).applyAll messages
    rw [ih (h.apply m.event), unstamped_apply h]

theorem resumptions_unstamped (b : Board) (operator : String) (workers : List String) :
    b.unstamped.resumptions operator workers = b.resumptions operator workers := by
  simp only [resumptions, entries_unstamped]

/-- Forgetting stamps does not change what messages make a desk send. -/
theorem log_unstamped (operator : String) (workers : List String) (messages : List Message) :
    ∀ {b : Board}, b.Dominant →
      b.unstamped.log operator workers messages = b.log operator workers messages := by
  induction messages with
  | nil => exact fun _ => rfl
  | cons m messages ih =>
    intro b h
    rw [log_cons, log_cons, ← unstamped_apply h, resumptions_unstamped, ih (h.apply m.event)]

end Board

/-! ## Changing a board twice -/

namespace Store

theorem update_update (s : Store) (h : Handle) (f g : Board → Board) :
    (s.update h f).update h g = s.update h fun b => g (f b) := by
  have hboards : ((s.update h f).update h g).boards = (s.update h fun b => g (f b)).boards := by
    apply Table.ext_get?
    intro operator
    rw [get?_update, get?_update, get?_update, board_update_self]
    split <;> rfl
  show (⟨s.writer, ((s.update h f).update h g).boards⟩ : Store) = _
  rw [hboards]
  rfl

/-- Putting a registered operator's board where it is changes nothing. -/
theorem update_board {s : Store} {h : Handle} {board : Board}
    (hget : s.boards.get? h.operator = some board) : (s.update h fun _ => board) = s := by
  have hboards : (s.update h fun _ => board).boards = s.boards := by
    apply Table.ext_get?
    intro operator
    rw [get?_update]
    split
    · rename_i hop
      rw [hop, hget]
    · rfl
  show (⟨s.writer, (s.update h fun _ => board).boards⟩ : Store) = ⟨s.writer, s.boards⟩
  rw [hboards]

end Store

namespace Desk

/-- The desk with a board put in the place of an operator's, and with some more attempts. -/
def leave (d : Desk) (operator : String) (board : Board) (attempts : List Attempt) : Desk :=
  { d with store := d.store.update ⟨operator⟩ fun _ => board, attempts := d.attempts ++ attempts }

variable {d : Desk} {operator : String}

@[simp] theorem settings_leave (d : Desk) (operator : String) (board : Board)
    (attempts : List Attempt) : (d.leave operator board attempts).settings = d.settings := rfl

@[simp] theorem attempts_leave (d : Desk) (operator : String) (board : Board)
    (attempts : List Attempt) :
    (d.leave operator board attempts).attempts = d.attempts ++ attempts := rfl

theorem leave_leave (d : Desk) (operator : String) (board board' : Board)
    (attempts attempts' : List Attempt) :
    (d.leave operator board attempts).leave operator board' attempts' =
      d.leave operator board' (attempts ++ attempts') := by
  show (⟨d.settings, (d.store.update ⟨operator⟩ fun _ => board).update ⟨operator⟩ fun _ => board',
    (d.attempts ++ attempts) ++ attempts'⟩ : Desk) = _
  rw [Store.update_update, List.append_assoc]
  rfl

theorem leave_self {board : Board} (h : d.store.boards.get? operator = some board) :
    d.leave operator board [] = d := by
  show (⟨d.settings, d.store.update ⟨operator⟩ fun _ => board, d.attempts ++ []⟩ : Desk) = d
  rw [Store.update_board h, List.append_nil]

theorem get?_leave (d : Desk) (operator other : String) (board : Board) (attempts : List Attempt) :
    (d.leave operator board attempts).store.boards.get? other =
      if other = operator then some board else d.store.boards.get? other :=
  Store.get?_update d.store ⟨operator⟩ _ other

/-! ## One message -/

theorem resumeIfIdle_eq (d : Desk) (site : Site) (k : Store.Handle) :
    d.resumeIfIdle site k =
      let (attempts, answer) := site.transport.sendAll d.settings.messageType d.attempts
        ((d.store.board k).resumptions k.operator (site.roster k.operator))
      ({ d with attempts }, answer.mapError .transport) := by
  unfold resumeIfIdle Board.resumptions
  simp only [Board.anyHit_iff]
  split <;> rfl

section Registered

variable {board : Board} (h : d.store.boards.get? operator = some board) (site : Site) (m : Message)

include h

/-- The board behind a message, and the requests for it. -/
theorem resumeIfIdle_update_eq :
    (d.update ⟨operator⟩ (·.apply m.event)).resumeIfIdle site ⟨operator⟩ =
      let (attempts, answer) := site.transport.sendAll d.settings.messageType d.attempts
        ((board.apply m.event).resumptions operator (site.roster operator))
      ({ d with store := d.store.update ⟨operator⟩ fun _ => board.apply m.event, attempts },
        answer.mapError .transport) := by
  have hboard : d.store.board ⟨operator⟩ = board := board_of_get? h
  have hstore : d.store.update ⟨operator⟩ (·.apply m.event)
      = d.store.update ⟨operator⟩ fun _ => board.apply m.event := by
    rw [Store.update, Store.update, hboard]
  rw [resumeIfIdle_eq, update, Store.board_update_self, hboard, hstore]

theorem hearAll_cons_of_delivers (messages : List Message)
    (hall : site.transport.Delivers d.settings.messageType d.attempts
      ((board.apply m.event).resumptions operator (site.roster operator))) :
    hearAll site ⟨operator⟩ d (m :: messages) =
      hearAll site ⟨operator⟩ (d.leave operator (board.apply m.event)
        (((board.apply m.event).resumptions operator (site.roster operator)).map
          (.delivered d.settings.messageType))) messages := by
  rw [hearAll, resumeIfIdle_update_eq h, Transport.sendAll_of_delivers hall]
  rfl

theorem hearAll_cons_of_refused (messages : List Message) {before after : List Request}
    {request : Request} {e : TransportError}
    (hsplit : (board.apply m.event).resumptions operator (site.roster operator)
      = before ++ request :: after)
    (hbefore : site.transport.Delivers d.settings.messageType d.attempts before)
    (hrefused : site.transport (d.attempts ++ before.map (.delivered d.settings.messageType))
      d.settings.messageType request = some e) :
    hearAll site ⟨operator⟩ d (m :: messages) =
      (d.leave operator (board.apply m.event) (before.map (.delivered d.settings.messageType)
        ++ [.refused d.settings.messageType request e]), .error (.transport e)) := by
  rw [hearAll, resumeIfIdle_update_eq h, hsplit,
    Transport.sendAll_of_refused after hbefore hrefused]
  rfl

end Registered

/-! ## All messages -/

/-- **What becomes of some messages** of an operator with a board: they are heard to their end, or
    cut at the first request that is refused. -/
inductive Heard (d : Desk) (site : Site) (operator : String) (board : Board)
    (messages : List Message) : Desk × Except DeskError Unit → Prop where
  /-- The whole log was delivered. -/
  | all
    (delivered : site.transport.Delivers d.settings.messageType d.attempts
      (board.log operator (site.roster operator) messages)) :
    Heard d site operator board messages
      (d.leave operator (board.applyAll messages)
        ((board.log operator (site.roster operator) messages).map
          (.delivered d.settings.messageType)), .ok ())
  /-- The log was delivered up to a request behind message number `i`, and that one was refused. -/
  | cut (i : Nat) (before after rest : List Request) (request : Request) (e : TransportError)
    (number : i < messages.length)
    (behind : (board.applyAll (messages.take (i + 1))).resumptions operator (site.roster operator)
      = before ++ request :: after)
    (upTo : board.log operator (site.roster operator) messages =
      (board.log operator (site.roster operator) (messages.take i) ++ before) ++ request :: rest)
    (delivered : site.transport.Delivers d.settings.messageType d.attempts
      (board.log operator (site.roster operator) (messages.take i) ++ before))
    (refused : site.transport
      (d.attempts ++ (board.log operator (site.roster operator) (messages.take i) ++ before).map
        (.delivered d.settings.messageType)) d.settings.messageType request = some e) :
    Heard d site operator board messages
      (d.leave operator (board.applyAll (messages.take (i + 1)))
        ((board.log operator (site.roster operator) (messages.take i) ++ before).map
          (.delivered d.settings.messageType)
          ++ [.refused d.settings.messageType request e]), .error (.transport e))

section Step

variable {board : Board} {site : Site} {m : Message} {messages : List Message}

/-- What becomes of the messages behind one that was taken, becomes of all of them. -/
theorem Heard.cons {result : Desk × Except DeskError Unit}
    (hfirst : site.transport.Delivers d.settings.messageType d.attempts
      ((board.apply m.event).resumptions operator (site.roster operator)))
    (h : Heard (d.leave operator (board.apply m.event)
        (((board.apply m.event).resumptions operator (site.roster operator)).map
          (.delivered d.settings.messageType)))
      site operator (board.apply m.event) messages result) :
    Heard d site operator board (m :: messages) result := by
  cases h with
  | all delivered =>
    rw [settings_leave, attempts_leave] at delivered
    rw [settings_leave, leave_leave, ← List.map_append, ← Board.log_cons]
    refine .all ?_
    rw [Board.log_cons]
    exact (Transport.delivers_append_iff _).mpr ⟨hfirst, delivered⟩
  | cut i before after rest request e number behind upTo delivered refused =>
    rw [settings_leave, attempts_leave] at delivered refused
    have htake : board.log operator (site.roster operator) ((m :: messages).take (i + 1)) ++ before
        = (board.apply m.event).resumptions operator (site.roster operator) ++
          ((board.apply m.event).log operator (site.roster operator) (messages.take i)
            ++ before) := by
      rw [List.take_succ_cons, Board.log_cons, List.append_assoc]
    rw [settings_leave, leave_leave, ← List.append_assoc, ← List.map_append, ← htake]
    refine .cut (i + 1) before after rest request e (Nat.succ_lt_succ number) behind ?_ ?_ ?_
    · rw [Board.log_cons, upTo, htake]
      exact (List.append_assoc _ _ _).symm
    · rw [htake]
      exact (Transport.delivers_append_iff _).mpr ⟨hfirst, delivered⟩
    · rw [htake, List.map_append, ← List.append_assoc]
      exact refused

end Step

/-- **Messages are heard to their end, or cut at the first refusal.** -/
theorem heard_hearAll (site : Site) (operator : String) (messages : List Message) :
    ∀ {d : Desk} {board : Board}, d.store.boards.get? operator = some board →
      Heard d site operator board messages (hearAll site ⟨operator⟩ d messages) := by
  induction messages with
  | nil =>
    intro d board h
    have hall : Heard d site operator board [] (d.leave operator board [], .ok ()) := .all trivial
    rw [leave_self h] at hall
    exact hall
  | cons m messages ih =>
    intro d board h
    rcases Transport.delivers_or_refused site.transport d.settings.messageType
      ((board.apply m.event).resumptions operator (site.roster operator)) d.attempts with
      hfirst | ⟨before, request, after, e, hsplit, hbefore, hrefused⟩
    · -- the board that the rest is heard on is the one that this message leaves
      rw [hearAll_cons_of_delivers h site m messages hfirst]
      refine Heard.cons hfirst (ih ?_)
      rw [get?_leave, if_pos rfl]
    · rw [hearAll_cons_of_refused h site m messages hsplit hbefore hrefused]
      refine .cut 0 before after
        (after ++ (board.apply m.event).log operator (site.roster operator) messages) request e
        (Nat.succ_pos _) hsplit ?_ hbefore hrefused
      rw [Board.log_cons, hsplit, List.append_assoc]
      rfl

/-! ## Whole batches -/

theorem handle?_of_get?_none (h : d.store.boards.get? operator = none) :
    d.handle? operator = .error (.store (.notInitialized operator)) := by
  have hcontains : ¬ d.store.contains operator = true := by
    rw [Store.contains, Table.contains, h]
    exact Bool.false_ne_true
  rw [handle?, Store.handle?, if_neg hcontains]
  rfl

theorem Heard.get?_of_ne {site : Site} {board : Board} {messages : List Message}
    {result : Desk × Except DeskError Unit} (h : Heard d site operator board messages result)
    {other : String} (hne : other ≠ operator) :
    result.1.store.boards.get? other = d.store.boards.get? other := by
  cases h with
  | all => rw [get?_leave, if_neg hne]
  | cut => rw [get?_leave, if_neg hne]

theorem heard_hear (site : Site) (batch : Batch) {board : Board}
    (h : d.store.boards.get? batch.operator = some board) :
    Heard d site batch.operator board batch.messages (d.hear site batch) := by
  rw [hear, handle?_of_get? h]
  exact heard_hearAll site batch.operator batch.messages h

/-- **A batch is heard message by message, and a refusal cuts it at a message boundary.**  On
    whatever board, for whatever workers and over whatever transport, a batch of a registered
    operator is heard to its end, or it leaves the board as the messages up to the refused one do,
    and exactly the requests up to the refused one were made.  A batch of an operator that was never
    registered fails and changes nothing, and no batch changes the board of another operator. -/
theorem hear_cut (d : Desk) (site : Site) (batch : Batch) :
    (∀ board, d.store.boards.get? batch.operator = some board →
      Heard d site batch.operator board batch.messages (d.hear site batch)) ∧
    (d.store.boards.get? batch.operator = none →
      d.hear site batch = (d, .error (.store (.notInitialized batch.operator)))) ∧
    ∀ other, other ≠ batch.operator →
      (d.hear site batch).1.store.boards.get? other = d.store.boards.get? other := by
  have hregistered : ∀ board, d.store.boards.get? batch.operator = some board →
      Heard d site batch.operator board batch.messages (d.hear site batch) :=
    fun _ h => heard_hear site batch h
  have hunknown : d.store.boards.get? batch.operator = none →
      d.hear site batch = (d, .error (.store (.notInitialized batch.operator))) := by
    intro h
    rw [hear, handle?_of_get?_none h]
  refine ⟨hregistered, hunknown, fun other hne => ?_⟩
  cases hget : d.store.boards.get? batch.operator with
  | none => rw [hunknown hget]
  | some board => exact (hregistered board hget).get?_of_ne hne

/-! ## The second worker is gone -/

/-- Two workers, of which the second is gone. -/
def secondGone : Site := ⟨.const ["w1", "w2"], .rejecting ["w2"] .reliable⟩

/-- A stop, a confirmation of its line, and a stop that nobody hears of any more. -/
def stopConfirmed : Batch :=
  ⟨Sample.operator, (Sample.paused "w1" 8).messages ++ (Sample.created "w2" 1 8).messages ++
    (Sample.paused "w1" 9).messages⟩

/-- Behind the stop nobody is told anything.  Behind the confirmation, which takes the mark away, the
    first worker is told to go on and the second cannot be, and the board is left without the second
    stop. -/
theorem hear_cut_secondGone :
    ((ofSettings "" {}).register Sample.operator).store.boards.get? stopConfirmed.operator
        = some (.plain .empty) ∧
      ((Board.plain .empty).applyAll (stopConfirmed.messages.take 1)).entries
        = [("8", ⟨none, "", true⟩)] ∧
      (Board.plain .empty).log Sample.operator ["w1", "w2"] (stopConfirmed.messages.take 1) = [] ∧
      Heard ((ofSettings "" {}).register Sample.operator) secondGone stopConfirmed.operator
        (.plain .empty) stopConfirmed.messages
        (((ofSettings "" {}).register Sample.operator).hear secondGone stopConfirmed) ∧
      (((ofSettings "" {}).register Sample.operator).hear secondGone stopConfirmed).1.listing
        = [(Sample.operator, [("8", .confirmed 1)])] ∧
      (((ofSettings "" {}).register Sample.operator).hear secondGone stopConfirmed).1.attempts
        = [.delivered "DebugCommandRequest" ⟨"PythonUDFV2-operator-1", "w1", "continue"⟩,
           .refused "DebugCommandRequest" ⟨"PythonUDFV2-operator-1", "w2", "continue"⟩
             (.rejected "w2 gone")] := by
  have hget : ((ofSettings "" {}).register Sample.operator).store.boards.get?
      stopConfirmed.operator = some (.plain .empty) := by decide
  exact ⟨hget, by decide, by decide, (hear_cut _ secondGone stopConfirmed).1 _ hget, by decide,
    by decide⟩

end Desk

end DebugDesk
