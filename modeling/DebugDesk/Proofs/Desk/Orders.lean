/-
  What a desk is told to send, and what it sends.

  A call tells the desk to send one command at most, and which one is settled when the call is
  made: by the call itself, or, where a breakpoint is toggled, by what the board knows of the line
  (`Call.order?`).  To how many workers it goes, and whether at all, depends on the board, the
  roster and the transport.  But nothing else is ever sent: every attempt that a call adds carries
  the command that the call ordered (`adds_perform`), also where a batch is cut by a refusal.

  The event loop makes calls of three kinds, of which only a batch orders anything; so all that it
  sends lets workers go on (`adds_run`).
-/
import DebugDesk.Proofs.Desk.Loop
import DebugDesk.Proofs.Desk.Status

namespace DebugDesk

/-- An attempt says a command to a worker of an operator: its request is the one that carries the
    command there. -/
def Attempt.Says (a : Attempt) (operator : String) (command : Command) : Prop :=
  a.request = Request.ofCommand operator a.request.worker command

/-- Sending adds attempts at some of the requests, and nothing else. -/
theorem Transport.exists_sent_sendAll (t : Transport) (messageType : String)
    (requests : List Request) : ∀ past : List Attempt,
      ∃ sent, (t.sendAll messageType past requests).1 = past ++ sent ∧
        ∀ a ∈ sent, a.request ∈ requests := by
  induction requests with
  | nil =>
    intro past
    exact ⟨[], (List.append_nil past).symm, fun a ha => absurd ha List.not_mem_nil⟩
  | cons request requests ih =>
    intro past
    rw [sendAll, send]
    cases t past messageType request with
    | some e =>
      refine ⟨[⟨messageType, request, some e⟩], rfl, ?_⟩
      intro a ha
      rw [List.mem_singleton.mp ha]
      exact List.mem_cons_self
    | none =>
      obtain ⟨sent, hsent, hmem⟩ := ih (past ++ [⟨messageType, request, none⟩])
      refine ⟨⟨messageType, request, none⟩ :: sent, ?_, ?_⟩
      · show (t.sendAll messageType (past ++ [⟨messageType, request, none⟩]) requests).1 = _
        rw [hsent, List.append_assoc]
        rfl
      · intro a ha
        rcases List.mem_cons.mp ha with rfl | ha
        · exact List.mem_cons_self
        · exact List.mem_cons_of_mem request (hmem a ha)

namespace Desk

/-! ## Orders -/

/-- What a call orders: the operator whose workers are told something, and the command. -/
def Call.order? (d : Desk) : Call → Option (String × Command)
  | hear batch => some (batch.operator, .resume)
  | editCondition operator id expression => some (operator, .condition id expression)
  | toggle operator line =>
    let known := (d.store.board ⟨operator⟩).contains (Breakpoint.lineKey line)
    some (operator, if known then .clearAt line else .breakAt line)
  | resume operator _ => some (operator, .resume)
  | stepOver operator _ => some (operator, .next)
  | _ => none

/-- From one desk to another there are new attempts only that are as required. -/
def Adds (P : Attempt → Prop) (d e : Desk) : Prop :=
  ∃ sent, e.attempts = d.attempts ++ sent ∧ ∀ a ∈ sent, P a

variable {P Q : Attempt → Prop} {d e f : Desk} {operator : String} {command : Command}

theorem adds_of_eq (h : e.attempts = d.attempts) : Adds P d e := by
  refine ⟨[], ?_, fun a ha => absurd ha List.not_mem_nil⟩
  rw [h, List.append_nil]

theorem Adds.trans (h : Adds P d e) (h' : Adds P e f) : Adds P d f := by
  obtain ⟨sent, hsent, hP⟩ := h
  obtain ⟨more, hmore, hP'⟩ := h'
  refine ⟨sent ++ more, ?_, ?_⟩
  · rw [hmore, hsent, List.append_assoc]
  · intro a ha
    rcases List.mem_append.mp ha with ha | ha
    · exact hP a ha
    · exact hP' a ha

theorem Adds.mono (h : Adds P d e) (hPQ : ∀ a, P a → Q a) : Adds Q d e := by
  obtain ⟨sent, hsent, hP⟩ := h
  exact ⟨sent, hsent, fun a ha => hPQ a (hP a ha)⟩

theorem Adds.mem (h : Adds P d e) {a : Attempt} (ha : a ∈ e.attempts) : a ∈ d.attempts ∨ P a := by
  obtain ⟨sent, hsent, hP⟩ := h
  rw [hsent] at ha
  rcases List.mem_append.mp ha with ha | ha
  · exact Or.inl ha
  · exact Or.inr (hP a ha)

/-! ## What is sent -/

theorem adds_dispatchAll (d : Desk) (site : Site) (operator : String) (workers : List String)
    (command : Command) :
    Adds (·.Says operator command) d (d.dispatchAll site operator workers command).1 := by
  obtain ⟨sent, hsent, hmem⟩ := site.transport.exists_sent_sendAll d.settings.messageType
    (workers.map (Request.ofCommand operator · command)) d.attempts
  refine ⟨sent, hsent, ?_⟩
  intro a ha
  obtain ⟨worker, _, hrequest⟩ := List.mem_map.mp (hmem a ha)
  rw [Attempt.Says, ← hrequest]
  rfl

theorem adds_resumeIfIdle (d : Desk) (site : Site) (k : Store.Handle) :
    Adds (·.Says k.operator .resume) d (d.resumeIfIdle site k).1 := by
  unfold resumeIfIdle
  split
  · exact adds_of_eq rfl
  · exact adds_dispatchAll d site k.operator _ .resume

/-- **A batch lets workers go on**, and says nothing else to them, up to its end or its cut. -/
theorem adds_hearAll (site : Site) (k : Store.Handle) (messages : List Message) :
    ∀ d : Desk, Adds (·.Says k.operator .resume) d (hearAll site k d messages).1 := by
  induction messages with
  | nil => exact fun d => adds_of_eq rfl
  | cons m messages ih =>
    intro d
    have hupdate : Adds (·.Says k.operator .resume) d (d.update k (·.apply m.event)) :=
      adds_of_eq rfl
    have hresume := hupdate.trans (adds_resumeIfIdle (d.update k (·.apply m.event)) site k)
    unfold hearAll
    split
    · rename_i e heq
      rw [heq] at hresume
      exact hresume.trans (ih e)
    · exact hresume

theorem adds_hear (d : Desk) (site : Site) (batch : Batch) :
    Adds (·.Says batch.operator .resume) d (d.hear site batch).1 := by
  unfold hear
  split
  · rename_i k hk
    obtain ⟨_, rfl⟩ := handle?_eq_ok_iff.mp hk
    exact adds_hearAll site _ batch.messages d
  · exact adds_of_eq rfl

theorem adds_editCondition (d : Desk) (site : Site) (operator : String) (id : UInt32)
    (condition : String) : Adds (·.Says operator (.condition id condition)) d
      (d.editCondition site operator id condition).1 := by
  unfold editCondition
  split
  · exact adds_of_eq rfl
  · split
    · exact adds_of_eq rfl
    · split
      · exact adds_of_eq rfl
      · have hsent := adds_dispatchAll d site operator (site.roster operator)
          (.condition id condition)
        split
        · rename_i e heq
          rw [broadcast] at heq
          rw [heq] at hsent
          exact hsent
        · exact hsent

theorem adds_toggle (d : Desk) (site : Site) (operator : String) (line : UInt32) :
    Adds (fun a => ∃ command, (Call.toggle operator line).order? d = some (operator, command) ∧
      a.Says operator command) d (d.toggle site operator line).1 := by
  unfold toggle
  split
  · exact adds_of_eq rfl
  · rename_i k hk
    obtain ⟨_, rfl⟩ := handle?_eq_ok_iff.mp hk
    exact (adds_dispatchAll d site operator _ _).mono fun a ha => ⟨_, rfl, ha⟩

/-- **What a call adds to the log is what it orders.** -/
theorem adds_perform (d : Desk) (site : Site) (call : Call) :
    Adds (fun a => ∃ operator command, call.order? d = some (operator, command) ∧
      a.Says operator command) d (d.perform site call).1 := by
  cases call with
  | register operator => exact adds_of_eq rfl
  | announce operator =>
    show Adds _ d (d.announce operator).1
    unfold announce
    split <;> exact adds_of_eq rfl
  | takeStatus update => exact adds_of_eq (attempts_takeStatus d update)
  | hear batch => exact (adds_hear d site batch).mono fun a ha => ⟨_, _, rfl, ha⟩
  | handle operator => exact adds_of_eq rfl
  | condition operator id => exact adds_of_eq rfl
  | editCondition operator id condition =>
    exact (adds_editCondition d site operator id condition).mono fun a ha => ⟨_, _, rfl, ha⟩
  | toggle operator line =>
    exact (adds_toggle d site operator line).mono fun a ⟨command, horder, ha⟩ =>
      ⟨operator, command, horder, ha⟩
  | resume operator worker =>
    exact (adds_dispatchAll d site operator [worker] .resume).mono fun a ha => ⟨_, _, rfl, ha⟩
  | stepOver operator worker =>
    exact (adds_dispatchAll d site operator [worker] .next).mono fun a ha => ⟨_, _, rfl, ha⟩
  | noteResumed operator =>
    show Adds _ d (d.noteResumed operator).1
    unfold noteResumed
    split <;> exact adds_of_eq rfl
  | direct k op => exact adds_of_eq rfl

/-! ## The event loop -/

/-- A loop plays a session of the items that it takes. -/
theorem exists_run_eq_play (d : Desk) (sites : Sites) (feeds : Feeds) :
    ∃ items, (d.run sites feeds).1 = d.play (turnsOf sites items) := by
  obtain ⟨items, result, h⟩ := exists_rounds feeds sites (d, {})
  refine ⟨items, ?_⟩
  have hresult : d.run sites feeds = takeItems sites (d, {}) items :=
    h.eq_schedule.2.symm.trans h.eq_takeItems
  rw [hresult, takeItems_eq_play]

theorem adds_play_items (items : List Item) : ∀ (sites : Sites) (d : Desk),
    Adds (fun a => ∃ operator, a.Says operator .resume) d (d.play (turnsOf sites items)) := by
  induction items with
  | nil => exact fun sites d => adds_of_eq rfl
  | cons item items ih =>
    intro sites d
    have hturn : Adds (fun a => ∃ operator, a.Says operator .resume) d
        (d.perform (sites 0) item.call).1 := by
      refine (adds_perform d (sites 0) item.call).mono ?_
      rintro a ⟨operator, command, horder, ha⟩
      cases item with
      | announcement _ => nomatch horder
      | update _ => nomatch horder
      | batch batch =>
        injection horder with horder
        injection horder with _ hcommand
        rw [← hcommand] at ha
        exact ⟨operator, ha⟩
    exact hturn.trans (ih sites.later _)

/-- **All that a loop sends lets workers go on.** -/
theorem adds_run (d : Desk) (sites : Sites) (feeds : Feeds) :
    Adds (fun a => ∃ operator, a.Says operator .resume) d (d.run sites feeds).1 := by
  obtain ⟨items, hplay⟩ := exists_run_eq_play d sites feeds
  rw [hplay]
  exact adds_play_items items sites d

end Desk

end DebugDesk
