/-
  Operators do not meet at a desk.

  A desk follows many operators with one store and one log of attempts, and a status update speaks
  of several operators at once.  Still what becomes of one operator is a matter of what concerns it:
  leave out everything else, and its board, the replies and the requests to its workers are the same
  (`operators_separate`).  So calls about different operators may be interleaved in any way.

  `Desk.only` is what a desk knows and did about one operator.  The crux is that an act about an
  operator is *confined* to it (`Confined`): it commutes with looking at that operator only, is not
  seen by whoever looks at another one, and sends nothing to anybody else's workers.  Confinement is
  proved for the three things that acts are made of, which are reading the desk, changing the
  operator's board and sending to its workers, and for doing one thing after the other; every call
  that is addressed to an operator is put together from these (`confined_perform`).  A status update
  is a row of resets, each confined to an operator of its own.

  Sending is confined only because nothing is refused: a transport that refuses may look at all
  attempts, and so carry over from one operator to another.
-/
import DebugDesk.Proofs.Desk.Delivery
import DebugDesk.Proofs.Desk.Status
import Mathlib.Algebra.Ring.Nat

namespace DebugDesk

/-! ## The part of a table under one key -/

namespace Table

variable {α : Type}

/-- The part of a table under one key. -/
def only (t : Table α) (key : String) : Table α :=
  ⟨t.entries.filter fun e => e.1 == key, t.ascending.filter _⟩

theorem get?_only (t : Table α) (key other : String) :
    (t.only key).get? other = if other = key then t.get? key else none := by
  apply Option.ext
  intro value
  rw [← mem_entries_iff, only, List.mem_filter, mem_entries_iff]
  by_cases hk : other = key
  · subst hk
    simp
  · simp [hk]

theorem only_insert_self (t : Table α) (key : String) (value : α) :
    (t.insert key value).only key = (t.only key).insert key value := by
  apply ext_get?
  intro other
  rw [get?_only, get?_insert, get?_insert, get?_only]
  split
  · rw [if_pos rfl]
  · rfl

theorem only_insert_of_ne (t : Table α) {key other : String} (hne : other ≠ key) (value : α) :
    (t.insert key value).only other = t.only other := by
  apply ext_get?
  intro k
  rw [get?_only, get?_only, get?_insert, if_neg hne]

/-- Under a key that has an entry there is nothing else. -/
theorem entries_only_of_mem {t : Table α} {e : String × α} (h : e ∈ t.entries) :
    (t.only e.1).entries = [e] := by
  have hsingle : t.only e.1 = ⟨[e], List.pairwise_singleton _ e⟩ := by
    apply ext_get?
    intro other
    rw [get?_only, (mem_entries_iff t e.1 e.2).mp h, get?, List.lookup_cons]
    by_cases hk : other = e.1
    · rw [if_pos hk, hk, beq_self_eq_true]
    · rw [if_neg hk, beq_eq_false_iff_ne.mpr hk]
      rfl
  rw [hsingle]

theorem only_eq_empty {t : Table α} {key : String} (h : ¬ t.contains key = true) :
    t.only key = empty := by
  apply ext_get?
  intro other
  rw [get?_only, get?_empty]
  split
  · exact Option.not_isSome_iff_eq_none.mp h
  · rfl

theorem only_only (t : Table α) (key : String) : (t.only key).only key = t.only key := by
  apply ext_get?
  intro other
  rw [get?_only, get?_only, if_pos rfl, get?_only]

end Table

namespace Desk

variable {α β : Type} {operator : String} {site : Site}

/-! ## A desk seen from one operator -/

/-- What a desk knows and did about one operator. -/
def only (d : Desk) (operator : String) : Desk :=
  { settings := d.settings
    store := ⟨d.store.writer, d.store.boards.only operator⟩
    attempts := d.attempts.filter fun a => a.request.operator == operator }

theorem get?_only (d : Desk) (operator : String) :
    (d.only operator).store.boards.get? operator = d.store.boards.get? operator :=
  (Table.get?_only _ _ _).trans (if_pos rfl)

theorem contains_only (d : Desk) (operator : String) :
    (d.only operator).store.contains operator = d.store.contains operator :=
  congrArg Option.isSome (d.get?_only operator)

theorem handle?_only (d : Desk) (operator : String) :
    (d.only operator).handle? operator = d.handle? operator := by
  rw [handle?, handle?, Store.handle?, Store.handle?, contains_only]

theorem board_only (d : Desk) (operator : String) :
    (d.only operator).store.board ⟨operator⟩ = d.store.board ⟨operator⟩ :=
  congrArg (·.getD (.empty d.store.writer)) (d.get?_only operator)

/-! ## Confined acts -/

/-- An act at a desk that concerns one operator and no other. -/
structure Confined (operator : String) (act : Desk → Desk × α) : Prop where
  /-- It does the same where only that operator is seen. -/
  own : ∀ d, act (d.only operator) = ((act d).1.only operator, (act d).2)
  /-- Whoever looks at another operator does not see it. -/
  others : ∀ d other, other ≠ operator → (act d).1.only other = d.only other
  /-- It sends to nobody else's workers. -/
  sends : ∀ d, ∃ sent, (act d).1.attempts = d.attempts ++ sent ∧
    ∀ a ∈ sent, a.request.operator = operator

namespace Confined

variable {act : Desk → Desk × α}

/-- Reading is confined if it answers the same where only the operator is seen. -/
theorem read {f : Desk → α} (h : ∀ d : Desk, f (d.only operator) = f d) :
    Confined operator fun d => (d, f d) where
  own d := by rw [h]
  others _ _ _ := rfl
  sends d := ⟨[], (List.append_nil d.attempts).symm, List.forall_mem_nil _⟩

/-- Answering without looking is confined. -/
theorem answer (operator : String) (a : α) : Confined operator fun d => (d, a) :=
  .read fun _ => rfl

/-- An act that is chosen by what is seen of the operator is confined, if whatever is chosen is. -/
theorem of_choice (h : ∀ d, ∃ chosen : Desk → Desk × α, Confined operator chosen ∧
    act d = chosen d ∧ act (d.only operator) = chosen (d.only operator)) :
    Confined operator act where
  own d := by
    obtain ⟨chosen, hchosen, hd, honly⟩ := h d
    rw [hd, honly]
    exact hchosen.own d
  others d := by
    obtain ⟨chosen, hchosen, hd, _⟩ := h d
    rw [hd]
    exact hchosen.others d
  sends d := by
    obtain ⟨chosen, hchosen, hd, _⟩ := h d
    rw [hd]
    exact hchosen.sends d

/-- Passing the answer on does not matter. -/
theorem map (h : Confined operator act) (f : α → β) :
    Confined operator fun d => ((act d).1, f (act d).2) where
  own d := by rw [h.own d]
  others := h.others
  sends := h.sends

/-- Two confined acts one after the other are one, also where the second depends on the answer. -/
theorem bind (h : Confined operator act) {next : α → Desk → Desk × β}
    (hnext : ∀ a, Confined operator (next a)) :
    Confined operator fun d => next (act d).2 (act d).1 where
  own d := by
    rw [h.own d]
    exact (hnext _).own _
  others d other hne := ((hnext _).others _ other hne).trans (h.others d other hne)
  sends d := by
    obtain ⟨sent, hsent, hto⟩ := h.sends d
    obtain ⟨more, hmore, hto'⟩ := (hnext (act d).2).sends (act d).1
    refine ⟨sent ++ more, by rw [hmore, hsent, List.append_assoc], fun a ha => ?_⟩
    rcases List.mem_append.mp ha with ha | ha
    · exact hto a ha
    · exact hto' a ha

/-- One confined act, and behind it another unless the first failed. -/
theorem andThen {act next : Desk → Desk × Except DeskError Unit} (h : Confined operator act)
    (hnext : Confined operator next) : Confined operator fun d =>
      match act d with
      | (d, .ok ()) => next d
      | stopped => stopped := by
  have hrest : ∀ answer : Except DeskError Unit, Confined operator fun d =>
      match answer with
      | .ok () => next d
      | .error e => (d, .error e) := by
    intro answer
    cases answer with
    | ok => exact hnext
    | error e => exact .answer operator _
  have heq : ∀ result : Desk × Except DeskError Unit,
      (match result with
        | (d, .ok ()) => next d
        | stopped => stopped) =
      match result.2 with
        | .ok () => next result.1
        | .error e => (result.1, .error e) := by
    rintro ⟨d, _ | _⟩ <;> rfl
  simp only [heq]
  exact h.bind hrest

/-- An act for registered operators, which fails and does nothing for others. -/
theorem ifRegistered (act : Store.Handle → Desk → Desk × Except DeskError β)
    (h : Confined operator (act ⟨operator⟩)) : Confined operator fun d =>
      match d.handle? operator with
      | .error e => (d, .error e)
      | .ok k => act k d := by
  refine .of_choice fun d => ?_
  simp only [handle?_only]
  cases hhandle : d.handle? operator with
  | error e => exact ⟨_, .answer operator _, rfl, rfl⟩
  | ok k =>
    obtain rfl := (handle?_eq_ok_iff.mp hhandle).2
    exact ⟨_, h, rfl, rfl⟩

end Confined

/-! ## Reading, changing a board, sending -/

/-- Changing the operator's board is confined. -/
theorem confined_update (operator : String) (f : Board → Board) (a : α) :
    Confined operator fun d => (d.update ⟨operator⟩ f, a) where
  own d := by
    have hboards : ((d.only operator).update ⟨operator⟩ f).store.boards
        = (d.update ⟨operator⟩ f).store.boards.only operator := by
      show (d.store.boards.only operator).insert operator
        (f ((d.only operator).store.board ⟨operator⟩)) = _
      rw [board_only]
      exact (Table.only_insert_self _ _ _).symm
    show ((⟨d.settings, ⟨d.store.writer, ((d.only operator).update ⟨operator⟩ f).store.boards⟩,
      _⟩ : Desk), a) = _
    rw [hboards]
    rfl
  others d other hne := by
    show (⟨d.settings, ⟨d.store.writer, (d.store.boards.insert operator _).only other⟩, _⟩ : Desk)
      = _
    rw [Table.only_insert_of_ne _ hne]
    rfl
  sends d := ⟨[], (List.append_nil d.attempts).symm, List.forall_mem_nil _⟩

/-- Attempts at requests to the operator's workers are confined. -/
theorem confined_attempts (operator : String) (sent : Settings → List Attempt)
    (hto : ∀ settings, ∀ a ∈ sent settings, a.request.operator = operator) (a : α) :
    Confined operator fun d => ({ d with attempts := d.attempts ++ sent d.settings }, a) where
  own d := by
    have hall : (sent d.settings).filter (fun a => a.request.operator == operator)
        = sent d.settings :=
      List.filter_eq_self.mpr fun a ha => beq_iff_eq.mpr (hto d.settings a ha)
    show ((⟨d.settings, _, _⟩ : Desk), a) = (⟨d.settings, _, List.filter _ (_ ++ _)⟩, a)
    rw [List.filter_append, hall]
    rfl
  others d other hne := by
    have hnone : (sent d.settings).filter (fun a => a.request.operator == other) = [] :=
      List.filter_eq_nil_iff.mpr fun a ha h =>
        hne ((beq_iff_eq.mp h).symm.trans (hto d.settings a ha))
    show (⟨d.settings, _, List.filter _ (_ ++ _)⟩ : Desk) = _
    rw [List.filter_append, hnone, List.append_nil]
    rfl
  sends d := ⟨sent d.settings, rfl, hto d.settings⟩

section Reliable

variable (reliable : site.Reliable)

include reliable

theorem confined_dispatchAll (operator : String) (workers : List String) (command : Command) :
    Confined operator fun d => d.dispatchAll site operator workers command := by
  simp only [dispatchAll_of_reliable reliable]
  refine confined_attempts operator (told operator workers command) (fun settings a ha => ?_) _
  obtain ⟨worker, _, rfl⟩ := List.mem_map.mp ha
  rfl

/-! ## The calls that are addressed to one operator -/

theorem confined_resumeIfIdle (operator : String) :
    Confined operator fun d => d.resumeIfIdle site ⟨operator⟩ := by
  refine .of_choice fun d => ?_
  simp only [resumeIfIdle, board_only]
  split
  · exact ⟨_, .answer operator _, rfl, rfl⟩
  · exact ⟨_, confined_dispatchAll reliable operator (site.roster operator) .resume, rfl, rfl⟩

theorem confined_hearAll (operator : String) (messages : List Message) :
    Confined operator fun d => hearAll site ⟨operator⟩ d messages := by
  induction messages with
  | nil => exact .answer operator _
  | cons m messages ih =>
    have hfirst : Confined operator fun d =>
        (d.update ⟨operator⟩ (·.apply m.event)).resumeIfIdle site ⟨operator⟩ :=
      (confined_update operator (·.apply m.event) ()).bind
        fun _ => confined_resumeIfIdle reliable operator
    -- hearing the messages is hearing the first and then, unless it was refused, the others
    exact hfirst.andThen ih

/-- **Where nothing is refused, a batch of a registered operator is heard to its end**, and all of
    its log is delivered. -/
theorem hear_of_reliable {d : Desk} {board : Board} {batch : Batch}
    (h : d.store.boards.get? batch.operator = some board) :
    d.hear site batch =
      (d.leave batch.operator (board.applyAll batch.messages)
        ((board.log batch.operator (site.roster batch.operator) batch.messages).map
          (.delivered d.settings.messageType)), .ok ()) := by
  have hheard := heard_hear site batch h
  generalize d.hear site batch = result at hheard ⊢
  cases hheard with
  | all => rfl
  | cut i before after rest request e _ _ _ _ refused =>
    rw [reliable] at refused
    cases refused

theorem confined_hear (batch : Batch) : Confined batch.operator fun d => d.hear site batch := by
  have hsame : (fun d : Desk => d.hear site batch) = fun d =>
      match d.handle? batch.operator with
      | .error e => (d, .error e)
      | .ok k => hearAll site k d batch.messages := by
    funext d
    rw [hear]
    cases d.handle? batch.operator <;> rfl
  rw [hsame]
  exact .ifRegistered (fun k d => hearAll site k d batch.messages)
    (confined_hearAll reliable batch.operator batch.messages)

theorem confined_toggle (operator : String) (line : UInt32) :
    Confined operator fun d => d.toggle site operator line := by
  refine .ifRegistered _ (.of_choice fun d => ?_)
  simp only [board_only]
  exact ⟨_, confined_dispatchAll reliable operator (site.roster operator) _, rfl, rfl⟩

theorem confined_editCondition (operator : String) (id : UInt32) (condition : String) :
    Confined operator fun d => d.editCondition site operator id condition := by
  refine .ifRegistered _ (.of_choice fun d => ?_)
  simp only [board_only]
  split
  · exact ⟨_, .answer operator _, rfl, rfl⟩
  · rename_i key x _
    split
    · exact ⟨_, .answer operator _, rfl, rfl⟩
    · exact ⟨_, (confined_dispatchAll reliable operator (site.roster operator) _).andThen
        (confined_update operator (·.set key (x.withCondition condition)) _), rfl, rfl⟩

end Reliable

theorem confined_register (operator : String) (a : α) :
    Confined operator fun d => (d.register operator, a) :=
  confined_update operator id a

theorem confined_announce (operator : Descriptor) :
    Confined operator.operator fun d => d.announce operator := by
  refine .of_choice fun d => ?_
  cases htracks : d.settings.tracks operator.type with
  | true =>
    exact ⟨_, confined_register operator.operator true, if_pos htracks, if_pos htracks⟩
  | false =>
    have hnot : ¬ d.settings.tracks operator.type = true := by
      rw [htracks]
      exact Bool.false_ne_true
    exact ⟨_, .answer operator.operator false, if_neg hnot, if_neg hnot⟩

theorem confined_noteResumed (operator : String) :
    Confined operator fun d => d.noteResumed operator :=
  .ifRegistered _ (confined_update operator Board.releaseAll _)

theorem condition?_only (d : Desk) (operator : String) (id : UInt32) :
    (d.only operator).condition? operator id = d.condition? operator id := by
  rw [condition?, condition?, handle?_only]
  cases hhandle : d.handle? operator with
  | error e => rfl
  | ok k =>
    obtain rfl := (handle?_eq_ok_iff.mp hhandle).2
    simp only [Except.map, board_only]

theorem confined_direct (k : Store.Handle) (op : Board.Operation) :
    Confined k.operator fun d =>
      (d.update k fun b => (b.perform op).1, Reply.board ((d.store.board k).perform op).2) := by
  obtain ⟨operator⟩ := k
  refine .of_choice fun d => ?_
  simp only [board_only]
  exact ⟨_, confined_update operator _ _, rfl, rfl⟩

/-- The operator that a call is addressed to.  A status update is addressed to none. -/
def Call.operator? : Call → Option String
  | register operator => some operator
  | announce operator => some operator.operator
  | takeStatus _ => none
  | hear batch => some batch.operator
  | handle operator => some operator
  | condition operator _ => some operator
  | editCondition operator _ _ => some operator
  | toggle operator _ => some operator
  | resume operator _ => some operator
  | stepOver operator _ => some operator
  | noteResumed operator => some operator
  | direct k _ => some k.operator

/-- **A call that is addressed to an operator is confined to it**, if nothing is refused. -/
theorem confined_perform (reliable : site.Reliable) {call : Call}
    (addressed : call.operator? = some operator) :
    Confined operator fun d => d.perform site call := by
  cases call with
  | register operator =>
    cases addressed
    exact confined_register operator _
  | announce operator =>
    cases addressed
    exact (confined_announce operator).map _
  | takeStatus update => nomatch addressed
  | hear batch =>
    cases addressed
    exact (confined_hear reliable batch).map _
  | handle operator =>
    cases addressed
    exact .read fun d => by rw [handle?_only]
  | condition operator id =>
    cases addressed
    exact .read fun d => by rw [condition?_only]
  | editCondition operator id condition =>
    cases addressed
    exact (confined_editCondition reliable operator id condition).map _
  | toggle operator line =>
    cases addressed
    exact (confined_toggle reliable operator line).map _
  | resume operator worker =>
    cases addressed
    exact (confined_dispatchAll reliable operator [worker] .resume).map _
  | stepOver operator worker =>
    cases addressed
    exact (confined_dispatchAll reliable operator [worker] .next).map _
  | noteResumed operator =>
    cases addressed
    exact (confined_noteResumed operator).map _
  | direct k op =>
    cases addressed
    exact confined_direct k op

/-! ## Status updates -/

theorem resets_only (update : StatusUpdate) (operator : String) :
    StatusUpdate.resets (update.only operator)
      = (StatusUpdate.resets update).filter (· == operator) := by
  rw [StatusUpdate.resets, StatusUpdate.resets, List.filter_map, Table.only, List.filter_filter,
    List.filter_filter]
  refine congrArg _ (List.filter_congr fun e _ => ?_)
  exact Bool.and_comm _ _

theorem confined_resetBoard (operator : String) (n : Nat) :
    Confined operator fun d => resetBoard (d, n) operator := by
  refine .of_choice fun d => ?_
  simp only [resetBoard, contains_only]
  split
  · exact ⟨_, confined_update operator Board.clear _, rfl, rfl⟩
  · exact ⟨_, .answer operator _, rfl, rfl⟩

/-- What is counted does not matter to the desk. -/
theorem fst_resetBoard (d : Desk) (n m : Nat) (operator : String) :
    (resetBoard (d, n) operator).1 = (resetBoard (d, m) operator).1 := by
  unfold resetBoard
  split <;> rfl

/-- Of the operators that are reset, those other than the one looked at do not matter. -/
theorem only_foldl_resetBoard (operator : String) (operators : List String) :
    ∀ (d : Desk) (n m : Nat), (operators.foldl resetBoard (d, n)).1.only operator =
      ((operators.filter (· == operator)).foldl resetBoard (d.only operator, m)).1 := by
  induction operators with
  | nil => exact fun d n m => rfl
  | cons first operators ih =>
    intro d n m
    rw [List.foldl_cons, List.filter_cons]
    -- the count is general because the two sides count different resets
    have hnext := ih (resetBoard (d, n) first).1 (resetBoard (d, n) first).2
    split
    · rename_i heq
      obtain rfl := beq_iff_eq.mp heq
      rw [List.foldl_cons, (confined_resetBoard first m).own, hnext, fst_resetBoard d n m]
    · rename_i hne
      have hother : operator ≠ first := fun heq => hne (beq_iff_eq.mpr heq.symm)
      rw [hnext m, (confined_resetBoard first n).others d operator hother]

theorem only_takeStatus (d : Desk) (update : StatusUpdate) (operator : String) :
    (d.takeStatus update).1.only operator =
      ((d.only operator).takeStatus (update.only operator)).1 := by
  rw [takeStatus_eq, takeStatus_eq, resets_only]
  exact only_foldl_resetBoard operator update.resets d 0 0

theorem length_filter_eq_sum (p : α → Bool) (l : List α) :
    (l.filter p).length = (l.map fun a => (p a).toNat).sum := by
  induction l with
  | nil => rfl
  | cons a l ih =>
    rw [List.filter_cons, List.map_cons, List.sum_cons, ← ih]
    cases p a with
    | false => exact (Nat.zero_add _).symm
    | true => exact Nat.add_comm _ 1

/-- A status update counts one for each operator that it resets and that is registered. -/
theorem count_takeStatus_eq_sum (d : Desk) (update : StatusUpdate) :
    (d.takeStatus update).2 =
      (update.entries.map fun e => (d.store.contains e.1 && e.2.state.isReset).toNat).sum := by
  rw [count_takeStatus, StatusUpdate.resets, List.filter_map, List.length_map, List.filter_filter,
    length_filter_eq_sum]
  rfl

/-- **What a status update counts is the sum of what it counts operator by operator**, each taken
    where only the same operators are registered. -/
theorem count_takeStatus_split (d : Desk) (update : StatusUpdate) (seen : String → Desk)
    (same : ∀ operator, (seen operator).store.contains operator = d.store.contains operator) :
    (d.takeStatus update).2 =
      (update.keys.map fun operator =>
        ((seen operator).takeStatus (update.only operator)).2).sum := by
  rw [count_takeStatus_eq_sum, Table.keys, List.map_map]
  refine congrArg List.sum (List.map_congr_left fun e he => ?_)
  show _ = ((seen e.1).takeStatus (update.only e.1)).2
  rw [count_takeStatus_eq_sum, Table.entries_only_of_mem he, List.map_singleton,
    List.sum_singleton, same]

/-! ## What concerns an operator -/

/-- The part of a call that concerns an operator: all of a call that is addressed to it, and of a
    status update what it says about the operator. -/
def Call.regarding (call : Call) (operator : String) : Option Call :=
  match call with
  | takeStatus update =>
    if update.contains operator then some (takeStatus (update.only operator)) else none
  | call => if call.operator? = some operator then some call else none

/-- **The part of a session that concerns an operator.** -/
def regarding (operator : String) (turns : List Turn) : List Turn :=
  turns.filterMap fun turn => (turn.2.regarding operator).map (turn.1, ·)

theorem regarding_cons (operator : String) (turn : Turn) (turns : List Turn) :
    regarding operator (turn :: turns) =
      match turn.2.regarding operator with
      | some part => (turn.1, part) :: regarding operator turns
      | none => regarding operator turns := by
  rw [regarding, List.filterMap_cons]
  cases turn.2.regarding operator with
  | none => rfl
  | some part => rfl

theorem Call.operator?_eq_none_iff {call : Call} :
    call.operator? = none ↔ ∃ update, call = .takeStatus update := by
  constructor
  · intro h
    cases call with
    | takeStatus update => exact ⟨update, rfl⟩
    | _ => nomatch h
  · rintro ⟨update, rfl⟩
    rfl

theorem Call.regarding_of_addressed {call : Call} {addressee : String}
    (h : call.operator? = some addressee) (operator : String) :
    call.regarding operator = if addressee = operator then some call else none := by
  have hif : call.regarding operator =
      if call.operator? = some operator then some call else none := by
    cases call with
    | takeStatus update => nomatch h
    | _ => rfl
  rw [hif, h]
  simp only [Option.some.injEq]

/-- What concerns an operator concerns it as a whole. -/
theorem Call.regarding_regarding {call part : Call} {operator : String}
    (h : call.regarding operator = some part) : part.regarding operator = some part := by
  cases haddressee : call.operator? with
  | none =>
    obtain ⟨update, rfl⟩ := Call.operator?_eq_none_iff.mp haddressee
    -- the part of an update says something about the operator again, and nothing about others
    simp only [Call.regarding, Option.ite_none_right_eq_some, Option.some.injEq] at h
    obtain ⟨hcontains, rfl⟩ := h
    have hcontains' : (update.only operator).contains operator = true := by
      rw [Table.contains, Table.get?_only, if_pos rfl]
      exact hcontains
    rw [Call.regarding, if_pos hcontains', Table.only_only]
  | some addressee =>
    have hcall := h
    rw [Call.regarding_of_addressed haddressee, Option.ite_none_right_eq_some] at hcall
    obtain rfl := Option.some.inj hcall.2
    exact h

/-- The part that concerns an operator is not addressed to another one. -/
theorem Call.operator?_of_regarding {call part : Call} {operator addressee : String}
    (h : call.regarding operator = some part) (haddressee : part.operator? = some addressee) :
    addressee = operator := by
  have hpart := Call.regarding_regarding h
  rw [Call.regarding_of_addressed haddressee, Option.ite_none_right_eq_some] at hpart
  exact hpart.1

theorem mem_regarding_iff {operator : String} {turns : List Turn} {turn : Turn} :
    turn ∈ regarding operator turns ↔
      ∃ call, (turn.1, call) ∈ turns ∧ call.regarding operator = some turn.2 := by
  rw [regarding, List.mem_filterMap]
  constructor
  · rintro ⟨⟨site, call⟩, hmem, hmap⟩
    obtain ⟨part, hpart, rfl⟩ := Option.map_eq_some_iff.mp hmap
    exact ⟨call, hmem, hpart⟩
  · rintro ⟨call, hmem, hpart⟩
    exact ⟨_, hmem, by rw [hpart]; rfl⟩

theorem regarding_idem (operator : String) (turns : List Turn) :
    regarding operator (regarding operator turns) = regarding operator turns := by
  induction turns with
  | nil => rfl
  | cons turn turns ih =>
    rw [regarding_cons]
    cases hpart : turn.2.regarding operator with
    | none => exact ih
    | some part =>
      show regarding operator ((turn.1, part) :: regarding operator turns) = _
      rw [regarding_cons, Call.regarding_regarding hpart, ih]

/-! ## One turn -/

/-- What a call does to an operator is what the part that concerns the operator does to it. -/
theorem only_perform (reliable : site.Reliable) (d : Desk) (call : Call) (operator : String) :
    (d.perform site call).1.only operator =
      match call.regarding operator with
      | some part => ((d.only operator).perform site part).1
      | none => d.only operator := by
  cases haddressee : call.operator? with
  | none =>
    obtain ⟨update, rfl⟩ := Call.operator?_eq_none_iff.mp haddressee
    show (d.takeStatus update).1.only operator = _
    rw [only_takeStatus, Call.regarding]
    by_cases hcontains : update.contains operator = true
    · rw [if_pos hcontains]
      rfl
    · -- nothing is said about the operator
      rw [if_neg hcontains, Table.only_eq_empty hcontains]
      rfl
  | some addressee =>
    have hconfined := confined_perform reliable haddressee
    rw [Call.regarding_of_addressed haddressee]
    by_cases hsame : addressee = operator
    · rw [if_pos hsame]
      rw [hsame] at hconfined
      show _ = ((d.only operator).perform site call).1
      rw [hconfined.own]
    · rw [if_neg hsame]
      exact hconfined.others d operator (Ne.symm hsame)

/-- A call sends only to the workers of the operator that it is addressed to. -/
theorem attempts_perform (reliable : site.Reliable) (d : Desk) (call : Call) :
    ∃ sent, (d.perform site call).1.attempts = d.attempts ++ sent ∧
      ∀ a ∈ sent, call.operator? = some a.request.operator := by
  cases haddressee : call.operator? with
  | none =>
    obtain ⟨update, rfl⟩ := Call.operator?_eq_none_iff.mp haddressee
    refine ⟨[], ?_, fun a ha => absurd ha List.not_mem_nil⟩
    rw [List.append_nil]
    exact attempts_takeStatus d update
  | some addressee =>
    obtain ⟨sent, hsent, hto⟩ := (confined_perform reliable haddressee).sends d
    exact ⟨sent, hsent, fun a ha => by rw [hto a ha]⟩

/-! ## Whole sessions -/

section Sessions

variable {turns : List Turn} (reliable : ∀ turn ∈ turns, turn.1.Reliable)

include reliable

theorem reliable_regarding (operator : String) :
    ∀ turn ∈ regarding operator turns, turn.1.Reliable := by
  intro turn hmem
  obtain ⟨call, hturn, _⟩ := mem_regarding_iff.mp hmem
  exact reliable (turn.1, call) hturn

/-- **What is seen of an operator at the end of a session is what comes of the part of the session
    that concerns the operator.** -/
theorem only_play (d : Desk) (operator : String) :
    (d.play turns).only operator = (d.only operator).play (regarding operator turns) := by
  induction turns generalizing d with
  | nil => rfl
  | cons turn turns ih =>
    have hrest := ih (fun t ht => reliable t (List.mem_cons_of_mem _ ht))
      (d.perform turn.1 turn.2).1
    have hturn := only_perform (reliable turn List.mem_cons_self) d turn.2 operator
    show ((d.perform turn.1 turn.2).1.play turns).only operator = _
    rw [hrest, hturn, regarding_cons]
    cases turn.2.regarding operator with
    | none => rfl
    | some part => rfl

theorem only_play_regarding (d : Desk) (operator : String) :
    (d.play (regarding operator turns)).only operator = (d.play turns).only operator := by
  rw [only_play reliable, only_play (reliable_regarding reliable operator), regarding_idem]

theorem attempts_play (d : Desk) :
    ∃ sent, (d.play turns).attempts = d.attempts ++ sent ∧
      ∀ a ∈ sent, ∃ turn ∈ turns, turn.2.operator? = some a.request.operator := by
  induction turns generalizing d with
  | nil => exact ⟨[], (List.append_nil _).symm, fun a ha => absurd ha List.not_mem_nil⟩
  | cons turn turns ih =>
    obtain ⟨sent, hsent, hto⟩ := attempts_perform (reliable turn List.mem_cons_self) d turn.2
    obtain ⟨more, hmore, hto'⟩ := ih (fun t ht => reliable t (List.mem_cons_of_mem _ ht))
      (d.perform turn.1 turn.2).1
    refine ⟨sent ++ more, ?_, fun a ha => ?_⟩
    · rw [← List.append_assoc, ← hsent]
      exact hmore
    · rcases List.mem_append.mp ha with ha | ha
      · exact ⟨turn, List.mem_cons_self, hto a ha⟩
      · obtain ⟨later, hlater, hop⟩ := hto' a ha
        exact ⟨later, List.mem_cons_of_mem _ hlater, hop⟩

/-- The part that concerns an operator sends what goes to its workers, and nothing else. -/
theorem attempts_play_regarding (d : Desk) (operator : String) :
    ∃ sent, (d.play turns).attempts = d.attempts ++ sent ∧
      (d.play (regarding operator turns)).attempts
        = d.attempts ++ sent.filter fun a => a.request.operator == operator := by
  obtain ⟨sent, hsent, _⟩ := attempts_play reliable d
  obtain ⟨part, hpart, hto⟩ := attempts_play (reliable_regarding reliable operator) d
  refine ⟨sent, hsent, ?_⟩
  -- both sessions agree on what is sent to the operator, and the part sends to nobody else
  have hall : (part.filter fun a => a.request.operator == operator) = part := by
    refine List.filter_eq_self.mpr fun a ha => beq_iff_eq.mpr ?_
    obtain ⟨turn, hturn, haddressee⟩ := hto a ha
    obtain ⟨call, _, hregarding⟩ := mem_regarding_iff.mp hturn
    exact Call.operator?_of_regarding hregarding haddressee
  have hseen : ((d.attempts ++ part).filter fun a => a.request.operator == operator)
      = (d.attempts ++ sent).filter fun a => a.request.operator == operator := by
    rw [← hpart, ← hsent]
    exact congrArg Desk.attempts (only_play_regarding reliable d operator)
  rw [List.filter_append, List.filter_append, hall] at hseen
  rw [hpart, List.append_cancel_left hseen]

/-- The next call that is addressed to an operator gets the reply that it gets behind the part
    that concerns the operator. -/
theorem reply_regarding (d : Desk) (hsite : site.Reliable) {call : Call}
    (addressed : call.operator? = some operator) :
    ((d.play turns).perform site call).2
      = ((d.play (regarding operator turns)).perform site call).2 := by
  have hown := (confined_perform hsite addressed).own
  have hturns := congrArg Prod.snd (hown (d.play turns))
  have hpart := congrArg Prod.snd (hown (d.play (regarding operator turns)))
  rw [only_play_regarding reliable] at hpart
  exact hturns.symm.trans hpart

/-- The next status update counts what its parts count, each behind the part of the session that
    concerns the same operator. -/
theorem count_regarding (d : Desk) (update : StatusUpdate) :
    ((d.play turns).takeStatus update).2
      = (update.keys.map fun named =>
          ((d.play (regarding named turns)).takeStatus (update.only named)).2).sum := by
  refine count_takeStatus_split _ update (fun named => d.play (regarding named turns))
    fun named => ?_
  rw [← contains_only, only_play_regarding reliable, contains_only]

end Sessions

/-! ## Operators do not meet -/

/-- **Operators do not meet.**  In a session where nothing is refused, every operator fares as in
    the part of the session that concerns it.  It has the same board at the end.  The same requests
    go to its workers, and no others where the rest is left out.  Every call that is addressed to it
    gets the same reply, and a status update counts what its parts count for the operators that it
    names.  So sessions that agree on the part that concerns an operator agree on what becomes of
    it, however that part is interleaved with the rest. -/
theorem operators_separate (d : Desk) (turns : List Turn)
    (reliable : ∀ turn ∈ turns, turn.1.Reliable) (operator : String) :
    (d.play turns).store.boards.get? operator
        = (d.play (regarding operator turns)).store.boards.get? operator ∧
    (∃ sent, (d.play turns).attempts = d.attempts ++ sent ∧
      (d.play (regarding operator turns)).attempts
        = d.attempts ++ sent.filter fun a => a.request.operator == operator) ∧
    (∀ before site call after, turns = before ++ (site, call) :: after →
      call.operator? = some operator →
      ((d.play before).perform site call).2
        = ((d.play (regarding operator before)).perform site call).2) ∧
    (∀ before site update after, turns = before ++ (site, .takeStatus update) :: after →
      ((d.play before).takeStatus update).2
        = (update.keys.map fun named =>
            ((d.play (regarding named before)).takeStatus (update.only named)).2).sum) ∧
    ∀ others : List Turn, (∀ turn ∈ others, turn.1.Reliable) →
      regarding operator others = regarding operator turns →
      (d.play others).store.boards.get? operator = (d.play turns).store.boards.get? operator ∧
      ((d.play others).attempts.filter fun a => a.request.operator == operator)
        = (d.play turns).attempts.filter fun a => a.request.operator == operator := by
  refine ⟨?_, attempts_play_regarding reliable d operator, ?_, ?_, ?_⟩
  · rw [← get?_only, ← only_play_regarding reliable, get?_only]
  · rintro before site call after rfl addressed
    exact reply_regarding (fun turn ht => reliable turn (List.mem_append_left _ ht)) d
      (reliable (site, call) (List.mem_append_right _ List.mem_cons_self)) addressed
  · rintro before site update after rfl
    exact count_regarding (fun turn ht => reliable turn (List.mem_append_left _ ht)) d update
  · intro others reliable' hagree
    have hseen : (d.play others).only operator = (d.play turns).only operator := by
      rw [only_play reliable', only_play reliable, hagree]
    exact ⟨by rw [← get?_only, hseen, get?_only], congrArg Desk.attempts hseen⟩

/-! ## Two operators in turn -/

/-- Another operator beside that of the sample. -/
def neighbour : String := "PythonUDFV2-operator-2"

/-- Two workers per operator, and nothing is refused. -/
def calm : Site := ⟨.const ["w1", "w2"], .reliable⟩

/-- Both operators start over. -/
def bothStartOver : StatusUpdate :=
  .ofList [(Sample.operator, { state := .uninitialized }), (neighbour, { state := .uninitialized })]

/-- First one operator is worked on, and then the other one. -/
def oneByOne : List Turn :=
  [(calm, .register Sample.operator), (calm, .hear (Sample.created "w1" 1 5)),
    (calm, .register neighbour), (calm, .toggle neighbour 3), (calm, .takeStatus bothStartOver)]

/-- The two operators are worked on in turn. -/
def alternating : List Turn :=
  [(calm, .register neighbour), (calm, .register Sample.operator), (calm, .toggle neighbour 3),
    (calm, .hear (Sample.created "w1" 1 5)), (calm, .takeStatus bothStartOver)]

/-- Both sessions make different requests one after the other, and the same ones for each operator;
    the update at the end empties the boards of both. -/
theorem operators_separate_alternating :
    ((ofSettings "" {}).play alternating).attempts ≠ ((ofSettings "" {}).play oneByOne).attempts ∧
      (((ofSettings "" {}).play alternating).attempts.filter
          fun a => a.request.operator == Sample.operator)
        = (((ofSettings "" {}).play oneByOne).attempts.filter
          fun a => a.request.operator == Sample.operator) ∧
      ((ofSettings "" {}).play alternating).store.boards.get? Sample.operator
        = ((ofSettings "" {}).play oneByOne).store.boards.get? Sample.operator ∧
      (((ofSettings "" {}).play (oneByOne.take 4)).takeStatus bothStartOver).2 = 1 + (1 + 0) := by
  have hcalm : calm.Reliable := fun _ _ _ => rfl
  have hone : ∀ turn ∈ oneByOne, turn.1.Reliable := by
    simp [oneByOne, hcalm]
  have halternating : ∀ turn ∈ alternating, turn.1.Reliable := by
    simp [alternating, hcalm]
  obtain ⟨_, _, _, hcount, hagree⟩ :=
    operators_separate (ofSettings "" {}) oneByOne hone Sample.operator
  obtain ⟨hboard, hsent⟩ := hagree alternating halternating rfl
  refine ⟨by decide, hsent, hboard, ?_⟩
  rw [hcount (oneByOne.take 4) calm bothStartOver [] rfl]
  decide

end Desk

end DebugDesk
