/-
  How long a pause lasts.

  A stop marks its line, and while some line of an operator is marked, no message of its workers
  lets them go on.  On purpose a mark ends in three ways: it is noted that the workers have gone
  on, the operator is reset, or somebody works on the board directly.  The question here is what
  else can end it, in particular whether anything that a worker prints can.

  A removal cannot, because it keeps the record of a marked line; neither can another stop, nor
  the change of a condition.  A confirmation can: it starts a new record, and a new record is not
  marked.  That is no rare case.  A breakpoint is asked for at all workers at once, so the
  confirmation of a slow worker may well arrive while a fast one stands at the line already
  (`confirmation_ends_pause`): the mark is gone, and all workers are told to go on.

  The crux is that nothing else does it.  A run that leaves marks to the console keeps a mark at
  every moment exactly if it brings no confirmation of the marked line (`pause_lasts_iff`), and for
  as long as it does, no message makes the desk send anything.
-/
import DebugDesk.Proofs.Desk.Call
import DebugDesk.Sample

namespace DebugDesk

/-! ## Marked lines -/

/-- Whether a worker stands at a line. -/
def Board.isHit (b : Board) (line : UInt32) : Bool :=
  (b.get? (Breakpoint.lineKey line)).any (·.hit)

/-- Whether an event is the confirmation of a breakpoint on a line. -/
def Event.confirms (line : UInt32) : Event → Bool
  | created _ other => other == line
  | _ => false

namespace Board

variable {b : Board} {line : UInt32}

theorem isHit_iff (b : Board) (line : UInt32) :
    b.isHit line = true ↔ ∃ x, b.get? (Breakpoint.lineKey line) = some x ∧ x.hit = true := by
  rw [isHit]
  cases b.get? (Breakpoint.lineKey line) with
  | none => simp
  | some x => simp

theorem isHit_empty (writer : Option String) (line : UInt32) :
    (empty writer).isHit line = false := by
  cases writer <;> rfl

theorem anyHit_of_isHit (h : b.isHit line = true) : b.anyHit = true := by
  obtain ⟨x, hx, hhit⟩ := (b.isHit_iff line).mp h
  rw [anyHit_iff]
  exact ⟨(_, x), (b.mem_entries_iff _ x).mpr hx, hhit⟩

/-- Writing keeps the mark of a line, if what is written to the line is marked. -/
theorem isHit_set (h : b.isHit line = true) {key : String} {x : Breakpoint}
    (hx : key = Breakpoint.lineKey line → x.hit = true) : (b.set key x).isHit line = true := by
  by_cases hk : Breakpoint.lineKey line = key
  · subst hk
    rcases b.get?_set_self (Breakpoint.lineKey line) x with hset | hset
    · rw [isHit, hset]
      exact hx rfl
    · rw [isHit, hset]
      exact h
  · rw [isHit, b.get?_set_of_ne hk]
    exact h

theorem isHit_delete (h : b.isHit line = true) {key : String}
    (hne : Breakpoint.lineKey line ≠ key) : (b.delete key).isHit line = true := by
  rw [isHit, b.get?_delete_of_ne hne]
  exact h

/-- **No event but a confirmation takes the mark of a line away.** -/
theorem isHit_apply (h : b.isHit line = true) {e : Event} (he : e.confirms line = false) :
    (b.apply e).isHit line = true := by
  cases e with
  | created id other =>
    refine isHit_set h fun hk => ?_
    have hne : (other == line) = false := he
    exact absurd (Breakpoint.lineKey_inj hk) (beq_eq_false_iff_ne.mp hne)
  | deleted id other =>
    simp only [Board.apply]
    split
    · rename_i x hx
      split
      · rename_i hhit
        exact isHit_set h fun _ => hhit
      · -- an unmarked record is not that of the marked line
        rename_i hhit
        refine isHit_delete h fun hk => ?_
        rw [isHit, hk, hx] at h
        exact hhit h
    · exact h
  | paused other => exact isHit_set h fun _ => rfl
  | unrecognized => exact h

/-- A confirmation takes the mark away wherever it takes effect. -/
theorem isHit_apply_of_confirms (h : b.Dominant) {e : Event} (he : e.confirms line = true) :
    (b.apply e).isHit line = false := by
  cases e with
  | created id other =>
    have hline : other = line := beq_iff_eq.mp he
    subst hline
    show ((b.set (Breakpoint.lineKey other) (.confirmed id)).get? _).any (·.hit) = false
    rw [get?_set h, if_pos rfl]
    rfl
  | _ => nomatch he

end Board

namespace Desk

/-- Whether a worker of an operator stands at a line. -/
def isHit (d : Desk) (operator : String) (line : UInt32) : Bool :=
  (d.store.board ⟨operator⟩).isHit line

/-! ## Calls that leave marks to the console -/

namespace Call

/-- Whether a call leaves the marks of an operator to its console: it does not note that the
    workers have gone on, resets nothing, and does not work on the operator's board directly. -/
def leavesMarks (operator : String) : Call → Bool
  | noteResumed other => other != operator
  | takeStatus update => !update.resets.contains operator
  | direct h _ => h.operator != operator
  | _ => true

/-- Whether a call brings the confirmation of a breakpoint on a line of an operator. -/
def confirms (operator : String) (line : UInt32) : Call → Bool
  | hear batch => batch.operator == operator && batch.messages.any (·.event.confirms line)
  | _ => false

end Call

variable {d : Desk} {operator : String} {line : UInt32}

theorem isHit_of_store {d e : Desk} (h : d.isHit operator line = true) (hstore : e.store = d.store) :
    e.isHit operator line = true := by
  rw [isHit, hstore]
  exact h

/-- Changing a board keeps the marks of other operators, and the operator's own if the change
    does. -/
theorem isHit_update (h : d.isHit operator line = true) (k : Store.Handle) {f : Board → Board}
    (hf : k.operator = operator → (f (d.store.board k)).isHit line = true) :
    (d.update k f).isHit operator line = true := by
  show ((d.store.update k f).board ⟨operator⟩).isHit line = true
  by_cases hk : operator = k.operator
  · subst hk
    rw [Store.board_update_self]
    exact hf rfl
  · rw [Store.board_update_of_ne d.store hk]
    exact h

theorem isHit_update_of_ne (h : d.isHit operator line = true) {k : Store.Handle}
    (hne : k.operator ≠ operator) (f : Board → Board) :
    (d.update k f).isHit operator line = true :=
  isHit_update h k fun hk => absurd hk hne

/-! ## Hearing -/

/-- While a line is marked, no worker is told to go on. -/
theorem resumeIfIdle_of_isHit {k : Store.Handle} (h : d.isHit k.operator line = true) (site : Site) :
    d.resumeIfIdle site k = (d, .ok ()) := by
  have hany : (d.store.board k).anyHit = true := Board.anyHit_of_isHit h
  rw [resumeIfIdle, if_pos hany]

theorem isHit_apply (h : d.isHit operator line = true) (k : Store.Handle) {e : Event}
    (he : k.operator = operator → e.confirms line = false) :
    (d.update k (·.apply e)).isHit operator line = true := by
  refine isHit_update h k fun hk => ?_
  subst hk
  exact Board.isHit_apply h (he rfl)

/-- Messages without a confirmation of a marked line keep the mark, and are all taken without
    sending anything. -/
theorem hearAll_of_isHit (site : Site) (k : Store.Handle) (messages : List Message) :
    ∀ {d : Desk}, d.isHit k.operator line = true →
      (∀ m ∈ messages, m.event.confirms line = false) →
      ∃ e, hearAll site k d messages = (e, .ok ()) ∧ e.attempts = d.attempts ∧
        e.isHit k.operator line = true := by
  induction messages with
  | nil => exact fun h _ => ⟨_, rfl, rfl, h⟩
  | cons m messages ih =>
    intro d h hquiet
    have hnext : (d.update k (·.apply m.event)).isHit k.operator line = true :=
      isHit_apply h k fun _ => hquiet m List.mem_cons_self
    obtain ⟨e, hhear, hattempts, he⟩ :=
      ih hnext fun m' hm' => hquiet m' (List.mem_cons_of_mem m hm')
    refine ⟨e, ?_, hattempts, he⟩
    rw [hearAll, resumeIfIdle_of_isHit hnext]
    exact hhear

/-- Messages of other operators keep all marks, even where sending fails. -/
theorem isHit_hearAll_of_ne (h : d.isHit operator line = true) (site : Site) {k : Store.Handle}
    (hne : k.operator ≠ operator) (messages : List Message) :
    (hearAll site k d messages).1.isHit operator line = true := by
  obtain ⟨n, hn⟩ := store_hearAll site k messages d
  rw [isHit, hn]
  refine List.foldlRecOn (motive := fun s : Store => (s.board ⟨operator⟩).isHit line = true)
    _ _ h fun s hs m _ => ?_
  rw [Store.board_update_of_ne s (Ne.symm hne)]
  exact hs

/-- An operator with a marked line is registered. -/
theorem handle?_of_isHit (h : d.isHit operator line = true) :
    d.handle? operator = .ok ⟨operator⟩ := by
  refine handle?_eq_ok_iff.mpr ⟨?_, rfl⟩
  rw [Store.contains, Table.contains]
  cases hget : d.store.boards.get? operator with
  | some board => rfl
  | none =>
    rw [isHit, Store.board, hget, Option.getD_none, Board.isHit_empty] at h
    exact absurd h Bool.false_ne_true

/-- **Hearing of a marked line without a confirmation of it** succeeds, sends nothing, and keeps
    the mark. -/
theorem hear_of_isHit (h : d.isHit operator line = true) (site : Site) {batch : Batch}
    (hop : batch.operator = operator)
    (hquiet : ∀ m ∈ batch.messages, m.event.confirms line = false) :
    ∃ e, d.hear site batch = (e, .ok ()) ∧ e.attempts = d.attempts ∧
      e.isHit operator line = true := by
  subst hop
  rw [hear, handle?_of_isHit h]
  exact hearAll_of_isHit site ⟨batch.operator⟩ batch.messages h hquiet

/-! ## Every other call -/

theorem isHit_resetOne {state : Desk × Nat} (h : state.1.isHit operator line = true)
    {entry : String × Statistics} (hentry : entry.2.state.isReset = true → entry.1 ≠ operator) :
    (resetOne state entry).1.isHit operator line = true := by
  rw [resetOne_eq]
  split
  · rename_i hreset
    exact isHit_update_of_ne h (k := ⟨entry.1⟩) (hentry hreset.1) Board.clear
  · exact h

theorem isHit_takeStatus (h : d.isHit operator line = true) {update : StatusUpdate}
    (hreset : operator ∉ update.resets) : (d.takeStatus update).1.isHit operator line = true := by
  have hentries : ∀ entry ∈ update.entries, entry.2.state.isReset = true → entry.1 ≠ operator := by
    intro entry hmem hstate hop
    apply hreset
    rw [← hop]
    exact List.mem_map_of_mem (List.mem_filter.mpr ⟨hmem, hstate⟩)
  exact List.foldlRecOn (motive := fun state : Desk × Nat => state.1.isHit operator line = true)
    update.entries resetOne h fun state hstate entry hmem => isHit_resetOne hstate (hentries entry hmem)

theorem isHit_editCondition (h : d.isHit operator line = true) (site : Site) (other : String)
    (id : UInt32) (condition : String) :
    (d.editCondition site other id condition).1.isHit operator line = true := by
  unfold editCondition
  split
  · exact h
  · rename_i k hk
    split
    · exact h
    · rename_i key x hfind
      have hx : (d.store.board k).get? key = some x :=
        (Board.mem_entries_iff _ key x).mp (List.mem_of_find?_eq_some hfind)
      split
      · exact h
      · have hstore := store_broadcast d site other (.condition id condition)
        split
        · rename_i e heq
          rw [heq] at hstore
          change e.store = d.store at hstore
          refine isHit_update (isHit_of_store h hstore) k fun hop => ?_
          subst hop
          rw [hstore]
          refine Board.isHit_set h fun hkey => ?_
          -- the record found is that of the marked line, and it is marked
          obtain ⟨y, hy, hhit⟩ := (Board.isHit_iff _ line).mp h
          have hxy : x = y := Option.some.inj (hx.symm.trans (by rw [hkey]; exact hy))
          rw [hxy]
          exact hhit
        · exact isHit_of_store h hstore

theorem isHit_hear (h : d.isHit operator line = true) (site : Site) {batch : Batch}
    (hquiet : (Call.hear batch).confirms operator line = false) :
    (d.hear site batch).1.isHit operator line = true := by
  by_cases hop : batch.operator = operator
  · have hno : ∀ m ∈ batch.messages, m.event.confirms line = false := by
      simpa [Call.confirms, hop] using hquiet
    obtain ⟨e, hhear, _, he⟩ := hear_of_isHit h site hop hno
    rw [hhear]
    exact he
  · unfold hear
    split
    · rename_i k hk
      obtain ⟨_, rfl⟩ := handle?_eq_ok_iff.mp hk
      exact isHit_hearAll_of_ne h site hop batch.messages
    · exact h

/-- **A call that leaves marks to the console and brings no confirmation of a marked line keeps the
    mark.** -/
theorem isHit_perform (h : d.isHit operator line = true) (site : Site) {call : Call}
    (hleaves : call.leavesMarks operator = true) (hquiet : call.confirms operator line = false) :
    (d.perform site call).1.isHit operator line = true := by
  cases call with
  | register other =>
    refine isHit_update h ⟨other⟩ fun hop => ?_
    subst hop
    exact h
  | announce other =>
    show (d.announce other).1.isHit operator line = true
    unfold announce
    split
    · refine isHit_update h ⟨other.operator⟩ fun hop => ?_
      subst hop
      exact h
    · exact h
  | takeStatus update => exact isHit_takeStatus h (by simpa [Call.leavesMarks] using hleaves)
  | hear batch => exact isHit_hear h site hquiet
  | handle other => exact h
  | condition other id => exact h
  | editCondition other id condition => exact isHit_editCondition h site other id condition
  | toggle other line' => exact isHit_of_store h (store_toggle d site other line')
  | resume other worker => exact h
  | stepOver other worker => exact h
  | noteResumed other =>
    have hne : other ≠ operator := by simpa [Call.leavesMarks] using hleaves
    show (d.noteResumed other).1.isHit operator line = true
    unfold noteResumed
    split
    · exact h
    · rename_i k hk
      obtain ⟨_, rfl⟩ := handle?_eq_ok_iff.mp hk
      exact isHit_update_of_ne h hne Board.releaseAll
  | direct k op =>
    have hne : k.operator ≠ operator := by simpa [Call.leavesMarks] using hleaves
    exact isHit_update_of_ne h hne _

/-! ## Runs, moment by moment -/

/-- A run broken off at some moment: before a turn, or within a batch, behind any message. -/
inductive Cut : List Turn → List Turn → Prop where
  | stop (turns : List Turn) : Cut turns []
  | within (site : Site) (batch : Batch) (n : Nat) (turns : List Turn) :
      Cut ((site, .hear batch) :: turns)
        [(site, .hear { batch with messages := batch.messages.take n })]
  | turn (turn : Turn) {turns cut : List Turn} (rest : Cut turns cut) :
      Cut (turn :: turns) (turn :: cut)

theorem isHit_play (turns : List Turn) :
    ∀ {d : Desk}, d.isHit operator line = true →
      (∀ turn ∈ turns, turn.2.leavesMarks operator = true) →
      (∀ turn ∈ turns, turn.2.confirms operator line = false) →
      (d.play turns).isHit operator line = true := by
  induction turns with
  | nil => exact fun h _ _ => h
  | cons turn turns ih =>
    intro d h hleaves hquiet
    have hnext := isHit_perform h turn.1 (hleaves turn List.mem_cons_self)
      (hquiet turn List.mem_cons_self)
    exact ih hnext (fun t ht => hleaves t (List.mem_cons_of_mem turn ht))
      fun t ht => hquiet t (List.mem_cons_of_mem turn ht)

/-- Breaking a run off brings in no confirmation, and no call that the run does not make. -/
theorem Cut.leaves_and_quiet {turns cut : List Turn} (hcut : Cut turns cut)
    (hleaves : ∀ turn ∈ turns, turn.2.leavesMarks operator = true)
    (hquiet : ∀ turn ∈ turns, turn.2.confirms operator line = false) :
    (∀ turn ∈ cut, turn.2.leavesMarks operator = true) ∧
      ∀ turn ∈ cut, turn.2.confirms operator line = false := by
  induction hcut with
  | stop turns => exact ⟨fun _ h => absurd h List.not_mem_nil, fun _ h => absurd h List.not_mem_nil⟩
  | within site batch n turns =>
    have hbatch := hquiet _ List.mem_cons_self
    refine ⟨fun turn hmem => ?_, fun turn hmem => ?_⟩
    · rw [List.mem_singleton.mp hmem]
      rfl
    · rw [List.mem_singleton.mp hmem]
      simp only [Call.confirms, Bool.and_eq_false_iff, List.any_eq_false] at hbatch ⊢
      exact hbatch.imp_right fun hno m hm => hno m (List.mem_of_mem_take hm)
  | turn turn _ ih =>
    obtain ⟨hleaves', hquiet'⟩ := ih (fun t ht => hleaves t (List.mem_cons_of_mem turn ht))
      fun t ht => hquiet t (List.mem_cons_of_mem turn ht)
    exact ⟨List.forall_mem_cons.mpr ⟨hleaves turn List.mem_cons_self, hleaves'⟩,
      List.forall_mem_cons.mpr ⟨hquiet turn List.mem_cons_self, hquiet'⟩⟩

/-! ## The confirmation that ends a pause -/

/-- Among messages with a confirmation of a marked line there is a moment without the mark: the one
    behind the first such confirmation. -/
theorem exists_take_hearAll (site : Site) (k : Store.Handle) (messages : List Message) :
    ∀ {d : Desk}, d.Dominant → d.isHit k.operator line = true →
      (∃ m ∈ messages, m.event.confirms line = true) →
      ∃ n, (hearAll site k d (messages.take n)).1.isHit k.operator line = false := by
  induction messages with
  | nil =>
    rintro d _ _ ⟨m, hm, _⟩
    exact absurd hm List.not_mem_nil
  | cons m messages ih =>
    intro d hdom h hex
    have hboard : (d.store.board k).Dominant := hdom.board Board.stable_dominant k
    cases hm : m.event.confirms line with
    | true =>
      -- whether the workers can then be told to go on does not matter: the board has changed
      refine ⟨1, ?_⟩
      show ((hearAll site k d [m]).1.store.board k).isHit line = false
      rw [store_hearAll_singleton, Store.board_update_self]
      exact Board.isHit_apply_of_confirms hboard hm
    | false =>
      have hnext : (d.update k (·.apply m.event)).isHit k.operator line = true :=
        isHit_apply h k fun _ => hm
      have hdom' : (d.update k (·.apply m.event)).Dominant := hdom.update k (hboard.apply m.event)
      have hex' : ∃ m' ∈ messages, m'.event.confirms line = true := by
        obtain ⟨m', hmem, hconfirms⟩ := hex
        rcases List.mem_cons.mp hmem with rfl | hmem
        · rw [hm] at hconfirms
          nomatch hconfirms
        · exact ⟨m', hmem, hconfirms⟩
      obtain ⟨n, hn⟩ := ih hdom' hnext hex'
      -- the line is still marked, so nothing is sent that could be refused
      refine ⟨n + 1, ?_⟩
      rw [List.take_succ_cons, hearAll, resumeIfIdle_of_isHit hnext]
      exact hn

theorem exists_take_hear (hdom : d.Dominant) (h : d.isHit operator line = true) (site : Site)
    {batch : Batch} (hconfirms : (Call.hear batch).confirms operator line = true) :
    ∃ n, (d.hear site { batch with messages := batch.messages.take n }).1.isHit operator line
      = false := by
  simp only [Call.confirms, Bool.and_eq_true, beq_iff_eq, List.any_eq_true] at hconfirms
  obtain ⟨hop, hex⟩ := hconfirms
  subst hop
  obtain ⟨n, hn⟩ := exists_take_hearAll site ⟨batch.operator⟩ batch.messages hdom h hex
  refine ⟨n, ?_⟩
  rw [hear, handle?_of_isHit h]
  exact hn

/-- A run that leaves marks to the console and brings a confirmation of a marked line has a moment
    without the mark. -/
theorem exists_cut_of_confirms (turns : List Turn) :
    ∀ {d : Desk}, d.Dominant → d.isHit operator line = true →
      (∀ turn ∈ turns, turn.2.leavesMarks operator = true) →
      (∃ turn ∈ turns, turn.2.confirms operator line = true) →
      ∃ cut, Cut turns cut ∧ (d.play cut).isHit operator line = false := by
  induction turns with
  | nil =>
    rintro d _ _ _ ⟨turn, hmem, _⟩
    exact absurd hmem List.not_mem_nil
  | cons turn turns ih =>
    obtain ⟨site, call⟩ := turn
    intro d hdom h hleaves hex
    cases hcall : call.confirms operator line with
    | true =>
      cases call with
      | hear batch =>
        obtain ⟨n, hn⟩ := exists_take_hear hdom h site hcall
        exact ⟨_, Cut.within site batch n turns, hn⟩
      | _ => nomatch hcall
    | false =>
      have hnext := isHit_perform h site (hleaves _ List.mem_cons_self) hcall
      have hex' : ∃ turn ∈ turns, turn.2.confirms operator line = true := by
        obtain ⟨turn, hmem, hconfirms⟩ := hex
        rcases List.mem_cons.mp hmem with rfl | hmem
        · rw [hcall] at hconfirms
          nomatch hconfirms
        · exact ⟨turn, hmem, hconfirms⟩
      obtain ⟨cut, hcut, hplay⟩ := ih (dominant_perform hdom site call) hnext
        (fun t ht => hleaves t (List.mem_cons_of_mem _ ht)) hex'
      exact ⟨_, hcut.turn (site, call), hplay⟩

/-- **A pause lasts exactly as long as its line is not confirmed.**  From a desk with a marked line
    on, in a run that leaves marks to the console: without a confirmation of the line the mark is
    there at every moment, and no message of the operator fails or makes the desk send anything,
    whatever the workers are and whatever the transport refuses.  And where writes take effect,
    such as at every desk of a session (`Session.dominant_run`), a mark that is there at every
    moment means that no confirmation came. -/
theorem pause_lasts_iff (d : Desk) (operator : String) (line : UInt32) (turns : List Turn)
    (hit : d.isHit operator line = true)
    (hleaves : ∀ turn ∈ turns, turn.2.leavesMarks operator = true) :
    ((∀ turn ∈ turns, turn.2.confirms operator line = false) →
      (∀ cut, Cut turns cut → (d.play cut).isHit operator line = true) ∧
      ∀ before site batch after, turns = before ++ (site, .hear batch) :: after →
        batch.operator = operator →
          ((d.play before).perform site (.hear batch)).1.attempts = (d.play before).attempts ∧
          ((d.play before).perform site (.hear batch)).2 = .done) ∧
    (d.Dominant → (∀ cut, Cut turns cut → (d.play cut).isHit operator line = true) →
      ∀ turn ∈ turns, turn.2.confirms operator line = false) := by
  constructor
  · intro hquiet
    constructor
    · intro cut hcut
      obtain ⟨hleaves', hquiet'⟩ := hcut.leaves_and_quiet hleaves hquiet
      exact isHit_play cut hit hleaves' hquiet'
    · intro before site batch after hturns hop
      subst hturns
      have hbefore : (d.play before).isHit operator line = true :=
        isHit_play before hit (fun t ht => hleaves t (List.mem_append_left _ ht))
          fun t ht => hquiet t (List.mem_append_left _ ht)
      have hbatch := hquiet (site, .hear batch) (List.mem_append_right before List.mem_cons_self)
      have hno : ∀ m ∈ batch.messages, m.event.confirms line = false := by
        simpa [Call.confirms, hop] using hbatch
      obtain ⟨e, hhear, hattempts, _⟩ := hear_of_isHit hbefore site hop hno
      simp only [perform, hhear]
      exact ⟨hattempts, rfl⟩
  · intro hdom hmarked turn hmem
    cases hconfirms : turn.2.confirms operator line with
    | false => rfl
    | true =>
      obtain ⟨cut, hcut, hplay⟩ :=
        exists_cut_of_confirms turns hdom hit hleaves ⟨turn, hmem, hconfirms⟩
      rw [hmarked cut hcut] at hplay
      nomatch hplay

/-! ## One worker stands, the other is slow -/

/-- Two workers, and a transport that delivers everything. -/
def twoWorkers : Site := ⟨.const ["w1", "w2"], .reliable⟩

/-- A breakpoint on line 5 was asked for at both workers; the first has confirmed it and stands
    there. -/
def stoppedAtFive : Desk :=
  (ofSettings "" {}).play [
    (twoWorkers, .register Sample.operator),
    (twoWorkers, .toggle Sample.operator 5),
    (twoWorkers, .hear (Sample.created "w1" 1 5)),
    (twoWorkers, .hear (Sample.paused "w1" 5))]

/-- A removal, the confirmation of another line and a changed condition leave the mark. -/
theorem pause_outlasts_removal :
    (stoppedAtFive.play [
      (twoWorkers, .editCondition Sample.operator 1 "x > 5"),
      (twoWorkers, .hear (Sample.deleted "w1" 1 5)),
      (twoWorkers, .hear (Sample.created "w2" 2 8))]).isHit Sample.operator 5 = true :=
  ((pause_lasts_iff stoppedAtFive Sample.operator 5 _ (by decide) (by decide)).1 (by decide)).1 _
    (.turn _ (.turn _ (.turn _ (.stop []))))

/-- **The confirmation of a slow worker ends the pause of a fast one**, and both are told to go
    on. -/
theorem confirmation_ends_pause :
    stoppedAtFive.isHit Sample.operator 5 = true ∧
      (stoppedAtFive.perform twoWorkers (.hear (Sample.created "w2" 1 5))).1.isHit Sample.operator 5
        = false ∧
      ((stoppedAtFive.perform twoWorkers (.hear (Sample.created "w2" 1 5))).1.attempts.map (·.request)
        = stoppedAtFive.attempts.map (·.request) ++
          ["w1", "w2"].map (Request.ofCommand Sample.operator · .resume)) := by
  decide

end Desk

end DebugDesk
