/-
  Sessions: desks that exchange what they know.

  Any number of observers sit at desks of their own, each under its own settings: some keep plain
  boards, some replicas, under any names.  A session is a list of moves: an observer makes a call
  at its desk, takes a snapshot of an operator's board, or merges into its own board of the same
  operator a snapshot that was taken at any earlier moment by anyone.  Snapshots are not used up.
  Only replicas can be taken snapshots of, or merge them; where a desk has no replica of the
  operator, such a move does nothing.

  The crux is that a merge brings nothing but registers that another replica of the session held.
  So a property of boards that calls keep, and that a merge keeps as long as the snapshot was taken
  of a replica with that property, holds of every board at every moment of every session
  (`each_run`).  First of all boards are dominant (`dominant_run`): writes take effect wherever
  desks exchange their own snapshots only.
-/
import DebugDesk.Proofs.Desk.Unstamped
import Mathlib.Logic.Function.Basic

namespace DebugDesk

/-- Merges a snapshot into an operator's board, if that is a replica. -/
def Desk.merge (d : Desk) (operator : String) (s : Snapshot) : Desk :=
  match d.store.replica? operator with
  | .ok r => d.update ⟨operator⟩ fun _ => .shared (r.merge s)
  | .error _ => d

/-- Some desks, and the snapshots that were taken at them. -/
structure Session (ι : Type) where
  desk : ι → Desk
  /-- All snapshots taken, each with the operator whose board it shows. -/
  sent : List (String × Snapshot)

namespace Session

variable {ι : Type}

/-- What can happen in a session. -/
inductive Move (ι : Type) where
  /-- An observer makes a call at its desk. -/
  | call (i : ι) (turn : Desk.Turn)
  /-- An observer takes a snapshot of an operator's board. -/
  | share (i : ι) (operator : String)
  /-- An observer merges the snapshot that was taken as number `k`, if there is one yet. -/
  | merge (i : ι) (k : Nat)

/-- Whether a move works on no board directly, without its desk. -/
def Move.isIndirect : Move ι → Bool
  | call _ turn => !turn.2.isDirect
  | _ => true

/-- The desks before anything has happened.  Each has a name made up for its replicas. -/
def start (madeUp : ι → String) (settings : ι → Settings) : Session ι :=
  ⟨fun i => .ofSettings (madeUp i) (settings i), []⟩

variable [DecidableEq ι]

/-- The session after a move. -/
def step (s : Session ι) : Move ι → Session ι
  | .call i turn =>
    { s with desk := Function.update s.desk i ((s.desk i).perform turn.1 turn.2).1 }
  | .share i operator =>
    match (s.desk i).store.replica? operator with
    | .ok r => { s with sent := s.sent ++ [(operator, r.snapshot)] }
    | .error _ => s
  | .merge i k =>
    match s.sent[k]? with
    | some (operator, snapshot) =>
      { s with desk := Function.update s.desk i ((s.desk i).merge operator snapshot) }
    | none => s

/-- **The session after some moves.** -/
def run (madeUp : ι → String) (settings : ι → Settings) (moves : List (Move ι)) : Session ι :=
  moves.foldl step (start madeUp settings)

end Session

/-! ## What merges keep -/

/-- What replicas keep that merge snapshots of each other: a snapshot of a replica as required is
    as required, and such a snapshot does no harm to such a replica. -/
structure Board.Exchanged (Q : Board → Prop) (P : Snapshot → Prop) : Prop where
  snapshot : ∀ {r : Replica}, Q (.shared r) → P r.snapshot
  merge : ∀ {r : Replica} {s : Snapshot}, Q (.shared r) → P s → Q (.shared (r.merge s))

theorem Store.replica_of_each {Q : Board → Prop} {s : Store} (h : s.Each Q) {operator : String}
    {r : Replica} (hr : s.replica? operator = .ok r) : Q (.shared r) := by
  unfold Store.replica? at hr
  split at hr
  · nomatch hr
  · nomatch hr
  · rename_i r' hget
    injection hr with he
    rw [← he]
    exact h operator _ hget

theorem Desk.each_merge {Q : Board → Prop} {P : Snapshot → Prop} (exchanged : Board.Exchanged Q P)
    {d : Desk} (h : d.store.Each Q) (operator : String) {s : Snapshot} (hs : P s) :
    (d.merge operator s).store.Each Q := by
  unfold Desk.merge
  split
  · rename_i r hr
    exact h.update ⟨operator⟩ (exchanged.merge (Store.replica_of_each h hr) hs)
  · exact h

namespace Session

variable {ι : Type}

/-! ## What all moves keep -/

/-- All boards and all snapshots of a session are as required. -/
structure Each (Q : Board → Prop) (P : Snapshot → Prop) (s : Session ι) : Prop where
  desk : ∀ i, (s.desk i).store.Each Q
  sent : ∀ p ∈ s.sent, P p.2

variable {Q : Board → Prop} {P : Snapshot → Prop}

theorem each_start (madeUp : ι → String) (settings : ι → Settings) :
    (start madeUp settings).Each Q P where
  desk i := Store.each_ofMode (madeUp i) (settings i).storeMode
  sent _ hp := absurd hp List.not_mem_nil

variable [DecidableEq ι]

theorem Each.replace {s : Session ι} (h : s.Each Q P) (i : ι) {d : Desk} (hd : d.store.Each Q) :
    Each Q P { s with desk := Function.update s.desk i d } where
  desk j := by
    show (Function.update s.desk i d j).store.Each Q
    by_cases hj : j = i
    · subst hj
      rw [Function.update_self]
      exact hd
    · rw [Function.update_of_ne hj]
      exact h.desk j
  sent := h.sent

theorem Each.share (exchanged : Board.Exchanged Q P) {s : Session ι} (h : s.Each Q P) (i : ι)
    (operator : String) : (s.step (.share i operator)).Each Q P := by
  simp only [step]
  split
  · rename_i r hr
    refine ⟨h.desk, fun p hp => ?_⟩
    rcases List.mem_append.mp hp with hp | hp
    · exact h.sent p hp
    · -- the new snapshot shows a board of the session
      rw [List.mem_singleton.mp hp]
      exact exchanged.snapshot (Store.replica_of_each (h.desk i) hr)
  · exact h

theorem Each.merge (exchanged : Board.Exchanged Q P) {s : Session ι} (h : s.Each Q P) (i : ι)
    (k : Nat) : (s.step (.merge i k)).Each Q P := by
  simp only [step]
  split
  · rename_i operator snapshot hk
    have hs : P snapshot := h.sent _ (List.mem_of_getElem? hk)
    exact h.replace i (Desk.each_merge exchanged (h.desk i) operator hs)
  · exact h

theorem Each.foldl_step (exchanged : Board.Exchanged Q P) (moves : List (Move ι)) :
    ∀ {s : Session ι}, s.Each Q P →
      (∀ i turn, .call i turn ∈ moves → ∀ {d : Desk}, d.store.Each Q →
        (d.perform turn.1 turn.2).1.store.Each Q) →
      (moves.foldl step s).Each Q P := by
  induction moves with
  | nil => exact fun h _ => h
  | cons m moves ih =>
    intro s h hcall
    have hstep : (s.step m).Each Q P := by
      cases m with
      | call i turn => exact h.replace i (hcall i turn List.mem_cons_self (h.desk i))
      | share i operator => exact h.share exchanged i operator
      | merge i k => exact h.merge exchanged i k
    exact ih hstep fun i turn hmem => hcall i turn (List.mem_cons_of_mem m hmem)

/-- **What exchanging keeps, and all calls that are made, every board has at every moment of a
    session.** -/
theorem each_run (exchanged : Board.Exchanged Q P) (madeUp : ι → String) (settings : ι → Settings)
    (moves : List (Move ι))
    (hcall : ∀ i turn, .call i turn ∈ moves → ∀ {d : Desk}, d.store.Each Q →
      (d.perform turn.1 turn.2).1.store.Each Q) :
    (run madeUp settings moves).Each Q P :=
  Each.foldl_step exchanged moves (each_start madeUp settings) hcall

/-! ## Writes take effect -/

theorem exchanged_dominant :
    Board.Exchanged Board.Dominant fun s => ∀ e ∈ s.records, e.2.stamp.clock ≤ s.clock where
  snapshot h := Replica.Dominant.snapshot h
  merge h hs := Replica.Dominant.merge h hs

/-- **Boards are dominant at every moment of a session**, also where observers work on them
    directly. -/
theorem dominant_run (madeUp : ι → String) (settings : ι → Settings) (moves : List (Move ι)) (i : ι) :
    ((run madeUp settings moves).desk i).Dominant :=
  (each_run exchanged_dominant madeUp settings moves
    fun _ turn _ _ h => Desk.dominant_perform h turn.1 turn.2).desk i

end Session

end DebugDesk
