/-
  What an honest board has seen.

  A replica among honest ones starts empty, writes under its own stamps, and merges snapshots of
  replicas that lived as it did.  All the writes that it has seen on the way are its own and those
  that came with a merge, and of the latter not only what the snapshot still shows but all that its
  origin had seen (`Replica.Lived`).  Most of them are overwritten long since.

  The crux is that the clock has passed them all (`Lived.reflects`).  So "later than anything seen"
  can be said of a stamp without looking at how the replica came about, and it is enough that the
  reading is behind the clock (`Lived.stamp_lt`).

  Every honest board, in a network or in a session of desks, has such a life
  (`Board.Honest.lived`).
-/
import DebugDesk.Proofs.Desk.History

namespace DebugDesk

namespace Replica

/-! ## Lives -/

/-- A replica that came about among honest ones, and all writes that it has seen: its own, and with
    every merge all that the origin of the snapshot had seen. -/
inductive Lived : Replica → List Write → Prop where
  | empty (id : String) : Lived (.empty id) []
  | write {r : Replica} {seen : List Write} (key : String) (value : Option Breakpoint)
    (h : Lived r seen) :
    Lived (r.write key value) (seen ++ [(key, ⟨value, ⟨r.clock + 1, r.id⟩⟩)])
  | merge {r peer : Replica} {seen more : List Write} (h : Lived r seen) (hpeer : Lived peer more) :
    Lived (r.merge peer.snapshot) (seen ++ more)

variable {r : Replica} {seen : List Write}

/-- **A replica reflects all that it has seen in its life.** -/
theorem Lived.reflects (h : r.Lived seen) : r.Reflects seen := by
  induction h with
  | empty id => exact reflects_empty id
  | write key value _ ih => exact ih.write key value
  | merge _ _ ih ihpeer => exact ih.merge ihpeer

/-- A stamp behind the clock is later than anything seen. -/
theorem Lived.stamp_lt (h : r.Lived seen) {w : Write} (hw : w ∈ seen) {stamp : Stamp}
    (later : r.clock < stamp.clock) : w.2.stamp < stamp :=
  Or.inl (Nat.lt_of_le_of_lt (h.reflects.clock_le w hw) later)

theorem Lived.writeAll (changes : List (String × Option Breakpoint)) :
    ∀ {r : Replica} {seen : List Write}, r.Lived seen →
      (r.writeAll changes).Lived (seen ++ stamped r.id r.clock changes) := by
  induction changes with
  | nil =>
    intro r seen h
    rw [stamped, List.append_nil]
    exact h
  | cons c changes ih =>
    intro r seen h
    have hrest := ih (h.write c.1 c.2)
    rw [List.append_assoc] at hrest
    exact hrest

theorem Lived.edit (h : r.Lived seen) (e : Edit) : (e.apply r).Lived (seen ++ e.writes r) := by
  rw [Edit.apply_eq_writeAll]
  exact h.writeAll (e.changes r)

end Replica

/-! ## In a network -/

namespace Network

variable {ι : Type} [DecidableEq ι]

/-- **A replica of a network lived, and has seen what it observed.** -/
theorem lived_run (name : ι → String) (moves : List (Move ι)) (i : ι) :
    ((run name moves).replica i).Lived ((run name moves).observed i) := by
  -- snapshots were taken of replicas that lived, too
  suffices h : (∀ i, ((run name moves).replica i).Lived ((run name moves).observed i)) ∧
      ∀ p ∈ (run name moves).sent, ∃ r : Replica, p.1 = r.snapshot ∧ r.Lived p.2 from h.1 i
  refine List.foldlRecOn (motive := fun n : Network ι => (∀ i, (n.replica i).Lived (n.observed i)) ∧
    ∀ p ∈ n.sent, ∃ r : Replica, p.1 = r.snapshot ∧ r.Lived p.2) moves step ?_ ?_
  · exact ⟨fun i => .empty (name i), fun p hp => absurd hp List.not_mem_nil⟩
  · rintro n ⟨heach, hsent⟩ move _
    cases move with
    | edit j e =>
      exact ⟨forall_update (R := fun _ => Replica.Lived) heach ((heach j).edit e), hsent⟩
    | share j =>
      refine ⟨heach, fun p hp => ?_⟩
      rcases List.mem_append.mp hp with hp | hp
      · exact hsent p hp
      · rw [List.mem_singleton.mp hp]
        exact ⟨n.replica j, rfl, heach j⟩
    | merge j k =>
      simp only [Network.step]
      split
      · exact ⟨heach, hsent⟩
      · rename_i s more hk
        obtain ⟨peer, hs, hpeer⟩ := hsent _ (List.mem_of_getElem? hk)
        change s = peer.snapshot at hs
        subst hs
        exact ⟨forall_update (R := fun _ => Replica.Lived) heach ((heach j).merge hpeer), hsent⟩

end Network

/-! ## At a desk -/

namespace Board

/-- A plain board, or a replica that lived. -/
def Lived : Board → Prop
  | plain _ => True
  | shared r => ∃ seen, r.Lived seen

variable {b : Board}

theorem lived_empty (writer : Option String) : (empty writer).Lived := by
  cases writer with
  | none => exact trivial
  | some id => exact ⟨[], .empty id⟩

theorem Lived.set (h : b.Lived) (key : String) (x : Breakpoint) : (b.set key x).Lived := by
  cases b with
  | plain t => exact trivial
  | shared r =>
    obtain ⟨seen, hseen⟩ := h
    exact ⟨_, hseen.edit (.set key x)⟩

theorem Lived.delete (h : b.Lived) (key : String) : (b.delete key).Lived := by
  cases b with
  | plain t => exact trivial
  | shared r =>
    obtain ⟨seen, hseen⟩ := h
    exact ⟨_, hseen.edit (.delete key)⟩

theorem Lived.clear (h : b.Lived) : b.clear.Lived := by
  cases b with
  | plain t => exact trivial
  | shared r =>
    obtain ⟨seen, hseen⟩ := h
    exact ⟨_, hseen.edit .clear⟩

theorem Lived.release (h : b.Lived) (entry : String × Breakpoint) : (b.release entry).Lived := by
  unfold Board.release
  split
  · exact h.delete entry.1
  · split
    · exact h.set entry.1 _
    · exact h

/-- **Whatever a desk does to a board that lived, it lives on.** -/
theorem stable_lived : Board.Stable Board.Lived where
  empty := lived_empty
  clear h := h.clear
  apply {b} h e := by
    cases e with
    | created id line => exact h.set _ _
    | deleted id line =>
      simp only [Board.apply]
      split
      · split
        · exact h.set _ _
        · exact h.delete _
      · exact h
    | paused line => exact h.set _ _
    | unrecognized => exact h
  releaseAll {b} h :=
    List.foldlRecOn (motive := Board.Lived) b.entries Board.release h fun _ hc entry _ =>
      hc.release entry
  edit h _ _ _ _ := h.set _ _

theorem Lived.perform (h : b.Lived) (op : Operation) : (b.perform op).1.Lived := by
  cases op with
  | set key x => exact h.set key x
  | delete key => exact h.delete key
  | clear => exact h.clear
  | _ => exact h

theorem exchanged_lived :
    Exchanged Lived fun s => ∃ r : Replica, s = r.snapshot ∧ ∃ seen, r.Lived seen where
  snapshot {r} h := ⟨r, rfl, h⟩
  merge := by
    rintro r _ ⟨seen, hseen⟩ ⟨peer, rfl, more, hmore⟩
    exact ⟨_, hseen.merge hmore⟩

/-- **Every honest board lived**: a replica of a network, or a board of a desk in a session. -/
theorem Honest.lived (h : b.Honest) : b.Lived := by
  cases h with
  | plain table => exact trivial
  | network name moves i => exact ⟨_, Network.lived_run name moves i⟩
  | session madeUp settings moves i held =>
    refine (Session.each_run exchanged_lived madeUp settings moves ?_).desk i _ _ held
    rintro _ ⟨site, call⟩ _ d hd
    cases hcall : call.isDirect with
    | false => exact Desk.each_perform stable_lived hd site hcall
    | true =>
      cases call with
      | direct k op => exact hd.update k ((hd.board stable_lived k).perform op)
      | _ => nomatch hcall

end Board

end DebugDesk
