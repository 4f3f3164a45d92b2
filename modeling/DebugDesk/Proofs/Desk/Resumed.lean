/-
  When the workers have gone on.

  While somebody stands on a board, no message of the workers lets them go on.  So after a user has
  let them go on, this has to be noted, and noting it ends every pause on the board: a mark is taken
  away, and a record without an id disappears, because all that it said was that somebody stood
  there.  What is left are the breakpoints with their conditions, and the next message that is not
  of another stop lets all workers go on (`noteResumed_ends_pauses_only`).

  On a replica every change is a write, and a write overrides what others have written meanwhile.
  It matters therefore that going on writes what it has to and nothing more: one write for each
  outdated record, in the order of the keys (`Board.releaseAll_shared`).  All other registers, those
  of deletions among them, keep their stamps.

  The crux is that the records are worked off one by one while the board changes, from a list that
  was made before.  They have different keys, so the board still holds each of them when its turn
  comes (`Board.foldl_release_shared`).  Behind the last one no record is outdated, and so noting it
  again changes nothing at all, not even a clock.
-/
import DebugDesk.Proofs.Desk.Condition
import DebugDesk.Proofs.Desk.History

namespace DebugDesk

/-! ## Outdated records -/

namespace Breakpoint

/-- Whether going on makes a record outdated: no breakpoint is confirmed at its line, or a worker
    stands there. -/
def outdated (x : Breakpoint) : Bool := x.id.isNone || x.hit

variable {x y : Breakpoint}

theorem released_eq_some_iff : x.released = some y ↔ x.id.isSome ∧ y = x.withHit false := by
  obtain ⟨id, condition, hit⟩ := x
  cases id with
  | none => exact ⟨nofun, fun h => nomatch h.1⟩
  | some id => exact ⟨fun h => ⟨rfl, (Option.some.inj h).symm⟩, fun h => congrArg some h.2.symm⟩

/-- What going on leaves is up to date. -/
theorem outdated_of_released (h : x.released = some y) : y.outdated = false := by
  obtain ⟨hid, rfl⟩ := released_eq_some_iff.mp h
  obtain ⟨id, hid⟩ := Option.isSome_iff_exists.mp hid
  show (x.id.isNone || false) = false
  rw [hid]
  rfl

end Breakpoint

namespace Board

/-! ## One write for each outdated record -/

theorem release_of_not_outdated (b : Board) {entry : String × Breakpoint}
    (h : entry.2.outdated = false) : b.release entry = b := by
  obtain ⟨hid, hhit⟩ := Bool.or_eq_false_iff.mp h
  rw [release, hid, hhit]
  rfl

theorem release_of_outdated {r : Replica} {key : String} {x : Breakpoint}
    (hx : r.get? key = some x) (h : x.outdated = true) :
    (shared r).release (key, x) = shared (r.write key x.released) := by
  obtain ⟨id, condition, hit⟩ := x
  cases id with
  | none =>
    -- a deletion writes nothing where there is no record, but here is one
    show shared (r.delete key) = shared (r.write key none)
    rw [Replica.delete, hx]
    rfl
  | some id =>
    obtain rfl : hit = true := h
    rfl

/-- **Outdated records are written one after another, and no others**: the keys ascend, so each
    record is still there when its turn comes. -/
theorem foldl_release_shared (entries : List (String × Breakpoint)) :
    ∀ {r : Replica}, entries.Pairwise (fun e e' => e.1 < e'.1) →
      (∀ e ∈ entries, r.get? e.1 = some e.2) →
      entries.foldl release (shared r) =
        shared (r.writeAll ((entries.filter (·.2.outdated)).map fun e => (e.1, e.2.released))) := by
  induction entries with
  | nil => exact fun _ _ => rfl
  | cons e entries ih =>
    obtain ⟨key, x⟩ := e
    intro r hasc hheld
    have hx : r.get? key = some x := hheld (key, x) List.mem_cons_self
    have hrest : ∀ e ∈ entries, r.get? e.1 = some e.2 := fun e he =>
      hheld e (List.mem_cons_of_mem _ he)
    rw [List.foldl_cons]
    cases houtdated : x.outdated with
    | false =>
      rw [release_of_not_outdated _ houtdated, ih (List.Pairwise.of_cons hasc) hrest,
        List.filter_cons, if_neg (by rw [houtdated]; exact Bool.false_ne_true)]
    | true =>
      have hnext : ∀ e ∈ entries, (r.write key x.released).get? e.1 = some e.2 := by
        intro e he
        have hlt : key < e.1 := List.rel_of_pairwise_cons hasc he
        have hne : e.1 ≠ key := (String.ne_of_lt hlt).symm
        rw [Replica.get?_write_of_ne r hne]
        exact hrest e he
      rw [release_of_outdated hx houtdated, ih (List.Pairwise.of_cons hasc) hnext,
        List.filter_cons, if_pos houtdated]
      rfl

theorem releaseAll_shared (r : Replica) :
    (shared r).releaseAll = shared (r.writeAll
      ((r.entries.filter (·.2.outdated)).map fun e => (e.1, e.2.released))) :=
  foldl_release_shared r.entries r.entries_ascending fun e he =>
    (Replica.mem_entries_iff r e.1 e.2).mp he

/-! ## What is left -/

variable {b : Board}

/-- Where no record is outdated, going on does nothing. -/
theorem releaseAll_of_not_outdated (h : ∀ e ∈ b.entries, e.2.outdated = false) :
    b.releaseAll = b := by
  refine List.foldlRecOn (motive := fun c : Board => c = b) b.entries release rfl ?_
  intro c hc e he
  rw [release_of_not_outdated c (h e he)]
  exact hc

theorem not_outdated_of_mem_releaseAll (h : b.Dominant) :
    ∀ e ∈ b.releaseAll.entries, e.2.outdated = false := by
  rintro ⟨key, y⟩ hmem
  have hget := (mem_entries_iff _ key y).mp hmem
  rw [get?_releaseAll h] at hget
  obtain ⟨x, _, hreleased⟩ := Option.bind_eq_some_iff.mp hget
  exact Breakpoint.outdated_of_released hreleased

/-- **Going on twice is going on once**, with every stamp and clock. -/
theorem releaseAll_releaseAll (h : b.Dominant) : b.releaseAll.releaseAll = b.releaseAll :=
  releaseAll_of_not_outdated (not_outdated_of_mem_releaseAll h)

/-- **The breakpoints are left**, each without its mark. -/
theorem entries_releaseAll (h : b.Dominant) :
    b.releaseAll.entries =
      (b.entries.filter (·.2.id.isSome)).map fun e => (e.1, { e.2 with hit := false }) := by
  have hasc : ((b.entries.filter (·.2.id.isSome)).map
      fun e => (e.1, { e.2 with hit := false })).Pairwise fun e e' => e.1 < e'.1 :=
    List.pairwise_map.mpr (b.entries_ascending.filter _)
  refine entries_eq_of_get? (c := plain ⟨_, hasc⟩) fun key => Option.ext fun y => ?_
  rw [← mem_entries_iff (plain ⟨_, hasc⟩), get?_releaseAll h, Option.bind_eq_some_iff]
  show _ ↔ (key, y) ∈ (b.entries.filter (·.2.id.isSome)).map _
  rw [List.mem_map]
  constructor
  · rintro ⟨x, hx, hreleased⟩
    obtain ⟨hid, rfl⟩ := Breakpoint.released_eq_some_iff.mp hreleased
    exact ⟨(key, x), List.mem_filter.mpr ⟨(b.mem_entries_iff key x).mpr hx, hid⟩, rfl⟩
  · rintro ⟨⟨k, x⟩, hmem, heq⟩
    obtain ⟨hentry, hid⟩ := List.mem_filter.mp hmem
    obtain ⟨rfl, rfl⟩ := Prod.mk.inj heq
    exact ⟨x, (b.mem_entries_iff k x).mp hentry, Breakpoint.released_eq_some_iff.mpr ⟨hid, rfl⟩⟩

/-- On a replica a record that was not outdated keeps its register, as do keys without a record; the
    outdated records are written under the next readings of the clock, in the order of the keys. -/
theorem registers_releaseAll {r : Replica} (h : r.Dominant) :
    ∃ left, (shared r).releaseAll = shared left ∧
      left.clock = r.clock + (r.entries.filter (·.2.outdated)).length ∧
      (∀ key, (∀ x, r.get? key = some x → x.outdated = false) →
        left.registers.get? key = r.registers.get? key) ∧
      ∀ n key x, (r.entries.filter (·.2.outdated))[n]? = some (key, x) →
        left.registers.get? key = some ⟨x.released, ⟨r.clock + n + 1, r.id⟩⟩ := by
  refine ⟨_, releaseAll_shared r, ?_, fun key hkey => ?_, fun n key x hplace => ?_⟩
  · rw [Replica.writeAll_clock, List.length_map]
  · refine Replica.get?_registers_writeAll_of_notMem _ r fun hmem => ?_
    rw [List.map_map] at hmem
    obtain ⟨⟨k, x⟩, hentry, rfl⟩ := List.mem_map.mp hmem
    obtain ⟨hheld, houtdated⟩ := List.mem_filter.mp hentry
    have hnot := hkey x ((Replica.mem_entries_iff r k x).mp hheld)
    rw [hnot] at houtdated
    nomatch houtdated
  · have hasc : ((r.entries.filter (·.2.outdated)).map fun e => (e.1, e.2.released)).Pairwise
        fun c c' => c.1 < c'.1 := List.pairwise_map.mpr (r.entries_ascending.filter _)
    have hchange : ((r.entries.filter (·.2.outdated)).map fun e => (e.1, e.2.released))[n]?
        = some (key, x.released) := by
      rw [List.getElem?_map, hplace]
      rfl
    exact h.get?_registers_writeAll hasc hchange

/-! ## Nobody stands on the board -/

theorem anyHit_eq_false_iff (b : Board) :
    b.anyHit = false ↔ ∀ key x, b.get? key = some x → x.hit = false := by
  rw [anyHit, List.any_eq_false]
  constructor
  · intro h key x hx
    exact Bool.not_eq_true _ ▸ h (key, x) ((b.mem_entries_iff key x).mpr hx)
  · rintro h ⟨key, x⟩ hmem
    rw [h key x ((b.mem_entries_iff key x).mp hmem)]
    exact Bool.false_ne_true

theorem anyHit_releaseAll (h : b.Dominant) : b.releaseAll.anyHit = false := by
  refine (anyHit_eq_false_iff _).mpr fun key x hx => ?_
  have hnot := not_outdated_of_mem_releaseAll h (key, x) ((mem_entries_iff _ key x).mpr hx)
  exact (Bool.or_eq_false_iff.mp hnot).2

/-- Only a stop brings somebody to a board on which nobody stands. -/
theorem anyHit_apply (h : b.Dominant) (idle : b.anyHit = false) {e : Event}
    (he : ∀ line, e ≠ .paused line) : (b.apply e).anyHit = false := by
  have hidle := b.anyHit_eq_false_iff.mp idle
  refine (anyHit_eq_false_iff _).mpr fun key y hy => ?_
  rw [get?_apply h] at hy
  split at hy
  · cases e with
    | created id line =>
      obtain rfl : Breakpoint.confirmed id = y := Option.some.inj hy
      rfl
    | deleted id line =>
      obtain ⟨x, hx, hleft⟩ := Option.bind_eq_some_iff.mp hy
      rw [hidle key x hx] at hleft
      nomatch hleft
    | paused line => exact absurd rfl (he line)
    | unrecognized => exact hidle key y hy
  · exact hidle key y hy

end Board

namespace Desk

variable {d : Desk} {operator : String} {board : Board}

/-! ## Noting it -/

section Registered

variable (h : d.store.boards.get? operator = some board)

include h

theorem noteResumed_eq_leave :
    d.noteResumed operator = (d.leave operator board.releaseAll [], .ok ()) := by
  have hboard : d.store.board ⟨operator⟩ = board := board_of_get? h
  rw [noteResumed_of_get? h, leave, update, Store.update, Store.update, hboard, List.append_nil]

/-- Behind a message that leaves nobody standing, all workers are told to go on, and then the rest
    of the batch is heard. -/
theorem exists_handed_hear (site : Site) (m : Message) (rest : List Message)
    (idle : (board.apply m.event).anyHit = false) :
    ∃ e answer,
      Handed (d.update ⟨operator⟩ (·.apply m.event)) site operator (site.roster operator) .resume
        (e, answer) ∧
      (answer = .ok () → d.hear site ⟨operator, m :: rest⟩ = e.hear site ⟨operator, rest⟩) ∧
      (answer ≠ .ok () → d.hear site ⟨operator, m :: rest⟩ = (e, answer)) := by
  have hupdated := get?_update_self h (·.apply m.event)
  have hidle : ¬ ((d.update ⟨operator⟩ (·.apply m.event)).store.board ⟨operator⟩).anyHit = true := by
    rw [board_of_get? hupdated, idle]
    exact Bool.false_ne_true
  have hhear : d.hear site ⟨operator, m :: rest⟩ = hearAll site ⟨operator⟩ d (m :: rest) := by
    rw [hear, handle?_of_get? h]
  obtain ⟨⟨e, answer⟩, hsent⟩ : ∃ result, (d.update ⟨operator⟩ (·.apply m.event)).dispatchAll site
      operator (site.roster operator) .resume = result := ⟨_, rfl⟩
  have hscan : (d.update ⟨operator⟩ (·.apply m.event)).resumeIfIdle site ⟨operator⟩ = (e, answer) := by
    rw [resumeIfIdle, if_neg hidle]
    exact hsent
  have handed := handed_iff.mpr hsent.symm
  refine ⟨e, answer, handed, ?_⟩
  rw [hhear, hearAll, hscan]
  cases answer with
  | ok =>
    refine ⟨fun _ => ?_, fun hne => absurd rfl hne⟩
    -- the operator is registered still
    have hsent : e.store.boards.get? operator = some (board.apply m.event) := by
      rw [handed.store_eq]
      exact hupdated
    rw [hear, handle?_of_get? hsent]
  | error error => exact ⟨fun hok => (by cases hok), fun _ => rfl⟩

end Registered

/-- **Noting that the workers have gone on ends every pause, and nothing else.**  On an honest board
    the breakpoints are left, each with its key, id and condition, and without a mark.  Nothing is
    sent, and no other board changes.  A replica makes one write for each record that was outdated,
    in the order of the keys, and keeps all other registers.  Noting it again changes nothing at
    all.  Behind the next message that is not of a stop, all workers are told to go on. -/
theorem noteResumed_ends_pauses_only (d : Desk) (operator : String) (board : Board)
    (registered : d.store.boards.get? operator = some board) (honest : board.Honest) :
    ∃ e left, d.noteResumed operator = (e, .ok ()) ∧
      e.store.boards.get? operator = some left ∧
      left.entries = (board.entries.filter (·.2.id.isSome)).map
        (fun entry => (entry.1, { entry.2 with hit := false })) ∧
      e.attempts = d.attempts ∧
      (∀ other, other ≠ operator → e.store.boards.get? other = d.store.boards.get? other) ∧
      (∀ r, board = .shared r → ∃ r', left = .shared r' ∧
        r'.clock = r.clock + (r.entries.filter (·.2.outdated)).length ∧
        (∀ key, (∀ x, r.get? key = some x → x.outdated = false) →
          r'.registers.get? key = r.registers.get? key) ∧
        ∀ n key x, (r.entries.filter (·.2.outdated))[n]? = some (key, x) →
          r'.registers.get? key = some ⟨x.released, ⟨r.clock + n + 1, r.id⟩⟩) ∧
      e.noteResumed operator = (e, .ok ()) ∧
      ∀ site m rest, (∀ line, m.event ≠ .paused line) → ∃ f answer,
        Handed (e.update ⟨operator⟩ (·.apply m.event)) site operator (site.roster operator) .resume
          (f, answer) ∧
        (answer = .ok () → e.hear site ⟨operator, m :: rest⟩ = f.hear site ⟨operator, rest⟩) ∧
        (answer ≠ .ok () → e.hear site ⟨operator, m :: rest⟩ = (f, answer)) := by
  have hdom : board.Dominant := honest.dominant
  have hleft := (get?_leave d operator operator board.releaseAll []).trans (if_pos rfl)
  have hothers : ∀ other, other ≠ operator →
      (d.leave operator board.releaseAll []).store.boards.get? other = d.store.boards.get? other :=
    fun other hne => (get?_leave d operator other _ _).trans (if_neg hne)
  have hagain : (d.leave operator board.releaseAll []).noteResumed operator
      = (d.leave operator board.releaseAll [], .ok ()) := by
    rw [noteResumed_eq_leave hleft, Board.releaseAll_releaseAll hdom, leave_self hleft]
  refine ⟨_, _, noteResumed_eq_leave registered, hleft, Board.entries_releaseAll hdom,
    List.append_nil _, hothers, ?_, hagain, fun site m rest hm => ?_⟩
  · rintro r rfl
    exact Board.registers_releaseAll hdom
  · have hidle := Board.anyHit_apply hdom.releaseAll (Board.anyHit_releaseAll hdom) hm
    exact exists_handed_hear hleft site m rest hidle

/-! ## Stops that were heard of elsewhere -/

/-- One desk hears of breakpoints on lines 5 and 8 and of stops at lines 5 and 9, and another desk
    merges what the first knows. -/
def stopsHandedOver : List (Session.Move Bool) :=
  [.call false (calm, .register Sample.operator),
   .call false (calm, .hear (Sample.created "w1" 1 5)),
   .call false (calm, .hear (Sample.created "w1" 2 8)),
   .call false (calm, .hear (Sample.paused "w1" 5)),
   .call false (calm, .hear (Sample.paused "w2" 9)),
   .share false Sample.operator,
   .call true (calm, .register Sample.operator),
   .merge true 0]

/-- The second desk, which writes as "b". -/
def standing : Desk := (Session.run (fun _ => "") Session.twoReplicas stopsHandedOver).desk true

/-- What it has merged: the workers stand at a breakpoint and at a line without one. -/
def mergedStops : Replica :=
  ⟨"b", 4, .ofList [("5", ⟨some ⟨some 1, "", true⟩, ⟨3, "a"⟩⟩),
    ("8", ⟨some (.confirmed 2), ⟨2, "a"⟩⟩), ("9", ⟨some ⟨none, "", true⟩, ⟨4, "a"⟩⟩)]⟩

/-- Two of the three records are written, the breakpoint on line 8 keeps its stamp, and a message
    that says nothing makes the desk let both workers go on. -/
theorem noteResumed_standing :
    standing.store.boards.get? Sample.operator = some (.shared mergedStops) ∧
      ∃ e left, standing.noteResumed Sample.operator = (e, .ok ()) ∧
        e.store.boards.get? Sample.operator = some (.shared left) ∧
        left.entries = [("5", .confirmed 1), ("8", .confirmed 2)] ∧ left.clock = 6 ∧
        left.registers.get? "5" = some ⟨some (.confirmed 1), ⟨5, "b"⟩⟩ ∧
        left.registers.get? "8" = some ⟨some (.confirmed 2), ⟨2, "a"⟩⟩ ∧
        left.registers.get? "9" = some ⟨none, ⟨6, "b"⟩⟩ ∧
        ∃ f, Handed (e.update ⟨Sample.operator⟩ (·.apply .unrecognized)) calm Sample.operator
            ["w1", "w2"] .resume (f, .ok ()) ∧
          f.attempts = e.attempts ++
            [.delivered "DebugCommandRequest" ⟨"PythonUDFV2-operator-1", "w1", "continue"⟩,
             .delivered "DebugCommandRequest" ⟨"PythonUDFV2-operator-1", "w2", "continue"⟩] := by
  have hget : standing.store.boards.get? Sample.operator = some (.shared mergedStops) := by decide
  have honest : (Board.shared mergedStops).Honest :=
    .session (fun _ => "") Session.twoReplicas stopsHandedOver true hget
  obtain ⟨e, _, hnote, hleft, hentries, _, _, hregisters, _, hnext⟩ :=
    noteResumed_ends_pauses_only standing Sample.operator _ hget honest
  obtain ⟨left, rfl, hclock, hkept, hwritten⟩ := hregisters mergedStops rfl
  have hquiet : (Message.debugger "w1" "n = 3").event = .unrecognized := by decide
  obtain ⟨f, answer, handed, _⟩ := hnext calm (.debugger "w1" "n = 3") [] fun line heq => by
    rw [hquiet] at heq
    nomatch heq
  rw [hquiet] at handed
  -- nothing is refused, so the desk behind the message can be computed
  have he : (standing.noteResumed Sample.operator).1 = e := congrArg Prod.fst hnote
  have hf := handed_iff.mp handed
  have hanswer : answer = .ok () := (congrArg Prod.snd hf).trans rfl
  have hsent : f.attempts = e.attempts ++
      [.delivered "DebugCommandRequest" ⟨"PythonUDFV2-operator-1", "w1", "continue"⟩,
       .delivered "DebugCommandRequest" ⟨"PythonUDFV2-operator-1", "w2", "continue"⟩] := by
    refine (congrArg (fun result => result.1.attempts) hf).trans ?_
    rw [← he]
    decide
  subst hanswer
  have hunmarked : ∀ x, mergedStops.get? "8" = some x → x.outdated = false := by
    intro x hx
    obtain rfl : Breakpoint.confirmed 2 = x := Option.some.inj hx
    rfl
  exact ⟨hget, e, left, hnote, hleft, hentries.trans (by decide), hclock,
    hwritten 0 "5" ⟨some 1, "", true⟩ rfl, hkept "8" hunmarked, hwritten 1 "9" ⟨none, "", true⟩ rfl,
    f, handed, hsent⟩

end Desk

end DebugDesk
