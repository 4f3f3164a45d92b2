/-
  Exactly the operators that start over.

  A status update speaks of any number of operators, registered or not, and nothing says in which
  order they are worked off.  It does not matter: an operator is named once, and emptying one board
  leaves all others alone, so the boards afterwards are the same in every order
  (`foldl_resetOne_of_perm`).

  Exactly the boards of those operators are emptied that are registered and start over.  On a replica
  this is one deletion for each breakpoint and no more, because a needless deletion would override
  what peers write meanwhile (`Replica.Emptied`).  The deletions carry stamps of their own, each later
  than anything the replica has seen in its life, whether it still holds it or not; and traces of
  older deletions keep theirs.

  So an emptied board has nothing left to delete, and the same update again changes nothing, not even
  a clock (`takeStatus_takeStatus`).
-/
import DebugDesk.Proofs.Board.Life
import DebugDesk.Proofs.Desk.Resumed
import DebugDesk.Proofs.Desk.Status

namespace DebugDesk

/-! ## What emptying makes of a replica -/

namespace Replica

/-- What emptying makes of a replica. -/
structure Emptied (r left : Replica) : Prop where
  /-- One write for each breakpoint. -/
  clock_eq : left.clock = r.clock + r.entries.length
  /-- Each breakpoint has given way to a deletion, in the order of the keys. -/
  deleted : ∀ n key x, r.entries[n]? = some (key, x) →
    left.registers.get? key = some ⟨none, ⟨r.clock + n + 1, r.id⟩⟩
  /-- The deletions are later than anything the replica has seen. -/
  fresh : ∀ key held, (r.get? key).isSome → left.registers.get? key = some held →
    ∀ seen, r.Lived seen → ∀ w ∈ seen, w.2.stamp < held.stamp
  /-- No two deletions share a stamp. -/
  distinct : ∀ key other held held', (r.get? key).isSome → (r.get? other).isSome →
    left.registers.get? key = some held → left.registers.get? other = some held' →
    held.stamp = held'.stamp → key = other
  /-- Where there was no breakpoint, the register stays: that of an older deletion, or none. -/
  kept : ∀ key, r.get? key = none → left.registers.get? key = r.registers.get? key

/-- A breakpoint has a place among the entries. -/
theorem exists_place {r : Replica} {key : String} (h : (r.get? key).isSome) :
    ∃ (n : Nat) (x : Breakpoint), r.entries[n]? = some (key, x) := by
  obtain ⟨x, hx⟩ := Option.isSome_iff_exists.mp h
  obtain ⟨n, hplace⟩ := List.mem_iff_getElem?.mp ((mem_entries_iff r key x).mpr hx)
  exact ⟨n, x, hplace⟩

/-- **Clearing empties a replica on which writes take effect.** -/
theorem Dominant.emptied {r : Replica} (h : r.Dominant) : r.Emptied r.clear := by
  have hasc : (r.entries.map fun e => (e.1, (none : Option Breakpoint))).Pairwise
      fun c c' => c.1 < c'.1 := List.pairwise_map.mpr r.entries_ascending
  have hdeleted : ∀ n key x, r.entries[n]? = some (key, x) →
      r.clear.registers.get? key = some ⟨none, ⟨r.clock + n + 1, r.id⟩⟩ := by
    intro n key x hplace
    have hchange : (r.entries.map fun e => (e.1, (none : Option Breakpoint)))[n]?
        = some (key, none) := by
      rw [List.getElem?_map, hplace]
      rfl
    rw [clear_eq_writeAll]
    exact h.get?_registers_writeAll hasc hchange
  refine ⟨?_, hdeleted, ?_, ?_, ?_⟩
  · rw [clear_eq_writeAll, writeAll_clock, List.length_map]
  · intro key held hlive hheld seen lived w hw
    obtain ⟨n, x, hplace⟩ := exists_place hlive
    obtain rfl := Option.some.inj ((hdeleted n key x hplace).symm.trans hheld)
    exact lived.stamp_lt hw (by show r.clock < r.clock + n + 1; omega)
  · intro key other held held' hlive hlive' hheld hheld' hstamp
    obtain ⟨n, x, hplace⟩ := exists_place hlive
    obtain ⟨m, y, hplace'⟩ := exists_place hlive'
    obtain rfl := Option.some.inj ((hdeleted n key x hplace).symm.trans hheld)
    obtain rfl := Option.some.inj ((hdeleted m other y hplace').symm.trans hheld')
    -- the same reading was made for the same place
    have hreading : r.clock + n + 1 = r.clock + m + 1 := congrArg Stamp.clock hstamp
    obtain rfl : n = m := by omega
    exact congrArg Prod.fst (Option.some.inj (hplace.symm.trans hplace'))
  · intro key hnone
    rw [clear_eq_writeAll]
    refine get?_registers_writeAll_of_notMem _ r fun hmem => ?_
    rw [List.map_map] at hmem
    obtain ⟨⟨k, x⟩, hentry, rfl⟩ := List.mem_map.mp hmem
    have hx : r.get? k = some x := (mem_entries_iff r k x).mp hentry
    change r.get? k = none at hnone
    rw [hnone] at hx
    nomatch hx

end Replica

namespace Board

variable {b : Board}

/-- An empty board is left as it is by clearing, with its clock. -/
theorem clear_of_entries_nil (h : b.entries = []) : b.clear = b := by
  cases b with
  | plain t =>
    have ht : t = .empty := Table.ext_entries h
    rw [ht]
    rfl
  | shared r =>
    show shared r.clear = shared r
    rw [Replica.clear, show r.entries = [] from h]
    rfl

theorem clear_clear (h : b.Dominant) : b.clear.clear = b.clear :=
  clear_of_entries_nil (entries_clear_of_dominant h)

end Board

/-! ## In any order -/

/-- Whether an update says that an operator starts over. -/
def StatusUpdate.Resets (update : StatusUpdate) (operator : String) : Prop :=
  ∃ said, update.get? operator = some said ∧ said.state = .uninitialized

theorem StatusUpdate.mem_resets_iff (update : StatusUpdate) (operator : String) :
    operator ∈ update.resets ↔ update.Resets operator := by
  rw [resets, List.mem_map]
  constructor
  · rintro ⟨⟨_, said⟩, hmem, rfl⟩
    obtain ⟨hentry, hreset⟩ := List.mem_filter.mp hmem
    exact ⟨said, (update.mem_entries_iff _ said).mp hentry, of_decide_eq_true hreset⟩
  · rintro ⟨said, hget, hstate⟩
    exact ⟨(operator, said), List.mem_filter.mpr
      ⟨(update.mem_entries_iff operator said).mpr hget, decide_eq_true hstate⟩, rfl⟩

namespace Desk

/-- Two desks are one if their boards answer the same, and all else is the same. -/
theorem eq_of_boards {d e : Desk} (hsettings : d.settings = e.settings)
    (hwriter : d.store.writer = e.store.writer)
    (hboards : ∀ operator, d.store.boards.get? operator = e.store.boards.get? operator)
    (hattempts : d.attempts = e.attempts) : d = e := by
  obtain ⟨settings, ⟨writer, boards⟩, attempts⟩ := d
  obtain ⟨settings', ⟨writer', boards'⟩, attempts'⟩ := e
  obtain rfl : settings = settings' := hsettings
  obtain rfl : writer = writer' := hwriter
  obtain rfl : boards = boards' := Table.ext_get? hboards
  obtain rfl : attempts = attempts' := hattempts
  rfl

/-- Boards are emptied in any order. -/
theorem foldl_resetBoard_of_perm {operators others : List String} (h : operators.Perm others)
    (nodup : others.Nodup) (state : Desk × Nat) :
    operators.foldl resetBoard state = others.foldl resetBoard state := by
  obtain ⟨hsettings, hwriter, hattempts⟩ := kept_foldl_resetBoard operators state
  obtain ⟨hsettings', hwriter', hattempts'⟩ := kept_foldl_resetBoard others state
  refine Prod.ext (eq_of_boards (hsettings.trans hsettings'.symm) (hwriter.trans hwriter'.symm)
    (fun operator => ?_) (hattempts.trans hattempts'.symm)) ?_
  · rw [get?_foldl_resetBoard _ (h.nodup_iff.mpr nodup), get?_foldl_resetBoard _ nodup]
    simp only [h.mem_iff]
  · rw [count_foldl_resetBoard, count_foldl_resetBoard, (h.filter _).length_eq]

/-- **An update may be worked off in any order.** -/
theorem foldl_resetOne_of_perm (d : Desk) {update : StatusUpdate}
    {order : List (String × Statistics)} (h : order.Perm update.entries) :
    order.foldl resetOne (d, 0) = d.takeStatus update := by
  rw [foldl_resetOne, takeStatus_eq]
  exact foldl_resetBoard_of_perm ((h.filter _).map _) (resets_nodup update) (d, 0)

/-! ## Again -/

theorem contains_takeStatus (d : Desk) (update : StatusUpdate) (operator : String) :
    (d.takeStatus update).1.store.contains operator = d.store.contains operator := by
  rw [Store.contains, Table.contains, get?_takeStatus, Store.contains, Table.contains]
  split
  · rw [Option.isSome_map]
  · rfl

/-- **The same update again changes nothing**, and counts the same. -/
theorem takeStatus_takeStatus {d : Desk} (h : d.Dominant) (update : StatusUpdate) :
    (d.takeStatus update).1.takeStatus update = d.takeStatus update := by
  obtain ⟨hsettings, hwriter, hattempts⟩ :=
    kept_foldl_resetBoard update.resets ((d.takeStatus update).1, 0)
  rw [← takeStatus_eq] at hsettings hwriter hattempts
  refine Prod.ext (eq_of_boards hsettings hwriter (fun operator => ?_) hattempts) ?_
  · rw [get?_takeStatus]
    split
    · rename_i hreset
      rw [get?_takeStatus, if_pos hreset]
      cases hboard : d.store.boards.get? operator with
      | none => rfl
      | some board => exact congrArg some (Board.clear_clear (h operator board hboard))
    · rfl
  · rw [count_takeStatus, count_takeStatus,
      List.filter_congr fun operator _ => contains_takeStatus d update operator]

/-! ## Exactly the right operators -/

theorem count_takeStatus_eq (d : Desk) (update : StatusUpdate) :
    (d.takeStatus update).2 = (update.entries.filter fun said =>
      said.2.state = .uninitialized ∧ d.store.contains said.1 = true).length := by
  rw [count_takeStatus, StatusUpdate.resets, List.filter_map, List.length_map, List.filter_filter]
  congr 1
  refine List.filter_congr fun said _ => ?_
  simp only [Function.comp_apply, OperatorState.isReset, Bool.decide_and, Bool.decide_eq_true]
  exact Bool.and_comm _ _

/-- **A status update empties exactly the boards of the operators that start over.**  At a desk with
    honest boards, its count is that of the operators it names that are registered and start over.
    Their boards are empty afterwards and still there, and on a replica this is one deletion for each
    breakpoint, each under a stamp of its own that is later than anything the replica has seen, while
    all other registers stay.  All other boards are as before, nobody is registered, and nothing is
    sent.  It does not matter in which order the update is worked off; and worked off once more, in
    any order, it counts the same and changes nothing at all. -/
theorem takeStatus_empties_exactly (d : Desk) (update : StatusUpdate)
    (honest : ∀ operator board, d.store.boards.get? operator = some board → board.Honest) :
    ∃ e count, d.takeStatus update = (e, count) ∧
      count = (update.entries.filter fun said =>
        said.2.state = .uninitialized ∧ d.store.contains said.1 = true).length ∧
      (∀ operator board, d.store.boards.get? operator = some board →
        ∃ left, e.store.boards.get? operator = some left ∧
          (update.Resets operator → left.entries = [] ∧
            ∀ r, board = .shared r →
              ∃ r', left = .shared r' ∧ (∃ seen, r.Lived seen) ∧ r.Emptied r') ∧
          (¬ update.Resets operator → left = board)) ∧
      (∀ operator, d.store.boards.get? operator = none → e.store.boards.get? operator = none) ∧
      e.attempts = d.attempts ∧
      ∀ order : List (String × Statistics), order.Perm update.entries →
        order.foldl resetOne (d, 0) = (e, count) ∧ order.foldl resetOne (e, 0) = (e, count) := by
  have hdominant : d.Dominant := fun operator board hget => (honest operator board hget).dominant
  refine ⟨(d.takeStatus update).1, (d.takeStatus update).2, rfl, count_takeStatus_eq d update,
    fun operator board hget => ?_,
    fun operator hnone => ?_, attempts_takeStatus d update, fun order hperm => ⟨?_, ?_⟩⟩
  · have hleft := get?_takeStatus d update operator
    rw [hget] at hleft
    by_cases hreset : operator ∈ update.resets
    · rw [if_pos hreset] at hleft
      refine ⟨board.clear, hleft, fun _ => ⟨?_, ?_⟩, fun hnot => ?_⟩
      · exact Board.entries_clear_of_dominant (hdominant operator board hget)
      · rintro r rfl
        exact ⟨r.clear, rfl, (honest operator _ hget).lived,
          Replica.Dominant.emptied (hdominant operator _ hget)⟩
      · exact absurd ((update.mem_resets_iff operator).mp hreset) hnot
    · rw [if_neg hreset] at hleft
      exact ⟨board, hleft, fun h => absurd ((update.mem_resets_iff operator).mpr h) hreset,
        fun _ => rfl⟩
  · rw [get?_takeStatus, hnone]
    split <;> rfl
  · exact foldl_resetOne_of_perm d hperm
  · rw [foldl_resetOne_of_perm _ hperm, takeStatus_takeStatus hdominant]

/-! ## A deletion that was there before -/

/-- One desk hears of breakpoints on lines 5 and 8, of the removal of the second, and of a stop at
    line 9.  Another desk merges what the first knows, and hears of a breakpoint of its own at a
    second operator. -/
def partlyDeleted : List (Session.Move Bool) :=
  [.call false (calm, .register Sample.operator),
   .call false (calm, .hear (Sample.created "w1" 1 5)),
   .call false (calm, .hear (Sample.created "w1" 2 8)),
   .call false (calm, .hear (Sample.deleted "w1" 2 8)),
   .call false (calm, .hear (Sample.paused "w2" 9)),
   .share false Sample.operator,
   .call true (calm, .register Sample.operator),
   .merge true 0,
   .call true (calm, .register "neighbour"),
   .call true (calm, .hear { Sample.created "w3" 1 3 with operator := "neighbour" })]

/-- The second desk, which writes as "b". -/
def receiving : Desk := (Session.run (fun _ => "") Session.twoReplicas partlyDeleted).desk true

/-- What it has merged: two records, and the trace of a deletion. -/
def received : Replica :=
  ⟨"b", 4, .ofList [("5", ⟨some (.confirmed 1), ⟨1, "a"⟩⟩), ("8", ⟨none, ⟨3, "a"⟩⟩),
    ("9", ⟨some ⟨none, "", true⟩, ⟨4, "a"⟩⟩)]⟩

/-- The operator of the sample starts over, and so does one that nobody registered. -/
def twoStartOver : List (String × Statistics) :=
  [("unknown", ⟨.uninitialized, 0, 0⟩), ("neighbour", ⟨.running, 7, 7⟩),
   (Sample.operator, ⟨.uninitialized, 0, 0⟩)]

/-- Two of the three registers become deletions of "b", and the older deletion keeps its stamp. -/
theorem takeStatus_empties_receiving :
    receiving.store.boards.get? Sample.operator = some (.shared received) ∧
      ∃ e left, receiving.takeStatus (.ofList twoStartOver) = (e, 1) ∧
        e.store.boards.get? Sample.operator = some (.shared left) ∧
        left.entries = [] ∧ left.clock = 6 ∧
        left.registers.get? "5" = some ⟨none, ⟨5, "b"⟩⟩ ∧
        left.registers.get? "8" = some ⟨none, ⟨3, "a"⟩⟩ ∧
        left.registers.get? "9" = some ⟨none, ⟨6, "b"⟩⟩ ∧
        e.store.boards.get? "neighbour" = receiving.store.boards.get? "neighbour" ∧
        e.store.boards.get? "unknown" = none ∧
        twoStartOver.foldl resetOne (receiving, 0) = (e, 1) ∧
        twoStartOver.foldl resetOne (e, 0) = (e, 1) := by
  have hget : receiving.store.boards.get? Sample.operator = some (.shared received) := by decide
  obtain ⟨e, count, htake, hcount, hboards, hnone, _, horder⟩ :=
    takeStatus_empties_exactly receiving (.ofList twoStartOver) fun operator board held =>
      .session (fun _ => "") Session.twoReplicas partlyDeleted true held
  obtain rfl : count = 1 := hcount.trans (by decide)
  have hresets : StatusUpdate.Resets (.ofList twoStartOver) Sample.operator :=
    ⟨⟨.uninitialized, 0, 0⟩, by decide, rfl⟩
  have hruns : ¬ StatusUpdate.Resets (.ofList twoStartOver) "neighbour" := by
    rintro ⟨said, hsaid, hstate⟩
    obtain rfl : (⟨.running, 7, 7⟩ : Statistics) = said := Option.some.inj hsaid
    nomatch hstate
  obtain ⟨_, hleft, hemptied, _⟩ := hboards Sample.operator _ hget
  obtain ⟨hentries, hshared⟩ := hemptied hresets
  obtain ⟨left, rfl, _, emptied⟩ := hshared received rfl
  have hneighbour : (receiving.store.boards.get? "neighbour").isSome := by decide
  obtain ⟨board, hboard⟩ := Option.isSome_iff_exists.mp hneighbour
  obtain ⟨_, hsame, _, hkeeps⟩ := hboards "neighbour" board hboard
  obtain ⟨hfold, hfold'⟩ := horder twoStartOver (by decide)
  exact ⟨hget, e, left, htake, hleft, hentries, emptied.clock_eq,
    emptied.deleted 0 "5" (.confirmed 1) rfl, emptied.kept "8" rfl,
    emptied.deleted 1 "9" ⟨none, "", true⟩ rfl,
    (hsame.trans (congrArg some (hkeeps hruns))).trans hboard.symm, hnone "unknown" (by decide),
    hfold, hfold'⟩

end Desk

end DebugDesk
