/-
  The life of a record on a board.

  A record comes with a confirmation or with a stop, and there is always something behind it: a
  breakpoint that the debugger has numbered, or a worker that stands at the line.  Such a record is
  *grounded*.  Events ground what they write, since a confirmation gives an id, a stop marks the
  line as hit, and a removal takes the id away only from a line that is hit.  Editing a condition
  leaves both the id and the mark.

  Going on is the one change that takes the mark away.  The crux is that it looks at each key once
  (`get?_releaseAll`): a record without an id is dropped, so no record is left that has lost its
  mark and has no id either.

  So whatever a desk does to a board keeps its records grounded (`stable_grounded`).
-/
import DebugDesk.Proofs.Desk.Call

namespace DebugDesk

/-! ## Going on, key by key -/

/-- What going on leaves of a record. -/
def Breakpoint.released (x : Breakpoint) : Option Breakpoint :=
  if x.id.isNone then none else some (x.withHit false)

namespace Board

variable {b : Board}

theorem entries_ascending (b : Board) : b.entries.Pairwise fun e e' => e.1 < e'.1 := by
  cases b with
  | plain t => exact t.ascending
  | shared r => exact r.entries_ascending

theorem lookup_entries (b : Board) (key : String) : b.entries.lookup key = b.get? key := by
  have h := get?_unstamped b key
  rw [← entries_unstamped]
  exact h

theorem get?_release (h : b.Dominant) {key : String} {x : Breakpoint} (hx : b.get? key = some x)
    (other : String) :
    (b.release (key, x)).get? other = if other = key then x.released else b.get? other := by
  obtain ⟨id, condition, hit⟩ := x
  unfold Board.release Breakpoint.released
  cases id with
  | none => exact get?_delete h key other
  | some id =>
    cases hit with
    | true => exact get?_set h key other _
    | false =>
      show b.get? other = if other = key then some ⟨some id, condition, false⟩ else b.get? other
      split
      · rename_i hk
        rw [hk, hx]
      · rfl

/-- Releasing entries in a row: their keys ascend, so none is met twice. -/
theorem get?_foldl_release (entries : List (String × Breakpoint)) :
    ∀ {b : Board}, b.Dominant → entries.Pairwise (fun e e' => e.1 < e'.1) →
      (∀ e ∈ entries, b.get? e.1 = some e.2) → ∀ key,
        (entries.foldl Board.release b).get? key =
          match entries.lookup key with
          | none => b.get? key
          | some x => x.released := by
  induction entries with
  | nil => exact fun _ _ _ _ => rfl
  | cons e entries ih =>
    obtain ⟨k, x⟩ := e
    intro b h hasc hheld key
    have hx : b.get? k = some x := hheld (k, x) List.mem_cons_self
    -- the entries behind the first have greater keys, so releasing the first leaves them
    have hheld' : ∀ e ∈ entries, (b.release (k, x)).get? e.1 = some e.2 := by
      intro e he
      have hlt : k < e.1 := List.rel_of_pairwise_cons hasc he
      have hne : e.1 ≠ k := (String.ne_of_lt hlt).symm
      rw [get?_release h hx, if_neg hne]
      exact hheld e (List.mem_cons_of_mem _ he)
    rw [List.foldl_cons, ih (h.release (k, x)) (List.Pairwise.of_cons hasc) hheld' key,
      List.lookup_cons, get?_release h hx]
    by_cases hk : key = k
    · subst hk
      have hnone : entries.lookup key = none := Table.lookup_eq_none_of_pairwise hasc
      simp [hnone]
    · have hbeq : (key == k) = false := beq_eq_false_iff_ne.mpr hk
      simp [hbeq, hk]

/-- **What a key answers after going on.** -/
theorem get?_releaseAll (h : b.Dominant) (key : String) :
    b.releaseAll.get? key = (b.get? key).bind Breakpoint.released := by
  have hheld : ∀ e ∈ b.entries, b.get? e.1 = some e.2 :=
    fun e he => (b.mem_entries_iff e.1 e.2).mp he
  rw [Board.releaseAll, get?_foldl_release b.entries h b.entries_ascending hheld key,
    lookup_entries]
  cases b.get? key <;> rfl

end Board

/-! ## Grounded records -/

/-- A record is grounded at a key if the key is that of a line, and a worker stands at the line
    where no breakpoint is confirmed. -/
def Breakpoint.Grounded (key : String) (x : Breakpoint) : Prop :=
  (∃ line, key = lineKey line) ∧ (x.id = none → x.hit = true)

/-- Writes take effect on the board, and all its records are grounded. -/
structure Board.Grounded (b : Board) : Prop where
  dominant : b.Dominant
  held : ∀ {key : String} {x : Breakpoint}, b.get? key = some x → x.Grounded key

namespace Board

variable {b : Board}

theorem grounded_empty (writer : Option String) : (empty writer).Grounded where
  dominant := dominant_empty writer
  held h := by cases writer <;> nomatch h

theorem Grounded.set (h : b.Grounded) {key : String} {x : Breakpoint} (hx : x.Grounded key) :
    (b.set key x).Grounded where
  dominant := h.dominant.set key x
  held hget := by
    rw [get?_set h.dominant] at hget
    split at hget
    · rename_i hk
      injection hget with he
      rw [hk, ← he]
      exact hx
    · exact h.held hget

theorem Grounded.delete (h : b.Grounded) (key : String) : (b.delete key).Grounded where
  dominant := h.dominant.delete key
  held hget := by
    rw [get?_delete h.dominant] at hget
    split at hget
    · nomatch hget
    · exact h.held hget

theorem Grounded.clear (h : b.Grounded) : b.clear.Grounded where
  dominant := h.dominant.clear
  held hget := by
    rw [← get?_unstamped, unstamped_clear h.dominant] at hget
    nomatch hget

theorem Grounded.apply (h : b.Grounded) (e : Event) : (b.apply e).Grounded := by
  cases e with
  | created id line => exact h.set ⟨⟨line, rfl⟩, fun hid => nomatch hid⟩
  | deleted id line =>
    simp only [Board.apply]
    split
    · split
      · rename_i x _ hhit
        exact h.set ⟨⟨line, rfl⟩, fun _ => hhit⟩
      · exact h.delete _
    · exact h
  | paused line => exact h.set ⟨⟨line, rfl⟩, fun _ => rfl⟩
  | unrecognized => exact h

theorem Grounded.releaseAll (h : b.Grounded) : b.releaseAll.Grounded where
  dominant := h.dominant.releaseAll
  held hget := by
    rw [get?_releaseAll h.dominant] at hget
    obtain ⟨x, hx, hrel⟩ := Option.bind_eq_some_iff.mp hget
    unfold Breakpoint.released at hrel
    split at hrel
    · nomatch hrel
    · rename_i hid
      injection hrel with he
      refine ⟨(h.held hx).1, fun hnone => ?_⟩
      -- the id is that of the record before, and that one had an id
      rw [← he] at hnone
      exact absurd (Option.isNone_iff_eq_none.mpr hnone) hid

/-- **Whatever a desk does to a board keeps its records grounded.** -/
theorem stable_grounded : Board.Stable Board.Grounded where
  empty := grounded_empty
  clear h := h.clear
  apply h := h.apply
  releaseAll h := h.releaseAll
  edit h key x hmem condition := by
    have hx : x.Grounded key := h.held ((mem_entries_iff _ key x).mp hmem)
    exact h.set (x := x.withCondition condition) hx

end Board

end DebugDesk
