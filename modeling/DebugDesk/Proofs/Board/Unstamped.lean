/-
  A replicated board behaves as the plain board with the same records.

  `Board.unstamped` forgets everything about a board but its records: a plain board stays, and of a
  replica the live table remains.  Nothing that a board answers tells the two apart, since every
  answer comes from the entries or from a look-up.

  The crux is that forgetting commutes with every change, from single writes (`unstamped_set`,
  `unstamped_delete`, `unstamped_clear`) to what events and going on make of a board
  (`unstamped_apply`, `unstamped_releaseAll`).  The premise is in each case the one under which
  writes on a replica take effect, `Board.Dominant`, and each change keeps it.
-/
import DebugDesk.Desk
import DebugDesk.Proofs.Replica.Live

namespace DebugDesk

namespace Board

/-- The records of a board as a table. -/
def live : Board → Table Breakpoint
  | plain t => t
  | shared r => r.live

/-- The plain board with the same records. -/
def unstamped (b : Board) : Board := plain b.live

/-- No register of the board carries a later reading than its replica's clock; a plain board has
    neither. -/
def Dominant : Board → Prop
  | plain _ => True
  | shared r => r.Dominant

theorem dominant_empty (writer : Option String) : (empty writer).Dominant := by
  cases writer with
  | none => exact trivial
  | some id => exact Replica.dominant_empty id

/-! ## The answers are those of the plain board -/

@[simp] theorem get?_unstamped (b : Board) (key : String) : b.unstamped.get? key = b.get? key := by
  cases b with
  | plain t => rfl
  | shared r => exact r.get?_live key

@[simp] theorem entries_unstamped (b : Board) : b.unstamped.entries = b.entries := by
  cases b <;> rfl

@[simp] theorem contains_unstamped (b : Board) (key : String) :
    b.unstamped.contains key = b.contains key := by
  rw [contains, contains, get?_unstamped]

@[simp] theorem size_unstamped (b : Board) : b.unstamped.size = b.size := by
  rw [size, size, entries_unstamped]

@[simp] theorem isEmpty_unstamped (b : Board) : b.unstamped.isEmpty = b.isEmpty := by
  rw [isEmpty, isEmpty, size_unstamped]

@[simp] theorem find?_unstamped (b : Board) (id : UInt32) : b.unstamped.find? id = b.find? id := by
  rw [find?, find?, entries_unstamped]

@[simp] theorem anyHit_unstamped (b : Board) : b.unstamped.anyHit = b.anyHit := by
  rw [anyHit, anyHit, entries_unstamped]

theorem mem_entries_iff (b : Board) (key : String) (x : Breakpoint) :
    (key, x) ∈ b.entries ↔ b.get? key = some x := by
  cases b with
  | plain t => exact t.mem_entries_iff key x
  | shared r => exact r.mem_entries_iff key x

@[simp] theorem unstamped_empty (writer : Option String) : (empty writer).unstamped = empty none := by
  cases writer <;> rfl

/-! ## Single changes -/

variable {b : Board}

theorem Dominant.set (h : b.Dominant) (key : String) (x : Breakpoint) : (b.set key x).Dominant := by
  cases b with
  | plain t => exact trivial
  | shared r => exact Replica.Dominant.set h key x

theorem Dominant.delete (h : b.Dominant) (key : String) : (b.delete key).Dominant := by
  cases b with
  | plain t => exact trivial
  | shared r => exact Replica.Dominant.delete h key

theorem Dominant.clear (h : b.Dominant) : b.clear.Dominant := by
  cases b with
  | plain t => exact trivial
  | shared r => exact Replica.Dominant.clear h

theorem unstamped_set (h : b.Dominant) (key : String) (x : Breakpoint) :
    (b.set key x).unstamped = b.unstamped.set key x := by
  cases b with
  | plain t => rfl
  | shared r => exact congrArg plain (Replica.live_set h key x)

theorem unstamped_delete (h : b.Dominant) (key : String) :
    (b.delete key).unstamped = b.unstamped.delete key := by
  cases b with
  | plain t => rfl
  | shared r => exact congrArg plain (Replica.live_delete h key)

theorem unstamped_clear (h : b.Dominant) : b.clear.unstamped = b.unstamped.clear := by
  cases b with
  | plain t => rfl
  | shared r => exact congrArg plain (Replica.live_clear h)

/-- What a key answers after a change of a board on which writes take effect. -/
theorem get?_set (h : b.Dominant) (key other : String) (x : Breakpoint) :
    (b.set key x).get? other = if other = key then some x else b.get? other := by
  rw [← get?_unstamped, unstamped_set h, ← get?_unstamped b]
  exact Table.get?_insert _ key other x

theorem get?_delete (h : b.Dominant) (key other : String) :
    (b.delete key).get? other = if other = key then none else b.get? other := by
  rw [← get?_unstamped, unstamped_delete h, ← get?_unstamped b]
  exact Table.get?_erase _ key other

/-- Other keys answer as before, whether the change takes effect or not. -/
theorem get?_set_of_ne (b : Board) {key other : String} (hne : other ≠ key) (x : Breakpoint) :
    (b.set key x).get? other = b.get? other := by
  cases b with
  | plain t => exact (Table.get?_insert t key other x).trans (if_neg hne)
  | shared r => exact r.get?_write_of_ne hne (some x)

theorem get?_set_self (b : Board) (key : String) (x : Breakpoint) :
    (b.set key x).get? key = some x ∨ (b.set key x).get? key = b.get? key := by
  cases b with
  | plain t => exact Or.inl ((Table.get?_insert t key key x).trans (if_pos rfl))
  | shared r => exact r.get?_write_self key (some x)

theorem get?_delete_of_ne (b : Board) {key other : String} (hne : other ≠ key) :
    (b.delete key).get? other = b.get? other := by
  cases b with
  | plain t => exact (Table.get?_erase t key other).trans (if_neg hne)
  | shared r =>
    show (r.delete key).get? other = r.get? other
    rw [Replica.delete]
    split
    · exact r.get?_write_of_ne hne none
    · rfl

/-! ## Events -/

theorem Dominant.apply (h : b.Dominant) (e : Event) : (b.apply e).Dominant := by
  cases e with
  | created id line => exact h.set _ _
  | deleted id line =>
    simp only [Board.apply]
    split
    · split
      · exact h.set _ _
      · exact h.delete _
    · exact h
  | paused line => exact h.set _ _
  | unrecognized => exact h

theorem unstamped_apply (h : b.Dominant) (e : Event) :
    (b.apply e).unstamped = b.unstamped.apply e := by
  cases e with
  | created id line => exact unstamped_set h _ _
  | deleted id line =>
    simp only [Board.apply, get?_unstamped]
    split
    · split
      · exact unstamped_set h _ _
      · exact unstamped_delete h _
    · rfl
  | paused line =>
    simp only [Board.apply, get?_unstamped]
    exact unstamped_set h _ _
  | unrecognized => rfl

/-! ## Going on -/

theorem Dominant.release (h : b.Dominant) (entry : String × Breakpoint) :
    (b.release entry).Dominant := by
  unfold Board.release
  split
  · exact h.delete _
  · split
    · exact h.set _ _
    · exact h

theorem unstamped_release (h : b.Dominant) (entry : String × Breakpoint) :
    (b.release entry).unstamped = b.unstamped.release entry := by
  unfold Board.release
  split
  · exact unstamped_delete h _
  · split
    · exact unstamped_set h _ _
    · rfl

theorem Dominant.foldl_release (entries : List (String × Breakpoint)) :
    ∀ {b : Board}, b.Dominant → (entries.foldl Board.release b).Dominant := by
  induction entries with
  | nil => exact fun h => h
  | cons entry entries ih => exact fun h => ih (h.release entry)

theorem unstamped_foldl_release (entries : List (String × Breakpoint)) :
    ∀ {b : Board}, b.Dominant →
      (entries.foldl Board.release b).unstamped = entries.foldl Board.release b.unstamped := by
  induction entries with
  | nil => exact fun h => rfl
  | cons entry entries ih =>
    intro b h
    rw [List.foldl_cons, List.foldl_cons, ← unstamped_release h]
    exact ih (h.release entry)

theorem Dominant.releaseAll (h : b.Dominant) : b.releaseAll.Dominant :=
  Dominant.foldl_release b.entries h

theorem unstamped_releaseAll (h : b.Dominant) : b.releaseAll.unstamped = b.unstamped.releaseAll := by
  rw [Board.releaseAll, Board.releaseAll, entries_unstamped]
  exact unstamped_foldl_release b.entries h

end Board

end DebugDesk
