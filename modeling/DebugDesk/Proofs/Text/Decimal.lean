/-
  What it means to write a number.

  Numbers travel as decimal text, and their readers (`natural?`, `word32?`) walk over it from the
  left.  What a text *writes* is said without the walk: its digits are ASCII digits, and its value
  is that of the positional system of base ten.  The two agree (`word32?_eq_some_iff`), so whatever
  is proved about texts with a number in them need not look at the readers again.
-/
import DebugDesk.Text.Blank
import DebugDesk.Text.Decimal
import Mathlib.Data.List.Induction
import Mathlib.Data.Nat.Digits.Defs

namespace DebugDesk.Text.Decimal

/-- The value of a digit. -/
def digitValue (c : Char) : Nat := c.toNat - '0'.toNat

/-- A text writes a word: it is a non-empty run of ASCII digits, leading zeros allowed, with the
    value of the word in the positional system of base ten. -/
structure Writes (text : List Char) (word : UInt32) : Prop where
  ne_nil : text ≠ []
  isDigit : ∀ c ∈ text, c.isDigit
  value : Nat.ofDigits 10 (text.reverse.map digitValue) = word.toNat

theorem valueFrom_eq_ofDigits (text : List Char) :
    valueFrom 0 text = Nat.ofDigits 10 (text.reverse.map digitValue) := by
  induction text using List.reverseRecOn with
  | nil => rfl
  | append_singleton text c ih =>
    have hlast : valueFrom 0 (text ++ [c]) = 10 * valueFrom 0 text + digitValue c := by
      rw [valueFrom, List.foldl_append]
      rfl
    rw [hlast, ih, List.reverse_append, List.reverse_singleton, List.singleton_append,
      List.map_cons, Nat.ofDigits_cons, Nat.add_comm]

theorem natural?_eq_some_iff {text : List Char} {n : Nat} :
    natural? text = some n ↔
      text ≠ [] ∧ (∀ c ∈ text, c.isDigit) ∧ Nat.ofDigits 10 (text.reverse.map digitValue) = n := by
  rw [natural?, ← valueFrom_eq_ofDigits, ← List.all_eq_true]
  constructor
  · intro h
    split at h
    · rename_i hdigits
      injection h with hvalue
      exact ⟨hdigits.1, hdigits.2, hvalue⟩
    · cases h
  · rintro ⟨hne, hdigits, rfl⟩
    rw [if_pos ⟨hne, hdigits⟩]

/-- **A text is read as a word exactly if it writes it.** -/
theorem word32?_eq_some_iff {text : List Char} {word : UInt32} :
    word32? text = some word ↔ Writes text word := by
  rw [word32?]
  constructor
  · intro h
    split at h
    · rename_i n hn
      obtain ⟨hne, hdigits, hvalue⟩ := natural?_eq_some_iff.mp hn
      split at h
      · rename_i hlt
        injection h with hword
        refine ⟨hne, hdigits, ?_⟩
        rw [hvalue, ← hword, UInt32.toNat_ofNat_of_lt' hlt]
      · cases h
    · cases h
  · intro h
    have hn : natural? text = some word.toNat :=
      natural?_eq_some_iff.mpr ⟨h.ne_nil, h.isDigit, h.value⟩
    rw [hn]
    simp [UInt32.toNat_lt_size word]

theorem writes_digits (word : UInt32) : Writes (digits word.toNat) word :=
  word32?_eq_some_iff.mp (word32?_digits word)

/-- A text that ends in a number has no trailing blanks. -/
theorem trimEnd_append_of_writes {e : List Char} {word : UInt32} (start : List Char)
    (he : Writes e word) : trimEnd (start ++ e) = start ++ e := by
  obtain ⟨front, last, rfl⟩ : ∃ front last, e = front ++ [last] :=
    ⟨_, _, (List.dropLast_concat_getLast he.ne_nil).symm⟩
  have hlast : last.isDigit := he.isDigit last (List.mem_append_right _ List.mem_cons_self)
  rw [← List.append_assoc]
  exact trimEnd_eq_self _ last (isBlank_eq_false_of_isDigit hlast)

end DebugDesk.Text.Decimal
