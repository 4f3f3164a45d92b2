/-
  Numbers in decimal.

  Line numbers and breakpoint ids are 32-bit words that travel as decimal text, in console titles,
  in commands and as the keys of a breakpoint map.  Writing uses no leading zeros; reading accepts
  them, and refuses anything that is not an ASCII digit and any value past the word's range.

  The crux is `natural?_digits`: what is written reads back.

  The frame marker of a stop carries its line number as `(N)`, where `N` may be written with the
  decimal digits of any script (Unicode category Nd): a group of Arabic-Indic digits is a group,
  although no line number can be read from it.
-/
namespace DebugDesk.Text.Decimal

/-- The decimal digits of a number, most significant first, without leading zeros. -/
def digits (n : Nat) : List Char :=
  Nat.toDigits 10 n

/-- The value of a run of ASCII digits, after `start` has been read. -/
def valueFrom (start : Nat) (text : List Char) : Nat :=
  text.foldl (fun n c => 10 * n + (c.toNat - '0'.toNat)) start

/-- The number that a non-empty run of ASCII digits writes. -/
def natural? (text : List Char) : Option Nat :=
  if text ≠ [] ∧ text.all Char.isDigit then some (valueFrom 0 text) else none

/-- The 32-bit word that a non-empty run of ASCII digits writes, if it is in range. -/
def word32? (text : List Char) : Option UInt32 :=
  match natural? text with
  | some n => if n < UInt32.size then some (UInt32.ofNat n) else none
  | none => none

/-! ## What is written reads back -/

theorem digits_of_lt {n : Nat} (h : n < 10) : digits n = [n.digitChar] :=
  Nat.toDigits_of_lt_base h

theorem digits_of_le {n : Nat} (h : 10 ≤ n) : digits n = digits (n / 10) ++ [(n % 10).digitChar] :=
  Nat.toDigits_of_base_le (by decide) h

theorem isDigit_digitChar : ∀ {d : Nat}, d < 10 → (Nat.digitChar d).isDigit := by decide

theorem value_digitChar : ∀ {d : Nat}, d < 10 → (Nat.digitChar d).toNat - '0'.toNat = d := by
  decide

theorem digits_ne_nil (n : Nat) : digits n ≠ [] := by
  by_cases h : n < 10
  · simp [digits_of_lt h]
  · simp [digits_of_le (Nat.le_of_not_lt h)]

theorem isDigit_of_mem_digits (n : Nat) : ∀ c ∈ digits n, c.isDigit := by
  induction n using Nat.strongRecOn with
  | ind n ih =>
    by_cases h : n < 10
    · rw [digits_of_lt h]
      intro c hc
      rw [List.mem_singleton.mp hc]
      exact isDigit_digitChar h
    · rw [digits_of_le (Nat.le_of_not_lt h)]
      intro c hc
      rcases List.mem_append.mp hc with hc | hc
      · exact ih (n / 10) (by omega) c hc
      · rw [List.mem_singleton.mp hc]
        exact isDigit_digitChar (Nat.mod_lt n (by decide))

theorem valueFrom_digits (n : Nat) : valueFrom 0 (digits n) = n := by
  induction n using Nat.strongRecOn with
  | ind n ih =>
    by_cases h : n < 10
    · rw [digits_of_lt h]
      simpa [valueFrom] using value_digitChar h
    · rw [digits_of_le (Nat.le_of_not_lt h), valueFrom, List.foldl_append]
      have hq : List.foldl (fun n c => 10 * n + (c.toNat - '0'.toNat)) 0 (digits (n / 10)) = n / 10 :=
        ih (n / 10) (by omega)
      have hr := value_digitChar (Nat.mod_lt n (show 10 > 0 by decide))
      rw [hq, List.foldl_cons, List.foldl_nil, hr]
      omega

/-- **What is written reads back.** -/
theorem natural?_digits (n : Nat) : natural? (digits n) = some n := by
  rw [natural?, if_pos ⟨digits_ne_nil n, List.all_eq_true.mpr (isDigit_of_mem_digits n)⟩,
    valueFrom_digits]

/-- A word that is written reads back. -/
theorem word32?_digits (w : UInt32) : word32? (digits w.toNat) = some w := by
  simp [word32?, natural?_digits, UInt32.toNat_lt_size w]

example : word32? "007".toList = some 7 := by decide
example : word32? "4294967296".toList = none := by decide

end DebugDesk.Text.Decimal

namespace DebugDesk.Text

/-! ## Digits of every script -/

/-- The code points of the zeros.  The digits of a script stand in runs of ten, so each starts such a
    run; the mathematical digits are five runs in a row. -/
def digitZeros : List Nat :=
  [0x0030, 0x0660, 0x06F0, 0x07C0, 0x0966, 0x09E6, 0x0A66, 0x0AE6, 0x0B66, 0x0BE6, 0x0C66, 0x0CE6,
   0x0D66, 0x0DE6, 0x0E50, 0x0ED0, 0x0F20, 0x1040, 0x1090, 0x17E0, 0x1810, 0x1946, 0x19D0, 0x1A80,
   0x1A90, 0x1B50, 0x1BB0, 0x1C40, 0x1C50, 0xA620, 0xA8D0, 0xA900, 0xA9D0, 0xA9F0, 0xAA50, 0xABF0,
   0xFF10, 0x104A0, 0x10D30, 0x10D40, 0x11066, 0x110F0, 0x11136, 0x111D0, 0x112F0, 0x11450,
   0x114D0, 0x11650, 0x116C0, 0x116D0, 0x116DA, 0x11730, 0x118E0, 0x11950, 0x11BF0, 0x11C50,
   0x11D50, 0x11DA0, 0x11F50, 0x16130, 0x16A60, 0x16AC0, 0x16B50, 0x16D70, 0x1CCF0, 0x1D7CE,
   0x1D7D8, 0x1D7E2, 0x1D7EC, 0x1D7F6, 0x1E140, 0x1E2F0, 0x1E4F0, 0x1E5F1, 0x1E950, 0x1FBF0]

/-- Whether a character is a decimal digit of some script. -/
def isDecimalDigit (c : Char) : Bool :=
  digitZeros.any fun first => first ≤ c.toNat && c.toNat < first + 10

/-- The ASCII digits are decimal digits. -/
theorem isDecimalDigit_of_isDigit {c : Char} (h : c.isDigit) : isDecimalDigit c := by
  have hc : 48 ≤ c.toNat ∧ c.toNat ≤ 57 := by
    simp only [Char.isDigit, Bool.and_eq_true, decide_eq_true_eq] at h
    exact ⟨h.1, h.2⟩
  refine List.any_eq_true.mpr ⟨0x30, by decide, ?_⟩
  simp only [Bool.and_eq_true, decide_eq_true_eq]
  omega

example : isDecimalDigit '٣' ∧ isDecimalDigit '9' ∧ ¬ isDecimalDigit '²' := by decide

end DebugDesk.Text
