/-
  Printed strings and numbers read back.

  A printed value is made of strings, numbers and literals, and each of these has to survive being
  printed on its own.

  1. **Strings** (`stringOf?_escaped`).  Every character is printed in one of three ways: behind a
     backslash by a letter, behind a backslash by its code, or as itself (`escapeChar_cases`).  Each
     way reads back as one code unit, the character's code point; and since no character is half of
     a surrogate pair, no two units are ever taken for a pair.

  2. **Numbers** (`number?_renderInteger`).  A printed integer has no leading zero and no fraction,
     so what decides is whether it stays in the range of a double.  Every integer whose magnitude
     fits a word of 64 bits does, because all its digits go into the significand, and rounding
     cannot as much as double it.

  To the scanner a number is a word, which ends at the first delimiter; and no delimiter stands in a
  number (`forall_isInWord_of_number?`).
-/
import DebugDesk.Json.Printer
import DebugDesk.Json.Token
import Mathlib.Data.List.Basic
import Mathlib.Data.List.TakeDrop
import Mathlib.Data.List.TakeWhile

namespace DebugDesk

/-! ## Digits fill a word -/

namespace Text

theorem le_valueFrom (start : Nat) (text : List Char) : start ≤ Decimal.valueFrom start text := by
  induction text generalizing start with
  | nil => exact Nat.le_refl start
  | cons c rest ih =>
    have hstep : start ≤ Decimal.valueFrom start [c] := by
      show start ≤ 10 * start + _
      omega
    exact Nat.le_trans hstep (ih _)

/-- Digits of a number that fits a word are all taken. -/
theorem takeWord_of_lt {start : Nat} {text : List Char}
    (h : Decimal.valueFrom start text < UInt64.size) :
    takeWord start text = (Decimal.valueFrom start text, []) := by
  induction text generalizing start with
  | nil => rfl
  | cons c rest ih =>
    have hrest : Decimal.valueFrom (Decimal.valueFrom start [c]) rest < UInt64.size := h
    have hfits : Decimal.valueFrom start [c] < UInt64.size :=
      Nat.lt_of_le_of_lt (le_valueFrom _ rest) hrest
    rw [takeWord]
    simp only [if_pos hfits]
    exact ih hrest

/-- A number that fits a word is its own significand. -/
theorem ofDigits_digits {n : Nat} (h : n < UInt64.size) :
    (Scaled.ofDigits (Decimal.digits n) [] 0).significand = n ∧
      (Scaled.ofDigits (Decimal.digits n) [] 0).exponent = 0 := by
  have hvalue := Decimal.valueFrom_digits n
  have htake : takeWord 0 (Decimal.digits n) = (n, []) := by
    have htake := takeWord_of_lt (by rw [hvalue]; exact h : Decimal.valueFrom 0 _ < UInt64.size)
    rwa [hvalue] at htake
  simp only [Scaled.ofDigits, htake]
  exact ⟨rfl, rfl⟩

/-- A word rounds to less than twice a word. -/
theorem roundToDouble_lt {n : Nat} (h : n < UInt64.size) : roundToDouble n < 2 * UInt64.size := by
  have hlog : n.log2 - 52 ≤ 12 := by
    by_cases hzero : n = 0
    · subst hzero
      decide
    · have hlt : n.log2 < 64 := (Nat.log2_lt hzero).mpr h
      omega
  have hunit : Nat.pow 2 (n.log2 - 52) ≤ Nat.pow 2 12 := Nat.pow_le_pow_right (by decide) hlog
  have hclose := (roundToDouble_close n).1
  have hsmall : Nat.pow 2 12 ≤ UInt64.size := by decide
  omega

/-- A number that fits a word is in the range of a double. -/
theorem inDoubleRange_ofDigits_digits {n : Nat} (h : n < UInt64.size) :
    (Scaled.ofDigits (Decimal.digits n) [] 0).inDoubleRange = true := by
  obtain ⟨hsignificand, hexponent⟩ := ofDigits_digits h
  rw [Scaled.inDoubleRange, hexponent, hsignificand]
  have hone : roundToDouble (Nat.pow 10 0) = 1 := roundToDouble_of_lt (by decide)
  have hlimit : 2 * UInt64.size < beyondDouble := by decide +kernel
  have hrange : roundToDouble n * roundToDouble (Nat.pow 10 0) < beyondDouble := by
    rw [hone, Nat.mul_one]
    exact Nat.lt_trans (roundToDouble_lt h) hlimit
  show (n == 0 || (decide (0 ≤ 308) && decide (_ < beyondDouble))) = true
  rw [decide_eq_true hrange]
  simp

/-! ## No leading zero -/

/-- A positive number does not start with a zero. -/
theorem Decimal.head?_digits {n : Nat} (h : 0 < n) : (digits n).head? ≠ some '0' := by
  induction n using Nat.strongRecOn with
  | ind n ih =>
    by_cases hn : n < 10
    · rw [digits_of_lt hn]
      intro hhead
      have hzero : n.digitChar = '0' := Option.some.inj hhead
      have hvalue := value_digitChar hn
      rw [hzero] at hvalue
      have : n = 0 := hvalue.symm.trans (by decide)
      omega
    · have hten : 10 ≤ n := Nat.le_of_not_lt hn
      rw [digits_of_le hten, List.head?_append_of_ne_nil _ (digits_ne_nil _)]
      exact ih (n / 10) (by omega) (by omega)

end Text

namespace Json

open DebugDesk.Text (Decimal.digits Scaled)

/-! ## Strings -/

/-- **A character is printed in one of three ways**: by a letter behind a backslash, by its code
    behind a backslash, or as itself. -/
theorem escapeChar_cases (c : Char) :
    (∃ letter, escapeChar c = ['\\', letter] ∧ letter ≠ 'u' ∧ letterEscape? letter = some c.toNat) ∨
    (c.toNat < 0x20 ∧ escapeChar c =
      ['\\', 'u', '0', '0', Nat.digitChar (c.toNat / 16), Nat.digitChar (c.toNat % 16)]) ∨
    (escapeChar c = [c] ∧ c ≠ '"' ∧ c ≠ '\\' ∧ ¬ c.toNat < 0x20) := by
  have letter (d : Char) (named : escapeChar c = ['\\', d]) (hd : d ≠ 'u')
      (hback : letterEscape? d = some c.toNat) :
      ∃ letter, escapeChar c = ['\\', letter] ∧ letter ≠ 'u' ∧
        letterEscape? letter = some c.toNat := ⟨d, named, hd, hback⟩
  by_cases hquote : c = '"'
  · exact .inl (letter '"' (by rw [hquote]; rfl) (by decide) (by rw [hquote]; rfl))
  by_cases hbackslash : c = '\\'
  · exact .inl (letter '\\' (by rw [hbackslash]; rfl) (by decide) (by rw [hbackslash]; rfl))
  by_cases hb : c = '\x08'
  · exact .inl (letter 'b' (by rw [hb]; rfl) (by decide) (by rw [hb]; rfl))
  by_cases hf : c = '\x0c'
  · exact .inl (letter 'f' (by rw [hf]; rfl) (by decide) (by rw [hf]; rfl))
  by_cases hn : c = '\n'
  · exact .inl (letter 'n' (by rw [hn]; rfl) (by decide) (by rw [hn]; rfl))
  by_cases hr : c = '\r'
  · exact .inl (letter 'r' (by rw [hr]; rfl) (by decide) (by rw [hr]; rfl))
  by_cases ht : c = '\t'
  · exact .inl (letter 't' (by rw [ht]; rfl) (by decide) (by rw [ht]; rfl))
  have hplain : escapeChar c = if c.toNat < 0x20 then
      ['\\', 'u', '0', '0', Nat.digitChar (c.toNat / 16), Nat.digitChar (c.toNat % 16)] else [c] := by
    simp only [escapeChar, if_neg hquote, if_neg hbackslash, if_neg hb, if_neg hf, if_neg hn,
      if_neg hr, if_neg ht]
  by_cases hlow : c.toNat < 0x20
  · exact .inr (.inl ⟨hlow, by rw [hplain, if_pos hlow]⟩)
  · exact .inr (.inr ⟨by rw [hplain, if_neg hlow], hquote, hbackslash, hlow⟩)

theorem hexDigit?_digitChar : ∀ {d : Nat}, d < 16 → hexDigit? (Nat.digitChar d) = some d := by
  decide

/-- A printed character reads back as one unit, its code point. -/
theorem units?_escapeChar_append (c : Char) (rest : List Char) :
    units? (escapeChar c ++ rest) = (units? rest).map (c.toNat :: ·) := by
  rcases escapeChar_cases c with ⟨letter, hc, hu, hback⟩ | ⟨hlow, hc⟩ | ⟨hc, _, hbackslash, hlow⟩
  · rw [hc]
    simp only [List.cons_append, List.nil_append]
    rw [units?.eq_3 _ _ fun _ _ _ _ _ h _ => hu h, hback]
  · have high := hexDigit?_digitChar (show c.toNat / 16 < 16 by omega)
    have low := hexDigit?_digitChar (Nat.mod_lt c.toNat (show 16 > 0 by decide))
    have hunit : hexUnit? '0' '0' (Nat.digitChar (c.toNat / 16)) (Nat.digitChar (c.toNat % 16))
        = some c.toNat := by
      have hzero : hexDigit? '0' = some 0 := by decide
      simp only [hexUnit?, hzero, high, low]
      congr 1
      omega
    rw [hc]
    simp only [List.cons_append, List.nil_append, units?, hunit]
  · rw [hc]
    simp only [List.cons_append, List.nil_append]
    rw [units?.eq_4 _ _ (fun _ _ _ _ _ h _ => hbackslash h) fun _ _ h _ => hbackslash h,
      if_neg (not_or.mpr ⟨hbackslash, hlow⟩)]

theorem units?_flatMap_escapeChar (chars : List Char) :
    units? (chars.flatMap escapeChar) = some (chars.map Char.toNat) := by
  induction chars with
  | nil => rfl
  | cons c chars ih => rw [List.flatMap_cons, units?_escapeChar_append, ih]; rfl

/-- No character is half of a surrogate pair. -/
theorem not_half_toNat (c : Char) : isHighHalf c.toNat = false ∧ isLowHalf c.toNat = false := by
  have hvalid : c.toNat < 0xD800 ∨ 0xDFFF < c.toNat := by
    rcases c.valid with h | h
    · exact .inl h
    · exact .inr h.1
  constructor
  · simp only [isHighHalf, Bool.and_eq_false_iff, decide_eq_false_iff_not]
    omega
  · simp only [isLowHalf, Bool.and_eq_false_iff, decide_eq_false_iff_not]
    omega

/-- The code points of some characters write these characters. -/
theorem ofUnits?_map_toNat (chars : List Char) : ofUnits? (chars.map Char.toNat) = some chars := by
  induction chars with
  | nil => rfl
  | cons c chars ih =>
    obtain ⟨hhigh, hlow⟩ := not_half_toNat c
    cases chars with
    | nil => simp [ofUnits?, hhigh, hlow]
    | cons next rest =>
      rw [List.map_cons, List.map_cons] at *
      rw [ofUnits?, ih, hhigh, hlow]
      simp

/-- **What stands between the quotes of a printed string reads back as the string.** -/
theorem stringOf?_escaped (s : String) :
    stringOf? (s.toList.flatMap escapeChar) = some (some s) := by
  rw [stringOf?, units?_flatMap_escapeChar, Option.map_some, ofUnits?_map_toNat, Option.map_some,
    String.ofList_toList]

/-! ## Numbers -/

/-- Digits without a leading zero are the whole part of a number. -/
theorem numberParts?_digits (n : Nat) :
    numberParts? (Decimal.digits n) = some (Decimal.digits n, none, none) := by
  have hall := Text.Decimal.isDigit_of_mem_digits n
  have hspan : (Decimal.digits n).span Char.isDigit = (Decimal.digits n, []) := by
    rw [List.span_eq_takeWhile_dropWhile, List.takeWhile_eq_self_iff.mpr hall,
      List.dropWhile_eq_nil_iff.mpr hall]
  have hlead : ¬ (Decimal.digits n = [] ∨
      ((Decimal.digits n).length > 1 ∧ (Decimal.digits n).head? = some '0')) := by
    rintro (hnil | ⟨hlong, hzero⟩)
    · exact Text.Decimal.digits_ne_nil n hnil
    · rcases Nat.eq_zero_or_pos n with hn | hn
      · subst hn
        exact absurd hlong (by decide)
      · exact Text.Decimal.head?_digits hn hzero
  simp only [numberParts?, hspan, if_neg hlead]
  rfl

theorem number?_digits {n : Nat} (h : n < UInt64.size) :
    number? (Decimal.digits n) = some (.integer n) := by
  have hsign : ∀ rest, Decimal.digits n ≠ '-' :: rest := by
    intro rest hrest
    have hmem : '-' ∈ Decimal.digits n := by rw [hrest]; exact List.mem_cons_self
    exact absurd (Text.Decimal.isDigit_of_mem_digits n '-' hmem) (by decide)
  rw [number?.eq_def]
  split
  · rename_i heq
    split at heq
    · exact absurd ‹_› (hsign _)
    · cases heq
      simp [numberParts?_digits, Text.inDoubleRange_ofDigits_digits h,
        Text.Decimal.valueFrom_digits]

theorem number?_minus_digits {n : Nat} (positive : 0 < n) (h : n < UInt64.size) :
    number? ('-' :: Decimal.digits n) = some (.integer (-n)) := by
  simp [number?, numberParts?_digits, Text.inDoubleRange_ofDigits_digits h,
    Text.Decimal.valueFrom_digits]
  omega

/-- **A printed integer reads back**, if its magnitude fits a word of 64 bits. -/
theorem number?_renderInteger {n : Int} (h : n.natAbs < UInt64.size) :
    number? (renderInteger n) = some (.integer n) := by
  cases n with
  | ofNat n => exact number?_digits h
  | negSucc n => exact number?_minus_digits (Nat.succ_pos n) h

/-! ### Numbers are words -/

/-- The characters at which a word ends: the blanks of the grammar, the quote and the marks. -/
def delimiters : List Char := [' ', '\t', '\n', '\r', '"', '[', ']', '\x7b', '\x7d', ',', ':']

/-- Whether a character may stand in a word. -/
def isInWord (c : Char) : Bool := !delimiters.contains c

theorem isInWord_of_isDigit {c : Char} (h : c.isDigit = true) : isInWord c = true := by
  have hnone : delimiters.all (fun d => !d.isDigit) = true := by decide
  rw [isInWord, Bool.not_eq_true', List.contains_eq_mem, decide_eq_false_iff_not]
  intro hmem
  have hnot := List.all_eq_true.mp hnone c hmem
  rw [h] at hnot
  nomatch hnot

theorem isDigit_of_natural? {text : List Char} {n : Nat} (h : Text.Decimal.natural? text = some n) :
    ∀ c ∈ text, c.isDigit = true := by
  rw [Text.Decimal.natural?] at h
  split at h
  · rename_i hall
    exact List.all_eq_true.mp hall.2
  · cases h

theorem forall_isInWord_of_exponent? {text : List Char} {e : Int} (h : exponent? text = some e) :
    ∀ c ∈ text, isInWord c = true := by
  have hdigits {digits : List Char} (hsome : Text.Decimal.natural? digits ≠ none) :
      ∀ c ∈ digits, isInWord c = true := by
    obtain ⟨n, hn⟩ := Option.ne_none_iff_exists'.mp hsome
    exact fun c hc => isInWord_of_isDigit (isDigit_of_natural? hn c hc)
  -- digits, and a sign in front of them at most
  rw [exponent?.eq_def] at h
  split at h
  · refine List.forall_mem_cons.mpr ⟨by decide, hdigits fun hnone => ?_⟩
    rw [hnone] at h
    nomatch h
  · refine List.forall_mem_cons.mpr ⟨by decide, hdigits fun hnone => ?_⟩
    rw [hnone] at h
    nomatch h
  · refine hdigits fun hnone => ?_
    rw [hnone] at h
    nomatch h

theorem forall_isInWord_of_numberParts? {text : List Char}
    {parts : List Char × Option (List Char) × Option Int} (h : numberParts? text = some parts) :
    ∀ c ∈ text, isInWord c = true := by
  have htake (l : List Char) : ∀ c ∈ l.takeWhile Char.isDigit, isInWord c = true := fun c hc =>
    isInWord_of_isDigit (List.mem_takeWhile_imp hc)
  rw [numberParts?] at h
  split at h
  rename_i whole rest hspan
  split at h
  · cases h
  split at h
  rename_i fraction behind hpair
  split at h
  · cases h
  -- behind the digits stands an exponent or nothing
  have hbehind : ∀ c ∈ behind, isInWord c = true := by
    split at h
    · exact fun c hc => absurd hc List.not_mem_nil
    · split at h
      · rename_i hmark
        split at h
        · refine List.forall_mem_cons.mpr ⟨?_, forall_isInWord_of_exponent? ‹_›⟩
          rcases hmark with rfl | rfl <;> decide
        · cases h
      · cases h
  rw [List.span_eq_takeWhile_dropWhile] at hspan
  obtain ⟨rfl, rfl⟩ := Prod.mk.inj hspan
  rw [← List.takeWhile_append_dropWhile (p := Char.isDigit) (l := text)]
  refine List.forall_mem_append.mpr ⟨htake text, ?_⟩
  split at hpair
  · -- a point and the digits of the fraction stand in between
    rename_i digits hrest
    obtain ⟨rfl, rfl⟩ := Prod.mk.inj hpair
    rw [hrest]
    refine List.forall_mem_cons.mpr ⟨by decide, ?_⟩
    rw [← List.takeWhile_append_dropWhile (p := Char.isDigit) (l := digits)]
    exact List.forall_mem_append.mpr ⟨htake digits, hbehind⟩
  · obtain ⟨rfl, rfl⟩ := Prod.mk.inj hpair
    exact hbehind

/-- **No delimiter stands in a number.** -/
theorem forall_isInWord_of_number? {word : List Char} {value : Json} (h : number? word = some value) :
    ∀ c ∈ word, isInWord c = true := by
  rw [number?.eq_def] at h
  split at h
  rename_i heq
  split at h
  · nomatch h
  · rename_i hparts
    have hdigits := forall_isInWord_of_numberParts? hparts
    split at heq
    · cases heq
      exact List.forall_mem_cons.mpr ⟨by decide, hdigits⟩
    · cases heq
      exact hdigits

end Json

end DebugDesk
