/-
  The range of doubles.

  A number that is written with an exponent may be too great for a double.  There are two ways to
  read such a number, and they differ in a few numbers around the greatest double.

  1. **Rounding once.**  The limit is half a unit beyond the greatest double; what lies below it
     rounds to a double, what reaches it does not.  Exponents far from the limit are decided by the
     number of digits alone, so no power of ten is formed that the text does not call for.

  2. **Rounding each factor.**  The digits are taken into a word of 64 bits for as long as they fit
     (`takeWord`), which leaves a word times a power of ten (`Scaled`).  Each of the two is rounded
     to a double, and then their product.  So `17976931348623158e292` is too great although the
     number itself rounds to the greatest double, because its significand is rounded up first.
-/
import DebugDesk.Text.Decimal

namespace DebugDesk.Text

/-- The least number that rounds beyond the greatest double. -/
def beyondDouble : Nat := Nat.pow 2 1024 - Nat.pow 2 970

/-! ## Rounding once -/

/-- Whether `digits · 10 ^ exponent` stays within the range of a double. -/
def inDoubleRange (digits : Nat) (exponent : Int) : Bool :=
  let magnitude : Int := (Nat.toDigits 10 digits).length + exponent
  if digits = 0 ∨ magnitude < 308 then true
  else if magnitude > 310 then false
  else match exponent with
    | .ofNat e => digits * Nat.pow 10 e < beyondDouble
    | .negSucc e => digits < beyondDouble * Nat.pow 10 (e + 1)

example : inDoubleRange 15 300 ∧ ¬ inDoubleRange 1 999 ∧ inDoubleRange 0 999 := by decide
example : inDoubleRange 17976931348623158 292 := by decide +kernel
example : ¬ inDoubleRange 17976931348623159 292 := by decide +kernel

/-! ## A word times a power of ten -/

/-- The value of a run of digits behind `start`, as far as it fits a word of 64 bits, and the digits
    from the first one that does not fit. -/
def takeWord (start : Nat) : List Char → Nat × List Char
  | [] => (start, [])
  | c :: rest =>
    let value := Decimal.valueFrom start [c]
    if value < UInt64.size then takeWord value rest else (start, c :: rest)

/-- What is taken fits a word. -/
theorem takeWord_lt (text : List Char) {start : Nat} (h : start < UInt64.size) :
    (takeWord start text).1 < UInt64.size := by
  induction text generalizing start with
  | nil => exact h
  | cons c rest ih =>
    simp only [takeWord]
    split
    · exact ih ‹_›
    · exact h

/-- A number as `significand · 10 ^ exponent`, its significand in a word of 64 bits. -/
structure Scaled where
  significand : Nat
  exponent : Int
  significand_lt : significand < UInt64.size

/-- The number of some whole digits, the digits of a fraction and an exponent.  A whole digit that
    is left over raises the exponent by one, a digit of the fraction that is taken lowers it. -/
def Scaled.ofDigits (whole fraction : List Char) (exponent : Int) : Scaled :=
  let front := takeWord 0 whole
  let all := takeWord front.1 fraction
  { significand := all.1
    exponent := exponent + front.2.length - (fraction.length - all.2.length)
    significand_lt := takeWord_lt fraction (takeWord_lt whole (by decide)) }

example : (Scaled.ofDigits "12".toList "5".toList 3).significand = 125 := by decide
example : (Scaled.ofDigits "18446744073709551616".toList [] 3).exponent = 4 := by decide

/-! ## Rounding each factor -/

/-- The number of 53 significant bits that is nearest to a number; of two, the even one. -/
def roundToDouble (n : Nat) : Nat :=
  let unit := Nat.pow 2 (n.log2 - 52)
  let rest := n % unit
  let units := n / unit
  if unit < 2 * rest ∨ (unit = 2 * rest ∧ units % 2 = 1) then (units + 1) * unit else units * unit

/-- A number of at most 53 bits is a double. -/
theorem roundToDouble_of_lt {n : Nat} (h : n < Nat.pow 2 53) : roundToDouble n = n := by
  have hlog : n.log2 - 52 = 0 := by
    by_cases hn : n = 0
    · subst hn; decide
    · have := (Nat.log2_lt hn).mpr h
      omega
  simp [roundToDouble, hlog, Nat.mod_one]

/-- Rounding moves a number by at most half a unit of its last place. -/
theorem roundToDouble_close (n : Nat) :
    2 * roundToDouble n ≤ 2 * n + Nat.pow 2 (n.log2 - 52) ∧
      2 * n ≤ 2 * roundToDouble n + Nat.pow 2 (n.log2 - 52) := by
  have hpos : 0 < Nat.pow 2 (n.log2 - 52) := Nat.two_pow_pos (n.log2 - 52)
  have hdiv := Nat.div_add_mod' n (Nat.pow 2 (n.log2 - 52))
  have hmod := Nat.mod_lt n hpos
  simp only [roundToDouble]
  split
  · rw [Nat.add_mul]; omega
  · omega

/-- Whether a number stays within the range of a double when its significand and its power of ten
    are rounded before they are multiplied.  The greatest power of ten among the doubles is
    `10 ^ 308`. -/
def Scaled.inDoubleRange (n : Scaled) : Bool :=
  match n.exponent with
  | .negSucc _ => true
  | .ofNat e =>
    n.significand == 0 ||
      (e ≤ 308 && roundToDouble n.significand * roundToDouble (Nat.pow 10 e) < beyondDouble)

example : (Scaled.ofDigits "17976931348623157".toList [] 292).inDoubleRange := by decide +kernel
example : ¬ (Scaled.ofDigits "17976931348623158".toList [] 292).inDoubleRange := by decide +kernel
example : (Scaled.ofDigits "179769313486231582".toList [] 291).inDoubleRange := by decide +kernel

end DebugDesk.Text
