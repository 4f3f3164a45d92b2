/-
  Blank characters and trimming.

  A console title, a command text and a recorded line are all trimmed before they are read, and
  all three trim the same characters: the Unicode property White_Space, which is neither the ASCII
  blanks nor "whatever prints as nothing".  The zero-width space and the byte order mark are not
  blank, the no-break space and the two Unicode line separators are.

  The table is the data; `trimStart`, `trimEnd` and `trim` are the three cuts.  What they leave is
  pinned by `trimEnd_append_blanks` (trailing blanks never matter), by `trimEnd_eq_self` (a text
  that ends in something visible is left alone) and by `isBlank_of_trimEnd_eq` (what is left ends in
  something visible).
-/
namespace DebugDesk.Text

/-- Whether a code point lies in one of some ascending inclusive ranges.  The search stops at the first
    range that starts beyond the code point, so a letter never leads it through the far planes. -/
def inRanges (code : Nat) : List (Nat × Nat) → Bool
  | [] => false
  | (first, last) :: rest =>
    if code < first then false else if code ≤ last then true else inRanges code rest

/-- The runs of White_Space, as inclusive ranges of code points. -/
def blankRanges : List (Nat × Nat) :=
  [(0x0009, 0x000D), (0x0020, 0x0020), (0x0085, 0x0085), (0x00A0, 0x00A0), (0x1680, 0x1680),
   (0x2000, 0x200A), (0x2028, 0x2029), (0x202F, 0x202F), (0x205F, 0x205F), (0x3000, 0x3000)]

/-- Whether a character has the property White_Space. -/
def isBlank (c : Char) : Bool :=
  inRanges c.toNat blankRanges

/-- A text without its leading blanks. -/
def trimStart (text : List Char) : List Char :=
  text.dropWhile isBlank

/-- A text without its trailing blanks. -/
def trimEnd (text : List Char) : List Char :=
  (text.reverse.dropWhile isBlank).reverse

/-- A text without blanks at either end. -/
def trim (text : List Char) : List Char :=
  trimEnd (trimStart text)

/-! ## What trimming leaves -/

/-- Trailing blanks never matter. -/
theorem trimEnd_append_blanks (text blanks : List Char) (h : ∀ c ∈ blanks, isBlank c) :
    trimEnd (text ++ blanks) = trimEnd text := by
  simp only [trimEnd, List.reverse_append]
  rw [List.dropWhile_append_of_pos]
  intro c hc
  exact h c (List.mem_reverse.mp hc)

/-- A text that ends in something visible is left alone. -/
theorem trimEnd_eq_self (text : List Char) (c : Char) (h : isBlank c = false) :
    trimEnd (text ++ [c]) = text ++ [c] := by
  simp [trimEnd, h]

/-- Every text is its trimmed form followed by blanks. -/
theorem exists_blanks (text : List Char) :
    ∃ blanks, (∀ c ∈ blanks, isBlank c) ∧ text = trimEnd text ++ blanks := by
  refine ⟨(text.reverse.takeWhile isBlank).reverse, ?_, ?_⟩
  · intro c hc
    exact List.all_eq_true.mp List.all_takeWhile c (List.mem_reverse.mp hc)
  · rw [trimEnd, ← List.reverse_append, List.takeWhile_append_dropWhile, List.reverse_reverse]

/-- What trimming leaves ends in something visible. -/
theorem isBlank_of_trimEnd_eq {text front : List Char} {c : Char}
    (h : trimEnd text = front ++ [c]) : isBlank c = false := by
  have hdrop : text.reverse.dropWhile isBlank = c :: front.reverse := by
    rw [← List.reverse_reverse (text.reverse.dropWhile isBlank)]
    show (trimEnd text).reverse = c :: front.reverse
    rw [h, List.reverse_append]
    rfl
  have hhead := List.head?_dropWhile_not isBlank text.reverse
  rw [hdrop] at hhead
  exact hhead

/-- Nothing is left of a text exactly if all of it is blank. -/
theorem trimEnd_eq_nil_iff {text : List Char} : trimEnd text = [] ↔ ∀ c ∈ text, isBlank c := by
  constructor
  · intro h
    obtain ⟨blanks, hblanks, htext⟩ := exists_blanks text
    rw [h, List.nil_append] at htext
    rw [htext]
    exact hblanks
  · intro h
    exact trimEnd_append_blanks [] text h

/-- Where something is left of the second part of a text, the first part stays as it is. -/
theorem trimEnd_append {text : List Char} (start : List Char) (h : trimEnd text ≠ []) :
    trimEnd (start ++ text) = start ++ trimEnd text := by
  obtain ⟨blanks, hblanks, htext⟩ := exists_blanks text
  have hlast := (List.dropLast_concat_getLast h).symm
  have hvisible := isBlank_of_trimEnd_eq hlast
  have hleft : trimEnd (start ++ trimEnd text) = start ++ trimEnd text := by
    rw [hlast, ← List.append_assoc]
    exact trimEnd_eq_self _ _ hvisible
  calc trimEnd (start ++ text)
      = trimEnd ((start ++ trimEnd text) ++ blanks) := by rw [List.append_assoc, ← htext]
    _ = trimEnd (start ++ trimEnd text) := trimEnd_append_blanks _ blanks hblanks
    _ = start ++ trimEnd text := hleft

/-- A text that starts with something visible is trimmed at its end only. -/
theorem trim_cons {c : Char} (text : List Char) (h : isBlank c = false) :
    trim (c :: text) = trimEnd (c :: text) := by
  rw [trim, trimStart, List.dropWhile_cons_of_neg]
  rw [h]
  exact Bool.false_ne_true

/-- Leading blanks never matter, and the first visible character stays. -/
theorem trimStart_append {blanks : List Char} {c : Char} (h : ∀ b ∈ blanks, isBlank b)
    (hc : isBlank c = false) (rest : List Char) : trimStart (blanks ++ c :: rest) = c :: rest := by
  rw [trimStart, List.dropWhile_append_of_pos h, List.dropWhile_cons_of_neg]
  rw [hc]
  exact Bool.false_ne_true

/-- A trimmed text has no blanks at its end. -/
theorem eq_nil_of_trim_eq_append {text start blanks : List Char} (h : ∀ c ∈ blanks, isBlank c)
    (htrim : trim text = start ++ blanks) : blanks = [] := by
  rcases List.eq_nil_or_concat blanks with rfl | ⟨front, c, rfl⟩
  · rfl
  · rw [List.concat_eq_append, ← List.append_assoc] at htrim
    have hvisible := isBlank_of_trimEnd_eq htrim
    rw [h c (by simp)] at hvisible
    nomatch hvisible

/-- The ASCII digits are visible. -/
theorem isBlank_eq_false_of_isDigit {c : Char} (h : c.isDigit) : isBlank c = false := by
  have hc : 48 ≤ c.toNat ∧ c.toNat ≤ 57 := by
    simp only [Char.isDigit, Bool.and_eq_true, decide_eq_true_eq] at h
    exact ⟨h.1, h.2⟩
  -- the digits lie between the ranges of the space and of the next line
  have h₁ : ¬ c.toNat < 0x9 := by omega
  have h₂ : ¬ c.toNat ≤ 0xD := by omega
  have h₃ : ¬ c.toNat < 0x20 := by omega
  have h₄ : ¬ c.toNat ≤ 0x20 := by omega
  have h₅ : c.toNat < 0x85 := by omega
  simp only [isBlank, blankRanges, inRanges, h₁, h₂, h₃, h₄, h₅, if_true, if_false]

example : trim " \tbreak 5\n".toList = "break 5".toList := by decide
example : trimEnd "x\u200b".toList = "x\u200b".toList := by decide

end DebugDesk.Text
