/-
  Cutting a text at a mark.

  Titles and commands are read by cutting them: behind a fixed opening, at the first occurrence of
  a character, or at its last.  Each cut is a recursion on the text, and each has one lemma saying
  that the pieces put together give the text back.
-/
namespace DebugDesk.Text

/-- What follows a fixed opening, if the text starts with it. -/
def after? : (opening text : List Char) → Option (List Char)
  | [], text => some text
  | _ :: _, [] => none
  | o :: opening, c :: text => if o = c then after? opening text else none

/-- The parts of a text around the first occurrence of a character. -/
def splitFirst (mark : Char) : List Char → Option (List Char × List Char)
  | [] => none
  | c :: text =>
    if c = mark then some ([], text)
    else (splitFirst mark text).map fun (left, right) => (c :: left, right)

/-- The parts of a text around the last occurrence of a character. -/
def splitLast (mark : Char) : List Char → Option (List Char × List Char)
  | [] => none
  | c :: text =>
    match splitLast mark text with
    | some (left, right) => some (c :: left, right)
    | none => if c = mark then some ([], text) else none

/-- All pieces of a text between occurrences of a character; empty pieces are kept, so there is
    always one piece more than there are marks. -/
def pieces (mark : Char) : List Char → List (List Char)
  | [] => [[]]
  | c :: text =>
    if c = mark then [] :: pieces mark text
    else match pieces mark text with
      | [] => [[c]]
      | piece :: rest => (c :: piece) :: rest

/-! ## The pieces give the text back -/

theorem after?_append (opening text : List Char) : after? opening (opening ++ text) = some text := by
  induction opening with
  | nil => rfl
  | cons o opening ih => simp [after?, ih]

theorem eq_append_of_after? {opening text rest : List Char} (h : after? opening text = some rest) :
    text = opening ++ rest := by
  induction opening generalizing text with
  | nil => simpa [after?] using h
  | cons o opening ih =>
    cases text with
    | nil => simp [after?] at h
    | cons c text =>
      simp only [after?] at h
      split at h
      · rename_i hoc
        rw [ih h, hoc]; rfl
      · cases h

theorem splitFirst_append (mark : Char) (left right : List Char) (h : mark ∉ left) :
    splitFirst mark (left ++ mark :: right) = some (left, right) := by
  induction left with
  | nil => simp [splitFirst]
  | cons c left ih =>
    have hc : c ≠ mark := fun e => h (by simp [e])
    have hl : mark ∉ left := fun m => h (by simp [m])
    simp [splitFirst, hc, ih hl]

theorem splitFirst_eq_none {mark : Char} {text : List Char} (h : mark ∉ text) :
    splitFirst mark text = none := by
  induction text with
  | nil => rfl
  | cons c text ih =>
    have hc : c ≠ mark := fun e => h (by simp [e])
    have ht : mark ∉ text := fun m => h (by simp [m])
    simp [splitFirst, hc, ih ht]

theorem notMem_of_splitFirst_eq_none {mark : Char} {text : List Char}
    (h : splitFirst mark text = none) : mark ∉ text := by
  induction text with
  | nil => exact List.not_mem_nil
  | cons c text ih =>
    rw [splitFirst] at h
    split at h
    · nomatch h
    · rename_i hc
      have hrest : splitFirst mark text = none := Option.map_eq_none_iff.mp h
      intro hmem
      rcases List.mem_cons.mp hmem with heq | hmem
      · exact hc heq.symm
      · exact ih hrest hmem

theorem eq_append_of_splitFirst {mark : Char} {text left right : List Char}
    (h : splitFirst mark text = some (left, right)) : text = left ++ mark :: right ∧ mark ∉ left := by
  induction text generalizing left with
  | nil => nomatch h
  | cons c text ih =>
    rw [splitFirst] at h
    split at h
    · rename_i hc
      cases h
      exact ⟨congrArg (· :: right) hc, List.not_mem_nil⟩
    · rename_i hc
      obtain ⟨⟨l, r⟩, hrest, hpair⟩ := Option.map_eq_some_iff.mp h
      cases hpair
      obtain ⟨htext, hnot⟩ := ih hrest
      refine ⟨congrArg (c :: ·) htext, fun hmem => ?_⟩
      rcases List.mem_cons.mp hmem with heq | hmem
      · exact hc heq.symm
      · exact hnot hmem

/-- A run of characters of one kind holds none that is not of this kind. -/
theorem notMem_of_run {kind : Char → Bool} {run : List Char} {mark : Char}
    (hrun : ∀ c ∈ run, kind c) (hmark : kind mark = false) : mark ∉ run := by
  intro hmem
  rw [hrun mark hmem] at hmark
  nomatch hmark

/-- A run ends at the first character that is not of its kind. -/
theorem takeWhile_run {kind : Char → Bool} {run : List Char} {mark : Char}
    (hrun : ∀ c ∈ run, kind c) (hmark : kind mark = false) (rest : List Char) :
    (run ++ mark :: rest).takeWhile kind = run := by
  rw [List.takeWhile_append_of_pos hrun, List.takeWhile_cons_of_neg (by simp [hmark]),
    List.append_nil]

theorem dropWhile_run {kind : Char → Bool} {run : List Char} {mark : Char}
    (hrun : ∀ c ∈ run, kind c) (hmark : kind mark = false) (rest : List Char) :
    (run ++ mark :: rest).dropWhile kind = mark :: rest := by
  rw [List.dropWhile_append_of_pos hrun, List.dropWhile_cons_of_neg (by simp [hmark])]

/-- While there is no mark, everything is taken. -/
theorem takeWhile_append_of_notMem {mark : Char} {left : List Char} (h : mark ∉ left)
    (right : List Char) :
    (left ++ right).takeWhile (· ≠ mark) = left ++ right.takeWhile (· ≠ mark) := by
  refine List.takeWhile_append_of_pos fun c hc => ?_
  exact decide_eq_true fun e => h (e ▸ hc)

theorem takeWhile_of_notMem {mark : Char} {text : List Char} (h : mark ∉ text) :
    text.takeWhile (· ≠ mark) = text := by
  have hself := takeWhile_append_of_notMem h []
  rw [List.append_nil] at hself
  rw [hself]
  exact List.append_nil text

theorem takeWhile_append_mark {mark : Char} {left : List Char} (h : mark ∉ left)
    (right : List Char) : (left ++ mark :: right).takeWhile (· ≠ mark) = left := by
  rw [takeWhile_append_of_notMem h, List.takeWhile_cons_of_neg (by simp), List.append_nil]

theorem splitLast_eq_none {mark : Char} {text : List Char} (h : mark ∉ text) :
    splitLast mark text = none := by
  induction text with
  | nil => rfl
  | cons c text ih =>
    have hc : c ≠ mark := fun e => h (by simp [e])
    have ht : mark ∉ text := fun m => h (by simp [m])
    simp [splitLast, ih ht, hc]

theorem splitLast_append (mark : Char) (left right : List Char) (h : mark ∉ right) :
    splitLast mark (left ++ mark :: right) = some (left, right) := by
  induction left with
  | nil => simp [splitLast, splitLast_eq_none h]
  | cons c left ih => simp [splitLast, ih]

theorem notMem_of_splitLast_eq_none {mark : Char} {text : List Char}
    (h : splitLast mark text = none) : mark ∉ text := by
  induction text with
  | nil => exact List.not_mem_nil
  | cons c text ih =>
    rw [splitLast] at h
    split at h
    · nomatch h
    · rename_i hnone
      split at h
      · nomatch h
      · rename_i hc
        intro hmem
        rcases List.mem_cons.mp hmem with heq | hmem
        · exact hc heq.symm
        · exact ih hnone hmem

theorem eq_append_of_splitLast {mark : Char} {text left right : List Char}
    (h : splitLast mark text = some (left, right)) : text = left ++ mark :: right ∧ mark ∉ right := by
  induction text generalizing left with
  | nil => nomatch h
  | cons c text ih =>
    rw [splitLast] at h
    split at h
    · rename_i l r hrest
      cases h
      obtain ⟨htext, hnot⟩ := ih hrest
      exact ⟨congrArg (c :: ·) htext, hnot⟩
    · rename_i hnone
      split at h
      · rename_i hc
        cases h
        exact ⟨congrArg (· :: right) hc, notMem_of_splitLast_eq_none hnone⟩
      · nomatch h

example : splitLast ':' "C:\\a.py:7".toList = some ("C:\\a.py".toList, "7".toList) := by decide
example : pieces ',' "a,,b".toList = ["a".toList, [], "b".toList] := by decide

end DebugDesk.Text
