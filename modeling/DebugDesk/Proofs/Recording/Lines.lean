/-
  The lines of a file.

  A file is cut at its line feeds, whatever the bytes around them are; only then is a line read as a
  text.  That is safe because no text without a line feed is ever cut (`Text.feed_notMem_utf8`), and a
  carriage return at the end of a line is the last character of its text, or the line is no text with
  it and without it (`textOf?_append_return`).

  What the lines are is said once more without the walk over the bytes (`Lines`).  There a carriage
  return in front of a line feed belongs to the end of the line, while the walk leaves it to the
  line.
-/
import DebugDesk.Proofs.Text.Utf8
import DebugDesk.Recording

namespace DebugDesk

/-! ## Texts of lines -/

/-- **A line has a text exactly if it is the text in UTF-8.** -/
theorem textOf?_eq_some_iff {line : List UInt8} {text : String} :
    textOf? line = some text ↔ line = Text.utf8 text.toList := by
  rw [textOf?, Text.fromUTF8?_eq_some_iff, Text.toUTF8_eq, ByteArray.mk.injEq]
  exact ⟨fun h => List.toArray_inj h, congrArg List.toArray⟩

/-- **A carriage return at the end of a line is the last character of its text.** -/
theorem textOf?_append_return (line : List UInt8) :
    textOf? (line ++ [0x0D]) = (textOf? line).map (· ++ "\r") := by
  cases htext : textOf? line with
  | some text =>
    rw [textOf?_eq_some_iff.mp htext]
    refine textOf?_eq_some_iff.mpr ?_
    rw [String.toList_append, Text.utf8_append]
    rfl
  | none =>
    refine Option.eq_none_iff_forall_ne_some.mpr fun text hsome => ?_
    obtain ⟨front, _, hfront⟩ :=
      Text.eq_append_of_utf8_eq_append (textOf?_eq_some_iff.mp hsome).symm
    have hline : textOf? line = some (String.ofList front) := by
      rw [textOf?_eq_some_iff, String.toList_ofList, hfront]
    rw [hline] at htext
    nomatch htext

/-! ## Lines -/

/-- A line without a carriage return at its end. -/
def withoutReturn (line : List UInt8) : List UInt8 :=
  if line.getLast? = some 0x0D then line.dropLast else line

/-- **The lines of a file**: a line feed ends a line, with the carriage return in front of it, and
    the last line may do without. -/
inductive Lines : List UInt8 → List (List UInt8) → Prop where
  | none : Lines [] []
  | unended {line : List UInt8} (nonempty : line ≠ []) (single : 0x0A ∉ line) : Lines line [line]
  | ended {line rest : List UInt8} {lines : List (List UInt8)} (single : 0x0A ∉ line)
    (h : Lines rest lines) : Lines (line ++ 0x0A :: rest) (withoutReturn line :: lines)

theorem withoutReturn_append_return (line : List UInt8) : withoutReturn (line ++ [0x0D]) = line := by
  rw [withoutReturn, if_pos List.getLast?_concat, List.dropLast_concat]

/-- A line ends with a carriage return or is left as it is. -/
theorem withoutReturn_cases (line : List UInt8) :
    line = withoutReturn line ++ [0x0D] ∨ withoutReturn line = line := by
  rcases List.eq_nil_or_concat line with rfl | ⟨front, byte, rfl⟩
  · exact .inr rfl
  · rw [List.concat_eq_append]
    by_cases hbyte : byte = 0x0D
    · subst hbyte
      rw [withoutReturn_append_return]
      exact .inl rfl
    · refine .inr (if_neg ?_)
      rw [List.getLast?_concat]
      exact fun h => hbyte (Option.some.inj h)

/-! ### The walk over the bytes -/

theorem linesBehind_append {line : List UInt8} (single : 0x0A ∉ line) (rest : List UInt8) :
    ∀ passed, linesBehind passed (line ++ 0x0A :: rest)
      = (passed.reverse ++ line) :: linesBehind [] rest := by
  induction line with
  | nil =>
    intro passed
    rw [List.nil_append, linesBehind, if_pos rfl, List.append_nil]
  | cons byte line ih =>
    intro passed
    obtain ⟨hbyte, hline⟩ := List.ne_and_not_mem_of_not_mem_cons single
    rw [List.cons_append, linesBehind, if_neg hbyte.symm, ih hline, List.reverse_cons,
      List.append_assoc]
    rfl

theorem linesBehind_of_notMem {line : List UInt8} (single : 0x0A ∉ line) :
    ∀ passed, passed.reverse ++ line ≠ [] → linesBehind passed line = [passed.reverse ++ line] := by
  induction line with
  | nil =>
    intro passed hne
    rw [List.append_nil] at hne ⊢
    rw [linesBehind, if_neg fun hnil => hne (by rw [hnil]; rfl)]
  | cons byte line ih =>
    intro passed hne
    obtain ⟨hbyte, hline⟩ := List.ne_and_not_mem_of_not_mem_cons single
    have hpassed : (byte :: passed).reverse ++ line = passed.reverse ++ byte :: line := by
      rw [List.reverse_cons, List.append_assoc]
      rfl
    rw [linesBehind, if_neg hbyte.symm, ih hline _ (by rw [hpassed]; exact hne), hpassed]

/-- A line ends at the first line feed. -/
theorem eq_of_append_feed {line other rest more : List UInt8} (single : 0x0A ∉ line)
    (single' : 0x0A ∉ other) (h : line ++ 0x0A :: rest = other ++ 0x0A :: more) :
    line = other ∧ rest = more := by
  have hwalk := congrArg (linesBehind []) h
  rw [linesBehind_append single, linesBehind_append single'] at hwalk
  obtain rfl : line = other := (List.cons.inj hwalk).1
  have hrest := List.append_cancel_left h
  exact ⟨rfl, (List.cons.inj hrest).2⟩

/-! ### Files as lists of bytes -/

theorem toList_loop (bytes : ByteArray) (i : Nat) (taken : List UInt8) :
    ByteArray.toList.loop bytes i taken = taken.reverse ++ bytes.data.toList.drop i := by
  induction i, taken using ByteArray.toList.loop.induct bytes with
  | case1 i taken hlt ih =>
    have hi : i < bytes.data.toList.length := hlt
    have hget : bytes.get! i = bytes.data.toList[i] := getElem!_pos bytes.data i hlt
    rw [ByteArray.toList.loop, if_pos hlt, ih, List.drop_eq_getElem_cons hi, hget,
      List.reverse_cons, List.append_assoc]
    rfl
  | case2 i taken hge =>
    have hend : bytes.data.toList.length ≤ i := Nat.le_of_not_lt hge
    rw [ByteArray.toList.loop, if_neg hge, List.drop_eq_nil_of_le hend, List.append_nil]

/-- A file with some bytes has these bytes. -/
theorem toList_mk (bytes : List UInt8) : (ByteArray.mk bytes.toArray).toList = bytes :=
  toList_loop _ 0 []

/-! ### All lines of all files -/

/-- Every file has lines. -/
theorem exists_lines (bytes : List UInt8) : ∃ lines, Lines bytes lines := by
  induction hlength : bytes.length using Nat.strongRecOn generalizing bytes with
  | ind n ih =>
    by_cases hfeed : 0x0A ∈ bytes
    · obtain ⟨line, rest, rfl, single⟩ := List.eq_append_cons_of_mem hfeed
      have hshorter : rest.length < n := by
        rw [← hlength, List.length_append, List.length_cons]
        omega
      obtain ⟨lines, hlines⟩ := ih rest.length hshorter rest rfl
      exact ⟨_, .ended single hlines⟩
    · by_cases hnil : bytes = []
      · rw [hnil]
        exact ⟨[], .none⟩
      · exact ⟨[bytes], .unended hnil hfeed⟩

/-- **The lines of a file are determined.** -/
theorem Lines.unique {bytes : List UInt8} {lines : List (List UInt8)} (h : Lines bytes lines) :
    ∀ {others}, Lines bytes others → others = lines := by
  induction h with
  | none =>
    intro others hothers
    generalize hbytes : ([] : List UInt8) = bytes at hothers
    cases hothers with
    | none => rfl
    | unended nonempty _ => exact absurd hbytes.symm nonempty
    | ended _ _ => simp at hbytes
  | @unended line nonempty single =>
    intro others hothers
    cases hothers with
    | none => exact absurd rfl nonempty
    | unended _ _ => rfl
    | ended _ _ => exact absurd (by simp) single
  | @ended line rest lines single _ ih =>
    intro others hothers
    generalize hbytes : line ++ 0x0A :: rest = bytes at hothers
    cases hothers with
    | none => simp at hbytes
    | unended _ single' => exact absurd (by simp [← hbytes]) single'
    | @ended other more others single' hmore =>
      obtain ⟨rfl, rfl⟩ := eq_of_append_feed single single' hbytes
      rw [ih hmore]

end DebugDesk
