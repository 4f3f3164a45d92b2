/-
  A printed value is one line.

  Recordings and the output of a replay hold one value a line, and take two things for granted.
  Nothing that a value is made of, and no text in it, puts a line feed into its print
  (`newline_notMem_render`): strings escape it, and elsewhere there is no room for blanks.  And a
  blank behind a value does not matter (`read?_append_blank`), so a line reads the same with a
  carriage return in front of its line feed and without.

  So a record that a value carries is printed on one line, from which it is decoded
  (`Carries.isLine`).
-/
import DebugDesk.Proofs.Json.Record

namespace DebugDesk.Json

open List (not_mem_append not_mem_cons_of_ne_of_not_mem)

/-! ## No line feed in a printed value -/

/-- No line feed stands in a number, since it would end the word. -/
theorem newline_notMem_of_number? {word : List Char} {value : Json} (h : number? word = some value) :
    '\n' ∉ word := by
  intro hmem
  have hword := forall_isInWord_of_number? h '\n' hmem
  nomatch hword

/-- A name in front of a text brings none. -/
theorem newline_notMem_field (name : String) {text : List Char} (h : '\n' ∉ text) :
    '\n' ∉ renderString name ++ ':' :: text :=
  not_mem_append (newline_notMem_renderString name) (not_mem_cons_of_ne_of_not_mem (by decide) h)

mutual

/-- **The text of a value holds no line feed.** -/
theorem newline_notMem_render : ∀ value : Json, value.Writable → '\n' ∉ value.render
  | null, _ => by decide
  | bool true, _ => by decide
  | bool false, _ => by decide
  | integer _, h => newline_notMem_of_number? (number?_renderInteger h)
  | decimal _, h => newline_notMem_of_number? h
  | string s, _ => newline_notMem_renderString s
  | array [], _ => by decide
  | array (item :: items), h =>
    not_mem_cons_of_ne_of_not_mem (by decide)
      (not_mem_append (newline_notMem_render item h.1) (newline_notMem_renderItems items h.2))
  | object [], _ => by decide
  | object ((name, value) :: fields), h =>
    not_mem_cons_of_ne_of_not_mem (by decide) (newline_notMem_field name
      (not_mem_append (newline_notMem_render value h.1) (newline_notMem_renderFields fields h.2)))
  | unreadable, h => h.elim

theorem newline_notMem_renderItems : ∀ items : List Json, ItemsWritable items →
    '\n' ∉ renderItems items
  | [], _ => by decide
  | item :: items, h =>
    not_mem_cons_of_ne_of_not_mem (by decide)
      (not_mem_append (newline_notMem_render item h.1) (newline_notMem_renderItems items h.2))

theorem newline_notMem_renderFields : ∀ fields : List (String × Json), FieldsWritable fields →
    '\n' ∉ renderFields fields
  | [], _ => by decide
  | (name, value) :: fields, h =>
    not_mem_cons_of_ne_of_not_mem (by decide) (newline_notMem_field name
      (not_mem_append (newline_notMem_render value h.1) (newline_notMem_renderFields fields h.2)))

end

/-! ## Blanks behind a value -/

/-- A blank of the grammar behind a text adds no token, wherever the scanner stands. -/
theorem tokensFrom?_append_blank {c : Char} (h : isSpace c = true) (text : List Char) :
    ∀ scan, tokensFrom? scan (text ++ [c]) = tokensFrom? scan text := by
  induction text with
  | nil =>
    intro scan
    rw [List.nil_append, tokensFrom?_cons]
    cases scan with
    | between =>
      rw [advance?, if_pos h]
      rfl
    | inWord raw =>
      rw [advance?, if_pos h]
      show ((finished? (.inWord raw)).map _).bind _ = finished? (.inWord raw)
      cases finished? (.inWord raw) with
      | none => rfl
      | some tokens => exact congrArg some (List.append_nil tokens)
    | inString raw =>
      -- a string that is still open stays open
      have hquote : c ≠ '"' := by
        rintro rfl
        exact absurd h (by decide)
      have hbackslash : c ≠ '\\' := by
        rintro rfl
        exact absurd h (by decide)
      rw [advance?_inString hquote hbackslash]
      rfl
    | inEscape raw => rfl
  | cons d text ih =>
    intro scan
    rw [List.cons_append, tokensFrom?_cons, tokensFrom?_cons]
    simp only [ih]

/-- **A blank behind a text does not matter.** -/
theorem read?_append_blank {c : Char} (h : isSpace c = true) (text : String) :
    read? (text ++ String.singleton c) = read? text := by
  have htokens : tokens? (text.toList ++ [c]) = tokens? text.toList :=
    tokensFrom?_append_blank h text.toList .between
  rw [read?, read?, String.toList_append, String.toList_singleton, parse?, parse?, htokens]

/-! ## Lines -/

/-- A text is one line, and as a JSON value it is decoded to `a`. -/
structure IsLine {α : Type} (read? : Json → Option α) (text : String) (a : α) : Prop where
  single : '\n' ∉ text.toList
  decoded : decode? read? text = some a

/-- **What a value carries is printed on one line.** -/
theorem Carries.isLine {α : Type} {read? : Json → Option α} {levels : Nat} {value : Json} {a : α}
    (h : Carries read? levels value a) (shallow : levels ≤ maxDepth) : IsLine read? value.print a where
  single := by
    rw [print, String.toList_ofList]
    exact newline_notMem_render value h.writable
  decoded := h.decode?_print shallow

end DebugDesk.Json
