/-
  Compact JSON text.

  Every request, snapshot and line of output is printed without blanks, with the fields of an
  object in the order of the value.  Strings keep all characters except the quote, the backslash
  and those below the space: five of the latter have a letter escape, the others are written as
  `\u00` and two lower-case hexadecimal digits.

  No printed string holds a line feed (`newline_notMem_renderString`), so a printed record is one
  line, whatever its texts are.
-/
import DebugDesk.Json.Basic
import DebugDesk.Text.Decimal

namespace DebugDesk.Json

/-! ## Strings -/

/-- One character inside a printed string. -/
def escapeChar (c : Char) : List Char :=
  if c = '"' then ['\\', '"']
  else if c = '\\' then ['\\', '\\']
  else if c = '\x08' then ['\\', 'b']
  else if c = '\x0c' then ['\\', 'f']
  else if c = '\n' then ['\\', 'n']
  else if c = '\r' then ['\\', 'r']
  else if c = '\t' then ['\\', 't']
  else if c.toNat < 0x20 then
    ['\\', 'u', '0', '0', Nat.digitChar (c.toNat / 16), Nat.digitChar (c.toNat % 16)]
  else [c]

/-- A string between quotes. -/
def renderString (s : String) : List Char :=
  '"' :: (s.toList.flatMap escapeChar ++ ['"'])

/-! ### No line feed in a printed string -/

theorem digitChar_ne_newline : ∀ {d : Nat}, d < 16 → Nat.digitChar d ≠ '\n' := by decide

theorem newline_notMem_escapeChar (c : Char) : '\n' ∉ escapeChar c := by
  unfold escapeChar
  split
  · decide
  split
  · decide
  split
  · decide
  split
  · decide
  split
  · decide
  split
  · decide
  split
  · decide
  split
  · have high := digitChar_ne_newline (show c.toNat / 16 < 16 by omega)
    have low := digitChar_ne_newline (Nat.mod_lt c.toNat (show 16 > 0 by decide))
    simp [high.symm, low.symm]
  · rename_i h _ _ _
    exact fun mem => h (List.mem_singleton.mp mem).symm

theorem newline_notMem_renderString (s : String) : '\n' ∉ renderString s := by
  intro mem
  rcases List.mem_cons.mp mem with h | h
  · exact absurd h (by decide)
  · rcases List.mem_append.mp h with h | h
    · obtain ⟨c, _, hc⟩ := List.mem_flatMap.mp h
      exact newline_notMem_escapeChar c hc
    · exact absurd (List.mem_singleton.mp h) (by decide)

/-! ## Numbers -/

/-- An integer in decimal, with a minus sign if it is negative. -/
def renderInteger : Int → List Char
  | .ofNat n => Text.Decimal.digits n
  | .negSucc n => '-' :: Text.Decimal.digits (n + 1)

/-! ## Values -/

mutual

/-- The compact text of a value. -/
def render : Json → List Char
  | null => ['n', 'u', 'l', 'l']
  | bool true => ['t', 'r', 'u', 'e']
  | bool false => ['f', 'a', 'l', 's', 'e']
  | integer n => renderInteger n
  | decimal literal => literal.toList
  | string s => renderString s
  | array [] => ['[', ']']
  | array (item :: items) => '[' :: (render item ++ renderItems items)
  | object [] => ['\x7b', '\x7d']
  | object ((name, value) :: fields) =>
    '\x7b' :: (renderString name ++ ':' :: (render value ++ renderFields fields))
  | unreadable => ['n', 'u', 'l', 'l']

/-- The items of an array behind the first, and its end. -/
def renderItems : List Json → List Char
  | [] => [']']
  | item :: items => ',' :: (render item ++ renderItems items)

/-- The fields of an object behind the first, and its end. -/
def renderFields : List (String × Json) → List Char
  | [] => ['\x7d']
  | (name, value) :: fields =>
    ',' :: (renderString name ++ ':' :: (render value ++ renderFields fields))

end

/-- The compact text of a value, as a string. -/
def print (value : Json) : String := String.ofList value.render

example : print (object [("a", array [integer (-3), null]), ("b", string "x\n\x01\u007f")])
    = "\x7b\"a\":[-3,null],\"b\":\"x\\n\\u0001\u007f\"\x7d" := by decide

end DebugDesk.Json
