/-
  JSON values, as they stand in a text.

  A value keeps what a reader of records has to see: the fields of an object in their order and
  with repetitions, and whether a number was written as an integer.  One kind of value has no
  content at all: `unreadable` stands for a part of the text that follows the grammar but denotes
  nothing a record could hold.  There are three such parts: a string with half of a surrogate
  pair, a number beyond the range of a double, and a container nested too deep.  A record may carry
  an unreadable value in a field that nobody reads; `isReadable` is the test for the places where
  a whole value has to be kept.
-/
namespace DebugDesk

/-- A JSON value. -/
inductive Json where
  | null
  | bool (b : Bool)
  /-- A number written as an integer, except minus zero. -/
  | integer (n : Int)
  /-- A number written with a fraction, with an exponent or as minus zero; its own text. -/
  | decimal (literal : String)
  | string (s : String)
  | array (items : List Json)
  | object (fields : List (String × Json))
  /-- A well-formed part of a text that denotes nothing a record could hold. -/
  | unreadable
  deriving Inhabited

namespace Json

/-- How deep containers may nest in a value that is kept. -/
def maxDepth : Nat := 127

mutual

/-- Whether every part of a value can be held. -/
def isReadable : Json → Bool
  | unreadable => false
  | array items => areReadable items
  | object fields => fieldsAreReadable fields
  | _ => true

/-- `isReadable`, for all items of an array. -/
def areReadable : List Json → Bool
  | [] => true
  | item :: items => isReadable item && areReadable items

/-- `isReadable`, for the values of all fields. -/
def fieldsAreReadable : List (String × Json) → Bool
  | [] => true
  | (_, value) :: fields => isReadable value && fieldsAreReadable fields

end

mutual

/-- The value with every container below the given number of levels replaced by `unreadable`. -/
def within (levels : Nat) : Json → Json
  | array items =>
    match levels with
    | 0 => unreadable
    | levels + 1 => array (itemsWithin levels items)
  | object fields =>
    match levels with
    | 0 => unreadable
    | levels + 1 => object (fieldsWithin levels fields)
  | value => value

/-- `within`, for all items of an array. -/
def itemsWithin (levels : Nat) : List Json → List Json
  | [] => []
  | item :: items => within levels item :: itemsWithin levels items

/-- `within`, for the values of all fields. -/
def fieldsWithin (levels : Nat) : List (String × Json) → List (String × Json)
  | [] => []
  | (name, value) :: fields => (name, within levels value) :: fieldsWithin levels fields

end

mutual

/-- The number of levels at which containers nest in a value. -/
def depth : Json → Nat
  | array items => itemsDepth items + 1
  | object fields => fieldsDepth fields + 1
  | _ => 0

/-- The greatest depth among the items of an array. -/
def itemsDepth : List Json → Nat
  | [] => 0
  | item :: items => max (depth item) (itemsDepth items)

/-- The greatest depth among the values of fields. -/
def fieldsDepth : List (String × Json) → Nat
  | [] => 0
  | (_, value) :: fields => max (depth value) (fieldsDepth fields)

end

/-! ## A value that is not too deep keeps all its parts -/

mutual

theorem within_eq_self : ∀ (value : Json) (levels : Nat), value.depth ≤ levels →
    value.within levels = value
  | null, _, _ => rfl
  | bool _, _, _ => rfl
  | integer _, _, _ => rfl
  | decimal _, _, _ => rfl
  | string _, _, _ => rfl
  | unreadable, _, _ => rfl
  | array items, levels, h => by
    cases levels with
    | zero => simp [depth] at h
    | succ levels =>
      rw [depth] at h
      simp only [within]
      rw [itemsWithin_eq_self items levels (by omega)]
  | object fields, levels, h => by
    cases levels with
    | zero => simp [depth] at h
    | succ levels =>
      rw [depth] at h
      simp only [within]
      rw [fieldsWithin_eq_self fields levels (by omega)]

theorem itemsWithin_eq_self : ∀ (items : List Json) (levels : Nat), itemsDepth items ≤ levels →
    itemsWithin levels items = items
  | [], _, _ => rfl
  | item :: items, levels, h => by
    rw [itemsDepth] at h
    rw [itemsWithin, within_eq_self item levels (by omega), itemsWithin_eq_self items levels (by omega)]

theorem fieldsWithin_eq_self : ∀ (fields : List (String × Json)) (levels : Nat),
    fieldsDepth fields ≤ levels → fieldsWithin levels fields = fields
  | [], _, _ => rfl
  | (name, value) :: fields, levels, h => by
    rw [fieldsDepth] at h
    rw [fieldsWithin, within_eq_self value levels (by omega),
      fieldsWithin_eq_self fields levels (by omega)]

end

end Json

end DebugDesk
