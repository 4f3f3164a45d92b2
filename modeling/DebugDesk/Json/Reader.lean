/-
  Reading JSON text.

  The tokens are read by a machine with a stack of the containers that are still open.  The
  machine needs no bound on its steps and no look-ahead: a token and the stage it meets decide the
  next stage, and a text is a value exactly if the machine ends outside all containers with one
  complete value.

  `parse?` is the grammar; `read?` then puts every container nested deeper than a kept value may
  be out of reach.
-/
import DebugDesk.Json.Token

namespace DebugDesk.Json

/-- A container that is still open; its parts are held last first. -/
inductive Pending where
  | items (before : List Json)
  /-- An object whose field of the given name is being read. -/
  | field (before : List (Option String × Json)) (name : Option String)

/-- What the machine waits for in the innermost container. -/
inductive Stage where
  | value
  /-- An item, or the end of an array just opened. -/
  | firstItem
  /-- A name, or the end of an object just opened. -/
  | firstName
  | name (before : List (Option String × Json))
  | colon (before : List (Option String × Json)) (name : Option String)
  /-- A value is complete; a comma or the end of its container has to follow. -/
  | complete (value : Json)

/-- The object with the given fields; without content if a name has none. -/
def ofFields (fields : List (Option String × Json)) : Json :=
  match fields.mapM fun (name, value) => name.map (·, value) with
  | some fields => .object fields
  | none => .unreadable

/-- The value of a string. -/
def ofContent : Option String → Json
  | some s => .string s
  | none => .unreadable

/-- A token where a value has to start. -/
def startValue? (stack : List Pending) : Token → Option (Stage × List Pending)
  | .openArray => some (.firstItem, stack)
  | .openObject => some (.firstName, stack)
  | .text content => some (.complete (ofContent content), stack)
  | .atom value => some (.complete value, stack)
  | _ => none

/-- A token behind a complete value. -/
def followValue? (value : Json) : List Pending → Token → Option (Stage × List Pending)
  | .items before :: stack, .comma => some (.value, .items (value :: before) :: stack)
  | .items before :: stack, .closeArray => some (.complete (.array (value :: before).reverse), stack)
  | .field before name :: stack, .comma => some (.name ((name, value) :: before), stack)
  | .field before name :: stack, .closeObject =>
    some (.complete (ofFields ((name, value) :: before).reverse), stack)
  | _, _ => none

/-- One step of the machine. -/
def step? : Stage × List Pending → Token → Option (Stage × List Pending)
  | (.value, stack), token => startValue? stack token
  | (.firstItem, stack), .closeArray => some (.complete (.array []), stack)
  | (.firstItem, stack), token => startValue? (.items [] :: stack) token
  | (.firstName, stack), .closeObject => some (.complete (.object []), stack)
  | (.firstName, stack), .text name => some (.colon [] name, stack)
  | (.name before, stack), .text name => some (.colon before name, stack)
  | (.colon before name, stack), .colon => some (.value, .field before name :: stack)
  | (.complete value, stack), token => followValue? value stack token
  | _, _ => none

/-- All steps of the machine over some tokens. -/
def run? (state : Stage × List Pending) : List Token → Option (Stage × List Pending)
  | [] => some state
  | token :: tokens =>
    match step? state token with
    | some state => run? state tokens
    | none => none

/-- The value that a text writes, by the grammar alone. -/
def parse? (text : List Char) : Option Json :=
  match tokens? text with
  | none => none
  | some tokens =>
    match run? (.value, []) tokens with
    | some (.complete value, []) => some value
    | _ => none

/-- The value that a text writes, with nothing readable below the depth of a kept value. -/
def read? (text : String) : Option Json :=
  (parse? text.toList).map (within maxDepth)

end DebugDesk.Json
