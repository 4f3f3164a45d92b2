/-
  Debugger commands and their text.

  A worker's debugger understands five commands:

      break LINE | clear LINE | condition ID EXPRESSION | continue | next

  `text` writes a command and `parse` reads one, from text whose blanks at either end do not
  count.  A space ends the verb and starts the argument, so a tab or a line feed behind a verb
  makes the word another verb, an unknown one.  An expression is everything behind the one space
  that follows the id.
-/
import DebugDesk.Text.Blank
import DebugDesk.Text.Decimal
import DebugDesk.Text.Quoted
import DebugDesk.Text.Split

namespace DebugDesk

/-- A command for a worker's debugger. -/
inductive Command where
  /-- Set a breakpoint on a line. -/
  | breakAt (line : UInt32)
  /-- Remove the breakpoint on a line. -/
  | clearAt (line : UInt32)
  /-- Replace the condition of a breakpoint. -/
  | condition (id : UInt32) (expression : String)
  /-- Resume. -/
  | resume
  /-- Run to the next line. -/
  | next
  deriving DecidableEq, Inhabited, Repr

namespace Command

/-- The words that commands start with. -/
inductive Verb where
  | breakAt
  | clearAt
  | condition
  | resume
  | next
  deriving DecidableEq, Repr

/-- The spelling of a verb. -/
def Verb.word : Verb → String
  | breakAt => "break"
  | clearAt => "clear"
  | condition => "condition"
  | resume => "continue"
  | next => "next"

/-- The verb with a given spelling. -/
def Verb.ofWord? (word : List Char) : Option Verb :=
  [breakAt, clearAt, condition, resume, next].find? fun verb => verb.word.toList = word

/-- Why a text is no command. -/
inductive ParseError where
  | unknownVerb (word : String)
  | missingArgument (verb : Verb)
  | invalidNumber (verb : Verb) (word : String)
  | unexpectedArgument (verb : Verb)
  deriving DecidableEq, Repr

/-- The diagnostic for a text that is no command. -/
def ParseError.message : ParseError → String
  | unknownVerb word => "unknown debug command: " ++ Text.Quoted.encode word
  | missingArgument verb => "missing argument for " ++ verb.word
  | invalidNumber verb word => "invalid number " ++ Text.Quoted.encode word ++ " for " ++ verb.word
  | unexpectedArgument verb => "unexpected argument for " ++ verb.word

/-! ## Writing -/

/-- A number as an argument. -/
def numberText (n : UInt32) : String := String.ofList (Text.Decimal.digits n.toNat)

/-- The text of a command. -/
def text : Command → String
  | breakAt line => "break " ++ numberText line
  | clearAt line => "clear " ++ numberText line
  | condition id expression => "condition " ++ numberText id ++ " " ++ expression
  | resume => "continue"
  | next => "next"

/-! ## Reading -/

/-- The number of an argument: decimal digits, after an optional plus sign. -/
def number? : List Char → Option UInt32
  | '+' :: digits => Text.Decimal.word32? digits
  | digits => Text.Decimal.word32? digits

/-- The number that a verb needs. -/
def parseNumber (verb : Verb) (argument : List Char) : Except ParseError UInt32 :=
  if argument = [] then .error (.missingArgument verb)
  else match number? argument with
    | some n => .ok n
    | none => .error (.invalidNumber verb (String.ofList argument))

/-- A command that takes no argument. -/
def parseBare (verb : Verb) (command : Command) (argument : List Char) : Except ParseError Command :=
  if argument = [] then .ok command else .error (.unexpectedArgument verb)

/-- The command of a verb and its argument. -/
def ofVerb (verb : Verb) (argument : List Char) : Except ParseError Command :=
  match verb with
  | .breakAt => (parseNumber verb argument).map breakAt
  | .clearAt => (parseNumber verb argument).map clearAt
  | .condition =>
    let (id, expression) := (Text.splitFirst ' ' argument).getD (argument, [])
    (parseNumber verb id).map fun id => condition id (String.ofList expression)
  | .resume => parseBare verb resume argument
  | .next => parseBare verb next argument

/-- **The command that a text writes.** -/
def parse (source : String) : Except ParseError Command :=
  let source := Text.trim source.toList
  let (word, argument) := match Text.splitFirst ' ' source with
    | some (word, rest) => (word, Text.trimStart rest)
    | none => (source, [])
  match Verb.ofWord? word with
  | some verb => ofVerb verb argument
  | none => .error (.unknownVerb (String.ofList word))

example : parse "condition 3 a and b > 2" = .ok (condition 3 "a and b > 2") := by rfl
example : parse " break  +07\n" = .ok (breakAt 7) := by rfl
example : parse "break\t5" = .error (.unknownVerb "break\t5") := by rfl
example : parse "continue now" = .error (.unexpectedArgument .resume) := by rfl
example : (ParseError.unknownVerb "st\tep").message = "unknown debug command: \"st\\tep\"" := by decide

end Command

end DebugDesk
