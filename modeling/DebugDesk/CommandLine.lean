/-
  The command line.

      udbg classify [TITLE...]
      udbg replay --operator ID [--operator-type TYPE] [--workers A,B]... [--config FILE] FILE

  `classify` prints the event of every title, one JSON value a line; without titles it takes the
  lines of its input.  `replay` prints what a replay of a recording ends with, and nothing at all
  unless the settings, the recording and the type of the operator are in order; they are looked at
  in this order.  A replay in which batches failed is printed in full and fails all the same.

  An option's value stands behind it or, after an equals sign, in the same argument.  Only
  `--workers` may repeat.  Behind `--` there are no options.

  Everything is a function of the arguments, the input and the files, so a run can be tried without
  a process.
-/
import DebugDesk.Replay
import DebugDesk.Settings.File

namespace DebugDesk.CommandLine

/-! ## Invocations -/

/-- The arguments of a replay. -/
structure ReplayArguments where
  operator : String
  type : String
  workers : List String
  /-- The path of a settings file. -/
  config : Option String
  /-- The path of the recording. -/
  file : String
  deriving DecidableEq

/-- What an invocation asks for. -/
inductive Invocation where
  | version
  | help
  /-- Classify titles, or the lines of the input if there are none. -/
  | classify (titles : List String)
  | replay (arguments : ReplayArguments)
  deriving DecidableEq

/-- The type of an operator that an invocation does not name. -/
def defaultType : String := "PythonUDFV2"

/-! ## Reading arguments -/

/-- Whether an argument may be an option: it starts with a hyphen and goes on. -/
def isOption (argument : String) : Bool :=
  match argument.toList with
  | '-' :: _ :: _ => true
  | _ => false

/-- Whether an argument is a short option, perhaps with more behind it. -/
def isShort (letter : Char) (argument : String) : Bool :=
  match argument.toList with
  | '-' :: c :: _ => c = letter
  | _ => false

/-- Whether an argument asks for help. -/
def asksHelp (argument : String) : Bool := argument = "--help" || isShort 'h' argument

/-- The titles of `classify`; every argument behind a `--` is one. -/
def titles? : List String → Option (List String)
  | [] => some []
  | "--" :: rest => some rest
  | argument :: rest =>
    if isOption argument then none else (titles? rest).map (argument :: ·)

/-- The arguments of `replay` as they have been given so far. -/
structure Given where
  operator : Option String := none
  type : Option String := none
  workers : List String := []
  config : Option String := none
  file : Option String := none

namespace Given

/-- Gives an option its value; none if the option is unknown, given already, or needs a value that
    is not empty. -/
def option? (g : Given) (name value : String) : Option Given :=
  if name = "--operator" then
    if g.operator.isSome then none else some { g with operator := some value }
  else if name = "--operator-type" then
    if g.type.isSome then none else some { g with type := some value }
  else if name = "--workers" then
    some { g with workers := g.workers ++ (Text.pieces ',' value.toList).map String.ofList }
  else if name = "--config" then
    if g.config.isSome || value = "" then none else some { g with config := some value }
  else none

/-- Gives the recording; none if one is given already. -/
def file? (g : Given) (path : String) : Option Given :=
  if g.file.isSome || path = "" then none else some { g with file := some path }

/-- The arguments, if nothing is missing. -/
def complete? (g : Given) : Option ReplayArguments :=
  match g.operator, g.file with
  | some operator, some file =>
    some { operator, type := g.type.getD defaultType, workers := g.workers, config := g.config, file }
  | _, _ => none

end Given

/-- The options that take a value. -/
def valueOptions : List String := ["--operator", "--operator-type", "--workers", "--config"]

/-- The paths behind a `--`. -/
def files? (g : Given) (arguments : List String) : Option Given := arguments.foldlM Given.file? g

/-- The invocation that the arguments of `replay` make, after those given so far. -/
def replay? (g : Given) : List String → Option Invocation
  | [] => g.complete?.map .replay
  | "--" :: rest => ((files? g rest).bind Given.complete?).map .replay
  | argument :: rest =>
    if valueOptions.contains argument then
      match rest with
      | value :: rest =>
        if isOption value then none
        else match g.option? argument value with
          | some g => replay? g rest
          | none => none
      | [] => none
    else if asksHelp argument then some .help
    else if isOption argument then
      match Text.splitFirst '=' argument.toList with
      | some (name, value) =>
        match g.option? (String.ofList name) (String.ofList value) with
        | some g => replay? g rest
        | none => none
      | none => none
    else match g.file? argument with
      | some g => replay? g rest
      | none => none

/-- **The invocation that arguments make**, if they can be read. -/
def parse? : List String → Option Invocation
  | [] => none
  | command :: rest =>
    if command = "classify" then
      match titles? rest with
      | some titles => some (.classify titles)
      | none =>
        let front := rest.takeWhile fun argument => asksHelp argument || !isOption argument
        if front.any asksHelp then some .help else none
    else if command = "replay" then replay? {} rest
    else if command = "--version" || isShort 'V' command then some .version
    else if asksHelp command then some .help
    else if command = "help" then
      if [[], ["classify"], ["replay"], ["help"]].contains rest then some .help else none
    else none

/-- The paths of the files that an invocation reads. -/
def Invocation.paths : Invocation → List String
  | replay arguments => arguments.config.toList ++ [arguments.file]
  | _ => []

/-- Whether an invocation reads its input. -/
def Invocation.readsInput : Invocation → Bool
  | classify [] => true
  | _ => false

/-! ## Running -/

/-- What a run leaves behind. -/
structure Outcome where
  /-- The exit code: 0, 1 for a failure, 2 for arguments that cannot be read. -/
  code : Nat
  /-- What is printed. -/
  output : String := ""
  /-- What is printed as the reason of a failure. -/
  diagnostic : String := ""
  deriving DecidableEq

/-- How the command line is used. -/
def usage : String :=
  "Usage: udbg classify [TITLE...]\n" ++
  "       udbg replay --operator ID [--operator-type TYPE] [--workers A,B]... [--config FILE] FILE\n"

/-- A failure, with its reason and what was printed before it. -/
def failure (reason : String) (output : String) : Outcome := ⟨1, output, "Error: " ++ reason ++ "\n"⟩

/-- The events of titles, one JSON value a line. -/
def eventLines (titles : List String) : String :=
  String.join (titles.map fun title => (Event.ofTitle title).toJson.print ++ "\n")

/-- The lines of an input as titles, if all of it is encoded in UTF-8. -/
def inputTitles? (input : ByteArray) : Option (List String) := (linesOf input).mapM textOf?

/-- The settings of a replay: those of a file, or the defaults. -/
def settings (files : String → FileContent) : (config : Option String) → Except DeskError Settings
  | none => .ok {}
  | some path => Settings.ofFile (files path)

/-- The batches of a recording under a path; otherwise the reason why there are none. -/
def batches (files : String → FileContent) (path : String) : Except String (List Batch) :=
  match files path with
  | .missing => .error ("opening " ++ path)
  | .directory => .error (RecordingError.unreadable "Is a directory (os error 21)").message
  | .bytes content => (Recording.read path content).mapError RecordingError.message

/-- Runs a replay. -/
def runReplay (files : String → FileContent) (a : ReplayArguments) : Outcome :=
  match settings files a.config with
  | .error e => failure e.message ""
  | .ok settings =>
    match batches files a.file with
    | .error reason => failure reason ""
    | .ok batches =>
      match Replay.run "replay" settings ⟨a.operator, a.type, a.workers⟩ batches with
      | .error _ => failure ("operator " ++ a.operator ++ " was not registered") ""
      | .ok r =>
        if r.tally.failures = 0 then ⟨0, r.text, ""⟩
        else failure (String.ofList (Text.Decimal.digits r.tally.failures) ++ " console batches failed") r.text

/-- Runs an invocation. -/
def Invocation.run (files : String → FileContent) (input : ByteArray) : Invocation → Outcome
  | version => ⟨0, "udbg 0.1.0\n", ""⟩
  | help => ⟨0, usage, ""⟩
  | classify [] =>
    match inputTitles? input with
    | some titles => ⟨0, eventLines titles, ""⟩
    | none => failure "reading stdin" ""
  | classify titles => ⟨0, eventLines titles, ""⟩
  | replay arguments => runReplay files arguments

/-- **Runs a command line**, given the files it may read and its input. -/
def run (files : String → FileContent) (input : ByteArray) (arguments : List String) : Outcome :=
  match parse? arguments with
  | some invocation => invocation.run files input
  | none => ⟨2, "", usage⟩

end DebugDesk.CommandLine
