import Downstream.Cli.Help

/-!
# Arguments of the program

`Request.ofArguments` takes the arguments for what they ask for. They are looked at from left to
right, and the first that ends the matter decides: one that asks for help or for the version, or one
that is wrong. The value of `--project-dir` is looked at when the next option is known or the
arguments are at their end, so an unknown argument after it is reported first.
-/

namespace Downstream.Cli

/-- What the program does. -/
inductive Command where
  /-- Runs the scaffold step on the project in a directory. -/
  | init (projectDir : String)
  /-- Lists the built-in substitutions. -/
  | substitutions
  deriving Repr, DecidableEq

/-- Why arguments make no sense. -/
inductive UsageError where
  | noArguments
  | noCommand
  | unknownCommand (name : String)
  | unexpected (argument : String)
  | valueMissing (option : String)
  | unwantedValue (value option : String)
  | repeated (option : String)
  deriving Repr, DecidableEq

/-- The text of a usage error. -/
def UsageError.message : UsageError → String
  | noArguments => Help.program
  | noCommand =>
    "error: '" ++ programName ++ "' requires a subcommand but one was not provided\n" ++
      "  [subcommands: init, substitutions, help]\n"
  | unknownCommand name => "error: unrecognized subcommand '" ++ name ++ "'\n"
  | unexpected argument => "error: unexpected argument '" ++ argument ++ "' found\n"
  | valueMissing option =>
    "error: a value is required for '" ++ option ++ "' but none was supplied\n"
  | unwantedValue value option =>
    "error: unexpected value '" ++ value ++ "' for '" ++ option ++
      "' found; no more were expected\n"
  | repeated option => "error: the argument '" ++ option ++ "' cannot be used multiple times\n"

/-- What the arguments ask for. -/
inductive Request where
  | run (debug : Bool) (command : Command)
  /-- A text is all that is asked for. -/
  | tell (text : String)
  | refuse (e : UsageError)
  deriving Repr, DecidableEq

/-- The forms of an argument. -/
inductive Word where
  /-- Two dashes: nothing after them is an option. -/
  | dashes
  /-- An option by its name, perhaps with a value after an equals sign. -/
  | long (name : String) (value : Option String)
  /-- An option by its letter; more may follow the letter. -/
  | short (letter : Char)
  | plain
  deriving Repr, DecidableEq

/-- The form of an argument. -/
def Word.of (argument : String) : Word :=
  match argument.toList with
  | ['-', '-'] => .dashes
  | '-' :: '-' :: rest =>
    let name := String.ofList (rest.takeWhile (· != '='))
    match rest.dropWhile (· != '=') with
    | [] => .long name none
    | _ :: value => .long name (some (String.ofList value))
  | '-' :: c :: _ => .short c
  | _ => .plain

/-- An option that is asked for help, by its name or letter. -/
def isHelp : Word → Bool
  | .long name _ => name == "help"
  | .short c => c == 'h'
  | _ => false

/-- An unknown option, as messages show it. -/
def shown (argument : String) : Word → String
  | .long name _ => "--" ++ name
  | .short c => String.ofList ['-', c]
  | _ => argument

/-! ## The arguments of a command -/

/-- How messages show the option of the project directory. -/
def dirOption : String := "--project-dir <DIR>"

/-- What was given to a command so far. -/
structure Given where
  debug : Bool := false
  projectDir : Option String := none
  /-- The option of the project directory while its value is not looked at, perhaps without one. -/
  pending : Option (Option String) := none
  deriving Repr, DecidableEq

/-- Looks at the value of a pending option. -/
def Given.settle (g : Given) : Except UsageError Given :=
  match g.pending with
  | none => .ok g
  | some none => .error (.valueMissing dirOption)
  | some (some dir) =>
    if g.projectDir.isSome then .error (.repeated dirOption)
    else if dir.isEmpty then .error (.valueMissing dirOption)
    else .ok { g with projectDir := some dir, pending := none }

/-- A command while its arguments are read. -/
structure Reading where
  /-- Whether the command takes a project directory. -/
  takesDir : Bool
  help : String

/-- What an argument leads to: more arguments, or an end. -/
abbrev Step := Except Request Given

/-- Goes on, or ends with a usage error. -/
def Step.of (r : Except UsageError Given) : Step :=
  r.mapError .refuse

/-- Reads one argument of a command. -/
def Reading.step (r : Reading) (g : Given) (argument : String) : Step :=
  let word := Word.of argument
  match word with
  | .plain =>
    if g.pending = some none then .ok { g with pending := some (some argument) }
    else .error (.refuse (.unexpected argument))
  | .long name value =>
    if name = "debug" ∨ name = "help" then
      match value with
      | some value => .error (.refuse (.unwantedValue value ("--" ++ name)))
      | none => do
        let g ← Step.of g.settle
        if name = "help" then throw (.tell r.help)
        else if g.debug then throw (.refuse (.repeated "--debug"))
        else return { g with debug := true }
    else if r.takesDir ∧ name = "project-dir" then do
      let g ← Step.of g.settle
      match value with
      | none => return { g with pending := some none }
      | some dir => Step.of (Given.settle { g with pending := some (some dir) })
    else .error (.refuse (.unexpected (shown argument word)))
  | word =>
    if isHelp word then do
      let _ ← Step.of g.settle
      throw (.tell r.help)
    else .error (.refuse (.unexpected (shown argument word)))

/-- Reads the arguments of a command. -/
def Reading.read (r : Reading) : Given → List String → Step
  | g, [] => Step.of g.settle
  | g, argument :: rest =>
    if argument = "--" then
      match rest with
      | [] => Step.of g.settle
      | extra :: _ => .error (.refuse (.unexpected extra))
    else do
      let g ← r.step g argument
      r.read g rest

/-! ## All arguments -/

/-- How the arguments of a command are read. -/
def reading? (name : String) : Option Reading :=
  if name = "init" then some ⟨true, Help.init⟩
  else if name = "substitutions" then some ⟨false, Help.substitutions⟩
  else none

/-- The command of a name, given its arguments. -/
def commandOf (name : String) (g : Given) : Command :=
  if name = "init" then .init (g.projectDir.getD ".") else .substitutions

/-- What the command `help` tells. -/
def helpFor : List String → Request
  | [] => .tell Help.program
  | name :: rest =>
    let found :=
      if name = "help" then some Help.help else (reading? name).map (·.help)
    match found, rest with
    | some text, [] => .tell text
    | some _, extra :: _ => .refuse (.unknownCommand extra)
    | none, _ => .refuse (.unknownCommand name)

/-- What the arguments ask for if there is no command among them. -/
def withoutCommand (debug : Bool) : Request :=
  .refuse (if debug then .noCommand else .noArguments)

/-- What arguments ask for, given whether debugging was asked for before them. -/
def requestOf (debug : Bool) : List String → Request
  | [] => withoutCommand debug
  | argument :: rest =>
    match reading? argument with
    | some r =>
      match r.read {} rest with
      | .ok g => .run (debug || g.debug) (commandOf argument g)
      | .error request => request
    | none =>
      if argument = "help" then helpFor rest
      else
        match Word.of argument with
        | .plain => .refuse (.unknownCommand argument)
        | .dashes =>
          match rest with
          | [] => withoutCommand debug
          | extra :: _ =>
            if (reading? extra).isSome ∨ extra = "help" then .refuse (.unexpected extra)
            else .refuse (.unknownCommand extra)
        | .long name value =>
          if name = "debug" ∨ name = "help" ∨ name = "version" then
            match value with
            | some value => .refuse (.unwantedValue value ("--" ++ name))
            | none =>
              if name = "help" then .tell Help.program
              else if name = "version" then .tell versionLine
              else if debug then .refuse (.repeated "--debug")
              else requestOf true rest
          else .refuse (.unexpected ("--" ++ name))
        | .short c =>
          if c = 'h' then .tell Help.program
          else if c = 'V' then .tell versionLine
          else .refuse (.unexpected (String.ofList ['-', c]))

/-- What the arguments of the program ask for. -/
def Request.ofArguments (arguments : List String) : Request :=
  requestOf false arguments

end Downstream.Cli
