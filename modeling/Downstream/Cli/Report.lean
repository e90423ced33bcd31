import Downstream.Log
import Downstream.Scaffold
import Downstream.Text.Quoted

/-!
# What the program reports

Lines of the log, and failures with what made them happen. A failure is shown by its text, then by
the texts of its causes, each in a line of its own and numbered if there is more than one.
-/

namespace Downstream

/-- An event as a line of the log, without the time. -/
def Event.line (e : Event) : String :=
  let level := match e.level with
    | .debug => "DEBUG "
    | .info => "INFO "
  let fields := match e with
    | .applied path pattern replacement =>
      " path=" ++ Quoted.text path ++ " pattern=" ++ pattern ++ " replacement=" ++ replacement
    | .rewrote path mode => " path=" ++ Quoted.text path ++ " mode=" ++ octal mode
    | .markerSkipped key => " key=" ++ Quoted.text key
    | .finished files => " files=" ++ toString files
  level ++ e.message ++ fields

/-! ## Causes -/

/-- The texts of a failure and of its causes. -/
def ConfigError.chain (e : ConfigError) : List String :=
  e.message :: match e with
    | .read _ cause => [cause.message]
    | .write _ cause => [cause.message]
    | .parse _ _ => ["TOML parse error"]
    | _ => []

/-- The texts of a failure and of its causes. -/
def SubstitutionError.chain (e : SubstitutionError) : List String :=
  e.message :: (e.cause?.map FileError.message).toList

/-- The texts of a failure and of its causes. -/
def ScaffoldError.chain (e : ScaffoldError) : List String :=
  e.message :: match e with
    | .imageSubstitution cause => cause.chain
    | .pluginConfig _ cause => cause.chain

namespace Cli

/-- A text whose lines after the first start with `margin`. -/
def indented (margin : List Char) (s : String) : List Char :=
  s.toList.flatMap fun c => if c = '\n' then '\n' :: margin else [c]

/-- A cause in a line of its own, after its number. -/
def numberedCause (n : Nat) (cause : String) : List Char :=
  let digits := Nat.toDigits 10 n
  '\n' :: List.replicate (5 - digits.length) ' ' ++ digits ++ [':', ' '] ++
    indented (List.replicate 7 ' ') cause

/-- Causes in lines of their own, numbered from `n` on. -/
def numberedCauses : (n : Nat) → List String → List Char
  | _, [] => []
  | n, cause :: rest => numberedCause n cause ++ numberedCauses (n + 1) rest

/-- The lines of causes. -/
def causeLines : List String → List Char
  | [] => []
  | [cause] => '\n' :: List.replicate 4 ' ' ++ indented (List.replicate 4 ' ') cause
  | causes => numberedCauses 0 causes

/-- A failure, given what was tried and the texts of the failure and its causes. -/
def failureText (tried : String) (causes : List String) : String :=
  "error: " ++ tried ++
    (if causes.isEmpty then "" else "\n\nCaused by:" ++ String.ofList (causeLines causes)) ++ "\n"

end Cli

end Downstream
