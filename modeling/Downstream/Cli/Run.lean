import Downstream.Cli.Arguments
import Downstream.Cli.Filter
import Downstream.Cli.Report
import Downstream.Project.Storage
import Downstream.Substitution.OpenShift

/-!
# Running the program

`Cli.run` does what the arguments ask for. The command `init` reads the project document, makes the
built-in substitutions, and writes the document last, so that it is not touched unless all else
went well.
-/

namespace Downstream.Cli

variable {m : Type → Type} [Monad m]

/-- What a run of the program shows. -/
structure Outcome where
  /-- The exit code. -/
  exit : Nat
  /-- The text on standard output. -/
  output : String := ""
  /-- The text on standard error, the log apart. -/
  errors : String := ""
  /-- The lines of the log. -/
  log : List String := []
  deriving Repr, DecidableEq

namespace Outcome

/-- A text was asked for. -/
def told (text : String) : Outcome := ⟨0, text, "", []⟩

/-- The arguments made no sense. -/
def refused (e : UsageError) : Outcome := ⟨2, "", e.message, []⟩

/-- Something was tried and failed. -/
def failed (tried : String) (causes : List String) (log : List String) : Outcome :=
  ⟨1, "", failureText tried causes, log⟩

end Outcome

/-- The list of the built-in substitutions. -/
def substitutionList (t : Table) : String :=
  String.join (t.entries.map fun (path, rules) =>
    path ++ ":\n" ++
      String.join (rules.map fun r => "  " ++ r.pattern ++ " -> " ++ r.replacement ++ "\n") ++ "\n")

/-- Runs the scaffold step on the project in a directory, which `files` are the files of. -/
def init (files : FileSystem m) (storage : Storage m) (filter : Filter) (dir : String) :
    m Outcome := do
  let document := Path.join dir Config.fileName
  match ← Config.load storage document with
  | .error e => return .failed "Failed to load project config" e.chain []
  | .ok config =>
    let ((result, events), config) ← scaffold files.beside Config.store OpenShift.table config
    let log := (events.filter filter.shows).map Event.line
    match result with
    | .error e => return .failed ("Failed to scaffold " ++ dir) e.chain log
    | .ok () =>
      match ← Config.save storage document config with
      | .error e => return .failed "Failed to save project config" e.chain log
      | .ok () =>
        let updated := "Updated " ++ dir ++ " for OpenShift (" ++ toString OpenShift.table.size ++
          " files checked)\n"
        return ⟨0, updated, "", log⟩

/-- Runs the program, given the files below any directory, where documents are kept, and the filter
of the log that was set. -/
def run (files : (root : String) → FileSystem m) (storage : Storage m) (filter : Option String)
    (arguments : List String) : m Outcome :=
  match Request.ofArguments arguments with
  | .tell text => return .told text
  | .refuse e => return .refused e
  | .run _ .substitutions => return .told (substitutionList OpenShift.table)
  | .run debug (.init dir) => init (files dir) storage (Filter.choose debug filter) dir

end Downstream.Cli
