import Downstream.Files.Interface
import Downstream.Log
import Downstream.Substitution.Table

/-!
# Substituting in files

`replaceImages` goes through the files of a table in order. Each file is read and examined, its
rules are applied in order, and it is written back with the permission bits it had, whether a rule
matched or not. The first call that fails ends the run; the files done before stay as they are.
-/

namespace Downstream

variable {m : Type → Type} [Monad m]

/-- The events of the rules that matched in a file. -/
def ruleEvents (path : String) (rules : List Rule) (content : Bytes) : List Event :=
  (ruleSteps rules content).filterMap fun (r, result) =>
    result.map fun _ => .applied path r.pattern r.replacement

/-- Applies rules to one file. -/
def substitute (fs : FileSystem m) (path : String) (rules : List Rule) :
    m (Except SubstitutionError Unit × List Event) := do
  match ← fs.read path with
  | .error e => return (.error (.read path e), [])
  | .ok content =>
    match ← fs.stat path with
    | .error e => return (.error (.stat path e), [])
    | .ok mode =>
      let events := ruleEvents path rules content
      match ← fs.write path (applyRules rules content) mode with
      | .error e => return (.error (.write path e), events)
      | .ok () => return (.ok (), events ++ [.rewrote path mode])

/-- Applies rules to several files, one after the other. -/
def substituteAll (fs : FileSystem m) :
    List (String × List Rule) → m (Except SubstitutionError Unit × List Event)
  | [] => return (.ok (), [])
  | (path, rules) :: rest => do
    match ← substitute fs path rules with
    | (.error e, events) => return (.error e, events)
    | (.ok (), events) =>
      let (result, more) ← substituteAll fs rest
      return (result, events ++ more)

/-- Applies the rules of a table to its files. -/
def replaceImages (fs : FileSystem m) (t : Table) :
    m (Except SubstitutionError Unit × List Event) :=
  substituteAll fs t.entries

end Downstream
