import Downstream.Project.Payload
import Downstream.Substitution.Apply

/-!
# The scaffold step

After a project was laid out, `scaffold` makes the substitutions of a table in its files and then
records in the project document that it did: it puts empty settings under `markerKey`. A document
that has no place for settings is left as it is. The document is not touched unless all
substitutions were made.
-/

namespace Downstream

/-- Why the scaffold step failed. -/
inductive ScaffoldError where
  /-- A substitution could not be made. -/
  | imageSubstitution (cause : SubstitutionError)
  /-- The settings for a key could not be recorded. -/
  | pluginConfig (key : String) (cause : ConfigError)
  deriving Repr, DecidableEq

/-- The text of a failure. -/
def ScaffoldError.message : ScaffoldError → String
  | imageSubstitution _ => "error replacing images and versions"
  | pluginConfig key _ => "error writing plugin config for " ++ key

/-- Where settings of plugins are recorded. -/
structure PluginStore (m : Type → Type) where
  /-- Records the settings of a plugin under its key, in place of former ones. -/
  encode : (key : String) → (payload : Payload) → m (Except ConfigError Unit)

/-- The key that marks a project whose substitutions were made. -/
def markerKey : String := "openshift.sdk.operatorframework.io/v1"

variable {m : Type → Type} [Monad m]

/-- Records that the substitutions were made. -/
def recordMarker (store : PluginStore m) : m (Except ScaffoldError Unit × List Event) := do
  match ← store.encode markerKey .empty with
  | .ok () => return (.ok (), [])
  | .error e =>
    if e.isUnsupportedField then return (.ok (), [.markerSkipped markerKey])
    else return (.error (.pluginConfig markerKey e), [])

/-- Makes the substitutions of a table and records that. -/
def scaffold (fs : FileSystem m) (store : PluginStore m) (t : Table) :
    m (Except ScaffoldError Unit × List Event) := do
  match ← replaceImages fs t with
  | (.error e, events) => return (.error (.imageSubstitution e), events)
  | (.ok (), events) =>
    match ← recordMarker store with
    | (.error e, more) => return (.error e, events ++ more)
    | (.ok (), more) => return (.ok (), events ++ more ++ [.finished t.size])

/-! ## A project document beside the files -/

/-- Settings are recorded in a project document, which is kept beside what else there is. -/
def Config.store : PluginStore (StateT Config m) where
  encode key payload := fun c =>
    match c.encode key payload with
    | .ok c => pure (.ok (), c)
    | .error e => pure (.error e, c)

/-- A file system beside which a state is kept. -/
def FileSystem.beside {σ : Type} (fs : FileSystem m) : FileSystem (StateT σ m) where
  read path := StateT.lift (fs.read path)
  stat path := StateT.lift (fs.stat path)
  write path content mode := StateT.lift (fs.write path content mode)

end Downstream
