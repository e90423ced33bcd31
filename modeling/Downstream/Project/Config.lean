import Downstream.Project.Error
import Downstream.Toml.Value

/-!
# Project documents

A project document says which version of the format it is in, some facts about the project, and,
from version 3 on, the settings of plugins.
-/

namespace Downstream

/-- What a project document says. -/
structure Config where
  version : String
  domain : Option String := none
  projectName : Option String := none
  /-- The plugins that the project was laid out with, in order. -/
  layout : List String := []
  /-- The settings of plugins, by their keys. -/
  plugins : Dict String Toml.Table := []
  deriving Repr

namespace Config

/-- The version without settings of plugins. -/
def version2 : String := "2"

/-- The version with settings of plugins. -/
def version3 : String := "3"

/-- The file that holds the document of a project. -/
def fileName : String := "PROJECT.toml"

/-- The document of a new project. -/
def initial : Config where
  version := version3

/-- Whether the document has a place for settings of plugins. -/
def supportsPlugins (c : Config) : Bool :=
  c.version == version3

/-- Fails unless the version is known and has all fields that the document uses. -/
def validate (c : Config) : Except ConfigError Unit :=
  if c.version = version3 then .ok ()
  else if c.version = version2 then
    if c.plugins.isEmpty then .ok () else .error (.unsupportedField c.version "plugins")
  else .error (.unsupportedVersion c.version)

/-- The settings of a plugin. -/
def plugin? (c : Config) (key : String) : Option Toml.Table :=
  Dict.find? key c.plugins

/-- The documents say the same, numbers compared by their values. -/
def same (a b : Config) : Bool :=
  a.version == b.version && a.domain == b.domain && a.projectName == b.projectName &&
    a.layout == b.layout &&
    Toml.Value.sameEntries (a.plugins.map fun (k, t) => (k, .table t))
      (b.plugins.map fun (k, t) => (k, .table t))

end Config

end Downstream
