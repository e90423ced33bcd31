import Downstream.Project.Config
import Downstream.Toml.Found
import Downstream.Toml.Reader

/-!
# The text of a project document

`Config.parse` reads a text. The fields are looked at in the order of their names, and the first
that is not what it must be is reported; that the version is missing comes last. Fields of other
names are passed over. `Config.text` writes a document, leaving out what is empty.
-/

namespace Downstream

namespace Config

open Toml (Item)

/-- The fault of an item that should be something else. -/
def mismatch (v : Item) (expected : Shape) : Fault :=
  match v.found? with
  | some found => .mistyped found expected
  | none => .malformed

/-- The text that a field holds. -/
def readText : Item → Except Fault String
  | .string s => .ok s
  | v => .error (mismatch v .string)

/-- The texts that a field holds. -/
def readTexts : Item → Except Fault (List String)
  | .array items => items.mapM readText
  | v => .error (mismatch v .sequence)

/-- The settings of one plugin. A moment counts as the table that holds its text. -/
def readPlugin : Item → Except Fault Toml.Table
  | .table entries =>
    match Toml.Value.ofEntries? entries with
    | some t => .ok t
    | none => .error .malformed
  | .moment m => .ok [(Toml.momentKey, .string (String.ofList m.text))]
  | v => .error (mismatch v .map)

/-- The settings of all plugins. -/
def readPlugins : Item → Except Fault (Dict String Toml.Table)
  | .table entries => entries.mapM fun (k, v) => do return (k, ← readPlugin v)
  | .moment m => .error (mismatch (.string (String.ofList m.text)) .map)
  | v => .error (mismatch v .map)

/-- A document while its fields are read. The version is not known at first. -/
structure Draft where
  version : Option String := none
  domain : Option String := none
  projectName : Option String := none
  layout : List String := []
  plugins : Dict String Toml.Table := []

/-- Reads one field. -/
def Draft.readField (d : Draft) (name : String) (v : Item) : Except Fault Draft := do
  if name = "domain" then return { d with domain := some (← readText v) }
  else if name = "layout" then return { d with layout := ← readTexts v }
  else if name = "plugins" then return { d with plugins := ← readPlugins v }
  else if name = "project-name" then return { d with projectName := some (← readText v) }
  else if name = "version" then return { d with version := some (← readText v) }
  else if v.fits then return d
  else throw .malformed

/-- What the fields of a document say. -/
def ofFields (fields : Dict String Item) : Except Fault Config := do
  let d ← fields.foldlM (fun (d : Draft) (name, v) => d.readField name v) {}
  match d.version with
  | none => throw (.missing "version")
  | some version => return ⟨version, d.domain, d.projectName, d.layout, d.plugins⟩

/-- What a text says, before it is looked at whether the version has all fields. -/
def ofText (text : String) : Except Fault Config :=
  match Toml.read? text with
  | some fields => ofFields fields
  | none => .error .malformed

/-- Reads the document at `path` from its text. -/
def parse (path text : String) : Except ConfigError Config := do
  let c ← (ofText text).mapError (.parse path)
  c.validate
  return c

/-! ## Writing -/

/-- The line of a field that may be left out. -/
def optionalLine (name : String) : Option String → List Char
  | some s => Toml.writtenEntry name (Toml.writtenText s)
  | none => []

/-- The lines of the layout, which is left out if it is empty. -/
def layoutLines (layout : List String) : List Char :=
  if layout.isEmpty then []
  else Toml.writtenEntry "layout" (Toml.writtenArray (layout.map Toml.writtenText))

/-- The text of a document. -/
def text (c : Config) : String :=
  String.ofList
    (Toml.writtenEntry "version" (Toml.writtenText c.version) ++
      optionalLine "domain" c.domain ++ optionalLine "project-name" c.projectName ++
      layoutLines c.layout ++
      c.plugins.flatMap fun (k, t) => Toml.writtenTable ["plugins", k] t)

end Config

end Downstream
