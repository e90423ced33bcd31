import Downstream.Project.Config

/-!
# Settings of a plugin

A plugin hands over its settings as a payload. `Config.encode` puts them under the key of the
plugin, in place of former ones. A payload that is no object, or that holds a null or a number that
does not fit, leaves the document as it was.
-/

namespace Downstream

/-- What a plugin hands over. -/
inductive Payload where
  | null
  | boolean (b : Bool)
  | integer (n : Int)
  | float (x : Binary64)
  | string (s : String)
  | array (items : List Payload)
  | object (fields : List (String × Payload))
  deriving Repr

namespace Payload

/-- The payload without settings. -/
def empty : Payload := .object []

mutual

/-- The value that a payload is; `none` if there is none for some part of it. -/
def value? : Payload → Option Toml.Value
  | .null => none
  | .boolean b => some (.boolean b)
  | .integer n => (Toml.int64? n).map .integer
  | .float x => some (.float x)
  | .string s => some (.string s)
  | .array items => (values? items).map .array
  | .object fields => (entries? fields).map fun entries => .table (Dict.ofList entries)

/-- The values of payloads. -/
def values? : List Payload → Option (List Toml.Value)
  | [] => some []
  | p :: rest => do
    let v ← value? p
    let rest ← values? rest
    return v :: rest

/-- The values of fields. -/
def entries? : List (String × Payload) → Option (List (String × Toml.Value))
  | [] => some []
  | (k, p) :: rest => do
    let v ← value? p
    let rest ← entries? rest
    return (k, v) :: rest

end

/-- The table that a payload is. -/
def table? : Payload → Option Toml.Table
  | .object fields => (entries? fields).map Dict.ofList
  | _ => none

end Payload

namespace Config

/-- Puts the settings of a plugin under its key, in place of former ones. -/
def encode (c : Config) (key : String) (p : Payload) : Except ConfigError Config :=
  if c.supportsPlugins then
    match p.table? with
    | some t => .ok { c with plugins := Dict.insert key t c.plugins }
    | none => .error (.encode key)
  else .error (.unsupportedField c.version "plugins")

end Config

end Downstream
