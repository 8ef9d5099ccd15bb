import ContentCache.Config
import ContentCache.Files
import ContentCache.Json.Record
import ContentCache.Yaml.Node

/-!
# Reading a configuration

A configuration is read from a YAML file, whose document is a mapping from the names of the fields,
or from a JSON record. Absent fields have their defaults, unknown ones are passed over, and no known
field may be given twice.

Main definitions: `Config.ofNode?`, `Config.ofRecord?`, `Config.load`.
-/

namespace ContentCache.Config

def fieldNames : List String :=
  ["endpoint", "token_file", "request_timeout_secs", "connect_timeout_secs", "verbose_transport",
   "spool_dir", "max_memory_buffer", "cache_ttl_secs"]

def largestNumber : Nat := Text.largest64

/-! ## YAML -/

def scalar? : Yaml.Node → Option Yaml.Scalar
  | .scalar s => some s
  | _ => none

/-- The values of a field; nothing when one of the keys is no scalar. -/
def valuesOf (entries : List (Yaml.Node × Yaml.Node)) (name : String) : Option (List Yaml.Node) := do
  let named ← entries.mapM fun e => do
    let key ← scalar? e.1
    pure (if key.text = name then some e.2 else none)
  pure (named.filterMap id)

/-- The value of a field, or its default when it is absent. -/
def field? {α : Type} (entries : List (Yaml.Node × Yaml.Node)) (name : String) (default : α)
    (read : Yaml.Scalar → Option α) : Option α := do
  match ← valuesOf entries name with
  | [] => pure default
  | [value] => read (← scalar? value)
  | _ => none

/-- The number of a field that may be said to be nothing. -/
def optionalNatural? (s : Yaml.Scalar) : Option (Option Nat) := do
  match ← s.optionalText? with
  | none => pure none
  | some _ => pure (some (← s.natural?))

def ofEntries? (entries : List (Yaml.Node × Yaml.Node)) : Option Config := do
  pure { endpoint := ← field? entries "endpoint" ({} : Config).endpoint fun s => some s.text,
         tokenFile := ← field? entries "token_file" none Yaml.Scalar.optionalText?,
         requestSeconds := ← field? entries "request_timeout_secs" ({} : Config).requestSeconds
           Yaml.Scalar.natural?,
         connectSeconds := ← field? entries "connect_timeout_secs" ({} : Config).connectSeconds
           Yaml.Scalar.natural?,
         verbose := ← field? entries "verbose_transport" false Yaml.Scalar.truth?,
         spoolDirectory := ← field? entries "spool_dir" none Yaml.Scalar.optionalText?,
         memoryLimit := ← field? entries "max_memory_buffer" ({} : Config).memoryLimit
           Yaml.Scalar.natural?,
         lifeSeconds := ← field? entries "cache_ttl_secs" none optionalNatural? }

/-- A configuration from a document; an empty document has the defaults. -/
def ofNode? : Yaml.Node → Option Config
  | .mapping entries => ofEntries? entries
  | .scalar s => if s.style = .plain && s.text.isEmpty then some {} else none
  | _ => none

/-- Reads and checks the configuration in a file. -/
def load (files : Files) (path : String) : Except Failure Config :=
  match files.readText path with
  | .error e => .error (.configuration ("Failed to read config file: " ++ e.message))
  | .ok text =>
    match (Yaml.document? text).bind ofNode? with
    | none => .error (.configuration "Failed to parse config file")
    | some c =>
      match c.check with
      | .ok _ => .ok c
      | .error f => .error f

/-! ## JSON -/

/-- A configuration from a JSON record. -/
def ofRecord? (j : Json) : Option Config := do
  let number := Json.natural? largestNumber
  match ← j.record? fieldNames with
  | [endpoint, tokenFile, requestSeconds, connectSeconds, verbose, spoolDirectory, memoryLimit,
      lifeSeconds] =>
    pure { endpoint := ← Json.fieldOr ({} : Config).endpoint Json.text? endpoint,
           tokenFile := ← Json.fieldOr none (Json.nullable? Json.text?) tokenFile,
           requestSeconds := ← Json.fieldOr ({} : Config).requestSeconds number requestSeconds,
           connectSeconds := ← Json.fieldOr ({} : Config).connectSeconds number connectSeconds,
           verbose := ← Json.fieldOr false Json.bool? verbose,
           spoolDirectory := ← Json.fieldOr none (Json.nullable? Json.text?) spoolDirectory,
           memoryLimit := ← Json.fieldOr ({} : Config).memoryLimit number memoryLimit,
           lifeSeconds := ← Json.fieldOr none (Json.nullable? number) lifeSeconds }
  | _ => none

end ContentCache.Config
