import KsqlBatch.Files.FileSystem
import KsqlBatch.Files.Path
import KsqlBatch.Log
import KsqlBatch.RunError
import KsqlBatch.Settings.Ini
import KsqlBatch.Settings.Record

/-
  This file gathers settings from layers. Later layers count
  more than earlier ones, overrides count more than all other
  layers, and below everything are the built-in settings.

  Key definitions include:
    * `Layer`
    * `Loader.defaults`
    * `Loader.source`
    * `Loader.overrides`
    * `Loader.build`
    * `Loader.load`
-/

------------------------------------------------------------
-- Layers
------------------------------------------------------------

namespace KsqlBatch

/- A source of settings. -/
inductive Layer where
| properties (text : String)
| file (path : String)
| environment
| override (key : String) (value : Scalar)
deriving DecidableEq, Repr, Inhabited

namespace Loader

/- Settings in order, each under its key. -/
abbrev Values := List (String × Setting)

/- The built-in settings. -/
def defaults : Setting :=
  .table none
    [("ksqldb",
      .table none
        [("port", .scalar none (.signed 443)),
          ("timeout",
            .table none
              [("secs", .scalar none (.signed 30))]),
          ("tls", .scalar none (.bool true))])]

/- The settings in pairs of texts. -/
def ofPairs
    (origin : Option String)
    (pairs : List (String × String)) : Values :=
  Keyed.ofList
    (pairs.map fun (key, value) =>
      (key, .scalar origin (.text value)))

/-
  The settings in a properties text. A section stands for
  the whole table under its name.
-/
def ofDocument
    (origin : Option String)
    (document : Ini.Document) : Values :=
  document.sections.foldl
    (fun values (name, pairs) =>
      Keyed.insert name
        (.table origin (ofPairs origin pairs)) values)
    (ofPairs origin document.general)

/- Read a properties text. -/
def ofText
    (origin : Option String)
    (text : String) : Except ConfigFault Values :=
  match Ini.read text with
  | .error fault => .error (.properties fault origin)
  | .ok document => .ok (ofDocument origin document)

end Loader

end KsqlBatch

------------------------------------------------------------
-- Environment
------------------------------------------------------------

namespace KsqlBatch

namespace Loader

/- What the names of variables with settings begin with. -/
def variablePrefix : List Char :=
  "ksql_runner__".toList

/- A name with dots in place of doubled underscores. -/
def dotted :
    List Char → List Char
| '_' :: '_' :: cs => '.' :: dotted cs
| c :: cs => c :: dotted cs
| [] => []

/- The key that a variable sets, if it sets one. -/
def variableKey?
    (name : String) : Option String :=
  let lowered := (Text.lowercase name).toList
  if variablePrefix.isPrefixOf lowered then
    some (String.ofList
      (dotted (lowered.drop variablePrefix.length)))
  else none

/- The settings in the environment. -/
def ofEnvironment
    (environment : List (String × String)) : Values :=
  ofPairs (some "the environment")
    (environment.filterMap fun (name, value) =>
      (variableKey? name).map fun key => (key, value))

end Loader

end KsqlBatch

------------------------------------------------------------
-- Files
------------------------------------------------------------

namespace KsqlBatch

namespace Loader

variable {m : Type → Type}
variable [Monad m]

/-
  The file that a path means: the file at the path itself,
  or else the one with a further ending.
-/
def findFile?
    (files : FileSystem m)
    (path : String) : m (Option String) := do
  if path ≠ "" then
    if ← files.isRegularFile path then return some path
  match Path.withExtension? path ".ini" with
  | none => return none
  | some other =>
      if ← files.isRegularFile other then return some other
      else return none

/- The settings in a file. -/
def ofFile
    (files : FileSystem m)
    (path : String) : m (Except ConfigFault Values) := do
  match ← findFile? files path with
  | none => return .error (.fileNotFound path)
  | some found =>
      match ← files.readText found with
      | .error .notUtf8 => return .error .fileNotUtf8
      | .error _ => return .error (.fileNotFound path)
      | .ok text =>
          return ofText (some (Path.withoutDots found)) text

end Loader

end KsqlBatch

------------------------------------------------------------
-- Loading
------------------------------------------------------------

namespace KsqlBatch

namespace Loader

variable {m : Type → Type}
variable [Monad m]

/- The settings in a layer; an override is none of its own. -/
def source
    (files : FileSystem m)
    (environment : List (String × String)) :
    Layer → m (Except ConfigFault Values)
| .properties text => pure (ofText none text)
| .file path => ofFile files path
| .environment => pure (.ok (ofEnvironment environment))
| .override _ _ => pure (.ok [])

/- The settings in all layers, up to the first fault. -/
def sources
    (files : FileSystem m)
    (environment : List (String × String)) :
    List Layer → m (Except ConfigFault (List Values))
| [] => pure (.ok [])
| layer :: layers => do
    match ← source files environment layer with
    | .error fault => return .error fault
    | .ok values =>
        match ← sources files environment layers with
        | .error fault => return .error fault
        | .ok rest => return .ok (values :: rest)

/- The overrides among layers, up to the first bad key. -/
def overrides :
    List Layer → Except ConfigFault (List (KeyPath × Setting))
| [] => .ok []
| .override key value :: layers =>
    match KeyPath.parse key with
    | .error fault => .error (.key fault)
    | .ok path => do
        return (path, .scalar none value) ::
          (← overrides layers)
| _ :: layers => overrides layers

/- The tree of all settings. -/
def gather
    (sources : List Values)
    (overrides : List (KeyPath × Setting)) : Setting :=
  overrides.foldl
    (fun tree (path, value) => Setting.set path value tree)
    (sources.foldl Setting.setAll
      (Setting.merge (some .emptyTable) defaults))

/- Check settings and turn them into a connection. -/
def connect
    (settings : RawSettings) : Except RunError Connection :=
  let engine := settings.engine
  let endpoint := Text.trimWhiteSpace engine.endpoint
  if endpoint = "" then
    .error (.invalidConfig .blankEndpoint)
  else if engine.timeout.secs = 0 then
    .error (.invalidConfig .zeroTimeout)
  else
    .ok
      { endpoint
        port := engine.port
        useTls := engine.tls
        timeoutSecs := engine.timeout.secs
        credentials :=
          settings.api.map fun api =>
            { key := api.key, secret := api.secret } }

/- The connection that a tree describes, and the log. -/
def build
    (tree : Setting) :
    Except RunError Connection × List LogRecord :=
  match RawSettings.read tree with
  | .error fault => (.error (.config fault), [])
  | .ok settings =>
      (connect settings,
        [{ level := .debug
           source := .connection
           message :=
            "raw connection config: " ++
              settings.describe }])

/-
  The connection that layers describe. The keys of overrides
  are looked at before any other layer.
-/
def load
    (files : FileSystem m)
    (environment : List (String × String))
    (layers : List Layer) :
    m (Except RunError Connection × List LogRecord) := do
  match overrides layers with
  | .error fault => return (.error (.config fault), [])
  | .ok overrides =>
      match ← sources files environment layers with
      | .error fault => return (.error (.config fault), [])
      | .ok sources => return build (gather sources overrides)

/- The layers of a configuration file. -/
def fileLayers
    (path : String) : List Layer :=
  [.file path, .environment]

end Loader

end KsqlBatch
