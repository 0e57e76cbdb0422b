import Placard.Host.Source
import Placard.Settings.Basic
import Placard.Settings.EnvFile

/-!
# Reading settings

Settings come from three sources: values given outright, variables of the environment, and a file of
variables. A value given outright wins over the environment, and the environment over the file.

The variable of a setting has the name of the setting after `card_render_`, in any letter case. In
the file no other variables are allowed, except empty ones and those named like a setting; in the
environment others do not count.
-/

namespace Placard.Settings

open Placard.Text Placard.Data Placard.Record

/-! ## Sources -/

/-- What settings are read from. -/
structure Sources where
  given : List (String × Value) := []
  environment : EnvFile.Known := []
  /-- the text of the file of variables, if there is one -/
  file : Option String := none

/-- A source of variables. -/
inductive Source where
  | environment
  | file
deriving DecidableEq

/-- The name of a source in messages. -/
def Source.name : Source → String
  | .environment => "EnvSettingsSource"
  | .file => "DotEnvSettingsSource"

/-- Why there are no settings. -/
inductive Fault where
  /-- A variable that has to hold JSON does not. -/
  | undecodable (field : String) (source : Source)
  | invalid (first : Issue) (more : List Issue)
deriving DecidableEq

/-- The wording. Issues are worded on their own. -/
def Fault.message : Fault → String
  | .undecodable field source =>
    "error parsing value for field \"" ++ field ++ "\" from source \"" ++ source.name ++ "\""
  | .invalid first _ => first.message

/-- The names of the settings. -/
def names : List String :=
  ["app_name", "app_version", "environment", "debug", "log_level", "host_config_path",
    "supports_interactivity", "markdown_extensions", "page_title"]

/-- What the name of a variable has before the name of its setting. -/
def mark : String :=
  "card_render_"

/-- Variables by their names in small letters. Later ones win and keep the place of the first. -/
def byName (vars : List (String × Option String)) : List (String × Option String) :=
  vars.foldl (fun known v => writeLast (lowered v.1) v.2 known) []
where
  /-- The variables with one written: in place if its name is there, else at the end. -/
  writeLast (name : String) (value : Option String) :
      List (String × Option String) → List (String × Option String)
    | [] => [(name, value)]
    | v :: rest => if v.1 = name then (name, value) :: rest else v :: writeLast name value rest

/-- The value of the variable of a setting. -/
def setting? (vars : List (String × Option String)) (name : String) : Option String :=
  (vars.find? fun v => v.1 == mark ++ name).bind (·.2)

/-- The value that a variable gives a setting. A list is written in JSON, where null gives none. -/
def decoded (source : Source) (name value : String) : Except Fault (Option Value) :=
  if name = "markdown_extensions" then
    match Json.read value with
    | .ok .null => .ok none
    | .ok v => .ok (some v)
    | .error _ => .error (.undecodable name source)
  else .ok (some (.text value))

/-- The settings that variables give, in the order of the settings. -/
def fromVariables (source : Source) (vars : List (String × Option String)) :
    List String → Except Fault Entries
  | [] => .ok []
  | name :: rest => do
    let own ← match setting? vars name with
      | none => pure none
      | some value => decoded source name value
    let others ← fromVariables source vars rest
    return match own with
      | some v => (.text name, v) :: others
      | none => others

/-- Whether a variable of the file has no meaning. -/
def isStray (name : String) : Bool :=
  !names.contains name && !names.any (fun n => mark ++ n == name) &&
    !startsWith (mark ++ "markdown_extensions").toList name.toList

/-- The variables of the file without a meaning. -/
def strays (vars : List (String × Option String)) : Entries :=
  vars.filterMap fun v =>
    match v.2 with
    | some value => if value.isEmpty || !isStray v.1 then none else some (.text v.1, .text value)
    | none => none

/-- The entries with others written over them. -/
def overlaid (entries others : Entries) : Entries :=
  others.foldl (fun known e => Value.writeEntry e.1 e.2 known) entries

/-- The entries of all sources. -/
def entriesOf (sources : Sources) : Except Fault Entries := do
  let environment := byName (sources.environment.map fun v => (v.1, some v.2))
  let environmentEntries ← fromVariables .environment environment names
  let file := match sources.file with
    | some text =>
      byName (EnvFile.bindings sources.environment (File.withLineFeeds text.toList))
    | none => []
  let fileEntries ← fromVariables .file file names
  let given := sources.given.map fun e => (Value.text e.1, e.2)
  return overlaid (overlaid (fileEntries ++ strays file) environmentEntries) given

/-! ## Settings -/

/-- The names with a comma between each two. -/
def listed (names : List String) : String :=
  String.ofList (commaSeparated (names.map String.toList))

/-- The environment that a text names, in any letter case. -/
def readEnvironment (v : Value) : Checked Environment :=
  (text v).thenCheck fun s =>
    match Environment.all.find? fun e => e.name == lowered s with
    | some e => .good e
    | none =>
      .complain (.refused ("Environment must be one of: " ++
        listed (Environment.all.map Environment.name)))

/-- The level that a text names, in any letter case. -/
def readLogLevel (v : Value) : Checked LogLevel :=
  (text v).thenCheck fun s =>
    match LogLevel.all.find? fun l => l.name.toList == upper s.toList with
    | some l => .good l
    | none =>
      .complain (.refused ("Log level must be one of: " ++ listed (LogLevel.all.map LogLevel.name)))

/-- The suffixes of files that hold configurations. -/
def configSuffixes : List String :=
  [".json", ".yaml", ".yml"]

/-- The path of a file that holds a configuration. -/
def readConfigPath (v : Value) : Checked File.Path :=
  match textLike? v with
  | some (some s) =>
    let path := File.Path.ofText s
    if configSuffixes.contains path.kind then .good path
    else .complain (.refused ("Host config must be one of: " ++ listed configSuffixes))
  | _ => .complain .notPath

/-- Names of extensions in a list. A text is a list in JSON if it begins like one, and otherwise
names with commas between them. -/
def readExtensions (v : Value) : Checked (List String) :=
  match v with
  | .text s =>
    let cs := trim s.toList
    if cs.head? = some '[' then
      match Json.readText cs with
      | .ok v => listOf text v
      | .error f => .complain (.refused f.message)
    else
      .good (((cutAt ',' cs).map trim).filter (!·.isEmpty) |>.map String.ofList)
  | _ => listOf text v

/-- That all entries have a name among the given ones. -/
def onlyNames (names : List String) : Entries → Checked Unit
  | [] => .good ()
  | (.text name, _) :: rest =>
    if names.contains name then onlyNames names rest
    else
      (fun _ _ => ()) <$> ((Checked.complain .unknownField : Checked Unit).under name) <*>
        onlyNames names rest
  | _ :: rest => onlyNames names rest

/-- The settings that entries describe. -/
def readEntries (entries : Entries) : Checked Settings :=
  let defaults : Settings := {}
  (fun s _ => s) <$>
    (Settings.mk <$> field entries "app_name" text defaults.appName <*>
      field entries "app_version" text defaults.appVersion <*>
      field entries "environment" readEnvironment defaults.environment <*>
      field entries "debug" switch defaults.debug <*>
      field entries "log_level" readLogLevel defaults.logLevel <*>
      field entries "host_config_path" (optional readConfigPath) defaults.hostConfigPath <*>
      field entries "supports_interactivity" (optional switch) defaults.supportsInteractivity <*>
      field entries "markdown_extensions" readExtensions defaults.markdownExtensions <*>
      field entries "page_title" text defaults.pageTitle) <*>
    onlyNames names entries

/-- The settings of the sources. -/
def read (sources : Sources) : Except Fault Settings := do
  match readEntries (← entriesOf sources) with
  | .good s => return s
  | .bad first more => throw (.invalid first more)
  | .halted _ => return {}

/-- The configuration of the host that settings select. -/
def hostConfig (files : File.Files) (s : Settings) : Except Host.Fault Host.Config := do
  let config ← match s.hostConfigPath with
    | some path => Host.load files path
    | none => pure default
  return match s.supportsInteractivity with
    | some b => { config with supportsInteractivity := b }
    | none => config

/-! ## Settings as data -/

/-- The settings under their names. -/
def members (s : Settings) : List (String × Value) :=
  [("app_name", .text s.appName), ("app_version", .text s.appVersion),
    ("environment", .text s.environment.name), ("debug", .bool s.debug),
    ("log_level", .text s.logLevel.name),
    ("host_config_path", s.hostConfigPath.elim .null fun p => .text p.text),
    ("supports_interactivity", s.supportsInteractivity.elim .null .bool),
    ("markdown_extensions", .list (s.markdownExtensions.map .text)),
    ("page_title", .text s.pageTitle)]

end Placard.Settings
