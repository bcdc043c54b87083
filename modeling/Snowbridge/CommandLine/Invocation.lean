import Snowbridge.CommandLine.Reader
import Snowbridge.Sql.Dialect
import Snowbridge.Text.Blank

/-!
# Invocations

The commands of the program with their settings, and how a command line is read as one of them.
Options that every command takes may stand before the command or after it; the later wins.
-/

namespace Snowbridge.CommandLine

/-! ## Settings -/

/-- What every command takes. -/
structure CommonSettings where
  verbose : Bool := false
  projectDirectory : String := "."
  config : Option String := none

/-- What the connection string is built for: the headers and query parameters of a request. -/
structure DsnSettings where
  headers : List (String × String) := []
  query : List (String × String) := []
  json : Bool := false

/-- A filter, the columns that it may name with their types, and the parameters that it may use. -/
structure FilterSettings where
  filter : Option String := none
  columns : List (String × String) := []
  dialect : Sql.Dialect := .snowflake
  parameters : List (String × String) := []

inductive Command where
  | dsn (settings : DsnSettings)
  | filter (filter : String) (settings : FilterSettings)

/-- A command with the settings that every command takes. -/
structure Invocation where
  common : CommonSettings
  command : Command

/-! ## Values -/

/-- A name and a value with an equals sign between them; the name is trimmed and not blank. -/
def readSetting (raw : String) : Except ValueFault (String × String) :=
  match cutAt '=' raw.toList with
  | (_, none) => .error (.malformed ("expected NAME=VALUE, got '" ++ raw ++ "'"))
  | (name, some value) =>
    if (Text.trim name).isEmpty then .error (.malformed ("missing name in '" ++ raw ++ "'"))
    else .ok (String.ofList (Text.trim name), String.ofList value)

/-- A column's name and type with a colon between them, both trimmed and not blank. -/
def readColumn (raw : String) : Except ValueFault (String × String) :=
  match cutAt ':' raw.toList with
  | (name, some typeText) =>
    if (Text.trim name).isEmpty || (Text.trim typeText).isEmpty then
      .error (.malformed ("expected NAME:TYPE, got '" ++ raw ++ "'"))
    else .ok (String.ofList (Text.trim name), String.ofList (Text.trim typeText))
  | _ => .error (.malformed ("expected NAME:TYPE, got '" ++ raw ++ "'"))

def readDialect : String → Except ValueFault Sql.Dialect
  | "snowflake" => .ok .snowflake
  | "duckdb" => .ok .duckdb
  | _ => .error .notAChoice

/-! ## Commands -/

def commonOptions : List (OptionForm CommonSettings) := [
  { name := "verbose", letter := some 'v', action := .turnOn fun s => { s with verbose := true } },
  { name := "project-dir", letter := some 'p',
    action := .takeValue ⟨"PROJECT_DIR", false, fun v s => .ok { s with projectDirectory := v }⟩ },
  { name := "config", letter := some 'c',
    action := .takeValue ⟨"CONFIG", false, fun v s => .ok { s with config := some v }⟩ },
  { name := "help", letter := some 'h', action := .stop .help }]

/-- What may stand before the command. -/
def topForm : CommandForm CommonSettings where
  options := commonOptions ++ [{ name := "version", letter := some 'V', action := .stop .version }]
  commands := ["dsn", "filter", "help"]

/-- An option that adds a name and a value each time. -/
def settingOption {σ : Type} (name placeholder : String) (add : String × String → σ → σ) :
    OptionForm σ where
  name := name
  action := .takeValue ⟨placeholder, true, fun v s => (readSetting v).map fun p => add p s⟩

def dsnForm : CommandForm (CommonSettings × DsnSettings) where
  options := commonOptions.map .onFirst ++ [
    settingOption "header" "HEADERS" fun p (c, s) => (c, { s with headers := s.headers ++ [p] }),
    settingOption "query" "QUERY" fun p (c, s) => (c, { s with query := s.query ++ [p] }),
    { name := "json", action := .turnOn fun (c, s) => (c, { s with json := true }) }]

def filterForm : CommandForm (CommonSettings × FilterSettings) where
  options := commonOptions.map .onFirst ++ [
    { name := "column",
      action := .takeValue ⟨"COLUMNS", true, fun v (c, s) =>
        (readColumn v).map fun p => (c, { s with columns := s.columns ++ [p] })⟩ },
    { name := "dialect", letter := some 'd',
      action := .takeValue ⟨"DIALECT", false, fun v (c, s) =>
        (readDialect v).map fun dialect => (c, { s with dialect })⟩ },
    settingOption "param" "PARAMS" fun p (c, s) => (c, { s with parameters := s.parameters ++ [p] })]
  operands := [fun text (c, s) => (c, { s with filter := some text })]

/-! ## Reading -/

/-- Help on a command, or on none. -/
def readHelp (names : List String) : UsageError :=
  match names with
  | [] => .help
  | [name] => if topForm.commands.contains name then .help else .unknownCommand name
  | name :: other :: _ => .unknownCommand (if topForm.commands.contains name then other else name)

/-- Reads all arguments of a command. -/
def readAll {σ : Type} (f : CommandForm (CommonSettings × σ)) (settings : CommonSettings × σ)
    (args : List String) : Except UsageError (CommonSettings × σ) :=
  match f.read { settings } args with
  | .error e => .error e
  | .ok (s, _) => s.settle.map (·.settings)

/-- The command of a name with its arguments. -/
def readCommand (common : CommonSettings) (name : String) (args : List String) :
    Except UsageError Invocation :=
  if name == "dsn" then
    (readAll dsnForm (common, {}) args).map fun (common, s) => ⟨common, .dsn s⟩
  else if name == "filter" then
    match readAll filterForm (common, {}) args with
    | .error e => .error e
    | .ok (common, s) =>
      match s.filter, s.columns with
      | some text, _ :: _ => .ok ⟨common, .filter text s⟩
      | none, [] => .error (.missingArguments ["--column <COLUMNS>", "<FILTER>"])
      | none, _ => .error (.missingArguments ["<FILTER>"])
      | _, [] => .error (.missingArguments ["--column <COLUMNS>"])
  else .error (readHelp args)

/-- The environment variable that names the configuration's file. -/
def configVariable : String := "SNOWBRIDGE_CONFIG"

/-- A command line as an invocation. The configuration's file may also be named by the environment. -/
def Invocation.read (environment : String → Option String) (args : List String) :
    Except UsageError Invocation :=
  let named := environment configVariable
  match topForm.read { settings := {} } args with
  | .error e => .error e
  | .ok (s, none) =>
    match s.settle with
    | .error e => .error e
    | .ok s =>
      if s.given.isEmpty && named.isNone then .error .nothingGiven else .error .missingCommand
  | .ok (s, some (name, rest)) =>
    let settled := s.settle
    let common := match settled with
      | .ok s => s.settings
      | .error _ => s.settings
    match readCommand common name rest, settled with
    | .error e, _ => .error e
    | _, .error e => .error e
    | .ok i, .ok _ => .ok { i with common.config := i.common.config.orElse fun _ => named }

end Snowbridge.CommandLine
