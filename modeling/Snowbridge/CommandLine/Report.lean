import Snowbridge.CommandLine.Invocation
import Snowbridge.Connection.Document
import Snowbridge.Connection.Dsn
import Snowbridge.Filter.Predicate
import Snowbridge.Session.Attribute
import Snowbridge.Sql.Expression

/-!
# Reports

What the commands print, and the faults with which they end.
-/

namespace Snowbridge.CommandLine

inductive CommandError where
  | configFile (path : String) (cause : ConfigError)
  | configDirectory (path : String) (cause : ConfigError)
  | connectionString (cause : ConfigError)
  | connectionOption (cause : ConfigError)
  | filter (text : String) (cause : Filter.FilterError)

namespace CommandError

/-- A configuration's fault, and the system's fault behind it. -/
def configChain (e : ConfigError) : List String :=
  match e with
  | .unreadable _ fault => [e.message, fault.message]
  | _ => [e.message]

/-- What failed, and then its causes, each behind the one before. -/
def chain : CommandError → List String
  | configFile path cause => ("Failed to load config: " ++ path) :: configChain cause
  | configDirectory path cause =>
    ("Failed to load config from directory: " ++ path) :: configChain cause
  | connectionString cause =>
    "Failed to build connection string" :: (DatabaseError.config cause).message :: configChain cause
  | connectionOption cause => "Invalid connection option" :: configChain cause
  | filter text cause => ["Failed to translate filter: " ++ text, cause.message]

def message (e : CommandError) : String :=
  match e.chain with
  | [] => ""
  | head :: causes =>
    "Error: " ++ head ++
      (if causes.isEmpty then "" else "\n\nCaused by:\n    " ++ String.intercalate "\n    " causes)

end CommandError

/-- What a command leaves: the text that it printed or its fault, and the notices on the way. -/
structure Report where
  result : Except CommandError String
  notices : List Notice := []

/-! ## Connection strings -/

/-- The configuration that an invocation names. -/
def CommonSettings.load (s : CommonSettings) (files : FileTree) :
    Except CommandError Configuration :=
  match s.config with
  | some path => (Configuration.load files path).mapError (.configFile path)
  | none =>
    (Configuration.loadDirectory files s.projectDirectory).mapError (.configDirectory s.projectDirectory)

/-- The request that the headers and query parameters make. -/
def DsnSettings.request (s : DsnSettings) : Connection.Request :=
  let r := s.headers.foldl (fun r (name, value) => r.addHeader name value) {}
  s.query.foldl (fun r (name, value) => r.addQuery name value) r

/-- The connection after the overrides of the environment and the request, and the overridden
fields. -/
def overridden (environment : String → Option String) (s : DsnSettings) (c : Configuration) :
    Connection × List Connection.Field :=
  let (connection, fromEnvironment) := c.connection.overrideFromEnvironment environment
  let (connection, fromRequest) := connection.override c.overrides s.request
  (connection, Connection.Field.all.filter fun f =>
    fromEnvironment.contains f || fromRequest.contains f)

/-- The way of authentication in a report. -/
def authenticationName : Authentication → String
  | .password => "password"
  | .keyPair => "key-pair"

/-- A connection string, the statements for its session and the overridden fields. -/
structure DsnReport where
  target : ConnectionString
  statements : List String
  fields : List Connection.Field

namespace DsnReport

def toJson (r : DsnReport) : Json :=
  .obj [("dsn", .str r.target.display),
    ("auth", .str (authenticationName r.target.authentication)),
    ("username", .ofOption r.target.username),
    ("session", .strings r.statements),
    ("overridden", .strings (r.fields.map (·.label)))]

def lines (r : DsnReport) : List String :=
  ["DSN:      " ++ r.target.display,
    "Auth:     " ++ authenticationName r.target.authentication] ++
    (r.target.username.map ("Username: " ++ ·)).toList ++
    (if r.fields.isEmpty then []
      else ["Overrides: " ++ String.intercalate ", " (r.fields.map (·.label))]) ++
    r.statements.map ("  " ++ ·)

end DsnReport

/-- Lines, each with its end. -/
def printed (lines : List String) : String := String.join (lines.map (· ++ "\n"))

/-- The report on the connection string of a configuration. -/
def reportDsn (files : FileTree) (environment : String → Option String) (s : DsnSettings)
    (c : Configuration) : Report :=
  let (connection, fields) := overridden environment s c
  let notices := ConnectionString.notices connection
  match ConnectionString.build files.canonicalFile? connection with
  | .error e => ⟨.error (.connectionString e), notices⟩
  | .ok target =>
    let notices := notices ++ Attribute.optionNotices c.optionTexts
    match Attribute.ofOptions c.optionTexts with
    | .error e => ⟨.error (.connectionOption e), notices⟩
    | .ok attributes =>
      let report : DsnReport := ⟨target, attributes.map (·.statement), fields⟩
      ⟨.ok (printed (if s.json then [report.toJson.indented 0] else report.lines)), notices⟩

/-- The files that may hold the configuration of an invocation. -/
def Invocation.configPaths (i : Invocation) : List String :=
  match i.common.config with
  | some path => [path]
  | none => Configuration.candidates i.common.projectDirectory

/-- The private key that the connection of an invocation names, if its configuration can be read. -/
def Invocation.keyPaths (i : Invocation) (files : FileTree)
    (environment : String → Option String) : List String :=
  match i.command, i.common.load files with
  | .dsn s, .ok c => (overridden environment s c).1.privateKeyPath?.toList
  | _, _ => []

/-! ## Filters -/

/-- The value of a parameter, which comes without a type: an integer, a number or a truth value if
it reads as one, and else the text itself. -/
def looseValue (raw : String) : Value :=
  let text := Text.trimmed raw
  match Decimal.readInt64? text, Decimal.readFloat? text with
  | some n, _ => .int n
  | none, some x => .float x
  | none, none =>
    if Text.sameName text "true" then .bool true
    else if Text.sameName text "false" then .bool false
    else .text raw

/-- What a filter is translated against. Of parameters of one name the last counts. -/
def FilterSettings.context (s : FilterSettings) : Filter.Context where
  columns := s.columns.map fun (name, typeText) => Catalog.Column.ofType name typeText
  named := (s.parameters.map fun (name, raw) => (name, looseValue raw)).reverse
  dialect := s.dialect
  parser := Sql.Expression.parse

/-- The report on a filter: its predicate, and the values for the placeholders. -/
def reportFilter (text : String) (s : FilterSettings) : Report :=
  match Filter.translate s.context text with
  | .error e => ⟨.error (.filter text e), []⟩
  | .ok none => ⟨.ok (printed ["(empty filter)"]), []⟩
  | .ok (some p) => ⟨.ok (printed [p.sql, (Json.arr (p.params.map Value.toJson)).compact]), []⟩

/-! ## Commands -/

/-- Runs a command. -/
def Invocation.report (i : Invocation) (files : FileTree) (environment : String → Option String) :
    Report :=
  match i.command with
  | .filter text s => reportFilter text s
  | .dsn s =>
    match i.common.load files with
    | .error e => ⟨.error e, []⟩
    | .ok c => reportDsn files environment s c

end Snowbridge.CommandLine
