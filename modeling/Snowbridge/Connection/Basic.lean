import Snowbridge.Connection.Error
import Snowbridge.Json.Basic
import Snowbridge.Text.Blank
import Snowbridge.Text.Shown

/-!
# Connections

The fields of one connection to the warehouse. Account, database and warehouse are required, and so
is a credential: the path of a private key, which selects key-pair authentication, or a password.
Blanks around a field do not count, except in the two secrets, which are taken as they are.
-/

namespace Snowbridge

/-- The fields of a connection as they were given. -/
structure Connection where
  hostname : Option String := none
  account : String := ""
  database : String := ""
  schema : Option String := none
  warehouse : String := ""
  role : Option String := none
  username : Option String := none
  password : Option String := none
  privateKeyPath : Option String := none
  privateKeyPassphrase : Option String := none
deriving DecidableEq, Inhabited

namespace Connection

inductive Field where
  | hostname
  | account
  | username
  | password
  | privateKeyPath
  | privateKeyPassphrase
  | role
  | database
  | warehouse
  | schema
deriving DecidableEq

namespace Field

/-- The fields in the order in which they are overridden and reported. -/
def all : List Field :=
  [hostname, account, username, password, privateKeyPath, privateKeyPassphrase, role, database,
    warehouse, schema]

/-- The name of a field in a configuration. -/
def name : Field → String
  | hostname => "hostname"
  | account => "account"
  | username => "username"
  | password => "password"
  | privateKeyPath => "private_key_path"
  | privateKeyPassphrase => "private_key_passphrase"
  | role => "role"
  | database => "database"
  | warehouse => "warehouse"
  | schema => "schema"

/-- The name of a field in a report. -/
def label : Field → String
  | hostname => "Hostname"
  | account => "Account"
  | username => "Username"
  | password => "Password"
  | privateKeyPath => "PrivateKeyPath"
  | privateKeyPassphrase => "PrivateKeyPassphrase"
  | role => "Role"
  | database => "Database"
  | warehouse => "Warehouse"
  | schema => "Schema"

/-- The environment variable of a field. -/
def environmentName : Field → String
  | hostname => "SNOWBRIDGE_HOSTNAME"
  | account => "SNOWBRIDGE_ACCOUNT"
  | username => "SNOWBRIDGE_USERNAME"
  | password => "SNOWBRIDGE_PASSWORD"
  | privateKeyPath => "SNOWBRIDGE_PRIVATE_KEY_PATH"
  | privateKeyPassphrase => "SNOWBRIDGE_PRIVATE_KEY_PASSPHRASE"
  | role => "SNOWBRIDGE_ROLE"
  | database => "SNOWBRIDGE_DATABASE"
  | warehouse => "SNOWBRIDGE_WAREHOUSE"
  | schema => "SNOWBRIDGE_SCHEMA"

/-- Secrets keep their blanks and are never shown. -/
def isSecret : Field → Bool
  | password => true
  | privateKeyPassphrase => true
  | _ => false

/-- The field of a name. -/
def ofName? (s : String) : Option Field := all.find? (·.name == s)

end Field

def set (c : Connection) (f : Field) (value : String) : Connection :=
  match f with
  | .hostname => { c with hostname := some value }
  | .account => { c with account := value }
  | .username => { c with username := some value }
  | .password => { c with password := some value }
  | .privateKeyPath => { c with privateKeyPath := some value }
  | .privateKeyPassphrase => { c with privateKeyPassphrase := some value }
  | .role => { c with role := some value }
  | .database => { c with database := value }
  | .warehouse => { c with warehouse := value }
  | .schema => { c with schema := some value }

/-- The value of a field as it was given. -/
def get (c : Connection) : Field → Option String
  | .hostname => c.hostname
  | .account => some c.account
  | .username => c.username
  | .password => c.password
  | .privateKeyPath => c.privateKeyPath
  | .privateKeyPassphrase => c.privateKeyPassphrase
  | .role => c.role
  | .database => some c.database
  | .warehouse => some c.warehouse
  | .schema => c.schema

/-! ## Fields in effect -/

/-- The schema of a connection that names none. -/
def defaultSchema : String := "PUBLIC"

/-- A secret as it was given, unless it is empty. -/
def secret? (s : Option String) : Option String := s.filter (· != "")

def hostname? (c : Connection) : Option String := c.hostname.bind Text.nonBlank
def role? (c : Connection) : Option String := c.role.bind Text.nonBlank
def username? (c : Connection) : Option String := c.username.bind Text.nonBlank
def privateKeyPath? (c : Connection) : Option String := c.privateKeyPath.bind Text.nonBlank
def password? (c : Connection) : Option String := secret? c.password
def passphrase? (c : Connection) : Option String := secret? c.privateKeyPassphrase

/-- The schema to connect to. -/
def schemaOrDefault (c : Connection) : String := (c.schema.bind Text.nonBlank).getD defaultSchema

/-- Whether a private key authenticates the connection. -/
def usesKeyPair (c : Connection) : Bool := c.privateKeyPath?.isSome

/-- The required fields are given, and so is a credential. -/
def validate (c : Connection) : Except ConfigError Unit :=
  if Text.isBlankText c.account then .error (.missingField "account")
  else if Text.isBlankText c.database then .error (.missingField "database")
  else if Text.isBlankText c.warehouse then .error (.missingField "warehouse")
  else if c.privateKeyPath?.isNone && c.password?.isNone then .error .missingCredentials
  else .ok ()

/-! ## Written forms -/

def mask : String := "******"

/-- A secret in a diagnostic shows only whether it was given. -/
def masked (s : Option String) : Option String := s.map fun _ => mask

/-- The connection in a diagnostic, without its secrets. -/
def shown (c : Connection) : String :=
  let fields := [
    ("hostname", Text.shownOption c.hostname),
    ("account", Text.shown c.account),
    ("database", Text.shown c.database),
    ("schema", Text.shownOption c.schema),
    ("warehouse", Text.shown c.warehouse),
    ("role", Text.shownOption c.role),
    ("username", Text.shownOption c.username),
    ("password", Text.shownOption (masked c.password)),
    ("private_key_path", Text.shownOption c.privateKeyPath),
    ("private_key_passphrase", Text.shownOption (masked c.privateKeyPassphrase))]
  "ConnectionConfig \x7b " ++ String.intercalate ", " (fields.map fun (n, v) => n ++ ": " ++ v) ++
    " \x7d"

def toJson (c : Connection) : Json :=
  .record (Field.all.map fun f => (f.name, Json.ofOption (c.get f)))

/-- Sets a field from structured data. A required field needs a text; any other may be null. -/
def setJson? (c : Connection) (f : Field) : Json → Option Connection
  | .str s => some (c.set f s)
  | .null =>
    match f with
    | .account => none
    | .database => none
    | .warehouse => none
    | _ => some c
  | _ => none

/-- The order of the fields in a connection that is given as a list. -/
def listed : List Field :=
  [.hostname, .account, .database, .schema, .warehouse, .role, .username, .password,
    .privateKeyPath, .privateKeyPassphrase]

/-- Sets fields one after the other. -/
def setAll? (c : Connection) : List (Field × Json) → Option Connection
  | [] => some c
  | (f, j) :: fs => (c.setJson? f j).bind fun c => c.setAll? fs

/-- A connection from structured data: a record of known fields, or the values of the first fields
in order. -/
def ofJson? : Json → Option Connection
  | .obj fields => do
    let known ← fields.mapM fun (name, j) => (Field.ofName? name).map fun f => (f, j)
    ({} : Connection).setAll? known
  | .arr items =>
    if items.length ≤ listed.length then ({} : Connection).setAll? (listed.zip items) else none
  | _ => none

end Connection

end Snowbridge
