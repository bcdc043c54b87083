import Snowbridge.Connection.Basic
import Snowbridge.Notice

/-!
# Connection strings

A connection string is a prefix and fields of the form `key=value;`. A backslash makes the next
character plain, so that values may hold the characters that delimit fields.
-/

namespace Snowbridge

namespace Dsn

/-- The prefix of every connection string. -/
def scheme : String := "snowflake:"

/-- The name that this program gives itself. -/
def application : String := "Snowbridge"

/-- The authenticator of key-pair authentication. -/
def keyPairAuthenticator : String := "SNOWFLAKE_JWT"

/-- The key of the field that holds the passphrase of the private key. -/
def passphraseKey : String := "priv_key_file_pwd"

/-- The characters of a value that need a backslash. -/
def isReserved (c : Char) : Bool := c == '\\' || c == ';' || c == '='

/-- A value with backslashes in front of its reserved characters. -/
def escape (cs : List Char) : List Char :=
  cs.flatMap fun c => if isReserved c then ['\\', c] else [c]

def writeField (key value : String) : List Char :=
  key.toList ++ '=' :: (escape value.toList ++ [';'])

/-- A field as it is read: its key, and its value once the equals sign has been passed. Both are
kept with the last character first. -/
structure Pending where
  key : List Char := []
  value : Option (List Char) := none

/-- Adds a plain character to the part that is being read. -/
def Pending.push (p : Pending) (c : Char) : Pending :=
  match p.value with
  | none => { p with key := c :: p.key }
  | some v => { p with value := some (c :: v) }

/-- The fields of the text after the prefix; none if the text does not follow the form. -/
def readFields? (p : Pending) : List Char → Option (List (String × String))
  | [] => if p.value.isNone && p.key.isEmpty then some [] else none
  -- A backslash at the end has nothing to make plain.
  | ['\\'] => none
  | '\\' :: c :: cs => readFields? (p.push c) cs
  | c :: cs =>
    -- Only the first equals sign ends the key. A later one belongs to the value.
    if c == '=' && p.value.isNone then readFields? { p with value := some [] } cs
    else if c == ';' then
      match p.value with
      | none => none
      | some v =>
        if p.key.isEmpty then none
        else
          (readFields? {} cs).map fun fs =>
            (String.ofList p.key.reverse, String.ofList v.reverse) :: fs
    else readFields? (p.push c) cs

/-- What follows the prefix. -/
def afterScheme? (dsn : String) : Option (List Char) :=
  if scheme.toList.isPrefixOf dsn.toList then some (dsn.toList.drop scheme.length) else none

/-- The fields of a connection string. A fault never repeats the text, which may hold a
passphrase. -/
def fields (dsn : String) : Except ConfigError (List (String × String)) :=
  match afterScheme? dsn with
  | none => .error (.invalid ("DSN must start with '" ++ scheme ++ "'"))
  | some body =>
    match readFields? {} body with
    | some fs => .ok fs
    | none => .error (.invalid ("Malformed DSN (" ++ toString dsn.utf8ByteSize ++ " bytes)"))

end Dsn

inductive Authentication where
  | password
  | keyPair
deriving DecidableEq

def Authentication.label : Authentication → String
  | .password => "Password"
  | .keyPair => "KeyPair"

/-- A connection string, with the credentials that are passed beside it. -/
structure ConnectionString where
  fields : List (String × String)
  username : Option String
  password : Option String
  authentication : Authentication
deriving DecidableEq

namespace ConnectionString

/-- An optional field. -/
def field? (key : String) : Option String → List (String × String)
  | some v => [(key, v)]
  | none => []

/-- The fields before the authentication. -/
def targetFields (c : Connection) : List (String × String) :=
  [("account", Text.trimmed c.account)] ++ field? "host" c.hostname? ++
    [("database", Text.trimmed c.database), ("schema", c.schemaOrDefault),
      ("warehouse", Text.trimmed c.warehouse)] ++ field? "role" c.role?

/-- The fields of key-pair authentication. -/
def keyFields (c : Connection) (path : String) : List (String × String) :=
  [("authenticator", Dsn.keyPairAuthenticator), ("priv_key_file", path)] ++
    field? Dsn.passphraseKey c.passphrase?

/-- The field that names this program. -/
def applicationField : String × String := ("application", Dsn.application)

/-- Says that a password is not used. -/
def passwordUnused : Notice :=
  .warning "Both a password and a private key were given; using key-pair authentication"

/-- What an operator is told when the connection string is built. -/
def notices (c : Connection) : List Notice :=
  match c.validate with
  | .error _ => []
  | .ok () => if c.usesKeyPair && c.password?.isSome then [passwordUnused] else []

/-- The connection string of a connection. `keyFile` gives the absolute path of a private key that
exists. -/
def build (keyFile : String → Option String) (c : Connection) :
    Except ConfigError ConnectionString :=
  match c.validate with
  | .error e => .error e
  | .ok () =>
    match c.privateKeyPath? with
    | none =>
      .ok ⟨targetFields c ++ [applicationField], c.username?, c.password?, .password⟩
    | some path =>
      match keyFile path with
      | none => .error (.keyFileNotFound path)
      | some resolved =>
        .ok ⟨targetFields c ++ keyFields c resolved ++ [applicationField], c.username?, none,
          .keyPair⟩

def writeField (masked : Bool) (f : String × String) : List Char :=
  if masked && f.1 == Dsn.passphraseKey then
    f.1.toList ++ '=' :: (Connection.mask.toList ++ [';'])
  else Dsn.writeField f.1 f.2

/-- The prefix and the fields. -/
def write (masked : Bool) (s : ConnectionString) : String :=
  String.ofList (Dsn.scheme.toList ++ s.fields.flatMap (writeField masked))

/-- The full text, with the passphrase. -/
def dsn (s : ConnectionString) : String := s.write false

/-- The text for an operator, without the passphrase. -/
def display (s : ConnectionString) : String := s.write true

/-- The value of the first field with a key. -/
def get? (s : ConnectionString) (key : String) : Option String := s.fields.lookup key

/-- The connection string in a diagnostic, without its secrets. -/
def shown (s : ConnectionString) : String :=
  "ConnectionString \x7b dsn: " ++ Text.shown s.display ++ ", username: " ++
    Text.shownOption s.username ++ ", password: " ++
    Text.shownOption (Connection.masked s.password) ++ ", auth: " ++ s.authentication.label ++
    " \x7d"

end ConnectionString

end Snowbridge
