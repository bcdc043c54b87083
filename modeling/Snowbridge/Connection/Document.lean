import Snowbridge.Connection.Override
import Snowbridge.Yaml.Data

/-!
# Configuration documents

A configuration file is a YAML document with the connection, options of the session, a limit on the
size of batches, and the names that may override fields. Only names that are known are accepted, and
a section may be left empty.
-/

namespace Snowbridge

/-- A configuration. Options are in order of their names. -/
structure Configuration where
  connection : Connection
  options : List (String × Yaml.Data) := []
  maxRecords : Option Nat := none
  overrides : Connection.Mapping := {}

namespace Configuration

open Yaml (Node Reading)

/-! ## Reading a document -/

/-- The text of a scalar, however it is written. -/
def readText (doc : Yaml.Document) (n : Node) : Reading String := do
  match ← doc.follow n with
  | .scalar _ text _ => pure text
  | _ => failure

/-- A plain text that stands for nothing. -/
def isNothing (text : String) : Bool := text == "" || Yaml.isNullWord text

/-- A node that may be left out. A plain scalar that stands for nothing counts as left out; with the
tag of null it must be one of the words for it, and with any other tag it is there. -/
def readOptional (doc : Yaml.Document) (n : Node) : Reading (Option Node) := do
  let node ← doc.follow n
  match node with
  | .scalar p text .plain =>
    match p.tag with
    | none => pure (if isNothing text then none else some node)
    | some tag =>
      if tag != .standard "null" then pure (some node)
      else if Yaml.isNullWord text then pure none
      else failure
  | _ => pure (some node)

/-- The entries of a section. A section may be left empty. -/
def readEntries (doc : Yaml.Document) (n : Node) : Reading (List (Node × Node)) := do
  match ← doc.follow n with
  | .mapping _ entries => pure entries
  | .scalar _ "" .plain => pure []
  | _ => failure

/-- The entries of a section by their names. -/
def readSection (doc : Yaml.Document) (n : Node) : Reading (List (String × Node)) := do
  (← readEntries doc n).mapM fun (k, v) => do pure (← readText doc k, v)

/-- No name stands twice. -/
def namesDiffer (entries : List (String × Node)) : Bool :=
  (entries.map Prod.fst).eraseDups.length == entries.length

/-- Sets a field of the connection. A required field takes any scalar as its text. -/
def readField (doc : Yaml.Document) (c : Connection) (f : Connection.Field) (n : Node) :
    Reading Connection := do
  match f with
  | .account => pure (c.set f (← readText doc n))
  | .database => pure (c.set f (← readText doc n))
  | .warehouse => pure (c.set f (← readText doc n))
  | _ =>
    match ← readOptional doc n with
    | none => pure c
    | some n => pure (c.set f (← readText doc n))

/-- The field of a name, if it has one. -/
def fieldNamed (name : String) : Reading Connection.Field :=
  match Connection.Field.ofName? name with
  | some f => pure f
  | none => failure

def readConnection (doc : Yaml.Document) (n : Node) : Reading Connection := do
  let entries ← readSection doc n
  if namesDiffer entries then
    entries.foldlM (fun c (name, v) => do readField doc c (← fieldNamed name) v) {}
  else failure

/-- Puts an option at its place. Of two with one name the later stands. -/
def insertOption (name : String) (d : Yaml.Data) :
    List (String × Yaml.Data) → List (String × Yaml.Data)
  | [] => [(name, d)]
  | (n, v) :: es =>
    if name < n then (name, d) :: (n, v) :: es
    else if name == n then (name, d) :: es
    else (n, v) :: insertOption name d es

/-- How deep sequences and mappings may nest, the root and a section included. -/
def nesting : Nat := 128

def readOptions (doc : Yaml.Document) (n : Node) : Reading (List (String × Yaml.Data)) := do
  let entries ← readSection doc n
  entries.foldlM (fun es (name, v) => do
    pure (insertOption name (← Yaml.Data.read doc (nesting - 2) v) es)) []

/-- The field that an override is for. Its name is the text of the key, or else the key's local tag;
then the key stands for nothing. -/
def readOverridden (doc : Yaml.Document) (n : Node) : Reading Connection.Field := do
  match ← doc.follow n with
  | .scalar p text style =>
    match p.tag.bind Yaml.Tag.localName? with
    | none => fieldNamed text
    | some name => if style == .plain && isNothing text then fieldNamed name else failure
  | _ => failure

def readMapping (doc : Yaml.Document) (n : Node) : Reading Connection.Mapping := do
  (← readEntries doc n).foldlM (fun (m : Connection.Mapping) (k, v) => do
    pure (m.add (← readOverridden doc k) (← readText doc v))) {}

/-- The limit on the size of batches: a plain number, or one in a literal block that is tagged as a
whole number. -/
def readLimit (doc : Yaml.Document) (n : Node) : Reading (Option Nat) := do
  match ← readOptional doc n with
  | none => pure none
  | some (.scalar p text style) =>
    let written := style == .plain || (style == .literal && p.tag == some (.standard "int"))
    match (Yaml.readCount? (Nat.pow 2 64) text).filter fun _ => written with
    | some count => pure (some count)
    | none => failure
  | some _ => failure

/-- A section that may be missing. -/
def readIfPresent {α : Type} (entries : List (String × Node)) (name : String) (missing : α)
    (reading : Node → Reading α) : Reading α :=
  match entries.lookup name with
  | some n => reading n
  | none => pure missing

def sections : List String := ["connection", "options", "max_records", "overrides"]

/-- The configuration of a document. -/
def readRoot (doc : Yaml.Document) : Reading Configuration := do
  let entries ← readSection doc doc.root
  if !namesDiffer entries || !entries.all (fun e => sections.contains e.1) then failure
  else
    match entries.lookup "connection" with
    | none => failure
    | some n =>
      let connection ← readConnection doc n
      let options ← readIfPresent entries "options" [] (readOptions doc)
      let maxRecords ← readIfPresent entries "max_records" none (readLimit doc)
      let overrides ← readIfPresent entries "overrides" {} (readMapping doc)
      pure { connection, options, maxRecords, overrides }

/-- The configuration of a document, if it has one. -/
def ofDocument? (doc : Yaml.Document) : Option Configuration := doc.run? (readRoot doc)

/-! ## Validation and files -/

/-- The limit is positive and every option is a scalar. Credentials may still come with a
request. -/
def validate (c : Configuration) : Except ConfigError Unit :=
  if c.maxRecords == some 0 then .error (.invalid "max_records must be greater than zero")
  else
    match c.options.find? fun o => o.2.isComposite with
    | some (name, _) =>
      .error (.invalid ("Connection option '" ++ name ++ "' must be a scalar value"))
    | none => .ok ()

/-- The options that have a text. -/
def optionTexts (c : Configuration) : List (String × String) :=
  c.options.filterMap fun (name, d) => d.text?.map fun text => (name, text)

/-- A configuration from the text of its file. -/
def ofText (text : String) : Except ConfigError Configuration :=
  match (Yaml.Document.read? text).bind ofDocument? with
  | none => .error .malformedDocument
  | some c =>
    match c.validate with
    | .error e => .error e
    | .ok () => .ok c

/-- The configuration in a file. -/
def load (files : FileTree) (path : String) : Except ConfigError Configuration :=
  if files.reaches path then
    match files.read path with
    | .ok text => ofText text
    | .error fault => .error (.unreadable path fault)
  else .error (.fileNotFound path)

/-- The files of a directory that may hold its configuration: the short ending comes first. -/
def candidates (directory : String) : List String :=
  ["snowbridge.yml", "snowbridge.yaml"].map (FileTree.join directory)

/-- The configuration in a directory. If it has none, the first candidate is missed. -/
def loadDirectory (files : FileTree) (directory : String) : Except ConfigError Configuration :=
  let paths := candidates directory
  load files ((paths.find? files.reaches).getD (paths.headD directory))

end Configuration

end Snowbridge
