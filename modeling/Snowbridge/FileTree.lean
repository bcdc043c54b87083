/-!
# File trees

The files that a command can see: texts and directories below a working directory. A relative path
starts at the working directory, an absolute one at the root.
-/

namespace Snowbridge

/-- A file with its text, or a directory. -/
inductive FileEntry where
  | file (text : String)
  | directory

/-- The entries by their names from the root, and the working directory. -/
structure FileTree where
  entries : List (List String × FileEntry)
  working : List String

inductive ReadFault where
  | missing
  | isDirectory

namespace FileTree

/-- The names between the slashes of a path. -/
def pathNames (path : String) : List String := path.splitOn "/"

/-- The names of a path that leads straight down. -/
def names (path : String) : List String := (pathNames path).filter fun n => n != "" && n != "."

/-- The tree of the files given by relative names. A name that ends in a slash is a directory. -/
def ofFiles (working : List String) (files : List (String × String)) : FileTree :=
  let entry := fun (name, text) =>
    (working ++ names name, if name.endsWith "/" then FileEntry.directory else FileEntry.file text)
  ⟨files.map entry, working⟩

/-- Adds an entry at the end of a path that leads straight down. -/
def insert (t : FileTree) (path : String) (e : FileEntry) : FileTree :=
  { t with entries := (if path.startsWith "/" then names path else t.working ++ names path, e) ::
      t.entries }

/-- What stands at a full name. The names above an entry are directories, and so are the root and
the working directory. -/
def entryAt? (t : FileTree) (names : List String) : Option FileEntry :=
  match t.entries.lookup names with
  | some e => some e
  | none =>
    if names.isPrefixOf t.working || t.entries.any (fun (n, _) => names.isPrefixOf n) then
      some .directory
    else none

def isDirectory (t : FileTree) (names : List String) : Bool :=
  match t.entryAt? names with
  | some .directory => true
  | _ => false

/-- Follows a path from a directory, name by name. Every name but the last has to be a directory. -/
def walk (t : FileTree) (here : List String) : List String → Option (List String)
  | [] => if (t.entryAt? here).isSome then some here else none
  | name :: names =>
    if !t.isDirectory here then none
    else if name == "" || name == "." then t.walk here names
    else if name == ".." then t.walk here.dropLast names
    else t.walk (here ++ [name]) names

/-- The full name that a path leads to, if something stands there. -/
def resolve? (t : FileTree) (path : String) : Option (List String) :=
  if path == "" then none
  else t.walk (if path.startsWith "/" then [] else t.working) (pathNames path)

/-- Whether a path leads to something. -/
def reaches (t : FileTree) (path : String) : Bool := (t.resolve? path).isSome

def read (t : FileTree) (path : String) : Except ReadFault String :=
  match (t.resolve? path).bind t.entryAt? with
  | some (.file text) => .ok text
  | some .directory => .error .isDirectory
  | none => .error .missing

/-- The absolute form of a path that leads to a file. -/
def canonicalFile? (t : FileTree) (path : String) : Option String :=
  match t.resolve? path with
  | none => none
  | some names =>
    match t.entryAt? names with
    | some (.file _) => some ("/" ++ String.intercalate "/" names)
    | _ => none

/-- A name below a directory. -/
def join (directory name : String) : String :=
  if directory == "" then name
  else if directory.endsWith "/" then directory ++ name
  else directory ++ "/" ++ name

end FileTree

/-- The system's words for a fault. -/
def ReadFault.message : ReadFault → String
  | .missing => "No such file or directory (os error 2)"
  | .isDirectory => "Is a directory (os error 21)"

end Snowbridge
