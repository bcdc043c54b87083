import Snowbridge.Catalog.ColumnType
import Snowbridge.Decimal.Binary
import Snowbridge.Sql.Quoted
import Snowbridge.Value

/-!
# Column defaults

The engine reports the default of a column as SQL text: a literal, an expression that it evaluates
itself, or the words for a column that it numbers.
-/

namespace Snowbridge.Catalog

/-- The default of a column. -/
inductive Default where
  | literal (v : Value)
  | expression (sql : String)

/-- The inside of a text between single quotes. -/
def insideQuotes? (cs : List Char) : Option (List Char) :=
  match cs with
  | '\'' :: r =>
    if r.getLast? == some '\'' then some r.dropLast else none
  | _ => none

/-- The constant of a column's type that a text stands for. -/
def constant? (t : ColumnType) (s : String) : Option Value :=
  match t with
  | .boolean =>
    if Text.sameName s "TRUE" then some (.bool true)
    else if Text.sameName s "FALSE" then some (.bool false)
    else none
  | .integer => (Decimal.readInt64? s).map .int
  | .id => (Decimal.readInt64? s).map .int
  | .decimal => (Decimal.readFloat? s).map .float
  | .double => (Decimal.readFloat? s).map .float
  | _ => none

/-- The default that a text stands for. An empty text and the word for null stand for none. -/
def Default.read? (raw : String) (t : ColumnType) : Option Default :=
  let s := Text.trimmed raw
  if s == "" || Text.sameName s "NULL" then none
  else
    match insideQuotes? s.toList with
    | some inner => some (.literal (.text (String.ofList (Sql.undoubled '\'' inner))))
    | none =>
      match constant? t s with
      | some v => some (.literal v)
      | none => some (.expression s)

/-- The end of a default that takes the next number of a sequence. -/
def nextValueMark : List Char := ".NEXTVAL".toList

/-- The numbering that a default stands for: none, one without a name, or a named sequence. -/
def numbering? (raw : String) : Option (Option String) :=
  let cs := Text.trim raw.toList
  if (Text.dropFolded? "IDENTITY".toList cs).isSome ||
      (Text.dropFolded? "AUTOINCREMENT".toList cs).isSome then some none
  else
    let cut := cs.length - nextValueMark.length
    if nextValueMark.length ≤ cs.length && Text.sameFolded (cs.drop cut) nextValueMark then
      some (some (String.ofList (cs.take cut)))
    else none

end Snowbridge.Catalog
