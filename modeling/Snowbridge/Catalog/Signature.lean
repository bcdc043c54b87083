import Snowbridge.Sql.Quoted
import Snowbridge.Text.Blank

/-!
# Argument signatures

A signature lists the arguments of a routine between parentheses: a name and a type each, or a type
alone.
-/

namespace Snowbridge.Catalog

/-- An argument in a signature. -/
structure SignatureArgument where
  name : Option String
  typeText : String
deriving DecidableEq

/-- What stands between an opening parenthesis at the start and a closing one at the end. -/
def insideParentheses? (cs : List Char) : Option (List Char) :=
  match cs with
  | '(' :: r => if r.getLast? == some ')' then some r.dropLast else none
  | _ => none

/-- An argument: the name ends at the first blank. -/
def SignatureArgument.ofPiece (piece : List Char) : SignatureArgument :=
  let cs := Text.trim piece
  match cs.dropWhile fun c => !Text.isBlank c with
  | _ :: rest =>
    ⟨some (String.ofList (cs.takeWhile fun c => !Text.isBlank c)),
      String.ofList (Text.trim rest)⟩
  | [] => ⟨none, String.ofList cs⟩

/-- The arguments of a signature. Commas within parentheses or quotes belong to a type. A signature
without arguments has one, of an empty type. -/
def readSignature (s : String) : List SignatureArgument :=
  let cs := Text.trim s.toList
  (Sql.splitTopLevel ',' ((insideParentheses? cs).getD cs)).map SignatureArgument.ofPiece

end Snowbridge.Catalog
