/-!
# Structured data

Null, truth values, whole and floating-point numbers, texts, lists, and records. A record is sorted
by field name and names each field once.
-/

namespace Snowbridge

/-- A structured value. Whole numbers stay apart from floating-point ones. -/
inductive Json where
  | null
  | bool (b : Bool)
  | int (n : Int)
  | float (x : Float)
  | str (s : String)
  | arr (items : List Json)
  | obj (fields : List (String × Json))
deriving Inhabited

/-- Named fields in order of their names. -/
abbrev Record := List (String × Json)

namespace Record

/-- The record with one field set. The order of names is kept. -/
def insert (key : String) (value : Json) : Record → Record
  | [] => [(key, value)]
  | (k, v) :: r =>
    if key < k then (key, value) :: (k, v) :: r
    else if key == k then (key, value) :: r
    else (k, v) :: insert key value r

/-- The record of a list of fields. Of two fields with one name the later stands. -/
def ofList (fields : List (String × Json)) : Record :=
  fields.foldl (fun r f => r.insert f.1 f.2) []

def get? (r : Record) (key : String) : Option Json := r.lookup key

end Record

namespace Json

def record (fields : List (String × Json)) : Json := .obj (Record.ofList fields)

/-- A text, or null if there is none. -/
def ofOption : Option String → Json
  | some s => .str s
  | none => .null

/-- A count, or null if there is none. -/
def ofNat? : Option Nat → Json
  | some n => .int n
  | none => .null

def strings (ss : List String) : Json := .arr (ss.map .str)

end Json

end Snowbridge
