import Snowbridge.Decimal.Layout
import Snowbridge.Json.Printer
import Snowbridge.Text.Blank

/-!
# Scalar values

The values that are bound to placeholders and that stand in the cells of a result. Engines do not
agree on the type of a key column, so two values match if their texts agree.
-/

namespace Snowbridge

/-- A bound parameter or a cell. -/
inductive Value where
  | null
  | bool (b : Bool)
  | int (n : Int64)
  | float (x : Float)
  | text (s : String)
deriving Inhabited, BEq

namespace Value

def isNull : Value → Bool
  | .null => true
  | _ => false

/-- The text of a value; there is none for null. -/
def asText : Value → Option String
  | .null => none
  | .bool b => some (if b then "true" else "false")
  | .int n => some (toString n.toInt)
  | .float x => some (Decimal.plain.write x)
  | .text s => some s

/-- The text of a value that is a text already. -/
def asString : Value → Option String
  | .text s => some s
  | _ => none

/-- The text of a value, with a word for null. -/
def display (v : Value) : String := v.asText.getD "NULL"

/-- The integer nearest to `n` within 64 bits. -/
def clampInt64 (n : Int) : Int64 :=
  Int64.ofInt (max Int64.minValue.toInt (min Int64.maxValue.toInt n))

/-- The whole number that a floating-point number is, clamped to 64 bits. -/
def wholeFloat? (x : Float) : Option Int64 :=
  if x.isNaN || x.isInf then none
  else
    let b := Decimal.Binary.ofFloat x
    let magnitude :=
      if 0 ≤ b.exponent then some (b.significand * Nat.pow 2 b.exponent.toNat)
      else
        let unit := Nat.pow 2 (-b.exponent).toNat
        if b.significand % unit == 0 then some (b.significand / unit) else none
    magnitude.map fun n => clampInt64 (if Decimal.isNegative x then -(n : Int) else n)

/-- The integer that a value is: an integer, a floating-point number without fraction, or a text
that holds an integer between blanks. -/
def asInt : Value → Option Int64
  | .int n => some n
  | .float x => wholeFloat? x
  | .text s => Decimal.readInt64? (Text.trimmed s)
  | _ => none

/-- Equality of texts, by which identifiers find their rows. Null matches null alone. -/
def agrees (a b : Value) : Bool := a.asText == b.asText

/-- The value in a record. A number without digits becomes null. -/
def toJson : Value → Json
  | .null => .null
  | .bool b => .bool b
  | .int n => .int n.toInt
  | .float x => if x.isNaN || x.isInf then .null else .float x
  | .text s => .str s

/-- A field of a record as a value. Lists and records, which semi-structured columns hold, become
their text. -/
def ofJson : Json → Value
  | .null => .null
  | .bool b => .bool b
  | .int n =>
    match Decimal.toInt64? n with
    | some i => .int i
    | none => .float (UInt64.ofNat n.toNat).toFloat
  | .float x => .float x
  | .str s => .text s
  | j => .text j.compact

/-- A scalar as a value; lists and records are refused. -/
def ofScalar? : Json → Option Value
  | .arr _ => none
  | .obj _ => none
  | j => some (ofJson j)

end Value

end Snowbridge
