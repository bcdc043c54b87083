/-!
# Whole numbers in text

Reading of decimal integers: one or more ASCII digits with an optional sign, within a range.
-/

namespace Snowbridge.Decimal

/-- The number that a run of digits stands for. -/
def digitsValue (cs : List Char) : Nat :=
  cs.foldl (fun n c => 10 * n + (c.toNat - '0'.toNat)) 0

/-- One or more ASCII digits. -/
def readDigits? (cs : List Char) : Option Nat :=
  if !cs.isEmpty && cs.all Char.isDigit then some (digitsValue cs) else none

/-- A natural number below `bound`. A plus sign may stand in front. -/
def readNat? (bound : Nat) (s : String) : Option Nat :=
  let digits :=
    match s.toList with
    | '+' :: cs => readDigits? cs
    | cs => readDigits? cs
  digits.filter (· < bound)

/-- An integer that fits 64 bits with sign. -/
def inInt64 (n : Int) : Bool := Int64.minValue.toInt ≤ n && n ≤ Int64.maxValue.toInt

/-- The 64-bit word of an integer, if it fits. -/
def toInt64? (n : Int) : Option Int64 := if inInt64 n then some (Int64.ofInt n) else none

/-- A decimal integer of any size, with an optional sign. -/
def readInt? (s : String) : Option Int :=
  match s.toList with
  | '-' :: cs => (readDigits? cs).map fun n => -(n : Int)
  | '+' :: cs => (readDigits? cs).map Int.ofNat
  | cs => (readDigits? cs).map Int.ofNat

/-- A decimal integer that fits 64 bits with sign. -/
def readInt64? (s : String) : Option Int64 := (readInt? s).bind toInt64?

end Snowbridge.Decimal
