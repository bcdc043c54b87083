import Snowbridge.Decimal.Shortest

/-!
# Written forms of floating-point numbers

A format is a record of decisions: when an exponent is written and how, whether a whole number keeps
a zero after its point, which of two equally near decimals is taken, and the words for the numbers
that have no digits.
-/

namespace Snowbridge.Decimal

/-- The decisions of a written form. -/
structure Layout where
  /-- Least and greatest exponent of the leading digit for which all places are written out; always
  written out without it. -/
  positional : Option (Int × Int)
  /-- Whole numbers end in `.0`. -/
  keepsPoint : Bool
  /-- A positive exponent carries a plus sign. -/
  plusSign : Bool
  /-- A tie between two shortest decimals goes away from zero instead of to the even digit. -/
  tieUp : Bool
  notANumber : String
  infinity : String
  minusInfinity : String

/-- The digits of a decimal without trailing zeros, and the exponent of the last digit. -/
def stripZeros (fuel : Nat) (digits : Nat) (exponent : Int) : Nat × Int :=
  match fuel with
  | 0 => (digits, exponent)
  | fuel + 1 =>
    if digits != 0 && digits % 10 == 0 then stripZeros fuel (digits / 10) (exponent + 1)
    else (digits, exponent)

/-- All places written out. -/
def writePositional (keepsPoint : Bool) (digits : List Char) (exponent : Int) : List Char :=
  if 0 ≤ exponent then
    digits ++ List.replicate exponent.toNat '0' ++ (if keepsPoint then ['.', '0'] else [])
  else
    let places := (-exponent).toNat
    if places < digits.length then
      digits.take (digits.length - places) ++ '.' :: digits.drop (digits.length - places)
    else ['0', '.'] ++ List.replicate (places - digits.length) '0' ++ digits

/-- One digit before the point and an exponent. -/
def writeScientific (plusSign : Bool) (digits : List Char) (lead : Int) : List Char :=
  let mantissa :=
    match digits with
    | d :: r@(_ :: _) => d :: '.' :: r
    | ds => ds
  let sign := if lead < 0 then ['-'] else if plusSign then ['+'] else []
  mantissa ++ 'e' :: sign ++ Nat.toDigits 10 lead.natAbs

/-- The digits of a finite number without its sign. -/
def Layout.magnitude (l : Layout) (b : Binary) : List Char :=
  let s := if b.significand == 0 then ⟨0, 0⟩ else b.shortest l.tieUp
  let (digits, exponent) := stripZeros 20 s.digits s.exponent
  let ds := Nat.toDigits 10 digits
  let lead := exponent + (ds.length : Int) - 1
  let fits :=
    match l.positional with
    | some (least, greatest) => (least ≤ lead && lead ≤ greatest) || digits == 0
    | none => true
  if fits then writePositional l.keepsPoint ds exponent else writeScientific l.plusSign ds lead

/-- The text of a number. -/
def Layout.write (l : Layout) (x : Float) : String :=
  if x.isNaN then l.notANumber
  else if x.isInf then if isNegative x then l.minusInfinity else l.infinity
  else
    let ds := l.magnitude (Binary.ofFloat x)
    String.ofList (if isNegative x then '-' :: ds else ds)

/-- A number as a plain value: every place written out, whole numbers without a point. -/
def plain : Layout where
  positional := none
  keepsPoint := false
  plusSign := false
  tieUp := true
  notANumber := "NaN"
  infinity := "inf"
  minusInfinity := "-inf"

/-- A number as a bound parameter of the embedded engine: a point always, and an exponent from
`1e16` up and below `1e-4`. -/
def bound : Layout where
  positional := some (-4, 15)
  keepsPoint := true
  plusSign := false
  tieUp := true
  notANumber := "NaN"
  infinity := "inf"
  minusInfinity := "-inf"

end Snowbridge.Decimal
