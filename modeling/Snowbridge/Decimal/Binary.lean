import Snowbridge.Decimal.Integer
import Snowbridge.Text.Case

/-!
# Decimal text to binary floating point

A decimal number is rounded once, to the nearest value of the format, and to the even one of two
equally near. All arithmetic is exact on natural numbers.
-/

namespace Snowbridge.Decimal

/-- A binary format: the bits of a significand, the least exponent of its last bit, and the
exponent of the power of two that all values stay below. -/
structure BinaryFormat where
  precision : Nat
  minExponent : Int
  limit : Int

def double : BinaryFormat := ⟨53, -1074, 1024⟩

def single : BinaryFormat := ⟨24, -149, 128⟩

/-- The value `significand * 2 ^ exponent`. -/
structure Binary where
  significand : Nat
  exponent : Int

/-- The natural number nearest to `num / den`, the even one on a tie. -/
def roundEven (num den : Nat) : Nat :=
  let q := num / den
  let r := num % den
  if 2 * r < den then q else if den < 2 * r then q + 1 else q + q % 2

/-- The fraction `num / den` in units of `2 ^ q`. -/
def inUnits (num den : Nat) (q : Int) : Nat × Nat :=
  if 0 ≤ q then (num, den * Nat.pow 2 q.toNat) else (num * Nat.pow 2 (-q).toNat, den)

/-- The value of the format nearest to the positive fraction `num / den`, before the check against
the limit. The unit is the least one that leaves the quotient below `2 ^ precision`. -/
def BinaryFormat.round (f : BinaryFormat) (num den : Nat) : Binary :=
  let q₀ := max ((num.log2 : Int) - den.log2 - f.precision) f.minExponent
  let (n, d) := inUnits num den q₀
  if n / d < Nat.pow 2 f.precision then ⟨roundEven n d, q₀⟩
  else
    let (n, d) := inUnits num den (q₀ + 1)
    ⟨roundEven n d, q₀ + 1⟩

/-- Whether the value reaches the limit of the format, so that it counts as infinite. -/
def BinaryFormat.overflows (f : BinaryFormat) (b : Binary) : Bool :=
  b.significand != 0 && f.limit ≤ (b.significand.log2 : Int) + b.exponent

def infinityBits : Nat := 0x7FF0000000000000

def signBit : Nat := 0x8000000000000000

/-- The bits of a value that the 64-bit format holds exactly. -/
def Binary.bits (b : Binary) : Nat :=
  if b.significand == 0 then 0
  else
    let top := b.significand.log2
    let scale := (top : Int) + b.exponent
    if scale < -1022 then b.significand * Nat.pow 2 (b.exponent + 1074).toNat
    else
      let fraction :=
        if top ≤ 52 then b.significand * Nat.pow 2 (52 - top)
        else b.significand / Nat.pow 2 (top - 52)
      (scale + 1023).toNat * Nat.pow 2 52 + (fraction - Nat.pow 2 52)

/-- A floating-point number from its magnitude and sign. -/
def floatOfBits (negative : Bool) (bits : Nat) : Float :=
  Float.ofBits (UInt64.ofNat (if negative then bits + signBit else bits))

/-- The number `digits * 10 ^ exponent` in the format. Exponents far beyond either end of the
format are decided by the position of the leading digit. -/
def BinaryFormat.ofDecimal (f : BinaryFormat) (negative : Bool) (digits : Nat) (exponent : Int) :
    Float :=
  let lead := exponent + ((Nat.toDigits 10 digits).length : Int)
  if digits == 0 || lead < -400 then floatOfBits negative 0
  else if 400 < lead then floatOfBits negative infinityBits
  else
    let b :=
      if 0 ≤ exponent then f.round (digits * Nat.pow 10 exponent.toNat) 1
      else f.round digits (Nat.pow 10 (-exponent).toNat)
    floatOfBits negative (if f.overflows b then infinityBits else b.bits)

/-- The exponent part after its letter: an optional sign and digits to the end. -/
def readExponent? : List Char → Option Int
  | '-' :: cs => (readDigits? cs).map fun n => -(n : Int)
  | '+' :: cs => (readDigits? cs).map Int.ofNat
  | cs => (readDigits? cs).map Int.ofNat

/-- Digits, with a point anywhere among them or at either end, and an optional exponent: the digits
as one number, and the power of ten it is scaled by. -/
def readScientific? (cs : List Char) : Option (Nat × Int) :=
  let whole := cs.takeWhile Char.isDigit
  let rest := cs.dropWhile Char.isDigit
  let (fraction, rest) :=
    match rest with
    | '.' :: r => (r.takeWhile Char.isDigit, r.dropWhile Char.isDigit)
    | r => ([], r)
  if whole.isEmpty && fraction.isEmpty then none
  else
    let exponent :=
      match rest with
      | [] => some 0
      | c :: r => if c == 'e' || c == 'E' then readExponent? r else none
    exponent.map fun e => (digitsValue (whole ++ fraction), e - (fraction.length : Int))

/-- The number without its sign: a decimal number or one of the words for infinity and for no
number, in any case of letters. -/
def BinaryFormat.readMagnitude? (f : BinaryFormat) (negative : Bool) (cs : List Char) :
    Option Float :=
  match readScientific? cs with
  | some (digits, exponent) => some (f.ofDecimal negative digits exponent)
  | none =>
    if Text.sameFolded cs "inf".toList || Text.sameFolded cs "infinity".toList then
      some (floatOfBits negative infinityBits)
    else if Text.sameFolded cs "nan".toList then some (0.0 / 0.0)
    else none

/-- A number of the format in text, with an optional sign. -/
def BinaryFormat.read? (f : BinaryFormat) (s : String) : Option Float :=
  match s.toList with
  | '-' :: cs => f.readMagnitude? true cs
  | '+' :: cs => f.readMagnitude? false cs
  | cs => f.readMagnitude? false cs

/-- A 64-bit number in text. -/
def readFloat? (s : String) : Option Float := double.read? s

end Snowbridge.Decimal
