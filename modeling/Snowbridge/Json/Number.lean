import Snowbridge.Decimal.Binary
import Snowbridge.Json.Basic

/-!
# Numbers in structured data

A number without point and exponent that fits 64 bits, with or without sign, is whole; every other
number is floating. A floating number is its digits as one 64-bit word, times or over a power of
ten, so that it takes two roundings. Digits that no longer fit the word only count for the exponent.
-/

namespace Snowbridge.Json

/-- Words of 64 bits. -/
def wordBound : Nat := Nat.pow 2 64

/-- A power of ten within the range of floating-point numbers. -/
def powerOfTen (n : Nat) : Float := Decimal.double.ofDecimal false 1 n

/-- A number over `10 ^ n`, in steps that a floating-point number can hold. -/
def overPowerOfTen (fuel : Nat) (x : Float) (n : Nat) : Float :=
  match fuel with
  | 0 => 0.0
  | fuel + 1 =>
    if n ≤ 308 then x / powerOfTen n
    else if x == 0.0 then x
    else overPowerOfTen fuel (x / powerOfTen 308) (n - 308)

/-- The number `digits * 10 ^ exponent`; none if it is too large. -/
def scaled? (negative : Bool) (digits : Nat) (exponent : Int) : Option Json :=
  let x := (UInt64.ofNat digits).toFloat
  let magnitude :=
    if exponent < 0 then some (overPowerOfTen 4 x exponent.natAbs)
    else if exponent ≤ 308 then some (x * powerOfTen exponent.toNat)
    else if x == 0.0 then some x
    else none
  match magnitude with
  | some m => if m.isInf then none else some (.float (if negative then -m else m))
  | none => none

/-- Digits taken into one word as long as it holds them: the word, how many were taken, how many
were left out, and the rest. -/
def takeWord (word taken : Nat) : List Char → Nat × Nat × Nat × List Char
  | [] => (word, taken, 0, [])
  | c :: cs =>
    if !c.isDigit then (word, taken, 0, c :: cs)
    else
      let next := 10 * word + (c.toNat - '0'.toNat)
      -- From the first digit that the word has no room for, none is taken, not even a zero.
      if next < wordBound then takeWord next (taken + 1) cs
      else (word, taken, (cs.takeWhile Char.isDigit).length + 1, cs.dropWhile Char.isDigit)

/-- The exponent after its letter, or `exponent` as it is without one. -/
def readExponent? (negative : Bool) (digits : Nat) (exponent : Int) (cs : List Char) :
    Option (Json × List Char) :=
  match cs with
  | e :: r =>
    if e == 'e' || e == 'E' then
      let (minus, r) :=
        match r with
        | '+' :: r => (false, r)
        | '-' :: r => (true, r)
        | r => (false, r)
      match Decimal.readDigits? (r.takeWhile Char.isDigit) with
      | none => none
      | some n =>
        (scaled? negative digits (if minus then exponent - (n : Int) else exponent + (n : Int))).map
          fun j => (j, r.dropWhile Char.isDigit)
    else (scaled? negative digits exponent).map fun j => (j, cs)
  | [] => (scaled? negative digits exponent).map fun j => (j, [])

/-- The digits after the point. -/
def readFraction? (negative : Bool) (word : Nat) (exponent : Int) (cs : List Char) :
    Option (Json × List Char) :=
  -- Digits after the point that are left out are lost; those before it moved the exponent.
  let (digits, taken, _, rest) := takeWord word 0 cs
  if taken == 0 && cs.takeWhile Char.isDigit == [] then none
  else readExponent? negative digits (exponent - (taken : Int)) rest

/-- A whole number that fits 64 bits; a negative zero and what does not fit are floating. -/
def whole (negative : Bool) (word : Nat) : Json :=
  if !negative then .int word
  else if word == 0 || Nat.pow 2 63 < word then .float (-(UInt64.ofNat word).toFloat)
  else .int (-(word : Int))

/-- A number without its sign. -/
def readUnsigned? (negative : Bool) (cs : List Char) : Option (Json × List Char) :=
  let run := cs.takeWhile Char.isDigit
  if run.isEmpty || (run.head? == some '0' && run.length != 1) then none
  else
    let (word, _, left, rest) := takeWord 0 0 cs
    match rest with
    | '.' :: r => readFraction? negative word left r
    | 'e' :: _ => readExponent? negative word left rest
    | 'E' :: _ => readExponent? negative word left rest
    | _ =>
      if left == 0 then some (whole negative word, rest)
      else (scaled? negative word left).map fun j => (j, rest)

/-- A number at the head of a text, and the rest. -/
def readNumber? : List Char → Option (Json × List Char)
  | '-' :: cs => readUnsigned? true cs
  | cs => readUnsigned? false cs

end Snowbridge.Json
