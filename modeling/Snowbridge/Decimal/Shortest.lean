import Snowbridge.Decimal.Binary

/-!
# Shortest decimal form of a number

Of the decimal numbers that read back as a given floating-point number, one with the fewest digits
is chosen, and of those the one nearest to it. The interval of decimals that read back contains its
ends exactly if the significand is even. Only a tie between two equally near candidates is left to
the caller.
-/

namespace Snowbridge.Decimal

/-- The decimal number `digits * 10 ^ exponent`. -/
structure Scientific where
  digits : Nat
  exponent : Int

/-- The exact value of a finite floating-point number without its sign. -/
def Binary.ofFloat (x : Float) : Binary :=
  let n : Nat := x.toBits.toNat % signBit
  let fraction : Nat := n % Nat.pow 2 52
  let scale : Nat := n / Nat.pow 2 52
  if scale == 0 then ⟨fraction, -1074⟩ else ⟨fraction + Nat.pow 2 52, (scale : Int) - 1075⟩

/-- The sign of a number, of zero too. -/
def isNegative (x : Float) : Bool := signBit ≤ x.toBits.toNat

/-- A comparison scale: `d * 10 ^ e` against `n * 2 ^ (q - 2)` is `d * ten` against `n * two`. -/
structure Scale where
  ten : Nat
  two : Nat

/-- The factors that clear the denominators of `10 ^ e` and of `2 ^ (q - 2)`. -/
def Scale.ofExponents (e q : Int) : Scale :=
  ⟨Nat.pow 10 e.toNat * Nat.pow 2 (2 - q).toNat, Nat.pow 2 (q - 2).toNat * Nat.pow 10 (-e).toNat⟩

/-- Quarter units between the value and the lower end of its interval. Below a power of two the next
number is half as far away. -/
def Binary.lowerGap (b : Binary) : Nat :=
  if b.significand == Nat.pow 2 52 && -1074 < b.exponent then 1 else 2

/-- Whether `d * 10 ^ e` reads back as the value. -/
def Binary.holds (b : Binary) (s : Scale) (d : Nat) : Bool :=
  let low := (4 * b.significand - b.lowerGap) * s.two
  let high := (4 * b.significand + 2) * s.two
  let x := d * s.ten
  if b.significand % 2 == 0 then low ≤ x && x ≤ high else low < x && x < high

/-- The best point of the grid `10 ^ e` that reads back as the value: one of the two neighbours of
the value on that grid, the nearer one if both do. -/
def Binary.onGrid? (b : Binary) (tieUp : Bool) (e : Int) : Option Scientific :=
  let s := Scale.ofExponents e b.exponent
  let exact := 4 * b.significand * s.two
  let d := exact / s.ten
  let below := exact - d * s.ten
  let above := (d + 1) * s.ten - exact
  match b.holds s d && d != 0, b.holds s (d + 1) with
  | true, true =>
    let up := above < below || (above == below && (tieUp || d % 2 == 1))
    some ⟨if up then d + 1 else d, e⟩
  | true, false => some ⟨d, e⟩
  | false, true => some ⟨d + 1, e⟩
  | false, false => none

/-- The exponent of the leading decimal digit of `num / den`. -/
def leadExponent (num den : Nat) : Int :=
  let guess := ((Nat.toDigits 10 num).length : Int) - (Nat.toDigits 10 den).length
  -- The numbers of digits settle the exponent up to one, and a comparison tells which it is.
  let reached :=
    if 0 ≤ guess then den * Nat.pow 10 guess.toNat ≤ num else den ≤ num * Nat.pow 10 (-guess).toNat
  if reached then guess else guess - 1

/-- Tries the grids with the leading digit alone, with two digits, and so on. -/
def Binary.search (b : Binary) (tieUp : Bool) : Nat → Int → Scientific
  | 0, e => ⟨0, e⟩
  | n + 1, e =>
    match b.onGrid? tieUp e with
    | some s => s
    | none => b.search tieUp n (e - 1)

/-- The shortest decimal form of a positive value. Seventeen digits always read back. -/
def Binary.shortest (b : Binary) (tieUp : Bool) : Scientific :=
  let (num, den) := inUnits b.significand 1 (-b.exponent)
  b.search tieUp 17 (leadExponent num den)

end Snowbridge.Decimal
