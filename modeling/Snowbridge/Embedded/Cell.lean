import Snowbridge.Embedded.Calendar
import Snowbridge.Text.Shown
import Snowbridge.Value

/-!
# Cells of the embedded engine

The engine has integers of many sizes, two sizes of floating-point numbers, dates and instants. They
become the scalar values of this program: integers that do not fit 64 bits become their digits, and
a date outside the supported years becomes null. The number of a day is a sum of words of 32 bits,
and the program ends where it overflows.
-/

namespace Snowbridge.Embedded

inductive IntegerKind where
  | tiny
  | small
  | int
  | big
  | huge
  | unsignedTiny
  | unsignedSmall
  | unsignedInt
  | unsignedBig
  | unsignedHuge
deriving DecidableEq

/-- The integers of a size. -/
def IntegerKind.holds (k : IntegerKind) (n : Int) : Bool :=
  match k with
  | .tiny => -(Int.pow 2 7) ≤ n && n < Int.pow 2 7
  | .small => -(Int.pow 2 15) ≤ n && n < Int.pow 2 15
  | .int => -(Int.pow 2 31) ≤ n && n < Int.pow 2 31
  | .big => -(Int.pow 2 63) ≤ n && n < Int.pow 2 63
  | .huge => -(Int.pow 2 127) ≤ n && n < Int.pow 2 127
  | .unsignedTiny => 0 ≤ n && n < Int.pow 2 8
  | .unsignedSmall => 0 ≤ n && n < Int.pow 2 16
  | .unsignedInt => 0 ≤ n && n < Int.pow 2 32
  | .unsignedBig => 0 ≤ n && n < Int.pow 2 64
  | .unsignedHuge => 0 ≤ n && n < Int.pow 2 128

inductive TimeUnit where
  | second
  | millisecond
  | microsecond
  | nanosecond
deriving DecidableEq

/-- A cell as the engine gives it. A number of 32 bits is given as the equal one of 64 bits. -/
inductive Cell where
  | null
  | boolean (b : Bool)
  | integer (kind : IntegerKind) (n : Int)
  | float (x : Float)
  | decimal (text : String)
  | text (s : String)
  | instant (unit : TimeUnit) (count : Int64)
  | date (days : Int32)
  | bytes (content : List UInt8)
  | time (unit : TimeUnit) (count : Int64)
  /-- A cell of any other kind, as the engine shows it in a diagnostic. -/
  | other (shown : String)

/-- A sum that its word does not hold. It ends the program. -/
structure Overflow where
deriving DecidableEq

/-- The sum of two words of 32 bits. -/
def sum32 (a b : Int32) : Except Overflow Int32 :=
  let n := a.toInt + b.toInt
  if Int32.minValue.toInt ≤ n && n ≤ Int32.maxValue.toInt then .ok (Int32.ofInt n) else .error {}

/-- A word of 64 bits nearest to an integer. -/
def saturated (n : Int) : Int64 :=
  if n < Int64.minValue.toInt then Int64.minValue
  else if Int64.maxValue.toInt < n then Int64.maxValue
  else Int64.ofInt n

/-- A count of time in microseconds. What does not fit 64 bits becomes the nearest word, and a part
of a microsecond is dropped. -/
def TimeUnit.micros (u : TimeUnit) (count : Int64) : Int64 :=
  match u with
  | .second => saturated (count.toInt * 1000000)
  | .millisecond => saturated (count.toInt * 1000)
  | .microsecond => count
  | .nanosecond => Int64.ofInt (count.toInt.tdiv 1000)

/-- The name of a unit in a diagnostic. -/
def TimeUnit.label : TimeUnit → String
  | .second => "Second"
  | .millisecond => "Millisecond"
  | .microsecond => "Microsecond"
  | .nanosecond => "Nanosecond"

namespace Cell

/-- An optional text as a value. -/
def ofText? : Option (List Char) → Value
  | some cs => .text (String.ofList cs)
  | none => .null

/-- An integer of a size. One of a size that may exceed 64 bits becomes its digits if it does, and
the largest size is shown with its name. -/
def ofInteger (kind : IntegerKind) (n : Int) : Value :=
  match kind with
  | .tiny | .small | .int | .big | .unsignedTiny | .unsignedSmall | .unsignedInt =>
    .int (Int64.ofInt n)
  | .unsignedBig | .huge =>
    match Decimal.toInt64? n with
    | some i => .int i
    | none => .text (toString n)
  | .unsignedHuge => .text ("UHugeInt(" ++ toString n ++ ")")

/-- The value of a cell. Kinds that this program has no use for are shown with their names. -/
def toValue (cal : Calendar) : Cell → Except Overflow Value
  | .null => .ok .null
  | .boolean b => .ok (.bool b)
  | .integer kind n => .ok (ofInteger kind n)
  | .float x => .ok (.float x)
  | .decimal t => .ok (.text t)
  | .text s => .ok (.text s)
  | .instant unit count => .ok (ofText? (cal.instant? (unit.micros count)))
  | .date days => (sum32 days (Int32.ofInt epochDay)).map fun n => ofText? (cal.date? n)
  | .bytes content =>
    .ok (.text
      ("Blob([" ++ String.intercalate ", " (content.map fun b => toString b.toNat) ++ "])"))
  | .time unit count =>
    .ok (.text ("Time64(" ++ unit.label ++ ", " ++ toString count.toInt ++ ")"))
  | .other shown => .ok (.text shown)

/-- A bound value in a diagnostic of the engine. -/
def showBound : Value → String
  | .null => "Null"
  | .bool b => "Boolean(" ++ (if b then "true" else "false") ++ ")"
  | .int n => "BigInt(" ++ toString n.toInt ++ ")"
  | .float x => "Double(" ++ Decimal.bound.write x ++ ")"
  | .text s => "Text(" ++ Text.shown s ++ ")"

end Cell

end Snowbridge.Embedded
