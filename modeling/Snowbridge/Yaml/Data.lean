import Snowbridge.Decimal.Layout
import Snowbridge.Yaml.Document

/-!
# Typed data of a YAML document

A plain scalar may stand for null, a truth value or a number. Whole numbers are decimal, or
hexadecimal, octal or binary after `0x`, `0o` or `0b`; digits after a leading zero are a text. A
mapping names each key once, and sequences and mappings nest only so deep.
-/

namespace Snowbridge.Yaml

/-- Typed data. A local tag is kept, its content is not needed. -/
inductive Data where
  | null
  | bool (b : Bool)
  | int (n : Int)
  | float (x : Float)
  | text (s : String)
  | sequence (items : List Data)
  | mapping (entries : List (Data × Data))
  | tagged (tag : String) (content : Data)
deriving Inhabited

/-- The name of a tag apart from one exclamation mark in front. -/
def bareName (tag : String) : String :=
  match tag.toList with
  | '!' :: c :: cs => String.ofList (c :: cs)
  | _ => tag

mutual

/-- Equality of keys. It disregards the order of the entries of a mapping, what is not a number
equals itself, and whole numbers differ from floating-point ones. -/
def Data.same : Data → Data → Bool
  | .null, .null => true
  | .bool a, .bool b => a == b
  | .int a, .int b => a == b
  | .float x, .float y => x == y || (x.isNaN && y.isNaN)
  | .text s, .text t => s == t
  | .sequence xs, .sequence ys => Data.sameItems xs ys
  | .mapping es, .mapping fs => es.length == fs.length && Data.allFound fs es
  | .tagged s x, .tagged t y => bareName s == bareName t && x.same y
  | _, _ => false

def Data.sameItems : List Data → List Data → Bool
  | [], [] => true
  | x :: xs, y :: ys => x.same y && Data.sameItems xs ys
  | _, _ => false

/-- Each of some entries stands among the others. -/
def Data.allFound (others : List (Data × Data)) : List (Data × Data) → Bool
  | [] => true
  | (k, v) :: es => others.any (fun o => k.same o.1 && v.same o.2) && Data.allFound others es

end

/-! ## Numbers -/

/-- The digit of a character in any of the bases. -/
def digitOf? (base : Nat) (c : Char) : Option Nat := (Json.hexDigit? c).filter (· < base)

/-- One or more digits of a base. -/
def readBase? (base : Nat) (cs : List Char) : Option Nat :=
  if cs.isEmpty then none
  else cs.foldl (fun acc c => acc.bind fun n => (digitOf? base c).map (base * n + ·)) (some 0)

/-- Digits after a leading zero, which are no number. -/
def isZeroPadded (cs : List Char) : Bool :=
  let digits :=
    match cs with
    | '-' :: r => r
    | '+' :: r => r
    | r => r
  match digits with
  | '0' :: d :: r => (d :: r).all Char.isDigit
  | _ => false

/-- A natural number in one of the bases. -/
def readMagnitude? (cs : List Char) : Option Nat :=
  let other :=
    match cs with
    | '0' :: 'x' :: r => readBase? 16 r
    | '0' :: 'o' :: r => readBase? 8 r
    | '0' :: 'b' :: r => readBase? 2 r
    | _ => none
  other.orElse fun _ => if isZeroPadded cs then none else readBase? 10 cs

/-- A whole number of any size. -/
def readWhole? : List Char → Option Int
  | '-' :: r => (readMagnitude? r).map fun n => -(n : Int)
  | '+' :: r => (readMagnitude? r).map Int.ofNat
  | r => (readMagnitude? r).map Int.ofNat

/-- The range of whole numbers that data can hold: all words of 64 bits, with or without sign. -/
def inWordRange (n : Int) : Bool := Int64.minValue.toInt ≤ n && n < Int.pow 2 64

/-- The range beyond which a run of digits is read as a floating-point number. -/
def inWideRange (n : Int) : Bool := -(Int.pow 2 127) ≤ n && n < Int.pow 2 128

/-- A finite floating-point number, or a word for infinity or for no number. -/
def readReal? (text : String) : Option Float :=
  let unsigned := if text.startsWith "+" then (text.drop 1).toString else text
  if [".inf", ".Inf", ".INF"].contains unsigned then some (1.0 / 0.0)
  else if ["-.inf", "-.Inf", "-.INF"].contains text then some (-1.0 / 0.0)
  else if [".nan", ".NaN", ".NAN"].contains text then some (0.0 / 0.0)
  else if text.startsWith "+" && (unsigned.startsWith "+" || unsigned.startsWith "-") then none
  else (Decimal.readFloat? unsigned).filter fun x => !x.isNaN && !x.isInf

/-- The natural number below `bound` that a scalar stands for. -/
def readCount? (bound : Nat) (text : String) : Option Nat :=
  if text.startsWith "-" then none
  else ((readWhole? text.toList).map Int.toNat).filter (· < bound)

/-! ## Scalars -/

def isNullWord (text : String) : Bool := ["~", "null", "Null", "NULL"].contains text

/-- The words for truth values. -/
def readBool? (text : String) : Option Bool :=
  if ["true", "True", "TRUE"].contains text then some true
  else if ["false", "False", "FALSE"].contains text then some false
  else none

/-- What a plain scalar stands for. Whole numbers that data cannot hold are refused. -/
def plainData? (text : String) : Option Data :=
  if text == "" || isNullWord text then some .null
  else
    match readBool? text with
    | some b => some (.bool b)
    | none =>
      match (readWhole? text.toList).filter inWideRange with
      | some n => if inWordRange n then some (.int n) else none
      | none =>
        if isZeroPadded text.toList then some (.text text)
        else some (((readReal? text).map .float).getD (.text text))

/-- What a scalar with a tag that is not local stands for. -/
def standardData? (text : String) (tag : Tag) : Option Data :=
  if tag == .standard "bool" then (readBool? text).map .bool
  else if tag == .standard "int" then
    ((readWhole? text.toList).filter inWordRange).map .int
  else if tag == .standard "float" then (readReal? text).map .float
  else if tag == .standard "null" then if isNullWord text then some .null else none
  else some (.text text)

/-- What a scalar stands for, apart from a local tag. -/
def scalarData? (text : String) (style : Style) (tag : Option Tag) : Option Data :=
  match tag.filter fun t => !t.isLocal with
  | some t => standardData? text t
  | none => if style == .plain then plainData? text else some (.text text)

/-- Keeps the name of a local tag. -/
def Properties.named (p : Properties) (d : Data) : Data :=
  match p.tag.bind Tag.localName? with
  | some name => .tagged name d
  | none => d

def keysDiffer : List (Data × Data) → Bool
  | [] => true
  | e :: es => !es.any (fun o => e.1.same o.1) && keysDiffer es

/-- The data of a node, whose sequences and mappings may nest to a depth. -/
def Data.read (doc : Document) : Nat → Node → Reading Data := fun depth node => do
  match ← doc.follow node with
  | .scalar p s style =>
    match scalarData? s style p.tag with
    | some d => pure (p.named d)
    | none => failure
  | .sequence p items =>
    match depth with
    | 0 => failure
    | depth + 1 => do
      let ds ← items.mapM (Data.read doc depth)
      pure (p.named (.sequence ds))
  | .mapping p entries =>
    match depth with
    | 0 => failure
    | depth + 1 => do
      let ds ← entries.mapM fun (k, v) => do
        pure (← Data.read doc depth k, ← Data.read doc depth v)
      if keysDiffer ds then pure (p.named (.mapping ds)) else failure
  | .alias _ => failure

/-- Numbers in text: a whole number keeps a zero after its point, and an exponent is written from
`1e16` up and below `1e-5`. -/
def numbers : Decimal.Layout where
  positional := some (-5, 15)
  keepsPoint := true
  plusSign := false
  tieUp := false
  notANumber := ".nan"
  infinity := ".inf"
  minusInfinity := "-.inf"

/-- The text of a scalar, unless it is null or carries a local tag. -/
def Data.text? : Data → Option String
  | .text s => some s
  | .bool b => some (if b then "true" else "false")
  | .int n => some (toString n)
  | .float x => some (numbers.write x)
  | _ => none

def Data.isComposite : Data → Bool
  | .sequence _ => true
  | .mapping _ => true
  | _ => false

end Snowbridge.Yaml
