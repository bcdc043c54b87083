import Snowbridge.Json.Reader
import Snowbridge.Yaml.Token

/-!
# Tags

A tag tells what kind of value a node stands for. It is a string of octets, since a tag may be
written with escapes, and these need not encode characters.
-/

namespace Snowbridge.Yaml

structure Tag where
  octets : List UInt8
deriving BEq, DecidableEq

def octetsOf (text : String) : List UInt8 := text.toUTF8.toList

namespace Tag

/-- The octets in front of the names of standard tags. -/
def standardOctets : List UInt8 := octetsOf "tag:yaml.org,2002:"

/-- The standard tag of a name. -/
def standard (name : String) : Tag := ⟨standardOctets ++ octetsOf name⟩

/-- The tag that has no name: the exclamation mark alone. -/
def unnamed : Tag := ⟨octetsOf "!"⟩

/-- Local tags start with an exclamation mark. -/
def isLocal (t : Tag) : Bool := t.octets.head? == some 0x21

/-- The name of a local tag: what follows the exclamation mark, or the mark itself if nothing does.
A name is text. -/
def localName? (t : Tag) : Option String :=
  match t.octets with
  | 0x21 :: name =>
    String.fromUTF8? ⟨(if name.isEmpty then t.octets else name).toArray⟩
  | _ => none

end Tag

/-! ## Scanning -/

/-- The characters of a tag. A percent sign starts an escape. Where the tag's end is marked, some
indicators are allowed as well. -/
def isTagChar (delimited : Bool) (c : Char) : Bool :=
  isNameChar c || ";/?:@&=+$.!~*'()".toList.contains c ||
    (delimited && (c == ',' || c == '[' || c == ']'))

/-- The octet of an escape: a percent sign and two hexadecimal digits. -/
def escapedOctet? : List Char → Option Nat
  | '%' :: h :: l :: _ => do
    let high ← Json.hexDigit? h
    let low ← Json.hexDigit? l
    some (16 * high + low)
  | _ => none

/-- How many octets a character takes, told by its first one. -/
def widthOf? (first : Nat) : Option Nat :=
  if first < 0x80 then some 1
  else if first < 0xC0 then none
  else if first < 0xE0 then some 2
  else if first < 0xF0 then some 3
  else if first < 0xF8 then some 4
  else none

/-- The octets of one character that is written in escapes, one after the other. -/
def escapedChar? (c : Cursor) : Option (List UInt8 × Cursor) := do
  let first ← escapedOctet? c.rest
  let width ← widthOf? first
  let later ← (List.range (width - 1)).mapM fun i =>
    (escapedOctet? (c.rest.drop (3 * (i + 1)))).filter fun o => 0x80 ≤ o && o < 0xC0
  some ((first :: later).map UInt8.ofNat, c.skipMany (3 * width))

/-- The octets of the tag characters at a place. Those taken before stand in reverse. -/
def tagRun? (delimited : Bool) (taken : List UInt8) (c : Cursor) :
    Nat → Option (List UInt8 × Cursor)
  | 0 => none
  | fuel + 1 =>
    match c.head? with
    | none => some (taken.reverse, c)
    | some x =>
      if x == '%' then
        (escapedChar? c).bind fun (octets, c) =>
          tagRun? delimited (octets.reverse ++ taken) c fuel
      else if isTagChar delimited x then
        tagRun? delimited (UInt8.ofNat x.toNat :: taken) c.skip fuel
      else some (taken.reverse, c)

/-- The octets of the tag characters at a place, up to one that is zero. -/
def tagOctets? (delimited : Bool) (c : Cursor) : Option (List UInt8 × Cursor) :=
  (tagRun? delimited [] c (c.rest.length + 1)).map fun (octets, next) =>
    (octets.takeWhile (· != 0), next)

/-- The octets of one or more tag characters. -/
def someTagOctets? (delimited : Bool) (c : Cursor) : Option (List UInt8 × Cursor) :=
  (tagOctets? delimited c).filter fun (_, next) => c.index < next.index

/-- The handle at a place: a name, which may be empty, between exclamation marks. -/
def handle? (c : Cursor) : Option (String × Cursor) :=
  let (name, next) := c.skip.takeWhile isNameChar
  if c.head? == some '!' && next.head? == some '!' then
    some (String.ofList ('!' :: name ++ ['!']), next.skip)
  else none

/-- A tag: verbatim between angle brackets, with a handle, or local. -/
def scanTag? (flow : Bool) (c : Cursor) : Option (Token × Cursor) :=
  let found : Option (Token × Cursor) :=
    if c.ahead 1 == some '<' then
      (someTagOctets? true (c.skipMany 2)).bind fun (octets, c) =>
        if c.head? == some '>' then some (.tag "" octets, c.skip) else none
    else
      match handle? c with
      | some (handle, c) => (someTagOctets? false c).map fun (octets, c) => (.tag handle octets, c)
      | none =>
        (tagOctets? false c.skip).map fun (octets, c) =>
          (if octets.isEmpty then .tag "" Tag.unnamed.octets else .tag "!" octets, c)
  found.filter fun (_, c) => c.blankAt 0 || (flow && c.head? == some ',')

end Snowbridge.Yaml
