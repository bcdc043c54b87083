import Snowbridge.Text.Case
import Snowbridge.Text.UnprintableData

/-!
# Texts in diagnostics

A diagnostic shows a text between double quotes. The quote and the backslash are escaped, and so is
every character that would not show as itself.
-/

namespace Snowbridge.Text

/-- Characters that a diagnostic shows by number. -/
def isUnprintable (c : Char) : Bool :=
  c.toNat < 0x20 || (0x7F ≤ c.toNat && inRanges unprintableRanges c.toNat)

/-- The number of a character in hexadecimal, between braces. -/
def shownByNumber (c : Char) : List Char :=
  ['\\', 'u', '\x7b'] ++ Nat.toDigits 16 c.toNat ++ ['\x7d']

def shownChar (c : Char) : List Char :=
  if c == '"' then ['\\', '"']
  else if c == '\\' then ['\\', '\\']
  else if c == '\n' then ['\\', 'n']
  else if c == '\t' then ['\\', 't']
  else if c == '\r' then ['\\', 'r']
  else if c.toNat == 0 then ['\\', '0']
  else if isUnprintable c then shownByNumber c
  else [c]

/-- The text between double quotes, with escapes. -/
def shown (s : String) : String :=
  String.ofList (['"'] ++ s.toList.flatMap shownChar ++ ['"'])

/-- An optional text: the bare word `None`, or the text inside `Some`. -/
def shownOption : Option String → String
  | none => "None"
  | some s => "Some(" ++ shown s ++ ")"

end Snowbridge.Text
