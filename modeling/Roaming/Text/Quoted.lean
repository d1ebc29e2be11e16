import Roaming.Text.Unprinted

/-!
# Quoted names

A name inside a message stands between double quotes. The quote, the backslash and the four controls
with a letter of their own are escaped by a backslash; any other character that is not printed as
itself is written as its code point in lower-case hexadecimal between braces.
-/

namespace Roaming.Text

/-- The lower-case hexadecimal digits of a code point, without leading zeros. -/
def hexDigits (n : Nat) : List Char :=
  Nat.toDigits 16 n

/-- One character of a quoted name. -/
def escape (c : Char) : List Char :=
  if c = '\x00' then ['\\', '0']
  else if c = '\t' then ['\\', 't']
  else if c = '\r' then ['\\', 'r']
  else if c = '\n' then ['\\', 'n']
  else if c = '"' then ['\\', '"']
  else if c = '\\' then ['\\', '\\']
  else if isUnprinted c then ['\\', 'u', '\x7b'] ++ hexDigits c.toNat ++ ['\x7d']
  else [c]

/-- A name between double quotes. -/
def quoted (s : String) : String :=
  String.ofList (['"'] ++ s.toList.flatMap escape ++ ['"'])

/-- A name that may be missing, as messages show it: `None`, or `Some` with the quoted name. -/
def quotedOption : Option String → String
  | none => "None"
  | some s => "Some(" ++ quoted s ++ ")"

end Roaming.Text
