import Roaming.Toml.Moment
import Roaming.Toml.Quoted
import Roaming.Toml.Value

/-!
# TOML scalars without quotes

A scalar that is not a string is a run of characters up to the next line end or mark of the syntax;
blanks belong to it as far as more of it follows. The whole run has to be a truth value, a moment,
an integer or a floating-point number.

Numbers are read in two steps. The first looks at the outline alone: digits may be grouped by single
underscores between them, and a decimal integer part has no leading zero. What stands inside the
groups of an integer is looked at in the second step, when its number is asked for: a word such as
`1_f`, or a base without digits such as `0x`, has the outline of an integer but stands for no
number.
-/

namespace Roaming.Toml.Scalar

open Text

/-- A mark that ends a scalar. -/
def endsScalar (c : Char) : Bool :=
  ['\n', '\r', '#', ',', '=', '[', ']', '\x7b', '\x7d'].contains c

/-- A decimal or hexadecimal digit. -/
def isHexDigit (c : Char) : Bool :=
  (Quoted.hexValue? c).isSome

/-- Whether every underscore stands between two digits. The flag says that a digit stands in front
of the characters. -/
def isGrouped (isDigit : Char → Bool) : Bool → List Char → Bool
  | _, [] => true
  | afterDigit, c :: cs =>
    if c = '_' then afterDigit && cs.head?.any isDigit && isGrouped isDigit false cs
    else isGrouped isDigit (isDigit c) cs

/-- The characters of a run without the underscores between its groups. -/
def ungrouped (cs : List Char) : List Char :=
  cs.filter (· != '_')

/-- Whether a run is a zero with more behind it. -/
def hasLeadingZero : List Char → Bool
  | '0' :: _ :: _ => true
  | _ => false

/-- The number of digits in some base. -/
def valueIn (base : Nat) (digits : List Char) : Nat :=
  digits.foldl (fun n c => base * n + (Quoted.hexValue? c).getD 0) 0

/-- The integer of a run in some base, where each digit has to be below the base. -/
def inBase? (base : Nat) (cs : List Char) : Option Value :=
  let isDigit (c : Char) : Bool := (Quoted.hexValue? c).any (· < base)
  if cs.isEmpty then some .malformed
  else if isGrouped isDigit false cs && (ungrouped cs).all isDigit then
    some (.integer (valueIn base (ungrouped cs)))
  else none

/-- The outline of a decimal integer: digits, and if an underscore follows them, anything behind it
that does not make the word a floating-point number or several words. -/
def isDecimalOutline (body : List Char) : Bool :=
  match body.dropWhile isDigit with
  | [] => !body.isEmpty
  | c :: cs => c = '_' && !cs.any (fun d => d = ' ' || d = '.' || d = 'e' || d = 'E')

/-- A decimal integer with an optional sign. -/
def decimal? (cs : List Char) : Option Value :=
  let (negative, body) := Decimal.signed cs
  if isDecimalOutline body && !hasLeadingZero body && isGrouped isHexDigit false body then
    let digits := ungrouped body
    if isNumeral digits then
      some (.integer (if negative then -(numeralValue digits : Int) else numeralValue digits))
    else some .malformed
  else none

/-- An integer: hexadecimal, octal or binary without a sign, or decimal. -/
def integer? : List Char → Option Value
  | '0' :: 'x' :: cs => inBase? 16 cs
  | '0' :: 'o' :: cs => inBase? 8 cs
  | '0' :: 'b' :: cs => inBase? 2 cs
  | cs => decimal? cs

/-- Whether a point has a digit on either side, if there is one behind the digits at the front. -/
def hasWholePoint (cs : List Char) : Bool :=
  match cs.dropWhile isDigit with
  | '.' :: rest => cs.head?.any isDigit && rest.head?.any isDigit
  | _ => cs.head?.any isDigit

/-- A floating-point number: an integer part, then a fraction or a power of ten or both. -/
def finite? (cs : List Char) : Option Decimal :=
  let (negative, body) := Decimal.signed cs
  let digits := ungrouped body
  if isGrouped isDigit false body && hasWholePoint digits &&
      !hasLeadingZero (body.takeWhile fun c => isDigit c || c = '_') then
    Decimal.finite? negative digits
  else none

/-- A floating-point number or one of the words for infinity and for what is no number. -/
def real? (cs : List Char) : Option Decimal :=
  let (negative, body) := Decimal.signed cs
  if body = ['i', 'n', 'f'] then some (.infinite negative)
  else if body = ['n', 'a', 'n'] then some .notANumber
  else finite? cs

/-- The value of a scalar. -/
def value? (cs : List Char) : Option Value :=
  if cs = "true".toList then some (.truth true)
  else if cs = "false".toList then some (.truth false)
  else if Moment.isMoment cs then some .moment
  else match integer? cs with
    | some v => some v
    | none => (real? cs).map .real

/-- Whether more of a scalar follows behind blanks: another run that is no string. -/
def goesOn (cs : List Char) : Bool :=
  (cs.dropWhile Quoted.isSpace).head?.any fun c => !endsScalar c && c != '"' && c != '\x27'

/-- Cuts a scalar off the front. -/
def cut : List Char → List Char × List Char
  | [] => ([], [])
  | c :: cs =>
    if endsScalar c || (Quoted.isSpace c && !goesOn cs) then ([], c :: cs)
    else
      let (token, rest) := cut cs
      (c :: token, rest)

/-- The value of the scalar at the front, and what follows it. -/
def read? (cs : List Char) : Option (Value × List Char) :=
  let (token, rest) := cut cs
  (value? token).map fun value => (value, rest)

end Roaming.Toml.Scalar
