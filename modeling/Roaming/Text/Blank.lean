/-!
# Blanks, words and lines

The texts this library reads (scan tables, route tables, probe summaries, profile types) are laid
out by blanks and line ends only. A *blank* is a character of the Unicode property `White_Space`; a
*word* is a maximal run of characters that are not blank; a *line* ends at a line feed, and a
carriage return right before that line feed belongs to the line end.

All three views come from splitting a list of characters, so what holds of `List.splitOnP` carries
over.
-/

namespace Roaming.Text

/-- The code points of `White_Space` as closed ranges, in ascending order. -/
def blankRanges : List (Nat × Nat) :=
  [(0x9, 0xD), (0x20, 0x20), (0x85, 0x85), (0xA0, 0xA0), (0x1680, 0x1680), (0x2000, 0x200A),
   (0x2028, 0x2029), (0x202F, 0x202F), (0x205F, 0x205F), (0x3000, 0x3000)]

/-- Membership of a code point in a list of closed ranges. -/
def inRanges (ranges : List (Nat × Nat)) (n : Nat) : Bool :=
  ranges.any fun r => r.1 ≤ n && n ≤ r.2

/-- A blank separates words and is trimmed from the ends of a text. -/
def isBlank (c : Char) : Bool :=
  inRanges blankRanges c.toNat

/-- A text without the blanks at its two ends. -/
def trim (s : String) : String :=
  String.ofList ((s.toList.dropWhile isBlank).reverse.dropWhile isBlank).reverse

/-- The words of a text, in order. -/
def words (cs : List Char) : List (List Char) :=
  (cs.splitOnP isBlank).filter fun w => !w.isEmpty

/-- A line whose line feed has been cut off loses the carriage return before it, if there is one. -/
def dropReturn : List Char → List Char
  | [] => []
  | ['\r'] => []
  | c :: cs => c :: dropReturn cs

/-- The pieces between line feeds, as lines: every piece but the last was ended by a line feed, and
a last piece that is empty is no line. -/
def linesOfPieces : List (List Char) → List (List Char)
  | [] => []
  | [last] => if last.isEmpty then [] else [last]
  | line :: rest => dropReturn line :: linesOfPieces rest

/-- The lines of a text, in order. -/
def lines (cs : List Char) : List (List Char) :=
  linesOfPieces (cs.splitOnP (· == '\n'))

/-- An ASCII digit; digits of other scripts are not numerals. -/
def isDigit (c : Char) : Bool :=
  '0' ≤ c && c ≤ '9'

/-- The number a digit stands for. -/
def digitValue (c : Char) : Nat :=
  c.toNat - '0'.toNat

/-- A numeral is a nonempty run of ASCII digits. -/
def isNumeral (cs : List Char) : Bool :=
  !cs.isEmpty && cs.all isDigit

/-- The number a run of digits stands for, most significant digit first. -/
def numeralValue (cs : List Char) : Nat :=
  cs.foldl (fun n c => 10 * n + digitValue c) 0

end Roaming.Text
