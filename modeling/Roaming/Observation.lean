import Roaming.Text.Blank

/-!
# Observations and the rows of a scan table

A scan lists one access point per line. The columns have no fixed width, so a row is read by words:
a marker in front of the line becomes part of the in-use marker, or stands alone if the row has
none; then come the BSSID and the SSID. Of the words after them the last numeral is the signal
quality and the last numeral before that is the bit rate; columns that are no numerals do not count.
A numeral that does not fit its column refuses the row: no other column takes its place.

`Observation.render` writes a row that reads back.
-/

namespace Roaming

/-- One access point as a scan reports it. -/
structure Observation where
  /-- Whether this is the link in use. -/
  inUse : Bool
  /-- The identity of the access point. -/
  bssid : String
  /-- The name of its network. -/
  ssid : String
  /-- Signal quality; higher is better. -/
  quality : Int32
  /-- Bit rate in Mbit/s. -/
  rate : UInt32
deriving DecidableEq

namespace Observation

open Text

/-- The signal quality of a numeral, if it is in range. -/
def qualityOf? (cs : List Char) : Option Int32 :=
  let n := numeralValue cs
  if n < Nat.pow 2 31 then some (Int32.ofNat n) else none

/-- The bit rate of a numeral, if it is in range. -/
def rateOf? (cs : List Char) : Option UInt32 :=
  let n := numeralValue cs
  if n < UInt32.size then some (UInt32.ofNat n) else none

/-- The observation of one row's words: marker, BSSID, SSID, then the other columns. -/
def ofWords? : List (List Char) → Option Observation
  | marker :: bssid :: ssid :: columns =>
    match columns.reverse.filter isNumeral with
    | quality :: rate :: _ => do
      let quality ← qualityOf? quality
      let rate ← rateOf? rate
      some { inUse := marker == ['*', '*'], bssid := String.ofList bssid,
             ssid := String.ofList ssid, quality, rate }
    | _ => none
  | _ => none

/-- The observation of one line, if the line is a row of the table. -/
def ofLine? (line : List Char) : Option Observation :=
  ofWords? (words ('*' :: line))

/-- The observation a line of text holds, if any. -/
def parse? (line : String) : Option Observation :=
  ofLine? line.toList

/-- The observations of a scan table, in the order of its rows; other lines are skipped. -/
def ofTable (table : String) : List Observation :=
  (lines table.toList).filterMap ofLine?

/-- The row of an observation, in the order of the table's columns. -/
def render (o : Observation) : String :=
  (if o.inUse then "*" else " ") ++ "  " ++ o.bssid ++ "  " ++ o.ssid ++ "  " ++
    toString o.rate.toNat ++ " Mbit/s  " ++ toString o.quality.toInt

end Observation

end Roaming
