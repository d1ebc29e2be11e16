/-!
# UTF-8

A character takes one to four octets. Between characters the decoder is `idle`; inside one it knows
the bits read so far, how many octets are still due, and the range the next octet has to lie in
(after `E0`, `ED`, `F0` and `F4` that range is narrower, which rules out overlong forms, surrogates
and numbers beyond the last code point).

An octet that does not fit ends the broken character and is read again as the first octet of the
next one, so each longest beginning of a character that cannot go on counts as one fault.
-/

namespace Roaming.Text.Utf8

/-- Where the decoder stands between two octets. -/
inductive State where
  /-- Between characters. -/
  | idle
  /-- Inside a character: the bits so far, the octets due, and the range of the next octet. -/
  | inside (bits due low high : Nat)

/-- The first octet of a character: a character or a fault at once, or the state it leads to. -/
def start (b : Nat) : List (Option Char) × State :=
  if b < 0x80 then ([some (Char.ofNat b)], .idle)
  else if 0xC2 ≤ b && b ≤ 0xDF then ([], .inside (b - 0xC0) 1 0x80 0xBF)
  else if b = 0xE0 then ([], .inside 0 2 0xA0 0xBF)
  else if b = 0xED then ([], .inside 0xD 2 0x80 0x9F)
  else if 0xE1 ≤ b && b ≤ 0xEF then ([], .inside (b - 0xE0) 2 0x80 0xBF)
  else if b = 0xF0 then ([], .inside 0 3 0x90 0xBF)
  else if 0xF1 ≤ b && b ≤ 0xF3 then ([], .inside (b - 0xF0) 3 0x80 0xBF)
  else if b = 0xF4 then ([], .inside 4 3 0x80 0x8F)
  else ([none], .idle)

/-- One octet: the characters and faults it completes, and the state after it. -/
def State.feed (b : Nat) : State → List (Option Char) × State
  | .idle => start b
  | .inside bits due low high =>
    if low ≤ b && b ≤ high then
      let bits := bits * 64 + (b - 0x80)
      if due ≤ 1 then ([some (Char.ofNat bits)], .idle)
      else ([], .inside bits (due - 1) 0x80 0xBF)
    else
      let (out, next) := start b
      (none :: out, next)

/-- What a sequence of octets holds from a state on: its characters, and `none` for each fault. -/
def scan : State → List UInt8 → List (Option Char)
  | .idle, [] => []
  | .inside .., [] => [none]
  | state, b :: bs =>
    let (out, next) := state.feed b.toNat
    out ++ scan next bs

/-- The text of octets that are UTF-8 throughout. -/
def decode? (bs : List UInt8) : Option String :=
  (scan .idle bs).mapM id |>.map String.ofList

/-- The text of any octets: each fault stands as the replacement character. -/
def decodeLossy (bs : List UInt8) : String :=
  String.ofList ((scan .idle bs).map (·.getD '\uFFFD'))

end Roaming.Text.Utf8
