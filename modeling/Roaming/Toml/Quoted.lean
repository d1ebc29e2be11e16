/-!
# TOML strings

A string stands between double quotes, where a backslash escapes, or between single quotes, where
nothing does. Three quotes open a string that may run over lines: a line end right after them does
not count, a backslash at the end of a line takes away all blanks up to the next character, and up
to two quotes may stand right before the closing three.

The readers of this module take what follows the opening quotes and give the content and what
follows the closing ones.
-/

namespace Roaming.Toml.Quoted

/-- A blank within a line. -/
def isSpace (c : Char) : Bool :=
  c = ' ' || c = '\t'

/-- A character that may stand for itself: any but the controls, of which the tab may. -/
def isPlain (c : Char) : Bool :=
  c = '\t' || (0x20 ≤ c.toNat && c.toNat ≠ 0x7F)

/-- The character of an escape with a letter or a mark. -/
def shortEscape? : Char → Option Char
  | 'b' => some '\x08'
  | 't' => some '\t'
  | 'n' => some '\n'
  | 'f' => some '\x0c'
  | 'r' => some '\r'
  | 'e' => some '\x1b'
  | '"' => some '"'
  | '\\' => some '\\'
  | _ => none

/-- The number of hexadecimal digits after the letter of a numeric escape. -/
def escapeLength? : Char → Option Nat
  | 'x' => some 2
  | 'u' => some 4
  | 'U' => some 8
  | _ => none

/-- The value of a hexadecimal digit. -/
def hexValue? (c : Char) : Option Nat :=
  if '0' ≤ c && c ≤ '9' then some (c.toNat - '0'.toNat)
  else if 'a' ≤ c && c ≤ 'f' then some (c.toNat - 'a'.toNat + 10)
  else if 'A' ≤ c && c ≤ 'F' then some (c.toNat - 'A'.toNat + 10)
  else none

/-- The character with a number, if there is one. -/
def charOf? (n : Nat) : Option Char :=
  if n.isValidChar then some (Char.ofNat n) else none

/-- Where a reader stands inside a string with escapes. -/
inductive Mode where
  /-- Outside any escape. -/
  | plain
  /-- After a backslash. -/
  | escaped
  /-- Inside a numeric escape, with the digits due and the number so far. -/
  | numeric (due value : Nat)
  /-- After a backslash that ends its line, and whether the line end has come. -/
  | continued (ended : Bool)

/-- The mode after a blank of a continued line: still inside it, back outside if the line ended, or
a fault. -/
def afterBlank (ended : Bool) (rest : List Char) : Option Mode :=
  match rest with
  | c :: _ =>
    if isSpace c || c = '\n' || c = '\r' then some (.continued ended)
    else if ended then some .plain else none
  | [] => none

/-- The content of a string with escapes, and what follows its closing quotes. -/
def escapedBody (multiline : Bool) : Mode → List Char → Option (List Char × List Char)
  | _, [] => none
  | .plain, c :: cs =>
    if c = '"' then
      if multiline then
        match cs with
        | '"' :: '"' :: '"' :: '"' :: rest => some (['"', '"'], rest)
        | '"' :: '"' :: '"' :: rest => some (['"'], rest)
        | '"' :: '"' :: rest => some ([], rest)
        | _ => (escapedBody multiline .plain cs).map fun r => (c :: r.1, r.2)
      else some ([], cs)
    else if c = '\\' then escapedBody multiline .escaped cs
    else if isPlain c || (multiline && (c = '\n' || (c = '\r' && cs.head? = some '\n'))) then
      (escapedBody multiline .plain cs).map fun r => (c :: r.1, r.2)
    else none
  | .escaped, c :: cs =>
    match shortEscape? c, escapeLength? c with
    | some d, _ => (escapedBody multiline .plain cs).map fun r => (d :: r.1, r.2)
    | none, some due => escapedBody multiline (.numeric due 0) cs
    | none, none =>
      if multiline && (isSpace c || c = '\n' || (c = '\r' && cs.head? = some '\n')) then
        match afterBlank (c = '\n') cs with
        | some mode => escapedBody multiline mode cs
        | none => none
      else none
  | .numeric due value, c :: cs =>
    match hexValue? c with
    | none => none
    | some digit =>
      if due ≤ 1 then
        match charOf? (16 * value + digit) with
        | some d => (escapedBody multiline .plain cs).map fun r => (d :: r.1, r.2)
        | none => none
      else escapedBody multiline (.numeric (due - 1) (16 * value + digit)) cs
  | .continued ended, c :: cs =>
    if isSpace c || c = '\n' || (c = '\r' && cs.head? = some '\n') then
      match afterBlank (ended || c = '\n') cs with
      | some mode => escapedBody multiline mode cs
      | none => none
    else none

/-- The content of a string without escapes on one line, and what follows its closing quote. -/
def literalBody : List Char → Option (List Char × List Char)
  | [] => none
  | c :: cs =>
    if c = '\x27' then some ([], cs)
    else if isPlain c then (literalBody cs).map fun r => (c :: r.1, r.2)
    else none

/-- The content of a string without escapes over lines, and what follows its closing quotes. -/
def literalLines : List Char → Option (List Char × List Char)
  | [] => none
  | c :: cs =>
    if c = '\x27' then
      match cs with
      | '\x27' :: '\x27' :: '\x27' :: '\x27' :: rest => some (['\x27', '\x27'], rest)
      | '\x27' :: '\x27' :: '\x27' :: rest => some (['\x27'], rest)
      | '\x27' :: '\x27' :: rest => some ([], rest)
      | _ => (literalLines cs).map fun r => (c :: r.1, r.2)
    else if isPlain c || c = '\n' || (c = '\r' && cs.head? = some '\n') then
      (literalLines cs).map fun r => (c :: r.1, r.2)
    else none

/-- Drops the line end right after the opening quotes of a string over lines. -/
def dropLineEnd : List Char → List Char
  | '\n' :: cs => cs
  | '\r' :: '\n' :: cs => cs
  | cs => cs

/-- A string on one line, from its opening quote on. -/
def onLine? : List Char → Option (String × List Char)
  | '"' :: cs => (escapedBody false .plain cs).map fun r => (String.ofList r.1, r.2)
  | '\x27' :: cs => (literalBody cs).map fun r => (String.ofList r.1, r.2)
  | _ => none

/-- A string of any kind, from its opening quotes on. -/
def read? : List Char → Option (String × List Char)
  | '"' :: '"' :: '"' :: cs =>
    (escapedBody true .plain (dropLineEnd cs)).map fun r => (String.ofList r.1, r.2)
  | '\x27' :: '\x27' :: '\x27' :: cs =>
    (literalLines (dropLineEnd cs)).map fun r => (String.ofList r.1, r.2)
  | cs => onLine? cs

end Roaming.Toml.Quoted
