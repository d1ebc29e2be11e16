import Roaming.Toml.Scalar

/-!
# TOML documents

A document is a sequence of lines that give a key its value or open a table, with blank lines and
comments between them. Values nest: arrays and inline tables hold values again and may run over
lines. At most eighty arrays and inline tables may be open at a time, and a key has at most eighty
parts.

Each reader takes what is left of the document and gives a result and what is left after it, or
`none` if the document is not TOML; which fault it has is not kept.
-/

namespace Roaming.Toml

open Quoted (isSpace isPlain)

/-- Skips blanks, line ends and comments; the flag says that a comment has begun. -/
def skipGap : Bool → List Char → Option (List Char)
  | _, [] => some []
  | comment, c :: cs =>
    if c = '\n' || (c = '\r' && cs.head? = some '\n') then skipGap false cs
    else if comment then if isPlain c then skipGap true cs else none
    else if isSpace c then skipGap false cs
    else if c = '#' then skipGap true cs
    else some (c :: cs)

/-- Skips the blanks of a line. -/
def skipSpaces (cs : List Char) : List Char :=
  cs.dropWhile isSpace

/-- A character of a key without quotes. -/
def isKeyChar (c : Char) : Bool :=
  c.isAlphanum || c = '-' || c = '_'

/-- One part of a key, and what follows it. -/
def keyPart? (cs : List Char) : Option (String × List Char) :=
  match Quoted.onLine? cs with
  | some part => some part
  | none =>
    let part := cs.takeWhile isKeyChar
    if part.isEmpty then none else some (String.ofList part, cs.dropWhile isKeyChar)

/-- The parts of a key, apart by points, and what follows the blanks after it. There are no more
parts than the limit allows. -/
def keyParts : (limit : Nat) → List Char → Option (List String × List Char)
  | 0, _ => none
  | limit + 1, cs =>
    match keyPart? cs with
    | none => none
    | some (part, rest) =>
      match skipSpaces rest with
      | '.' :: rest => (keyParts limit (skipSpaces rest)).map fun r => (part :: r.1, r.2)
      | rest => some ([part], rest)

/-- The most parts that a key may have. -/
def partLimit : Nat := 80

/-- A key as its path and its last part, and what follows the blanks after it. -/
def key? (cs : List Char) : Option (List String × String × List Char) :=
  match keyParts partLimit cs with
  | none => none
  | some (parts, rest) => parts.getLast?.map fun last => (parts.dropLast, last, rest)

/-- A key and the sign of equality with the blanks around it. -/
def keyAndEquals? (cs : List Char) : Option (List String × String × List Char) :=
  match key? cs with
  | some (path, key, '=' :: rest) => some (path, key, skipSpaces rest)
  | _ => none

/-- A key of an inline table and the sign of equality, with line ends and comments around the sign.
-/
def inlineKeyAndEquals? (cs : List Char) : Option (List String × String × List Char) :=
  match key? cs with
  | none => none
  | some (path, key, rest) =>
    match skipGap false rest with
    | some ('=' :: rest) => (skipGap false rest).map fun rest => (path, key, rest)
    | _ => none

mutual

/-- The value at the front, inside which `depth` more arrays and inline tables may open. -/
def value : (fuel depth : Nat) → List Char → Option (Value × List Char)
  | 0, _, _ => none
  | fuel + 1, depth, cs =>
    match cs with
    | '[' :: rest =>
      match depth with
      | 0 => none
      | depth + 1 => (items fuel depth rest).map fun r => (.array r.1, r.2)
    | '\x7b' :: rest =>
      match depth with
      | 0 => none
      | depth + 1 => (inlineFields fuel depth [] rest).map fun r => (.table .inline r.1, r.2)
    | '"' :: _ => (Quoted.read? cs).map fun r => (.text r.1, r.2)
    | '\x27' :: _ => (Quoted.read? cs).map fun r => (.text r.1, r.2)
    | _ => Scalar.read? cs

/-- The items of an array from here on, up to its closing bracket; a comma may follow the last one.
-/
def items : (fuel depth : Nat) → List Char → Option (List Value × List Char)
  | 0, _, _ => none
  | fuel + 1, depth, cs =>
    match skipGap false cs with
    | none => none
    | some (']' :: rest) => some ([], rest)
    | some cs =>
      match value fuel depth cs with
      | none => none
      | some (item, rest) =>
        match skipGap false rest with
        | some (',' :: rest) => (items fuel depth rest).map fun r => (item :: r.1, r.2)
        | some (']' :: rest) => some ([item], rest)
        | _ => none

/-- The fields of an inline table from here on, added to those before, up to its closing brace; a
comma may follow the last one. -/
def inlineFields : (fuel depth : Nat) → Fields → List Char → Option (Fields × List Char)
  | 0, _, _, _ => none
  | fuel + 1, depth, before, cs =>
    match skipGap false cs with
    | none => none
    | some ('\x7d' :: rest) => some (before, rest)
    | some cs =>
      match inlineKeyAndEquals? cs with
      | none => none
      | some (path, key, rest) =>
        match value fuel depth rest with
        | none => none
        | some (v, rest) =>
          match before.assign path key v with
          | none => none
          | some fields =>
            match skipGap false rest with
            | some (',' :: rest) => inlineFields fuel depth fields rest
            | some ('\x7d' :: rest) => some (fields, rest)
            | _ => none

end

/-- The most arrays and inline tables that may be open at a time. -/
def depthLimit : Nat := 80

/-- What one line of a document says. -/
inductive Statement where
  /-- A key has a value. -/
  | assign (path : List String) (key : String) (value : Value)
  /-- A table begins. -/
  | table (path : List String) (key : String)
  /-- An item of an array of tables begins. -/
  | item (path : List String) (key : String)

/-- The statement at the front, and what follows it. -/
def statement? (cs : List Char) : Option (Statement × List Char) :=
  match cs with
  | '[' :: '[' :: rest =>
    match key? (skipSpaces rest) with
    | some (path, key, ']' :: ']' :: rest) => some (.item path key, rest)
    | _ => none
  | '[' :: rest =>
    match key? (skipSpaces rest) with
    | some (path, key, ']' :: rest) => some (.table path key, rest)
    | _ => none
  | _ =>
    match keyAndEquals? cs with
    | none => none
    | some (path, key, rest) =>
      (value (2 * rest.length + 2) depthLimit rest).map fun r => (.assign path key r.1, r.2)

/-- Whether the line ends here, but for a comment. -/
def endsLine (cs : List Char) : Bool :=
  match skipSpaces cs with
  | [] => true
  | c :: _ => c = '#' || c = '\n' || c = '\r'

/-- The statements of a document, in order. -/
def statements : (fuel : Nat) → List Char → Option (List Statement)
  | 0, _ => none
  | fuel + 1, cs =>
    match skipGap false cs with
    | none => none
    | some [] => some []
    | some cs =>
      match statement? cs with
      | none => none
      | some (s, rest) => if endsLine rest then (statements fuel rest).map (s :: ·) else none

/-- Adds what a statement says to the fields of a document, below the header in force, and gives the
header in force after it. -/
def Statement.addTo : Statement → List String × Fields → Option (List String × Fields)
  | .assign path key value, (header, fields) =>
    (fields.assignUnder header path key value).map fun new => (header, new)
  | .table path key, (_, fields) => (fields.openTable path key).map fun new => (path ++ [key], new)
  | .item path key, (_, fields) => (fields.openItem path key).map fun new => (path ++ [key], new)

/-- A byte order mark at the front of a text does not belong to it. -/
def dropMark : List Char → List Char
  | '\uFEFF' :: cs => cs
  | cs => cs

/-- The fields of a document, if the text is one. -/
def parse? (text : String) : Option Fields := do
  let cs := dropMark text.toList
  let found ← statements (cs.length + 1) cs
  let (_, fields) ← found.foldlM (fun state s => s.addTo state) ([], [])
  some fields

end Roaming.Toml
