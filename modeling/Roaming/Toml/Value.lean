import Roaming.Decimal

/-!
# TOML values and tables

A document is a table: fields by name. How a table came about decides what may still be added to it,
so each table carries its origin. A table under a header is closed to dotted keys from outside and
to a second header; a table that a longer header only passed through may still get a header of its
own; a table made by a dotted key takes further dotted keys and further headers below it; an inline
table is complete.

Fields are added by `Fields.assign` (a key and a value), `Fields.openTable` (a header) and
`Fields.openItem` (a header of an array of tables). Each gives `none` where the addition would
define something twice or reach into something that is no table.
-/

namespace Roaming.Toml

/-- How a table came about. -/
inductive Origin where
  /-- By a header of its own. -/
  | header
  /-- By a header of a table below it. -/
  | implied
  /-- By a dotted key. -/
  | dotted
  /-- Between braces. -/
  | inline
deriving DecidableEq

/-- A value of a document. -/
inductive Value where
  | text (s : String)
  /-- An integer, of any size. -/
  | integer (n : Int)
  /-- A floating-point number, as written. -/
  | real (x : Decimal)
  /-- A word with the outline of an integer that stands for no number. It has a place in a document,
  but it is a fault to ask for its number. -/
  | malformed
  | truth (b : Bool)
  /-- A date, a time, or both; which one is not kept. -/
  | moment
  /-- An array between brackets. -/
  | array (items : List Value)
  | table (origin : Origin) (fields : List (String × Value))
  /-- An array of tables under headers of its own. -/
  | tables (items : List (List (String × Value)))

/-- The fields of a table, in the order of their first mention. -/
abbrev Fields : Type :=
  List (String × Value)

namespace Fields

/-- The value of a field. -/
def get? (fields : Fields) (key : String) : Option Value :=
  (fields.find? (·.1 == key)).map (·.2)

/-- Sets the value of a field. -/
def set (fields : Fields) (key : String) (value : Value) : Fields :=
  if (fields.get? key).isSome then
    fields.map fun field => if field.1 == key then (key, value) else field
  else fields ++ [(key, value)]

/-- Which tables a path may enter, and the origin of the tables it makes on its way. -/
structure Passage where
  /-- The origin of the tables made on the way. -/
  makes : Origin
  /-- Whether a table of some origin may be entered. -/
  enters : Origin → Bool

/-- The way of a header: into every table but an inline one. -/
def Passage.ofHeader : Passage where
  makes := .implied
  enters origin := origin != .inline

/-- The way of a dotted key: into tables without a header of their own. -/
def Passage.ofKey : Passage where
  makes := .dotted
  enters origin := origin == .dotted || origin == .implied

/-- Changes the table at the end of a path, which is told its origin; missing tables are made. An
array of tables is entered through its last item, whose origin is that of a header. -/
def changeAt (way : Passage) (change : Origin → Fields → Option Fields) :
    List String → Origin → Fields → Option Fields
  | [], origin, fields => change origin fields
  | key :: path, _, fields =>
    match fields.get? key with
    | none => (changeAt way change path way.makes []).map fun new =>
        fields.set key (.table way.makes new)
    | some (.table origin inner) =>
      if way.enters origin then
        (changeAt way change path origin inner).map fun new => fields.set key (.table origin new)
      else none
    | some (.tables items) =>
      match items.getLast? with
      | none => none
      | some last => (changeAt way change path .header last).map fun new =>
          fields.set key (.tables (items.dropLast ++ [new]))
    | some _ => none

/-- Adds a field that must be new. -/
def add (key : String) (value : Value) (fields : Fields) : Option Fields :=
  if (fields.get? key).isSome then none else some (fields.set key value)

/-- Gives the value of a key, whose path leads through tables made by dotted keys only. -/
def assign (path : List String) (key : String) (value : Value) (fields : Fields) : Option Fields :=
  match path with
  | [] => fields.add key value
  | _ => changeAt .ofKey
      (fun origin inner => if origin = .dotted then inner.add key value else none)
      path .header fields

/-- Opens the table of a header: a new one, or one that longer headers only passed through. -/
def openTable (path : List String) (key : String) (fields : Fields) : Option Fields :=
  changeAt .ofHeader
    (fun _ inner =>
      match inner.get? key with
      | none => some (inner.set key (.table .header []))
      | some (.table .implied old) => some (inner.set key (.table .header old))
      | some _ => none)
    path .header fields

/-- Opens a new item of an array of tables. -/
def openItem (path : List String) (key : String) (fields : Fields) : Option Fields :=
  changeAt .ofHeader
    (fun _ inner =>
      match inner.get? key with
      | none => some (inner.set key (.tables [[]]))
      | some (.tables items) => some (inner.set key (.tables (items ++ [[]])))
      | some _ => none)
    path .header fields

/-- Gives the value of a key below the table of the last header. -/
def assignUnder (header : List String) (path : List String) (key : String) (value : Value)
    (fields : Fields) : Option Fields :=
  changeAt .ofHeader (fun _ inner => inner.assign path key value) header .header fields

end Fields

end Roaming.Toml
