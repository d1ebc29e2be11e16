import Roaming.Settings.Draft
import Roaming.Toml.Document

/-!
# Settings documents

Settings are written in TOML: `version` and `profile` at the top, and the sections `scoring`,
`probe`, `timing` and `registry`. A section is a table; it may also be an array, whose items are the
fields of the section in their order. A field has to be of its type and in its range. Names that
mean nothing here are passed over, as long as their numbers are numbers at all: an integer has to
stand for a number that fits in 128 bits, and a floating-point number must not be too large. Items
of an array behind the fields of its section are not looked at.

A document of blanks only is not read; it asks for nothing.
-/

namespace Roaming.Settings

open Toml

/-- Whether an integer has a representation, signed or unsigned, of 128 bits. -/
def fitsInteger (n : Int) : Bool :=
  -(Int.pow 2 127) ≤ n && n < Int.pow 2 128

/-- Whether a floating-point number is within the range of binary64; the words for infinity and for
what is no number are. -/
def fitsReal : Decimal → Bool
  | x@(.finite _ _ _) => x.toFloat.isFinite
  | _ => true

mutual

/-- Whether every number in a value is within range. -/
def inRange : Value → Bool
  | .integer n => fitsInteger n
  | .real x => fitsReal x
  | .array items => allInRange items
  | .table _ fields => fieldsInRange fields
  | .tables items => itemsInRange items
  | .text _ => true
  | .truth _ => true
  | .moment => true
  | .malformed => false

/-- Whether every number in some values is within range. -/
def allInRange : List Value → Bool
  | [] => true
  | v :: vs => inRange v && allInRange vs

/-- Whether every number in some fields is within range. -/
def fieldsInRange : List (String × Value) → Bool
  | [] => true
  | (_, v) :: fields => inRange v && fieldsInRange fields

/-- Whether every number in some tables is within range. -/
def itemsInRange : List (List (String × Value)) → Bool
  | [] => true
  | fields :: items => fieldsInRange fields && itemsInRange items

end

/-- A string. -/
def textOf? : Value → Option String
  | .text s => some s
  | _ => none

/-- An integer of 32 bits with a sign. -/
def int32Of? : Value → Option Int32
  | .integer n =>
    if Int32.minValue.toInt ≤ n && n ≤ Int32.maxValue.toInt then some (Int32.ofInt n) else none
  | _ => none

/-- An integer of 32 bits without a sign. -/
def uint32Of? : Value → Option UInt32
  | .integer n => if 0 ≤ n && n.toNat < UInt32.size then some (UInt32.ofNat n.toNat) else none
  | _ => none

/-- An integer of 64 bits without a sign. -/
def uint64Of? : Value → Option UInt64
  | .integer n => if 0 ≤ n && n.toNat < UInt64.size then some (UInt64.ofNat n.toNat) else none
  | _ => none

/-- A section of a document. -/
inductive Section where
  /-- Fields by name. -/
  | named (fields : Fields)
  /-- Fields by position. -/
  | positional (items : List Value)

namespace Section

/-- The section that a value is. A moment has no fields of a section. -/
def ofValue? : Value → Option Section
  | .table _ fields => some (.named fields)
  | .tables items => some (.positional (items.map (.table .header)))
  | .array items => some (.positional items)
  | .moment => some (.named [])
  | _ => none

/-- The section under a name; a missing one has no fields. -/
def find? (fields : Fields) (name : String) : Option Section :=
  match fields.get? name with
  | none => some (.named [])
  | some v => ofValue? v

/-- The value of a field, which has a name and a position. -/
def field? (s : Section) (position : Nat) (name : String) : Option Value :=
  match s with
  | .named fields => fields.get? name
  | .positional items => items[position]?

/-- Whether the fields with other names than these are within range. -/
def othersInRange (s : Section) (names : List String) : Bool :=
  match s with
  | .named fields => fieldsInRange (fields.filter fun field => !names.contains field.1)
  | .positional _ => true

/-- Reads a field: a gap if it is missing, and a fault if it is there and not of its type. -/
def read? {α : Type} (s : Section) (position : Nat) (name : String) (read : Value → Option α) :
    Option (Option α) :=
  match s.field? position name with
  | none => some none
  | some v => (read v).map some

end Section

/-- The names at the top of a document. -/
def topNames : List String :=
  ["version", "profile", "scoring", "probe", "timing", "registry"]

/-- The draft that the fields of a document ask for, if each is of its type. -/
def Draft.ofFields? (fields : Fields) : Option Draft := do
  let top := Section.named fields
  let version ← top.read? 0 "version" uint32Of?
  let profile ← top.read? 1 "profile" textOf?
  let scoring ← Section.find? fields "scoring"
  let probe ← Section.find? fields "probe"
  let timing ← Section.find? fields "timing"
  let registry ← Section.find? fields "registry"
  let qualityPenalty ← scoring.read? 0 "quality_penalty" int32Of?
  let pingCount ← probe.read? 0 "ping_count" uint32Of?
  let settle ← timing.read? 0 "settle_secs" uint64Of?
  let shortInterval ← timing.read? 1 "short_interval_secs" uint64Of?
  let longInterval ← timing.read? 2 "long_interval_secs" uint64Of?
  let maxEntries ← registry.read? 0 "max_entries" uint64Of?
  let staleAfterScans ← registry.read? 1 "stale_after_scans" uint64Of?
  if top.othersInRange topNames &&
      scoring.othersInRange ["quality_penalty"] &&
      probe.othersInRange ["ping_count"] &&
      timing.othersInRange ["settle_secs", "short_interval_secs", "long_interval_secs"] &&
      registry.othersInRange ["max_entries", "stale_after_scans"] then
    some { version := version.getD 0, profile, qualityPenalty, pingCount, settle, shortInterval,
           longInterval, maxEntries, staleAfterScans }
  else none

/-- The settings in a document. -/
def ofDocument (text : String) : Except SettingsFault Settings :=
  if text.toList.all Text.isBlank then .ok default
  else
    match (parse? text).bind Draft.ofFields? with
    | none => .error .unreadable
    | some draft => draft.resolve

end Roaming.Settings
