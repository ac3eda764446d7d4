import Sift.Error
import Sift.Json.Scanner

/-!
# Reading records from JSON

Readers take a JSON value to a value of a type or say why not: the JSON is malformed for that
type, or what it says is no valid specification.

* A record is an object whose members are its fields.  Unknown members are skipped, and a known
  one may be given once.  A record may also be an array of its first fields in order.
* A name out of a list is a string, or an object whose one member has that name and is null.
* A value whose kind may be named at its end is *held*: it is read whole before its parts are.
* Reading goes along the text, so the first fault in the text is the one reported.
-/

set_option autoImplicit false
namespace Sift

/-- Why a JSON text cannot be read. -/
inductive ReadError where
  | malformed
  | rejected (cause : SpecError)
deriving DecidableEq

/-- The outcome of reading. -/
abbrev Read (α : Type) := Except ReadError α

namespace Json

/-- The outcome of reading what no value of the type is written as. -/
def malformed {α : Type} : Read α := .error .malformed

/-- Reads what a check of the library lets through. -/
def checked {α : Type} : Except SpecError α → Read α
  | .ok a => .ok a
  | .error cause => .error (.rejected cause)

/-! ## Scalars -/

/-- Reads a string. -/
def readString : Json → Read String
  | .string s => .ok s
  | _ => malformed

/-- Reads a truth value. -/
def readBool : Json → Read Bool
  | .bool b => .ok b
  | _ => malformed

/-- Reads a number of any form. -/
def readNumber : Json → Read Number
  | .number n => .ok n
  | _ => malformed

/-- A whole number written without a point or exponent. -/
def readInt : Json → Read Int
  | .number (.signed n) => .ok n.toInt
  | .number (.unsigned n) => .ok n.toNat
  | _ => malformed

/-- Reads a whole number that fits the signed form. -/
def readInt64 (json : Json) : Read Int64 := do
  let n ← json.readInt
  if Int64.minValue.toInt ≤ n ∧ n ≤ Int64.maxValue.toInt then .ok (.ofInt n) else malformed

/-- Reads a whole number that fits the unsigned form. -/
def readUInt64 (json : Json) : Read UInt64 := do
  let n ← json.readInt
  if 0 ≤ n ∧ n < UInt64.size then .ok (.ofNat n.toNat) else malformed

/-- Reads a whole number that fits 32 bits unsigned. -/
def readUInt32 (json : Json) : Read UInt32 := do
  let n ← json.readInt
  if 0 ≤ n ∧ n < UInt32.size then .ok (.ofNat n.toNat) else malformed

/-- Reads null. -/
def readNull : Json → Read Unit
  | .null => .ok ()
  | _ => malformed

/-! ## Composite values -/

/-- Null or a value. -/
def readOption {α : Type} (read : Json → Read α) : Json → Read (Option α)
  | .null => .ok none
  | json => (read json).map some

/-- Reads a list item by item. -/
def readList {α : Type} (read : Json → Read α) : Json → Read (List α)
  | .array items => items.mapM read
  | _ => malformed

/-- A name: a string, or an object with one member that is null.  In a value that is held the
member may also be an empty object. -/
def readName (held : Bool) : Json → Read String
  | .string name => .ok name
  | .object [(name, .null)] => .ok name
  | .object [(name, .object [])] => if held then .ok name else malformed
  | _ => malformed

/-- The fields of a record with their names. -/
def readFields (names : List String) : Json → Read (List (String × Json))
  | .object members => .ok members
  | .array items => if items.length ≤ names.length then .ok (names.zip items) else malformed
  | _ => malformed

/-- Sets a field that may be given once. -/
def setOnce {α : Type} (field : Option α) (value : Read α) : Read (Option α) :=
  match field with
  | some _ => malformed
  | none => value.map some

/-- A field that must be given. -/
def required {α : Type} : Option α → Read α
  | some a => .ok a
  | none => malformed

/-- An entry of a list by its place in it, counted from zero. -/
def readPlace {α : Type} (entries : List α) (json : Json) : Read α := do
  let place ← json.readUInt64
  required entries[place.toNat]?

/-! ## Texts -/

/-- Reads a whole text.  `read` looks at all that could be scanned, so that it may object to an
early part of a text that breaks off; `check` looks at what was read once its text is known to be
whole, and before anything that follows it is. -/
def readTextChecked {α β : Type} (read : Json → Read α) (check : α → Read β) (text : String) :
    Read β :=
  let outcome := scan text
  match read outcome.value, outcome.fault with
  | .error (.rejected cause), _ => .error (.rejected cause)
  | _, .inside => malformed
  | .error e, _ => .error e
  | .ok a, fault => do
    let b ← check a
    if fault = .after then malformed else .ok b

/-- Reads a whole text, with nothing to check once it is read. -/
def readText {α : Type} (read : Json → Read α) (text : String) : Read α :=
  readTextChecked read .ok text

end Json
end Sift
