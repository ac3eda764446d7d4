import Sift.Clause
import Sift.Json.Reader

/-!
# Clauses as JSON

An operand is stored as an object with its kind and its value; the null operand has no value.  It
may also be read from an array of just these two, where the null operand has the value null and the
kind of an operand that is held may be given by its place in the list of kinds.  A clause is a
record of its three parts.
-/

set_option autoImplicit false
namespace Sift

/-! ## Numbers, timestamps and operators -/

/-- A number as JSON; NaN and the infinities are null. -/
def Number.toJson : Number → Json
  | .double (.finite negative units h) => .number (.double (.finite negative units h))
  | .double _ => .null
  | n => .number n

/-- A timestamp as JSON: its milliseconds. -/
def Timestamp.toJson (t : Timestamp) : Json := .number (.signed t.millis)

/-- Reads a timestamp from its milliseconds. -/
def Timestamp.ofJson (json : Json) : Read Timestamp :=
  json.readInt64.map Timestamp.mk

/-- An operator as JSON: its name. -/
def Operator.toJson (operator : Operator) : Json := .string operator.name

/-- Reads an operator from its name. -/
def Operator.ofJson (held : Bool) (json : Json) : Read Operator := do
  let name ← json.readName held
  Json.required (ofName? name)

/-- A count as JSON, in the first form of number that holds it. -/
def Json.ofUInt64 (n : UInt64) : Json :=
  if (n.toNat : Int) ≤ Int64.maxValue.toInt then .number (.signed (.ofInt n.toNat))
  else .number (.unsigned n)

/-- A discriminant as JSON.  Every one fits the signed form. -/
def Json.ofUInt32 (n : UInt32) : Json :=
  .number (.signed (.ofInt n.toNat))

/-! ## Operands -/

namespace Operand

/-- The name an operand's kind is stored under. -/
def kind : Operand → String
  | .string _ => "string"
  | .number _ => "number"
  | .timestamp _ => "timestamp"
  | .enumeration _ => "enum"
  | .enumerationSet _ => "enum_set"
  | .bool _ => "bool"
  | .pattern _ => "regex"
  | .null => "null"

/-- The names of the kinds, in the order that places in an array refer to. -/
def kinds : List String :=
  ["string", "number", "timestamp", "enum", "enum_set", "bool", "regex", "null"]

/-- The value an operand is stored with, if it has one. -/
def content? : Operand → Option Json
  | .string s => some (.string s)
  | .number n => some n.toJson
  | .timestamp t => some t.toJson
  | .enumeration d => some (.ofUInt32 d)
  | .enumerationSet ds => some (.array (ds.map .ofUInt32))
  | .bool b => some (.bool b)
  | .pattern p => some (.string p.source)
  | .null => none

/-- An operand as JSON: its kind and, if it has one, its value. -/
def toJson (operand : Operand) : Json :=
  .object (("type", .string operand.kind) :: (operand.content?.map (("value", ·))).toList)

/-- A pattern by its text, which must compile. -/
def readPattern (json : Json) : Read Pattern := do
  let source ← json.readString
  Json.required (Pattern.compile? source)

/-- An operand of a kind.  Only the null operand may lack a value, and its value can only be
null. -/
def ofKind (kind : String) (content : Option Json) : Read Operand :=
  match kind, content with
  | "string", some v => v.readString.map .string
  | "number", some v => v.readNumber.map .number
  | "timestamp", some v => (Timestamp.ofJson v).map .timestamp
  | "enum", some v => v.readUInt32.map .enumeration
  | "enum_set", some v => (v.readList Json.readUInt32).map .enumerationSet
  | "bool", some v => v.readBool.map .bool
  | "regex", some v => (readPattern v).map .pattern
  | "null", some v => v.readNull.map fun _ ↦ .null
  | "null", none => .ok .null
  | _, _ => Json.malformed

/-- What was read of an operand so far. -/
structure Draft where
  kind : Option String
  content : Option Json

/-- Adds a member of an operand's object.  The kind is read at once, the value only when the kind
is known. -/
def Draft.add (held : Bool) (draft : Draft) : String × Json → Read Draft
  | ("type", json) => do
    let kind ← Json.setOnce draft.kind (json.readName held)
    return { draft with kind }
  | ("value", json) => do
    let content ← Json.setOnce draft.content (.ok json)
    return { draft with content }
  | _ => .ok draft

/-- The kind at the front of an array: its name or, in an operand that is held, its place among the
kinds.  Unlike the kind in an object it is never written as an object itself. -/
def readFront (held : Bool) : Json → Read String
  | .string kind => .ok kind
  | json => if held then json.readPlace kinds else Json.malformed

/-- Reads an operand, which may be part of a value that is held. -/
def ofJson (held : Bool) : Json → Read Operand
  | .object members => do
    let draft ← members.foldlM (Draft.add held) ⟨none, none⟩
    let kind ← Json.required draft.kind
    ofKind kind draft.content
  | .array [front, content] => do
    let kind ← readFront held front
    ofKind kind (some content)
  | _ => Json.malformed

end Operand

/-! ## Clauses -/

namespace Clause

/-- A clause as JSON. -/
def toJson (clause : Clause) : Json :=
  .object [("field", .string clause.field), ("op", clause.operator.toJson),
    ("value", clause.operand.toJson)]

/-- What was read of a clause so far. -/
structure Draft where
  field : Option String
  operator : Option Operator
  operand : Option Operand

/-- Adds a field of a clause. -/
def Draft.add (held : Bool) (draft : Draft) : String × Json → Read Draft
  | ("field", json) => do
    let field ← Json.setOnce draft.field json.readString
    return { draft with field }
  | ("op", json) => do
    let operator ← Json.setOnce draft.operator (Operator.ofJson held json)
    return { draft with operator }
  | ("value", json) => do
    let operand ← Json.setOnce draft.operand (Operand.ofJson held json)
    return { draft with operand }
  | _ => .ok draft

/-- Reads a clause, which may be part of a value that is held.  Its field may be empty here. -/
def ofJson (held : Bool) (json : Json) : Read Clause := do
  let fields ← json.readFields ["field", "op", "value"]
  let draft ← fields.foldlM (Draft.add held) ⟨none, none, none⟩
  let field ← Json.required draft.field
  let operator ← Json.required draft.operator
  let operand ← Json.required draft.operand
  return ⟨field, operator, operand⟩

end Clause
end Sift
