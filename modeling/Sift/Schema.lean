import Sift.Schema.FieldOptions
import Sift.Text.Property
import Sift.Value

/-!
# Schemas

A `Schema` says under which names the fields of a record can be used in queries.  It is derived
from the declaration of the record: fields that have a kind can be read, relations only have a
name, and all others are left out.  Each name also gets a constant, in capitals with low lines
between its words.

A constant must be an identifier.  `Schema.derive` reports a name that makes none apart from what
is wrong with a tag.
-/

set_option autoImplicit false
namespace Sift

/-- A field of a record with its tags. -/
structure FieldDeclaration where
  name : String
  tags : List Item

/-- What a schema may be asked for. -/
inductive Declaration where
  | record (fields : List FieldDeclaration)
  | positional
  | unit
  | choice
  | union

/-- A name for use in queries. -/
structure NameConstant where
  name : String
  value : String
  doc : String
deriving DecidableEq

/-- A field that queries can read. -/
structure ReadableField where
  /-- The name of the field in the record. -/
  field : String
  /-- Its name in queries. -/
  name : String
  kind : FieldKind
  nullable : Bool
deriving DecidableEq

/-- The names that queries may use. -/
structure Schema where
  constants : List NameConstant
  fields : List ReadableField
deriving DecidableEq

/-- Why there is no schema. -/
inductive SchemaError where
  | fieldsUnnamed
  | noRecord
  | tag (cause : TagError)
  | constantInvalid (name : String)
deriving DecidableEq

/-- The message of an error.  There is none for a constant that is no identifier. -/
def SchemaError.message? : SchemaError → Option String
  | .fieldsUnnamed => some "Entity can only be derived for structs with named fields"
  | .noRecord => some "Entity can only be derived for structs"
  | .tag cause => some cause.message
  | .constantInvalid _ => none

namespace Schema

/-- The schema of no fields. -/
def empty : Schema := ⟨[], []⟩

instance : Inhabited Schema := ⟨empty⟩

/-- Schemas are put together part by part. -/
instance : Append Schema where
  append a b := ⟨a.constants ++ b.constants, a.fields ++ b.fields⟩

/-! ## Names of constants -/

/-- A name in capitals: words are parted at `_`, `-` and `.`, and where a capital follows a
character that is none.  Only letters from `a` to `z` become capitals. -/
def constantChars (afterSmall : Bool) : List Char → List Char
  | [] => []
  | c :: rest =>
    if Text.isUppercase c then
      (if afterSmall then ['_', c] else [c]) ++ constantChars false rest
    else if c = '_' ∨ c = '-' ∨ c = '.' then '_' :: constantChars false rest
    else c.toUpper :: constantChars (Text.isAlphanumeric c) rest

/-- The name of the constant for a name in queries. -/
def constantName (name : String) : String :=
  .ofList (constantChars false name.toList)

/-- The constant for a field that is named so in queries. -/
def constantFor (field name : String) (relation : Bool) : Except SchemaError NameConstant :=
  let constant := constantName name
  let use := if relation then "Eager-load path for `" else "Query name of `"
  if Text.isIdentifier constant.toList then .ok ⟨constant, name, use ++ field ++ "`."⟩
  else .error (.constantInvalid constant)

/-! ## Deriving a schema -/

/-- What a field with given options adds. -/
def ofOptions (field : String) (options : FieldOptions) : Except SchemaError Schema :=
  if options.skip || (options.kind.isNone && !options.relation) then .ok empty
  else do
    let name := options.rename.getD field
    let constant ← constantFor field name options.relation
    return ⟨[constant],
      (options.kind.map fun kind ↦ ⟨field, name, kind, options.nullable⟩).toList⟩

/-- What a field adds. -/
def ofField (field : FieldDeclaration) : Except SchemaError Schema :=
  match FieldOptions.ofTags field.tags with
  | .ok options => ofOptions field.name options
  | .error cause => .error (.tag cause)

/-- The schema of fields in order; the first field with an error decides. -/
def ofFields : List FieldDeclaration → Except SchemaError Schema
  | [] => .ok empty
  | field :: fields => do
    let schema ← ofField field
    let others ← ofFields fields
    return schema ++ others

/-- The schema of a declaration. -/
def derive : Declaration → Except SchemaError Schema
  | .record fields => ofFields fields
  | .positional | .unit => .error .fieldsUnnamed
  | .choice | .union => .error .noRecord

/-! ## Reading by a schema -/

/-- The value that queries read under a name, where `stored` gives the values of a record by
field. -/
def fieldValue (schema : Schema) (stored : String → Value) (name : String) : Value :=
  match schema.fields.find? (·.name == name) with
  | some readable => stored readable.field
  | none => .null

end Schema
end Sift
