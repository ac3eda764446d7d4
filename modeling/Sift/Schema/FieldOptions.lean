import Sift.Tag.Item

/-!
# Options of a field

A field of a record says in a `query` tag how queries may use it.  The items of the tag are read
in order (`FieldOptions.add`): a kind or a new name replaces the one before it, and a flag once
set stays set.  `FieldOptions.checked` then asks that the options go together.

Only the first `query` tag of a field counts, and a field without one has no options.
-/

set_option autoImplicit false
namespace Sift

/-- The kinds of value that a field can be read as. -/
inductive FieldKind where
  | string
  | number
  | timestamp
  | enumeration
  | bool
deriving DecidableEq, Repr

namespace FieldKind

/-- The name a kind is shown under. -/
def name : FieldKind → String
  | .string => "String"
  | .number => "Number"
  | .timestamp => "Timestamp"
  | .enumeration => "Enum"
  | .bool => "Bool"

/-- A kind by one of its spellings. -/
def ofName? : String → Option FieldKind
  | "String" | "string" => some .string
  | "Number" | "number" => some .number
  | "Timestamp" | "timestamp" => some .timestamp
  | "Enum" | "enum" | "enumeration" => some .enumeration
  | "Bool" | "bool" | "boolean" => some .bool
  | _ => none

/-- The kinds as messages list them. -/
def list : String :=
  ", ".intercalate ([.string, .number, .timestamp, .enumeration, .bool].map name)

theorem ofName?_name (kind : FieldKind) : ofName? kind.name = some kind := by
  cases kind <;> rfl

end FieldKind

/-! ## Errors -/

/-- Keys that take a text. -/
inductive TextKey where
  | kind
  | rename
deriving DecidableEq, Repr

/-- Why a tag gives no options. -/
inductive TagError where
  | invalidSyntax (cause : SyntaxError)
  | argumentsMissing
  | parenthesesMissing
  | unknownKind (name : String)
  | pathForKind
  | textRequired (key : TextKey)
  | unknownKey
  | unknownGroup
  | relationWithKind
  | nullableWithoutKind
deriving DecidableEq

/-- The word that stands for a key in a tag. -/
def TextKey.name : TextKey → String
  | .kind => "ty"
  | .rename => "rename"

/-- The message of an error in a tag. -/
def TagError.message : TagError → String
  | .invalidSyntax cause => cause.message
  | .argumentsMissing => "expected attribute arguments in parentheses: #[query(...)]"
  | .parenthesesMissing => "expected parentheses: #[query(...)]"
  | .unknownKind name =>
    "unknown field kind '" ++ name ++ "'. Expected one of: " ++ FieldKind.list
  | .pathForKind => "expected " ++ FieldKind.list ++ ", nullable, relation or skip"
  | .textRequired key => key.name ++ " must be a string literal"
  | .unknownKey => "unknown attribute. Expected: rename or ty"
  | .unknownGroup =>
    "unknown query attribute. Expected a field kind, nullable, relation, skip, " ++
      "rename = \"...\" or ty = \"...\""
  | .relationWithKind => "a relation cannot also declare a field kind"
  | .nullableWithoutKind => "nullable requires a field kind: " ++ FieldKind.list

/-! ## Options -/

/-- How queries may use a field. -/
structure FieldOptions where
  kind : Option FieldKind
  nullable : Bool
  relation : Bool
  skip : Bool
  rename : Option String
deriving DecidableEq

namespace FieldOptions

/-- The options of a field whose tags say nothing. -/
def none : FieldOptions := ⟨.none, false, false, false, .none⟩

instance : Inhabited FieldOptions := ⟨none⟩

/-- The kind with a name, or the error that there is none. -/
def kindOfName (name : String) : Except TagError FieldKind :=
  match FieldKind.ofName? name with
  | some kind => .ok kind
  | .none => .error (.unknownKind name)

/-- A word sets a flag or gives the kind. -/
def addWord (options : FieldOptions) (name : String) : Except TagError FieldOptions :=
  match name with
  | "skip" => .ok { options with skip := true }
  | "nullable" => .ok { options with nullable := true }
  | "relation" => .ok { options with relation := true }
  | name => do
    let kind ← kindOfName name
    return { options with kind := some kind }

/-- The text that a key is given. -/
def textFor (key : TextKey) : ItemValue → Except TagError String
  | .text value => .ok value
  | .expression => .error (.textRequired key)

/-- Goes on by one item. -/
def add (options : FieldOptions) : Item → Except TagError FieldOptions
  | .bare path =>
    match path.name? with
    | some name => options.addWord name
    | .none => .error .pathForKind
  | .assigned path value =>
    match path.name? with
    | some "ty" => do
      let name ← textFor .kind value
      let kind ← kindOfName name
      return { options with kind := some kind }
    | some "rename" => do
      let name ← textFor .rename value
      return { options with rename := some name }
    | _ => .error .unknownKey
  | .list .. => .error .unknownGroup

/-- Options that go together: a relation has no kind, and only what has a kind can be null. -/
def checked (options : FieldOptions) : Except TagError FieldOptions :=
  if options.relation && options.kind.isSome then .error .relationWithKind
  else if options.nullable && options.kind.isNone then .error .nullableWithoutKind
  else .ok options

/-- The options that items give. -/
def ofItems (items : List Item) : Except TagError FieldOptions := do
  let options ← items.foldlM add none
  options.checked

/-- Whether a tag is one that gives options. -/
def isQuery : Item → Bool
  | .bare path | .assigned path _ | .list path _ _ => path.name? == some "query"

/-- The options that a `query` tag gives. -/
def ofTag : Item → Except TagError FieldOptions
  | .bare _ => .error .argumentsMissing
  | .assigned .. => .error .parenthesesMissing
  | .list _ _ content =>
    match Item.listOfTokens content with
    | .ok items => ofItems items
    | .error cause => .error (.invalidSyntax cause)

/-- The options that the tags of a field give. -/
def ofTags (tags : List Item) : Except TagError FieldOptions :=
  match tags.find? isQuery with
  | some tag => ofTag tag
  | .none => .ok none

end FieldOptions
end Sift
