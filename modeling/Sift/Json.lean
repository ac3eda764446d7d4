import Sift.Number

/-!
# JSON values

A `Json` value keeps what its readers depend on: the order of the members of an object, members
given twice, and the form of a number.  `Json.text` writes a value without blanks; a number that
JSON cannot express is written as `null`.
-/

set_option autoImplicit false
namespace Sift

/-- A JSON value. -/
inductive Json where
  | null
  | bool (value : Bool)
  | number (value : Number)
  | string (value : String)
  | array (items : List Json)
  | object (members : List (String × Json))
  /-- A well-formed text that stands for no value: half of a surrogate pair, a number past the
  largest double, or nesting past the limit. -/
  | unreadable

namespace Json

instance : Inhabited Json := ⟨.null⟩

/-- Values may nest this deep. -/
def nestingLimit : Nat := 127

mutual

/-- How deep arrays and objects nest in a value. -/
def depth : Json → Nat
  | .array items => depthOfItems items + 1
  | .object members => depthOfMembers members + 1
  | _ => 0

/-- The depth of the deepest item. -/
def depthOfItems : List Json → Nat
  | [] => 0
  | item :: items => max item.depth (depthOfItems items)

/-- The depth of the deepest member. -/
def depthOfMembers : List (String × Json) → Nat
  | [] => 0
  | (_, value) :: members => max value.depth (depthOfMembers members)

end

mutual

/-- Whether no part of a value is unreadable. -/
def isReadable : Json → Bool
  | .unreadable => false
  | .array items => areReadable items
  | .object members => haveReadable members
  | _ => true

/-- Whether every item can be read. -/
def areReadable : List Json → Bool
  | [] => true
  | item :: items => item.isReadable && areReadable items

/-- Whether every member can be read. -/
def haveReadable : List (String × Json) → Bool
  | [] => true
  | (_, value) :: members => value.isReadable && haveReadable members

end

/-! ## Writing -/

/-- One character between the quotes of a JSON string. -/
def escapeChar (c : Char) : List Char :=
  if c = '"' then ['\\', '"']
  else if c = '\\' then ['\\', '\\']
  else if c = '\n' then ['\\', 'n']
  else if c = '\r' then ['\\', 'r']
  else if c = '\t' then ['\\', 't']
  else if c.toNat = 8 then ['\\', 'b']
  else if c.toNat = 12 then ['\\', 'f']
  else if c.toNat < 32 then
    ['\\', 'u', '0', '0', Nat.digitChar (c.toNat / 16), Nat.digitChar (c.toNat % 16)]
  else [c]

/-- The characters of a string in quotes. -/
def stringChars (text : String) : List Char :=
  ['"'] ++ text.toList.flatMap escapeChar ++ ['"']

/-- The text of a number; NaN and the infinities have none. -/
def numberChars : Number → List Char
  | .double (.finite negative units h) =>
    (Number.storedLayout.text (.finite negative units h)).toList
  | .double _ => "null".toList
  | n => n.text.toList

mutual

/-- The characters of a value. -/
def chars : Json → List Char
  | .null => "null".toList
  | .bool value => (if value then "true" else "false").toList
  | .number value => numberChars value
  | .string value => stringChars value
  | .array items => ['['] ++ itemChars items ++ [']']
  | .object members => ['\x7b'] ++ memberChars members ++ ['\x7d']
  | .unreadable => "null".toList

/-- The items of an array with commas between them. -/
def itemChars : List Json → List Char
  | [] => []
  | [item] => item.chars
  | item :: items => item.chars ++ [','] ++ itemChars items

/-- The members of an object with commas between them. -/
def memberChars : List (String × Json) → List Char
  | [] => []
  | [(key, value)] => stringChars key ++ [':'] ++ value.chars
  | (key, value) :: members =>
    stringChars key ++ [':'] ++ value.chars ++ [','] ++ memberChars members

end

/-- The text of a value. -/
def text (value : Json) : String :=
  .ofList value.chars

end Json
end Sift
