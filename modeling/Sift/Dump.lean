/-!
# Dumps

A `Dump` shows a value with all its structure on one line: names of records and of their fields,
the parts of a tuple in parentheses, lists in brackets and sets in braces.
-/

set_option autoImplicit false
namespace Sift

/-- The structure of a value. -/
inductive Dump where
  | atom (text : String)
  | tuple (name : String) (parts : List Dump)
  | record (name : String) (fields : List (String × Dump))
  | list (items : List Dump)
  | set (items : List Dump)

namespace Dump

instance : Inhabited Dump := ⟨.atom ""⟩

/-- An optional value. -/
def ofOption {α : Type} (dump : α → Dump) : Option α → Dump
  | none => .atom "None"
  | some a => .tuple "Some" [dump a]

mutual

/-- The text of a dump.  A tuple without parts is only its name. -/
def text : Dump → String
  | .atom s => s
  | .tuple name [] => name
  | .tuple name (part :: parts) => name ++ "(" ++ part.text ++ restText parts ++ ")"
  | .record name [] => name
  | .record name ((field, value) :: fields) =>
    name ++ " \x7b " ++ field ++ ": " ++ value.text ++ restFieldsText fields ++ " \x7d"
  | .list [] => "[]"
  | .list (item :: items) => "[" ++ item.text ++ restText items ++ "]"
  | .set [] => "\x7b\x7d"
  | .set (item :: items) => "\x7b" ++ item.text ++ restText items ++ "\x7d"

/-- What follows the first item of a list. -/
def restText : List Dump → String
  | [] => ""
  | item :: items => ", " ++ item.text ++ restText items

/-- What follows the first field of a record. -/
def restFieldsText : List (String × Dump) → String
  | [] => ""
  | (field, value) :: fields => ", " ++ field ++ ": " ++ value.text ++ restFieldsText fields

end

end Dump
end Sift
