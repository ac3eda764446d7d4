import Sift.Regex.Syntax
import Sift.Text.Break

/-!
# Classes by name

The sets behind the names a pattern can use: `[:alpha:]` and its kin, `\d`, `\s` and `\w`, and
properties of the character set, as of the version that patterns know.  The name of a property
counts without regard to case, blanks, hyphens, low lines and an `is` in front.
-/

set_option autoImplicit false
namespace Sift
namespace Regex

open Category

/-! ## ASCII classes -/

/-- The set of a class such as `[:alpha:]`. -/
def namedClass (name : String) : CodeSet :=
  .ofTable <| match name with
  | "alnum" => "30-39 41-5A 61-7A"
  | "alpha" => "41-5A 61-7A"
  | "ascii" => "0-7F"
  | "blank" => "9 20"
  | "cntrl" => "0-1F 7F"
  | "digit" => "30-39"
  | "graph" => "21-7E"
  | "lower" => "61-7A"
  | "print" => "20-7E"
  | "punct" => "21-2F 3A-40 5B-60 7B-7E"
  | "space" => "9-D 20"
  | "upper" => "41-5A"
  | "word" => "30-39 41-5A 5F 61-7A"
  | "xdigit" => "30-39 41-46 61-66"
  | _ => ""

/-- The set of a class named by a letter, among the ASCII characters. -/
def asciiLetterClass : LetterClass → CodeSet
  | .digit => namedClass "digit"
  | .space => namedClass "space"
  | .word => namedClass "word"

/-- The part of a set that patterns know. -/
def known (s : CodeSet) : CodeSet := Text.BinaryProperty.known s

/-- The decimal digits that patterns know. -/
def decimalDigits : CodeSet := known (codes .decimalNumber)

/-- The word characters that patterns know. -/
def wordCharacters : CodeSet := known Text.word

/-- The set of a class named by a letter. -/
def letterClass : LetterClass → CodeSet
  | .digit => decimalDigits
  | .space => Text.whiteSpace
  | .word => wordCharacters

/-! ## Properties -/

/-- A property name with what does not count left out.  The name `isc` stands for itself. -/
def looseName (name : String) : String :=
  let isKept (c : Char) := c.toNat < 128 && !" _-".toList.contains c
  let kept (text : List Char) := (text.filter isKept).map Char.toLower
  match name.toList with
  | i :: s :: rest =>
    if i.toLower = 'i' ∧ s.toLower = 's' then
      if kept rest = ['c'] then "isc" else .ofList (kept rest)
    else .ofList (kept (i :: s :: rest))
  | short => .ofList (kept short)

/-- General categories by their short and long names. -/
def categoryNames : List (List String × List Category) :=
  [(["lu", "uppercaseletter"], [.uppercaseLetter]),
   (["ll", "lowercaseletter"], [.lowercaseLetter]),
   (["lt", "titlecaseletter"], [.titlecaseLetter]),
   (["lc", "casedletter"], [.uppercaseLetter, .lowercaseLetter, .titlecaseLetter]),
   (["lm", "modifierletter"], [.modifierLetter]),
   (["lo", "otherletter"], [.otherLetter]),
   (["l", "letter"], letters),
   (["mn", "nonspacingmark"], [.nonspacingMark]),
   (["mc", "spacingmark"], [.spacingMark]),
   (["me", "enclosingmark"], [.enclosingMark]),
   (["m", "mark", "combiningmark"], marks),
   (["nd", "decimalnumber", "digit"], [.decimalNumber]),
   (["nl", "letternumber"], [.letterNumber]),
   (["no", "othernumber"], [.otherNumber]),
   (["n", "number"], numbers),
   (["pc", "connectorpunctuation"], [.connectorPunctuation]),
   (["pd", "dashpunctuation"], [.dashPunctuation]),
   (["ps", "openpunctuation"], [.openPunctuation]),
   (["pe", "closepunctuation"], [.closePunctuation]),
   (["pi", "initialpunctuation"], [.initialPunctuation]),
   (["pf", "finalpunctuation"], [.finalPunctuation]),
   (["po", "otherpunctuation"], [.otherPunctuation]),
   (["p", "punctuation", "punct"], punctuation),
   (["sm", "mathsymbol"], [.mathSymbol]),
   (["sc", "currencysymbol"], [.currencySymbol]),
   (["sk", "modifiersymbol"], [.modifierSymbol]),
   (["so", "othersymbol"], [.otherSymbol]),
   (["s", "symbol"], symbols),
   (["zs", "spaceseparator"], [.spaceSeparator]),
   (["zl", "lineseparator"], [.lineSeparator]),
   (["zp", "paragraphseparator"], [.paragraphSeparator]),
   (["z", "separator"], separators),
   (["cc", "control", "cntrl"], [.control]),
   (["cf", "format"], [.format]),
   (["co", "privateuse"], [.privateUse])]

/-- The code points that patterns know no character for. -/
def unassigned : CodeSet := Text.BinaryProperty.assignedCodes.complement
  ∪ (Text.BinaryProperty.codes? "nchar").getD .empty

/-- A general category, or one of the sets that are named like one.  No character is a
surrogate. -/
def category? (name : String) : Option CodeSet :=
  match name with
  | "any" => some .all
  | "assigned" => some unassigned.complement
  | "ascii" => some (.range 0 0x7F)
  | "cn" | "unassigned" => some unassigned
  | "c" | "other" => some (unassigned ∪ codesOf [.control, .format, .privateUse])
  | name =>
    (categoryNames.find? fun entry ↦ entry.1.contains name).map fun entry ↦
      known (codesOf entry.2)

/-- A property by its name alone. -/
def propertyByName? (name : String) : Option CodeSet :=
  Text.BinaryProperty.codes? name <|> category? name <|>
    (Text.Script.ofName? name).map Text.Script.codes

/-- The names of a version of the character set. -/
def versionNames (version : Text.Version) : List String :=
  [toString version.major ++ "." ++ toString version.minor,
   "v" ++ toString version.major ++ toString version.minor]

/-- What a version and those before it assigned. -/
def age? (name : String) : Option CodeSet :=
  (Text.Version.every.find? fun version ↦
    (versionNames version).contains name && version.isUpTo Text.BinaryProperty.version).map
      Text.Version.assigned

/-- A property given as a name and a value. -/
def propertyByValue? (name value : String) : Option CodeSet :=
  match name with
  | "gc" | "generalcategory" => category? value
  | "sc" | "script" => (Text.Script.ofName? value).map Text.Script.codes
  | "scx" | "scriptextensions" => (Text.Script.ofName? value).map Text.Script.extended
  | "age" => age? value
  | "gcb" | "graphemeclusterbreak" => NamedSet.codesOf? Text.BreakClass.graphemeClasses value
  | "wb" | "wordbreak" => NamedSet.codesOf? Text.BreakClass.wordClasses value
  | "sb" | "sentencebreak" => NamedSet.codesOf? Text.BreakClass.sentenceClasses value
  | _ => none

/-- The two sides of a text around the first place where a mark stands. -/
def splitAround? (mark : List Char) : List Char → Option (String × String)
  | [] => none
  | c :: rest =>
    if mark.isPrefixOf (c :: rest) then
      some ("", .ofList ((c :: rest).drop mark.length))
    else (splitAround? mark rest).map fun (left, right) ↦ (.ofList (c :: left.toList), right)

/-- What stands between the braces of a property: a name, or a name and a value. -/
structure PropertyQuery where
  name : String
  value : Option String
  /-- Whether the characters asked for are those that do not have the value. -/
  differs : Bool

namespace PropertyQuery

/-- A name and a value have `!=`, `:` or `=` between them. -/
def ofText (text : String) : PropertyQuery :=
  match splitAround? ['!', '='] text.toList, splitAround? [':'] text.toList,
    splitAround? ['='] text.toList with
  | some (name, value), _, _ => ⟨name, some value, true⟩
  | none, some (name, value), _ | none, none, some (name, value) => ⟨name, some value, false⟩
  | none, none, none => ⟨text, none, false⟩

/-- The characters that have the property, or the value, that is named. -/
def codes? (query : PropertyQuery) : Option CodeSet :=
  match query.value with
  | some value => propertyByValue? (looseName query.name) (looseName value)
  | none => propertyByName? (looseName query.name)

end PropertyQuery

end Regex
end Sift
