import Sift.Json

/-!
# Numbers in JSON text

A lexeme is a run of the characters that numbers are made of.  `Lexeme.split?` takes it apart by
the grammar of JSON numbers, and `Lexeme.number?` finds its value:

* without a point and an exponent it is a whole number, signed if that form holds it, else
  unsigned;
* anything else is the double nearest to the decimal it spells, which must not be infinite.
-/

set_option autoImplicit false
namespace Sift
namespace Json

/-- The parts of a number as it is written. -/
structure Lexeme where
  negative : Bool
  whole : List Char
  fraction : Option (List Char)
  exponent : Option Int

namespace Lexeme

/-- Whether a character can stand in a number. -/
def isNumberChar (c : Char) : Bool :=
  c.isDigit || c == '-' || c == '+' || c == '.' || c == 'e' || c == 'E'

/-! ## Grammar -/

/-- A whole part is one digit, or several of which the first is not zero. -/
def isWhole : List Char → Bool
  | [] => false
  | [c] => c.isDigit
  | c :: rest => c.isDigit && c != '0' && rest.all Char.isDigit

/-- Whether a text is digits, at least one. -/
def isDigits (text : List Char) : Bool :=
  !text.isEmpty && text.all Char.isDigit

/-- The parts of an unsigned lexeme: digits, a fraction after a point, an exponent after `e`. -/
def splitUnsigned? (negative : Bool) (text : List Char) : Option Lexeme := do
  let isMark (c : Char) := c == 'e' || c == 'E'
  let mantissa := text.takeWhile fun c ↦ !isMark c
  let exponent ← match text.dropWhile fun c ↦ !isMark c with
    | [] => some none
    | _ :: digits => (Double.exponentOfText? digits).map some
  let whole := mantissa.takeWhile (· != '.')
  let fraction ← match mantissa.dropWhile (· != '.') with
    | [] => some none
    | _ :: digits => if isDigits digits then some (some digits) else none
  if isWhole whole then some ⟨negative, whole, fraction, exponent⟩ else none

/-- The parts of a lexeme, if it is a number by the grammar. -/
def split? : List Char → Option Lexeme
  | '-' :: rest => splitUnsigned? true rest
  | text => splitUnsigned? false text

/-! ## Value -/

/-- The decimal that a lexeme spells, its sign aside. -/
def decimal (lexeme : Lexeme) : Decimal :=
  let fraction := lexeme.fraction.getD []
  ⟨Decimal.valueOfDigits (lexeme.whole ++ fraction), lexeme.exponent.getD 0 - fraction.length⟩

/-- The double nearest to a lexeme, if it is not past the largest one. -/
def double? (lexeme : Lexeme) : Option Double :=
  let x := lexeme.decimal.nearest lexeme.negative
  if x.isFinite then some x else none

/-- A whole number as an integer; minus zero is none. -/
def integer? (lexeme : Lexeme) : Option Int :=
  match lexeme.fraction, lexeme.exponent with
  | none, none =>
    let value : Int := Decimal.valueOfDigits lexeme.whole
    if lexeme.negative then (if value = 0 then none else some (-value)) else some value
  | _, _ => none

/-- The value of a lexeme, unless it is past the largest double. -/
def number? (lexeme : Lexeme) : Option Number :=
  match lexeme.integer?.bind Number.ofInt? with
  | some n => some n
  | none => lexeme.double?.map .double

end Lexeme

/-- The value of a run of number characters: nothing if it is no number, unreadable if it is out
of range. -/
def ofLexeme? (text : List Char) : Option Json :=
  (Lexeme.split? text).map fun lexeme ↦
    match lexeme.number? with
    | some n => .number n
    | none => .unreadable

end Json
end Sift
