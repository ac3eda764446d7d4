import Sift.Tag.Grammar.Statement
import Sift.Tag.Grammar.TypeForm

/-!
# Values of tags

`ItemValue.read` reads what stands after the sign `=`: a text, or an expression that is none.  Of
such an expression only that it is one matters.

`Phrase.read` joins the rules of the grammar.  Every phrase is read from fewer tokens than the
phrase around it, or is one of the few phrases that it begins with, so the depth to which phrases
nest is bounded by the tokens.
-/

set_option autoImplicit false
namespace Sift

namespace Grammar

/-- A tag in its brackets: a path with a group, with a value, or by itself. -/
def tag (rules : Rules) : Reader Unit :=
  Reader.inside .bracket do
    let _ ← ItemPath.read
    let next ← Reader.tokens
    if Token.isSomeGroupAt next then Reader.skip 1
    else if isAssignmentAt next && !Token.isMarkAt "==" next then
      Reader.takeMark "="
      if ← Reader.sees fun next ↦ Token.isMarkAt "#" next && Token.isGroupAt .bracket (next.drop 1)
      then Reader.fail .tagInTag
      rules.take (.expression true)

/-- The rule for a phrase. -/
def rule (rules : Rules) : Rules
  | .expression allowsRecord => expression rules allowsRecord
  | .operand allowsRecord => operand rules allowsRecord
  | .operators allowsRecord least left => operators rules allowsRecord least left
  | .statement => statementExpression rules
  | .type allowsBounds => type rules allowsBounds
  | .bound => bound rules
  | .pattern => pattern rules
  | .patterns => patterns rules
  | .block => do
    block rules
    return .block
  | .tag => do
    tag rules
    return .plain

/-- Reads phrases that nest no deeper than some depth. -/
def Phrase.readTo : Nat → Rules
  | 0, _ => Reader.missing [.expression]
  | depth + 1, phrase => rule (readTo depth) phrase

/-- Reads a phrase. -/
def Phrase.read (phrase : Phrase) : Reader Shape := do
  Phrase.readTo (8 * (Token.sizeOfAll (← Reader.tokens) + 1)) phrase

end Grammar

/-- What stands after `=`: a text, or an expression that is none. -/
inductive ItemValue where
  | text (value : String)
  | expression
deriving DecidableEq

namespace ItemValue

/-- The value that tokens have from their beginning to where others are left. -/
def ofTaken (before after : List Token) : ItemValue :=
  match before, before.length - after.length with
  | .text value :: _, 1 => .text value
  | _, _ => .expression

/-- The value after `=`. -/
def read : Reader ItemValue := do
  let before ← Reader.tokens
  if Token.isMarkAt "#" before && Token.isGroupAt .bracket (before.drop 1) then
    Reader.fail .tagInTag
  let _ ← Grammar.Phrase.read (.expression true)
  return ofTaken before (← Reader.tokens)

end ItemValue
end Sift
