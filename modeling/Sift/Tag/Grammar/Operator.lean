import Sift.Tag.Grammar.Pattern

/-!
# Operators between operands

An expression is operands with operators between them.  `operators` reads on from a first operand:
an operator that binds less than it may is left to whoever reads the expression around it.
Comparisons do not chain, a range is no operand, and assignments bind to the right.
-/

set_option autoImplicit false
namespace Sift
namespace Grammar

open Reader

/-! ## The operators -/

/-- The operators between two values, longer ones first. -/
def binaryOperators : List (String × Binding) :=
  [("<<=", .assignment), (">>=", .assignment), ("+=", .assignment), ("-=", .assignment),
   ("*=", .assignment), ("/=", .assignment), ("%=", .assignment), ("^=", .assignment),
   ("&=", .assignment), ("|=", .assignment), ("&&", .and), ("||", .or), ("<<", .shift),
   (">>", .shift), ("==", .comparison), ("<=", .comparison), ("!=", .comparison),
   (">=", .comparison), ("+", .sum), ("-", .sum), ("*", .product), ("/", .product),
   ("%", .product), ("^", .bitXor), ("&", .bitAnd), ("|", .bitOr), ("<", .comparison),
   (">", .comparison)]

/-- The operator that comes next, with how tightly it binds. -/
def operatorAt? (tokens : List Token) : Option (String × Binding) :=
  binaryOperators.find? fun (marks, _) ↦ Token.isMarkAt marks tokens

/-- Whether a plain assignment comes next. -/
def isAssignmentAt (tokens : List Token) : Bool :=
  Token.isMarkAt "=" tokens && !Token.isMarkAt "=>" tokens

/-- How tightly what comes next binds. -/
def bindingAt (tokens : List Token) : Binding :=
  match operatorAt? tokens with
  | some (_, binding) => binding
  | none =>
    if isAssignmentAt tokens then .assignment
    else if Token.isMarkAt ".." tokens then .range
    else if Token.isWordAt "as" tokens then .cast
    else .loosest

/-! ## Right sides -/

/-- The operand after an operator, with the operators that bind more. -/
def rightSide (rules : Rules) (allowsRecord : Bool) (binding : Binding) : Reader Unit := do
  let first ← rules (.operand allowsRecord)
  let _ ← iterate (fun shape ↦ do
    let before ← tokens
    let next := bindingAt before
    if binding < next || next = binding && binding = .assignment then
      let shape ← rules (.operators allowsRecord next shape)
      return if (← tokens).length < before.length then .more shape else .done shape
    else return .done shape) first

/-- Whether a range that excludes its end ends here. -/
def isRangeDoneAt (allowsRecord : Bool) (tokens : List Token) : Bool :=
  let marks := [",", ";", "?", "=>", "=", "+", "/", "%", "^", ">", "<=", "!=", "-=", "*=", "&=",
    "|=", "<<="]
  tokens.isEmpty || marks.any (Token.isMarkAt · tokens) ||
    Token.isMarkAt "." tokens && !Token.isMarkAt ".." tokens ||
    !allowsRecord && Token.isGroupAt .brace tokens || Token.isWordAt "as" tokens

/-- The marks of a range and what follows them. -/
def restOfRange (rules : Rules) (allowsRecord : Bool) : Reader Unit := do
  let isClosed ← rangeMarks
  if !isClosed && (← sees (isRangeDoneAt allowsRecord)) then pure ()
  else rightSide rules allowsRecord .range

/-- What follows a conversion and cannot. -/
def castFollowerAt? (tokens : List Token) : Option CastFollower :=
  if Token.isMarkAt "." tokens && !Token.isMarkAt ".." tokens then
    let rest := tokens.drop 1
    if Token.isWordAt "await" rest then some .await
    else if Token.isIdentifierAt rest &&
        (Token.isGroupAt .parenthesis (rest.drop 1) || Token.isMarkAt "::" (rest.drop 1)) then
      some .methodCall
    else some .fieldAccess
  else if Token.isMarkAt "?" tokens then some .questionMark
  else if Token.isGroupAt .bracket tokens then some .indexing
  else if Token.isGroupAt .parenthesis tokens then some .call
  else none

/-- The type that a value is converted to. -/
def castType (rules : Rules) : Reader Unit := do
  rules.take (.type false)
  match castFollowerAt? (← tokens) with
  | some follower => fail (.castFollowed follower (← atEnd))
  | none => pure ()

/-! ## The operators after an operand -/

/-- One operator with what follows it, unless it binds less than `least`. -/
def operatorStep (rules : Rules) (allowsRecord : Bool) (least : Binding) (left : Shape) :
    Reader (Progress Shape) := do
  let next ← tokens
  if left = .range then return .done left
  match operatorAt? next with
  | some (marks, binding) =>
    if binding < least then return .done left
    else if binding = .comparison && left = .comparison then fail .chainedComparison
    else
      takeMark marks
      rightSide rules allowsRecord binding
      return .more (if binding = .comparison then .comparison else .plain)
  | none =>
    let binding := bindingAt next
    if binding < least then return .done left
    match binding with
    | .assignment =>
      takeMark "="
      rightSide rules allowsRecord .assignment
      return .more .plain
    | .range =>
      restOfRange rules allowsRecord
      return .more .range
    | .cast =>
      takeWord "as"
      castType rules
      return .more .plain
    | _ => return .done left

/-- The operators after a first operand. -/
def operators (rules : Rules) (allowsRecord : Bool) (least : Binding) (left : Shape) :
    Reader Shape :=
  iterate (operatorStep rules allowsRecord least) left

end Grammar
end Sift
