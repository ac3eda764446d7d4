import Sift.Number.Decimal
import Sift.Tag.Grammar.Operator

/-!
# Operands

An operand is an atom with signs in front of it and trailers after it: arguments, members, indices
and question marks.  Atoms are literals, paths, groups, functions without a name, and the
expressions that begin with a word of their own.
-/

set_option autoImplicit false
namespace Sift
namespace Grammar

open Reader

/-! ## Parts of expressions -/

/-- Expressions with commas between them. -/
def expressions (rules : Rules) : Reader Unit := do
  let _ ← separated (rules.take (.expression true))

/-- Whether an expression comes next. -/
def isExpressionAt (tokens : List Token) : Bool :=
  let begins (marks : String) (others : List String) :=
    Token.isMarkAt marks tokens && !others.any (Token.isMarkAt · tokens)
  Token.isSomeWordAt tokens && !Token.isWordAt "as" tokens || Token.isSomeGroupAt tokens ||
    Token.isLiteralAt tokens || begins "!" ["!="] || begins "-" ["-=", "->"] ||
    begins "*" ["*="] || begins "|" ["|="] || begins "&" ["&="] || begins ".." [] ||
    begins "<" ["<=", "<<="] || begins "::" [] || Token.isLifetimeAt tokens || begins "#" []

/-- An expression, if one comes next. -/
def takeExpression? (rules : Rules) : Reader Unit := do
  if ← sees isExpressionAt then rules.take (.expression true)

/-! ## Trailers -/

/-- Members that are written with points between them so that they look like a number; tells
whether another member has to follow. -/
def memberNumber (spelling : String) : Reader Bool := do
  let parts := spelling.toList.splitOn '.'
  let isOpen := parts.getLast? = some []
  let parts := if isOpen then parts.dropLast else parts
  parts.forM fun part ↦ do
    let digits := part.takeWhile fun c ↦ c.isDigit || c == '_'
    let suffix := part.drop digits.length
    let value := Decimal.valueOfDigits (digits.filter Char.isDigit)
    match suffix with
    | [] => if UInt32.size ≤ value then fail .numberTooLarge
    | c :: _ =>
      fail (.expected [if c == 'e' || c == 'E' then .integer else .unsuffixedInteger] false)
  return isOpen

/-- A member after its point, with its arguments if it has any. -/
def namedMember (rules : Rules) : Reader Unit := do
  if ← takeWord? "await" then return
  let isName ← member
  let hasArguments := isName && (← sees (Token.isMarkAt "::"))
  if hasArguments then
    takeMark "::"
    arguments rules
  if hasArguments || isName && (← sees (Token.isGroupAt .parenthesis)) then
    inside .parenthesis (expressions rules)

/-- A member after its point. -/
def memberTrailer (rules : Rules) : Reader Unit := do
  match ← tokens with
  | .float spelling :: rest =>
    let isOpen ← memberNumber spelling
    goTo rest
    if isOpen then namedMember rules
  | _ => namedMember rules

/-- What follows an operand and belongs to it. -/
def trailers (rules : Rules) (shape : Shape) : Reader Shape :=
  iterate (fun shape ↦ do
    let next ← tokens
    if Token.isGroupAt .parenthesis next then
      inside .parenthesis (expressions rules)
      return .more .plain
    else if shape != .range && Token.isMarkAt "." next && !Token.isMarkAt ".." next then
      takeMark "."
      memberTrailer rules
      return .more .plain
    else if Token.isGroupAt .bracket next then
      inside .bracket (rules.take (.expression true))
      return .more .plain
    else if shape != .range && Token.isMarkAt "?" next then
      takeMark "?"
      return .more .plain
    else return .done shape) shape

/-! ## Atoms in brackets -/

/-- A member of a record with its value. -/
def memberValue (rules : Rules) : Reader Unit := do
  rules.takeTags
  let isName ← member
  if !isName || (← sees (Token.isMarkAt ":")) then
    takeMark ":"
    rules.take (.expression true)

/-- Members with commas between them; two points and a record end them. -/
def memberValues (rules : Rules) : Reader Unit :=
  iterate (fun _ ↦ do
    if ← atEnd then return .done ()
    if ← takeMark? ".." then
      if !(← atEnd) then rules.take (.expression true)
      return .done ()
    memberValue rules
    if ← atEnd then return .done ()
    takeMark ","
    return .more ()) ()

/-- Entries in square brackets: with commas between them, or one with a count. -/
def arrayEntries (rules : Rules) : Reader Unit := do
  if ← atEnd then return
  rules.take (.expression true)
  if ← atEnd then return
  if ← takeMark? "," then expressions rules
  else if ← takeMark? ";" then rules.take (.expression true)
  else missing [.sign ",", .sign ";"]

/-- A path, with words in any brackets after an exclamation mark, or a record. -/
def pathExpression (rules : Rules) (allowsRecord : Bool) : Reader Shape := do
  let form ← pathWith rules true
  let next ← tokens
  if !form.qualified && form.isPlain && Token.isMarkAt "!" next && !Token.isMarkAt "!=" next then
    takeMark "!"
    let isBraced ← sees (Token.isGroupAt .brace)
    takeAnyGroup
    return if isBraced then .bracedCall else .plain
  else if allowsRecord && Token.isGroupAt .brace next then
    inside .brace (memberValues rules)
    return .plain
  else return .plain

/-! ## Functions without a name -/

/-- Whether a function without a name comes next. -/
def isFunctionAt (tokens : List Token) : Bool :=
  let (second, third) := (tokens.drop 1, tokens.drop 2)
  Token.isMarkAt "|" tokens || Token.isWordAt "move" tokens ||
    Token.isWordAt "for" tokens && Token.isMarkAt "<" second &&
      (Token.isLifetimeAt third || Token.isMarkAt ">" third) ||
    Token.isWordAt "const" tokens && !Token.isGroupAt .brace second ||
    Token.isWordAt "static" tokens ||
    Token.isWordAt "async" tokens && (Token.isMarkAt "|" second || Token.isWordAt "move" second)

/-- A parameter, perhaps with its type. -/
def functionPattern (rules : Rules) : Reader Unit := do
  rules.takeTags
  rules.take .pattern
  if ← takeMark? ":" then rules.take (.type true)

/-- Parameters between bars, and an expression, or an arrow, a type and a block. -/
def function (rules : Rules) (allowsRecord : Bool) : Reader Unit := do
  let _ ← takeBinder? rules
  let _ ← takeWord? "const"
  let _ ← takeWord? "static"
  let _ ← takeWord? "async"
  let _ ← takeWord? "move"
  takeMark "|"
  iterate (fun _ ↦ do
    if ← sees (Token.isMarkAt "|") then return .done ()
    functionPattern rules
    if ← sees (Token.isMarkAt "|") then return .done ()
    takeMark ","
    return .more ()) ()
  takeMark "|"
  if ← takeMark? "->" then
    rules.take (.type true)
    rules.take .block
  else rules.take (.expression allowsRecord)

/-! ## Expressions with a word of their own -/

/-- A condition and a block, with further ones after `else`. -/
def conditional (rules : Rules) : Reader Unit :=
  iterate (fun _ ↦ do
    takeWord "if"
    rules.take (.expression false)
    rules.take .block
    if ← takeWord? "else" then
      if ← sees (Token.isWordAt "if") then return .more ()
      else if ← sees (Token.isGroupAt .brace) then
        rules.take .block
        return .done ()
      else missing [.sign "if", .group .brace]
    else return .done ()) ()

/-- A branch of a match; only after a block it needs no comma. -/
def matchBranch (rules : Rules) : Reader Unit := do
  rules.takeTags
  rules.take .patterns
  if ← takeWord? "if" then rules.take (.expression true)
  takeMark "=>"
  let shape ← rules .statement
  if shape = .block || (← atEnd) then
    let _ ← takeMark? ","
  else takeMark ","

/-- A choice by patterns, with its branches. -/
def matchExpression (rules : Rules) : Reader Unit := do
  takeWord "match"
  rules.take (.expression false)
  inside .brace do
    rules.takeInnerTags
    whileSeeing (!·.isEmpty) (matchBranch rules)

/-- Whether a loop over a sequence comes next, and no function with names bound in front. -/
def isForAt (tokens : List Token) : Bool :=
  let (second, third) := (tokens.drop 1, tokens.drop 2)
  Token.isWordAt "for" tokens &&
    !(Token.isMarkAt "<" second && (Token.isLifetimeAt third || Token.isMarkAt ">" third))

/-- A loop under a condition, over a sequence, or without end. -/
def loop (rules : Rules) : Reader Unit := do
  if ← takeWord? "while" then rules.take (.expression false)
  else if ← takeWord? "for" then
    rules.take .patterns
    takeWord "in"
    rules.take (.expression false)
  else takeWord "loop"
  rules.take .block

/-- A loop or a block with a label in front. -/
def labelled (rules : Rules) : Reader Unit := do
  takeLifetime
  takeMark ":"
  let next ← tokens
  if Token.isAnyWordAt ["while", "for", "loop"] next then loop rules
  else if Token.isGroupAt .brace next then rules.take .block
  else missing [.loopOrBlock]

/-- Leaving a loop, perhaps with a label and a value. -/
def leaving (rules : Rules) (allowsRecord : Bool) : Reader Unit := do
  let next ← tokens
  if Token.isLifetimeAt next && Token.isMarkAt ":" (next.drop 1) then
    rules.take (.expression true)
    fail .unparenthesizedLabel
  let _ ← takeLifetime?
  let next ← tokens
  if isExpressionAt next && (allowsRecord || !Token.isGroupAt .brace next) then
    rules.take (.expression true)

/-- What an expression must equal to be taken apart, in a condition. -/
def binding (rules : Rules) (allowsRecord : Bool) : Reader Unit := do
  rules.take .patterns
  takeMark "="
  let shape ← rules (.operand allowsRecord)
  rules.take (.operators allowsRecord .comparison shape)

/-- An expression that ends with the block it has, so that it can be a statement. -/
def blockExpression? (rules : Rules) : Reader Bool := do
  let next ← tokens
  let isBraceNext := Token.isGroupAt .brace (next.drop 1)
  if Token.isWordAt "if" next then conditional rules
  else if Token.isAnyWordAt ["while", "loop"] next || isForAt next then loop rules
  else if Token.isWordAt "match" next then matchExpression rules
  else if Token.isWordAt "unsafe" next ||
      Token.isAnyWordAt ["try", "const"] next && isBraceNext then
    skip 1
    rules.take .block
  else if Token.isGroupAt .brace next then rules.take .block
  else if Token.isLifetimeAt next then labelled rules
  else return false
  return true

/-! ## Operands -/

/-- Whether a path comes next as an expression. -/
def isPathAt (tokens : List Token) : Bool :=
  let rest := tokens.drop 1
  Token.isIdentifierAt tokens || Token.isMarkAt "::" tokens || Token.isMarkAt "<" tokens ||
    Token.isAnyWordAt ["self", "Self", "super", "crate"] tokens ||
    Token.isWordAt "try" tokens && (Token.isMarkAt "!" rest || Token.isMarkAt "::" rest)

/-- An operand without signs and trailers. -/
def atom (rules : Rules) (allowsRecord : Bool) : Reader Shape := do
  let next ← tokens
  let (second, third) := (next.drop 1, next.drop 2)
  if Token.isLiteralAt next then goTo (Token.afterLiteral next)
  else if Token.isWordAt "async" next && (Token.isGroupAt .brace second ||
      Token.isWordAt "move" second && Token.isGroupAt .brace third) then
    skip 1
    let _ ← takeWord? "move"
    rules.take .block
  else if isFunctionAt next then function rules allowsRecord
  else if Token.isWordAt "builtin" next && Token.isMarkAt "#" second then
    skip 2
    takeIdentifier
    inside .parenthesis (goTo [])
  else if isPathAt next then return ← pathExpression rules allowsRecord
  else if Token.isGroupAt .parenthesis next then inside .parenthesis (expressions rules)
  else if ← takeWord? "break" then leaving rules allowsRecord
  else if ← takeWord? "continue" then
    let _ ← takeLifetime?
  else if Token.isAnyWordAt ["return", "yield"] next then
    skip 1
    takeExpression? rules
  else if ← takeWord? "become" then rules.take (.expression true)
  else if Token.isGroupAt .bracket next then inside .bracket (arrayEntries rules)
  else if ← takeWord? "let" then binding rules allowsRecord
  else if ← blockExpression? rules then return .block
  else if Token.isMarkAt ".." next then
    restOfRange rules allowsRecord
    return .range
  else if ← takeWord? "_" then return .plain
  else missing [.expression]
  return .plain

/-- An operand. -/
def operand (rules : Rules) (allowsRecord : Bool) : Reader Shape := do
  let isTagged ← sees (Token.isMarkAt "#")
  rules.takeTags
  let next ← tokens
  if ← takeMark? "&" then
    let rest := next.drop 2
    if Token.isWordAt "raw" (next.drop 1) && Token.isAnyWordAt ["mut", "const"] rest then skip 2
    else
      let _ ← takeWord? "mut"
    rules.take (.operand allowsRecord)
    return .plain
  else if ["*", "!", "-"].any (Token.isMarkAt · next) then
    skip 1
    rules.take (.operand allowsRecord)
    return .plain
  else
    let shape ← trailers rules (← atom rules allowsRecord)
    if isTagged && shape = .range then fail .tagOnRange
    return shape

/-- An expression. -/
def expression (rules : Rules) (allowsRecord : Bool) : Reader Shape := do
  let shape ← rules (.operand allowsRecord)
  rules (.operators allowsRecord .loosest shape)

end Grammar
end Sift
