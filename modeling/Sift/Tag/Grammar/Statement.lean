import Sift.Tag.Grammar.Expression

/-!
# Statements

A block holds statements with semicolons between them.  An expression that ends with its own block
needs none, and reading does not go on from its block to an operator.  Declarations are not looked
into: they end with a semicolon or with braces.
-/

set_option autoImplicit false
namespace Sift
namespace Grammar

open Reader

/-- An expression where a statement can stand. -/
def statementExpression (rules : Rules) : Reader Shape := do
  rules.takeTags
  if ← blockExpression? rules then
    let next ← tokens
    if Token.isMarkAt "." next && !Token.isMarkAt ".." next || Token.isMarkAt "?" next then
      let shape ← trailers rules .block
      rules (.operators true .loosest shape)
    else return .block
  else rules (.expression true)

/-! ## Kinds of statement -/

/-- Whether a declaration begins with a word that is always one. -/
def isDeclarationWordAt (tokens : List Token) : Bool :=
  Token.isAnyWordAt ["pub", "extern", "use", "fn", "mod", "type", "struct", "enum", "trait",
    "impl", "macro"] tokens

/-- Whether a declaration comes next. -/
def isDeclarationAt (tokens : List Token) : Bool :=
  let (second, third) := (tokens.drop 1, tokens.drop 2)
  let isWordBefore (first : String) (names : List String) :=
    Token.isWordAt first tokens && Token.isAnyWordAt names second
  let isFunctionAfter (tokens : List Token) :=
    Token.isAnyWordAt ["unsafe", "extern", "fn"] tokens
  let isConstant := !Token.isGroupAt .brace second &&
    !Token.isAnyWordAt ["static", "move"] second && !Token.isMarkAt "|" second &&
    !(Token.isWordAt "async" second && !isFunctionAfter third)
  isDeclarationWordAt tokens ||
    Token.isWordAt "crate" tokens && !Token.isMarkAt "::" second ||
    isWordBefore "static" ["mut"] ||
    Token.isWordAt "static" tokens && Token.isIdentifierAt second ||
    Token.isWordAt "const" tokens && isConstant ||
    Token.isWordAt "unsafe" tokens && !Token.isGroupAt .brace second ||
    Token.isWordAt "async" tokens && isFunctionAfter second ||
    Token.isWordAt "union" tokens && Token.isIdentifierAt second ||
    isWordBefore "auto" ["trait"] || isWordBefore "default" ["unsafe", "impl"]

/-- What follows a path without arguments. -/
def afterPath? : List Token → Option (List Token)
  | .mark ':' true :: .mark ':' _ :: .word name :: rest
  | .word name :: rest => if Token.isSegment name then some (afterWords rest) else none
  | _ => none
where
  afterWords : List Token → List Token
    | .mark ':' true :: .mark ':' _ :: .word _ :: rest => afterWords rest
    | rest => rest

/-- What follows a path and an exclamation mark that come next. -/
def afterCallMark? (tokens : List Token) : Option (List Token) := do
  let rest ← afterPath? tokens
  if Token.isMarkAt "!" rest then some (rest.drop 1) else none

/-- Whether words in braces after a path and an exclamation mark are a whole statement. -/
def isBracedCallAt (tokens : List Token) : Bool :=
  (afterCallMark? tokens).any fun rest ↦
    let after := rest.drop 1
    Token.isGroupAt .brace rest &&
      !(Token.isMarkAt "." after && !Token.isMarkAt ".." after || Token.isMarkAt "?" after)

/-- A declaration up to its semicolon or its braces. -/
def declaration : Reader Unit := do
  let isInside : Token → Bool
    | .group .brace _ => false
    | .mark symbol _ => symbol != ';'
    | _ => true
  match (← tokens).dropWhile isInside with
  | [] =>
    goTo []
    missing [.sign ";"]
  | _ :: rest => goTo rest

/-- A name for a value, with a block for when the value cannot be taken apart. -/
def localBinding (rules : Rules) : Reader Unit := do
  takeWord "let"
  rules.take .pattern
  if ← takeMark? ":" then rules.take (.type true)
  if ← takeMark? "=" then
    let before ← tokens
    rules.take (.expression true)
    let after ← tokens
    let last := before.drop (before.length - after.length - 1)
    if !Token.isGroupAt .brace last then
      if ← takeWord? "else" then rules.take .block
  takeMark ";"

/-- A statement; tells whether another one has to have a semicolon before it. -/
def statement (rules : Rules) : Reader Bool := do
  rules.takeTags
  let next ← tokens
  if isBracedCallAt next then
    goTo (((afterCallMark? next).getD []).drop 1)
    let _ ← takeMark? ";"
    return false
  else if Token.isWordAt "let" next then
    localBinding rules
    return false
  else if isDeclarationAt next || (afterCallMark? next).any Token.isIdentifierAt then
    declaration
    return false
  else
    let shape ← rules .statement
    let isEnded ← takeMark? ";"
    return !isEnded && shape != .block && shape != .bracedCall

/-- Statements in braces. -/
def block (rules : Rules) : Reader Unit :=
  inside .brace do
    rules.takeInnerTags
    iterate (fun _ ↦ do
      whileSeeing (Token.isMarkAt ";") (takeMark ";")
      if ← atEnd then return .done ()
      let needsSemicolon ← statement rules
      if ← atEnd then return .done ()
      if needsSemicolon then fail .missingSemicolon
      return .more ()) ()

end Grammar
end Sift
