import Sift.Tag.Grammar

/-!
# Paths with arguments

Paths in values can have arguments in angle brackets, and can begin with a type in angle brackets.
In an expression the arguments need two colons in front.
-/

set_option autoImplicit false
namespace Sift
namespace Grammar

open Reader

/-- What reading goes on by, of a path. -/
structure PathForm where
  /-- The path begins with a type in angle brackets. -/
  qualified : Bool
  /-- The path is one word without colons in front. -/
  isSingle : Bool
  /-- No word has arguments. -/
  isPlain : Bool
  /-- The last word has no arguments. -/
  endsPlain : Bool

/-! ## Arguments -/

/-- A number, a truth value or a block as an argument. -/
def constantArgument (rules : Rules) : Reader Unit := do
  if ← sees Token.isLiteralAt then goTo (Token.afterLiteral (← tokens))
  else rules.take .block

/-- Whether a constant argument comes next. -/
def isConstantAt (tokens : List Token) : Bool :=
  Token.isLiteralAt tokens || Token.isGroupAt .brace tokens

/-- Bounds with plus signs between them, up to a comma or a closing bracket. -/
def takeBounds (rules : Rules) : Reader Unit :=
  iterate (fun _ ↦ do
    if ← sees fun next ↦ Token.isMarkAt "," next || Token.isMarkAt ">" next then return .done ()
    else
      rules.take .bound
      return if ← takeMark? "+" then .more () else .done ()) ()

/-- A name that is bound in front of something: a word, a word after a single quote, or a
constant. -/
def parameter (rules : Rules) : Reader Unit := do
  rules.takeTags
  if ← sees Token.isIdentifierAt then
    skip 1
    if ← takeMark? ":" then takeBounds rules
    if ← takeMark? "=" then rules.take (.type true)
  else if ← takeLifetime? then
    if ← takeMark? ":" then
      iterate (fun _ ↦ do
        if ← takeLifetime? then
          return if ← takeMark? "+" then .more () else .done ()
        else return .done ()) ()
  else if ← takeWord? "const" then
    takeIdentifier
    takeMark ":"
    rules.take (.type true)
    if ← takeMark? "=" then constantArgument rules
  else missing [.identifier, .lifetime, .sign "const"]

/-- Entries in angle brackets with commas between them, after the opening bracket. -/
def inAngles (entry : Reader Unit) : Reader Unit := do
  iterate (fun _ ↦ do
    if ← sees (Token.isMarkAt ">") then return .done ()
    else
      entry
      if ← sees (Token.isMarkAt ">") then return .done ()
      else
        takeMark ","
        return .more ()) ()
  takeMark ">"

/-- Names in angle brackets after `for`. -/
def takeBinder? (rules : Rules) : Reader Bool := do
  let isNext ← takeWord? "for"
  if isNext then
    takeMark "<"
    inAngles (parameter rules)
  return isNext

/-- One argument in angle brackets: a constant, a type, or a name with what is said of it. -/
def argument (rules : Rules) : Reader Unit := do
  let next ← tokens
  if Token.isLifetimeAt next && !Token.isMarkAt "+" (next.drop 1) then skip 1
  else if isConstantAt next then constantArgument rules
  else if (← rules (.type true)) = .name then
    if ← takeMark? "=" then
      if ← sees isConstantAt then constantArgument rules else rules.take (.type true)
    else if ← takeMark? ":" then takeBounds rules

/-- Arguments in angle brackets. -/
def arguments (rules : Rules) : Reader Unit := do
  takeMark "<"
  inAngles (argument rules)

/-- The type after an arrow. -/
def takeResult (rules : Rules) : Reader Unit := do
  if ← takeMark? "->" then rules.take (.type false)

/-- The types in parentheses after a path, and perhaps an arrow. -/
def callArguments (rules : Rules) : Reader Unit := do
  let _ ← inside .parenthesis (separated (rules.take (.type true)))
  takeResult rules

/-- Whether types in parentheses come next. -/
def isCallAt (tokens : List Token) : Bool :=
  Token.isGroupAt .parenthesis tokens ||
    Token.isMarkAt "::" tokens && Token.isGroupAt .parenthesis (tokens.drop 2)

/-! ## Paths -/

/-- Whether arguments come next after a word. -/
def areArgumentsAt (inExpression : Bool) (tokens : List Token) : Bool :=
  !inExpression && Token.isMarkAt "<" tokens && !Token.isMarkAt "<=" tokens &&
      !Token.isMarkAt "<<=" tokens ||
    Token.isMarkAt "::" tokens && Token.isMarkAt "<" (tokens.drop 2)

/-- One word of a path; tells whether it has arguments. -/
def segment (rules : Rules) (inExpression : Bool) : Reader Bool := do
  let next ← tokens
  if Token.isAnyWordAt ["super", "self", "crate", "try"] next then
    skip 1
    return false
  else
    if Token.isWordAt "Self" next then skip 1 else takeIdentifier
    let hasArguments ← sees (areArgumentsAt inExpression)
    if hasArguments then
      let _ ← takeMark? "::"
      arguments rules
    return hasArguments

/-- Words after the first. -/
def segments (rules : Rules) (inExpression : Bool) (form : PathForm) :
    Reader PathForm :=
  iterate (fun form ↦ do
    let next ← tokens
    if Token.isMarkAt "::" next && !Token.isGroupAt .parenthesis (next.drop 2) then
      takeMark "::"
      let hasArguments ← segment rules inExpression
      return .more ⟨form.qualified, false, form.isPlain && !hasArguments, !hasArguments⟩
    else return .done form) form

/-- A path without a type in front. -/
def unqualifiedPath (rules : Rules) (inExpression : Bool) :
    Reader PathForm := do
  let leading ← takeMark? "::"
  let hasArguments ← segment rules inExpression
  segments rules inExpression ⟨false, !leading, !hasArguments, !hasArguments⟩

/-- A path in an expression, a pattern or a type. -/
def pathWith (rules : Rules) (inExpression : Bool) : Reader PathForm := do
  if ← takeMark? "<" then
    rules.take (.type true)
    if ← takeWord? "as" then
      let _ ← unqualifiedPath rules false
    takeMark ">"
    takeMark "::"
    let hasArguments ← segment rules inExpression
    iterate (fun form ↦ do
      if ← takeMark? "::" then
        let hasArguments ← segment rules inExpression
        return .more ⟨true, false, form.isPlain && !hasArguments, !hasArguments⟩
      else return .done form) ⟨true, false, !hasArguments, !hasArguments⟩
  else unqualifiedPath rules inExpression

/-! ## Bounds -/

/-- A path as a bound, with what can stand in front of it and after it. -/
def pathBound (rules : Rules) : Reader Unit := do
  let hasBinder ← takeBinder? rules
  if ← takeMark? "?" then
    if !hasBinder then
      let _ ← takeBinder? rules
  let form ← unqualifiedPath rules false
  if form.endsPlain && (← sees isCallAt) then
    let _ ← takeMark? "::"
    callArguments rules

/-- A bound: a word after a single quote, or a path, perhaps in parentheses. -/
def bound (rules : Rules) : Reader Shape := do
  if ← takeLifetime? then return .lifetime
  if ← sees (Token.isGroupAt .parenthesis) then inside .parenthesis (pathBound rules)
  else pathBound rules
  return .plain

end Grammar
end Sift
