import Sift.Tag.Grammar.Path

/-!
# Types

Types occur in values where something is converted, where a function without a name declares its
parameters, and as arguments in angle brackets.
-/

set_option autoImplicit false
namespace Sift
namespace Grammar

open Reader

/-! ## Bounds as types -/

/-- Whether another bound comes next after a plus sign. -/
def isBoundAt (allowsConstant : Bool) (tokens : List Token) : Bool :=
  Token.isSomeWordAt tokens || Token.isMarkAt "::" tokens || Token.isMarkAt "?" tokens ||
    Token.isLifetimeAt tokens || Token.isGroupAt .parenthesis tokens ||
    allowsConstant && Token.isGroupAt .bracket tokens

/-- Bounds with plus signs between them; tells whether one of them is a trait. -/
def bounds (rules : Rules) (allowsMore allowsConstant : Bool) : Reader Bool :=
  iterate (fun hasTrait ↦ do
    let hasTrait := (← rules .bound) != .lifetime || hasTrait
    if !allowsMore then return .done hasTrait
    if !(← takeMark? "+") then return .done hasTrait
    return if ← sees (isBoundAt allowsConstant) then .more hasTrait else .done hasTrait) false

/-- Bounds, one of which has to be a trait. -/
def traits (rules : Rules) (isObject allowsMore : Bool) : Reader Shape := do
  if ← bounds rules allowsMore (!isObject) then return .plain
  else fail (.traitMissing isObject)

/-- Bounds after each plus sign. -/
def furtherBounds (rules : Rules) : Reader Unit :=
  whileSeeing (Token.isMarkAt "+") do
    takeMark "+"
    rules.take .bound

/-! ## Functions -/

/-- A parameter of a function type, perhaps with a name. -/
def functionParameter (rules : Rules) : Reader Unit := do
  rules.takeTags
  let next ← tokens
  let isNamed := (Token.isIdentifierAt next || Token.isAnyWordAt ["_", "self"] next) &&
    Token.isMarkAt ":" (next.drop 1) && !Token.isMarkAt "::" (next.drop 1)
  if isNamed then skip 2
  if ← sees (Token.isMarkAt "...") then skip 3 else rules.take (.type true)

/-- A function type. -/
def functionType (rules : Rules) : Reader Unit := do
  let _ ← takeWord? "unsafe"
  if ← takeWord? "extern" then
    match ← tokens with
    | .text _ :: rest => goTo rest
    | _ => pure ()
  takeWord "fn"
  let _ ← inside .parenthesis (separated (functionParameter rules))
  takeResult rules

/-! ## Types -/

/-- A type in parentheses, or several with commas between them. -/
def parenthesizedType (rules : Rules) (allowsBounds : Bool) : Reader Shape := do
  let first ← inside .parenthesis do
    let next ← tokens
    if next.isEmpty then return .plain
    else if Token.isLifetimeAt next then
      let _ ← traits rules true true
      return .plain
    else if Token.isMarkAt "?" next then
      rules.take .bound
      return .path
    else
      let shape ← rules (.type true)
      if ← sees (Token.isMarkAt ",") then
        takeMark ","
        let _ ← separated (rules.take (.type true))
        return .plain
      else return shape
  if allowsBounds && (first = .name || first = .path) then furtherBounds rules
  return .plain

/-- A path as a type, with what can follow it. -/
def pathType (rules : Rules) (allowsBounds isBound : Bool) : Reader Shape := do
  let form ← pathWith rules false
  let isCall := form.endsPlain && (← sees isCallAt)
  if isCall then
    let _ ← takeMark? "::"
    callArguments rules
  if form.qualified then return .plain
  let next ← tokens
  if form.isPlain && !isCall && Token.isMarkAt "!" next && !Token.isMarkAt "!=" next then
    takeMark "!"
    takeAnyGroup
    return .plain
  let hasMore := allowsBounds && Token.isMarkAt "+" next
  if hasMore then
    takeMark "+"
    if ← sees (isBoundAt false) then
      let _ ← bounds rules true false
  if isBound || hasMore then return .plain
  return if form.isSingle && !isCall then .name else .path

/-- Whether a path comes next as a type. -/
def isPathTypeAt (tokens : List Token) : Bool :=
  Token.isIdentifierAt tokens || Token.isAnyWordAt ["super", "self", "Self", "crate"] tokens ||
    Token.isMarkAt "::" tokens || Token.isMarkAt "<" tokens

/-- What a type can begin with. -/
def typeBeginnings : List ExpectedPart :=
  [.sign "for", .group .parenthesis, .sign "fn", .sign "unsafe", .sign "extern", .identifier,
   .sign "::", .sign "<", .sign "dyn", .group .bracket, .sign "*", .sign "&", .sign "!",
   .sign "impl", .sign "_", .lifetime]

/-- What a type can begin with after names are bound. -/
def boundBeginnings : List ExpectedPart :=
  [.identifier, .sign "fn", .sign "unsafe", .sign "extern", .sign "super", .sign "self",
   .sign "Self", .sign "crate"]

/-- A type. -/
def type (rules : Rules) (allowsBounds : Bool) : Reader Shape := do
  let isBound ← takeBinder? rules
  let next ← tokens
  let isFunction := Token.isAnyWordAt ["fn", "unsafe", "extern"] next
  if isBound && !isFunction && !Token.isIdentifierAt next &&
      !Token.isAnyWordAt ["super", "self", "Self", "crate"] next then
    missing boundBeginnings
  else if Token.isGroupAt .parenthesis next then parenthesizedType rules allowsBounds
  else if isFunction then
    functionType rules
    return .plain
  else if isPathTypeAt next then pathType rules allowsBounds isBound
  else if ← takeWord? "dyn" then
    let _ ← takeMark? "*"
    traits rules true allowsBounds
  else if Token.isGroupAt .bracket next then
    inside .bracket do
      rules.take (.type true)
      if ← takeMark? ";" then rules.take (.expression true)
    return .plain
  else if ← takeMark? "*" then
    if ← takeWord? "const" then pure ()
    else if ← takeWord? "mut" then pure ()
    else missing [.sign "const", .sign "mut"]
    rules.take (.type false)
    return .plain
  else if ← takeMark? "&" then
    let _ ← takeLifetime?
    let _ ← takeWord? "mut"
    rules.take (.type false)
    return .plain
  else if Token.isMarkAt "!" next && !Token.isMarkAt "=" next then
    takeMark "!"
    return .plain
  else if ← takeWord? "impl" then traits rules false allowsBounds
  else if ← takeWord? "_" then return .plain
  else if Token.isLifetimeAt next then traits rules true true
  else missing typeBeginnings

end Grammar
end Sift
