import Sift.Tag.Grammar.Path

/-!
# Patterns

Patterns occur in values where an expression takes another one apart: in the branches of a match,
in conditions, and as the parameters of a function without a name.
-/

set_option autoImplicit false
namespace Sift
namespace Grammar

open Reader

/-! ## Members -/

/-- Takes a whole number that says which member is meant. -/
def takeIndex : Reader Unit := do
  match ← tokens with
  | .integer value suffix :: rest =>
    if suffix != "" then missing [.unsuffixedInteger]
    else if UInt32.size ≤ value then fail .numberTooLarge
    else goTo rest
  | _ => missing [.integer]

/-- A member by its name or its number; tells whether it is a name. -/
def member : Reader Bool := do
  let next ← tokens
  match next with
  | .integer .. :: _ =>
    takeIndex
    return false
  | _ =>
    if Token.isIdentifierAt next then
      skip 1
      return true
    else missing [.member]

/-! ## Ranges -/

/-- The marks of a range between expressions; tells whether the range includes its end. -/
def rangeMarks : Reader Bool := do
  if ← takeMark? "..=" then return true
  else if ← sees (Token.isMarkAt "...") then missing [.sign "..", .sign "..="]
  else
    takeMark ".."
    return false

/-- The marks of a range between the bounds of a pattern. -/
def boundMarks : Reader Bool := do
  if ← takeMark? "..=" then return true
  else if ← takeMark? "..." then return true
  else
    takeMark ".."
    return false

/-- What a bound may begin with, as a fault lists it. -/
def rangeBoundBeginnings : List ExpectedPart :=
  [.literal, .identifier, .sign "::", .sign "<", .sign "self", .sign "Self", .sign "super",
   .sign "crate", .sign "const"]

/-- Whether what comes next cannot be a bound. -/
def isRangeOpenAt (tokens : List Token) : Bool :=
  tokens.isEmpty || Token.isMarkAt "|" tokens || Token.isMarkAt "=" tokens ||
    Token.isMarkAt ":" tokens && !Token.isMarkAt "::" tokens || Token.isMarkAt "," tokens ||
    Token.isMarkAt ";" tokens || Token.isWordAt "if" tokens

/-- A bound of a range; tells whether there is one. -/
def rangeBound (rules : Rules) : Reader Bool := do
  let next ← tokens
  if isRangeOpenAt next then return false
  if Token.isLiteralAt next then goTo (Token.afterLiteral next)
  else if Token.isIdentifierAt next || Token.isMarkAt "::" next || Token.isMarkAt "<" next ||
      Token.isAnyWordAt ["self", "Self", "super", "crate"] next then
    let _ ← pathWith rules true
  else if ← takeWord? "const" then rules.take .block
  else missing rangeBoundBeginnings
  return true

/-- The end of a range whose marks are read; a range that includes its end has one. -/
def rangeEnd (rules : Rules) (isClosed : Bool) : Reader Bool := do
  let hasEnd ← rangeBound rules
  if isClosed && !hasEnd then missing [.rangeEnd] else return hasEnd

/-- A range from a bound that is read. -/
def rangeFromBound (rules : Rules) : Reader Shape := do
  let hasEnd ← rangeEnd rules (← boundMarks)
  return if hasEnd then .plain else .openRange

/-! ## Patterns -/

/-- The entries of a pattern in brackets. -/
def entries (rules : Rules) : Reader Unit := do
  let _ ← separated (rules.take .patterns)

/-- A member of a record pattern. -/
def memberPattern (rules : Rules) : Reader Unit := do
  let isBoxed ← takeWord? "box"
  let isReferred ← takeWord? "ref"
  let isMutable ← takeWord? "mut"
  if isBoxed || isReferred || isMutable then takeIdentifier
  else
    let isName ← member
    if !isName || (← sees (Token.isMarkAt ":")) then
      takeMark ":"
      rules.take .patterns

/-- Members with commas between them; two points stand for all others and end them. -/
def memberPatterns (rules : Rules) : Reader Unit :=
  iterate (fun _ ↦ do
    if ← atEnd then return .done ()
    rules.takeTags
    if ← takeMark? ".." then return .done ()
    memberPattern rules
    if ← atEnd then return .done ()
    takeMark ","
    return .more ()) ()

/-- A pattern that begins with a path. -/
def pathPattern (rules : Rules) : Reader Shape := do
  let form ← pathWith rules true
  let next ← tokens
  if !form.qualified && form.isPlain && Token.isMarkAt "!" next && !Token.isMarkAt "!=" next then
    takeMark "!"
    takeAnyGroup
    return .plain
  else if Token.isGroupAt .brace next then
    inside .brace (memberPatterns rules)
    return .plain
  else if Token.isGroupAt .parenthesis next then
    inside .parenthesis (entries rules)
    return .plain
  else if Token.isMarkAt ".." next then rangeFromBound rules
  else return .plain

/-- A name that what is matched is given, and perhaps what it has to match. -/
def namePattern (rules : Rules) : Reader Unit := do
  let _ ← takeWord? "ref"
  let _ ← takeWord? "mut"
  if !(← takeWord? "self") then takeIdentifier
  if ← takeMark? "@" then rules.take .pattern

/-- Whether a path comes next as a pattern: a name only with something after it. -/
def isPathPatternAt (tokens : List Token) : Bool :=
  let rest := tokens.drop 1
  Token.isIdentifierAt tokens &&
      (Token.isMarkAt "::" rest || Token.isMarkAt "!" rest || Token.isGroupAt .brace rest ||
        Token.isGroupAt .parenthesis rest || Token.isMarkAt ".." rest) ||
    Token.isWordAt "self" tokens && Token.isMarkAt "::" rest ||
    Token.isMarkAt "::" tokens || Token.isMarkAt "<" tokens ||
    Token.isAnyWordAt ["Self", "super", "crate"] tokens

/-- What a pattern can begin with. -/
def patternBeginnings : List ExpectedPart :=
  [.identifier, .sign "::", .sign "<", .sign "_", .literal, .sign "const", .sign "ref",
   .sign "mut", .sign "&", .group .parenthesis, .group .bracket, .sign "..", .sign "const"]

/-- A pattern. -/
def pattern (rules : Rules) : Reader Shape := do
  let next ← tokens
  if isPathPatternAt next then pathPattern rules
  else if ← takeWord? "_" then return .plain
  else if ← takeWord? "box" then
    rules.take .pattern
    return .plain
  else if Token.isMarkAt "-" next || Token.isLiteralAt next || Token.isWordAt "const" next then
    let _ ← rangeBound rules
    if ← sees (Token.isMarkAt "..") then rangeFromBound rules else return .plain
  else if Token.isIdentifierAt next || Token.isAnyWordAt ["ref", "mut", "self"] next then
    namePattern rules
    return .plain
  else if ← takeMark? "&" then
    let _ ← takeWord? "mut"
    rules.take .pattern
    return .plain
  else if Token.isGroupAt .parenthesis next then
    inside .parenthesis (entries rules)
    return .plain
  else if Token.isGroupAt .bracket next then
    let _ ← inside .bracket <| separated do
      if (← rules .patterns) = .openRange then fail .openRangeInSlice
    return .plain
  else if Token.isMarkAt ".." next && !Token.isMarkAt "..." next then
    let hasEnd ← rangeEnd rules (← rangeMarks)
    return if hasEnd then .openRange else .plain
  else missing patternBeginnings

/-- Whether a bar between patterns comes next. -/
def isBarAt (tokens : List Token) : Bool :=
  Token.isMarkAt "|" tokens && !Token.isMarkAt "||" tokens && !Token.isMarkAt "|=" tokens

/-- Patterns with bars between them and perhaps in front. -/
def patterns (rules : Rules) : Reader Shape := do
  let leading ← takeMark? "|"
  let first ← rules .pattern
  if leading || (← sees isBarAt) then
    whileSeeing isBarAt do
      takeMark "|"
      rules.take .pattern
    return .plain
  else return first

end Grammar
end Sift
