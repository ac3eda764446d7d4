import Sift.Regex.Escape

/-!
# Parsing bracketed classes

A class in brackets holds characters, ranges, named classes and further brackets; `&&`, `--` and
`~~` between such lists intersect them, take one from the other or keep what is in just one, each
applied to all that stands to its left.

`ClassParser.parse` keeps a stack of what is open: a bracket, or an operator that waits for its
right side.
-/

set_option autoImplicit false
namespace Sift
namespace Regex
namespace ClassParser

/-- What is open around the items being read. -/
inductive Pending where
  /-- An open bracket and the items before it in the class around it, latest first. -/
  | bracket (negated : Bool) (before : List ClassSyntax)
  /-- An operator with its left side. -/
  | operator (operator : ClassOperator) (left : ClassSyntax)

/-- The items read so far, latest first, what is open around them, and the text left. -/
structure State where
  items : List ClassSyntax
  stack : List Pending
  rest : List Char

/-! ## Opening and closing -/

/-- Hyphens right after an opening bracket stand for themselves. -/
def leadingHyphens (ignoring : Bool) (items : List ClassSyntax) (text : List Char) :
    List ClassSyntax × List Char :=
  match text with
  | '-' :: rest => leadingHyphens ignoring (.code '-'.toNat :: items) (skip ignoring rest)
  | _ => (items, text)
termination_by text.length
decreasing_by exact Nat.lt_succ_of_le (length_skip_le ignoring rest)

/-- What follows an opening bracket: a negation, hyphens, or a closing bracket that stands for
itself. -/
def parseOpen (ignoring : Bool) (before : List ClassSyntax) (stack : List Pending)
    (text : List Char) : Option State :=
  let text := skip ignoring text
  let (negated, text) := match text with
    | '^' :: rest => (true, skip ignoring rest)
    | _ => (false, text)
  let (items, text) := leadingHyphens ignoring [] text
  match items, text with
  | _, [] => none
  | [], ']' :: rest =>
    match skip ignoring rest with
    | [] => none
    | rest => some ⟨[.code ']'.toNat], .bracket negated before :: stack, rest⟩
  | items, text => some ⟨items, .bracket negated before :: stack, text⟩

/-- Joins items to the left side of an operator that waits for them. -/
def joinOperator (right : ClassSyntax) : List Pending → ClassSyntax × List Pending
  | .operator operator left :: stack => (.operation operator left right, stack)
  | stack => (right, stack)

/-- The class of the items read so far. -/
def listed (items : List ClassSyntax) : ClassSyntax :=
  .ofItems items.reverse

/-- Makes all that stands to the left of an operator its left side. -/
def pushOperator (operator : ClassOperator) (s : State) (rest : List Char) : State :=
  let (left, stack) := joinOperator (listed s.items) s.stack
  ⟨[], .operator operator left :: stack, rest⟩

/-! ## Items -/

/-- The names of classes such as `[:alpha:]`. -/
def names : List String :=
  ["alnum", "alpha", "ascii", "blank", "cntrl", "digit", "graph", "lower", "print", "punct",
   "space", "upper", "word", "xdigit"]

/-- A named class after its opening bracket. -/
def parseNamed? (text : List Char) : Option (ClassSyntax × List Char) :=
  match text with
  | ':' :: rest =>
    let (negated, rest) := match rest with
      | '^' :: rest => (true, rest)
      | _ => (false, rest)
    let name := String.ofList (rest.takeWhile (· != ':'))
    match rest.dropWhile (· != ':') with
    | ':' :: ']' :: rest => if names.contains name then some (.named negated name, rest) else none
    | _ => none
  | _ => none

/-- An escape or a plain character. -/
def parsePrimitive (ignoring : Bool) : List Char → Option (Primitive × List Char)
  | [] => none
  | '\\' :: rest => parseEscape ignoring rest
  | c :: rest => some (.literal c.toNat false, rest)

/-- The item that one escape or one character stands for, unless it is an anchor. -/
def item? : Primitive → Option ClassSyntax
  | .literal code _ => some (.code code)
  | .letter negated kind => some (.letter negated kind)
  | .property negated name => some (.property negated name)
  | .anchor _ => none

/-- The character that decides whether a hyphen stands for itself: the next one.  Where blanks are
ignored they do not count, and of a comment only the sign that begins it does not. -/
def afterHyphen? (ignoring : Bool) (text : List Char) : Option Char :=
  let pastBlanks (text : List Char) := text.dropWhile Text.isWhiteSpace
  let decisive := match pastBlanks text with
    | '#' :: rest => pastBlanks rest
    | rest => rest
  if ignoring then decisive.head? <|> text.head? else text.head?

/-- Whether a hyphen begins the second half of a range: not before a closing bracket, and not as
the first half of a difference. -/
def beginsRange (ignoring : Bool) : List Char → Bool
  | '-' :: rest => (afterHyphen? ignoring rest).all fun c ↦ c != ']' && c != '-'
  | _ => false

/-- One item, or a range between two characters. -/
def parseItem (ignoring : Bool) (text : List Char) : Option (ClassSyntax × List Char) := do
  let (first, rest) ← parsePrimitive ignoring text
  let rest := skip ignoring rest
  if beginsRange ignoring rest then
    let (second, rest) ← parsePrimitive ignoring (skip ignoring (rest.drop 1))
    match first, second with
    | .literal low _, .literal high _ => if low ≤ high then some (.range low high, rest) else none
    | _, _ => none
  else
    let item ← item? first
    some (item, rest)

/-! ## The loop -/

/-- The outcome of one step: the class goes on, or it is closed. -/
inductive Progress where
  | more (state : State)
  | closed (negated : Bool) (inner : ClassSyntax) (rest : List Char)

/-- Closes the innermost bracket, which becomes an item of the class around it if there is one. -/
def closeBracket (s : State) (rest : List Char) : Option Progress :=
  let (inner, stack) := joinOperator (listed s.items) s.stack
  match stack with
  | [.bracket negated _] => some (.closed negated inner rest)
  | .bracket negated before :: stack =>
    some (.more ⟨.bracketed negated inner :: before, stack, rest⟩)
  | _ => none

/-- Reads one thing: a bracket, an operator or an item. -/
def step (ignoring : Bool) (s : State) : Option Progress :=
  match s.rest with
  | [] => none
  | '[' :: rest =>
    match parseNamed? rest with
    | some (item, rest) => some (.more { s with items := item :: s.items, rest })
    | none => (parseOpen ignoring s.items s.stack rest).map .more
  | ']' :: rest => closeBracket s rest
  | '&' :: '&' :: rest => some (.more (pushOperator .intersection s rest))
  | '-' :: '-' :: rest => some (.more (pushOperator .difference s rest))
  | '~' :: '~' :: rest => some (.more (pushOperator .symmetricDifference s rest))
  | text => do
    let (item, rest) ← parseItem ignoring text
    some (.more { s with items := item :: s.items, rest })

/-- Steps until the outermost bracket is closed.  A step that took no text ends the loop. -/
def run (ignoring : Bool) (s : State) : Option (Bool × ClassSyntax × List Char) :=
  let text := skip ignoring s.rest
  match step ignoring { s with rest := text } with
  | none => none
  | some (.closed negated inner rest) => some (negated, inner, rest)
  | some (.more next) =>
    if next.rest.length < s.rest.length then run ignoring next else none
termination_by s.rest.length

/-- A class after its opening bracket. -/
def parse (ignoring : Bool) (text : List Char) : Option (Bool × ClassSyntax × List Char) := do
  let state ← parseOpen ignoring [] [] text
  run ignoring state

end ClassParser
end Regex
end Sift
