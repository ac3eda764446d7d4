import Sift.Tag.SyntaxError

/-!
# Reading tokens in order

A `Reader` takes tokens off a stream.  Inside a group it sees only the tokens of that group
(`Reader.inside`).  Tokens that are left over at the end of a group do not stop the reading:
only when all else is well is the first such group a fault, so the stream keeps it in mind.

Repetition is `Reader.iterate`, which takes a step as long as the step asks for more.  A step that
took no token ends it, so the tokens bound the number of steps.
-/

set_option autoImplicit false
namespace Sift

/-- The tokens still to be read, and the first group that had tokens left over. -/
structure Stream where
  tokens : List Token
  stray : Option Delimiter

/-- What takes tokens off a stream and gives a value or a fault. -/
abbrev Reader (α : Type) := StateT Stream (Except SyntaxError) α

namespace Reader

/-! ## Looking -/

/-- The tokens that come next. -/
def tokens : Reader (List Token) := return (← get).tokens

/-- Whether a test holds of the tokens that come next. -/
def sees (test : List Token → Bool) : Reader Bool := return test (← tokens)

/-- Whether no token is left. -/
def atEnd : Reader Bool := sees List.isEmpty

/-! ## Faults -/

/-- Ends the reading with a fault. -/
def fail {α : Type} (error : SyntaxError) : Reader α := throw error

/-- One of some parts should come next. -/
def missing {α : Type} (parts : List ExpectedPart) : Reader α := do
  fail (.expected parts (← atEnd))

/-! ## Taking -/

/-- Goes on at other tokens. -/
def goTo (tokens : List Token) : Reader Unit := modify fun s ↦ { s with tokens }

/-- Takes so many tokens without looking at them. -/
def skip (count : Nat) : Reader Unit := do goTo ((← tokens).drop count)

/-- Takes some marks if they come next. -/
def takeMark? (marks : String) : Reader Bool := do
  match Token.afterMarks? marks.toList (← tokens) with
  | some rest => goTo rest; return true
  | none => return false

/-- Takes some marks.  The fault of a missing mark is the same at the end of the tokens. -/
def takeMark (marks : String) : Reader Unit := do
  if !(← takeMark? marks) then fail (.expected [.sign marks] false)

/-- Takes a word if it comes next. -/
def takeWord? (name : String) : Reader Bool := do
  let isNext ← sees (Token.isWordAt name)
  if isNext then skip 1
  return isNext

/-- Takes a word, which must come next. -/
def takeWord (name : String) : Reader Unit := do
  if !(← takeWord? name) then missing [.sign name]

/-- Takes a word that is no keyword. -/
def takeIdentifier : Reader Unit := do
  match ← tokens with
  | .word name :: rest => if Token.isKeyword name then fail (.keyword name) else goTo rest
  | _ => missing [.identifier]

/-- Takes a word after a single quote if it comes next. -/
def takeLifetime? : Reader Bool := do
  let isNext ← sees Token.isLifetimeAt
  if isNext then skip 1
  return isNext

/-- Takes a word after a single quote, which must come next. -/
def takeLifetime : Reader Unit := do
  if !(← takeLifetime?) then missing [.lifetime]

/-- Takes a group without looking into it. -/
def takeAnyGroup : Reader Unit := do
  if ← sees Token.isSomeGroupAt then skip 1 else missing [.anyGroup]

/-! ## Groups -/

/-- Reads the tokens inside a group. -/
def inside {α : Type} (delimiter : Delimiter) (content : Reader α) : Reader α := do
  match ← tokens with
  | .group other inner :: rest =>
    if other = delimiter then
      goTo inner
      let value ← content
      modify fun s ↦
        ⟨rest, s.stray <|> if s.tokens.isEmpty then none else some delimiter⟩
      return value
    else missing [.group delimiter]
  | _ => missing [.group delimiter]

/-! ## Repeating -/

/-- The outcome of a step: there is more to do, or it was the last. -/
inductive Progress (α : Type) where
  | more (value : α)
  | done (value : α)

/-- Repeats a step until it was the last, but at most so many times. -/
def iterateUpTo {α : Type} (step : α → Reader (Progress α)) : Nat → α → Reader α
  | 0, value => return value
  | bound + 1, value => do
    match ← step value with
    | .done value => return value
    | .more value => iterateUpTo step bound value

/-- Repeats a step until it was the last. -/
def iterate {α : Type} (step : α → Reader (Progress α)) (start : α) : Reader α := do
  iterateUpTo step ((← tokens).length + 1) start

/-- Repeats a reader while a test holds of the tokens that come next. -/
def whileSeeing (test : List Token → Bool) (content : Reader Unit) : Reader Unit :=
  iterate (fun _ ↦ do
    if ← sees test then
      content
      return .more ()
    else return .done ()) ()

/-- Reads up to the end of the tokens, with commas between the entries and perhaps after them. -/
def separated {α : Type} (entry : Reader α) : Reader (List α) := do
  let entries ← iterate (fun entries ↦ do
    if ← atEnd then return .done entries
    else
      let value ← entry
      if ← atEnd then return .done (value :: entries)
      else
        takeMark ","
        return .more (value :: entries)) []
  return entries.reverse

/-! ## Running -/

/-- Reads tokens to their end.  Where they stand in brackets the fault of what is left over names
the bracket that should have come. -/
def run {α : Type} (reader : Reader α) (within : Option Delimiter) (tokens : List Token) :
    Except SyntaxError α := do
  let (value, stream) ← StateT.run reader ⟨tokens, none⟩
  match stream.stray, stream.tokens with
  | some delimiter, _ => .error (.leftOver (some delimiter))
  | none, _ :: _ => .error (.leftOver within)
  | none, [] => .ok value

end Reader
end Sift
