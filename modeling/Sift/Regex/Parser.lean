import Sift.Number.Decimal
import Sift.Regex.ClassParser

/-!
# Parsing patterns

`Syntax.parse?` reads a whole pattern.  The parser keeps a stack of open groups, each with the
branches and the sequence it has so far; `PatternParser.step` reads one thing at a time — a
group's beginning or end, a bar, a class, a repetition of what stands before it, an escape or a
character — and `PatternParser.run` repeats that until the text is used up.
-/

set_option autoImplicit false
namespace Sift
namespace Regex
namespace PatternParser

/-- The branches of a group so far and the sequence being read, both latest first. -/
structure Open where
  branches : List Syntax
  parts : List Syntax

namespace Open

/-- A group right after its beginning. -/
def start : Open := ⟨[], []⟩

/-- Adds a part to the sequence being read. -/
def push (o : Open) (part : Syntax) : Open :=
  { o with parts := part :: o.parts }

/-- Ends the sequence at a bar. -/
def nextBranch (o : Open) : Open :=
  ⟨.ofParts o.parts.reverse :: o.branches, []⟩

/-- What a group holds once it is closed. -/
def close (o : Open) : Syntax :=
  .ofBranches o.nextBranch.branches.reverse

end Open

/-- A group that is open: what stands around it, its flags, and whether blanks were ignored. -/
structure OpenGroup where
  outer : Open
  captures : Bool
  change : FlagChange
  wasIgnoring : Bool

/-- The innermost group, the groups around it, whether blanks are ignored, the names given so far,
and the text left. -/
structure State where
  current : Open
  stack : List OpenGroup
  ignoring : Bool
  names : List String
  rest : List Char

/-! ## Flags -/

/-- The flag that a letter stands for. -/
def flag? : Char → Option Flag
  | 'i' => some .caseInsensitive
  | 'm' => some .multiLine
  | 's' => some .dotMatchesNewline
  | 'U' => some .swapGreed
  | 'u' => some .unicode
  | 'R' => some .crlf
  | 'x' => some .ignoreWhitespace
  | _ => none

/-- Flags up to a colon or a closing parenthesis, with what ends them.  A flag may stand once, and
so may the hyphen, which needs a flag after it. -/
def parseFlags (change : FlagChange) (turnsOn : Bool) (afterHyphen : Bool) :
    List Char → Option (FlagChange × Char × List Char)
  | [] => none
  | c :: rest =>
    if c = ':' ∨ c = ')' then
      if afterHyphen then none else some (change, c, rest)
    else if c = '-' then
      if turnsOn then parseFlags change false true rest else none
    else
      match flag? c with
      | none => none
      | some flag =>
        if change.any (·.1 == flag) then none
        else parseFlags (change ++ [(flag, turnsOn)]) turnsOn false rest

/-- What a setting says about ignoring blanks, or what held before it. -/
def ignoringAfter (change : FlagChange) (ignoring : Bool) : Bool :=
  ((change.find? (·.1 == .ignoreWhitespace)).map (·.2)).getD ignoring

/-! ## Groups -/

/-- Whether a character may start the name of a group. -/
def isNameStart (c : Char) : Bool :=
  c == '_' || Text.isAlphabetic c

/-- Whether a character may follow in the name of a group. -/
def isNameChar (c : Char) : Bool :=
  c == '_' || c == '.' || c == '[' || c == ']' || Text.isAlphanumeric c

/-- Whether a text may be the name of a group. -/
def isGroupName : List Char → Bool
  | [] => false
  | c :: rest => isNameStart c && rest.all isNameChar

/-- Whether a group looks ahead or behind. -/
def isLookAround : List Char → Bool
  | '?' :: '=' :: _ | '?' :: '!' :: _ | '?' :: '<' :: '=' :: _ | '?' :: '<' :: '!' :: _ => true
  | _ => false

/-- The text after `?P<` or `?<`, where a group's name begins. -/
def nameText? : List Char → Option (List Char)
  | '?' :: 'P' :: '<' :: rest | '?' :: '<' :: rest => some rest
  | _ => none

/-- Opens a group with the flags it sets. -/
def openGroup (s : State) (captures : Bool) (change : FlagChange) (rest : List Char) : State :=
  { s with
    current := .start
    stack := ⟨s.current, captures, change, s.ignoring⟩ :: s.stack
    ignoring := ignoringAfter change s.ignoring
    rest }

/-- A group after its opening parenthesis: named, with flags, only a setting of flags, or plain.
Looking around is refused, and so is a name given twice. -/
def parseGroup (s : State) (text : List Char) : Option State :=
  let text := skip s.ignoring text
  if isLookAround text then none
  else match nameText? text, text with
    | some rest, _ =>
      let name := rest.takeWhile (· != '>')
      match rest.dropWhile (· != '>') with
      | [] => none
      | _ :: left =>
        let key := String.ofList name
        if isGroupName name && !s.names.contains key then
          some { openGroup s true [] left with names := key :: s.names }
        else none
    | none, '?' :: rest => do
      let (change, ending, left) ← parseFlags [] true false rest
      if ending = ':' then some (openGroup s false change left)
      else if change.isEmpty then none
      else some { s with
        current := s.current.push (.setFlags change)
        ignoring := ignoringAfter change s.ignoring
        rest := left }
    | none, rest => some (openGroup s true [] rest)

/-- Closes the innermost group, which becomes a part of the group around it. -/
def closeGroup (s : State) (rest : List Char) : Option State :=
  match s.stack with
  | [] => none
  | group :: stack =>
    some { s with
      current := group.outer.push (.group group.captures group.change s.current.close)
      stack
      ignoring := group.wasIgnoring
      rest }

/-! ## Repetitions -/

/-- The part that a repetition applies to. -/
def operand? (s : State) : Option (Syntax × Open) :=
  match s.current.parts with
  | [] | .empty :: _ | .setFlags _ :: _ => none
  | part :: parts => some (part, { s.current with parts })

/-- A question mark after a repetition, which makes it lazy. -/
def skipLazy : List Char → List Char
  | '?' :: rest => rest
  | rest => rest

/-- Repeats the part that was read last. -/
def repeatLast (s : State) (least : Nat) (most : Option Nat) (rest : List Char) : Option State := do
  let (part, current) ← operand? s
  some { s with current := current.push (.repetition part least most), rest }

/-- Digits, with what is ignored after each left out, and what follows them. -/
def takeDigits (ignoring : Bool) (text : List Char) : List Char × List Char :=
  match text with
  | [] => ([], [])
  | c :: rest =>
    if c.isDigit then
      let (digits, left) := takeDigits ignoring (skip ignoring rest)
      (c :: digits, left)
    else ([], text)
termination_by text.length
decreasing_by exact Nat.lt_succ_of_le (length_skip_le ignoring rest)

/-- Counts are written in decimal with blanks around them and fit 32 bits. -/
def parseCount (ignoring : Bool) (text : List Char) : Option (Nat × List Char) :=
  let (digits, rest) := takeDigits ignoring (text.dropWhile Text.isWhiteSpace)
  let value := Decimal.valueOfDigits digits
  if digits.isEmpty || UInt32.size ≤ value then none
  else some (value, rest.dropWhile Text.isWhiteSpace)

/-- A counted repetition after its opening brace. -/
def parseCounted (s : State) (text : List Char) : Option State := do
  let (least, rest) ← parseCount s.ignoring (skip s.ignoring text)
  let (most, rest) ← match rest with
    | ',' :: rest =>
      match skip s.ignoring rest with
      | '\x7d' :: rest => some (none, '\x7d' :: rest)
      | rest => (parseCount s.ignoring rest).map fun (most, left) ↦ (some most, left)
    | rest => some (some least, rest)
  match rest with
  | '\x7d' :: rest =>
    if most.all (least ≤ ·) then repeatLast s least most (skipLazy (skip s.ignoring rest))
    else none
  | _ => none

/-! ## The loop -/

/-- The part that one escape or one character stands for. -/
def ofPrimitive : Primitive → Syntax
  | .literal code isByte => .literal code isByte
  | .anchor anchor => .anchor anchor
  | .letter negated kind => .letter negated kind
  | .property negated name => .property negated name

/-- Reads one thing off a text. -/
def step (s : State) : List Char → Option State
  | [] => none
  | '(' :: rest => parseGroup s rest
  | ')' :: rest => closeGroup s rest
  | '|' :: rest => some { s with current := s.current.nextBranch, rest }
  | '[' :: rest => do
    let (negated, inner, rest) ← ClassParser.parse s.ignoring rest
    some { s with current := s.current.push (.bracketed negated inner), rest }
  | '?' :: rest => repeatLast s 0 (some 1) (skipLazy rest)
  | '*' :: rest => repeatLast s 0 none (skipLazy rest)
  | '+' :: rest => repeatLast s 1 none (skipLazy rest)
  | '\x7b' :: rest => do
    let _ ← operand? s
    parseCounted s rest
  | '.' :: rest => some { s with current := s.current.push .dot, rest }
  | '^' :: rest => some { s with current := s.current.push (.anchor .startOfLine), rest }
  | '$' :: rest => some { s with current := s.current.push (.anchor .endOfLine), rest }
  | '\\' :: rest => do
    let (primitive, rest) ← parseEscape s.ignoring rest
    some { s with current := s.current.push (ofPrimitive primitive), rest }
  | c :: rest => some { s with current := s.current.push (.literal c.toNat false), rest }

/-- Steps to the end of the text.  A step that took no text ends the loop. -/
def run (s : State) : Option State :=
  match skip s.ignoring s.rest with
  | [] => some s
  | text =>
    match step s text with
    | none => none
    | some next => if next.rest.length < s.rest.length then run next else none
termination_by s.rest.length

end PatternParser

/-- Reads a pattern; `none` if it is not well formed or nests too deep. -/
def Syntax.parse? (pattern : String) : Option Syntax := do
  let state ← PatternParser.run ⟨.start, [], false, [], pattern.toList⟩
  let tree := state.current.close
  if state.stack.isEmpty && tree.nesting ≤ nestingLimit then some tree else none

end Regex
end Sift
