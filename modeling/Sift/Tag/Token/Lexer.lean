import Sift.Tag.Token
import Sift.Text.Property

/-!
# Reading tokens

`Token.ofText?` reads the tokens of a whole text, or fails if brackets do not match or a literal
is not closed.  Blanks and comments separate tokens.

Reading goes in two steps: a text is cut into lexemes, each the longest that starts where the one
before it ended, and the lexemes between two brackets are then gathered into a group.
-/

set_option autoImplicit false
namespace Sift

/-- A token that is no group, or a bracket. -/
inductive Lexeme where
  | token (token : Token)
  | opening (delimiter : Delimiter)
  | closing (delimiter : Delimiter)

namespace Lexeme

/-! ## Texts in quotes -/

/-- Splits at the closing quote.  What follows a backslash never closes. -/
def splitAtQuote (quote : Char) : List Char → Option (List Char × List Char)
  | [] => none
  | '\\' :: c :: rest =>
    (splitAtQuote quote rest).map fun (body, after) ↦ ('\\' :: c :: body, after)
  | c :: rest =>
    if c = quote then some ([], rest)
    else (splitAtQuote quote rest).map fun (body, after) ↦ (c :: body, after)

/-- Splits at the first quote with so many number signs after it. -/
def splitAtFence (signs : Nat) : List Char → Option (List Char × List Char)
  | [] => none
  | c :: rest =>
    if c = '"' ∧ (List.replicate signs '#').isPrefixOf rest then some ([], rest.drop signs)
    else (splitAtFence signs rest).map fun (body, after) ↦ (c :: body, after)

/-- The character with a code point, if there is one. -/
def charOfCode? (n : Nat) : Option Char :=
  if n.isValidChar then some (.ofNat n) else none

/-- Where an escape is: after a character, after a backslash, within a code, or within the blanks
that follow a backslash at the end of a line. -/
inductive EscapeState where
  | plain
  | backslash
  | firstHex
  | secondHex (high : Nat)
  | codeStart
  | code (value digits : Nat)
  | lineEnd

namespace EscapeState

/-- Goes on by one character of a text in quotes.  Gives the next state and what the text gains. -/
def step (state : EscapeState) (c : Char) : Option (EscapeState × List Char) :=
  match state with
  | .plain => if c = '\\' then some (.backslash, []) else some (.plain, [c])
  | .backslash =>
    if c = 'n' then some (.plain, ['\n'])
    else if c = 'r' then some (.plain, ['\r'])
    else if c = 't' then some (.plain, ['\t'])
    else if c = '0' then some (.plain, ['\x00'])
    else if c = '\\' ∨ c = '"' ∨ c = '\x27' then some (.plain, [c])
    else if c = 'x' then some (.firstHex, [])
    else if c = 'u' then some (.codeStart, [])
    else if c = '\n' then some (.lineEnd, [])
    else none
  | .firstHex => (Text.hexValue? c).map fun high ↦ (.secondHex high, [])
  | .secondHex high => do
    let low ← Text.hexValue? c
    if high < 8 then some (.plain, [.ofNat (16 * high + low)]) else none
  | .codeStart => if c = '\x7b' then some (.code 0 0, []) else none
  | .code value digits =>
    if c = '\x7d' then
      if digits = 0 then none else (charOfCode? value).map fun c ↦ (.plain, [c])
    else if c = '_' ∧ 0 < digits then some (.code value digits, [])
    else if digits < 6 then
      (Text.hexValue? c).map fun digit ↦ (.code (16 * value + digit) (digits + 1), [])
    else none
  | .lineEnd =>
    if c = '\\' then some (.backslash, [])
    else if c = ' ' ∨ c = '\t' ∨ c = '\n' ∨ c = '\r' then some (.lineEnd, [])
    else some (.plain, [c])

/-- What a text in quotes stands for. -/
def run : EscapeState → List Char → Option (List Char)
  | .plain, [] | .lineEnd, [] => some []
  | _, [] => none
  | state, c :: rest => do
    let (next, gained) ← state.step c
    let value ← next.run rest
    return gained ++ value

end EscapeState

/-! ## Comments -/

/-- What follows a comment that is open so many levels deep. -/
def afterComment : Nat → List Char → Option (List Char)
  | 0, cs => some cs
  | _ + 1, [] => none
  | depth + 1, '*' :: '/' :: rest => afterComment depth rest
  | depth + 1, '/' :: '*' :: rest => afterComment (depth + 2) rest
  | depth + 1, _ :: rest => afterComment (depth + 1) rest

/-- The text in a documenting comment and what follows it, and whether it documents what it stands
in; `none` where no such comment begins.  One sign more makes it an ordinary comment. -/
def documenting? (cs : List Char) : Option (Bool × List Char × List Char) :=
  let line (isInner : Bool) (rest : List Char) :=
    some (isInner, rest.takeWhile (· != '\n'), rest.dropWhile (· != '\n'))
  let block (isInner : Bool) (rest : List Char) :=
    (afterComment 1 rest).map fun after ↦
      (isInner, rest.take (rest.length - after.length - 2), after)
  match cs with
  | '/' :: '/' :: '!' :: rest => line true rest
  | '/' :: '*' :: '!' :: rest => block true rest
  | '/' :: '/' :: '/' :: rest => if rest.head? = some '/' then none else line false rest
  | '/' :: '*' :: '*' :: rest =>
    if rest.head? = some '*' ∨ rest.head? = some '/' then none else block false rest
  | _ => none

/-- A documenting comment is another way to write a tag. -/
def documentation (isInner : Bool) (comment : List Char) : List Lexeme :=
  [.token (.mark '#' false)] ++ (if isInner then [.token (.mark '!' false)] else []) ++
    [.opening .bracket, .token (.word "doc"), .token (.mark '=' false),
     .token (.text (.ofList comment)), .closing .bracket]

/-! ## Lexemes -/

/-- Whether a character separates lexemes: white space and the two marks of direction. -/
def isBlank (c : Char) : Bool :=
  Text.isWhiteSpace c || c.toNat == 0x200E || c.toNat == 0x200F

/-- Whether a character is a mark. -/
def isMark (c : Char) : Bool :=
  "~!@#$%^&*-=+|;:,<.>/?".toList.contains c

/-- Whether a mark comes next that begins no comment. -/
def isMarkNext : List Char → Bool
  | '/' :: '/' :: _ | '/' :: '*' :: _ => false
  | c :: _ => isMark c || c == '\x27'
  | [] => false

/-- What can be cut off a text: lexemes, or a stretch that separates lexemes. -/
structure Cut where
  lexemes : List Lexeme
  rest : List Char

/-- What follows a suffix, which is written like a word. -/
def afterSuffix : List Char → List Char
  | [] => []
  | c :: rest =>
    if Text.startsIdentifier c then rest.dropWhile Text.continuesIdentifier else c :: rest

/-- A cut that drops the suffix of a literal. -/
def Cut.literal (token : Token) (after : List Char) : Cut :=
  ⟨[.token token], afterSuffix after⟩

/-- Line ends in their short form; `none` where a carriage return ends no line. -/
def shortLineEnds? : List Char → Option (List Char)
  | [] => some []
  | '\r' :: '\n' :: rest => (shortLineEnds? rest).map ('\n' :: ·)
  | c :: rest => if c = '\r' then none else (shortLineEnds? rest).map (c :: ·)

/-- A text between plain quotes, whose opening quote is gone. -/
def cutText (rest : List Char) : Option Cut := do
  let (body, after) ← splitAtQuote '"' rest
  let value ← EscapeState.run .plain (← shortLineEnds? body)
  return .literal (.text (.ofList value)) after

/-- A literal between quotes whose value is not kept. -/
def cutLiteral (quote : Char) (rest : List Char) : Option Cut := do
  let (_, after) ← splitAtQuote quote rest
  return .literal .literal after

/-- A text whose end is marked by as many number signs as its start. -/
def cutFenced (token : List Char → Token) (rest : List Char) : Option Cut :=
  let signs := (rest.takeWhile (· == '#')).length
  match rest.drop signs with
  | '"' :: inner => do
    let (body, after) ← splitAtFence signs inner
    let _ ← shortLineEnds? body
    return .literal (token body) after
  | _ => none

/-- A word, or a literal that a word introduces. -/
def cutWord (c : Char) (rest : List Char) : Option Cut :=
  let name := c :: rest.takeWhile Text.continuesIdentifier
  let after := rest.dropWhile Text.continuesIdentifier
  match String.ofList name, after with
  | "b", '"' :: inner | "c", '"' :: inner => cutLiteral '"' inner
  | "b", '\x27' :: inner => cutLiteral '\x27' inner
  | "r", '#' :: d :: inner =>
    if Text.startsIdentifier d then
      let tail := d :: inner.takeWhile Text.continuesIdentifier
      if Token.pathKeywords.contains (.ofList tail) || tail == ['_'] then none
      else
        some ⟨[.token (.word (.ofList ('r' :: '#' :: tail)))],
          inner.dropWhile Text.continuesIdentifier⟩
    else cutFenced (fun body ↦ .text (.ofList body)) after
  | "r", '"' :: _ => cutFenced (fun body ↦ .text (.ofList body)) after
  | "br", '"' :: _ | "br", '#' :: _ | "cr", '"' :: _ | "cr", '#' :: _ =>
    cutFenced (fun _ ↦ .literal) after
  | _, _ => some ⟨[.token (.word (.ofList name))], after⟩

/-- A character in single quotes, or a word after a single quote. -/
def cutSingleQuote : List Char → Option Cut
  | '\\' :: rest => do
    let (body, after) ← splitAtQuote '\x27' ('\\' :: rest)
    let value ← EscapeState.run .plain body
    if value.length = 1 then some (.literal .literal after) else none
  | _ :: '\x27' :: rest => some (.literal .literal rest)
  | c :: rest =>
    let name := c :: rest.takeWhile Text.continuesIdentifier
    let after := rest.dropWhile Text.continuesIdentifier
    if Text.startsIdentifier c && after.head? != some '\x27' && after.head? != some '#' then
      some ⟨[.token (.lifetime (.ofList name))], after⟩
    else none
  | [] => none

/-! ### Numbers -/

/-- Whether a character is a decimal digit, or a low line that parts digits. -/
def isDigitOrLine (c : Char) : Bool := c.isDigit || c == '_'

/-- What follows an exponent after its letter, if it has a digit.  A sign may stand before the
digits, but not twice. -/
def afterExponent? (rest : List Char) : Option (List Char) :=
  let body := rest.dropWhile (· == '_')
  let digits := match body with
    | '+' :: digits | '-' :: digits => digits
    | digits => digits
  let after := digits.dropWhile (· == '_')
  if after.head?.any Char.isDigit then some (after.dropWhile isDigitOrLine) else none

/-- What follows a number with a point or an exponent.  The point does not count before a second
one or before a word. -/
def afterFloat? (cs : List Char) : Option (List Char) :=
  let exponent? (rest : List Char) : Option (List Char) :=
    match rest with
    | 'e' :: rest | 'E' :: rest => afterExponent? rest
    | _ => none
  match cs.dropWhile isDigitOrLine with
  | '.' :: rest =>
    if rest.head?.any fun c ↦ c == '.' || Text.startsIdentifier c then none
    else
      let after := rest.dropWhile isDigitOrLine
      some ((exponent? after).getD after)
  | rest => exponent? rest

/-- The base of a number and its digits. -/
def baseOf : List Char → Nat × List Char
  | '0' :: 'x' :: rest => (16, rest)
  | '0' :: 'o' :: rest => (8, rest)
  | '0' :: 'b' :: rest => (2, rest)
  | cs => (10, cs)

/-- A whole number.  A digit too large for its base is no end of it but a fault. -/
def cutInteger (cs : List Char) : Option Cut :=
  let (base, body) := baseOf cs
  let isDigitOf (c : Char) := c == '_' || c.isDigit || (base == 16 && (Text.hexValue? c).isSome)
  let digits := (body.takeWhile isDigitOf).filterMap Text.hexValue?
  let after := body.dropWhile isDigitOf
  let rest := afterSuffix after
  let suffix := after.take (after.length - rest.length)
  if digits.isEmpty || digits.any (base ≤ ·) || rest.head?.any Text.continuesIdentifier then none
  else some ⟨[.token (.integer (digits.foldl (base * · + ·) 0) (.ofList suffix))], rest⟩

/-- A number with its suffix.  Only a whole number keeps its value. -/
def cutNumber (cs : List Char) : Option Cut :=
  match afterFloat? cs with
  | some after =>
    let rest := afterSuffix after
    some ⟨[.token (.float (.ofList (cs.take (cs.length - rest.length))))], rest⟩
  | none => cutInteger cs

/-! ### Any lexeme -/

/-- Cuts lexemes or a separator off a text. -/
def cut (c : Char) (rest : List Char) : Option Cut :=
  if isBlank c then some ⟨[], rest⟩
  else if let some (isInner, comment, after) := documenting? (c :: rest) then
    some ⟨documentation isInner comment, after⟩
  else if c = '/' ∧ rest.head? = some '/' then some ⟨[], rest.dropWhile (· != '\n')⟩
  else if c = '/' ∧ rest.head? = some '*' then
    (afterComment 1 rest.tail).map fun after ↦ ⟨[], after⟩
  else if c = '"' then cutText rest
  else if c = '\x27' then cutSingleQuote rest
  else if c.isDigit then cutNumber (c :: rest)
  else if Text.startsIdentifier c then cutWord c rest
  else if isMark c then some ⟨[.token (.mark c (isMarkNext rest))], rest⟩
  else
    match Delimiter.ofOpening? c, Delimiter.ofClosing? c with
    | some delimiter, _ => some ⟨[.opening delimiter], rest⟩
    | none, some delimiter => some ⟨[.closing delimiter], rest⟩
    | none, none => none

/-- The lexemes of a text.  A cut that took no text ends the reading. -/
def ofChars? (cs : List Char) : Option (List Lexeme) :=
  match cs with
  | [] => some []
  | c :: rest =>
    match cut c rest with
    | none => none
    | some k =>
      if _ : k.rest.length < (c :: rest).length then
        (ofChars? k.rest).map (k.lexemes ++ ·)
      else none
termination_by cs.length
decreasing_by assumption

/-! ## Groups -/

/-- Tokens gathered so far, the last one first, with the groups that are still open. -/
structure Gathering where
  current : List Token
  opened : List (Delimiter × List Token)

namespace Gathering

/-- Adds a lexeme.  A closing bracket must close the innermost group. -/
def add (g : Gathering) : Lexeme → Option Gathering
  | Lexeme.token t => some { g with current := t :: g.current }
  | Lexeme.opening delimiter => some ⟨[], (delimiter, g.current) :: g.opened⟩
  | Lexeme.closing delimiter =>
    match g.opened with
    | (inner, outer) :: opened =>
      if inner = delimiter then
        some ⟨.group delimiter g.current.reverse :: outer, opened⟩
      else none
    | [] => none

/-- The tokens once every group is closed. -/
def finish? (g : Gathering) : Option (List Token) :=
  if g.opened.isEmpty then some g.current.reverse else none

end Gathering
end Lexeme

/-- The tokens of a text. -/
def Token.ofText? (text : String) : Option (List Token) := do
  let lexemes ← Lexeme.ofChars? text.toList
  let gathering ← lexemes.foldlM Lexeme.Gathering.add ⟨[], []⟩
  gathering.finish?

end Sift
