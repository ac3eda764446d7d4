import Sift.Json.Lexeme
import Sift.Text.Hexadecimal

/-!
# Scanning JSON text

The scanner reads a text one character at a time.  Its state is the stack of arrays and objects
that are open (`Frame`) together with what may come next (`Expect`); `Scanner.step` takes one
character and `scan` is the fold of it over the text.

A fault does not lose what was read before it: the open arrays and objects are closed around what
they hold so far, and the outcome says whether the fault lies inside the value or after it.  So
a reader can still object to an earlier part first, as it would when reading along.
-/

set_option autoImplicit false
namespace Sift
namespace Json

/-- Where a text stops being one JSON value. -/
inductive Fault where
  | none
  | inside
  | after
deriving DecidableEq

/-- What a text holds, as far as it could be scanned. -/
structure Scan where
  value : Json
  fault : Fault

/-- An array or object that is open, with what it holds so far, latest first.  An object is sound
while each of its keys stands for a string. -/
inductive Frame where
  | array (items : List Json)
  | object (members : List (String × Json)) (key : String) (isSound : Bool)

/-- Where in an escape of a string the scanner is. -/
inductive Escape where
  | none
  | backslash
  | code (digits : Nat) (value : Nat)

/-- A string that is open: its characters so far, latest first, half a surrogate pair that waits
for the other half, and whether it stands for a string at all. -/
structure OpenString where
  reversed : List Char
  high : Option Nat
  isSound : Bool
  escape : Escape

/-- What may come next. -/
inductive Expect where
  | value
  | valueOrClose
  | key
  | keyOrClose
  | colon
  | commaOrClose
  | string (isKey : Bool) (text : OpenString)
  | number (reversed : List Char)
  | word (left : List Char) (value : Json)

/-- The state of the scanner: within a value, after one that is complete, or stopped at a fault. -/
inductive Scanner where
  | reading (stack : List Frame) (expect : Expect)
  | complete (value : Json)
  | stopped (outcome : Scan)

/-! ## Strings -/

namespace OpenString

/-- A string right after its opening quote. -/
def start : OpenString := ⟨[], Option.none, true, .none⟩

/-- Adds a character; half a pair that was waiting is left alone and spoils the string. -/
def push (s : OpenString) (c : Char) : OpenString :=
  ⟨c :: s.reversed, Option.none, s.isSound && s.high.isNone, .none⟩

/-- Adds the character of a code, or one half of a surrogate pair. -/
def pushCode (s : OpenString) (code : Nat) : OpenString :=
  if 0xD800 ≤ code ∧ code < 0xDC00 then
    ⟨s.reversed, some code, s.isSound && s.high.isNone, .none⟩
  else if 0xDC00 ≤ code ∧ code < 0xE000 then
    match s.high with
    | some high =>
      ⟨Char.ofNat (0x10000 + (high - 0xD800) * 0x400 + (code - 0xDC00)) :: s.reversed,
        Option.none, s.isSound, .none⟩
    | Option.none => ⟨s.reversed, Option.none, false, .none⟩
  else
    s.push (Char.ofNat code)

/-- The character that a letter after a backslash stands for. -/
def escaped? : Char → Option Char
  | '"' => some '"'
  | '\\' => some '\\'
  | '/' => some '/'
  | 'b' => some '\x08'
  | 'f' => some '\x0c'
  | 'n' => some '\n'
  | 'r' => some '\r'
  | 't' => some '\t'
  | _ => Option.none

/-- The string after a character that does not close it. -/
def step? (s : OpenString) (c : Char) : Option OpenString :=
  match s.escape with
  | .none =>
    if c = '\\' then some { s with escape := .backslash }
    else if c.toNat < 32 then Option.none
    else some (s.push c)
  | .backslash =>
    if c = 'u' then some { s with escape := .code 0 0 }
    else (escaped? c).map s.push
  | .code digits value =>
    (Text.hexValue? c).map fun digit ↦
      let value := 16 * value + digit
      if digits = 3 then { s with escape := .none }.pushCode value
      else { s with escape := .code (digits + 1) value }

/-- Whether a string is not within an escape, so that a quote closes it. -/
def isPlain (s : OpenString) : Bool :=
  match s.escape with
  | .none => true
  | _ => false

/-- The string once it is closed, if it stands for one. -/
def close? (s : OpenString) : Option String :=
  if s.isSound && s.high.isNone then some (.ofList s.reversed.reverse) else Option.none

end OpenString

/-! ## Values -/

namespace Scanner

/-- Closes every open array and object around a value. -/
def collapse (value : Json) : List Frame → Json
  | [] => value
  | .array items :: rest => collapse (.array (value :: items).reverse) rest
  | .object members key _ :: rest => collapse (.object ((key, value) :: members).reverse) rest

/-- What was read so far when a fault is met. -/
def soFar : List Frame → Json
  | [] => .unreadable
  | .array items :: rest => collapse (.array items.reverse) rest
  | .object members _ _ :: rest => collapse (.object members.reverse) rest

/-- Stops at a fault with what was read so far. -/
def fault (stack : List Frame) : Scanner :=
  .stopped ⟨soFar stack, .inside⟩

/-- Puts a value that is complete where it belongs. -/
def deliver (value : Json) : List Frame → Scanner
  | [] => .complete value
  | .array items :: rest => .reading (.array (value :: items) :: rest) .commaOrClose
  | .object members key isSound :: rest =>
    .reading (.object ((key, value) :: members) "" isSound :: rest) .commaOrClose

/-- Whether an array or object with `outer` open ones around it is within the limit. -/
def fits (outer : List Frame) : Bool :=
  outer.length < nestingLimit

/-- Closes the innermost array or object if it is of the right kind.  An object with a key that is
no string can only be skipped. -/
def close (c : Char) (stack : List Frame) : Scanner :=
  match c, stack with
  | ']', .array items :: rest =>
    deliver (if fits rest then .array items.reverse else .unreadable) rest
  | '\x7d', .object members _ isSound :: rest =>
    deliver (if isSound && fits rest then .object members.reverse else .unreadable) rest
  | _, _ => fault stack

/-- What may follow a comma. -/
def afterComma (stack : List Frame) : Scanner :=
  match stack with
  | .array _ :: _ => .reading stack .value
  | .object .. :: _ => .reading stack .key
  | [] => fault stack

/-- Whether a character may stand between the parts of a text. -/
def isBlank (c : Char) : Bool :=
  c == ' ' || c == '\n' || c == '\t' || c == '\r'

/-- The first character of a value. -/
def startValue (stack : List Frame) (c : Char) : Scanner :=
  if c = '"' then .reading stack (.string false .start)
  else if c = '[' then .reading (.array [] :: stack) .valueOrClose
  else if c = '\x7b' then .reading (.object [] "" true :: stack) .keyOrClose
  else if c = 't' then .reading stack (.word "rue".toList (.bool true))
  else if c = 'f' then .reading stack (.word "alse".toList (.bool false))
  else if c = 'n' then .reading stack (.word "ull".toList .null)
  else if c = '-' ∨ c.isDigit then .reading stack (.number [c])
  else fault stack

/-- The first character of a key. -/
def startKey (stack : List Frame) (c : Char) : Scanner :=
  if c = '"' then .reading stack (.string true .start) else fault stack

/-- Puts the key of a member where its value will find it.  A key that is no string is a fault in
the outermost object, which is always read member by member. -/
def deliverKey (key? : Option String) (stack : List Frame) : Scanner :=
  match key?, stack with
  | some key, .object members _ isSound :: rest =>
    .reading (.object members key isSound :: rest) .colon
  | none, .object members _ _ :: outer :: rest =>
    .reading (.object members "" false :: outer :: rest) .colon
  | _, _ => fault stack

/-- Closes a string and puts it where it belongs.  One that stands for no string is a value that
cannot be read. -/
def closeString (isKey : Bool) (s : OpenString) (stack : List Frame) : Scanner :=
  match isKey, s.close? with
  | true, key? => deliverKey key? stack
  | false, some text => deliver (.string text) stack
  | false, none => deliver .unreadable stack

/-- Ends a number and puts its value where it belongs. -/
def endNumber (reversed : List Char) (stack : List Frame) : Scanner :=
  match ofLexeme? reversed.reverse with
  | some value => deliver value stack
  | none => fault stack

/-- One character where no number is being read. -/
def stepPlain (stack : List Frame) (expect : Expect) (c : Char) : Scanner :=
  match expect with
  | .string isKey s =>
    if c = '"' ∧ s.isPlain then closeString isKey s stack
    else match s.step? c with
      | some s => .reading stack (.string isKey s)
      | none => fault stack
  | .word left value =>
    match left with
    | [] => fault stack
    | [d] => if c = d then deliver value stack else fault stack
    | d :: left => if c = d then .reading stack (.word left value) else fault stack
  | .number reversed => .reading stack (.number (c :: reversed))
  | expect =>
    if isBlank c then .reading stack expect
    else match expect with
      | .value => startValue stack c
      | .valueOrClose => if c = ']' then close c stack else startValue stack c
      | .key => startKey stack c
      | .keyOrClose => if c = '\x7d' then close c stack else startKey stack c
      | .colon => if c = ':' then .reading stack .value else fault stack
      | _ => if c = ',' then afterComma stack else close c stack

/-- One character after a complete value. -/
def stepAfter (value : Json) (c : Char) : Scanner :=
  if isBlank c then .complete value else .stopped ⟨value, .after⟩

/-- One character of the text.  It may both end a number and be what follows it. -/
def step (state : Scanner) (c : Char) : Scanner :=
  match state with
  | .reading stack (.number reversed) =>
    if Lexeme.isNumberChar c then .reading stack (.number (c :: reversed))
    else match endNumber reversed stack with
      | .reading stack expect => stepPlain stack expect c
      | .complete value => stepAfter value c
      | outcome => outcome
  | .reading stack expect => stepPlain stack expect c
  | .complete value => stepAfter value c
  | outcome => outcome

/-- The outcome at the end of the text. -/
def finish : Scanner → Scan
  | .reading stack (.number reversed) =>
    match endNumber reversed stack with
    | .complete value => ⟨value, .none⟩
    | .stopped outcome => outcome
    | .reading stack _ => ⟨soFar stack, .inside⟩
  | .reading stack _ => ⟨soFar stack, .inside⟩
  | .complete value => ⟨value, .none⟩
  | .stopped outcome => outcome

/-- The state in front of a text. -/
def start : Scanner := .reading [] .value

end Scanner

/-- Scans a text from its first character to its last. -/
def scanChars (text : List Char) : Scan :=
  (text.foldl Scanner.step .start).finish

/-- Scans a whole text. -/
def scan (text : String) : Scan :=
  scanChars text.toList

end Json
end Sift
