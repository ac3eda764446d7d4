import Sift.Regex.Syntax

/-!
# Escapes in patterns

What a backslash may begin, both in a pattern and between the brackets of a class: an escaped
sign, a control, a code in hexadecimal, a class named by a letter, a Unicode property or an
anchor.  Digits after a backslash would refer back to a group, which patterns cannot do.
-/

set_option autoImplicit false
namespace Sift
namespace Regex

/-! ## Blanks and comments -/

mutual

/-- Drops blanks, and comments from a number sign to the end of its line. -/
def skipBlanks : List Char → List Char
  | [] => []
  | c :: rest =>
    if Text.isWhiteSpace c then skipBlanks rest
    else if c = '#' then skipComment rest
    else c :: rest

/-- Drops what is left of a comment, and the blanks and comments after it. -/
def skipComment : List Char → List Char
  | [] => []
  | c :: rest => if c = '\n' then skipBlanks rest else skipComment rest

end

/-- Drops blanks and comments where a pattern ignores them. -/
def skip (ignoring : Bool) (text : List Char) : List Char :=
  if ignoring then skipBlanks text else text

mutual

theorem length_skipBlanks_le : (text : List Char) → (skipBlanks text).length ≤ text.length
  | [] => Nat.le_refl _
  | c :: rest => by
    have h1 := length_skipBlanks_le rest
    have h2 := length_skipComment_le rest
    rw [skipBlanks, List.length_cons]
    split
    · omega
    split
    · omega
    · exact Nat.le_refl _

theorem length_skipComment_le : (text : List Char) → (skipComment text).length ≤ text.length
  | [] => Nat.le_refl _
  | c :: rest => by
    have h1 := length_skipBlanks_le rest
    have h2 := length_skipComment_le rest
    rw [skipComment, List.length_cons]
    split
    · omega
    · omega

end

theorem length_skip_le (ignoring : Bool) (text : List Char) :
    (skip ignoring text).length ≤ text.length := by
  rw [skip]
  split
  · exact length_skipBlanks_le text
  · exact Nat.le_refl _

/-! ## Escapes -/

/-- What one escape or one plain character of a pattern stands for. -/
inductive Primitive where
  | literal (code : Nat) (isByte : Bool)
  | anchor (anchor : Anchor)
  | letter (negated : Bool) (kind : LetterClass)
  | property (negated : Bool) (name : String)

/-- Whether a character means something in a pattern unless it is escaped. -/
def isSign (c : Char) : Bool :=
  "\\.+*?()|[]\x7b\x7d^$#&-~".toList.contains c

/-- ASCII characters that may be escaped: all but letters, digits and angle brackets. -/
def isEscapable (c : Char) : Bool :=
  isSign c || (c.toNat < 128 && !c.isAlphanum && c != '<' && c != '>')

/-- Whether a number is the code of a character. -/
def isCharacterCode (code : Nat) : Bool :=
  code < 0xD800 || (0xE000 ≤ code && code ≤ CodeSet.top)

/-- Exactly so many hexadecimal digits. -/
def takeHex (ignoring : Bool) : Nat → Nat → List Char → Option (Nat × List Char)
  | 0, value, rest => some (value, rest)
  | _ + 1, _, [] => none
  | n + 1, value, c :: rest => do
    let digit ← Text.hexValue? c
    takeHex ignoring n (16 * value + digit) (skip ignoring rest)

/-- The digits up to the closing brace; `none` if there is none or another character is met. -/
def hexDigitsTo? (digits : List Char) : Option Nat :=
  if digits.isEmpty then none
  else digits.foldl (fun n c ↦ do
    let value ← n
    let digit ← Text.hexValue? c
    some (16 * value + digit)) (some 0)

/-- Characters up to a closing brace, blanks left out where they are ignored. -/
def takeToBrace (ignoring : Bool) (text : List Char) : Option (List Char × List Char) :=
  match _ : skip ignoring text with
  | [] => none
  | c :: rest =>
    if c = '\x7d' then some ([], rest)
    else (takeToBrace ignoring rest).map fun (taken, left) ↦ (c :: taken, left)
termination_by text.length
decreasing_by
  have h := length_skip_le ignoring text
  rw [‹skip ignoring text = c :: rest›, List.length_cons] at h
  exact h

/-- A code in hexadecimal, with a fixed number of digits or in braces. -/
def parseHex (ignoring : Bool) (digits : Nat) (text : List Char) :
    Option (Primitive × List Char) := do
  match skip ignoring text with
  | '\x7b' :: rest =>
    let (taken, left) ← takeToBrace ignoring rest
    let code ← hexDigitsTo? taken
    if isCharacterCode code then some (.literal code false, skip ignoring left) else none
  | rest =>
    let (code, left) ← takeHex ignoring digits 0 rest
    if isCharacterCode code then some (.literal code (digits == 2), left) else none

/-- A property: one letter, or a name in braces. -/
def parseProperty (ignoring negated : Bool) (text : List Char) :
    Option (Primitive × List Char) := do
  match skip ignoring text with
  | [] => none
  | '\x7b' :: rest =>
    let (taken, left) ← takeToBrace ignoring rest
    some (.property negated (.ofList taken), left)
  | c :: rest => if c = '\\' then none else some (.property negated (.ofList [c]), rest)

/-- Whether a character can stand in the name of a special word boundary. -/
def isBoundaryNameChar (c : Char) : Bool :=
  c.isAlpha || c == '-'

/-- The name of a special word boundary, with blanks left out where they are ignored. -/
def takeBoundaryName (ignoring : Bool) (text : List Char) : List Char × List Char :=
  match text with
  | [] => ([], [])
  | c :: rest =>
    if isBoundaryNameChar c then
      let (name, left) := takeBoundaryName ignoring (skip ignoring rest)
      (c :: name, left)
    else ([], text)
termination_by text.length
decreasing_by exact Nat.lt_succ_of_le (length_skip_le ignoring rest)

/-- After `\b`: a special word boundary in braces.  Braces that hold something else are left for
a counted repetition. -/
def parseBoundary (ignoring : Bool) (text : List Char) : Option (Primitive × List Char) :=
  match text with
  | '\x7b' :: rest =>
    match skip ignoring rest with
    | [] => none
    | c :: left =>
      if isBoundaryNameChar c then
        match takeBoundaryName ignoring (c :: left) with
        | (name, '\x7d' :: left) =>
          match String.ofList name with
          | "start" => some (.anchor .wordStart, left)
          | "end" => some (.anchor .wordEnd, left)
          | "start-half" => some (.anchor .wordStartHalf, left)
          | "end-half" => some (.anchor .wordEndHalf, left)
          | _ => none
        | _ => none
      else some (.anchor .wordBoundary, text)
  | _ => some (.anchor .wordBoundary, text)

/-- What follows a backslash. -/
def parseEscape (ignoring : Bool) : List Char → Option (Primitive × List Char)
  | [] => none
  | c :: rest =>
    if c.isDigit then none
    else match c with
      | 'x' => parseHex ignoring 2 rest
      | 'u' => parseHex ignoring 4 rest
      | 'U' => parseHex ignoring 8 rest
      | 'p' => parseProperty ignoring false rest
      | 'P' => parseProperty ignoring true rest
      | 'd' => some (.letter false .digit, rest)
      | 'D' => some (.letter true .digit, rest)
      | 's' => some (.letter false .space, rest)
      | 'S' => some (.letter true .space, rest)
      | 'w' => some (.letter false .word, rest)
      | 'W' => some (.letter true .word, rest)
      | 'a' => some (.literal 7 false, rest)
      | 'f' => some (.literal 12 false, rest)
      | 't' => some (.literal 9 false, rest)
      | 'n' => some (.literal 10 false, rest)
      | 'r' => some (.literal 13 false, rest)
      | 'v' => some (.literal 11 false, rest)
      | 'A' => some (.anchor .startOfText, rest)
      | 'z' => some (.anchor .endOfText, rest)
      | 'b' => parseBoundary ignoring rest
      | 'B' => some (.anchor .notWordBoundary, rest)
      | '<' => some (.anchor .wordStart, rest)
      | '>' => some (.anchor .wordEnd, rest)
      | c => if isEscapable c then some (.literal c.toNat false, rest) else none

end Regex
end Sift
