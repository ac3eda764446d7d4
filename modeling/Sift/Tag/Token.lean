/-!
# Tokens of a tag

A tag is a note on a field of a record, written with words, literals, marks and groups in
brackets.  A group is one token with the tokens between its brackets inside, so whatever reads
tokens never sees a bracket without its partner.

What is read next is mostly decided by the tokens that come next: `Token.isMarkAt`,
`Token.isWordAt` and the like look at the beginning of a list of tokens.
-/

set_option autoImplicit false
namespace Sift

/-- Kinds of bracket. -/
inductive Delimiter where
  | parenthesis
  | bracket
  | brace
deriving DecidableEq, Repr

/-- The bracket that a character opens. -/
def Delimiter.ofOpening? (c : Char) : Option Delimiter :=
  if c = '(' then some .parenthesis
  else if c = '[' then some .bracket
  else if c = '\x7b' then some .brace
  else none

/-- The bracket that a character closes. -/
def Delimiter.ofClosing? (c : Char) : Option Delimiter :=
  if c = ')' then some .parenthesis
  else if c = ']' then some .bracket
  else if c = '\x7d' then some .brace
  else none

/-- A token.  A mark knows whether another mark touches it, a whole number keeps what is written
right after its digits, and a literal that is neither text nor number is only known to be one. -/
inductive Token where
  | word (name : String)
  /-- A word after a single quote. -/
  | lifetime (name : String)
  | text (value : String)
  | integer (value : Nat) (suffix : String)
  | float (spelling : String)
  | literal
  | mark (symbol : Char) (joint : Bool)
  | group (delimiter : Delimiter) (content : List Token)

namespace Token

instance : Inhabited Token := ⟨.literal⟩

mutual

/-- The number of tokens in a token. -/
def size : Token → Nat
  | .group _ content => sizeOfAll content + 1
  | _ => 1

/-- The number of tokens in some tokens. -/
def sizeOfAll : List Token → Nat
  | [] => 0
  | token :: rest => size token + sizeOfAll rest

end

/-! ## Words -/

/-- Words with a meaning of their own, which name nothing. -/
def keywords : List String :=
  ["_", "abstract", "as", "async", "await", "become", "box", "break", "const", "continue",
   "crate", "do", "dyn", "else", "enum", "extern", "false", "final", "fn", "for", "if", "impl",
   "in", "let", "loop", "macro", "match", "mod", "move", "mut", "override", "priv", "pub", "ref",
   "return", "Self", "self", "static", "struct", "super", "trait", "true", "try", "type",
   "typeof", "unsafe", "unsized", "use", "virtual", "where", "while", "yield"]

/-- Whether a word is a keyword. -/
def isKeyword (name : String) : Bool := keywords.contains name

/-- Keywords that may still stand in a path. -/
def pathKeywords : List String := ["super", "self", "Self", "crate"]

/-- Whether a word may be a segment of a path. -/
def isSegment (name : String) : Bool :=
  !isKeyword name || pathKeywords.contains name

/-! ## What comes next -/

/-- What follows some marks that touch one another. -/
def afterMarks? : List Char → List Token → Option (List Token)
  | [], tokens => some tokens
  | [c], .mark symbol _ :: rest => if symbol = c then some rest else none
  | c :: cs, .mark symbol joint :: rest =>
    if symbol = c && joint then afterMarks? cs rest else none
  | _, _ => none

/-- Whether some marks that touch one another come next. -/
def isMarkAt (marks : String) (tokens : List Token) : Bool :=
  (afterMarks? marks.toList tokens).isSome

/-- Whether a certain word comes next. -/
def isWordAt (name : String) : List Token → Bool
  | .word other :: _ => other == name
  | _ => false

/-- Whether one of some words comes next. -/
def isAnyWordAt (names : List String) (tokens : List Token) : Bool :=
  names.any (isWordAt · tokens)

/-- Whether a word comes next, be it a keyword or not. -/
def isSomeWordAt : List Token → Bool
  | .word _ :: _ => true
  | _ => false

/-- Whether a word that is no keyword comes next. -/
def isIdentifierAt : List Token → Bool
  | .word name :: _ => !isKeyword name
  | _ => false

/-- Whether a segment of a path comes next. -/
def isSegmentAt : List Token → Bool
  | .word name :: _ => isSegment name
  | _ => false

/-- Whether a word after a single quote comes next. -/
def isLifetimeAt : List Token → Bool
  | .lifetime _ :: _ => true
  | _ => false

/-- Whether a group in certain brackets comes next. -/
def isGroupAt (delimiter : Delimiter) : List Token → Bool
  | .group other _ :: _ => other == delimiter
  | _ => false

/-- Whether a group in any brackets comes next. -/
def isSomeGroupAt : List Token → Bool
  | .group .. :: _ => true
  | _ => false

/-- Whether a number without a sign comes next. -/
def isNumberAt : List Token → Bool
  | .integer .. :: _ | .float _ :: _ => true
  | _ => false

/-- A literal is a token that is one, a truth value, or a number after a minus sign. -/
def isLiteralAt : List Token → Bool
  | .text _ :: _ | .integer .. :: _ | .float _ :: _ | .literal :: _ => true
  | .word name :: _ => name == "true" || name == "false"
  | .mark symbol _ :: rest => symbol == '-' && isNumberAt rest
  | _ => false

/-- What follows a literal. -/
def afterLiteral : List Token → List Token
  | .mark _ _ :: rest => rest.drop 1
  | tokens => tokens.drop 1

end Token
end Sift
