import Sift.Text.Property

/-!
# Conditions on a position

An anchor of a pattern matches no character but asks something of the place where it stands.  All
that it can ask is decided by the characters on both sides: `Condition.holds` is given a
`Position`, which is those two characters.
-/

set_option autoImplicit false
namespace Sift
namespace Regex

/-- Kinds of word boundary, by whether a word stands before and after the position. -/
inductive Boundary where
  | either
  | neither
  | start
  | stop
  | startHalf
  | stopHalf
deriving DecidableEq

/-- What a position must be like.  With `crlf`, a carriage return ends a line too, but no line
ends between it and a line feed. -/
inductive Condition where
  | startOfText
  | endOfText
  | startOfLine (crlf : Bool)
  | endOfLine (crlf : Bool)
  | boundary (kind : Boundary) (unicode : Bool)
deriving DecidableEq

/-- The characters on both sides of a position. -/
structure Position where
  before : Option Char
  after : Option Char

/-- Whether a character is part of a word, by the character set or among the ASCII characters. -/
def isWordChar (unicode : Bool) (c : Char) : Bool :=
  if unicode then Text.isWord c else c.isAlphanum || c == '_'

/-- Whether a boundary lies between two sides, by whether a word stands on each. -/
def Boundary.holds (before after : Bool) : Boundary → Bool
  | .either => before != after
  | .neither => before == after
  | .start => !before && after
  | .stop => before && !after
  | .startHalf => !before
  | .stopHalf => !after

/-- Whether a position meets a condition. -/
def Condition.holds (place : Position) : Condition → Bool
  | .startOfText => place.before.isNone
  | .endOfText => place.after.isNone
  | .startOfLine false => place.before.all (· == '\n')
  | .endOfLine false => place.after.all (· == '\n')
  | .startOfLine true =>
    place.before.all fun c ↦ c == '\n' || (c == '\r' && place.after != some '\n')
  | .endOfLine true =>
    place.after.all fun c ↦ c == '\r' || (c == '\n' && place.before != some '\r')
  | .boundary kind unicode =>
    kind.holds (place.before.any (isWordChar unicode)) (place.after.any (isWordChar unicode))

end Regex
end Sift
