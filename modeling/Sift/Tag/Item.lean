import Sift.Tag.Token.Lexer
import Sift.Tag.Value

/-!
# Items of a tag

An `Item` is a path by itself, a path with a value after `=`, or a path with a group.  A tag is
one item, and the group of a tag may hold further items with commas between them:
`Item.ofTokens` reads the former and `Item.listOfTokens` the latter.
-/

set_option autoImplicit false
namespace Sift

/-- A part of a tag. -/
inductive Item where
  | bare (path : ItemPath)
  | assigned (path : ItemPath) (value : ItemValue)
  | list (path : ItemPath) (delimiter : Delimiter) (content : List Token)

namespace Item

/-- The item that starts with a path. -/
def readAfterPath (path : ItemPath) : Reader Item := do
  match ← Reader.tokens with
  | .group delimiter content :: rest =>
    Reader.goTo rest
    return .list path delimiter content
  | tokens =>
    if Grammar.isAssignmentAt tokens && !Token.isMarkAt "==" tokens then
      Reader.takeMark "="
      return .assigned path (← ItemValue.read)
    else return .bare path

/-- One item. -/
def read : Reader Item := do
  readAfterPath (← ItemPath.read)

/-- The item that is the whole of a tag, which stands in square brackets. -/
def ofTokens (tokens : List Token) : Except SyntaxError Item :=
  read.run (some .bracket) tokens

/-- The tag that a text spells. -/
def ofText (text : String) : Except SyntaxError Item :=
  match Token.ofText? text with
  | some tokens => ofTokens tokens
  | none => .error .unreadable

/-- Items with commas between them and perhaps after them.  What is left over inside of a value
does not matter, since no value with a group in it is one that a list of items can do with. -/
def listOfTokens (tokens : List Token) : Except SyntaxError (List Item) :=
  (·.1) <$> StateT.run (Reader.separated read) ⟨tokens, none⟩

end Item
end Sift
