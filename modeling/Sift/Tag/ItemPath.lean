import Sift.Tag.Reader

/-!
# Names of tags

A tag is named by a path: words with two colons between them, and perhaps before them.
-/

set_option autoImplicit false
namespace Sift

/-- Segments of a name with two colons between them, and perhaps before them. -/
structure ItemPath where
  leading : Bool
  first : String
  others : List String
deriving DecidableEq

namespace ItemPath

/-- The name of a path that is a single word. -/
def name? (path : ItemPath) : Option String :=
  if path.leading || !path.others.isEmpty then none else some path.first

/-- Takes a word that may be a segment. -/
def readSegment (expected : ExpectedPart) : Reader String := do
  match ← Reader.tokens with
  | .word name :: rest =>
    if Token.isSegment name then
      Reader.goTo rest
      return name
    else if expected = .identifier then Reader.fail (.keyword name)
    else Reader.missing [expected]
  | _ => Reader.missing [expected]

/-- The segments of a path. -/
def readSegments : Reader ItemPath := do
  let leading ← Reader.takeMark? "::"
  let first ← readSegment .identifier
  let others ← Reader.iterate (fun others ↦ do
    if ← Reader.takeMark? "::" then
      return .more (others ++ [← readSegment .pathSegment])
    else return .done others) []
  return ⟨leading, first, others⟩

/-- The path of a tag.  The word `unsafe` may stand there by itself. -/
def read : Reader ItemPath := do
  if ← Reader.takeWord? "unsafe" then return ⟨false, "unsafe", []⟩ else readSegments

end ItemPath
end Sift
