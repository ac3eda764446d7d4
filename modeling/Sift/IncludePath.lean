import Sift.Error
import Sift.OrderedSet

/-!
# Include paths

A path names a relation to load along with an entity, as segments with dots between them.
`IncludePath.parse` and `IncludePath.text` go between the two forms.  Paths are ordered segment by
segment.
-/

set_option autoImplicit false
namespace Sift

/-- A path of relations, the outermost first. -/
structure IncludePath where
  root : String
  nested : List String
deriving DecidableEq

namespace IncludePath

instance : Inhabited IncludePath := ⟨⟨"", []⟩⟩

/-- All segments of a path, the root first. -/
def segments (path : IncludePath) : List String :=
  path.root :: path.nested

/-- The number of segments of a path. -/
def depth (path : IncludePath) : Nat :=
  path.segments.length

/-- Paths are ordered by their segments, and a path before those that go on from it. -/
instance : Ord IncludePath := ⟨fun a b ↦ compare a.segments b.segments⟩

/-- A path as it is written: its segments with dots between them. -/
def text (path : IncludePath) : String :=
  ".".intercalate path.segments

/-! ## Reading -/

/-- The stretches of a text between dots. -/
def splitDots : List Char → List Char × List (List Char)
  | [] => ([], [])
  | c :: rest =>
    let (first, others) := splitDots rest
    if c = '.' then ([], first :: others) else (c :: first, others)

/-- Reads a path; it may not be empty, nor may any of its segments be. -/
def parse (text : String) : Except SpecError IncludePath :=
  if text = "" then .error (.emptyArgument .includePath)
  else
    let (root, nested) := splitDots text.toList
    if root.isEmpty || nested.any (·.isEmpty) then .error (.invalidIncludePath text)
    else .ok ⟨.ofList root, nested.map .ofList⟩

/-- The path that goes on by one segment, which may not be empty or hold a dot. -/
def extend (path : IncludePath) (segment : String) : Except SpecError IncludePath :=
  if segment = "" ∨ '.' ∈ segment.toList then
    .error (.invalidIncludePath (path.text ++ "." ++ segment))
  else .ok { path with nested := path.nested ++ [segment] }

end IncludePath
end Sift
