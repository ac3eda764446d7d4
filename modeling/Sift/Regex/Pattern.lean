import Sift.Regex.Automaton
import Sift.Regex.Parser
import Sift.Regex.Property
import Sift.Regex.Room
import Sift.Text.CaseFold

/-!
# Patterns

A `Pattern` is a text that compiles, together with the expression it stands for, so two patterns
with one text are equal (`Pattern.ext_source`).

Compiling works the flags of a pattern into its parts.  A setting of flags holds to the end of the
group it stands in, so `Syntax.toRegex?` passes flags along and hands back those that hold
afterwards.  Classes are worked out as sets.  Without the Unicode flag they are sets of bytes, and
a pattern in which one could match half of a character is refused.
-/

set_option autoImplicit false
namespace Sift
namespace Regex

/-- The flags that hold at a place in a pattern. -/
structure Flags where
  caseInsensitive : Bool
  multiLine : Bool
  dotMatchesNewline : Bool
  unicode : Bool
  crlf : Bool

namespace Flags

/-- The flags at the beginning of a pattern: only the Unicode flag is on. -/
def initial : Flags := ⟨false, false, false, true, false⟩

/-- Turns a flag on or off.  Greed does not decide whether a text matches, and ignored blanks are
gone. -/
def set (flags : Flags) : Flag × Bool → Flags
  | (.caseInsensitive, on) => { flags with caseInsensitive := on }
  | (.multiLine, on) => { flags with multiLine := on }
  | (.dotMatchesNewline, on) => { flags with dotMatchesNewline := on }
  | (.unicode, on) => { flags with unicode := on }
  | (.crlf, on) => { flags with crlf := on }
  | (.swapGreed, _) | (.ignoreWhitespace, _) => flags

/-- Makes the changes of a setting in order. -/
def change (flags : Flags) (change : FlagChange) : Flags :=
  change.foldl set flags

end Flags

/-! ## Sets -/

/-- Adds the other case of ASCII letters. -/
def asciiFoldClosure (s : CodeSet) : CodeSet :=
  let letters (low offset : Nat) : CodeSet :=
    ⟨(List.range 26).filterMap fun i ↦
      if s.containsCode (low + i) then some (offset + i, offset + i) else none⟩
  (s ∪ letters 'a'.toNat 'A'.toNat ∪ letters 'A'.toNat 'a'.toNat).normal

/-- Adds the other cases of letters where case does not count. -/
def fold (flags : Flags) (s : CodeSet) : CodeSet :=
  if !flags.caseInsensitive then s
  else if flags.unicode then Text.foldClosure s
  else asciiFoldClosure s

/-- A set or everything that is not in it.  Without the Unicode flag that would be bytes which are
no characters, and there is none. -/
def negate? (flags : Flags) (negated : Bool) (s : CodeSet) : Option CodeSet :=
  if !negated then some s
  else if flags.unicode then some s.complement
  else none

/-- The set of a class named by a letter. -/
def letterSet? (flags : Flags) (negated : Bool) (kind : LetterClass) : Option CodeSet :=
  negate? flags negated (if flags.unicode then letterClass kind else asciiLetterClass kind)

/-- The set of a property, which only the Unicode flag allows. -/
def propertySet? (flags : Flags) (negated : Bool) (name : String) : Option CodeSet := do
  let query := PropertyQuery.ofText name
  let s ← query.codes?
  if flags.unicode then negate? flags (negated != query.differs) (fold flags s) else none

mutual

/-- The set that a class expression stands for.  Cases are added before a set is negated. -/
def ClassSyntax.set? (flags : Flags) : ClassSyntax → Option CodeSet
  | .code n => if flags.unicode || n < 128 then some (.range n n) else none
  | .range low high => if flags.unicode || high < 128 then some (.range low high) else none
  | .named negated name => negate? flags negated (fold flags (namedClass name))
  | .letter negated kind => letterSet? flags negated kind
  | .property negated name => propertySet? flags negated name
  | .bracketed negated inner => do
    let s ← inner.set? flags
    negate? flags negated (fold flags s)
  | .union items => ClassSyntax.unionOf? flags items
  | .operation operator left right => do
    let s ← left.set? flags
    let t ← right.set? flags
    some <| match operator with
      | .intersection => (fold flags s).inter (fold flags t)
      | .difference => (fold flags s).diff (fold flags t)
      | .symmetricDifference => (fold flags s).symmDiff (fold flags t)

/-- The set of what is in some item. -/
def ClassSyntax.unionOf? (flags : Flags) : List ClassSyntax → Option CodeSet
  | [] => some .empty
  | item :: items => do
    let s ← item.set? flags
    let t ← ClassSyntax.unionOf? flags items
    some (s ∪ t)

end

/-! ## Parts -/

/-- A character of a pattern; without the Unicode flag a code of two digits is a byte. -/
def literal? (flags : Flags) (code : Nat) (isByte : Bool) : Option Regex :=
  if !flags.unicode && isByte && 128 ≤ code then none
  else some (.ofSet (fold flags (.range code code)))

/-- The characters that a dot matches. -/
def dotSet (flags : Flags) : CodeSet :=
  if flags.dotMatchesNewline then .all
  else if flags.crlf then CodeSet.complement ⟨[(10, 10), (13, 13)]⟩
  else CodeSet.complement (.single '\n')

/-- The condition of an anchor.  Unless there are many lines, a line is the whole text. -/
def anchorCondition (flags : Flags) : Anchor → Condition
  | .startOfLine => if flags.multiLine then .startOfLine flags.crlf else .startOfText
  | .endOfLine => if flags.multiLine then .endOfLine flags.crlf else .endOfText
  | .startOfText => .startOfText
  | .endOfText => .endOfText
  | .wordBoundary => .boundary .either flags.unicode
  | .notWordBoundary => .boundary .neither flags.unicode
  | .wordStart => .boundary .start flags.unicode
  | .wordEnd => .boundary .stop flags.unicode
  | .wordStartHalf => .boundary .startHalf flags.unicode
  | .wordEndHalf => .boundary .stopHalf flags.unicode

mutual

/-- What a part of a pattern means under some flags, and the flags that hold after it. -/
def Syntax.toRegex? (flags : Flags) : Syntax → Option (Regex × Flags)
  | .empty => some (.empty, flags)
  | .setFlags change => some (.empty, flags.change change)
  | .literal code isByte => (literal? flags code isByte).map (·, flags)
  | .dot => if flags.unicode then some (.ofSet (dotSet flags), flags) else none
  | .anchor a => some (.condition (anchorCondition flags a), flags)
  | .letter negated kind => do
    let s ← letterSet? flags negated kind
    some (.ofSet s, flags)
  | .property negated name => do
    let s ← propertySet? flags negated name
    some (.ofSet s, flags)
  | .bracketed negated inner => do
    let s ← inner.set? flags
    let s ← negate? flags negated (fold flags s)
    some (.ofSet s, flags)
  | .repetition operand least most => do
    let (regex, after) ← operand.toRegex? flags
    some (.repeated least most regex, after)
  | .group captures change inner => do
    let (regex, _) ← inner.toRegex? (flags.change change)
    some (if captures then .capture regex else regex, flags)
  | .alternation branches => do
    let (regexes, after) ← Syntax.toRegexes? flags branches
    some (.ofBranches regexes, after)
  | .concatenation parts => do
    let (regexes, after) ← Syntax.toRegexes? flags parts
    some (.ofParts regexes, after)

/-- What some parts mean one after another, each under the flags that hold after the one before. -/
def Syntax.toRegexes? (flags : Flags) : List Syntax → Option (List Regex × Flags)
  | [] => some ([], flags)
  | part :: parts => do
    let (first, flags) ← part.toRegex? flags
    let (rest, flags) ← Syntax.toRegexes? flags parts
    some (first :: rest, flags)

end

/-- Reads a pattern and works out what it means.  There is none if the pattern is not well formed
or would take too much room. -/
def compile? (pattern : String) : Option Regex := do
  let tree ← Syntax.parse? pattern
  let (regex, _) ← tree.toRegex? .initial
  if regex.fits then some regex else none

end Regex

/-- A pattern that is known to compile, with what it means. -/
structure Pattern where
  source : String
  regex : Regex
  compiles : Regex.compile? source = some regex

namespace Pattern

/-- Compiles a pattern. -/
def compile? (source : String) : Option Pattern :=
  match h : Regex.compile? source with
  | some regex => some ⟨source, regex, h⟩
  | none => none

/-- A pattern is determined by its text. -/
theorem ext_source {p q : Pattern} (h : p.source = q.source) : p = q := by
  obtain ⟨s, r, hr⟩ := p
  obtain ⟨t, u, hu⟩ := q
  subst h
  have := hr.symm.trans hu
  simp_all

/-- Patterns are compared by their texts. -/
instance : DecidableEq Pattern := fun p q ↦
  decidable_of_iff (p.source = q.source) ⟨ext_source, congrArg source⟩

/-- Whether the pattern matches somewhere in a text. -/
def matchesIn (p : Pattern) (text : String) : Bool :=
  p.regex.search text

theorem compile?_source {source : String} {p : Pattern} (h : compile? source = some p) :
    p.source = source := by
  unfold compile? at h
  split at h
  · cases h; rfl
  · cases h

theorem compile?_of_source (p : Pattern) : compile? p.source = some p := by
  unfold compile?
  split
  · exact congrArg some (ext_source rfl)
  · rename_i h
    rw [p.compiles] at h
    cases h

end Pattern
end Sift
