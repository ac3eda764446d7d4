import Sift.Tag.Token

/-!
# Faults in the writing of a tag

`SyntaxError` says why tokens are no tag, and `SyntaxError.message` puts it in words.  Most faults
are that something is missing; what could have stood there is a list of `ExpectedPart`s.
-/

set_option autoImplicit false
namespace Sift

/-- What can be missing in a tag. -/
inductive ExpectedPart where
  /-- A mark or a keyword. -/
  | sign (text : String)
  | group (delimiter : Delimiter)
  | anyGroup
  | identifier
  | lifetime
  | literal
  | integer
  | unsuffixedInteger
  | pathSegment
  | member
  | expression
  | loopOrBlock
  | rangeEnd
deriving DecidableEq, Repr

/-- What cannot stand after the type that a value is converted to. -/
inductive CastFollower where
  | await
  | methodCall
  | fieldAccess
  | questionMark
  | indexing
  | call
deriving DecidableEq, Repr

/-- Why tokens are no tag. -/
inductive SyntaxError where
  | expected (parts : List ExpectedPart) (atEnd : Bool)
  | keyword (word : String)
  /-- Tokens are left over, in brackets or not. -/
  | leftOver (within : Option Delimiter)
  | missingSemicolon
  | chainedComparison
  | castFollowed (follower : CastFollower) (atEnd : Bool)
  | tagInTag
  | tagOnRange
  | openRangeInSlice
  | unparenthesizedLabel
  | traitMissing (isObject : Bool)
  | numberTooLarge
  | unreadable
deriving DecidableEq

namespace ExpectedPart

/-- How a fault names what was expected. -/
def text : ExpectedPart → String
  | .sign text => "`" ++ text ++ "`"
  | .group .parenthesis => "parentheses"
  | .group .bracket => "square brackets"
  | .group .brace => "curly braces"
  | .anyGroup => "delimiter"
  | .identifier => "identifier"
  | .lifetime => "lifetime"
  | .literal => "literal"
  | .integer => "integer literal"
  | .unsuffixedInteger => "unsuffixed integer"
  | .pathSegment => "path segment after `::`"
  | .member => "identifier or integer"
  | .expression => "an expression"
  | .loopOrBlock => "loop or block expression"
  | .rangeEnd => "range upper bound"

/-- What could have stood somewhere. -/
def listText : List ExpectedPart → String
  | [] => "nothing"
  | [part] => part.text
  | [first, second] => first.text ++ " or " ++ second.text
  | parts => "one of: " ++ ", ".intercalate (parts.map text)

end ExpectedPart

/-- How a fault names what follows a cast. -/
def CastFollower.text : CastFollower → String
  | .await => "`.await`"
  | .methodCall => "a method call"
  | .fieldAccess => "a field access"
  | .questionMark => "`?`"
  | .indexing => "indexing"
  | .call => "a function call"

/-- The bracket that closes a group. -/
def Delimiter.closing : Delimiter → String
  | .parenthesis => ")"
  | .bracket => "]"
  | .brace => "\x7d"

namespace SyntaxError

/-- A message about what comes next says so if nothing does. -/
def atPlace (atEnd : Bool) (message : String) : String :=
  if atEnd then "unexpected end of input, " ++ message else message

/-- The message of a fault. -/
def message : SyntaxError → String
  | .expected parts atEnd => atPlace atEnd ("expected " ++ ExpectedPart.listText parts)
  | .keyword word => "expected identifier, found keyword `" ++ word ++ "`"
  | .leftOver none => "unexpected token"
  | .leftOver (some delimiter) => "unexpected token, expected `" ++ delimiter.closing ++ "`"
  | .missingSemicolon => "unexpected token, expected `;`"
  | .chainedComparison => "comparison operators cannot be chained"
  | .castFollowed follower atEnd => atPlace atEnd ("casts cannot be followed by " ++ follower.text)
  | .tagInTag => "unexpected attribute inside of attribute"
  | .tagOnRange => "attributes are not allowed on range expressions starting with `..`"
  | .openRangeInSlice =>
    "range pattern is not allowed unparenthesized inside slice pattern"
  | .unparenthesizedLabel => "parentheses required"
  | .traitMissing true => "at least one trait is required for an object type"
  | .traitMissing false => "at least one trait must be specified"
  | .numberTooLarge => "number too large to fit in target type"
  | .unreadable => "cannot parse string into token stream"

end SyntaxError
end Sift
