import Sift.Variable

/-!
# Errors

What can be wrong with a specification while it is built.  Each cause is a constructor, and
`SpecError.message` is the wording.
-/

set_option autoImplicit false
namespace Sift

/-- The rules of a criteria chain. -/
inductive ChainRule where
  | groupStartsWithWhere
  | chainStartsWithWhere
  | groupHasOneWhere
deriving DecidableEq, Repr

/-- Sort steps that need a primary key before them. -/
inductive SecondarySort where
  | thenBy
  | nullsFirst
  | nullsLast
deriving DecidableEq, Repr

/-- What a window or page may not be. -/
inductive PaginationFault where
  | takeIsZero
  | pageNumberIsZero
  | pageSizeIsZero
  | offsetOverflows
deriving DecidableEq, Repr

/-- Arguments that may not be empty. -/
inductive RequiredArgument where
  | clauseField
  | sortKey
  | includePath
deriving DecidableEq, Repr

/-- Why a specification cannot be built. -/
inductive SpecError where
  | malformedChain (rule : ChainRule)
  | emptyGroup
  | missingPrimarySort (operation : SecondarySort)
  | invalidPagination (fault : PaginationFault)
  | emptyArgument (argument : RequiredArgument)
  | invalidIncludePath (path : String)
  | unboundVariable (name : Variable)
  | invalidPattern
deriving DecidableEq

/-! ## Wording -/

/-- What a rule of chains demands. -/
def ChainRule.text : ChainRule → String
  | .groupStartsWithWhere => "groups must start with where_()"
  | .chainStartsWithWhere => "and()/or()/not()/group() require a preceding where_()"
  | .groupHasOneWhere => "where_() may only open a group once; use and()/or()"

/-- A call that needs a primary sort, as it is written. -/
def SecondarySort.text : SecondarySort → String
  | .thenBy => "then_by()"
  | .nullsFirst => "nulls_first()"
  | .nullsLast => "nulls_last()"

/-- What is wrong with a window. -/
def PaginationFault.text : PaginationFault → String
  | .takeIsZero => "take must be at least 1"
  | .pageNumberIsZero => "page number must be at least 1"
  | .pageSizeIsZero => "page size must be at least 1"
  | .offsetOverflows => "page offset overflows"

/-- The name of an argument that may not be empty. -/
def RequiredArgument.text : RequiredArgument → String
  | .clauseField => "clause field"
  | .sortKey => "sort key"
  | .includePath => "include path"

/-- The message of an error.  What is wrong with a pattern is not said. -/
def SpecError.message : SpecError → String
  | .malformedChain rule => "malformed criteria chain: " ++ rule.text
  | .emptyGroup => "group produced no condition"
  | .missingPrimarySort operation => operation.text ++ " requires a preceding order_by()"
  | .invalidPagination fault => "invalid pagination: " ++ fault.text
  | .emptyArgument argument => argument.text ++ " must not be empty"
  | .invalidIncludePath path => "invalid include path '" ++ path ++ "': empty segment"
  | .unboundVariable v => "predicate references unbound variable '" ++ v.name ++ "'"
  | .invalidPattern => "invalid regex pattern"

end Sift
