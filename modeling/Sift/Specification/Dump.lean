import Sift.Dump
import Sift.Specification.Builder

/-!
# Dumps of specifications

`Specification.dumpText` and `SpecificationBuilder.dumpText` show all the parts of a specification
and of a builder, with text in quotes and every number marked with its form.
-/

set_option autoImplicit false
namespace Sift

/-! ## Clauses and predicates -/

/-- A text in quotes. -/
def Dump.ofText (text : String) : Dump := .atom (Text.quoted text)

/-- A whole number. -/
def Dump.ofNat (n : Nat) : Dump := .atom (decimalText n)

/-- The dump of a variable. -/
def Variable.dump (v : Variable) : Dump := .tuple "Var" [.ofText v.name]

/-- The dump of a number, which shows its form. -/
def Number.dump : Number → Dump
  | .signed value => .tuple "I64" [.atom (integerText value.toInt)]
  | .unsigned value => .tuple "U64" [.ofNat value.toNat]
  | .double value => .tuple "F64" [.atom (dumpLayout.text value)]

/-- The dump of an operator. -/
def Operator.dump : Operator → Dump
  | .equal => .atom "Eq"
  | .notEqual => .atom "Ne"
  | .greater => .atom "Gt"
  | .greaterOrEqual => .atom "Gte"
  | .less => .atom "Lt"
  | .lessOrEqual => .atom "Lte"
  | .startsWith => .atom "StartsWith"
  | .endsWith => .atom "EndsWith"
  | .contains => .atom "Contains"
  | .pattern => .atom "Regex"
  | .before => .atom "Before"
  | .after => .atom "After"
  | .oneOf => .atom "In"
  | .is => .atom "Is"
  | .isNull => .atom "IsNull"
  | .notNull => .atom "NotNull"

/-- The dump of an operand; a pattern is shown by its text. -/
def Operand.dump : Operand → Dump
  | .string s => .tuple "String" [.ofText s]
  | .number n => .tuple "Number" [n.dump]
  | .timestamp t =>
    .tuple "Timestamp" [.tuple "Timestamp" [.atom (Number.integerText t.millis.toInt)]]
  | .enumeration d => .tuple "Enum" [.ofNat d.toNat]
  | .enumerationSet ds => .tuple "EnumSet" [.list (ds.map fun d ↦ .ofNat d.toNat)]
  | .bool value => .tuple "Bool" [.atom (if value then "true" else "false")]
  | .pattern p => .tuple "Regex" [.tuple "Pattern" [.tuple "Regex" [.ofText p.source]]]
  | .null => .atom "Null"

/-- The dump of a clause. -/
def Clause.dump (clause : Clause) : Dump :=
  .record "Clause" [("field", .ofText clause.field), ("op", clause.operator.dump),
    ("value", clause.operand.dump)]

/-- The dump of a predicate. -/
def Predicate.dump : Predicate → Dump
  | .leaf v clause => .record "Leaf" [("var", v.dump), ("clause", clause.dump)]
  | .and left right => .record "And" [("left", left.dump), ("right", right.dump)]
  | .or left right => .record "Or" [("left", left.dump), ("right", right.dump)]
  | .not operand => .record "Not" [("node", operand.dump)]
  | .never => .atom "Never"

/-- The dump of a chain, which shows whether it fills a group. -/
def CriteriaChain.dump (chain : CriteriaChain) : Dump :=
  .record "Criteria"
    [("var", chain.var.dump),
      ("scope", .atom (match chain.scope with | .root => "Root" | .group => "Group")),
      ("state", match chain.tree with
        | none => .atom "Empty"
        | some tree => .tuple "Started" [tree.dump])]

/-! ## Sort chains, windows and paths -/

/-- The dump of a sort level. -/
def SortLevel.dump (level : SortLevel) : Dump :=
  .record "SortDescriptor"
    [("key", .ofText level.key),
      ("direction", .atom (match level.direction with
        | .ascending => "Ascending"
        | .descending => "Descending")),
      ("nulls", .atom (match level.nulls with
        | .unspecified => "Unspecified"
        | .first => "NullsFirst"
        | .last => "NullsLast"))]

/-- The dump of a sort chain. -/
def SortChain.dump (chain : SortChain) : Dump :=
  .record "SortChain" [("descriptors", .list (chain.levels.map SortLevel.dump))]

/-- A count that may be left open. -/
def Dump.ofCount (count : Option UInt64) : Dump :=
  .ofOption (fun n ↦ .ofNat n.toNat) count

/-- The dump of a window. -/
def Window.dump (window : Window) : Dump :=
  .record "Window" [("skip", .ofCount window.skip), ("take", .ofCount window.take)]

/-- The dump of an include path. -/
def IncludePath.dump (path : IncludePath) : Dump :=
  .record "EagerPath" [("segments", .list (path.segments.map .ofText))]

/-! ## The whole -/

/-- The text of the dump of a specification. -/
def Specification.dumpText (s : Specification) : String :=
  Dump.text <| .record "Specification"
    [("var", s.var.dump), ("criteria", .ofOption Predicate.dump s.criteria),
      ("sorts", s.sorts.dump), ("window", s.window.dump),
      ("includes", .set (s.includes.map IncludePath.dump))]

/-- The text of the dump of a builder. -/
def SpecificationBuilder.dumpText (b : SpecificationBuilder) : String :=
  Dump.text <| .record "SpecificationBuilder"
    [("criteria", b.criteria.dump), ("sorts", b.sorts.dump), ("window", b.window.dump),
      ("includes", .set (b.includes.map IncludePath.dump))]

end Sift
