import Mathlib.Data.List.Basic
import Mathlib.Data.List.Induction
import Sift.Proofs.Outcome
import Sift.Schema

/-!
# What a declaration derives

The tag of a field is read item by item, and a record field by field.  What comes out can be said
of the lists as a whole.  Whether an item is at fault does not depend on the items before it
(`Item.fault?`), so the first item at fault decides.  If there is none, the last kind and the last
new name count, and a flag counts wherever it stands (`FieldOptions.gathered`).

A computation of this form is `Except.unlessFault`, a value that a fault takes the place of.  Step
by step all of `Schema.derive` is brought to it:

* `FieldOptions.add_eq` — one item;
* `FieldOptions.ofItems_eq` — the items of a tag, which must also go together;
* `FieldOptions.ofTags_eq` — the tags of a field, the first `query` tag being the one that counts;
* `Schema.ofField_eq` and `Schema.ofFields_eq` — fields.

`Schema.derive_record_eq` is the result, and `Schema.derive_leavesOut_iff` says which fields of a
record a schema has nothing for.
-/

set_option autoImplicit false
namespace Sift

/-! ## Items -/

namespace Item

/-- The words that set a flag. -/
def flags : List String := ["skip", "nullable", "relation"]

/-- Whether an item is some word. -/
def isWord (word : String) : Item → Bool
  | .bare path => path.name? == some word
  | .assigned .. | .list .. => false

/-- The kind that an item gives, by itself or after `ty`. -/
def kind? : Item → Option FieldKind
  | .bare path => path.name?.bind FieldKind.ofName?
  | .assigned path (.text name) => if path.name? = some "ty" then FieldKind.ofName? name else none
  | .assigned _ .expression | .list .. => none

/-- The new name that an item gives. -/
def rename? : Item → Option String
  | .assigned path (.text name) => if path.name? = some "rename" then some name else none
  | .bare _ | .assigned _ .expression | .list .. => none

/-- What is wrong with a word that should be a kind. -/
def kindFault? (name : String) : Option TagError :=
  if (FieldKind.ofName? name).isSome then none else some (.unknownKind name)

/-- What is wrong with an item. -/
def fault? : Item → Option TagError
  | .bare path =>
    match path.name? with
    | some word => if word ∈ flags then none else kindFault? word
    | none => some .pathForKind
  | .assigned path value =>
    if path.name? = some "ty" then
      match value with
      | .text name => kindFault? name
      | .expression => some (.textRequired .kind)
    else if path.name? = some "rename" then
      match value with
      | .text _ => none
      | .expression => some (.textRequired .rename)
    else some .unknownKey
  | .list .. => some .unknownGroup

end Item

namespace FieldOptions

/-- Options with what one more item gives. -/
def adding (options : FieldOptions) (item : Item) : FieldOptions where
  kind := item.kind? <|> options.kind
  nullable := options.nullable || item.isWord "nullable"
  relation := options.relation || item.isWord "relation"
  skip := options.skip || item.isWord "skip"
  rename := item.rename? <|> options.rename

/-- A word that should be a kind either is one or is at fault. -/
theorem kindOfName_bind (options : FieldOptions) (name : String) :
    (kindOfName name >>= fun kind ↦ pure { options with kind := some kind }) =
      Except.unlessFault (Item.kindFault? name)
        { options with kind := FieldKind.ofName? name <|> options.kind } := by
  rw [kindOfName, Item.kindFault?]
  cases FieldKind.ofName? name <;> rfl

theorem addWord_eq (options : FieldOptions) {path : ItemPath} {word : String}
    (hpath : path.name? = some word) : options.addWord word =
      Except.unlessFault (Item.fault? (.bare path)) (options.adding (.bare path)) := by
  simp only [Item.fault?, adding, Item.isWord, Item.kind?, Item.rename?, hpath, Option.bind_some]
  unfold addWord
  -- None of the words that set a flag is a kind as well.
  split
  · simp [Item.flags, FieldKind.ofName?]
  · simp [Item.flags, FieldKind.ofName?]
  · simp [Item.flags, FieldKind.ofName?]
  · rename_i hskip hnullable hrelation
    have hflag : word ∉ Item.flags := by
      simp only [Item.flags, List.mem_cons, List.not_mem_nil, or_false, not_or]
      exact ⟨hskip, hnullable, hrelation⟩
    rw [kindOfName_bind, if_neg hflag]
    simp [beq_false_of_ne hskip, beq_false_of_ne hnullable, beq_false_of_ne hrelation]

theorem addAssigned_eq (options : FieldOptions) (path : ItemPath) (value : ItemValue) :
    options.add (.assigned path value) =
      Except.unlessFault (Item.fault? (.assigned path value))
        (options.adding (.assigned path value)) := by
  simp only [add, Item.fault?, adding, Item.isWord, Bool.or_false]
  split
  · rename_i hty
    cases value with
    | text name =>
      rw [textFor, Except.ok_bind, kindOfName_bind]
      simp [hty, Item.kind?, Item.rename?]
    | expression =>
      rw [if_pos hty]
      rfl
  · rename_i hrename
    cases value with
    | text name =>
      rw [textFor, Except.ok_bind]
      simp [hrename, Item.kind?, Item.rename?, pure, Except.pure]
    | expression =>
      rw [hrename]
      rfl
  · rename_i hty hrename
    rw [if_neg hty, if_neg hrename]
    rfl

/-- **What is wrong with an item does not depend on what was said before.** -/
theorem add_eq (options : FieldOptions) (item : Item) :
    options.add item = Except.unlessFault item.fault? (options.adding item) := by
  cases item with
  | bare path =>
    cases hpath : path.name? with
    | none => simp [add, Item.fault?, hpath]
    | some word => simp [add, hpath, addWord_eq options hpath]
  | assigned path value => exact options.addAssigned_eq path value
  | list path delimiter content => rfl

/-! ## Tags -/

/-- What items add up to: the last kind, the last new name, and a flag wherever it stands. -/
def gathered (items : List Item) : FieldOptions where
  kind := (items.filterMap Item.kind?).getLast?
  nullable := items.any (Item.isWord "nullable")
  relation := items.any (Item.isWord "relation")
  skip := items.any (Item.isWord "skip")
  rename := (items.filterMap Item.rename?).getLast?

theorem getLast?_filterMap_concat {α β : Type} (f : α → Option β) (items : List α) (item : α) :
    ((items ++ [item]).filterMap f).getLast? = (f item <|> (items.filterMap f).getLast?) := by
  cases h : f item <;> simp [h]

theorem gathered_concat (items : List Item) (item : Item) :
    gathered (items ++ [item]) = (gathered items).adding item := by
  simp only [gathered, adding, getLast?_filterMap_concat, List.any_append, List.any_cons,
    List.any_nil, Bool.or_false]

/-- Adding items one by one gathers them. -/
theorem foldl_adding (items : List Item) : items.foldl adding none = gathered items := by
  induction items using List.reverseRecOn with
  | nil => rfl
  | append_singleton items item ih =>
    rw [List.foldl_append, ih, gathered_concat, List.foldl_cons, List.foldl_nil]

/-- Which options do not go together. -/
def clash? (options : FieldOptions) : Option TagError :=
  if options.relation = true ∧ options.kind ≠ .none then some .relationWithKind
  else if options.nullable = true ∧ options.kind = .none then some .nullableWithoutKind
  else .none

theorem checked_eq (options : FieldOptions) :
    options.checked = Except.unlessFault options.clash? options := by
  obtain ⟨kind, nullable, relation, skip, rename⟩ := options
  cases kind <;> cases nullable <;> cases relation <;> rfl

/-- What is wrong with the items of a tag: the first one that is at fault, or else that what they
add up to does not go together. -/
def itemsFault? (items : List Item) : Option TagError :=
  items.findSome? Item.fault? <|> (gathered items).clash?

/-- **The items of a tag give what they add up to, unless something is wrong with them.** -/
theorem ofItems_eq (items : List Item) :
    ofItems items = Except.unlessFault (itemsFault? items) (gathered items) := by
  rw [ofItems, Except.foldlM_unlessFault add_eq, foldl_adding]
  simp only [checked_eq]
  exact Except.unlessFault_bind _ _ clash? id

end FieldOptions

/-- The items of a tag, or why it has none. -/
def Item.entries : Item → Except TagError (List Item)
  | .bare _ => .error .argumentsMissing
  | .assigned .. => .error .parenthesesMissing
  | .list _ _ content =>
    match listOfTokens content with
    | .ok items => .ok items
    | .error cause => .error (.invalidSyntax cause)

namespace FieldDeclaration

/-- The first `query` tag of a field. -/
def queryTag? (field : FieldDeclaration) : Option Item :=
  field.tags.find? FieldOptions.isQuery

/-- The items of the first `query` tag of a field. -/
def items (field : FieldDeclaration) : List Item :=
  match field.queryTag?.map Item.entries with
  | some (.ok items) => items
  | some (.error _) | none => []

/-- What is wrong with the first `query` tag of a field. -/
def fault? (field : FieldDeclaration) : Option TagError :=
  match field.queryTag?.map Item.entries with
  | some (.ok items) => FieldOptions.itemsFault? items
  | some (.error cause) => some cause
  | none => none

/-- The options that the items of a field add up to. -/
def options (field : FieldDeclaration) : FieldOptions :=
  .gathered field.items

end FieldDeclaration

theorem FieldOptions.ofTag_eq (tag : Item) : ofTag tag = tag.entries >>= ofItems := by
  cases tag with
  | bare path | assigned path value => rfl
  | list path delimiter content =>
    rw [ofTag, Item.entries]
    cases Item.listOfTokens content <;> rfl

/-- **The tags of a field give the options that the items of its `query` tag add up to, unless
something is wrong with it.** -/
theorem FieldOptions.ofTags_eq (field : FieldDeclaration) :
    ofTags field.tags = Except.unlessFault field.fault? field.options := by
  rw [ofTags, FieldDeclaration.fault?, FieldDeclaration.options, FieldDeclaration.items,
    FieldDeclaration.queryTag?]
  cases field.tags.find? isQuery with
  | none => rfl
  | some tag =>
    simp only [ofTag_eq, Option.map_some]
    cases tag.entries with
    | error cause => rfl
    | ok items => exact ofItems_eq items

/-! ## Fields -/

namespace FieldOptions

/-- Whether queries have a use for a field: it is not skipped, and has a kind or is a relation. -/
def isUsed (options : FieldOptions) : Bool :=
  !options.skip && (options.kind.isSome || options.relation)

theorem not_isUsed (options : FieldOptions) :
    (options.skip || (options.kind.isNone && !options.relation)) = !options.isUsed := by
  rw [isUsed]
  cases options.skip <;> cases options.kind <;> cases options.relation <;> rfl

/-- Where options go together, a field in use has no kind exactly if it is a relation. -/
theorem kind_eq_none_iff {options : FieldOptions} (hclash : options.clash? = .none)
    (hused : options.isUsed = true) : options.kind = .none ↔ options.relation = true := by
  rw [clash?] at hclash
  rw [isUsed, Bool.and_eq_true, Bool.or_eq_true] at hused
  constructor
  · intro hkind
    obtain hsome | hrelation := hused.2
    · rw [hkind] at hsome
      cases hsome
    · exact hrelation
  · intro hrelation
    by_contra hkind
    rw [if_pos ⟨hrelation, hkind⟩] at hclash
    cases hclash

end FieldOptions

namespace FieldDeclaration

/-- The constant of a field that queries have a use for; its value is the new name of the field or
else the one it has. -/
def constant? (field : FieldDeclaration) : Option NameConstant :=
  if field.options.isUsed then
    let name := field.options.rename.getD field.name
    let use := if field.options.relation then "Eager-load path for `" else "Query name of `"
    some ⟨Schema.constantName name, name, use ++ field.name ++ "`."⟩
  else none

/-- What queries can read of a field: one with a constant and a kind, under the value of the
constant. -/
def readable? (field : FieldDeclaration) : Option ReadableField := do
  let constant ← field.constant?
  let kind ← field.options.kind
  return ⟨field.name, constant.value, kind, field.options.nullable⟩

/-- What is wrong with the constant of a field. -/
def constantFault? (field : FieldDeclaration) : Option SchemaError := do
  let constant ← field.constant?
  if Text.isIdentifier constant.name.toList then none
  else some (.constantInvalid constant.name)

/-- What is wrong with a field: its tag, or else its constant. -/
def error? (field : FieldDeclaration) : Option SchemaError :=
  field.fault?.map .tag <|> field.constantFault?

end FieldDeclaration

namespace Schema

theorem ofOptions_eq (field : FieldDeclaration) : ofOptions field.name field.options =
    Except.unlessFault field.constantFault? ⟨field.constant?.toList, field.readable?.toList⟩ := by
  rw [ofOptions, FieldOptions.not_isUsed, FieldDeclaration.constantFault?,
    FieldDeclaration.readable?, FieldDeclaration.constant?]
  cases field.options.isUsed with
  | false => rfl
  | true =>
    simp only [Bool.not_true, Bool.false_eq_true, if_false, if_true, constantFor,
      Option.bind_eq_bind, Option.bind_some]
    split
    · cases field.options.kind <;> rfl
    · rfl

/-- A field adds its constant and what can be read of it, unless something is wrong. -/
theorem ofField_eq (field : FieldDeclaration) : ofField field =
    Except.unlessFault field.error? ⟨field.constant?.toList, field.readable?.toList⟩ := by
  rw [ofField, FieldOptions.ofTags_eq, FieldDeclaration.error?]
  cases field.fault? with
  | none => exact ofOptions_eq field
  | some cause => rfl

/-- **Fields add what each of them adds, in order, unless something is wrong with one.** -/
theorem ofFields_eq (fields : List FieldDeclaration) : ofFields fields =
    Except.unlessFault (fields.findSome? FieldDeclaration.error?)
      ⟨fields.filterMap FieldDeclaration.constant?,
        fields.filterMap FieldDeclaration.readable?⟩ := by
  induction fields with
  | nil => rfl
  | cons field fields ih =>
    rw [ofFields, ofField_eq, ih, List.findSome?_cons]
    cases hfield : field.error? with
    | some error => rfl
    | none =>
      cases fields.findSome? FieldDeclaration.error? with
      | some error => rfl
      | none =>
        simp only [Except.unlessFault_none, List.filterMap_cons]
        cases field.constant? <;> cases field.readable? <;> rfl

/-! ## Records -/

/-- Where constants can be named as they should be, only tags are at fault. -/
theorem error?_eq_of_isIdentifier {field : FieldDeclaration}
    (hname : field.fault? = none → ∀ constant ∈ field.constant?,
      Text.isIdentifier constant.name.toList = true) :
    field.error? = field.fault?.map .tag := by
  rw [FieldDeclaration.error?, FieldDeclaration.constantFault?]
  cases hfault : field.fault? with
  | some cause => rfl
  | none =>
    cases hconstant : field.constant? with
    | none => rfl
    | some constant => simp [hname hfault constant hconstant]

/-- **What comes of a record.**  Where constants can be named as they should be, the first field
with something wrong in its tag decides.  Otherwise each field adds its constant and what can be
read of it, in order. -/
theorem derive_record_eq {fields : List FieldDeclaration}
    (hnames : ∀ field ∈ fields, field.fault? = none → ∀ constant ∈ field.constant?,
      Text.isIdentifier constant.name.toList = true) :
    derive (.record fields) =
      match fields.findSome? FieldDeclaration.fault? with
      | some cause => .error (.tag cause)
      | none => .ok ⟨fields.filterMap FieldDeclaration.constant?,
          fields.filterMap FieldDeclaration.readable?⟩ := by
  have hfaults : fields.findSome? FieldDeclaration.error? =
      (fields.findSome? FieldDeclaration.fault?).map .tag := by
    rw [List.map_findSome?, ← List.head?_filterMap, ← List.head?_filterMap]
    exact congrArg List.head? (List.filterMap_congr fun field hfield ↦
      error?_eq_of_isIdentifier (hnames field hfield))
  rw [derive, ofFields_eq, hfaults]
  cases fields.findSome? FieldDeclaration.fault? <;> rfl

/-- The last kind and the last new name count. -/
theorem derive_record_eq_product :
    let query (content : List Token) := Item.list ⟨false, "query", []⟩ .parenthesis content
    let fields : List FieldDeclaration := [
      ⟨"price", [query [.word "String", .mark ',' false, .word "nullable", .mark ',' false,
        .word "rename", .mark '=' false, .text "unit-price", .mark ',' false, .word "number"]]⟩,
      ⟨"supplier", [query [.word "relation"]]⟩,
      ⟨"cacheKey", [query [.word "skip", .mark ',' false, .word "Bool"]]⟩,
      ⟨"notes", []⟩]
    (∀ field ∈ fields, field.fault? = none → ∀ constant ∈ field.constant?,
      Text.isIdentifier constant.name.toList = true) ∧
    derive (.record fields) = .ok
      ⟨[⟨"UNIT_PRICE", "unit-price", "Query name of `price`."⟩,
        ⟨"SUPPLIER", "supplier", "Eager-load path for `supplier`."⟩],
      [⟨"price", "unit-price", .number, true⟩]⟩ := by
  intro query fields
  have hnames : ∀ field ∈ fields, field.fault? = none → ∀ constant ∈ field.constant?,
      Text.isIdentifier constant.name.toList = true := by decide
  have hfaults : fields.findSome? FieldDeclaration.fault? = none := by decide
  have hconstants : fields.filterMap FieldDeclaration.constant? =
      [⟨"UNIT_PRICE", "unit-price", "Query name of `price`."⟩,
        ⟨"SUPPLIER", "supplier", "Eager-load path for `supplier`."⟩] := by decide
  have hreadable : fields.filterMap FieldDeclaration.readable? =
      [⟨"price", "unit-price", .number, true⟩] := by decide
  refine ⟨hnames, ?_⟩
  rw [derive_record_eq hnames, hfaults, hconstants, hreadable]

/-- A tag may have its items in square brackets, and a name with colons before it is no word. -/
theorem derive_bracketedTag :
    derive (.record [⟨"price", [.list ⟨false, "query", []⟩ .bracket [.word "Number"]]⟩]) =
      .ok ⟨[⟨"PRICE", "price", "Query name of `price`."⟩], [⟨"price", "price", .number, false⟩]⟩ ∧
    derive (.record [⟨"price", [.list ⟨false, "query", []⟩ .parenthesis
        [.mark ':' true, .mark ':' false, .word "Number"]]⟩]) = .error (.tag .pathForKind) :=
  ⟨rfl, rfl⟩

/-! ## Fields left out -/

theorem isUsed_options_eq_false (field : FieldDeclaration) :
    field.options.isUsed = false ↔ (∃ item ∈ field.items, item.isWord "skip" = true) ∨
      ∀ item ∈ field.items, item.kind? = none ∧ item.isWord "relation" = false := by
  have hkind : (field.items.filterMap Item.kind?).getLast?.isSome = false ↔
      ∀ item ∈ field.items, item.kind? = none := by
    rw [Option.isSome_eq_false_iff, Option.isNone_iff_eq_none, List.getLast?_eq_none_iff,
      List.filterMap_eq_nil_iff]
  simp only [FieldDeclaration.options, FieldOptions.gathered, FieldOptions.isUsed,
    Bool.and_eq_false_iff, Bool.not_eq_false', Bool.or_eq_false_iff, hkind, List.any_eq_true,
    List.any_eq_false, Bool.not_eq_true, ← forall₂_and]

theorem constant?_eq_none (field : FieldDeclaration) :
    field.constant? = none ↔ field.options.isUsed = false := by
  rw [FieldDeclaration.constant?]
  cases field.options.isUsed <;> simp

theorem clash?_options_eq_none {field : FieldDeclaration} (h : field.error? = none) :
    field.options.clash? = none := by
  have hfault : field.fault? = none := by
    simp only [FieldDeclaration.error?, Option.orElse_eq_orElse, Option.orElse_eq_or,
      Option.or_eq_none_iff] at h
    exact Option.map_eq_none_iff.mp h.1
  rw [FieldDeclaration.fault?] at hfault
  rw [FieldDeclaration.options, FieldDeclaration.items]
  split at hfault
  · simp only [FieldOptions.itemsFault?, Option.orElse_eq_orElse, Option.orElse_eq_or,
      Option.or_eq_none_iff] at hfault
    exact hfault.2
  · cases hfault
  · rfl

/-- Where the options go together, what has a constant can be read unless it is a relation. -/
theorem readable?_eq_none {field : FieldDeclaration} (h : field.options.clash? = none) :
    field.readable? = none ↔ field.constant? = none ∨ field.options.relation = true := by
  rw [FieldDeclaration.readable?]
  cases hconstant : field.constant? with
  | none => simp
  | some constant =>
    have hused : field.options.isUsed = true := by
      rw [← Bool.not_eq_false, ← constant?_eq_none, hconstant]
      exact nofun
    rw [← FieldOptions.kind_eq_none_iff h hused]
    cases field.options.kind <;> simp

/-- **Which fields a schema has nothing for.**  A field has no constant exactly if its tag has the
word that skips it, or neither a kind nor the word for relations in it, as without a tag.  What has
a constant can be read unless it is a relation. -/
theorem derive_leavesOut_iff {fields : List FieldDeclaration} {schema : Schema}
    (h : derive (.record fields) = .ok schema) :
    schema.constants = fields.filterMap FieldDeclaration.constant? ∧
    schema.fields = fields.filterMap FieldDeclaration.readable? ∧
    ∀ field ∈ fields,
      (field.constant? = none ↔ (∃ item ∈ field.items, item.isWord "skip" = true) ∨
        ∀ item ∈ field.items, item.kind? = none ∧ item.isWord "relation" = false) ∧
      (field.readable? = none ↔ field.constant? = none ∨
        ∃ item ∈ field.items, item.isWord "relation" = true) := by
  rw [derive, ofFields_eq, Except.unlessFault_eq_ok] at h
  obtain ⟨hfaults, rfl⟩ := h
  refine ⟨rfl, rfl, fun field hfield ↦ ⟨?_, ?_⟩⟩
  · rw [constant?_eq_none, isUsed_options_eq_false]
  · have hclash : field.options.clash? = none :=
      clash?_options_eq_none (List.findSome?_eq_none_iff.mp hfaults field hfield)
    rw [readable?_eq_none hclash, FieldDeclaration.options, FieldOptions.gathered, List.any_eq_true]

theorem derive_leavesOut_iff_product :
    let query (content : List Token) := Item.list ⟨false, "query", []⟩ .parenthesis content
    let fields : List FieldDeclaration := [⟨"name", [query [.word "String"]]⟩,
      ⟨"supplier", [query [.word "relation"]]⟩,
      ⟨"price", [query [.word "rename", .mark '=' false, .text "cost"]]⟩, ⟨"notes", []⟩]
    derive (.record fields) = .ok ⟨[⟨"NAME", "name", "Query name of `name`."⟩,
      ⟨"SUPPLIER", "supplier", "Eager-load path for `supplier`."⟩],
      [⟨"name", "name", .string, false⟩]⟩ ∧
    ∀ field ∈ fields, field.constant? = none ↔
      (∃ item ∈ field.items, item.isWord "skip" = true) ∨
        ∀ item ∈ field.items, item.kind? = none ∧ item.isWord "relation" = false := by
  intro query fields
  have hderive : derive (.record fields) = .ok ⟨[⟨"NAME", "name", "Query name of `name`."⟩,
      ⟨"SUPPLIER", "supplier", "Eager-load path for `supplier`."⟩],
      [⟨"name", "name", .string, false⟩]⟩ := by decide
  exact ⟨hderive, fun field hfield ↦ ((derive_leavesOut_iff hderive).2.2 field hfield).1⟩

/-- A tag that only gives a new name is taken without a word, and the field is left out. -/
theorem derive_renamedOnly :
    let price : FieldDeclaration := ⟨"price", [.list ⟨false, "query", []⟩ .parenthesis
      [.word "rename", .mark '=' false, .text "cost"]]⟩
    price.queryTag?.isSome = true ∧ (∀ item ∈ price.items, item.isWord "skip" = false) ∧
      derive (.record [price]) = .ok ⟨[], []⟩ :=
  ⟨rfl, by decide, rfl⟩

end Schema
end Sift
