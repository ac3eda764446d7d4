import Sift.Proofs.Outcome
import Sift.Schema

/-!
# Which names make constants

A schema gives a constant to every name that queries may use, and a constant has to be an
identifier.  Names of fields are written as identifiers, but a tag may put any text in their place.
This file says which texts will do (`Schema.makesConstant`): those that are identifiers once their
words are parted by low lines.  All else that can be wrong with a declaration has a message, and a
name that makes no constant has none.

* `Text.startsIdentifier_toUpper` and `Text.continuesIdentifier_toUpper` — capitals may stand where
  small letters may;
* `Schema.isIdentifier_constantName` — when the constant of a name is an identifier;
* `Schema.ofFields_eq_error_iff` — the first field with an error decides.

`Schema.derive_unreported_iff` is the result.  A name that is an identifier never gets there
(`Schema.makesConstant_of_isIdentifier`), and one in raw form always does
(`Schema.makesConstant_raw`).
-/

set_option autoImplicit false
namespace Sift

/-! ## Capitals -/

namespace Text

/-- Only the letters from `a` to `z` have a capital of their own. -/
theorem toUpper_eq_self_or (c : Char) :
    c.toUpper = c ∨ ∃ i : Fin 26, c = Char.ofNat (97 + i) := by
  by_cases hsmall : c.val ≥ 'a'.val ∧ c.val ≤ 'z'.val
  · have hlow : 97 ≤ c.toNat := hsmall.1
    have hhigh : c.toNat ≤ 122 := hsmall.2
    refine .inr ⟨⟨c.toNat - 97, by omega⟩, ?_⟩
    rw [Nat.add_sub_cancel' hlow, Char.ofNat_toNat]
  · exact .inl (dif_neg hsmall)

theorem toUpper_of_isUppercase {c : Char} (h : isUppercase c = true) : c.toUpper = c := by
  obtain hself | ⟨i, rfl⟩ := toUpper_eq_self_or c
  · exact hself
  · have hsmall : ∀ i : Fin 26, isUppercase (Char.ofNat (97 + i)) = false := by decide
    rw [hsmall i] at h
    cases h

/-- A class that does not tell the small letters of plain text from their capitals does not tell
any character from its capital. -/
theorem isIn_toUpper {rule : Char → Bool}
    (h : ∀ i : Fin 26, rule (Char.ofNat (97 + i)).toUpper = rule (Char.ofNat (97 + i)))
    (others : CodeSet) (c : Char) : isIn rule others c.toUpper = isIn rule others c := by
  obtain hself | ⟨i, rfl⟩ := toUpper_eq_self_or c
  · rw [hself]
  · have hplain : ∀ i : Fin 26, (Char.ofNat (97 + i)).toUpper.toNat < 128 ∧
        (Char.ofNat (97 + i)).toNat < 128 := by decide
    rw [isIn, isIn, if_pos (hplain i).1, if_pos (hplain i).2, h i]

@[simp] theorem startsIdentifier_toUpper (c : Char) :
    startsIdentifier c.toUpper = startsIdentifier c :=
  isIn_toUpper (by decide) _ c

@[simp] theorem continuesIdentifier_toUpper (c : Char) :
    continuesIdentifier c.toUpper = continuesIdentifier c :=
  isIn_toUpper (by decide) _ c

end Text

theorem SchemaError.message?_eq_none {error : SchemaError} :
    error.message? = none ↔ ∃ constant, error = .constantInvalid constant := by
  cases error <;> simp [message?]

namespace Schema

open Text

/-! ## Names -/

/-- Characters that part the words of a name. -/
def partsWords (c : Char) : Bool :=
  c == '_' || c == '-' || c == '.'

/-- Whether a name makes a constant: it starts and goes on as an identifier does, or with a
character that parts words. -/
def makesConstant (name : String) : Bool :=
  match name.toList with
  | [] => false
  | c :: rest => (partsWords c || startsIdentifier c) &&
      rest.all fun d ↦ partsWords d || continuesIdentifier d

/-- What one character of a name becomes. -/
def constantChar (c : Char) : Char :=
  if partsWords c then '_' else c.toUpper

theorem partsWords_iff {c : Char} : partsWords c = true ↔ c = '_' ∨ c = '-' ∨ c = '.' := by
  simp [partsWords, or_assoc]

theorem partsWords_of_isUppercase {c : Char} (h : isUppercase c = true) :
    partsWords c = false := by
  rw [Bool.eq_false_iff]
  intro hparts
  obtain rfl | rfl | rfl := partsWords_iff.mp hparts <;> exact absurd h (by decide)

@[simp] theorem startsIdentifier_constantChar (c : Char) :
    startsIdentifier (constantChar c) = (partsWords c || startsIdentifier c) := by
  have hline : startsIdentifier '_' = true := by decide
  cases hparts : partsWords c <;> simp [constantChar, hparts, hline]

@[simp] theorem continuesIdentifier_constantChar (c : Char) :
    continuesIdentifier (constantChar c) = (partsWords c || continuesIdentifier c) := by
  have hline : continuesIdentifier '_' = true := by decide
  cases hparts : partsWords c <;> simp [constantChar, hparts, hline]

/-- A capital may get a low line before it; apart from that each character becomes one. -/
theorem exists_constantChars_cons (afterSmall : Bool) (c : Char) (rest : List Char) :
    ∃ next, constantChars afterSmall (c :: rest) =
      (if isUppercase c && afterSmall then ['_'] else []) ++
        constantChar c :: constantChars next rest := by
  rw [constantChars]
  by_cases hupper : isUppercase c = true
  · have hchar : constantChar c = c := by
      rw [constantChar, partsWords_of_isUppercase hupper, if_neg Bool.false_ne_true,
        toUpper_of_isUppercase hupper]
    refine ⟨false, ?_⟩
    cases afterSmall <;> simp [hupper, hchar]
  · by_cases hparts : partsWords c = true
    · refine ⟨false, ?_⟩
      simp [hupper, constantChar, hparts, partsWords_iff.mp hparts]
    · refine ⟨isAlphanumeric c, ?_⟩
      simp [hupper, constantChar, hparts, mt partsWords_iff.mpr hparts]

theorem all_constantChars (afterSmall : Bool) (chars : List Char) :
    (constantChars afterSmall chars).all continuesIdentifier =
      chars.all fun c ↦ partsWords c || continuesIdentifier c := by
  induction chars generalizing afterSmall with
  | nil => rfl
  | cons c rest ih =>
    obtain ⟨next, hcons⟩ := exists_constantChars_cons afterSmall c rest
    have hline : continuesIdentifier '_' = true := by decide
    rw [hcons]
    by_cases hparted : (isUppercase c && afterSmall) = true <;> simp [hparted, hline, ih]

/-- **A name makes a constant exactly if what it becomes is an identifier.** -/
theorem isIdentifier_constantName (name : String) :
    isIdentifier (constantName name).toList = makesConstant name := by
  rw [constantName, makesConstant, String.toList_ofList]
  cases name.toList with
  | nil => rfl
  | cons c rest =>
    obtain ⟨next, hcons⟩ := exists_constantChars_cons false c rest
    rw [hcons]
    simp [isIdentifier, all_constantChars]

example : makesConstant "order.lines" = true ∧ makesConstant "two words" = false := by decide

/-- Identifiers make constants. -/
theorem makesConstant_of_isIdentifier {name : String} (h : isIdentifier name.toList = true) :
    makesConstant name = true := by
  rw [makesConstant]
  cases hname : name.toList with
  | nil =>
    rw [hname] at h
    cases h
  | cons c rest =>
    rw [hname, isIdentifier, Bool.and_eq_true, List.all_eq_true] at h
    simp only [h.1, Bool.or_true, Bool.true_and, List.all_eq_true]
    intro d hd
    rw [h.2 d hd, Bool.or_true]

/-- An identifier in raw form makes none, for the sign in it. -/
theorem makesConstant_raw (name : String) : makesConstant ("r#" ++ name) = false := by
  have hsign : (partsWords '#' || continuesIdentifier '#') = false := by decide
  have hchars : ("r#" ++ name).toList = 'r' :: '#' :: name.toList := by
    rw [String.toList_append]
    rfl
  rw [makesConstant, hchars]
  simp [hsign]

/-! ## Fields -/

/-- The name for which a field asks a constant: the one it is given in place of its own, if any.  A
field that is left out asks for none. -/
def queryName? (field : FieldDeclaration) : Option String :=
  match FieldOptions.ofTags field.tags with
  | .ok options =>
    if options.skip || (options.kind.isNone && !options.relation) then none
    else some (options.rename.getD field.name)
  | .error _ => none

theorem constantFor_eq_error {field name : String} {relation : Bool} {error : SchemaError} :
    constantFor field name relation = .error error ↔
      makesConstant name = false ∧ error = .constantInvalid (constantName name) := by
  rw [constantFor, isIdentifier_constantName]
  cases makesConstant name <;> simp [eq_comm]

/-- A field has an error without a message exactly if its name makes no constant. -/
theorem ofField_eq_constantInvalid_iff {field : FieldDeclaration} {constant : String} :
    ofField field = .error (.constantInvalid constant) ↔
      ∃ name, queryName? field = some name ∧ makesConstant name = false ∧
        constant = constantName name := by
  rw [ofField, queryName?]
  cases FieldOptions.ofTags field.tags with
  | error cause => simp
  | ok options =>
    simp only [ofOptions]
    by_cases hleft : (options.skip || (options.kind.isNone && !options.relation)) = true
    · simp [hleft]
    · simp only [hleft, Bool.false_eq_true, if_false, Option.some.injEq, exists_eq_left']
      rw [Except.bind_eq_error, constantFor_eq_error]
      simp [pure, Except.pure]

theorem ofFields_cons_eq_error {field : FieldDeclaration} {fields : List FieldDeclaration}
    {error : SchemaError} : ofFields (field :: fields) = .error error ↔
      ofField field = .error error ∨
        ∃ schema, ofField field = .ok schema ∧ ofFields fields = .error error := by
  rw [ofFields, Except.bind_eq_error]
  refine or_congr_right (exists_congr fun schema ↦ and_congr_right fun _ ↦ ?_)
  rw [Except.bind_eq_error]
  simp [pure, Except.pure]

/-- **The first field with an error decides.** -/
theorem ofFields_eq_error_iff {fields : List FieldDeclaration} {error : SchemaError} :
    ofFields fields = .error error ↔ ∃ before field after, fields = before ++ field :: after ∧
      (∀ earlier ∈ before, ∃ schema, ofField earlier = .ok schema) ∧
      ofField field = .error error := by
  induction fields with
  | nil => simp [ofFields]
  | cons field fields ih =>
    rw [ofFields_cons_eq_error, ih]
    constructor
    · rintro (herror | ⟨schema, hschema, before, failing, after, rfl, hbefore, herror⟩)
      · exact ⟨[], field, fields, rfl, by simp, herror⟩
      · refine ⟨field :: before, failing, after, rfl, ?_, herror⟩
        exact List.forall_mem_cons.mpr ⟨⟨schema, hschema⟩, hbefore⟩
    · rintro ⟨_ | ⟨earlier, before⟩, failing, after, hfields, hbefore, herror⟩
      · obtain ⟨rfl, rfl⟩ := List.cons.inj hfields
        exact .inl herror
      · obtain ⟨rfl, rfl⟩ := List.cons.inj hfields
        obtain ⟨⟨schema, hschema⟩, hbefore⟩ := List.forall_mem_cons.mp hbefore
        exact .inr ⟨schema, hschema, before, failing, after, rfl, hbefore, herror⟩

/-! ## Declarations -/

/-- **All that can be wrong has a message, but for a name that makes no constant.**  Deriving a
schema fails without a message exactly if the declaration is a record, one of its fields asks for a
constant by a name that makes none, and nothing is wrong with the fields before it. -/
theorem derive_unreported_iff (declaration : Declaration) :
    (∃ error, derive declaration = .error error ∧ error.message? = none) ↔
      ∃ before field after name, declaration = .record (before ++ field :: after) ∧
        (∀ earlier ∈ before, ∃ schema, ofField earlier = .ok schema) ∧
        queryName? field = some name ∧ makesConstant name = false := by
  cases declaration with
  | record fields =>
    simp only [derive, ofFields_eq_error_iff, SchemaError.message?_eq_none,
      Declaration.record.injEq]
    constructor
    · rintro ⟨_, ⟨before, field, after, rfl, hbefore, hfield⟩, constant, rfl⟩
      obtain ⟨name, hname, hmakes, -⟩ := ofField_eq_constantInvalid_iff.mp hfield
      exact ⟨before, field, after, name, rfl, hbefore, hname, hmakes⟩
    · rintro ⟨before, field, after, name, rfl, hbefore, hname, hmakes⟩
      have hfield : ofField field = .error (.constantInvalid (constantName name)) :=
        ofField_eq_constantInvalid_iff.mpr ⟨name, hname, hmakes, rfl⟩
      exact ⟨_, ⟨before, field, after, rfl, hbefore, hfield⟩, _, rfl⟩
  | positional | unit | choice | union => simp [derive, SchemaError.message?]

/-- A tag may name a field by a number, which makes no constant. -/
theorem derive_unreported_numberedRename :
    ∃ error, derive (.record [⟨"price", [.list ⟨false, "query", []⟩ .parenthesis
        [.word "Number", .mark ',' false, .word "rename", .mark '=' false, .text "1st"]]⟩]) =
      .error error ∧ error.message? = none :=
  ⟨.constantInvalid "1ST", rfl, rfl⟩

end Schema
end Sift
