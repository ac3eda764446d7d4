import Sift.Proofs.RoundTrip
import Sift.Proofs.ScannedValues

/-!
# Canonical texts

A specification can be written in many ways: with blanks and members that are skipped, as arrays or
as objects, with what is not asked for given or left out.  Reading it and writing what was read
leaves one of them, and reading that one changes nothing more.

What can stand in the way is a number that has another form once it is stored, or criteria that
nest deeper when they are written than when they were read.  Neither comes out of a text:
`Predicate.Fits` is what the criteria are that are read at a level, by induction on what they are
read from (`Predicate.fits_ofReadable`).

* `Json.Scanned.foldlM_fields` — what a reader keeps from field to field, each of which can be
  scanned one level further in, holds of the record;
* `Predicate.Fits.depth`, `isExpressible` and `stored_eq` — what fits is stored as it is;
* `Specification.ofJsonText_canonical` — hence what is written is read as what it was.
-/

set_option autoImplicit false
namespace Sift

/-! ## Records -/

namespace Json

variable {level : Nat} {v : Json}

/-- What may be taken apart is within the limit, and its parts are inside it. -/
theorem Scanned.items {items : List Json} (h : Scanned level (.array items)) :
    level < nestingLimit ∧ ∀ item ∈ items, Scanned (level + 1) item := by
  cases h with
  | array hlevel hitems => exact ⟨hlevel, hitems⟩

theorem Scanned.members {members : List (String × Json)} (h : Scanned level (.object members)) :
    level < nestingLimit ∧ ∀ member ∈ members, Scanned (level + 1) member.2 := by
  cases h with
  | object hlevel hmembers => exact ⟨hlevel, hmembers⟩

theorem Scanned.fields {names : List String} {fields : List (String × Json)}
    (h : Scanned level v) (hfields : v.readFields names = .ok fields) :
    level < nestingLimit ∧ ∀ field ∈ fields, Scanned (level + 1) field.2 := by
  rw [readFields.eq_def] at hfields
  split at hfields
  · obtain rfl := Except.ok.inj hfields
    exact h.members
  · split at hfields
    · obtain rfl := Except.ok.inj hfields
      obtain ⟨hlevel, hitems⟩ := h.items
      exact ⟨hlevel, fun field hfield ↦ hitems _ (List.of_mem_zip hfield).2⟩
    · cases hfields
  · cases hfields

/-- What every field keeps holds of the whole record, where a field can be scanned one level further
in than the record. -/
theorem Scanned.foldlM_fields {β : Type} {names : List String} {fields : List (String × Json)}
    {add : β → String × Json → Read β} {motive : β → Prop} {start last : β}
    (hv : Scanned level v) (hfields : v.readFields names = .ok fields)
    (hadd : ∀ {draft field next}, Scanned (level + 1) field.2 → motive draft →
      add draft field = .ok next → motive next)
    (hstart : motive start) (h : fields.foldlM add start = .ok last) :
    level < nestingLimit ∧ motive last := by
  obtain ⟨hlevel, hparts⟩ := hv.fields hfields
  exact ⟨hlevel, Except.foldlM_induction_mem (fun hfield ↦ hadd (hparts _ hfield)) hstart h⟩

theorem readNumber_eq_ok {n : Number} (h : v.readNumber = .ok n) : v = .number n := by
  rw [readNumber.eq_def] at h
  split at h
  · rw [Except.ok.inj h]
  · cases h

theorem readOption_eq_ok_some {α : Type} {read : Json → Read α} {a : α}
    (h : v.readOption read = .ok (some a)) : read v = .ok a := by
  rw [readOption.eq_def] at h
  split at h
  · cases h
  · obtain ⟨b, hb, hba⟩ := Except.map_eq_ok.mp h
    rw [hb, Option.some.inj hba]

theorem required_eq_ok {α : Type} {field : Option α} {a : α} :
    required field = .ok a ↔ field = some a := by
  cases field with
  | none => exact ⟨nofun, nofun⟩
  | some b => rw [required, Except.ok.injEq, Option.some.injEq]

end Json

/-! ## Operands -/

namespace Operand

/-- An operand that is stored as it is, inside so many open arrays and objects. -/
structure Fits (level : Nat) (operand : Operand) : Prop where
  depth : level + operand.toJson.depth ≤ Json.nestingLimit
  isExpressible : operand.isExpressible = true
  stored_eq : operand.stored = operand

variable {level : Nat}

/-- A set is stored as an array, and no other operand is. -/
theorem depth_toJson (operand : Operand) : operand.toJson.depth =
    match operand with
    | .enumerationSet _ => 2
    | _ => 1 := by
  cases operand with
  | number n => rcases n with _ | _ | (_ | _ | _) <;> rfl
  | enumerationSet ds =>
    have hitems : Json.depthOfItems (ds.map Json.ofUInt32) ≤ 0 :=
      Json.depthOfItems_map_le (fun _ ↦ Nat.le_refl 0) ds
    show max 0 (max (Json.depthOfItems (ds.map Json.ofUInt32) + 1) 0) + 1 = 2
    omega
  | _ => rfl

theorem fits_ofKind {kind : String} {content : Option Json} {operand : Operand}
    (hlevel : level < Json.nestingLimit) (hcontent : ∀ v ∈ content, Json.Scanned (level + 1) v)
    (h : ofKind kind content = .ok operand) : operand.Fits level := by
  rw [ofKind.eq_def] at h
  split at h
  case h_2 v =>
    obtain ⟨n, hn, rfl⟩ := Except.map_eq_ok.mp h
    obtain rfl := Json.readNumber_eq_ok hn
    cases hcontent _ rfl with
    | number hstored => exact ⟨by rw [depth_toJson]; exact hlevel, hstored.1, congrArg _ hstored.2⟩
  case h_5 v =>
    obtain ⟨ds, hds, rfl⟩ := Except.map_eq_ok.mp h
    obtain ⟨items, rfl, -⟩ := Json.readList_eq_ok hds
    have hinside := (hcontent _ rfl).items.1
    exact ⟨by rw [depth_toJson]; exact hinside, rfl, rfl⟩
  case h_9 =>
    cases h
    exact ⟨hlevel, rfl, rfl⟩
  case h_10 => cases h
  all_goals
    obtain ⟨_, -, rfl⟩ := Except.map_eq_ok.mp h
    exact ⟨hlevel, rfl, rfl⟩

/-- Whether the content of an operand can be scanned, if it was read so far. -/
def Draft.Fits (level : Nat) (draft : Draft) : Prop :=
  ∀ v ∈ draft.content, Json.Scanned level v

theorem Draft.Fits.add {held : Bool} {draft next : Draft} {field : String × Json}
    (hfield : Json.Scanned level field.2) (hdraft : draft.Fits level)
    (h : draft.add held field = .ok next) : next.Fits level := by
  rw [Draft.add.eq_def] at h
  split at h
  · obtain ⟨-, _, -, rfl⟩ := Json.bind_setOnce_eq_ok.mp h
    exact hdraft
  · obtain ⟨-, v, hv, rfl⟩ := Json.bind_setOnce_eq_ok.mp h
    obtain rfl := Except.ok.inj hv
    rintro _ ⟨⟩
    exact hfield
  · obtain rfl := Except.ok.inj h
    exact hdraft

theorem fits_ofJson {held : Bool} {v : Json} {operand : Operand} (hv : Json.Scanned level v)
    (h : ofJson held v = .ok operand) : operand.Fits level := by
  rw [ofJson.eq_def] at h
  split at h
  case h_1 members =>
    obtain ⟨draft, hdraft, h⟩ := Except.bind_eq_ok.mp h
    obtain ⟨kind, -, h⟩ := Except.bind_eq_ok.mp h
    obtain ⟨hlevel, hmembers⟩ := hv.members
    have hstart : Draft.Fits (level + 1) ⟨none, none⟩ := nofun
    have hcontent : draft.Fits (level + 1) :=
      Except.foldlM_induction_mem (fun hfield ↦ Draft.Fits.add (hmembers _ hfield)) hstart hdraft
    exact fits_ofKind hlevel hcontent h
  case h_2 front content =>
    obtain ⟨kind, -, h⟩ := Except.bind_eq_ok.mp h
    obtain ⟨hlevel, hitems⟩ := hv.items
    refine fits_ofKind hlevel ?_ h
    rintro _ ⟨⟩
    exact hitems content (by simp)
  case h_3 => cases h

end Operand

/-! ## Clauses -/

namespace Clause

variable {level : Nat}

/-- Whether the operand of a clause fits at a level, if it was read so far. -/
def Draft.Fits (level : Nat) (draft : Draft) : Prop :=
  ∀ operand ∈ draft.operand, operand.Fits level

theorem Draft.Fits.add {held : Bool} {draft next : Draft} {field : String × Json}
    (hfield : Json.Scanned level field.2) (hdraft : draft.Fits level)
    (h : draft.add held field = .ok next) : next.Fits level := by
  rw [Draft.add.eq_def] at h
  split at h
  case h_3 json =>
    obtain ⟨-, operand, hread, rfl⟩ := Json.bind_setOnce_eq_ok.mp h
    rintro _ ⟨⟩
    exact Operand.fits_ofJson hfield hread
  case h_4 =>
    obtain rfl := Except.ok.inj h
    exact hdraft
  all_goals
    obtain ⟨-, _, -, rfl⟩ := Json.bind_setOnce_eq_ok.mp h
    exact hdraft

/-- The operand of a clause is one level inside it. -/
theorem fits_ofJson {held : Bool} {v : Json} {clause : Clause} (hv : Json.Scanned level v)
    (h : ofJson held v = .ok clause) : clause.operand.Fits (level + 1) := by
  obtain ⟨fields, hfields, h⟩ := Except.bind_eq_ok.mp h
  obtain ⟨draft, hdraft, h⟩ := Except.bind_eq_ok.mp h
  obtain ⟨field, -, h⟩ := Except.bind_eq_ok.mp h
  obtain ⟨operator, -, h⟩ := Except.bind_eq_ok.mp h
  obtain ⟨operand, hoperand, h⟩ := Except.bind_eq_ok.mp h
  obtain rfl := Except.ok.inj h
  have hstart : Draft.Fits (level + 1) ⟨none, none, none⟩ := fun _ ↦ nofun
  obtain ⟨-, hfits⟩ := hv.foldlM_fields hfields Draft.Fits.add hstart hdraft
  exact hfits operand (Json.required_eq_ok.mp hoperand)

end Clause

/-! ## Predicates -/

namespace Predicate

variable {level : Nat}

/-- What fits inside so many open arrays and objects: the operands of its leaves do where they
stand, and what has no parts is within the limit. -/
def Fits (level : Nat) : Predicate → Prop
  | .leaf _ clause => clause.operand.Fits (level + 2)
  | .and left right | .or left right => left.Fits (level + 1) ∧ right.Fits (level + 1)
  | .not operand => operand.Fits (level + 1)
  | .never => level < Json.nestingLimit

namespace Fits

/-- **What fits is written within the limit.** -/
theorem depth {p : Predicate} (h : p.Fits level) :
    level + p.toJson.depth ≤ Json.nestingLimit := by
  induction p generalizing level with
  | leaf v clause =>
    have hdepth : (leaf v clause).toJson.depth = clause.operand.toJson.depth + 2 := rfl
    have hoperand := Operand.Fits.depth h
    omega
  | and left right ihl ihr | or left right ihl ihr =>
    have hleft := ihl h.1
    have hright := ihr h.2
    rw [toJson]
    show level + (max 0 (max left.toJson.depth (max right.toJson.depth 0)) + 1) ≤ _
    omega
  | not operand ih =>
    have hoperand := ih h
    rw [toJson]
    show level + (max 0 (max operand.toJson.depth 0) + 1) ≤ _
    omega
  | never => exact h

theorem isExpressible {p : Predicate} (h : p.Fits level) : p.isExpressible = true := by
  induction p generalizing level with
  | leaf v clause =>
    rw [isExpressible_leaf]
    exact Operand.Fits.isExpressible h
  | and left right ihl ihr =>
    rw [isExpressible_and, ihl h.1, ihr h.2]
    rfl
  | or left right ihl ihr =>
    rw [isExpressible_or, ihl h.1, ihr h.2]
    rfl
  | not operand ih => exact ih h
  | never => rfl

theorem stored_eq {p : Predicate} (h : p.Fits level) : p.stored = p := by
  induction p generalizing level with
  | leaf v clause => rw [stored, Clause.stored, Operand.Fits.stored_eq h]
  | and left right ihl ihr | or left right ihl ihr => rw [stored, ihl h.1, ihr h.2]
  | not operand ih => rw [stored, ih h]
  | never => rfl

end Fits

/-- Whether the parts of a predicate that were read so far fit at a level. -/
structure Draft.Fits (level : Nat) (draft : Draft) : Prop where
  clause : ∀ clause ∈ draft.clause, clause.operand.Fits (level + 1)
  left : ∀ p ∈ draft.left, p.Fits level
  right : ∀ p ∈ draft.right, p.Fits level

theorem Draft.Fits.start (level : Nat) : Draft.start.Fits level :=
  ⟨fun _ ↦ nofun, fun _ ↦ nofun, fun _ ↦ nofun⟩

/-- A part fits if what it is read from can be scanned and what it is read as fits. -/
theorem Draft.Fits.add {draft next : Draft} {kind : Kind} {name : String} {value : Json}
    {operand : Read Predicate} (hdraft : draft.Fits level) (hvalue : Json.Scanned level value)
    (hoperand : ∀ p, operand = .ok p → p.Fits level)
    (h : draft.add kind name value operand = .ok next) : next.Fits level := by
  rw [Draft.add] at h
  split at h
  · obtain ⟨-, _, -, rfl⟩ := Json.bind_setOnce_eq_ok.mp h
    exact ⟨hdraft.clause, hdraft.left, hdraft.right⟩
  · obtain ⟨-, clause, hread, rfl⟩ := Json.bind_setOnce_eq_ok.mp h
    refine ⟨?_, hdraft.left, hdraft.right⟩
    rintro _ ⟨⟩
    exact Clause.fits_ofJson hvalue hread
  · obtain ⟨-, left, hread, rfl⟩ := Json.bind_setOnce_eq_ok.mp h
    refine ⟨hdraft.clause, ?_, hdraft.right⟩
    rintro _ ⟨⟩
    exact hoperand left hread
  · obtain ⟨-, right, hread, rfl⟩ := Json.bind_setOnce_eq_ok.mp h
    refine ⟨hdraft.clause, hdraft.left, ?_⟩
    rintro _ ⟨⟩
    exact hoperand right hread
  · obtain rfl := Except.ok.inj h
    exact hdraft

/-- A predicate is one level outside its parts. -/
theorem Draft.Fits.finish {draft : Draft} {kind : Kind} {p : Predicate}
    (hlevel : level < Json.nestingLimit) (hdraft : draft.Fits (level + 1))
    (h : draft.finish kind = .ok p) : p.Fits level := by
  cases kind with
  | leaf =>
    obtain ⟨v, -, h⟩ := Except.bind_eq_ok.mp h
    obtain ⟨clause, hclause, h⟩ := Except.bind_eq_ok.mp h
    obtain rfl := Except.ok.inj h
    exact hdraft.clause clause (Json.required_eq_ok.mp hclause)
  | and | or =>
    obtain ⟨left, hleft, h⟩ := Except.bind_eq_ok.mp h
    obtain ⟨right, hright, h⟩ := Except.bind_eq_ok.mp h
    obtain rfl := Except.ok.inj h
    exact ⟨hdraft.left left (Json.required_eq_ok.mp hleft),
      hdraft.right right (Json.required_eq_ok.mp hright)⟩
  | not =>
    obtain ⟨operand, hoperand, h⟩ := Except.bind_eq_ok.mp h
    obtain rfl := Except.ok.inj h
    exact hdraft.left operand (Json.required_eq_ok.mp hoperand)
  | never =>
    obtain rfl := Except.ok.inj h
    exact hlevel

mutual

/-- **What is read of a value that can be scanned fits** where the value stands. -/
theorem fits_ofReadable {level : Nat} {allowsPlace : Bool} {p : Predicate} :
    (v : Json) → Json.Scanned level v → ofReadable allowsPlace v = .ok p → p.Fits level
  | .object members, hv, h => by
    rw [ofReadable] at h
    obtain ⟨kind, -, h⟩ := Except.bind_eq_ok.mp h
    obtain ⟨draft, hdraft, h⟩ := Except.bind_eq_ok.mp h
    obtain ⟨hlevel, hmembers⟩ := hv.members
    exact (fits_addMembers (.start _) members hmembers hdraft).finish hlevel h
  | .array (first :: items), hv, h => by
    rw [ofReadable] at h
    obtain ⟨kind, -, h⟩ := Except.bind_eq_ok.mp h
    obtain ⟨draft, hdraft, h⟩ := Except.bind_eq_ok.mp h
    obtain ⟨hlevel, hitems⟩ := hv.items
    have hrest := (List.forall_mem_cons.mp hitems).2
    exact (fits_addItems (.start _) items hrest hdraft).finish hlevel h
  | .array [], _, h | .null, _, h | .bool _, _, h | .number _, _, h | .string _, _, h
  | .unreadable, _, h => nomatch h

theorem fits_addMembers {level : Nat} {kind : Kind} {draft last : Draft}
    (hdraft : draft.Fits level) : (members : List (String × Json)) →
      (∀ member ∈ members, Json.Scanned level member.2) →
      addMembers kind draft members = .ok last → last.Fits level
  | [], _, h => Except.ok.inj h ▸ hdraft
  | (name, value) :: members, hmembers, h => by
    rw [addMembers] at h
    obtain ⟨next, hnext, h⟩ := Except.bind_eq_ok.mp h
    obtain ⟨hvalue, hrest⟩ := List.forall_mem_cons.mp hmembers
    have hadd := hdraft.add hvalue (fun _ ↦ fits_ofReadable value hvalue) hnext
    exact fits_addMembers hadd members hrest h

theorem fits_addItems {level : Nat} {kind : Kind} {names : List String} {draft last : Draft}
    (hdraft : draft.Fits level) : (items : List Json) →
      (∀ item ∈ items, Json.Scanned level item) →
      addItems kind names draft items = .ok last → last.Fits level
  | [], _, h => Except.ok.inj h ▸ hdraft
  | value :: items, hitems, h => by
    rw [addItems.eq_def] at h
    dsimp only at h
    split at h
    · cases h
    · obtain ⟨next, hnext, h⟩ := Except.bind_eq_ok.mp h
      obtain ⟨hvalue, hrest⟩ := List.forall_mem_cons.mp hitems
      have hadd := hdraft.add hvalue (fun _ ↦ fits_ofReadable value hvalue) hnext
      exact fits_addItems hadd items hrest h

end

theorem fits_ofJson {v : Json} {p : Predicate} (hv : Json.Scanned level v)
    (h : ofJson v = .ok p) : p.Fits level := by
  rw [ofJson] at h
  split at h
  · exact fits_ofReadable v hv h
  · cases h

end Predicate

/-! ## Parts -/

namespace Criteria

/-- Criteria that fit at a level, if there are any. -/
def Fits (level : Nat) (criteria : Criteria) : Prop :=
  ∀ p ∈ criteria, p.Fits level

namespace Fits

variable {level : Nat} {criteria : Criteria}

theorem depth (hlevel : level ≤ Json.nestingLimit) (h : criteria.Fits level) :
    level + criteria.depth ≤ Json.nestingLimit := by
  cases criteria with
  | none => exact hlevel
  | some p => exact (h p rfl).depth

theorem isExpressible (h : criteria.Fits level) : criteria.isExpressible = true := by
  cases criteria with
  | none => rfl
  | some p => exact (h p rfl).isExpressible

theorem stored_eq (h : criteria.Fits level) : criteria.stored = criteria := by
  cases criteria with
  | none => rfl
  | some p => exact congrArg some (h p rfl).stored_eq

end Fits
end Criteria

namespace SpecificationParts

/-- Whether the criteria that were read so far fit at a level. -/
def Draft.Fits (level : Nat) (draft : Draft) : Prop :=
  ∀ criteria ∈ draft.criteria, criteria.Fits level

theorem Draft.Fits.add {level : Nat} {draft next : Draft} {field : String × Json}
    (hfield : Json.Scanned level field.2) (hdraft : draft.Fits level)
    (h : draft.add field = .ok next) : next.Fits level := by
  rw [Draft.add.eq_def] at h
  split at h
  case h_2 json =>
    obtain ⟨-, criteria, hread, rfl⟩ := Json.bind_setOnce_eq_ok.mp h
    rintro _ ⟨⟩ p rfl
    exact Predicate.fits_ofJson hfield (Json.readOption_eq_ok_some hread)
  case h_7 =>
    obtain rfl := Except.ok.inj h
    exact hdraft
  all_goals
    obtain ⟨-, _, -, rfl⟩ := Json.bind_setOnce_eq_ok.mp h
    exact hdraft

/-- The criteria are one level inside the parts. -/
theorem fits_ofJson {v : Json} {parts : SpecificationParts} (hv : Json.Scanned 0 v)
    (h : ofJson v = .ok parts) : parts.criteria.Fits 1 := by
  obtain ⟨fields, hfields, h⟩ := Except.bind_eq_ok.mp h
  obtain ⟨draft, hdraft, h⟩ := Except.bind_eq_ok.mp h
  obtain rfl := Except.ok.inj h
  have hstart : Draft.start.Fits 1 := fun _ ↦ nofun
  obtain ⟨-, hfits⟩ := hv.foldlM_fields hfields Draft.Fits.add hstart hdraft
  show Criteria.Fits 1 (draft.criteria.getD none)
  cases hcriteria : draft.criteria with
  | none => exact fun _ ↦ nofun
  | some criteria => exact hfits criteria hcriteria

end SpecificationParts

/-! ## Specifications -/

namespace Specification

/-- Writes what a text is read as. -/
def canonicalText (text : String) : Read String :=
  (ofJsonText text).map jsonText

/-- The criteria of what was read of a text fit one level inside it. -/
theorem fits_ofJsonText {text : String} {s : Specification} (h : ofJsonText text = .ok s) :
    s.criteria.Fits 1 := by
  obtain ⟨hwhole, parts, hparts, hs⟩ := Json.readTextChecked_eq_ok h
  have hscanned : Json.Scanned 0 (Json.scan text).value := by
    refine Json.scanned_scan ?_
    rw [hwhole]
    exact nofun
  obtain ⟨-, -, -, rfl⟩ := ofParts_eq_ok.mp (Json.checked_eq_ok.mp hs)
  exact SpecificationParts.fits_ofJson hscanned hparts

/-- **Reading and writing is canonical.**  What is read of a text can be stored, since no operand
is NaN or an infinity and it nests within the limit.  What is written is read as the same
specification, with each number in the same form, so that reading and writing once more changes
nothing. -/
theorem ofJsonText_canonical {text : String} {s : Specification} (h : ofJsonText text = .ok s) :
    ofJsonText s.jsonText = .ok s ∧
      canonicalText text = .ok s.jsonText ∧ canonicalText s.jsonText = .ok s.jsonText ∧
      s.IsExpressible ∧ s.toJson.depth ≤ Json.nestingLimit := by
  have hfits := fits_ofJsonText h
  have hexpressible : s.IsExpressible := isExpressible_iff.mpr hfits.isExpressible
  have hdepth : s.toJson.depth ≤ Json.nestingLimit :=
    (s.toParts.depth_toJson_le_iff Json.nestingLimit (by decide)).mpr (hfits.depth (by decide))
  have hstored : s.stored = s := by rw [stored, hfits.stored_eq]
  have hread : ofJsonText s.jsonText = .ok s := by
    rw [ofJsonText_jsonText (.ofJsonText h), if_pos ⟨hfits.isExpressible, hdepth⟩, hstored]
  refine ⟨hread, ?_, ?_, hexpressible, hdepth⟩
  · rw [canonicalText, h]
    rfl
  · rw [canonicalText, hread]
    rfl

/-- A text with its parts in arrays, the kind of an operand given by its place, members in another
order and one that is skipped, a path given twice, and numbers in different notations. -/
def scatteredText : String :=
  "[\"p\", \x7b\"clause\": [\"age\", \"gt\", [1, 2.50e1]]," ++
    " \"kind\" : \"leaf\", \"note\": [-0], \"var\":\"p\"\x7d,\n [ ],null,\t3,[\"b\",\"a.c\",\"b\"]]"

/-- What it says. -/
def gathered : Specification where
  var := ⟨"p"⟩
  criteria := some (.leaf ⟨"p"⟩ ⟨"age", .greater, .number (.double (.ofNat 25))⟩)
  sorts := .empty
  window := ⟨Option.none, some 3⟩
  includes := [⟨"a", ["c"]⟩, ⟨"b", []⟩]

theorem ofJsonText_canonical_scatteredText :
    ofJsonText scatteredText = .ok gathered ∧
      ofJsonText gathered.jsonText = .ok gathered ∧
      gathered.IsExpressible ∧ gathered.toJson.depth ≤ Json.nestingLimit := by
  have hread : ofJsonText scatteredText = .ok gathered := by decide +kernel
  obtain ⟨hagain, -, -, hexpressible, hdepth⟩ := ofJsonText_canonical hread
  exact ⟨hread, hagain, hexpressible, hdepth⟩

end Specification
end Sift
