import Sift.Proofs.StoredRecords

/-!
# Specifications read back from JSON

`Specification.ofJsonText_jsonText` says what becomes of the text of a specification that is well
formed.  It is read back unless JSON cannot express one of its operands or its criteria nest past
the limit, and what is read is `Specification.stored`: the same specification but for the form of
numbers.  `Specification.json_roundTrip` says so for every reachable specification, and that what is
read is equal to what was written.
-/

set_option autoImplicit false
namespace Sift

namespace Criteria

/-- Whether JSON can express every operand. -/
def isExpressible (criteria : Criteria) : Bool := criteria.all Predicate.isExpressible

/-- Criteria with their operands in stored form. -/
def stored (criteria : Criteria) : Criteria := criteria.map Predicate.stored

/-- How deep the JSON of criteria nests. -/
def depth (criteria : Criteria) : Nat := criteria.elim 0 fun p ↦ p.toJson.depth

theorem isClosedOver_stored (criteria : Criteria) (v : Variable) :
    criteria.stored.isClosedOver v = criteria.isClosedOver v := by
  cases criteria with
  | none => rfl
  | some p =>
    show p.stored.leafVariables.all (· == v) = p.leafVariables.all (· == v)
    rw [p.leafVariables_stored]

theorem stored_beq {criteria : Criteria} (h : criteria.isExpressible = true) :
    (criteria.stored == criteria) = true := by
  cases criteria with
  | none => rfl
  | some p => exact Predicate.stored_beq h

end Criteria

namespace Json

theorem membersAsRead_append (level : Nat) (front back : List (String × Json)) :
    membersAsRead level (front ++ back) =
      membersAsRead level front ++ membersAsRead level back := by
  induction front with
  | nil => rfl
  | cons member front ih =>
    rw [List.cons_append, membersAsRead, ih, membersAsRead, List.cons_append]

theorem depthOfMembers_append (front back : List (String × Json)) :
    depthOfMembers (front ++ back) = max (depthOfMembers front) (depthOfMembers back) := by
  induction front with
  | nil => exact (Nat.zero_max _).symm
  | cons member front ih =>
    rw [List.cons_append, depthOfMembers, ih, depthOfMembers, Nat.max_assoc]

/-- A text that was written is whole, so it is read and checked. -/
theorem readTextChecked_text {α β : Type} (read : Json → Read α) (check : α → Read β) (v : Json) :
    readTextChecked read check v.text = read (v.asRead 0) >>= check := by
  rw [readTextChecked, scan_text]
  rcases read (v.asRead 0) with (_ | _) | a
  · rfl
  · rfl
  · rw [Except.ok_bind]
    dsimp only
    rcases check a with _ | b <;> rfl

end Json

/-! ## Parts -/

namespace SpecificationParts

/-- The parts with the numbers of their criteria in stored form. -/
def stored (parts : SpecificationParts) : SpecificationParts :=
  { parts with criteria := parts.criteria.stored }

namespace Draft

variable {draft : Draft}

/-- The criteria are read unless JSON cannot express them or they nest past the limit. -/
theorem foldlM_criteria (h : draft.criteria = none) (criteria : Criteria) :
    (Json.membersAsRead 1 (criteria.map fun p ↦ ("criteria", p.toJson)).toList).foldlM add draft =
      if criteria.isExpressible = true ∧ 1 + criteria.depth ≤ Json.nestingLimit then
        .ok { draft with criteria := criteria.stored.map some }
      else Json.malformed := by
  obtain ⟨var, _, sorts, skip, take, includes⟩ := draft
  obtain rfl := h
  cases criteria with
  | none => rfl
  | some p =>
    have hread : (p.toJson.asRead 1).readOption Predicate.ofJson =
        (Predicate.ofJson (p.toJson.asRead 1)).map some :=
      Json.readOption_of_ne_null _ (by cases p <;> exact nofun)
    refine (Except.foldlM_singleton _ _ _).trans ?_
    rw [add, Json.setOnce, hread, Predicate.ofJson_asRead (by decide)]
    show _ = if p.isExpressible = true ∧ 1 + p.toJson.depth ≤ Json.nestingLimit then _ else _
    split <;> rfl

theorem foldlM_sorts (h : draft.sorts = none) (sorts : SortChain) :
    (Json.membersAsRead 1 (if sorts.isEmpty then [] else [("sorts", sorts.toJson)])).foldlM add
      draft = .ok { draft with sorts := if sorts.isEmpty then none else some sorts } := by
  obtain ⟨var, criteria, _, skip, take, includes⟩ := draft
  obtain rfl := h
  split
  · rfl
  · refine (Except.foldlM_singleton _ _ _).trans ?_
    rw [add, Json.setOnce, SortChain.ofJson_asRead (by decide)]
    rfl

theorem foldlM_skip (h : draft.skip = none) (skip : Option UInt64) :
    (Json.membersAsRead 1 (skip.map fun n ↦ ("skip", Json.ofUInt64 n)).toList).foldlM add draft =
      .ok { draft with skip := skip.map some } := by
  obtain ⟨var, criteria, sorts, _, take, includes⟩ := draft
  obtain rfl := h
  cases skip with
  | none => rfl
  | some n =>
    refine (Except.foldlM_singleton _ _ _).trans ?_
    rw [add, Json.setOnce, Json.readOption_asRead_ofUInt64]
    rfl

theorem foldlM_take (h : draft.take = none) (take : Option UInt64) :
    (Json.membersAsRead 1 (take.map fun n ↦ ("take", Json.ofUInt64 n)).toList).foldlM add draft =
      .ok { draft with take := take.map some } := by
  obtain ⟨var, criteria, sorts, skip, _, includes⟩ := draft
  obtain rfl := h
  cases take with
  | none => rfl
  | some n =>
    refine (Except.foldlM_singleton _ _ _).trans ?_
    rw [add, Json.setOnce, Json.readOption_asRead_ofUInt64]
    rfl

theorem foldlM_includes (h : draft.includes = none) {includes : List IncludePath}
    (hincludes : ∀ path ∈ includes, path.Reachable) :
    (Json.membersAsRead 1 (if includes.isEmpty then []
      else [("includes", .array (includes.map IncludePath.toJson))])).foldlM add draft =
      .ok { draft with includes := if includes.isEmpty then none else some includes } := by
  obtain ⟨var, criteria, sorts, skip, take, _⟩ := draft
  obtain rfl := h
  split
  · rfl
  · refine (Except.foldlM_singleton _ _ _).trans ?_
    rw [add, Json.setOnce, IncludePath.readList_asRead (by decide) hincludes]
    rfl

/-- What is missing is not asked for. -/
theorem finish_of_written (var : Variable) (criteria : Criteria) (sorts : SortChain)
    (skip take : Option UInt64) {includes : List IncludePath} (hincludes : Ascending includes) :
    finish ⟨some var, criteria.map some, if sorts.isEmpty then none else some sorts, skip.map some,
      take.map some, if includes.isEmpty then none else some includes⟩ =
      ⟨var, criteria, sorts, skip, take, includes⟩ := by
  have hcriteria : (criteria.map some).getD none = criteria := by cases criteria <;> rfl
  have hsorts : (if sorts.isEmpty then none else some sorts).getD .empty = sorts := by
    obtain ⟨_ | _⟩ := sorts <;> rfl
  have hskip : (skip.map some).getD none = skip := by cases skip <;> rfl
  have htake : (take.map some).getD none = take := by cases take <;> rfl
  have hpaths : (if includes.isEmpty then none else some includes).getD [] = includes := by
    cases includes <;> rfl
  rw [finish, hcriteria, hsorts, hskip, htake, hpaths, orderedSet_of_ascending hincludes]
  rfl

end Draft

/-- The members that parts are written as. -/
def members (parts : SpecificationParts) : List (String × Json) :=
  [("var", .string parts.var.name)] ++
    (parts.criteria.map fun p ↦ ("criteria", p.toJson)).toList ++
    (if parts.sorts.isEmpty then [] else [("sorts", parts.sorts.toJson)]) ++
    (parts.skip.map fun n ↦ ("skip", Json.ofUInt64 n)).toList ++
    (parts.take.map fun n ↦ ("take", Json.ofUInt64 n)).toList ++
    (if parts.includes.isEmpty then []
      else [("includes", .array (parts.includes.map IncludePath.toJson))])

theorem toJson_eq_object (parts : SpecificationParts) : parts.toJson = .object parts.members := rfl

/-- **What is read of the JSON of parts.** -/
theorem ofJson_asRead (parts : SpecificationParts) (hincludes : IncludePath.IsSet parts.includes) :
    ofJson (parts.toJson.asRead 0) =
      if parts.criteria.isExpressible = true ∧ 1 + parts.criteria.depth ≤ Json.nestingLimit then
        .ok parts.stored
      else Json.malformed := by
  have hread : ofJson (parts.toJson.asRead 0) = (do
      let draft ← (Json.membersAsRead 1 parts.members).foldlM Draft.add .start
      return draft.finish) := rfl
  have hvar : (Json.membersAsRead 1 [("var", .string parts.var.name)]).foldlM Draft.add .start =
      .ok { Draft.start with var := some parts.var } := rfl
  rw [hread, members]
  simp only [Json.membersAsRead_append, List.foldlM_append, hvar, Except.ok_bind]
  rw [Draft.foldlM_criteria rfl]
  split
  · rw [Except.ok_bind, Draft.foldlM_sorts rfl, Except.ok_bind, Draft.foldlM_skip rfl,
      Except.ok_bind, Draft.foldlM_take rfl, Except.ok_bind,
      Draft.foldlM_includes rfl hincludes.reachable, Except.ok_bind]
    exact congrArg Except.ok (Draft.finish_of_written _ _ _ _ _ hincludes.ascending)
  · rfl

/-- Only criteria can nest deep. -/
theorem depth_toJson_le_iff (parts : SpecificationParts) (limit : Nat) (hlimit : 3 ≤ limit) :
    parts.toJson.depth ≤ limit ↔ 1 + parts.criteria.depth ≤ limit := by
  have hcount : ∀ n, (Json.ofUInt64 n).depth = 0 := fun n ↦ by
    rw [Json.ofUInt64]
    split <;> rfl
  have hcriteria : Json.depthOfMembers
      (parts.criteria.map fun p ↦ ("criteria", p.toJson)).toList = parts.criteria.depth := by
    cases parts.criteria with
    | none => rfl
    | some p => exact Nat.max_zero _
  have hsorts : Json.depthOfMembers
      (if parts.sorts.isEmpty then [] else [("sorts", parts.sorts.toJson)]) ≤ 2 := by
    split
    · exact Nat.zero_le _
    · exact max_le parts.sorts.depth_toJson_le (Nat.zero_le _)
  have hskip : Json.depthOfMembers
      (parts.skip.map fun n ↦ ("skip", Json.ofUInt64 n)).toList = 0 := by
    cases parts.skip with
    | none => rfl
    | some n => exact (Nat.max_zero _).trans (hcount n)
  have htake : Json.depthOfMembers
      (parts.take.map fun n ↦ ("take", Json.ofUInt64 n)).toList = 0 := by
    cases parts.take with
    | none => rfl
    | some n => exact (Nat.max_zero _).trans (hcount n)
  have hincludes : Json.depthOfMembers (if parts.includes.isEmpty then []
      else [("includes", .array (parts.includes.map IncludePath.toJson))]) ≤ 1 := by
    split
    · exact Nat.zero_le _
    · exact max_le (IncludePath.depth_arrayToJson_le _) (Nat.zero_le _)
  have hvar : Json.depthOfMembers [("var", .string parts.var.name)] = 0 := rfl
  rw [toJson_eq_object, Json.depth, members]
  simp only [Json.depthOfMembers_append, hvar, hcriteria, hskip, htake]
  omega

end SpecificationParts

/-! ## Specifications -/

namespace Specification

variable {s : Specification}

/-- Whether JSON can express every operand: none is NaN or an infinity. -/
def IsExpressible (s : Specification) : Prop :=
  ∀ p ∈ s.criteria, ∀ clause ∈ p.clauses, clause.operand.isExpressible = true

theorem isExpressible_iff : s.IsExpressible ↔ s.criteria.isExpressible = true := by
  obtain ⟨_, criteria, _, _, _⟩ := s
  cases criteria with
  | none => exact ⟨fun _ ↦ rfl, fun _ ↦ nofun⟩
  | some p =>
    constructor
    · exact fun h ↦ List.all_eq_true.mpr (h p rfl)
    · rintro h _ ⟨⟩
      exact List.all_eq_true.mp h

/-- A specification with its numbers in stored form. -/
def stored (s : Specification) : Specification :=
  { s with criteria := s.criteria.stored }

theorem stored_beq (h : s.IsExpressible) : (s.stored == s) = true := by
  show (s.var == s.var && s.criteria.stored == s.criteria && s.sorts == s.sorts &&
    s.window == s.window && s.includes == s.includes) = true
  rw [Criteria.stored_beq (isExpressible_iff.mp h)]
  simp only [beq_self_eq_true, Bool.and_self]

/-- **The text of a well-formed specification is read as its stored form**, unless JSON cannot
express an operand or the text nests past the limit. -/
theorem ofJsonText_jsonText (h : s.WellFormed) : ofJsonText s.jsonText =
    if s.criteria.isExpressible = true ∧ s.toJson.depth ≤ Json.nestingLimit then .ok s.stored
    else Json.malformed := by
  have hdepth : s.toJson.depth ≤ Json.nestingLimit ↔ 1 + s.criteria.depth ≤ Json.nestingLimit :=
    s.toParts.depth_toJson_le_iff Json.nestingLimit (by decide)
  have hread : SpecificationParts.ofJson (s.toJson.asRead 0) =
      if s.criteria.isExpressible = true ∧ 1 + s.criteria.depth ≤ Json.nestingLimit then
        .ok s.toParts.stored
      else Json.malformed :=
    s.toParts.ofJson_asRead h.isSet
  have hchecked : ofParts s.toParts.stored = .ok s.stored :=
    ofParts_eq_ok.mpr ⟨(Criteria.isClosedOver_stored _ _).trans h.closed, h.hasKeys,
      h.take_ne_zero, rfl⟩
  rw [ofJsonText, jsonText, Json.readTextChecked_text, hread]
  simp only [hdepth]
  split
  · rw [Except.ok_bind, hchecked]
    rfl
  · rfl

/-- **The JSON of a reachable specification reads back** exactly if no operand is NaN or an infinity
and the text nests no deeper than the limit.  What is read is the specification with its numbers in
stored form, and it is equal to the specification. -/
theorem json_roundTrip (hs : s.Reachable) :
    ((∃ t, ofJsonText s.jsonText = .ok t) ↔
      s.IsExpressible ∧ s.toJson.depth ≤ Json.nestingLimit) ∧
    ∀ t, ofJsonText s.jsonText = .ok t → t = s.stored ∧ (t == s) = true := by
  rw [ofJsonText_jsonText hs.wellFormed, isExpressible_iff]
  split
  · rename_i hstorable
    refine ⟨⟨fun _ ↦ hstorable, fun _ ↦ ⟨_, rfl⟩⟩, ?_⟩
    rintro _ ⟨⟩
    exact ⟨rfl, stored_beq (isExpressible_iff.mpr hstorable.1)⟩
  · rename_i hstorable
    exact ⟨⟨nofun, fun h ↦ absurd h hstorable⟩, nofun⟩

/-- A specification whose only number was given unsigned. -/
def largeOrders : Specification where
  var := ⟨"order"⟩
  criteria := some (.leaf ⟨"order"⟩ ⟨"total", .greater, .number (.unsigned 5)⟩)
  sorts := ⟨[⟨"name", .descending, .last⟩]⟩
  window := ⟨Option.none, some 3⟩
  includes := [⟨"customer", ["address"]⟩]

theorem reachable_largeOrders : largeOrders.Reachable := by
  have hrun : SpecificationBuilder.new.run [.boundTo ⟨"order"⟩,
      .addWhere ⟨"total", .greater, .number (.unsigned 5)⟩, .sort (.orderBy "name" .descending),
      .sort .nullsLast, .take 3, .addInclude "customer.address"] = .ok largeOrders.toBuilder := rfl
  exact .build (SpecificationBuilder.Reachable.new.run hrun)

/-- What was given unsigned comes back signed. -/
theorem json_roundTrip_largeOrders : largeOrders.Reachable ∧
    ∃ t, ofJsonText largeOrders.jsonText = .ok t ∧ (t == largeOrders) = true ∧
      t.criteria = some (.leaf ⟨"order"⟩ ⟨"total", .greater, .number (.signed 5)⟩) := by
  obtain ⟨hreads, hread⟩ := json_roundTrip reachable_largeOrders
  have hexpressible : largeOrders.IsExpressible := isExpressible_iff.mpr rfl
  obtain ⟨t, ht⟩ := hreads.mpr ⟨hexpressible, by decide⟩
  obtain ⟨rfl, hbeq⟩ := hread t ht
  exact ⟨reachable_largeOrders, _, ht, hbeq, rfl⟩

end Specification
end Sift
