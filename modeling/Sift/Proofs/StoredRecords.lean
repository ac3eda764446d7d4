import Sift.Proofs.JsonText
import Sift.Proofs.Outcome
import Sift.Proofs.Reachable

/-!
# Records read back from JSON

What the reader of each kind of record makes of the JSON that the record is written as.  A record is
read back as it was, except for the numbers in it: these take their stored form, and a record with a
number that JSON cannot express is not read at all.

`Predicate.ofReadable_stored` is the result for criteria, by induction on the predicate.
-/

set_option autoImplicit false
namespace Sift

namespace Json

/-! ## Values without numbers that change -/

theorem stored_ofUInt32 (n : UInt32) : (ofUInt32 n).stored = ofUInt32 n := rfl

theorem readUInt32_ofUInt32 (n : UInt32) : (ofUInt32 n).readUInt32 = .ok n := by
  have hsize : n.toNat < UInt32.size := n.toNat_lt_size
  have hint : (Int64.ofInt n.toNat).toInt = n.toNat := by
    refine Int64.toInt_ofInt_of_le ?_ ?_
    · exact le_trans (by decide) (Int.natCast_nonneg n.toNat)
    · exact lt_of_lt_of_le (Int.ofNat_lt.mpr hsize) (by decide)
  show (if 0 ≤ (Int64.ofInt n.toNat).toInt ∧ (Int64.ofInt n.toNat).toInt < UInt32.size then
    .ok (.ofNat (Int64.ofInt n.toNat).toInt.toNat) else malformed) = (Except.ok n : Read UInt32)
  rw [hint, if_pos ⟨Int.natCast_nonneg _, Int.ofNat_lt.mpr hsize⟩, Int.toNat_natCast,
    UInt32.ofNat_toNat]

/-- A list is stored item by item. -/
theorem itemsStored_map {α : Type} {write : α → Json} (h : ∀ a, (write a).stored = write a)
    (items : List α) : itemsStored (items.map write) = items.map write := by
  induction items with
  | nil => rfl
  | cons item items ih => rw [List.map_cons, itemsStored, h, ih]

/-- A list that was written item by item is read back. -/
theorem readList_map {α : Type} {write : α → Json} {read : Json → Read α} {items : List α}
    (h : ∀ a ∈ items, read (write a) = .ok a) :
    (Json.array (items.map write)).readList read = .ok items := by
  show (items.map write).mapM read = .ok items
  rw [List.mapM_map]
  exact (Except.mapM_eq_ok_map (g := id) h).trans (congrArg Except.ok (List.map_id items))

end Json

/-! ## Numbers and timestamps -/

/-- The stored form of a number stands where the number stands. -/
theorem Number.standing_stored (n : Number) : n.stored.standing = n.standing := by
  rcases n with _ | value | _
  · rfl
  · rw [stored]
    split
    · rename_i hfits
      have hint : (Int64.ofInt value.toNat).toInt = value.toNat :=
        Int64.toInt_ofInt_of_le (le_trans (by decide) (Int.natCast_nonneg _))
          (lt_of_le_of_lt hfits (by decide))
      rw [standing, standing, hint]
    · rfl
  · rfl

/-- A number that JSON can express is equal to its stored form. -/
theorem Number.stored_beq {n : Number} (h : n.isExpressible = true) : (n.stored == n) = true := by
  have hnan : n.isNaN = false := by
    rcases n with _ | _ | (_ | _ | _)
    case double.nan => cases h
    all_goals rfl
  have hstored : n.stored.isNaN = false := by
    rw [Bool.eq_false_iff, ne_eq, isNaN_iff_standing, standing_stored, ← isNaN_iff_standing]
    exact Bool.eq_false_iff.mp hnan
  exact beq_iff.mpr ⟨hstored, hnan, standing_stored n⟩

theorem Number.stored_toJson (n : Number) : n.toJson.stored = n.asRead := by
  rcases n with _ | _ | (_ | _ | _) <;> rfl

theorem Timestamp.ofJson_toJson (t : Timestamp) : Timestamp.ofJson t.toJson = .ok t := by
  have hread : t.toJson.readInt64 = .ok t.millis := by
    show (if Int64.minValue.toInt ≤ t.millis.toInt ∧ t.millis.toInt ≤ Int64.maxValue.toInt then
      .ok (.ofInt t.millis.toInt) else Json.malformed) = (Except.ok t.millis : Read Int64)
    rw [if_pos ⟨t.millis.minValue_le_toInt, t.millis.toInt_le⟩, Int64.ofInt_toInt]
  rw [Timestamp.ofJson, hread]
  rfl

/-! ## Operands -/

namespace Operand

/-- Whether JSON can express an operand. -/
def isExpressible : Operand → Bool
  | .number n => n.isExpressible
  | _ => true

/-- An operand with its number, if it is one, in stored form. -/
def stored : Operand → Operand
  | .number n => .number n.stored
  | operand => operand

/-- **An operand is read back in stored form, if JSON can express it.** -/
theorem ofJson_stored (held : Bool) (operand : Operand) :
    ofJson held operand.toJson.stored =
      if operand.isExpressible then .ok operand.stored else Json.malformed := by
  cases operand with
  | string text => rfl
  | number n =>
    show n.toJson.stored.readNumber.map Operand.number = _
    rw [Number.stored_toJson, Number.asRead, isExpressible]
    split <;> rfl
  | timestamp t =>
    show (Timestamp.ofJson t.toJson).map Operand.timestamp = _
    rw [Timestamp.ofJson_toJson]
    rfl
  | enumeration d =>
    show (Json.ofUInt32 d).readUInt32.map Operand.enumeration = _
    rw [Json.readUInt32_ofUInt32]
    rfl
  | enumerationSet ds =>
    show ((Json.array (Json.itemsStored (ds.map .ofUInt32))).readList Json.readUInt32).map
      Operand.enumerationSet = _
    rw [Json.itemsStored_map Json.stored_ofUInt32,
      Json.readList_map fun d _ ↦ Json.readUInt32_ofUInt32 d]
    rfl
  | bool value => rfl
  | pattern p =>
    show (readPattern (.string p.source)).map Operand.pattern = _
    have hread : readPattern (.string p.source) = .ok p := by
      show Json.required (Pattern.compile? p.source) = .ok p
      rw [Pattern.compile?_of_source]
      rfl
    rw [hread]
    rfl
  | null => rfl

/-- An operand in stored form is equal to what it was. -/
theorem stored_beq {operand : Operand} (h : operand.isExpressible = true) :
    (operand.stored == operand) = true := by
  cases operand with
  | string text => exact beq_self_eq_true text
  | number n => exact Number.stored_beq h
  | timestamp t => exact beq_self_eq_true t
  | enumeration d => exact beq_self_eq_true d
  | enumerationSet ds => exact beq_self_eq_true ds
  | bool value => exact beq_self_eq_true value
  | pattern p => exact beq_self_eq_true p.source
  | null => rfl

end Operand

/-! ## Clauses -/

theorem Operator.ofJson_toJson (held : Bool) (operator : Operator) :
    Operator.ofJson held operator.toJson = .ok operator := by
  show Json.required (ofName? operator.name) = .ok operator
  rw [ofName?_name]
  rfl

namespace Clause

/-- A clause with its operand in stored form. -/
def stored (clause : Clause) : Clause :=
  { clause with operand := clause.operand.stored }

/-- **A clause is read back in stored form, if JSON can express its operand.** -/
theorem ofJson_stored (held : Bool) (clause : Clause) :
    ofJson held clause.toJson.stored =
      if clause.operand.isExpressible then .ok clause.stored else Json.malformed := by
  have hfields : clause.toJson.stored.readFields ["field", "op", "value"] =
      .ok [("field", .string clause.field), ("op", clause.operator.toJson),
        ("value", clause.operand.toJson.stored)] := rfl
  rw [ofJson, hfields]
  simp only [Except.ok_bind, List.foldlM_cons, Draft.add, Json.setOnce, Operator.ofJson_toJson,
    Operand.ofJson_stored]
  cases clause.operand.isExpressible <;> rfl

theorem stored_beq {clause : Clause} (h : clause.operand.isExpressible = true) :
    (clause.stored == clause) = true := by
  show (clause.field == clause.field && clause.operator == clause.operator &&
    clause.operand.stored == clause.operand) = true
  rw [beq_self_eq_true, beq_self_eq_true, Operand.stored_beq h]
  rfl

end Clause

/-! ## Predicates -/

namespace Predicate

/-- Whether JSON can express every operand. -/
def isExpressible (p : Predicate) : Bool :=
  p.clauses.all (·.operand.isExpressible)

theorem isExpressible_leaf (v : Variable) (clause : Clause) :
    (leaf v clause).isExpressible = clause.operand.isExpressible :=
  Bool.and_true _

theorem isExpressible_and (left right : Predicate) :
    (and left right).isExpressible = (left.isExpressible && right.isExpressible) :=
  List.all_append

theorem isExpressible_or (left right : Predicate) :
    (or left right).isExpressible = (left.isExpressible && right.isExpressible) :=
  List.all_append

/-- A predicate with its operands in stored form. -/
def stored : Predicate → Predicate
  | .leaf v clause => .leaf v clause.stored
  | .and left right => .and left.stored right.stored
  | .or left right => .or left.stored right.stored
  | .not operand => .not operand.stored
  | .never => .never

theorem leafVariables_stored (p : Predicate) : p.stored.leafVariables = p.leafVariables := by
  induction p with
  | leaf v clause => rfl
  | and left right ihl ihr | or left right ihl ihr =>
    rw [stored, leafVariables, leafVariables, ihl, ihr]
  | not operand ih => exact ih
  | never => rfl

/-- A predicate in stored form is equal to what it was. -/
theorem stored_beq {p : Predicate} (h : p.isExpressible = true) : (p.stored == p) = true := by
  induction p with
  | leaf v clause =>
    rw [isExpressible_leaf] at h
    show (v == v && clause.stored == clause) = true
    rw [beq_self_eq_true, Clause.stored_beq h]
    rfl
  | and left right ihl ihr =>
    rw [isExpressible_and, Bool.and_eq_true] at h
    exact Bool.and_eq_true_iff.mpr ⟨ihl h.1, ihr h.2⟩
  | or left right ihl ihr =>
    rw [isExpressible_or, Bool.and_eq_true] at h
    exact Bool.and_eq_true_iff.mpr ⟨ihl h.1, ihr h.2⟩
  | not operand ih => exact ih h
  | never => rfl

/-- An object that names its kind first is read as the parts that follow. -/
theorem ofReadable_kind_first (allowsPlace : Bool) (kind : Kind) {members : List (String × Json)}
    (hmembers : members.filter (·.1 == "kind") = []) :
    ofReadable allowsPlace (.object (("kind", .string kind.name) :: members)) =
      (addMembers kind .start members >>= (Draft.finish · kind)) := by
  have hkind : kindOfMembers allowsPlace (("kind", .string kind.name) :: members) = .ok kind := by
    rw [kindOfMembers, List.filter_cons_of_pos (by rfl), hmembers]
    cases kind <;> rfl
  have hskip : Draft.start.add kind "kind" (.string kind.name)
      (ofReadable true (.string kind.name)) = .ok .start := by
    cases kind <;> rfl
  rw [ofReadable, hkind, Except.ok_bind, addMembers, hskip, Except.ok_bind]

/-- **A predicate is read back in stored form, if JSON can express it.** -/
theorem ofReadable_stored (allowsPlace : Bool) (p : Predicate) :
    ofReadable allowsPlace p.toJson.stored =
      if p.isExpressible then .ok p.stored else Json.malformed := by
  induction p generalizing allowsPlace with
  | leaf v clause =>
    rw [isExpressible_leaf]
    refine (ofReadable_kind_first allowsPlace .leaf rfl).trans ?_
    simp only [Json.membersStored, addMembers, Draft.add, Kind.part?, Json.setOnce,
      Clause.ofJson_stored]
    cases clause.operand.isExpressible <;> rfl
  | and left right ihl ihr =>
    rw [isExpressible_and]
    refine (ofReadable_kind_first allowsPlace .and rfl).trans ?_
    simp only [Json.membersStored, addMembers, Draft.add, Kind.part?, Json.setOnce, ihl, ihr]
    cases left.isExpressible <;> cases right.isExpressible <;> rfl
  | or left right ihl ihr =>
    rw [isExpressible_or]
    refine (ofReadable_kind_first allowsPlace .or rfl).trans ?_
    simp only [Json.membersStored, addMembers, Draft.add, Kind.part?, Json.setOnce, ihl, ihr]
    cases left.isExpressible <;> cases right.isExpressible <;> rfl
  | not operand ih =>
    refine (ofReadable_kind_first allowsPlace .not rfl).trans ?_
    simp only [Json.membersStored, addMembers, Draft.add, Kind.part?, Json.setOnce, ih]
    show _ = if operand.isExpressible then _ else _
    cases operand.isExpressible <;> rfl
  | never => rfl

/-- What is read of a predicate inside so many open arrays and objects: nothing if JSON cannot
express it or if it nests past the limit. -/
theorem ofJson_asRead {level : Nat} (hlevel : level ≤ Json.nestingLimit) (p : Predicate) :
    ofJson (p.toJson.asRead level) =
      if p.isExpressible = true ∧ level + p.toJson.depth ≤ Json.nestingLimit then .ok p.stored
      else Json.malformed := by
  have hreadable := Json.isReadable_asRead p.toJson hlevel
  rw [ofJson]
  by_cases hdepth : level + p.toJson.depth ≤ Json.nestingLimit
  · rw [if_pos (hreadable.mpr hdepth), Json.asRead_of_depth p.toJson hdepth, ofReadable_stored]
    simp only [hdepth, and_true]
  · rw [if_neg fun h ↦ hdepth (hreadable.mp h), if_neg fun h ↦ hdepth h.2]

end Predicate

/-! ## Counts -/

namespace Json

theorem asRead_ofUInt64 (level : Nat) (n : UInt64) : (ofUInt64 n).asRead level = ofUInt64 n := by
  rw [ofUInt64]
  split
  · rfl
  · rename_i hlarge
    have hexpressible : (Number.unsigned n).isExpressible = true := rfl
    show Number.asRead (.unsigned n) = _
    rw [Number.asRead, if_pos hexpressible, Number.stored, if_neg hlarge]

theorem readUInt64_ofUInt64 (n : UInt64) : (ofUInt64 n).readUInt64 = .ok n := by
  have hint : (ofUInt64 n).readInt = .ok n.toNat := by
    rw [ofUInt64]
    split
    · rename_i hfits
      have htoInt : (Int64.ofInt n.toNat).toInt = n.toNat :=
        Int64.toInt_ofInt_of_le (le_trans (by decide) (Int.natCast_nonneg _))
          (lt_of_le_of_lt hfits (by decide))
      exact congrArg Except.ok htoInt
    · rfl
  have hsize : (n.toNat : Int) < UInt64.size := Int.ofNat_lt.mpr n.toNat_lt_size
  rw [readUInt64, hint, Except.ok_bind, if_pos ⟨Int.natCast_nonneg _, hsize⟩, Int.toNat_natCast,
    UInt64.ofNat_toNat]

theorem readOption_of_ne_null {α : Type} (read : Json → Read α) {json : Json} (h : json ≠ .null) :
    json.readOption read = (read json).map some := by
  cases json with
  | null => exact absurd rfl h
  | _ => rfl

/-- A count is read back as it was. -/
theorem readOption_asRead_ofUInt64 (level : Nat) (n : UInt64) :
    ((ofUInt64 n).asRead level).readOption readUInt64 = .ok (some n) := by
  have hne : ofUInt64 n ≠ .null := by
    rw [ofUInt64]
    split <;> exact nofun
  rw [asRead_ofUInt64, readOption_of_ne_null _ hne, readUInt64_ofUInt64]
  rfl

/-! ## Lists -/

theorem depthOfItems_map_le {α : Type} {write : α → Json} {bound : Nat}
    (h : ∀ a, (write a).depth ≤ bound) (items : List α) :
    depthOfItems (items.map write) ≤ bound := by
  induction items with
  | nil => exact Nat.zero_le _
  | cons item items ih => exact max_le (h item) ih

end Json

/-! ## Sort chains -/

theorem SortLevel.ofJson_toJson (level : SortLevel) :
    SortLevel.ofJson level.toJson = .ok level := by
  obtain ⟨key, direction, nulls⟩ := level
  cases direction <;> cases nulls <;> rfl

namespace SortChain

theorem depth_toJson_le (chain : SortChain) : chain.toJson.depth ≤ 2 :=
  Nat.succ_le_succ (Json.depthOfItems_map_le (fun _ ↦ Nat.le_refl 1) chain.levels)

/-- A chain is read back as it was. -/
theorem ofJson_asRead {level : Nat} (hlevel : level + 2 ≤ Json.nestingLimit) (chain : SortChain) :
    ofJson (chain.toJson.asRead level) = .ok chain := by
  have hdepth := chain.depth_toJson_le
  rw [Json.asRead_of_depth chain.toJson (by omega)]
  show ofJson (.array (Json.itemsStored (chain.levels.map SortLevel.toJson))) = _
  rw [Json.itemsStored_map fun _ ↦ rfl, ofJson,
    Json.readList_map fun level _ ↦ level.ofJson_toJson]
  rfl

end SortChain

/-! ## Paths -/

namespace IncludePath

theorem Reachable.ofJson_toJson {path : IncludePath} (h : path.Reachable) :
    IncludePath.ofJson path.toJson = .ok path := by
  show Json.checked (IncludePath.parse path.text) = .ok path
  rw [h.parse_text]
  rfl

theorem depth_arrayToJson_le (paths : List IncludePath) :
    (Json.array (paths.map toJson)).depth ≤ 1 :=
  Nat.succ_le_succ (Json.depthOfItems_map_le (fun _ ↦ Nat.le_refl 0) paths)

/-- Paths that can be had are read back as they were. -/
theorem readList_asRead {level : Nat} (hlevel : level + 1 ≤ Json.nestingLimit)
    {paths : List IncludePath} (h : ∀ path ∈ paths, path.Reachable) :
    ((Json.array (paths.map toJson)).asRead level).readList IncludePath.ofJson = .ok paths := by
  have hdepth := depth_arrayToJson_le paths
  rw [Json.asRead_of_depth _ (by omega)]
  show (Json.array (Json.itemsStored (paths.map toJson))).readList IncludePath.ofJson = _
  rw [Json.itemsStored_map fun _ ↦ rfl,
    Json.readList_map fun path hpath ↦ (h path hpath).ofJson_toJson]

end IncludePath
end Sift
