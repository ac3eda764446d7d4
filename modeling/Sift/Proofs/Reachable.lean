import Sift.Proofs.WellFormed
import Sift.Specification.Json

/-!
# Reachable specifications

Specifications, the builders that go on from them and the criteria chains that builders hand out
cannot be made by hand, only by the operations of the library.  `Specification.Reachable`,
`SpecificationBuilder.Reachable` and `CriteriaChain.Reachable` are what these operations make in
any order and number.  They depend on one another: a chain may be one that a builder holds, a
builder may go on from a specification, and a specification may be what a builder makes.

Where an operation takes a function from chains to chains, any function will do that returns a
reachable chain.  So a group may be filled by a chain over another variable, and a builder may be
given a chain that has nothing to do with its own.

`Specification.Reachable.wellFormed` is the invariant: whatever is reachable is well formed.
-/

set_option autoImplicit false
namespace Sift

mutual

/-- The criteria chains that can be made. -/
inductive CriteriaChain.Reachable : CriteriaChain → Prop where
  /-- A fresh outermost chain. -/
  | boundTo (v : Variable) : CriteriaChain.Reachable (.boundTo v)
  /-- The fresh chain that a group is given. -/
  | groupOver (v : Variable) : CriteriaChain.Reachable (.groupOver v)
  /-- The chain that a builder hands out. -/
  | held {b : SpecificationBuilder} (hb : SpecificationBuilder.Reachable b) :
    CriteriaChain.Reachable b.criteria
  | addWhere {chain next : CriteriaChain} {clause : Clause} (hchain : CriteriaChain.Reachable chain)
    (h : chain.addWhere clause = .ok next) : CriteriaChain.Reachable next
  | addAnd {chain next : CriteriaChain} {clause : Clause} (hchain : CriteriaChain.Reachable chain)
    (h : chain.addAnd clause = .ok next) : CriteriaChain.Reachable next
  | addOr {chain next : CriteriaChain} {clause : Clause} (hchain : CriteriaChain.Reachable chain)
    (h : chain.addOr clause = .ok next) : CriteriaChain.Reachable next
  | addNot {chain next : CriteriaChain} {clause : Clause} (hchain : CriteriaChain.Reachable chain)
    (h : chain.addNot clause = .ok next) : CriteriaChain.Reachable next
  /-- A group filled by whatever reachable chain `fill` returns. -/
  | addGroup {chain sub next : CriteriaChain} {connective : Connective}
    {fill : CriteriaChain → Except SpecError CriteriaChain} (hchain : CriteriaChain.Reachable chain)
    (hfill : fill (.groupOver chain.var) = .ok sub) (hsub : CriteriaChain.Reachable sub)
    (h : chain.addGroup connective fill = .ok next) : CriteriaChain.Reachable next

/-- The builders that can be made. -/
inductive SpecificationBuilder.Reachable : SpecificationBuilder → Prop where
  | new : SpecificationBuilder.Reachable .new
  | toBuilder {s : Specification} (hs : Specification.Reachable s) :
    SpecificationBuilder.Reachable s.toBuilder
  /-- Any step of a program. -/
  | runStep {b next : SpecificationBuilder} {step : BuilderStep}
    (hb : SpecificationBuilder.Reachable b) (h : b.runStep step = .ok next) :
    SpecificationBuilder.Reachable next
  /-- Going on with whatever reachable chain `extend` returns. -/
  | withCriteria {b next : SpecificationBuilder} {chain : CriteriaChain}
    {extend : CriteriaChain → Except SpecError CriteriaChain}
    (hb : SpecificationBuilder.Reachable b) (hextend : extend b.criteria = .ok chain)
    (hchain : CriteriaChain.Reachable chain) (h : b.withCriteria extend = .ok next) :
    SpecificationBuilder.Reachable next

/-- The specifications that can be made. -/
inductive Specification.Reachable : Specification → Prop where
  | all : Specification.Reachable .all
  | none : Specification.Reachable .none
  | default : Specification.Reachable .default
  | build {b : SpecificationBuilder} (hb : SpecificationBuilder.Reachable b) :
    Specification.Reachable b.build
  /-- Parts hold paths in a set of their own, so these are checked already. -/
  | ofParts {parts : SpecificationParts} {s : Specification}
    (hincludes : IncludePath.IsSet parts.includes) (h : Specification.ofParts parts = .ok s) :
    Specification.Reachable s
  | ofJsonText {text : String} {s : Specification} (h : Specification.ofJsonText text = .ok s) :
    Specification.Reachable s
  | and {a b : Specification} (ha : Specification.Reachable a) (hb : Specification.Reachable b) :
    Specification.Reachable (a.and b)
  | or {a b : Specification} (ha : Specification.Reachable a) (hb : Specification.Reachable b) :
    Specification.Reachable (a.or b)
  | not {a : Specification} (ha : Specification.Reachable a) : Specification.Reachable a.not

end

/-! ## Programs -/

namespace CriteriaChain.Reachable

mutual

theorem runStep {chain next : CriteriaChain} (hchain : chain.Reachable) :
    (step : ChainStep) → chain.runStep step = .ok next → next.Reachable
  | .addWhere _, h => addWhere hchain h
  | .addAnd _, h => addAnd hchain h
  | .addOr _, h => addOr hchain h
  | .addNot _, h => addNot hchain h
  | .addGroup _ foreign steps, h => by
    rw [CriteriaChain.runStep] at h
    obtain ⟨_, sub, _, _, hsub, _⟩ := addGroup_eq_ok.mp h
    have hstart : (groupStart foreign (.groupOver chain.var)).Reachable := by
      cases foreign with
      | none => exact groupOver chain.var
      | some v => exact boundTo v
    exact addGroup hchain hsub (run hstart steps hsub) h
  | .rejected _, h => nomatch h

/-- What a program makes of a reachable chain is reachable. -/
theorem run {chain last : CriteriaChain} (hchain : chain.Reachable) :
    (steps : List ChainStep) → chain.run steps = .ok last → last.Reachable
  | [], h => Except.ok.inj h ▸ hchain
  | step :: steps, h => by
    rw [CriteriaChain.run] at h
    split at h
    · rename_i next hnext
      exact run (runStep hchain step hnext) steps h
    · cases h

end

end CriteriaChain.Reachable

/-- What a program makes of a reachable builder is reachable. -/
theorem SpecificationBuilder.Reachable.run {b last : SpecificationBuilder}
    {steps : List BuilderStep} (hb : b.Reachable) (h : b.run steps = .ok last) :
    last.Reachable := by
  rw [SpecificationBuilder.run_eq_foldlM] at h
  exact Except.foldlM_induction runStep hb h

/-! ## Reading -/

namespace Json

theorem checked_eq_ok {α : Type} {x : Except SpecError α} {a : α} :
    checked x = .ok a ↔ x = .ok a := by
  cases x with
  | ok b => rw [checked, Except.ok.injEq, Except.ok.injEq]
  | error cause => exact ⟨nofun, nofun⟩

/-- Only an array is read as a list. -/
theorem readList_eq_ok {α : Type} {read : Json → Read α} {json : Json} {as : List α}
    (h : json.readList read = .ok as) :
    ∃ items, json = .array items ∧ items.mapM read = .ok as := by
  rw [readList.eq_def] at h
  split at h
  · exact ⟨_, rfl, h⟩
  · cases h

theorem setOnce_eq_ok {α : Type} {field result : Option α} {value : Read α} :
    setOnce field value = .ok result ↔ field = none ∧ ∃ a, value = .ok a ∧ result = some a := by
  cases field with
  | some a => exact ⟨nofun, fun h ↦ nomatch h.1⟩
  | none =>
    rw [setOnce, Except.map_eq_ok]
    exact ⟨fun ⟨a, ha, h⟩ ↦ ⟨rfl, a, ha, h.symm⟩, fun ⟨_, a, ha, h⟩ ↦ ⟨a, ha, h.symm⟩⟩

/-- A field of a record that is set has not been set before. -/
theorem bind_setOnce_eq_ok {α β : Type} {field : Option α} {value : Read α} {f : Option α → β}
    {b : β} : (setOnce field value >>= fun result ↦ pure (f result)) = .ok b ↔
      field = none ∧ ∃ a, value = .ok a ∧ f (some a) = b := by
  rw [Except.bind_eq_ok]
  constructor
  · rintro ⟨result, hresult, h⟩
    obtain ⟨hfield, a, ha, rfl⟩ := setOnce_eq_ok.mp hresult
    exact ⟨hfield, a, ha, Except.ok.inj h⟩
  · rintro ⟨hfield, a, ha, rfl⟩
    exact ⟨some a, setOnce_eq_ok.mpr ⟨hfield, a, ha, rfl⟩, rfl⟩

/-- A text that is read is whole, and gave a value that passed the check. -/
theorem readTextChecked_eq_ok {α β : Type} {read : Json → Read α} {check : α → Read β}
    {text : String} {b : β} (h : readTextChecked read check text = .ok b) :
    (scan text).fault = .none ∧ ∃ a, read (scan text).value = .ok a ∧ check a = .ok b := by
  rw [readTextChecked] at h
  split at h
  · cases h
  · cases h
  · cases h
  · rename_i a ha hinside
    obtain ⟨b', hb', h⟩ := Except.bind_eq_ok.mp h
    split at h
    · cases h
    · rename_i hafter
      obtain rfl := Except.ok.inj h
      refine ⟨?_, a, ha, hb'⟩
      cases hfault : (scan text).fault with
      | none => rfl
      | inside => exact absurd hfault hinside
      | after => exact absurd hfault hafter

end Json

theorem IncludePath.Reachable.ofJson {json : Json} {path : IncludePath}
    (h : IncludePath.ofJson json = .ok path) : path.Reachable := by
  obtain ⟨text, -, h⟩ := Except.bind_eq_ok.mp h
  exact .parse (Json.checked_eq_ok.mp h)

theorem IncludePath.reachable_readList {json : Json} {paths : List IncludePath}
    (h : json.readList IncludePath.ofJson = .ok paths) : ∀ path ∈ paths, path.Reachable := by
  obtain ⟨items, -, hitems⟩ := Json.readList_eq_ok h
  intro path hpath
  obtain ⟨item, -, hitem⟩ := Except.exists_of_mem_mapM hitems path hpath
  exact .ofJson hitem

namespace SpecificationParts

/-- The paths that were read so far. -/
def Draft.PathsReachable (draft : Draft) : Prop :=
  ∀ path ∈ draft.includes.getD [], path.Reachable

theorem Draft.pathsReachable_add {draft next : Draft} {member : String × Json}
    (hdraft : draft.PathsReachable) (h : draft.add member = .ok next) : next.PathsReachable := by
  rw [add.eq_def] at h
  split at h
  case h_6 json =>
    obtain ⟨-, paths, hpaths, rfl⟩ := Json.bind_setOnce_eq_ok.mp h
    exact IncludePath.reachable_readList hpaths
  case h_7 =>
    exact Except.ok.inj h ▸ hdraft
  all_goals
    obtain ⟨-, _, -, rfl⟩ := Json.bind_setOnce_eq_ok.mp h
    exact hdraft

theorem isSet_ofJson {json : Json} {parts : SpecificationParts}
    (h : SpecificationParts.ofJson json = .ok parts) : IncludePath.IsSet parts.includes := by
  obtain ⟨fields, -, h⟩ := Except.bind_eq_ok.mp h
  obtain ⟨draft, hdraft, h⟩ := Except.bind_eq_ok.mp h
  obtain rfl := Except.ok.inj h
  have hstart : Draft.start.PathsReachable := nofun
  have hpaths : draft.PathsReachable :=
    Except.foldlM_induction Draft.pathsReachable_add hstart hdraft
  exact IncludePath.isSet_orderedSet hpaths

end SpecificationParts

theorem Specification.WellFormed.ofJsonText {text : String} {s : Specification}
    (h : Specification.ofJsonText text = .ok s) : s.WellFormed := by
  obtain ⟨-, parts, hparts, hs⟩ := Json.readTextChecked_eq_ok h
  exact .ofParts (SpecificationParts.isSet_ofJson hparts) (Json.checked_eq_ok.mp hs)

/-! ## The invariant -/

mutual

/-- Every leaf of a reachable chain reads from its variable. -/
theorem CriteriaChain.Reachable.isClosed {chain : CriteriaChain} :
    chain.Reachable → chain.isClosed = true
  | .boundTo v => CriteriaChain.isClosed_boundTo v
  | .groupOver v => CriteriaChain.isClosed_groupOver v
  | .held hb => hb.wellFormed.closed
  | .addWhere hchain h => CriteriaChain.isClosed_addWhere hchain.isClosed h
  | .addAnd hchain h => CriteriaChain.isClosed_addAnd hchain.isClosed h
  | .addOr hchain h => CriteriaChain.isClosed_addOr hchain.isClosed h
  | .addNot hchain h => CriteriaChain.isClosed_addNot hchain.isClosed h
  | .addGroup hchain hfill hsub h => by
    refine CriteriaChain.isClosed_addGroup hchain.isClosed (fun sub' hsub' ↦ ?_) h
    rw [hfill, Except.ok.injEq] at hsub'
    exact hsub' ▸ hsub.isClosed

/-- A reachable builder would build something well formed. -/
theorem SpecificationBuilder.Reachable.wellFormed {b : SpecificationBuilder} :
    b.Reachable → b.build.WellFormed
  | .new => .new
  | .toBuilder hs => hs.wellFormed
  | .runStep hb h => hb.wellFormed.runStep h
  | .withCriteria hb hextend hchain h => by
    refine hb.wellFormed.withCriteria (fun chain' hchain' ↦ ?_) h
    rw [hextend, Except.ok.injEq] at hchain'
    exact hchain' ▸ hchain.isClosed

/-- **Every reachable specification is well formed.** -/
theorem Specification.Reachable.wellFormed {s : Specification} : s.Reachable → s.WellFormed
  | .all => .all
  | .none => .none
  | .default => .all
  | .build hb => hb.wellFormed
  | .ofParts hincludes h => .ofParts hincludes h
  | .ofJsonText h => .ofJsonText h
  | .and ha hb => ha.wellFormed.and hb.wellFormed
  | .or ha hb => ha.wellFormed.or hb.wellFormed
  | .not ha => ha.wellFormed.not

end

/-- **What holds of every specification that can be made**: each leaf of its criteria reads from its
own variable, so that evaluation meets no unbound leaf; it does not take zero; its sort keys are
not empty; and its paths have segments that are neither empty nor hold a dot. -/
theorem Specification.invariant_of_reachable {s : Specification} (h : s.Reachable) :
    (∀ p, s.criteria = some p → (∀ v ∈ p.leafVariables, v = s.var) ∧
      ∀ (α : Type) [Entity α] (entity : α),
        p.eval s.var entity = p.evalOn (fun _ ↦ true) entity) ∧
    s.window.take ≠ some 0 ∧
    (∀ level ∈ s.sorts.levels, level.key ≠ "") ∧
    ∀ path ∈ s.includes, 0 < path.depth ∧
      ∀ segment ∈ path.segments, segment ≠ "" ∧ '.' ∉ segment.toList := by
  have hs := h.wellFormed
  refine ⟨fun p hp ↦ ?_, hs.take_ne_zero, hs.hasKeys, fun path hpath ↦ ?_⟩
  · have hclosed : p.isClosedOver s.var = true := by
      have hcriteria := hs.closed
      rwa [hp] at hcriteria
    exact ⟨Predicate.isClosedOver_iff.mp hclosed,
      fun _ _ entity ↦ Predicate.eval_of_isClosedOver hclosed entity⟩
  · exact ⟨path.depth_pos, (hs.isSet.reachable path hpath).isSegment⟩

/-- A program that fills a group with a chain over another variable. -/
def foreignGroupSteps : List BuilderStep :=
  [.boundTo ⟨"p"⟩, .addWhere ⟨"active", .equal, .bool true⟩,
    .criteria [.addGroup .or (some ⟨"q"⟩)
      [.addWhere ⟨"name", .notNull, .null⟩, .addNot ⟨"hidden", .equal, .bool true⟩]],
    .sort (.orderBy "name" .descending), .take 3, .addInclude "order.lines"]

theorem Specification.invariant_of_foreignGroup :
    ∃ b, SpecificationBuilder.new.run foreignGroupSteps = .ok b ∧
      b.build.includes = [⟨"order", ["lines"]⟩] ∧
      (∀ p, b.build.criteria = some p → ∀ v ∈ p.leafVariables, v = ⟨"p"⟩) ∧
      (∀ level ∈ b.build.sorts.levels, level.key ≠ "") ∧
      ∀ path ∈ b.build.includes, ∀ segment ∈ path.segments, segment ≠ "" := by
  have hb : ∃ b, SpecificationBuilder.new.run foreignGroupSteps = .ok b ∧
      b.build.var = ⟨"p"⟩ ∧ b.build.includes = [⟨"order", ["lines"]⟩] := ⟨_, rfl, rfl, rfl⟩
  obtain ⟨b, hb, hv, hincludes⟩ := hb
  obtain ⟨hcriteria, -, hkeys, hpaths⟩ :=
    Specification.invariant_of_reachable (.build (SpecificationBuilder.Reachable.new.run hb))
  refine ⟨b, hb, hincludes, ?_⟩
  rw [hv] at hcriteria
  exact ⟨fun p hp ↦ (hcriteria p hp).1, hkeys,
    fun path hpath segment hsegment ↦ ((hpaths path hpath).2 segment hsegment).1⟩

end Sift
