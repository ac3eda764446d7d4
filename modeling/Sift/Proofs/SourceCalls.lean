import Mathlib.Data.List.Basic
import Sift.Proofs.Intents

/-!
# What sources are asked for

A backend of its own gets to see the calls of an evaluation and nothing else.  This file says which
they are (`Specification.Asks`), in which order they come (`SourceCall.Precedes`), and that nothing
is asked for that makes no sense (`SourceCall.IsValid`), as long as the specification is one that
can be made.

A `Simulation` is a relation between two sources, of whatever kinds, that each operation keeps.  One
call after the other, it is kept by everything that is built from the ordinary stages, so that a
backend that follows a source in memory step by step comes to the same results.

* `Stage.asks_of_mem_calls` and `Stage.pairwise_calls` — what each stage asks for, and in what
  order;
* `Evaluator.mem_calls_iff` — the extent of the calls;
* `Evaluator.run_simulates` — related sources stay related;
* `Evaluator.run_is_orderly` — the result.
-/

set_option autoImplicit false
namespace Sift

/-! ## Calls -/

namespace SourceCall

/-- The place of an operation in a pipeline. -/
def rank : SourceCall → Nat
  | .filter .. => 0
  | .orderBy _ => 1
  | .load _ => 2
  | .skip _ => 3
  | .take _ => 4

/-- Whether a call may be followed by another: by one of a later operation, or a load by one of a
greater path. -/
def Precedes : SourceCall → SourceCall → Prop
  | .load path, .load next => compare path next = .lt
  | call, next => call.rank < next.rank

/-- Whether a call asks for something that makes sense. -/
def IsValid : SourceCall → Prop
  | .filter var criteria => criteria.isClosedOver var = true
  | .orderBy levels => levels ≠ [] ∧ ∀ level ∈ levels, level.key ≠ ""
  | .load path => path.Reachable
  | .skip _ | .take _ => True

/-- Whether a call asks for a sort. -/
def isOrderBy : SourceCall → Bool
  | .orderBy _ => true
  | _ => false

/-- Whether a call asks for related data. -/
def isLoad : SourceCall → Bool
  | .load _ => true
  | _ => false

theorem precedes_of_rank_lt {call next : SourceCall} (h : call.rank < next.rank) :
    call.Precedes next := by
  cases call <;> cases next <;> first | exact h | exact absurd h (Nat.lt_irrefl _)

end SourceCall

/-- What a specification asks a source for. -/
inductive Specification.Asks (s : Specification) (intent : Intent) (maxTake : Option UInt64) :
    SourceCall → Prop where
  | filter {p : Predicate} (hcriteria : s.criteria = some p) : s.Asks intent maxTake (.filter s.var p)
  /-- The order is wanted with the entities, or to cut a window. -/
  | orderBy (hlevels : s.sorts.levels ≠ []) (hwanted : intent = .fetch ∨ s.window ≠ .unbounded) :
    s.Asks intent maxTake (.orderBy s.sorts.levels)
  | load {path : IncludePath} (hfetch : intent = .fetch) (hpath : path ∈ s.includes) :
    s.Asks intent maxTake (.load path)
  | skip {count : UInt64} (hskip : s.window.skip = some count) : s.Asks intent maxTake (.skip count)
  /-- No more is taken than the settings allow. -/
  | take {count : UInt64} (hlimit : s.window.limit maxTake = some count.toNat) :
    s.Asks intent maxTake (.take count)

theorem Intent.materializes_iff {intent : Intent} : intent.materializes = true ↔ intent = .fetch := by
  cases intent <;> simp [materializes]

theorem Window.isUnbounded_iff {window : Window} :
    window.isUnbounded = true ↔ window = .unbounded := by
  obtain ⟨_ | skip, _ | take⟩ := window <;> simp [isUnbounded, unbounded]

/-! ## What a stage asks for -/

namespace Stage

open SourceCall

variable {context : StageContext} {call : SourceCall}

theorem mem_toList_map {γ : Type} {asked : Option γ} {f : γ → SourceCall} :
    call ∈ (asked.map f).toList ↔ ∃ what, asked = some what ∧ call = f what := by
  cases asked <;> simp

theorem mem_calls_filter : call ∈ filter.calls context ↔
    ∃ p, context.spec.criteria = some p ∧ call = .filter context.spec.var p :=
  mem_toList_map

theorem mem_calls_order : call ∈ order.calls context ↔ (context.spec.sorts.levels ≠ [] ∧
    (context.intent = .fetch ∨ context.spec.window ≠ .unbounded)) ∧
    call = .orderBy context.spec.sorts.levels := by
  have hguard : (context.spec.sorts.isEmpty || context.orderIsUnneeded) = true ↔
      ¬ (context.spec.sorts.levels ≠ [] ∧
        (context.intent = .fetch ∨ context.spec.window ≠ .unbounded)) := by
    simp only [← Intent.materializes_iff, ne_eq, ← Window.isUnbounded_iff,
      StageContext.orderIsUnneeded, SortChain.isEmpty, ← List.isEmpty_iff]
    cases context.spec.sorts.levels.isEmpty <;> cases context.intent.materializes <;>
      cases context.spec.window.isUnbounded <;> decide
  show call ∈ (if (context.spec.sorts.isEmpty || context.orderIsUnneeded) = true then []
    else [SourceCall.orderBy context.spec.sorts.levels]) ↔ _
  by_cases h : (context.spec.sorts.isEmpty || context.orderIsUnneeded) = true
  · rw [if_pos h]
    exact ⟨fun hcall ↦ absurd hcall List.not_mem_nil,
      fun hwanted ↦ absurd hwanted.1 (hguard.mp h)⟩
  · rw [if_neg h, List.mem_singleton]
    exact ⟨fun hcall ↦ ⟨not_not.mp (mt hguard.mpr h), hcall⟩, And.right⟩

theorem mem_calls_loading : call ∈ loading.calls context ↔
    context.intent = .fetch ∧ ∃ path ∈ context.spec.includes, call = .load path := by
  rw [← Intent.materializes_iff]
  show call ∈ (if context.intent.materializes then _ else []) ↔ _
  by_cases h : context.intent.materializes = true
  · rw [if_pos h, List.mem_map]
    simp only [h, true_and, eq_comm]
  · rw [if_neg h]
    exact ⟨fun hcall ↦ absurd hcall List.not_mem_nil, fun hfetch ↦ absurd hfetch.1 h⟩

theorem mem_calls_pagination : call ∈ pagination.calls context ↔
    (∃ count, context.spec.window.skip = some count ∧ call = .skip count) ∨
    ∃ count : UInt64, context.spec.window.limit context.config.maxTake = some count.toNat ∧
      call = .take count := by
  have htake : ∀ count : UInt64, context.cappedTake = some count ↔
      context.spec.window.limit context.config.maxTake = some count.toNat := by
    intro count
    rw [← context.cappedTake_toNat]
    cases context.cappedTake <;> simp [UInt64.toNat_inj]
  show call ∈ (context.spec.window.skip.map SourceCall.skip).toList ++
    (context.cappedTake.map SourceCall.take).toList ↔ _
  simp only [List.mem_append, mem_toList_map, htake]

/-- **A stage asks for nothing else than the specification does.** -/
theorem asks_of_mem_calls {stage : Stage} (hstage : stage ∈ pipeline)
    (h : call ∈ stage.calls context) :
    context.spec.Asks context.intent context.config.maxTake call := by
  rcases eq_of_mem_pipeline hstage with rfl | rfl | rfl | rfl
  · obtain ⟨p, hp, rfl⟩ := mem_calls_filter.mp h
    exact .filter hp
  · obtain ⟨⟨hlevels, hwanted⟩, rfl⟩ := mem_calls_order.mp h
    exact .orderBy hlevels hwanted
  · obtain ⟨hfetch, path, hpath, rfl⟩ := mem_calls_loading.mp h
    exact .load hfetch hpath
  · rcases mem_calls_pagination.mp h with ⟨count, hskip, rfl⟩ | ⟨count, hlimit, rfl⟩
    · exact .skip hskip
    · exact .take hlimit

/-- **For another intent a stage asks for what it does for fetching**, without loads and, if there
is no window, without an order. -/
theorem calls_eq_filter {stage : Stage} (hstage : stage ∈ pipeline) (s : Specification)
    (config : EvaluatorConfig) {intent : Intent} (hintent : intent ≠ .fetch) :
    stage.calls ⟨s, intent, config⟩ = (stage.calls ⟨s, .fetch, config⟩).filter fun call ↦
      !call.isLoad && !(call.isOrderBy && s.window.isUnbounded) := by
  have hmaterializes : intent.materializes = false := by
    rwa [Bool.eq_false_iff, Ne, Intent.materializes_iff]
  rcases eq_of_mem_pipeline hstage with rfl | rfl | rfl | rfl
  · refine (List.filter_eq_self.mpr fun call hcall ↦ ?_).symm
    obtain ⟨p, -, rfl⟩ := mem_calls_filter.mp hcall
    rfl
  · show (if (s.sorts.isEmpty || (!s.sorts.isEmpty && !intent.materializes &&
        s.window.isUnbounded)) = true then [] else [SourceCall.orderBy s.sorts.levels]) =
      List.filter _ (if (s.sorts.isEmpty || (!s.sorts.isEmpty && !true &&
        s.window.isUnbounded)) = true then [] else [SourceCall.orderBy s.sorts.levels])
    rw [hmaterializes]
    cases s.sorts.isEmpty <;> cases s.window.isUnbounded <;> rfl
  · show (if intent.materializes then _ else []) = List.filter _ (s.includes.map _)
    rw [hmaterializes, if_neg Bool.false_ne_true, eq_comm, List.filter_eq_nil_iff]
    intro call hcall
    obtain ⟨path, -, rfl⟩ := List.mem_map.mp hcall
    exact Bool.false_ne_true
  · refine (List.filter_eq_self.mpr fun call hcall ↦ ?_).symm
    rcases mem_calls_pagination.mp hcall with ⟨count, -, rfl⟩ | ⟨count, -, rfl⟩ <;> rfl

end Stage

namespace Evaluator

open SourceCall

variable (config : EvaluatorConfig) (s : Specification) (intent : Intent)

/-- **The calls of the ordinary stages are what the specification asks for.** -/
theorem mem_calls_iff {call : SourceCall} : call ∈ (ofConfig config).calls s intent ↔
    s.Asks intent config.maxTake call := by
  constructor
  · intro h
    obtain ⟨stage, hstage, hcall⟩ := List.mem_flatMap.mp h
    exact Stage.asks_of_mem_calls hstage hcall
  · intro h
    have hmem : ∀ stage ∈ Stage.pipeline, call ∈ stage.calls ⟨s, intent, config⟩ →
        call ∈ (ofConfig config).calls s intent :=
      fun stage hstage hcall ↦ List.mem_flatMap.mpr ⟨stage, hstage, hcall⟩
    cases h with
    | filter hcriteria =>
      exact hmem .filter (by simp [Stage.pipeline]) (Stage.mem_calls_filter.mpr ⟨_, hcriteria, rfl⟩)
    | orderBy hlevels hwanted =>
      exact hmem .order (by simp [Stage.pipeline])
        (Stage.mem_calls_order.mpr ⟨⟨hlevels, hwanted⟩, rfl⟩)
    | load hfetch hpath =>
      exact hmem .loading (by simp [Stage.pipeline])
        (Stage.mem_calls_loading.mpr ⟨hfetch, _, hpath, rfl⟩)
    | skip hskip =>
      exact hmem .pagination (by simp [Stage.pipeline])
        (Stage.mem_calls_pagination.mpr (.inl ⟨_, hskip, rfl⟩))
    | take hlimit =>
      exact hmem .pagination (by simp [Stage.pipeline])
        (Stage.mem_calls_pagination.mpr (.inr ⟨_, hlimit, rfl⟩))

end Evaluator

namespace Stage

open SourceCall

/-- **The calls of a stage are in order.**  Only loads are made more than once. -/
theorem pairwise_calls {stage : Stage} (hstage : stage ∈ pipeline) {context : StageContext}
    (hincludes : Ascending context.spec.includes) : (stage.calls context).Pairwise Precedes := by
  rcases eq_of_mem_pipeline hstage with rfl | rfl | rfl | rfl
  · show (context.spec.criteria.map _).toList.Pairwise Precedes
    cases context.spec.criteria <;> simp
  · show (if _ then _ else _ : List SourceCall).Pairwise Precedes
    split <;> simp
  · show (if _ then _ else _ : List SourceCall).Pairwise Precedes
    split
    · exact List.pairwise_map.mpr hincludes
    · exact List.Pairwise.nil
  · show ((context.spec.window.skip.map _).toList ++ (context.cappedTake.map _).toList).Pairwise
      Precedes
    cases context.spec.window.skip <;> cases context.cappedTake <;> simp [Precedes, rank]

/-- A stage makes its calls before those of later stages. -/
theorem pairwise_pipeline (context : StageContext) : pipeline.Pairwise fun stage later ↦
    ∀ call ∈ stage.calls context, ∀ next ∈ later.calls context, call.Precedes next := by
  have hfilter : ∀ call ∈ filter.calls context, call.rank = 0 := by
    intro call hcall
    obtain ⟨p, -, rfl⟩ := mem_calls_filter.mp hcall
    rfl
  have horder : ∀ call ∈ order.calls context, call.rank = 1 := by
    intro call hcall
    obtain ⟨-, rfl⟩ := mem_calls_order.mp hcall
    rfl
  have hloading : ∀ call ∈ loading.calls context, call.rank = 2 := by
    intro call hcall
    obtain ⟨-, path, -, rfl⟩ := mem_calls_loading.mp hcall
    rfl
  have hpagination : ∀ call ∈ pagination.calls context, 2 < call.rank := by
    intro call hcall
    rcases mem_calls_pagination.mp hcall with ⟨count, -, rfl⟩ | ⟨count, -, rfl⟩
    · exact Nat.lt_succ_self 2
    · exact Nat.lt_of_succ_lt (Nat.lt_succ_self 3)
  have hranks : pipeline.Pairwise fun stage later ↦
      ∀ call ∈ stage.calls context, ∀ next ∈ later.calls context, call.rank < next.rank := by
    simp only [pipeline, List.pairwise_cons, List.forall_mem_cons, List.not_mem_nil,
      List.Pairwise.nil, and_true, false_implies, implies_true]
    grind
  exact hranks.imp fun h call hcall next hnext ↦ precedes_of_rank_lt (h call hcall next hnext)

end Stage

/-! ## Simulations -/

/-- A relation between two sources that every operation keeps, if it is asked for something that
makes sense. -/
structure Simulation {σ τ : Type} [QuerySource σ] [QuerySource τ] (R : σ → τ → Prop) : Prop where
  filter : ∀ {var : Variable} {criteria : Predicate} {a : σ} {b : τ},
    criteria.isClosedOver var = true → R a b →
      R (QuerySource.filter var criteria a) (QuerySource.filter var criteria b)
  orderBy : ∀ {levels : List SortLevel} {a : σ} {b : τ},
    levels ≠ [] → (∀ level ∈ levels, level.key ≠ "") → R a b →
      R (QuerySource.orderBy levels a) (QuerySource.orderBy levels b)
  skip : ∀ {count : UInt64} {a : σ} {b : τ}, R a b →
    R (QuerySource.skip count a) (QuerySource.skip count b)
  take : ∀ {count : UInt64} {a : σ} {b : τ}, R a b →
    R (QuerySource.take count a) (QuerySource.take count b)
  load : ∀ {path : IncludePath} {a : σ} {b : τ}, path.Reachable → R a b →
    R (QuerySource.load path a) (QuerySource.load path b)

namespace Simulation

variable {σ τ : Type} [QuerySource σ] [QuerySource τ] {R : σ → τ → Prop}

/-- One call keeps the relation. -/
theorem perform (hR : Simulation R) {call : SourceCall} (hvalid : call.IsValid) {a : σ} {b : τ}
    (h : R a b) : R (call.perform a) (call.perform b) := by
  cases call with
  | filter var criteria => exact hR.filter hvalid h
  | orderBy levels => exact hR.orderBy hvalid.1 hvalid.2 h
  | skip count => exact hR.skip h
  | take count => exact hR.take h
  | load path => exact hR.load hvalid h

/-- One call after the other keeps it. -/
theorem performAll (hR : Simulation R) {calls : List SourceCall}
    (hvalid : ∀ call ∈ calls, call.IsValid) {a : σ} {b : τ} (h : R a b) :
    R (SourceCall.performAll calls a) (SourceCall.performAll calls b) := by
  induction calls generalizing a b with
  | nil => exact h
  | cons call calls ih =>
    rw [List.forall_mem_cons] at hvalid
    exact ih hvalid.2 (hR.perform hvalid.1 h)

end Simulation

/-! ## Sources of reachable specifications -/

namespace Specification

variable {s : Specification} {intent : Intent} {maxTake : Option UInt64}

/-- **What a well-formed specification asks for makes sense.** -/
theorem Asks.isValid (hs : s.WellFormed) {call : SourceCall} (h : s.Asks intent maxTake call) :
    call.IsValid := by
  cases h with
  | filter hcriteria =>
    have hclosed := hs.closed
    rwa [hcriteria] at hclosed
  | orderBy hlevels _ => exact ⟨hlevels, hs.hasKeys⟩
  | load _ hpath => exact hs.isSet.reachable _ hpath
  | skip _ => trivial
  | take _ => trivial

/-- Nothing is asked for only if the settings allow nothing. -/
theorem Asks.maxTake_eq_zero (hs : s.WellFormed) (h : s.Asks intent maxTake (.take 0)) :
    maxTake = some 0 := by
  cases h with
  | take hlimit =>
    rw [Window.limit, Option.map_eq_some_iff] at hlimit
    obtain ⟨count, hcount, hlimit⟩ := hlimit
    have hne : count.toNat ≠ 0 := fun hzero ↦
      hs.take_ne_zero ((UInt64.toNat_inj.mp hzero : count = 0) ▸ hcount)
    cases maxTake with
    | none => exact absurd hlimit hne
    | some max =>
      have hmin : min count.toNat max.toNat = 0 := hlimit
      have hmax : max.toNat = 0 := by omega
      rw [(UInt64.toNat_inj.mp hmax : max = 0)]

end Specification

namespace Evaluator

open SourceCall

/-- The calls that a log gets to see. -/
def logged (evaluator : Evaluator) (s : Specification) (intent : Intent) : List SourceCall :=
  (evaluator.run s intent CallLog.empty).calls

theorem logged_eq_calls (evaluator : Evaluator) (s : Specification) (intent : Intent) :
    evaluator.logged s intent = evaluator.calls s intent :=
  CallLog.performAll_calls _ _

/-- **Sources that are related stay related** through an evaluation by ordinary stages, in whatever
order and number they come. -/
theorem run_simulates {σ τ : Type} [QuerySource σ] [QuerySource τ] {R : σ → τ → Prop}
    (hR : Simulation R) {evaluator : Evaluator} (hstages : evaluator.stages ⊆ Stage.pipeline)
    {s : Specification} (hs : s.WellFormed) (intent : Intent) {a : σ} {b : τ} (h : R a b) :
    R (evaluator.run s intent a) (evaluator.run s intent b) := by
  refine run_related (fun stage hstage a b hab ↦ hR.performAll (fun call hcall ↦ ?_) hab) h
  exact (Stage.asks_of_mem_calls (hstages hstage) hcall).isValid hs

/-- **What the sources of a reachable specification are asked for.**  The ordinary stages make the
same calls of every source, and a log shows which: what the specification asks for and nothing
else, in order and no operation twice but loads, by ascending paths.  All of it makes sense, and
nothing is taken only if the settings allow nothing.  For another intent than fetching, the loads
are left out, and the order exactly if there is no window.  So a relation that each operation keeps
is kept by every evaluation through ordinary stages. -/
theorem run_is_orderly {s : Specification} (hs : s.Reachable) (config : EvaluatorConfig)
    (intent : Intent) :
    (∀ {σ : Type} [QuerySource σ] (source : σ), (ofConfig config).run s intent source =
      performAll ((ofConfig config).logged s intent) source) ∧
    (∀ call, call ∈ (ofConfig config).logged s intent ↔ s.Asks intent config.maxTake call) ∧
    ((ofConfig config).logged s intent).Pairwise Precedes ∧
    (∀ call ∈ (ofConfig config).logged s intent, call.IsValid) ∧
    (take 0 ∈ (ofConfig config).logged s intent → config.maxTake = some 0) ∧
    (intent ≠ .fetch → (ofConfig config).logged s intent =
      ((ofConfig config).logged s .fetch).filter fun call ↦
        !call.isLoad && !(call.isOrderBy && s.window.isUnbounded)) ∧
    ∀ {σ τ : Type} [QuerySource σ] [QuerySource τ] {R : σ → τ → Prop}, Simulation R →
      ∀ evaluator : Evaluator, evaluator.stages ⊆ Stage.pipeline → ∀ (a : σ) (b : τ), R a b →
        R (evaluator.run s intent a) (evaluator.run s intent b) := by
  have hwf := hs.wellFormed
  simp only [logged_eq_calls]
  refine ⟨fun source ↦ rfl, fun call ↦ mem_calls_iff config s intent, ?_, fun call hcall ↦ ?_,
    fun htake ↦ ?_, fun hintent ↦ ?_, fun hR evaluator hstages a b h ↦ ?_⟩
  · exact List.pairwise_flatMap.mpr ⟨fun stage hstage ↦
      Stage.pairwise_calls hstage hwf.isSet.ascending, Stage.pairwise_pipeline _⟩
  · exact ((mem_calls_iff config s intent).mp hcall).isValid hwf
  · exact ((mem_calls_iff config s intent).mp htake).maxTake_eq_zero hwf
  · rw [calls, calls, List.filter_flatMap]
    refine List.flatMap_congr fun stage hstage ↦ ?_
    exact Stage.calls_eq_filter hstage s config hintent
  · exact run_simulates hR hstages hwf intent h

end Evaluator

/-! ## A source that waits -/

/-- A log and the source that its calls make of a given one. -/
def CallLog.ReplaysTo {σ : Type} [QuerySource σ] (start : σ) (log : CallLog) (source : σ) : Prop :=
  SourceCall.performAll log.calls start = source

/-- **Noting calls and making them later** comes to the same as making them. -/
theorem CallLog.simulation_replaysTo {σ : Type} [QuerySource σ] (start : σ) :
    Simulation (CallLog.ReplaysTo start) := by
  have hrecord : ∀ (call : SourceCall) {log : CallLog} {source : σ}, log.ReplaysTo start source →
      (log.record call).ReplaysTo start (call.perform source) := by
    rintro call log source rfl
    exact SourceCall.performAll_append log.calls [call] start
  exact ⟨fun _ ↦ hrecord (.filter _ _), fun _ _ ↦ hrecord (.orderBy _), hrecord (.skip _),
    hrecord (.take _), fun _ ↦ hrecord (.load _)⟩

/-- Counting with a window and a limit: no path is loaded, the order is kept for the window, and
calls that were noted count the records when they are made. -/
theorem Evaluator.run_is_orderly_foreignGroup :
    ∃ b, SpecificationBuilder.new.run foreignGroupSteps = .ok b ∧
      ((ofConfig ⟨true, some 2⟩).logged b.build .count).map SourceCall.rank = [0, 1, 4] ∧
      (ofConfig ⟨true, some 2⟩).logged b.build .count =
        ((ofConfig ⟨true, some 2⟩).logged b.build .fetch).filter (!·.isLoad) ∧
      ((ofConfig ⟨true, some 2⟩).run b.build .count CallLog.empty).ReplaysTo
        (MemorySource.ofList namedRecords)
        ((ofConfig ⟨true, some 2⟩).run b.build .count (MemorySource.ofList namedRecords)) := by
  have hb : ∃ b, SpecificationBuilder.new.run foreignGroupSteps = .ok b ∧
      b.build.window.isUnbounded = false ∧
      ((ofConfig ⟨true, some 2⟩).logged b.build .count).map SourceCall.rank = [0, 1, 4] :=
    ⟨_, rfl, rfl, rfl⟩
  obtain ⟨b, hb, hwindow, hranks⟩ := hb
  obtain ⟨-, -, -, -, -, hfilter, hsimulates⟩ := run_is_orderly
    (.build (SpecificationBuilder.Reachable.new.run hb)) ⟨true, some 2⟩ .count
  refine ⟨b, hb, hranks, ?_, ?_⟩
  · simpa [hwindow] using hfilter nofun
  · exact hsimulates (CallLog.simulation_replaysTo _) _ (List.Subset.refl _) _ _ rfl

end Sift
