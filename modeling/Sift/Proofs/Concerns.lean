import Sift.Proofs.Reachable

/-!
# The concerns of a builder

A builder has four parts, and what is asked of it concerns one of them: the criteria, the sort
chain, the window or the paths.  So programs may be told apart by what they say on each concern,
and how they mix the concerns does not matter (`SpecificationBuilder.concerns_independent`).

A `BuilderCall` is a step of a program or goes on with the criteria by any function whatever, also
one that has nothing to do with the chain it is given.  `SpecificationBuilder.perform_eq` says once
what a call does: it acts on the part that it concerns and puts the result back.  From it come

* `SpecificationBuilder.part_of_perform` — the other parts stay as they were;
* `SpecificationBuilder.perform_of_part_eq` — what becomes of the part depends on nothing else;
* `SpecificationBuilder.exists_performAll_iff` — a program succeeds exactly if what it says on each
  concern would succeed on its own;
* `SpecificationBuilder.part_of_performAll` — and leaves of each part what that would.

Paths are a set, so that for them not even order or repetition matters
(`SpecificationBuilder.mem_includes_of_performAll`).
-/

set_option autoImplicit false
namespace Sift

/-! ## Calls -/

/-- What a builder may be asked for: a step of a program, or to go on with the criteria in any way
at all. -/
inductive BuilderCall where
  | step (step : BuilderStep)
  | withCriteria (extend : CriteriaChain → Except SpecError CriteriaChain)

namespace SpecificationBuilder

/-- Performs one call. -/
def perform (b : SpecificationBuilder) : BuilderCall → Except SpecError SpecificationBuilder
  | .step step => b.runStep step
  | .withCriteria extend => b.withCriteria extend

/-- Makes calls up to the first error. -/
def performAll (b : SpecificationBuilder) (calls : List BuilderCall) :
    Except SpecError SpecificationBuilder :=
  calls.foldlM perform b

/-- The specification that is built after calls. -/
def buildAfter (b : SpecificationBuilder) (calls : List BuilderCall) :
    Except SpecError Specification :=
  (b.performAll calls).map build

theorem performAll_cons (b : SpecificationBuilder) (call : BuilderCall)
    (calls : List BuilderCall) :
    b.performAll (call :: calls) = b.perform call >>= (·.performAll calls) :=
  List.foldlM_cons

/-- A program is a list of calls. -/
theorem performAll_map_step (b : SpecificationBuilder) (steps : List BuilderStep) :
    b.performAll (steps.map .step) = b.run steps := by
  rw [performAll, List.foldlM_map, run_eq_foldlM]
  rfl

end SpecificationBuilder

/-! ## Parts -/

/-- What a call of a builder may concern. -/
inductive Concern where
  | criteria
  | sorts
  | window
  | includes
deriving DecidableEq

/-- What a builder holds for a concern. -/
def Concern.Part : Concern → Type
  | .criteria => CriteriaChain
  | .sorts => SortChain
  | .window => Window
  | .includes => List IncludePath

namespace SpecificationBuilder

/-- The part of a builder that a concern is about. -/
def part (b : SpecificationBuilder) : (concern : Concern) → concern.Part
  | .criteria => b.criteria
  | .sorts => b.sorts
  | .window => b.window
  | .includes => b.includes

/-- The builder with one part replaced. -/
def withPart (b : SpecificationBuilder) : (concern : Concern) → concern.Part → SpecificationBuilder
  | .criteria, chain => { b with criteria := chain }
  | .sorts, chain => { b with sorts := chain }
  | .window, window => { b with window := window }
  | .includes, paths => { b with includes := paths }

variable {a b c : SpecificationBuilder} {concern : Concern}

@[simp] theorem part_withPart (b : SpecificationBuilder) (part : concern.Part) :
    (b.withPart concern part).part concern = part := by
  cases concern <;> rfl

theorem part_withPart_of_ne {other : Concern} (h : concern ≠ other) (part : other.Part) :
    (b.withPart other part).part concern = b.part concern := by
  cases concern <;> cases other <;> first | rfl | exact absurd rfl h

/-- A builder is nothing but its parts. -/
theorem eq_of_part_eq (h : ∀ concern, b.part concern = c.part concern) : b = c := by
  obtain ⟨criteria, sorts, window, includes⟩ := b
  obtain ⟨criteria', sorts', window', includes'⟩ := c
  have hcriteria : criteria = criteria' := h .criteria
  have hsorts : sorts = sorts' := h .sorts
  have hwindow : window = window' := h .window
  have hincludes : includes = includes' := h .includes
  rw [hcriteria, hsorts, hwindow, hincludes]

end SpecificationBuilder

namespace BuilderCall

/-- The part that a call is about. -/
def concern : BuilderCall → Concern
  | .step (.boundTo _) | .step (.criteria _) | .step (.addWhere _) | .withCriteria _ => .criteria
  | .step (.sort _) => .sorts
  | .step (.skip _) | .step (.take _) | .step (.page _ _) => .window
  | .step (.addInclude _) => .includes

/-- What a call makes of the part that it is about. -/
def act : (call : BuilderCall) → call.concern.Part → Except SpecError call.concern.Part
  | .step (.boundTo v), _ => .ok (CriteriaChain.boundTo v)
  | .step (.criteria steps), chain => CriteriaChain.run chain steps
  | .step (.addWhere clause), chain => CriteriaChain.addWhere chain clause
  | .withCriteria extend, chain => extend chain
  | .step (.sort sortStep), chain => SortChain.runStep chain sortStep
  | .step (.skip count), window => .ok (Window.withSkip window count)
  | .step (.take count), window => Window.withTake window count
  | .step (.page number size), _ => (Page.new number size).map Window.ofPage
  | .step (.addInclude path), paths => (IncludePath.parse path).map (insertOrdered · paths)

theorem concern_eq_includes {call : BuilderCall} :
    call.concern = .includes ↔ ∃ path, call = .step (.addInclude path) := by
  constructor
  · intro h
    cases call with
    | withCriteria extend => cases h
    | step step =>
      cases step with
      | addInclude path => exact ⟨path, rfl⟩
      | boundTo _ | criteria _ | addWhere _ | sort _ | skip _ | take _ | page _ _ => cases h
  · rintro ⟨path, rfl⟩
    rfl

end BuilderCall

/-! ## One call -/

namespace SpecificationBuilder

variable {a b c : SpecificationBuilder} {call : BuilderCall}

/-- **A call acts on the part that it is about and puts the result back.** -/
theorem perform_eq (b : SpecificationBuilder) (call : BuilderCall) :
    b.perform call = (call.act (b.part call.concern)).map (b.withPart call.concern) := by
  have hbind : ∀ {α : Type} (x : Except SpecError α) (f : α → SpecificationBuilder),
      (x >>= fun part ↦ pure (f part)) = x.map f := by
    intro α x f
    cases x <;> rfl
  cases call with
  | withCriteria extend => exact hbind _ _
  | step step =>
    cases step with
    | boundTo v => rfl
    | skip count => rfl
    | criteria steps => exact hbind _ _
    | addWhere clause => exact hbind _ _
    | sort step => exact hbind _ _
    | take count => exact hbind _ _
    | page number size =>
      show (Page.new number size >>= _) = ((Page.new number size).map _).map _
      cases Page.new number size <;> rfl
    | addInclude path =>
      show (IncludePath.parse path >>= _) = ((IncludePath.parse path).map _).map _
      cases IncludePath.parse path <;> rfl

theorem perform_eq_ok : b.perform call = .ok c ↔
    ∃ part, call.act (b.part call.concern) = .ok part ∧ b.withPart call.concern part = c := by
  rw [perform_eq, Except.map_eq_ok]

/-- A call leaves alone what it is not about. -/
theorem part_of_perform (h : b.perform call = .ok c) {concern : Concern}
    (hconcern : concern ≠ call.concern) : c.part concern = b.part concern := by
  obtain ⟨part, -, rfl⟩ := perform_eq_ok.mp h
  exact part_withPart_of_ne hconcern part

/-- What a call makes of its part depends on nothing but that part. -/
theorem perform_of_part_eq (hpart : a.part call.concern = b.part call.concern)
    (h : a.perform call = .ok c) :
    ∃ d, b.perform call = .ok d ∧ c.part call.concern = d.part call.concern := by
  obtain ⟨part, hact, rfl⟩ := perform_eq_ok.mp h
  rw [hpart] at hact
  refine ⟨b.withPart call.concern part, perform_eq_ok.mpr ⟨part, hact, rfl⟩, ?_⟩
  rw [part_withPart, part_withPart]

/-! ## Programs, concern by concern -/

variable {calls : List BuilderCall}

/-- **What a program makes of a part is what it says on that concern that makes it**, also of
another builder that has the part in common. -/
theorem part_of_performAll (concern : Concern) (hpart : a.part concern = b.part concern)
    (h : a.performAll calls = .ok c) :
    ∃ d, b.performAll (calls.filter (·.concern = concern)) = .ok d ∧
      c.part concern = d.part concern := by
  induction calls generalizing a b with
  | nil =>
    obtain rfl := Except.ok.inj h
    exact ⟨b, rfl, hpart⟩
  | cons call calls ih =>
    rw [performAll_cons, Except.bind_eq_ok] at h
    obtain ⟨next, hnext, h⟩ := h
    by_cases hconcern : call.concern = concern
    · subst hconcern
      obtain ⟨other, hother, hpart'⟩ := perform_of_part_eq hpart hnext
      obtain ⟨d, hd, hpart''⟩ := ih hpart' h
      refine ⟨d, ?_, hpart''⟩
      rw [List.filter_cons_of_pos (by simp), performAll_cons, hother]
      exact hd
    · have hpart' : next.part concern = b.part concern :=
        (part_of_perform hnext (Ne.symm hconcern)).trans hpart
      obtain ⟨d, hd, hpart''⟩ := ih hpart' h
      refine ⟨d, ?_, hpart''⟩
      rw [List.filter_cons_of_neg (by simpa using hconcern)]
      exact hd

/-- What a program says on each concern succeeds from some builder or other that has the part in
common.  Then the whole program does. -/
theorem exists_performAll_of_filter (h : ∀ concern, ∃ a c : SpecificationBuilder,
      a.part concern = b.part concern ∧
        a.performAll (calls.filter (·.concern = concern)) = .ok c) :
    ∃ c, b.performAll calls = .ok c := by
  induction calls generalizing b with
  | nil => exact ⟨b, rfl⟩
  | cons call calls ih =>
    -- The first call comes first in what the program says on its concern as well.
    obtain ⟨a, c, hpart, hrun⟩ := h call.concern
    rw [List.filter_cons_of_pos (by simp), performAll_cons, Except.bind_eq_ok] at hrun
    obtain ⟨other, hother, hrun⟩ := hrun
    obtain ⟨next, hnext, hpart'⟩ := perform_of_part_eq hpart hother
    have hrest : ∀ concern, ∃ a c : SpecificationBuilder, a.part concern = next.part concern ∧
        a.performAll (calls.filter (·.concern = concern)) = .ok c := by
      intro concern
      by_cases hconcern : call.concern = concern
      · subst hconcern
        exact ⟨other, c, hpart', hrun⟩
      · obtain ⟨a, c, hpart, hrun⟩ := h concern
        rw [List.filter_cons_of_neg (by simpa using hconcern)] at hrun
        have hsame := part_of_perform hnext (Ne.symm hconcern)
        exact ⟨a, c, hpart.trans hsame.symm, hrun⟩
    obtain ⟨last, hlast⟩ := ih hrest
    refine ⟨last, ?_⟩
    rw [performAll_cons, hnext]
    exact hlast

/-- **A program succeeds exactly if what it says on each concern does on its own.** -/
theorem exists_performAll_iff : (∃ c, b.performAll calls = .ok c) ↔
    ∀ concern, ∃ c, b.performAll (calls.filter (·.concern = concern)) = .ok c := by
  constructor
  · rintro ⟨c, hc⟩ concern
    obtain ⟨d, hd, -⟩ := part_of_performAll concern rfl hc
    exact ⟨d, hd⟩
  · intro h
    refine exists_performAll_of_filter fun concern ↦ ?_
    obtain ⟨c, hc⟩ := h concern
    exact ⟨b, c, rfl, hc⟩

/-! ## Paths -/

theorem perform_addInclude_eq_ok {text : String} :
    b.perform (.step (.addInclude text)) = .ok c ↔ ∃ path, IncludePath.parse text = .ok path ∧
      c = { b with includes := insertOrdered path b.includes } := by
  show (IncludePath.parse text >>= _) = _ ↔ _
  rw [Except.bind_eq_ok]
  refine exists_congr fun path ↦ and_congr_right fun _ ↦ ?_
  exact ⟨fun h ↦ (Except.ok.inj h).symm, fun h ↦ congrArg Except.ok h.symm⟩

/-- Paths are added if they can be read, whatever is there. -/
theorem exists_performAll_includes_iff :
    (∃ c, b.performAll (calls.filter (·.concern = .includes)) = .ok c) ↔
      ∀ text, .step (.addInclude text) ∈ calls → ∃ path, IncludePath.parse text = .ok path := by
  induction calls generalizing b with
  | nil =>
    refine ⟨fun _ text htext ↦ ?_, fun _ ↦ ⟨b, rfl⟩⟩
    cases htext
  | cons call calls ih =>
    by_cases hconcern : call.concern = .includes
    · obtain ⟨text, rfl⟩ := BuilderCall.concern_eq_includes.mp hconcern
      rw [List.filter_cons_of_pos (by simpa using hconcern), performAll_cons]
      constructor
      · rintro ⟨c, hc⟩ other hother
        obtain ⟨next, hnext, hc⟩ := Except.bind_eq_ok.mp hc
        obtain ⟨path, hpath, -⟩ := perform_addInclude_eq_ok.mp hnext
        rcases List.mem_cons.mp hother with heq | hother
        · obtain rfl : other = text := by simpa using heq
          exact ⟨path, hpath⟩
        · exact ih.mp ⟨c, hc⟩ other hother
      · intro h
        obtain ⟨path, hpath⟩ := h text List.mem_cons_self
        have hnext := perform_addInclude_eq_ok (b := b).mpr ⟨path, hpath, rfl⟩
        obtain ⟨c, hc⟩ := ih.mpr fun other hother ↦ h other (List.mem_cons_of_mem _ hother)
        exact ⟨c, Except.bind_eq_ok.mpr ⟨_, hnext, hc⟩⟩
    · have hne : ∀ text, BuilderCall.step (.addInclude text) ≠ call := by
        rintro text rfl
        exact hconcern rfl
      rw [List.filter_cons_of_neg (by simpa using hconcern), ih]
      simp [hne]

/-- What a call leaves of the paths: one more of them, or the same. -/
theorem includes_of_perform (h : b.perform call = .ok c) :
    (∃ text path, call = .step (.addInclude text) ∧ IncludePath.parse text = .ok path ∧
      c.includes = insertOrdered path b.includes) ∨
    (∀ text, call ≠ .step (.addInclude text)) ∧ c.includes = b.includes := by
  by_cases hconcern : call.concern = .includes
  · obtain ⟨text, rfl⟩ := BuilderCall.concern_eq_includes.mp hconcern
    obtain ⟨path, hpath, rfl⟩ := perform_addInclude_eq_ok.mp h
    exact .inl ⟨text, path, rfl, hpath, rfl⟩
  · have hsame : c.includes = b.includes := part_of_perform h (Ne.symm hconcern)
    refine .inr ⟨?_, hsame⟩
    rintro text rfl
    exact hconcern rfl

theorem mem_includes_of_perform (h : b.perform call = .ok c) {path : IncludePath} :
    path ∈ c.includes ↔ path ∈ b.includes ∨
      ∃ text, call = .step (.addInclude text) ∧ IncludePath.parse text = .ok path := by
  rcases includes_of_perform h with ⟨text, parsed, rfl, hparsed, hincludes⟩ | ⟨hne, hincludes⟩
  · rw [hincludes, mem_insertOrdered]
    simp [hparsed, or_comm, eq_comm]
  · simp [hincludes, hne]

/-- **The paths after a program** are those before it and those that it adds, in whatever order. -/
theorem mem_includes_of_performAll (h : b.performAll calls = .ok c) {path : IncludePath} :
    path ∈ c.includes ↔ path ∈ b.includes ∨
      ∃ text, .step (.addInclude text) ∈ calls ∧ IncludePath.parse text = .ok path := by
  induction calls generalizing b with
  | nil =>
    obtain rfl := Except.ok.inj h
    simp
  | cons call calls ih =>
    rw [performAll_cons, Except.bind_eq_ok] at h
    obtain ⟨next, hnext, h⟩ := h
    rw [ih h, mem_includes_of_perform hnext]
    simp only [List.mem_cons]
    constructor
    · rintro ((hpath | ⟨text, rfl, htext⟩) | ⟨text, hmem, htext⟩)
      · exact .inl hpath
      · exact .inr ⟨text, .inl rfl, htext⟩
      · exact .inr ⟨text, .inr hmem, htext⟩
    · rintro (hpath | ⟨text, rfl | hmem, htext⟩)
      · exact .inl (.inl hpath)
      · exact .inl (.inr ⟨text, rfl, htext⟩)
      · exact .inr ⟨text, hmem, htext⟩

/-- The paths stay a set. -/
theorem ascending_of_performAll (hb : Ascending b.includes) (h : b.performAll calls = .ok c) :
    Ascending c.includes := by
  refine Except.foldlM_induction (motive := fun b ↦ Ascending b.includes) ?_ hb h
  intro b call next hb hnext
  rcases includes_of_perform hnext with ⟨_, path, -, -, hincludes⟩ | ⟨-, hincludes⟩
  · rw [hincludes]
    exact hb.insertOrdered path
  · rwa [hincludes]

end SpecificationBuilder

/-! ## Independence -/

/-- Programs that say the same on each concern.  They may mix the concerns in different ways, and
add the same paths in another order and another number of times. -/
structure BuilderCall.SameByConcern (p q : List BuilderCall) : Prop where
  criteria : p.filter (·.concern = .criteria) = q.filter (·.concern = .criteria)
  sorts : p.filter (·.concern = .sorts) = q.filter (·.concern = .sorts)
  window : p.filter (·.concern = .window) = q.filter (·.concern = .window)
  includes : ∀ text, .step (.addInclude text) ∈ p ↔ .step (.addInclude text) ∈ q

theorem BuilderCall.SameByConcern.symm {p q : List BuilderCall} (h : SameByConcern p q) :
    SameByConcern q p :=
  ⟨h.criteria.symm, h.sorts.symm, h.window.symm, fun text ↦ (h.includes text).symm⟩

namespace SpecificationBuilder

open BuilderCall

variable {b c d : SpecificationBuilder} {p q : List BuilderCall}

theorem exists_performAll_of_same (h : SameByConcern p q) (hp : b.performAll p = .ok c) :
    ∃ d, b.performAll q = .ok d := by
  have hall := exists_performAll_iff.mp ⟨c, hp⟩
  refine exists_performAll_iff.mpr fun concern ↦ ?_
  cases concern with
  | criteria => exact h.criteria ▸ hall .criteria
  | sorts => exact h.sorts ▸ hall .sorts
  | window => exact h.window ▸ hall .window
  | includes =>
    have htexts := exists_performAll_includes_iff.mp (hall .includes)
    refine exists_performAll_includes_iff.mpr fun text htext ↦ ?_
    exact htexts text ((h.includes text).mpr htext)

/-- Programs that have the same calls on a concern leave the same part. -/
theorem part_eq_of_filter_eq {concern : Concern}
    (h : p.filter (·.concern = concern) = q.filter (·.concern = concern))
    (hp : b.performAll p = .ok c) (hq : b.performAll q = .ok d) :
    c.part concern = d.part concern := by
  obtain ⟨c', hc', hc⟩ := part_of_performAll concern rfl hp
  obtain ⟨d', hd', hd⟩ := part_of_performAll concern rfl hq
  rw [h, hd', Except.ok.injEq] at hc'
  rw [hc, hd, hc']

theorem eq_of_same (hb : Ascending b.includes) (h : SameByConcern p q)
    (hp : b.performAll p = .ok c) (hq : b.performAll q = .ok d) : c = d := by
  refine eq_of_part_eq fun concern ↦ ?_
  cases concern with
  | criteria => exact part_eq_of_filter_eq h.criteria hp hq
  | sorts => exact part_eq_of_filter_eq h.sorts hp hq
  | window => exact part_eq_of_filter_eq h.window hp hq
  | includes =>
    have hmem : ∀ path, path ∈ c.includes ↔ path ∈ d.includes := by
      intro path
      simp only [mem_includes_of_performAll hp, mem_includes_of_performAll hq, h.includes]
    exact (ascending_of_performAll hb hp).eq_of_mem_iff (ascending_of_performAll hb hq) hmem

/-- **The concerns of a builder are independent.**  If two programs have the same calls on the
criteria, on the sort chain and on the window, each in the same order, and add the same paths, then
one of them succeeds on a builder exactly if the other does, and both build the same specification.
How the calls are interleaved makes no difference, nor does it how often and in which order paths
are added.  The criteria may be gone on with in any way at all. -/
theorem concerns_independent (hb : b.Reachable) (h : SameByConcern p q) :
    ((∃ s, b.buildAfter p = .ok s) ↔ ∃ s, b.buildAfter q = .ok s) ∧
    ∀ s t, b.buildAfter p = .ok s → b.buildAfter q = .ok t → s = t := by
  have hsucceeds : ∀ {p q : List BuilderCall}, SameByConcern p q →
      (∃ s, b.buildAfter p = .ok s) → ∃ s, b.buildAfter q = .ok s := by
    rintro p q h ⟨s, hs⟩
    obtain ⟨c, hc, -⟩ := Except.map_eq_ok.mp hs
    obtain ⟨d, hd⟩ := exists_performAll_of_same h hc
    exact ⟨d.build, Except.map_eq_ok.mpr ⟨d, hd, rfl⟩⟩
  refine ⟨⟨hsucceeds h, hsucceeds h.symm⟩, fun s t hs ht ↦ ?_⟩
  obtain ⟨c, hc, rfl⟩ := Except.map_eq_ok.mp hs
  obtain ⟨d, hd, rfl⟩ := Except.map_eq_ok.mp ht
  rw [eq_of_same hb.wellFormed.isSet.ascending h hc hd]

/-- Goes on with a chain over `p`, whatever chain it is given. -/
def startOver : BuilderCall :=
  .withCriteria fun _ ↦ (CriteriaChain.boundTo ⟨"p"⟩).addWhere ⟨"active", .equal, .bool true⟩

/-- Goes on with a group that is filled by a chain over `q`. -/
def orNamed : BuilderCall :=
  .step (.criteria [.addGroup .or (some ⟨"q"⟩) [.addWhere ⟨"name", .notNull, .null⟩]])

/-- A program that goes through the concerns one after the other. -/
def concernByConcern : List BuilderCall :=
  [startOver, orNamed, .step (.sort (.orderBy "name" .descending)), .step (.sort .nullsLast),
    .step (.skip 1), .step (.take 3), .step (.addInclude "order.lines"),
    .step (.addInclude "supplier")]

/-- A program that mixes them and adds a path twice. -/
def concernsMixed : List BuilderCall :=
  [.step (.addInclude "supplier"), .step (.skip 1), startOver,
    .step (.sort (.orderBy "name" .descending)), .step (.addInclude "order.lines"), orNamed,
    .step (.take 3), .step (.addInclude "supplier"), .step (.sort .nullsLast)]

theorem concerns_independent_mixed : SameByConcern concernByConcern concernsMixed ∧
    ∃ s, new.buildAfter concernByConcern = .ok s ∧ new.buildAfter concernsMixed = .ok s ∧
      s.includes = [⟨"order", ["lines"]⟩, ⟨"supplier", []⟩] := by
  have hsame : SameByConcern concernByConcern concernsMixed := by
    refine ⟨rfl, rfl, rfl, fun text ↦ ?_⟩
    simp only [concernByConcern, concernsMixed, startOver, orNamed, List.mem_cons]
    grind
  have hbuilt : ∃ s, new.buildAfter concernByConcern = .ok s ∧
      s.includes = [⟨"order", ["lines"]⟩, ⟨"supplier", []⟩] := ⟨_, rfl, rfl⟩
  obtain ⟨s, hs, hincludes⟩ := hbuilt
  obtain ⟨hsucceeds, hequal⟩ := concerns_independent .new hsame
  obtain ⟨t, ht⟩ := hsucceeds.mp ⟨s, hs⟩
  obtain rfl := hequal s t hs ht
  exact ⟨hsame, s, hs, ht, hincludes⟩

end SpecificationBuilder
end Sift
