/-!
# Computations that may fail

What the success of a computation in `Except` says about its parts: of a composite, of a check, of
the image of a list, and of a loop that carries a state along.  `error?` is what a computation
fails with, if it does, and `unlessFault` is the computation that a value and a fault make.
-/

set_option autoImplicit false
namespace Except

variable {ε α β : Type}

theorem ok_bind (a : α) (f : α → Except ε β) : (ok a >>= f) = f a := rfl

theorem bind_eq_ok {x : Except ε α} {f : α → Except ε β} {b : β} :
    x >>= f = .ok b ↔ ∃ a, x = .ok a ∧ f a = .ok b := by
  cases x with
  | error e => exact ⟨nofun, fun ⟨_, h, _⟩ ↦ nomatch h⟩
  | ok a => exact ⟨fun h ↦ ⟨a, rfl, h⟩, fun ⟨_, ha, h⟩ ↦ ok.inj ha ▸ h⟩

/-- A composite fails with its first part or, once that has succeeded, with its second. -/
theorem bind_eq_error {x : Except ε α} {f : α → Except ε β} {e : ε} :
    x >>= f = .error e ↔ x = .error e ∨ ∃ a, x = .ok a ∧ f a = .error e := by
  cases x with
  | error e' => simp [bind, Except.bind]
  | ok a => simp [ok_bind]

theorem map_eq_ok {x : Except ε α} {f : α → β} {b : β} :
    x.map f = .ok b ↔ ∃ a, x = .ok a ∧ f a = b := by
  cases x with
  | error e => exact ⟨nofun, fun ⟨_, h, _⟩ ↦ nomatch h⟩
  | ok a => exact ⟨fun h ↦ ⟨a, rfl, ok.inj h⟩, fun ⟨_, ha, h⟩ ↦ ok.inj ha ▸ congrArg ok h⟩

/-- A check that fails with one error. -/
theorem ite_eq_ok {c : Prop} [Decidable c] {e : ε} {a b : α} :
    (if c then error e else ok a) = ok b ↔ ¬ c ∧ b = a := by
  by_cases h : c
  · rw [if_pos h]
    exact ⟨nofun, fun hb ↦ absurd h hb.1⟩
  · rw [if_neg h, ok.injEq, eq_comm]
    exact ⟨fun hb ↦ ⟨h, hb⟩, And.right⟩

/-- What a computation fails with. -/
def error? : Except ε α → Option ε
  | .error e => some e
  | .ok _ => none

theorem error?_eq_some {x : Except ε α} {e : ε} : x.error? = some e ↔ x = .error e := by
  cases x with
  | error e' => rw [error?, Option.some.injEq, error.injEq]
  | ok a => exact ⟨nofun, nofun⟩

theorem error?_eq_none {x : Except ε α} : x.error? = none ↔ ∃ a, x = .ok a := by
  cases x with
  | error e => exact ⟨nofun, fun ⟨_, h⟩ ↦ nomatch h⟩
  | ok a => exact ⟨fun _ ↦ ⟨a, rfl⟩, fun _ ↦ rfl⟩

/-- Every item of the image of a list comes from an item of it. -/
theorem exists_of_mem_mapM {f : α → Except ε β} {items : List α} {results : List β}
    (h : items.mapM f = .ok results) : ∀ b ∈ results, ∃ a ∈ items, f a = .ok b := by
  induction items generalizing results with
  | nil =>
    rw [List.mapM_nil] at h
    obtain rfl := ok.inj h
    exact nofun
  | cons item items ih =>
    rw [List.mapM_cons, bind_eq_ok] at h
    obtain ⟨first, hfirst, h⟩ := h
    obtain ⟨rest, hrest, h⟩ := bind_eq_ok.mp h
    obtain rfl := ok.inj h
    intro b hb
    rcases List.mem_cons.mp hb with rfl | hb
    · exact ⟨item, List.mem_cons_self, hfirst⟩
    · obtain ⟨a, ha, hab⟩ := ih hrest b hb
      exact ⟨a, List.mem_cons_of_mem _ ha, hab⟩

/-- A list has an image if each of its items has one. -/
theorem mapM_eq_ok_map {f : α → Except ε β} {g : α → β} {items : List α}
    (h : ∀ a ∈ items, f a = .ok (g a)) : items.mapM f = .ok (items.map g) := by
  induction items with
  | nil => rfl
  | cons item items ih =>
    rw [List.mapM_cons, h item List.mem_cons_self, ih fun a ha ↦ h a (List.mem_cons_of_mem _ ha)]
    rfl

theorem foldlM_singleton (step : β → α → Except ε β) (start : β) (item : α) :
    [item].foldlM step start = step start item := by
  rw [List.foldlM_cons]
  cases step start item <;> rfl

/-- What every round of a loop keeps holds at its end, where a round may rely on its item being one
of the loop. -/
theorem foldlM_induction_mem {step : β → α → Except ε β} {motive : β → Prop} {items : List α}
    (hstep : ∀ {s item next}, item ∈ items → motive s → step s item = .ok next → motive next)
    {start last : β} (hstart : motive start) (h : items.foldlM step start = .ok last) :
    motive last := by
  induction items generalizing start with
  | nil =>
    rw [List.foldlM_nil] at h
    exact ok.inj h ▸ hstart
  | cons item items ih =>
    rw [List.foldlM_cons, bind_eq_ok] at h
    obtain ⟨next, hnext, h⟩ := h
    exact ih (fun hitem ↦ hstep (List.mem_cons_of_mem _ hitem))
      (hstep List.mem_cons_self hstart hnext) h

theorem foldlM_induction {step : β → α → Except ε β} {motive : β → Prop}
    (hstep : ∀ {s item next}, motive s → step s item = .ok next → motive next) {items : List α}
    {start last : β} (hstart : motive start) (h : items.foldlM step start = .ok last) :
    motive last :=
  foldlM_induction_mem (fun _ ↦ hstep) hstart h

/-! ## Values and faults -/

/-- A value, unless there is a fault. -/
def unlessFault (fault? : Option ε) (a : α) : Except ε α :=
  match fault? with
  | some fault => .error fault
  | none => .ok a

@[simp] theorem unlessFault_some (fault : ε) (a : α) :
    unlessFault (some fault) a = .error fault := rfl

@[simp] theorem unlessFault_none (a : α) : unlessFault (none : Option ε) a = .ok a := rfl

theorem unlessFault_eq_ok {fault? : Option ε} {a b : α} :
    unlessFault fault? a = .ok b ↔ fault? = none ∧ a = b := by
  cases fault? <;> simp

/-- The first of two faults counts. -/
theorem unlessFault_bind (fault? : Option ε) (a : α) (next? : α → Option ε) (f : α → β) :
    (unlessFault fault? a >>= fun a ↦ unlessFault (next? a) (f a)) =
      unlessFault (fault? <|> next? a) (f a) := by
  cases fault? <;> rfl

/-- A loop whose rounds fail by their item alone fails at the first item that fails, and otherwise
does what it would do without faults. -/
theorem foldlM_unlessFault {step : β → α → Except ε β} {fault? : α → Option ε} {next : β → α → β}
    (hstep : ∀ s item, step s item = unlessFault (fault? item) (next s item)) (items : List α)
    (start : β) : items.foldlM step start =
      unlessFault (items.findSome? fault?) (items.foldl next start) := by
  induction items generalizing start with
  | nil => rfl
  | cons item items ih =>
    rw [List.foldlM_cons, List.findSome?_cons, List.foldl_cons, hstep]
    cases fault? item with
    | some fault => rfl
    | none => exact ih (next start item)

end Except
