import Sift.Proofs.Pipeline

/-!
# Pages

`Specification.paged` goes on from a specification with a page, which takes the place of any window.
The pages of a size are consecutive stretches of what the specification asks for without a window:

* `Specification.filter_paged` — each of them shows its stretch;
* `Specification.paged_eq_error` — a page is refused only if what comes before it cannot be counted,
  and `Specification.paged_of_lt_pageCount` — which does not happen up to the last one;
* `flatMap_stretches` — the stretches make up the whole list.

`Specification.pages_partition` puts this together.
-/

set_option autoImplicit false
namespace Sift

/-! ## Stretches of a list -/

/-- How many stretches of a size it takes to hold so many items. -/
def pageCount (count size : Nat) : Nat :=
  (count + size - 1) / size

theorem mul_lt_of_lt_pageCount {count size k : Nat} (hsize : 1 ≤ size)
    (h : k < pageCount count size) : k * size < count := by
  have hle : (k + 1) * size ≤ count + size - 1 := (Nat.le_div_iff_mul_le hsize).mp h
  rw [Nat.succ_mul] at hle
  omega

theorem le_pageCount_mul {count size : Nat} (hsize : 1 ≤ size) :
    count ≤ pageCount count size * size := by
  have hlt : count + size - 1 < (pageCount count size + 1) * size :=
    Nat.lt_mul_of_div_lt (Nat.lt_succ_self _) hsize
  rw [Nat.succ_mul] at hlt
  omega

theorem pageCount_le {count size : Nat} (hsize : 1 ≤ size) : pageCount count size ≤ count := by
  rcases Nat.eq_zero_or_pos (pageCount count size) with hzero | hpos
  · exact hzero ▸ Nat.zero_le _
  · have hlt := mul_lt_of_lt_pageCount hsize (Nat.sub_lt hpos Nat.one_pos)
    have hle := Nat.le_mul_of_pos_right (pageCount count size - 1) hsize
    omega

section Stretches

variable {α : Type} (items : List α) (size : Nat)

/-- The stretches of a size up to a number make up the first items. -/
theorem flatMap_stretches (count : Nat) :
    (List.range count).flatMap (fun k ↦ (items.drop (k * size)).take size) =
      items.take (count * size) := by
  induction count with
  | zero => rw [Nat.zero_mul, List.take_zero, List.range_zero, List.flatMap_nil]
  | succ count ih =>
    rw [List.range_succ, List.flatMap_append, ih, List.flatMap_singleton, Nat.succ_mul,
      List.take_add]

/-- A stretch is what lies between two places, the second no later than the end. -/
theorem take_drop_eq_extract (k : Nat) : (items.drop (k * size)).take size =
    items.extract (k * size) (min ((k + 1) * size) items.length) := by
  rw [List.extract_eq_take_drop, List.take_eq_take_iff, List.length_drop, Nat.succ_mul]
  omega

end Stretches

/-! ## Pages of a specification -/

theorem one_le_iff_ne_zero {n : UInt64} : 1 ≤ n ↔ n ≠ 0 := by
  rw [UInt64.le_iff_toNat_le, Ne, ← UInt64.toNat_inj]
  exact Nat.one_le_iff_ne_zero

/-- What comes before a page is what its number and its size say. -/
theorem Page.toNat_offset (page : Page) (hnumber : 1 ≤ page.number)
    (h : (page.number.toNat - 1) * page.size.toNat < UInt64.size) :
    page.offset.toNat = (page.number.toNat - 1) * page.size.toNat := by
  rw [offset, UInt64.toNat_mul, UInt64.toNat_sub_of_le _ _ hnumber]
  exact Nat.mod_eq_of_lt h

namespace Specification

/-- The specification that asks for a page. -/
def paged (s : Specification) (number size : UInt64) : Except SpecError Specification :=
  (s.toBuilder.page number size).map SpecificationBuilder.build

/-- The specification with the window of a page. -/
def onPage (s : Specification) (number size : UInt64) : Specification :=
  { s with window := .ofPage ⟨number, size⟩ }

/-- The specification without its window. -/
def unwindowed (s : Specification) : Specification :=
  { s with window := .unbounded }

variable {s page : Specification} {number size : UInt64}

theorem paged_eq_ok : s.paged number size = .ok page ↔ number ≠ 0 ∧ size ≠ 0 ∧
    (number.toNat - 1) * size.toNat < UInt64.size ∧ page = s.onPage number size := by
  rw [paged, Except.map_eq_ok]
  constructor
  · rintro ⟨b, hb, rfl⟩
    obtain ⟨p, hp, hb⟩ := Except.bind_eq_ok.mp hb
    obtain rfl := Except.ok.inj hb
    obtain ⟨hnumber, hsize, hfits, rfl⟩ := Page.new_eq_ok.mp hp
    exact ⟨hnumber, hsize, hfits, rfl⟩
  · rintro ⟨hnumber, hsize, hfits, rfl⟩
    refine ⟨_, Except.bind_eq_ok.mpr ⟨_, Page.new_eq_ok.mpr ⟨hnumber, hsize, hfits, rfl⟩, rfl⟩, ?_⟩
    rfl

/-- A page with a number and a size is refused only if what comes before it cannot be counted. -/
theorem paged_eq_error (hnumber : 1 ≤ number) (hsize : 1 ≤ size) :
    s.paged number size = .error (.invalidPagination .offsetOverflows) ↔
      UInt64.size ≤ (number.toNat - 1) * size.toNat := by
  rw [paged, SpecificationBuilder.page, Page.new, if_neg (one_le_iff_ne_zero.mp hnumber),
    if_neg (one_le_iff_ne_zero.mp hsize)]
  split
  · rename_i hfits
    refine ⟨fun h ↦ ?_, fun h ↦ absurd hfits (Nat.not_lt.mpr h)⟩
    cases h
  · rename_i hfits
    exact ⟨fun _ ↦ Nat.le_of_not_lt hfits, fun _ ↦ rfl⟩

section Filter

variable {α : Type} [Entity α] (entities : List α)

/-- Filtering cuts the window out of what there is without it. -/
theorem filter_unwindowed (s : Specification) :
    s.unwindowed.filter entities = s.sorts.sort (entities.filter s.isSatisfiedBy) :=
  s.unwindowed.filter_eq_cut_sort entities

theorem filter_eq_cut (s : Specification) :
    s.filter entities = s.window.cut Option.none (s.unwindowed.filter entities) := by
  rw [filter_unwindowed]
  exact s.filter_eq_cut_sort entities

theorem length_filter_le (s : Specification) : (s.unwindowed.filter entities).length ≤
    entities.length := by
  rw [filter_unwindowed, (stablySorted_sort _ _).perm.length_eq]
  exact List.length_filter_le _ _

/-- **A page shows its stretch** of what the specification asks for. -/
theorem filter_paged (h : s.paged number size = .ok page) : page.filter entities =
    ((s.unwindowed.filter entities).drop ((number.toNat - 1) * size.toNat)).take size.toNat := by
  obtain ⟨hnumber, -, hfits, rfl⟩ := paged_eq_ok.mp h
  have hoffset := Page.toNat_offset ⟨number, size⟩ (one_le_iff_ne_zero.mpr hnumber) hfits
  rw [filter_eq_cut, ← hoffset]
  rfl

/-- The pages that it takes to hold the result are not refused: what comes before them is part of
it, and so can be counted. -/
theorem paged_of_lt_pageCount (s : Specification) (hentities : entities.length < UInt64.size)
    (hsize : 1 ≤ size) {k : Nat}
    (hk : k < pageCount (s.unwindowed.filter entities).length size.toNat)
    (hnumber : number.toNat = k + 1) : s.paged number size = .ok (s.onPage number size) := by
  have hlt := mul_lt_of_lt_pageCount (UInt64.le_iff_toNat_le.mp hsize) hk
  have hle := length_filter_le entities s
  refine paged_eq_ok.mpr ⟨?_, one_le_iff_ne_zero.mp hsize, ?_, rfl⟩
  · rintro rfl
    cases hnumber
  · rw [hnumber, Nat.add_sub_cancel]
    omega

/-- **Pages partition the result.**  Let `all` be what a specification asks for without a window.
A page that has a number and a size is refused exactly if what comes before it cannot be counted;
any other page shows the stretch of `all` from the first place after that on, as far as there is
one.  None of the pages that it takes to hold `all` is refused, each of them shows something, and
in order they make up `all`. -/
theorem pages_partition (s : Specification) (hentities : entities.length < UInt64.size)
    (hsize : 1 ≤ size) :
    let all := s.unwindowed.filter entities
    let count := pageCount all.length size.toNat
    (∀ number, 1 ≤ number →
      (s.paged number size = .error (.invalidPagination .offsetOverflows) ↔
        UInt64.size ≤ (number.toNat - 1) * size.toNat) ∧
      ((number.toNat - 1) * size.toNat < UInt64.size → ∃ page, s.paged number size = .ok page ∧
        page.filter entities = all.extract ((number.toNat - 1) * size.toNat)
          (min (number.toNat * size.toNat) all.length))) ∧
    (∀ number, 1 ≤ number → number.toNat ≤ count → ∃ page, s.paged number size = .ok page ∧
      page.filter entities ≠ [] ∧ (page.filter entities).length ≤ size.toNat) ∧
    count < UInt64.size ∧
    ∃ pages, (List.range count).mapM (fun k ↦ s.paged (.ofNat (k + 1)) size) = .ok pages ∧
      pages.flatMap (·.filter entities) = all := by
  intro all count
  have hsize' : 1 ≤ size.toNat := UInt64.le_iff_toNat_le.mp hsize
  have hcount : count < UInt64.size :=
    Nat.lt_of_le_of_lt ((pageCount_le hsize').trans (length_filter_le entities s)) hentities
  have hpages : ∀ k, k < count → ∀ number : UInt64, number.toNat = k + 1 →
      s.paged number size = .ok (s.onPage number size) ∧
        (s.onPage number size).filter entities = (all.drop (k * size.toNat)).take size.toNat := by
    intro k hk number hnumber
    have hpage := paged_of_lt_pageCount entities s hentities hsize hk hnumber
    refine ⟨hpage, ?_⟩
    rw [filter_paged entities hpage, hnumber, Nat.add_sub_cancel]
  refine ⟨fun number hnumber ↦ ⟨paged_eq_error hnumber hsize, fun hfits ↦ ?_⟩,
    fun number hnumber hle ↦ ?_, hcount, ?_⟩
  · have hpage : s.paged number size = .ok (s.onPage number size) :=
      paged_eq_ok.mpr ⟨one_le_iff_ne_zero.mp hnumber, one_le_iff_ne_zero.mp hsize, hfits, rfl⟩
    have hsucc : number.toNat - 1 + 1 = number.toNat :=
      Nat.sub_add_cancel (UInt64.le_iff_toNat_le.mp hnumber)
    refine ⟨_, hpage, ?_⟩
    rw [filter_paged entities hpage, take_drop_eq_extract, hsucc]
  · have hpos : 1 ≤ number.toNat := UInt64.le_iff_toNat_le.mp hnumber
    have hk : number.toNat - 1 < count := by omega
    obtain ⟨hpage, hfilter⟩ := hpages _ hk number (Nat.sub_add_cancel hpos).symm
    refine ⟨_, hpage, fun hnil ↦ ?_, hfilter ▸ List.length_take_le _ _⟩
    have hlt := mul_lt_of_lt_pageCount hsize' hk
    have hlength := congrArg List.length (hfilter.symm.trans hnil)
    rw [List.length_take, List.length_drop, List.length_nil] at hlength
    omega
  · have hnumber : ∀ k ∈ List.range count, (UInt64.ofNat (k + 1)).toNat = k + 1 := by
      intro k hk
      exact UInt64.toNat_ofNat_of_lt' (Nat.lt_of_le_of_lt (List.mem_range.mp hk) hcount)
    refine ⟨_, Except.mapM_eq_ok_map fun k hk ↦
      (hpages k (List.mem_range.mp hk) _ (hnumber k hk)).1, ?_⟩
    calc ((List.range count).map fun k ↦ s.onPage (.ofNat (k + 1)) size).flatMap
          (·.filter entities)
        = (List.range count).flatMap fun k ↦ (all.drop (k * size.toNat)).take size.toNat := by
          rw [List.flatMap_map, List.flatMap_def, List.flatMap_def]
          exact congrArg List.flatten (List.map_congr_left fun k hk ↦
            (hpages k (List.mem_range.mp hk) _ (hnumber k hk)).2)
      _ = all.take (count * size.toNat) := flatMap_stretches all size.toNat count
      _ = all := List.take_of_length_le (le_pageCount_mul hsize')

/-- Two of four records, one on a page. -/
theorem pages_partition_namedRecords : namedRecords.length < UInt64.size ∧ (1 : UInt64) ≤ 1 ∧
    ∃ pages, (List.range 2).mapM (fun k ↦ (flagIsSet "active").paged (.ofNat (k + 1)) 1) =
        .ok pages ∧
      pages.flatMap (·.filter namedRecords) =
        (flagIsSet "active").unwindowed.filter namedRecords := by
  have hlength : namedRecords.length < UInt64.size := by decide
  have hsize : (1 : UInt64) ≤ 1 := by decide
  obtain ⟨-, -, -, hpages⟩ := pages_partition namedRecords (flagIsSet "active") hlength hsize
  exact ⟨hlength, hsize, hpages⟩

end Filter

end Specification
end Sift
