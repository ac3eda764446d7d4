import Sift.IncludePath
import Sift.Proofs.OrderedSets
import Sift.Proofs.Outcome

/-!
# Include paths that can be had

`IncludePath.Reachable` is what can be had by reading a path and going on from one.  Every such
path consists of segments that are neither empty nor hold a dot (`Reachable.isSegment`), and is what
its text is read as (`Reachable.parse_text`).  What reading does is known from the library:
`splitDots` is the split of a list at a character (`cons_splitDots`), so `parse_eq_ok_iff` says
which texts are read and as what.

`IncludePath.IsSet` is an ordered set of such paths.
-/

set_option autoImplicit false
namespace Sift
namespace IncludePath

open Std

/-! ## Segments -/

/-- What may stand between two dots. -/
def IsSegment (segment : String) : Prop :=
  segment ≠ "" ∧ '.' ∉ segment.toList

theorem splitDots_cons_dot (rest : List Char) :
    splitDots ('.' :: rest) = ([], (splitDots rest).1 :: (splitDots rest).2) := rfl

theorem splitDots_cons_of_ne {c : Char} (h : c ≠ '.') (rest : List Char) :
    splitDots (c :: rest) = (c :: (splitDots rest).1, (splitDots rest).2) := by
  rw [splitDots]
  rcases splitDots rest with ⟨first, others⟩
  exact if_neg h

/-- The stretches between dots hold none. -/
theorem dot_notMem_splitDots (chars : List Char) :
    ∀ stretch ∈ (splitDots chars).1 :: (splitDots chars).2, '.' ∉ stretch := by
  induction chars with
  | nil =>
    intro stretch h
    rw [List.mem_singleton.mp h]
    exact List.not_mem_nil
  | cons c rest ih =>
    intro stretch h
    by_cases hc : c = '.'
    · subst hc
      rw [splitDots_cons_dot] at h
      rcases List.mem_cons.mp h with rfl | h
      · exact List.not_mem_nil
      · exact ih stretch h
    · rw [splitDots_cons_of_ne hc] at h
      rcases List.mem_cons.mp h with rfl | h
      · rw [List.mem_cons, not_or]
        exact ⟨fun heq ↦ hc heq.symm, ih _ List.mem_cons_self⟩
      · exact ih stretch (List.mem_cons_of_mem _ h)

/-- The stretches between dots are those of the list. -/
theorem cons_splitDots (chars : List Char) :
    (splitDots chars).1 :: (splitDots chars).2 = chars.splitOn '.' := by
  rw [List.splitOn_eq_splitOnP]
  induction chars with
  | nil => rfl
  | cons c rest ih =>
    rw [List.splitOnP_cons_eq_if_modifyHead, ← ih]
    by_cases hc : c = '.'
    · rw [if_pos (beq_iff_eq.mpr hc), hc, splitDots_cons_dot]
    · rw [if_neg (mt beq_iff_eq.mp hc), splitDots_cons_of_ne hc, List.modifyHead_cons]

/-! ## Reading -/

/-- A path is told by the characters of its segments. -/
theorem eq_ofList_iff {path : IncludePath} {root : List Char} {nested : List (List Char)} :
    path = ⟨.ofList root, nested.map .ofList⟩ ↔
      path.segments.map String.toList = root :: nested := by
  constructor
  · rintro rfl
    simp [segments, Function.comp_def]
  · intro h
    obtain ⟨first, others⟩ := path
    obtain ⟨rfl, rfl⟩ := List.cons.inj h
    simp [Function.comp_def]

/-- **A text is read as a path exactly if no stretch of it is empty**, and then the stretches are
the segments. -/
theorem parse_eq_ok_iff {text : String} {path : IncludePath} : parse text = .ok path ↔
    (text ≠ "" ∧ [] ∉ text.toList.splitOn '.') ∧
      path.segments.map String.toList = text.toList.splitOn '.' := by
  rw [parse, ← cons_splitDots]
  generalize splitDots text.toList = stretches
  obtain ⟨root, nested⟩ := stretches
  have hempty : (root.isEmpty || nested.any (·.isEmpty)) = true ↔ [] ∈ root :: nested := by
    rw [Bool.or_eq_true, List.isEmpty_iff, List.any_eq_true, List.mem_cons, eq_comm]
    simp only [List.isEmpty_iff, exists_eq_right]
  by_cases htext : text = ""
  · rw [if_pos htext]
    simp [htext]
  · rw [if_neg htext]
    dsimp only
    rw [Except.ite_eq_ok, hempty, eq_ofList_iff]
    exact and_congr_left' ⟨fun h ↦ ⟨htext, h⟩, And.right⟩

theorem isSegment_of_parse {text : String} {path : IncludePath} (h : parse text = .ok path) :
    ∀ segment ∈ path.segments, IsSegment segment := by
  obtain ⟨⟨-, hne⟩, hsegments⟩ := parse_eq_ok_iff.mp h
  intro segment hsegment
  have hstretch : segment.toList ∈ text.toList.splitOn '.' := by
    rw [← hsegments]
    exact List.mem_map_of_mem hsegment
  refine ⟨?_, ?_⟩
  · rintro rfl
    exact hne hstretch
  · rw [← cons_splitDots] at hstretch
    exact dot_notMem_splitDots text.toList _ hstretch

/-! ## Going on -/

theorem extend_eq_ok_iff {path next : IncludePath} {segment : String} :
    path.extend segment = .ok next ↔
      IsSegment segment ∧ next = { path with nested := path.nested ++ [segment] } := by
  rw [extend, Except.ite_eq_ok, not_or]
  rfl

theorem isSegment_of_extend {path next : IncludePath} {segment : String}
    (hpath : ∀ s ∈ path.segments, IsSegment s) (h : path.extend segment = .ok next) :
    ∀ s ∈ next.segments, IsSegment s := by
  obtain ⟨hsegment, rfl⟩ := extend_eq_ok_iff.mp h
  have hall : ∀ s ∈ path.segments ++ [segment], IsSegment s :=
    List.forall_mem_append.mpr ⟨hpath, List.forall_mem_singleton.mpr hsegment⟩
  exact hall

/-! ## What can be had -/

/-- The paths that can be had: read from a text, or longer by a segment. -/
inductive Reachable : IncludePath → Prop where
  | parse {text : String} {path : IncludePath} (h : IncludePath.parse text = .ok path) :
    Reachable path
  | extend {path next : IncludePath} {segment : String} (hpath : Reachable path)
    (h : path.extend segment = .ok next) : Reachable next

theorem Reachable.isSegment {path : IncludePath} (h : path.Reachable) :
    ∀ segment ∈ path.segments, IsSegment segment := by
  induction h with
  | parse h => exact isSegment_of_parse h
  | extend _ h ih => exact isSegment_of_extend ih h

/-- **The text of a path is read as the path.**  No segment holds a dot, so the stretches of the
text are the segments. -/
theorem Reachable.parse_text {path : IncludePath} (h : path.Reachable) :
    IncludePath.parse path.text = .ok path := by
  have hsegment := h.isSegment
  have hchars : ∀ chars ∈ path.segments.map String.toList, chars ≠ [] ∧ '.' ∉ chars := by
    intro chars hmem
    obtain ⟨segment, hsegment', rfl⟩ := List.mem_map.mp hmem
    obtain ⟨hne, hdot⟩ := hsegment segment hsegment'
    exact ⟨mt String.toList_eq_nil_iff.mp hne, hdot⟩
  have hsplit : path.text.toList.splitOn '.' = path.segments.map String.toList := by
    rw [text, String.toList_intercalate]
    exact List.splitOn_intercalate '.' (fun chars hmem ↦ (hchars chars hmem).2) (by simp [segments])
  have hne : [] ∉ path.segments.map String.toList := fun hmem ↦ (hchars [] hmem).1 rfl
  have htext : path.text ≠ "" := by
    intro hempty
    rw [hempty] at hsplit
    exact hne (hsplit ▸ List.mem_singleton.mpr rfl)
  exact parse_eq_ok_iff.mpr ⟨⟨htext, hsplit ▸ hne⟩, hsplit.symm⟩

theorem depth_pos (path : IncludePath) : 0 < path.depth :=
  Nat.succ_pos _

/-! ## Sets of paths -/

instance : TransOrd IncludePath where
  eq_swap {a b} := OrientedOrd.eq_swap (a := a.segments) (b := b.segments)
  isLE_trans {a b c} := TransOrd.isLE_trans (a := a.segments) (b := b.segments) (c := c.segments)

instance : LawfulEqOrd IncludePath where
  eq_of_compare {a b} h := by
    have hsegments : a.segments = b.segments :=
      LawfulEqOrd.eq_of_compare (α := List String) h
    obtain ⟨root, nested⟩ := a
    obtain ⟨root', nested'⟩ := b
    obtain ⟨rfl, rfl⟩ := List.cons.inj hsegments
    rfl

/-- A set of paths that can be had. -/
structure IsSet (paths : List IncludePath) : Prop where
  ascending : Ascending paths
  reachable : ∀ path ∈ paths, path.Reachable

theorem IsSet.empty : IsSet [] := ⟨ascending_nil, nofun⟩

theorem IsSet.insertOrdered {set : List IncludePath} (h : IsSet set) {path : IncludePath}
    (hpath : path.Reachable) : IsSet (insertOrdered path set) where
  ascending := h.ascending.insertOrdered path
  reachable other hother := by
    rcases mem_insertOrdered.mp hother with rfl | hother
    · exact hpath
    · exact h.reachable other hother

theorem isSet_orderedSet {paths : List IncludePath} (h : ∀ path ∈ paths, path.Reachable) :
    IsSet (orderedSet paths) :=
  ⟨ascending_orderedSet paths, fun path hpath ↦ h path (mem_orderedSet.mp hpath)⟩

end IncludePath
end Sift
