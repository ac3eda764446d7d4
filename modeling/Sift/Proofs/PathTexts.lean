import Sift.Proofs.Reachable

/-!
# Texts of include paths

A path is read from a text by taking the stretches between its dots, and shown by putting the dots
back.  Where a text can be read the two are inverse to each other (`text_of_parse` and
`Reachable.parse_text`), so that a path is no more and no less than a text without empty stretches.

Going on from a path by a segment is the same as reading its text with a dot and the segment after
it (`text_extend`), and gives a path that comes later in the order of paths (`compare_extend`).

`IncludePath.paths_are_texts` puts this together.
-/

set_option autoImplicit false
namespace Sift
namespace IncludePath

open Std

/-! ## Reading -/

theorem exists_parse_eq_ok_iff {text : String} : (∃ path, parse text = .ok path) ↔
    text ≠ "" ∧ [] ∉ text.toList.splitOn '.' := by
  constructor
  · rintro ⟨path, h⟩
    exact (parse_eq_ok_iff.mp h).1
  · intro h
    refine ⟨⟨.ofList (splitDots text.toList).1, (splitDots text.toList).2.map .ofList⟩, ?_⟩
    exact parse_eq_ok_iff.mpr ⟨h, (eq_ofList_iff.mp rfl).trans (cons_splitDots _)⟩

/-- What was read is shown as it was. -/
theorem text_of_parse {text : String} {path : IncludePath} (h : parse text = .ok path) :
    path.text = text := by
  have hsegments := (parse_eq_ok_iff.mp h).2
  rw [← String.toList_inj, IncludePath.text, String.toList_intercalate, hsegments]
  exact List.intercalate_splitOn '.'

/-- Stored paths are texts that are read as any other. -/
theorem ofJson_eq_ok_iff {json : Json} {path : IncludePath} : ofJson json = .ok path ↔
    ∃ text, json = .string text ∧ parse text = .ok path := by
  rw [ofJson, Except.bind_eq_ok]
  refine exists_congr fun text ↦ and_congr ?_ Json.checked_eq_ok
  cases json <;> simp [Json.readString, Json.malformed]

/-! ## Going on -/

section Extend

variable {path next : IncludePath} {segment : String}

theorem exists_extend_eq_ok_iff : (∃ next, path.extend segment = .ok next) ↔ IsSegment segment := by
  simp only [extend_eq_ok_iff, exists_and_left, exists_eq, and_true]

variable (h : path.extend segment = .ok next)
include h

theorem segments_extend : next.segments = path.segments ++ [segment] := by
  obtain ⟨-, rfl⟩ := extend_eq_ok_iff.mp h
  rfl

theorem root_extend : next.root = path.root := by
  obtain ⟨-, rfl⟩ := extend_eq_ok_iff.mp h
  rfl

theorem text_extend : next.text = path.text ++ "." ++ segment := by
  have hne : path.segments ≠ [] := List.cons_ne_nil _ _
  rw [text, segments_extend h, String.intercalate_append_of_ne_nil hne (List.cons_ne_nil _ _),
    String.intercalate_singleton]
  rfl

/-- A path comes before those that go on from it. -/
theorem compare_extend : compare path next = .lt := by
  show compare path.segments next.segments = .lt
  rw [segments_extend h]
  induction path.segments with
  | nil => rfl
  | cons first rest ih => rw [List.cons_append, List.compare_cons_cons, compare_self, ih]; rfl

end Extend

/-! ## Paths and texts -/

/-- **Include paths are the texts without empty stretches.**  Every text that is not empty and has
no empty stretch between its dots is read as a path, whose segments are the stretches, and no other
text is; the path is shown as the text, and a stored path is read in the same way.

Every path that can be had by reading and going on has a segment, and none of its segments is empty
or holds a dot.  It is what its text is read as, so that no two such paths are shown alike.  It can
go on by any segment that is not empty and holds no dot, and by no other.  That is the path that its
text with a dot and the segment after it is read as: the segment comes last, the root stays, and the
path comes after the one it went on from. -/
theorem paths_are_texts :
    (∀ text, (∃ path, parse text = .ok path) ↔ text ≠ "" ∧ [] ∉ text.toList.splitOn '.') ∧
    (∀ text path, parse text = .ok path →
      path.segments.map String.toList = text.toList.splitOn '.' ∧ path.text = text) ∧
    (∀ json path, ofJson json = .ok path ↔ ∃ text, json = .string text ∧ parse text = .ok path) ∧
    (∀ path, path.Reachable → 1 ≤ path.depth ∧
      (∀ segment ∈ path.segments, segment ≠ "" ∧ '.' ∉ segment.toList) ∧
      parse path.text = .ok path ∧
      ∀ segment, ((∃ next, path.extend segment = .ok next) ↔
          segment ≠ "" ∧ '.' ∉ segment.toList) ∧
        ∀ next, path.extend segment = .ok next →
          parse (path.text ++ "." ++ segment) = .ok next ∧
          next.segments = path.segments ++ [segment] ∧ next.root = path.root ∧
          compare path next = .lt) ∧
    ∀ path other : IncludePath, path.Reachable → other.Reachable → path.text = other.text →
      path = other := by
  refine ⟨fun _ ↦ exists_parse_eq_ok_iff, fun text path h ↦ ?_, fun _ _ ↦ ofJson_eq_ok_iff,
    fun path hpath ↦ ⟨path.depth_pos, hpath.isSegment, hpath.parse_text, fun segment ↦ ?_⟩,
    fun path other hpath hother h ↦ ?_⟩
  · exact ⟨(parse_eq_ok_iff.mp h).2, text_of_parse h⟩
  · refine ⟨exists_extend_eq_ok_iff, fun next hnext ↦ ?_⟩
    have hparse := (hpath.extend hnext).parse_text
    rw [text_extend hnext] at hparse
    exact ⟨hparse, segments_extend hnext, root_extend hnext, compare_extend hnext⟩
  · have hparse := hpath.parse_text
    rw [h, hother.parse_text] at hparse
    exact (Except.ok.inj hparse).symm

/-- A path of two segments goes on by a third. -/
theorem paths_are_texts_orderLines :
    parse "order.lines" = .ok ⟨"order", ["lines"]⟩ ∧
    extend ⟨"order", ["lines"]⟩ "product" = .ok ⟨"order", ["lines", "product"]⟩ ∧
    (⟨"order", ["lines"]⟩ : IncludePath).text = "order.lines" ∧
    parse "order.lines.product" = .ok ⟨"order", ["lines", "product"]⟩ ∧
    compare (⟨"order", ["lines"]⟩ : IncludePath) ⟨"order", ["lines", "product"]⟩ = .lt ∧
    (⟨"order", ["lines"]⟩ : IncludePath).text ≠
      (⟨"order", ["lines", "product"]⟩ : IncludePath).text := by
  have hpath : parse "order.lines" = .ok ⟨"order", ["lines"]⟩ := rfl
  have hnext : extend ⟨"order", ["lines"]⟩ "product" = .ok ⟨"order", ["lines", "product"]⟩ := rfl
  obtain ⟨-, hread, -, hgoes, hinjective⟩ := paths_are_texts
  obtain ⟨-, htext⟩ := hread _ _ hpath
  obtain ⟨-, -, -, hsegment⟩ := hgoes _ (.parse hpath)
  obtain ⟨hparse, -, -, hlt⟩ := (hsegment "product").2 _ hnext
  rw [htext] at hparse
  refine ⟨hpath, hnext, htext, hparse, hlt, fun h ↦ ?_⟩
  exact absurd (hinjective _ _ (.parse hpath) (.extend (.parse hpath) hnext) h) (by decide)

end IncludePath
end Sift
