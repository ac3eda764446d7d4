import Sift.Json.Scanner
import Sift.Proofs.NumberLexemes

/-!
# What can be scanned

A value that comes out of a text is not any value.  Arrays and objects nest no deeper than the
limit, since what is deeper is unreadable, and a number has the form that it would be stored in.
`Json.Scanned` is such a value inside so many open arrays and objects.

`Scanner.Valid` says so of all that a scanner has read so far, each frame of its stack at its own
level.

* `Json.Lexeme.isStored_of_number?` — a number is read in the form that it is stored in;
* `Json.Scanner.Valid.step` — a character keeps a scanner valid;
* `Json.scanned_scan` — the value of a whole text can be scanned.
-/

set_option autoImplicit false
namespace Sift

/-! ## Numbers -/

/-- Whether a number is in the form that it would be stored in. -/
def Number.IsStored (n : Number) : Prop :=
  n.isExpressible = true ∧ n.stored = n

/-- A whole number is unsigned only if it is too large for the signed form. -/
theorem Number.isStored_of_ofInt? {i : Int} {n : Number} (h : ofInt? i = some n) :
    n.IsStored := by
  rw [ofInt?] at h
  split at h
  · obtain rfl := Option.some.inj h
    exact ⟨rfl, rfl⟩
  · rename_i hsigned
    split at h
    · rename_i hunsigned
      obtain rfl := Option.some.inj h
      have hmin : Int64.minValue.toInt ≤ i := le_trans (by decide) hunsigned.1
      have hlarge : ¬ i ≤ Int64.maxValue.toInt := fun hmax ↦ hsigned ⟨hmin, hmax⟩
      have hvalue : ((UInt64.ofNat i.toNat).toNat : Int) = i := by
        rw [UInt64.toNat_ofNat_of_lt' (by omega), Int.toNat_of_nonneg hunsigned.1]
      refine ⟨rfl, ?_⟩
      rw [stored, hvalue, if_neg hlarge]
    · cases h

namespace Json

theorem Lexeme.isStored_of_number? {lexeme : Lexeme} {n : Number} (h : lexeme.number? = some n) :
    n.IsStored := by
  rw [number?] at h
  split at h
  · rename_i m hm
    obtain rfl := Option.some.inj h
    obtain ⟨i, -, hi⟩ := Option.bind_eq_some_iff.mp hm
    exact Number.isStored_of_ofInt? hi
  · obtain ⟨x, hx, rfl⟩ := Option.map_eq_some_iff.mp h
    rw [double?] at hx
    split at hx
    · rename_i hfinite
      obtain rfl := Option.some.inj hx
      exact ⟨hfinite, rfl⟩
    · cases hx

/-! ## Values -/

/-- What can be scanned inside so many open arrays and objects. -/
inductive Scanned : Nat → Json → Prop where
  | null (level : Nat) : Scanned level .null
  | bool (level : Nat) (value : Bool) : Scanned level (.bool value)
  | number {n : Number} (h : n.IsStored) (level : Nat) : Scanned level (.number n)
  | string (level : Nat) (text : String) : Scanned level (.string text)
  | array {level : Nat} {items : List Json} (hlevel : level < nestingLimit)
    (hitems : ∀ item ∈ items, Scanned (level + 1) item) : Scanned level (.array items)
  | object {level : Nat} {members : List (String × Json)} (hlevel : level < nestingLimit)
    (hmembers : ∀ member ∈ members, Scanned (level + 1) member.2) : Scanned level (.object members)
  | unreadable (level : Nat) : Scanned level .unreadable

/-- The value of a lexeme can be scanned at any level. -/
theorem scanned_of_ofLexeme? {text : List Char} {v : Json} (h : ofLexeme? text = some v)
    (level : Nat) : Scanned level v := by
  obtain ⟨lexeme, -, rfl⟩ := Option.map_eq_some_iff.mp h
  cases hnumber : lexeme.number? with
  | none => exact .unreadable level
  | some n => exact .number (Lexeme.isStored_of_number? hnumber) level

/-! ## Scanners -/

/-- Whether all that an array or object holds so far can be scanned at a level. -/
def Frame.Valid (level : Nat) : Frame → Prop
  | .array items => ∀ item ∈ items, Scanned level item
  | .object members _ _ => ∀ member ∈ members, Scanned level member.2

namespace Scanner

/-- What an open array or object holds is inside it and all that is open around it. -/
def ValidStack : List Frame → Prop
  | [] => True
  | frame :: rest => frame.Valid (rest.length + 1) ∧ ValidStack rest

/-- A word stands for a value that may be anywhere. -/
def ValidExpect : Expect → Prop
  | .word _ value => ∀ level, Scanned level value
  | _ => True

/-- Whether all that was read so far can be scanned.  Nothing is said of what a text that breaks
off was read as. -/
def Valid : Scanner → Prop
  | .reading stack expect => ValidStack stack ∧ ValidExpect expect
  | .complete value => Scanned 0 value
  | .stopped outcome => outcome.fault ≠ .inside → Scanned 0 outcome.value

namespace Valid

variable {stack : List Frame}

theorem fault (stack : List Frame) : (fault stack).Valid :=
  fun h ↦ absurd rfl h

theorem either {p : Prop} [Decidable p] {a b : Scanner} (ha : a.Valid) (hb : b.Valid) :
    (if p then a else b).Valid := by
  split
  · exact ha
  · exact hb

theorem deliver (hstack : ValidStack stack) {v : Json} (hv : Scanned stack.length v) :
    (deliver v stack).Valid := by
  rcases stack with _ | ⟨_ | ⟨members, key, isSound⟩, rest⟩
  · exact hv
  · exact ⟨⟨List.forall_mem_cons.mpr ⟨hv, hstack.1⟩, hstack.2⟩, trivial⟩
  · exact ⟨⟨List.forall_mem_cons.mpr ⟨hv, hstack.1⟩, hstack.2⟩, trivial⟩

/-- An array or object that is closed is within the limit, or unreadable. -/
theorem close (hstack : ValidStack stack) (c : Char) : (close c stack).Valid := by
  rw [Scanner.close.eq_def]
  split
  · rename_i items rest
    refine deliver hstack.2 ?_
    split
    · rename_i hfits
      exact .array (of_decide_eq_true hfits)
        fun item hitem ↦ hstack.1 item (List.mem_reverse.mp hitem)
    · exact .unreadable _
  · rename_i members key isSound rest
    refine deliver hstack.2 ?_
    split
    · rename_i hfits
      exact .object (of_decide_eq_true (Bool.and_eq_true_iff.mp hfits).2)
        fun member hmember ↦ hstack.1 member (List.mem_reverse.mp hmember)
    · exact .unreadable _
  · exact fault stack

theorem afterComma (hstack : ValidStack stack) : (afterComma stack).Valid := by
  rcases stack with _ | ⟨_ | ⟨members, key, isSound⟩, rest⟩
  · exact fault []
  · exact ⟨hstack, trivial⟩
  · exact ⟨hstack, trivial⟩

theorem startValue (hstack : ValidStack stack) (c : Char) : (startValue stack c).Valid := by
  rw [Scanner.startValue]
  split_ifs
  · exact ⟨hstack, trivial⟩
  · exact ⟨⟨nofun, hstack⟩, trivial⟩
  · exact ⟨⟨nofun, hstack⟩, trivial⟩
  · exact ⟨hstack, fun level ↦ .bool level true⟩
  · exact ⟨hstack, fun level ↦ .bool level false⟩
  · exact ⟨hstack, fun level ↦ .null level⟩
  · exact ⟨hstack, trivial⟩
  · exact fault stack

theorem startKey (hstack : ValidStack stack) (c : Char) : (startKey stack c).Valid :=
  either ⟨hstack, trivial⟩ (fault stack)

/-- A key changes nothing that was read. -/
theorem deliverKey (hstack : ValidStack stack) (key? : Option String) :
    (deliverKey key? stack).Valid := by
  rw [Scanner.deliverKey.eq_def]
  split
  · exact ⟨hstack, trivial⟩
  · exact ⟨hstack, trivial⟩
  · exact fault stack

theorem closeString (hstack : ValidStack stack) (isKey : Bool) (s : OpenString) :
    (closeString isKey s stack).Valid := by
  rw [Scanner.closeString.eq_def]
  split
  · exact deliverKey hstack _
  · exact deliver hstack (.string _ _)
  · exact deliver hstack (.unreadable _)

theorem endNumber (hstack : ValidStack stack) (reversed : List Char) :
    (endNumber reversed stack).Valid := by
  rw [Scanner.endNumber]
  split
  · rename_i v hv
    exact deliver hstack (scanned_of_ofLexeme? hv _)
  · exact fault stack

theorem stepPlain {expect : Expect} (hstack : ValidStack stack) (hexpect : ValidExpect expect)
    (c : Char) : (stepPlain stack expect c).Valid := by
  cases expect with
  | string isKey s =>
    rw [Scanner.stepPlain.eq_def]
    refine either (closeString hstack isKey s) ?_
    split
    · exact ⟨hstack, trivial⟩
    · exact fault stack
  | word left value =>
    rcases left with _ | ⟨d, _ | ⟨d', left⟩⟩
    · exact fault stack
    · exact either (deliver hstack (hexpect _)) (fault stack)
    · exact either ⟨hstack, hexpect⟩ (fault stack)
  | number reversed => exact ⟨hstack, trivial⟩
  -- Everywhere else blanks are skipped.
  | value => exact either ⟨hstack, trivial⟩ (startValue hstack c)
  | valueOrClose => exact either ⟨hstack, trivial⟩ (either (close hstack c) (startValue hstack c))
  | key => exact either ⟨hstack, trivial⟩ (startKey hstack c)
  | keyOrClose => exact either ⟨hstack, trivial⟩ (either (close hstack c) (startKey hstack c))
  | colon => exact either ⟨hstack, trivial⟩ (either ⟨hstack, trivial⟩ (fault stack))
  | commaOrClose => exact either ⟨hstack, trivial⟩ (either (afterComma hstack) (close hstack c))

theorem stepAfter {v : Json} (hv : Scanned 0 v) (c : Char) : (stepAfter v c).Valid :=
  either hv fun _ ↦ hv

/-- **A character keeps a scanner valid.** -/
theorem step {state : Scanner} (h : state.Valid) (c : Char) : (state.step c).Valid := by
  rw [Scanner.step.eq_def]
  split
  · rename_i stack reversed
    split
    · exact h
    -- The character ends the number and is then read as if the number were complete.
    · have hend := endNumber h.1 reversed
      split
      · rename_i heq
        rw [heq] at hend
        exact stepPlain hend.1 hend.2 c
      · rename_i heq
        rw [heq] at hend
        exact stepAfter hend c
      · exact hend
  · exact stepPlain h.1 h.2 c
  · exact stepAfter h c
  · exact h

theorem foldl {state : Scanner} (h : state.Valid) (text : List Char) :
    (text.foldl Scanner.step state).Valid := by
  induction text generalizing state with
  | nil => exact h
  | cons c text ih => exact ih (h.step c)

theorem finish {state : Scanner} (h : state.Valid) (hfault : state.finish.fault ≠ .inside) :
    Scanned 0 state.finish.value := by
  rw [Scanner.finish.eq_def] at hfault ⊢
  split at hfault
  · rename_i stack reversed
    have hend := endNumber h.1 reversed
    generalize Scanner.endNumber reversed stack = ended at hend hfault ⊢
    cases ended with
    | complete value => exact hend
    | stopped outcome => exact hend hfault
    | reading stack expect => exact absurd rfl hfault
  · exact absurd rfl hfault
  · exact h
  · exact h hfault

end Valid
end Scanner

/-- **The value of a whole text can be scanned.** -/
theorem scanned_scan {text : String} (h : (scan text).fault ≠ .inside) :
    Scanned 0 (scan text).value := by
  have hstart : Scanner.start.Valid := ⟨trivial, trivial⟩
  exact (hstart.foldl text.toList).finish h

end Json
end Sift
