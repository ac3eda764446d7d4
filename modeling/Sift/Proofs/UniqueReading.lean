import Sift.Proofs.OperandTexts

/-!
# Predicates told by their texts

The text of a predicate says all about it that matters.  If its names are plain and its operands
are neither doubles nor patterns, then another such predicate with the same text has the same form,
and the two hold of the same entities: `Predicate.text_unambiguous`.

As a text is read from left to right, so the proof goes through a predicate from left to right,
with whatever comes after it in the text (`Predicate.text_append_inj`).  What comes after a
predicate starts with a blank or a closing bracket, if there is anything (`Text.EndsPredicate`);
this is what tells names, numbers and operators from it.  The beginning tells which constructor
was shown (`Predicate.firstForm_text`): a bracket, the word `not` before a blank, the word `never`
with nothing else, or a name before a point.

What a text does not say is the form of a whole number, and the operand of a check for null, which
is not shown: `Clause.ReadsAs` is what two clauses of one text have in common, and it is all that
deciding them takes.
-/

set_option autoImplicit false
namespace Sift

open Text

/-! ## Plain predicates -/

/-- Names that are not empty and hold no more than letters, digits and low lines. -/
structure Text.IsName (name : String) : Prop where
  nonempty : name ≠ ""
  chars : ∀ c ∈ name.toList, isNameChar c = true

/-- Clauses on a plain field with an operand that its text tells. -/
structure Clause.IsPlain (clause : Clause) : Prop where
  field : IsName clause.field
  operand : clause.operand.isExact = true

/-- Whether the names in a predicate are plain and its operands such as their texts tell. -/
def Predicate.IsPlain : Predicate → Prop
  | .leaf v clause => IsName v.name ∧ clause.IsPlain
  | .and left right | .or left right => left.IsPlain ∧ right.IsPlain
  | .not operand => operand.IsPlain
  | .never => True

/-! ## What texts have in common -/

/-- What two clauses of one text have in common. -/
structure Clause.ReadsAs (c d : Clause) : Prop where
  field : c.field = d.field
  operator : c.operator = d.operator
  operand : c.operator.isNullCheck = true ∨ (c.operand == d.operand) = true

/-- Two predicates of one form, with the same variables and with clauses that are related. -/
inductive Predicate.Leafwise (related : Clause → Clause → Prop) : Predicate → Predicate → Prop where
  | leaf {v : Variable} {c d : Clause} (h : related c d) : Leafwise related (.leaf v c) (.leaf v d)
  | and {a b c d : Predicate} (hleft : Leafwise related a c) (hright : Leafwise related b d) :
    Leafwise related (.and a b) (.and c d)
  | or {a b c d : Predicate} (hleft : Leafwise related a c) (hright : Leafwise related b d) :
    Leafwise related (.or a b) (.or c d)
  | not {a b : Predicate} (h : Leafwise related a b) : Leafwise related (.not a) (.not b)
  | never : Leafwise related .never .never

/-- Clauses that read alike hold of the same values. -/
theorem Clause.ReadsAs.holds_eq {c d : Clause} (h : c.ReadsAs d) (value : Value) :
    c.holds value = d.holds value := by
  obtain hnull | hoperand := h.operand
  · rw [holds, holds, ← h.operator]
    cases hoperator : c.operator with
    | isNull | notNull => rfl
    | _ => simp [hoperator, Operator.isNullCheck] at hnull
  · exact holds_congr (beq_iff.mpr ⟨h.field, h.operator, hoperand⟩) value

namespace Predicate

variable {p q : Predicate} {related related' : Clause → Clause → Prop}

theorem Leafwise.mono (h : p.Leafwise related q)
    (himp : ∀ {c d}, related c d → related' c d) : p.Leafwise related' q := by
  induction h with
  | leaf h => exact .leaf (himp h)
  | and _ _ ihl ihr => exact .and ihl ihr
  | or _ _ ihl ihr => exact .or ihl ihr
  | not _ ih => exact .not ih
  | never => exact .never

/-- Predicates whose clauses read alike hold of the same entities. -/
theorem Leafwise.eval_eq {α : Type} [Entity α] (h : p.Leafwise Clause.ReadsAs q) (v : Variable)
    (entity : α) : p.eval v entity = q.eval v entity := by
  induction h with
  | leaf h => rw [eval, eval, h.field, h.holds_eq]
  | and _ _ ihl ihr => rw [eval, eval, ihl, ihr]
  | or _ _ ihl ihr => rw [eval, eval, ihl, ihr]
  | not _ ih => rw [eval, eval, ih]
  | never => rfl

end Predicate

/-! ## Texts of clauses -/

/-- Whether a predicate before a text ends there: nothing is left, or a blank or a closing bracket
comes next. -/
def Text.EndsPredicate (rest : List Char) : Prop :=
  ∀ c ∈ rest.head?, c = ' ' ∨ c = ')'

variable {rest rest' : List Char}

theorem Text.endsPredicate_nil : EndsPredicate [] := nofun

theorem Text.endsPredicate_cons {c : Char} : EndsPredicate (c :: rest) ↔ c = ' ' ∨ c = ')' := by
  simp [EndsPredicate]

theorem Text.EndsPredicate.endsName (h : EndsPredicate rest) : EndsName rest := by
  intro c hc
  obtain rfl | rfl := h c hc <;> decide

theorem Operator.isNameChar_of_mem_name (operator : Operator) :
    ∀ c ∈ operator.name.toList, isNameChar c = true := by
  rw [← List.all_eq_true]
  cases operator <;> decide

namespace Clause

variable {c d : Clause}

/-- Clauses that read alike are shown alike. -/
theorem ReadsAs.text_eq (h : c.ReadsAs d) (hc : c.IsPlain) (hd : d.IsPlain) : c.text = d.text := by
  rw [text, text, ← h.field, ← h.operator]
  obtain hnull | hoperand := h.operand
  · rw [if_pos hnull, if_pos hnull]
  · rw [Operand.text_of_beq hc.operand hd.operand hoperand]

/-- What is shown of a clause after its operator. -/
def afterOperator (clause : Clause) : List Char :=
  if clause.operator.isNullCheck then [] else ' ' :: clause.operand.text.toList

theorem toList_text (clause : Clause) : clause.text.toList =
    clause.field.toList ++ ' ' :: (clause.operator.name.toList ++ clause.afterOperator) := by
  rw [text, afterOperator]
  split <;> simp

/-- **A clause is told from what follows it.** -/
theorem text_append_inj (hc : c.IsPlain) (hd : d.IsPlain) (hrest : EndsPredicate rest)
    (hrest' : EndsPredicate rest') (h : c.text.toList ++ rest = d.text.toList ++ rest') :
    c.ReadsAs d ∧ rest = rest' := by
  have hblank : ∀ x, EndsName (' ' :: x) := fun x ↦ endsName_cons.mpr (by decide)
  have hends : ∀ (c : Clause) {x}, EndsPredicate x → EndsName (c.afterOperator ++ x) := by
    intro c x hx
    rw [afterOperator]
    split
    · exact hx.endsName
    · exact hblank _
  simp only [toList_text, List.append_assoc, List.cons_append] at h
  obtain ⟨hfield, h⟩ := name_append_inj hc.field.chars hd.field.chars (hblank _) (hblank _) h
  obtain ⟨hname, h⟩ := name_append_inj c.operator.isNameChar_of_mem_name
    d.operator.isNameChar_of_mem_name (hends c hrest) (hends d hrest') (List.cons.inj h).2
  have hoperator : c.operator = d.operator := Operator.name_injective (String.toList_inj.mp hname)
  rw [afterOperator, afterOperator, ← hoperator] at h
  split at h
  · rename_i hnull
    exact ⟨⟨String.toList_inj.mp hfield, hoperator, .inl hnull⟩, h⟩
  · obtain ⟨hoperand, hrest⟩ := Operand.text_append_inj hc.operand hd.operand hrest.endsName
      hrest'.endsName (List.cons.inj h).2
    exact ⟨⟨String.toList_inj.mp hfield, hoperator, .inr hoperand⟩, hrest⟩

end Clause

/-! ## Texts of predicates -/

namespace Predicate

variable {p q : Predicate}

/-- The forms of predicate that the beginning of a text tells apart. -/
inductive Form where
  | leaf
  | connective
  | not
  | never
deriving DecidableEq

/-- The form of a predicate. -/
def form : Predicate → Form
  | .leaf _ _ => .leaf
  | .and _ _ | .or _ _ => .connective
  | .not _ => .not
  | .never => .never

/-- The form of the predicate that starts a text. -/
def firstForm (text : List Char) : Form :=
  if text.head? = some '(' then .connective
  else if (text.dropWhile isNameChar).head? = some '.' then .leaf
  else if text.takeWhile isNameChar = ['n', 'o', 't'] then .not
  else .never

theorem toList_text_leaf (v : Variable) (clause : Clause) : (leaf v clause).text.toList =
    v.name.toList ++ '.' :: clause.text.toList := by
  simp [text]

theorem toList_text_and (left right : Predicate) : (and left right).text.toList =
    '(' :: (left.text.toList ++ ' ' :: 'a' :: 'n' :: 'd' :: ' ' ::
      (right.text.toList ++ [')'])) := by
  simp [text]

theorem toList_text_or (left right : Predicate) : (or left right).text.toList =
    '(' :: (left.text.toList ++ ' ' :: 'o' :: 'r' :: ' ' :: (right.text.toList ++ [')'])) := by
  simp [text]

theorem toList_text_not (operand : Predicate) : (not operand).text.toList =
    'n' :: 'o' :: 't' :: ' ' :: operand.text.toList := by
  simp [text]

theorem toList_text_never : never.text.toList = ['n', 'e', 'v', 'e', 'r'] := by
  simp [text]

/-- The beginning of its text tells the form of a predicate. -/
theorem firstForm_text (hp : p.IsPlain) (hrest : EndsPredicate rest) :
    firstForm (p.text.toList ++ rest) = p.form := by
  have hopening : isNameChar '(' = false := by decide
  cases p with
  | leaf v clause =>
    have hpoint : ∀ x, EndsName ('.' :: x) := fun x ↦ endsName_cons.mpr (by decide)
    obtain ⟨-, hdrop⟩ := takeWhile_dropWhile_append hp.1.chars
      (hpoint (clause.text.toList ++ rest))
    rw [toList_text_leaf, List.append_assoc, List.cons_append, firstForm, if_neg, hdrop]
    · rfl
    · intro hhead
      cases hname : v.name.toList with
      | nil => simp [hname] at hhead
      | cons c name =>
        have hc : isNameChar c = true := hp.1.chars c (hname ▸ List.mem_cons_self)
        rw [hname, List.cons_append, List.head?_cons, Option.some.injEq] at hhead
        rw [hhead, hopening] at hc
        cases hc
  | and left right | or left right =>
    simp [toList_text_and, toList_text_or, firstForm, form]
  | not operand =>
    have hword : ∀ c ∈ ['n', 'o', 't'], isNameChar c = true :=
      List.all_eq_true.mp (by decide)
    have hblank : EndsName (' ' :: (operand.text.toList ++ rest)) := endsName_cons.mpr (by decide)
    obtain ⟨htake, hdrop⟩ := takeWhile_dropWhile_append hword hblank
    rw [toList_text_not]
    change firstForm (['n', 'o', 't'] ++ ' ' :: (operand.text.toList ++ rest)) = _
    rw [firstForm, htake, hdrop]
    rfl
  | never =>
    have hword : ∀ c ∈ ['n', 'e', 'v', 'e', 'r'], isNameChar c = true :=
      List.all_eq_true.mp (by decide)
    obtain ⟨htake, hdrop⟩ := takeWhile_dropWhile_append hword hrest.endsName
    rw [toList_text_never, firstForm, htake, hdrop]
    cases rest with
    | nil => rfl
    | cons c rest => obtain rfl | rfl := endsPredicate_cons.mp hrest <;> rfl

theorem form_eq_of_text (hp : p.IsPlain) (hq : q.IsPlain) (hrest : EndsPredicate rest)
    (hrest' : EndsPredicate rest') (h : p.text.toList ++ rest = q.text.toList ++ rest') :
    p.form = q.form := by
  rw [← firstForm_text hp hrest, h, firstForm_text hq hrest']

/-- **A predicate is told from what follows it.** -/
theorem text_append_inj (hp : p.IsPlain) (hq : q.IsPlain) (hrest : EndsPredicate rest)
    (hrest' : EndsPredicate rest') (h : p.text.toList ++ rest = q.text.toList ++ rest') :
    p.Leafwise Clause.ReadsAs q ∧ rest = rest' := by
  have hblank : ∀ x, EndsPredicate (' ' :: x) := fun x ↦ endsPredicate_cons.mpr (.inl rfl)
  have hclosing : ∀ x, EndsPredicate (')' :: x) := fun x ↦ endsPredicate_cons.mpr (.inr rfl)
  induction p generalizing q rest rest' with
  | leaf v c =>
    have hform := form_eq_of_text hp hq hrest hrest' h
    cases q with
    | leaf w d =>
      have hpoint : ∀ x, EndsName ('.' :: x) := fun x ↦ endsName_cons.mpr (by decide)
      simp only [toList_text_leaf, List.append_assoc, List.cons_append] at h
      obtain ⟨hname, h⟩ := name_append_inj hp.1.chars hq.1.chars (hpoint _) (hpoint _) h
      obtain ⟨hclause, hrest⟩ :=
        Clause.text_append_inj hp.2 hq.2 hrest hrest' (List.cons.inj h).2
      obtain rfl : v = w := congrArg Variable.mk (String.toList_inj.mp hname)
      exact ⟨.leaf hclause, hrest⟩
    | and _ _ | or _ _ | not _ | never => cases hform
  | and a b iha ihb =>
    have hform := form_eq_of_text hp hq hrest hrest' h
    cases q with
    | and c d =>
      simp only [toList_text_and, List.cons_append, List.append_assoc, List.cons.injEq, true_and,
        List.nil_append] at h
      obtain ⟨hleft, h⟩ := iha hp.1 hq.1 (hblank _) (hblank _) h
      simp only [List.cons.injEq, true_and] at h
      obtain ⟨hright, h⟩ := ihb hp.2 hq.2 (hclosing _) (hclosing _) h
      exact ⟨.and hleft hright, (List.cons.inj h).2⟩
    | or c d =>
      simp only [toList_text_and, toList_text_or, List.cons_append, List.append_assoc,
        List.cons.injEq, true_and, List.nil_append] at h
      obtain ⟨-, h⟩ := iha hp.1 hq.1 (hblank _) (hblank _) h
      -- The texts part at the word after the left operand.
      simp at h
    | leaf _ _ | not _ | never => cases hform
  | or a b iha ihb =>
    have hform := form_eq_of_text hp hq hrest hrest' h
    cases q with
    | or c d =>
      simp only [toList_text_or, List.cons_append, List.append_assoc, List.cons.injEq, true_and,
        List.nil_append] at h
      obtain ⟨hleft, h⟩ := iha hp.1 hq.1 (hblank _) (hblank _) h
      simp only [List.cons.injEq, true_and] at h
      obtain ⟨hright, h⟩ := ihb hp.2 hq.2 (hclosing _) (hclosing _) h
      exact ⟨.or hleft hright, (List.cons.inj h).2⟩
    | and c d =>
      simp only [toList_text_and, toList_text_or, List.cons_append, List.append_assoc,
        List.cons.injEq, true_and, List.nil_append] at h
      obtain ⟨-, h⟩ := iha hp.1 hq.1 (hblank _) (hblank _) h
      simp at h
    | leaf _ _ | not _ | never => cases hform
  | not a ih =>
    have hform := form_eq_of_text hp hq hrest hrest' h
    cases q with
    | not b =>
      simp only [toList_text_not, List.cons_append, List.cons.injEq, true_and] at h
      have hb : b.IsPlain := hq
      obtain ⟨hoperand, hrest⟩ := ih hp hb hrest hrest' h
      exact ⟨.not hoperand, hrest⟩
    | leaf _ _ | and _ _ | or _ _ | never => cases hform
  | never =>
    have hform := form_eq_of_text hp hq hrest hrest' h
    cases q with
    | never => exact ⟨.never, List.append_cancel_left h⟩
    | leaf _ _ | and _ _ | or _ _ | not _ => cases hform

/-- Plain predicates have one text exactly if they have one form and their clauses read alike. -/
theorem text_eq_iff (hp : p.IsPlain) (hq : q.IsPlain) :
    p.text = q.text ↔ p.Leafwise Clause.ReadsAs q := by
  constructor
  · intro h
    refine (text_append_inj hp hq endsPredicate_nil endsPredicate_nil ?_).1
    rw [h]
  · intro h
    induction h with
    | leaf h => rw [text, text, h.text_eq hp.2 hq.2]
    | and _ _ ihl ihr | or _ _ ihl ihr =>
      rw [text, text, ihl hp.1 hq.1, ihr hp.2 hq.2]
    | not _ ih => rw [text, text, ih hp hq]
    | never => rfl

/-- **A text tells a predicate.**  Two predicates of one text have one form, with the same
variables, fields and operators, and they hold of the same entities. -/
theorem text_unambiguous (hp : p.IsPlain) (hq : q.IsPlain) (h : p.text = q.text) :
    p.Leafwise (fun c d ↦ c.field = d.field ∧ c.operator = d.operator) q ∧
    ∀ {α : Type} [Entity α] (v : Variable) (entity : α), p.eval v entity = q.eval v entity := by
  have hreads : p.Leafwise Clause.ReadsAs q := (text_eq_iff hp hq).mp h
  exact ⟨hreads.mono fun hclause ↦ ⟨hclause.field, hclause.operator⟩, hreads.eval_eq⟩

/-- The form of a whole number and the operand of a check for null cannot be told, and do not
matter. -/
theorem text_unambiguous_unshownOperands :
    let cheap (five : Operand) := leaf ⟨"x"⟩ ⟨"price", .less, five⟩
    let named (ignored : Operand) := Predicate.not (leaf ⟨"x"⟩ ⟨"name", .isNull, ignored⟩)
    let p := and (cheap (.number (.signed 5))) (named (.string "a"))
    let q := and (cheap (.number (.unsigned 5))) (named .null)
    p ≠ q ∧ p.IsPlain ∧ q.IsPlain ∧ p.text = q.text ∧
    p.Leafwise (fun c d ↦ c.field = d.field ∧ c.operator = d.operator) q ∧
    ∀ {α : Type} [Entity α] (v : Variable) (entity : α), p.eval v entity = q.eval v entity := by
  intro cheap named p q
  have hx : IsName "x" := ⟨by decide, List.all_eq_true.mp (by decide)⟩
  have hprice : IsName "price" := ⟨by decide, List.all_eq_true.mp (by decide)⟩
  have hname : IsName "name" := ⟨by decide, List.all_eq_true.mp (by decide)⟩
  have hplain (five ignored : Operand) (hfive : five.isExact = true)
      (hignored : ignored.isExact = true) : (and (cheap five) (named ignored)).IsPlain :=
    ⟨⟨hx, hprice, hfive⟩, hx, hname, hignored⟩
  have hp : p.IsPlain := hplain _ _ rfl rfl
  have hq : q.IsPlain := hplain _ _ rfl rfl
  have htext : p.text = q.text := by decide
  exact ⟨by simp [p, q, cheap], hp, hq, htext, text_unambiguous hp hq htext⟩

end Predicate
end Sift
