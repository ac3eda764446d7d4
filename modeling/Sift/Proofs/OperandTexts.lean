import Mathlib.Algebra.Order.Ring.Int
import Mathlib.Data.List.Basic
import Mathlib.Tactic.SplitIfs
import Sift.Proofs.Equality
import Sift.Proofs.NumberLexemes

/-!
# The texts of operands

An operand is shown somewhere in a text, and what is read back is it and what comes after it.  So
the statements here are about two texts that go on: if they are the same, then so are the operands
and what follows them.  The parts of a longer text can then be told one after the other.

Names and numbers do not say where they end, and what follows has to (`Text.EndsName`).  All other
operands close themselves: a text by its quote (`Text.quoteChars_append_inj`), which is escaped
within it, and a list by its bracket (`Operand.listChars_append_inj`).  Which kind of operand is
shown is told by its first character (`Operand.exists_text_eq_cons`).

`Operand.text_append_inj` is the result.  It is about operands that are neither doubles nor patterns
(`Operand.isExact`), and says no more than that they are equal: the form of a whole number is not
shown.
-/

set_option autoImplicit false
namespace Sift

/-! ## Names -/

namespace Text

/-- Characters of a plain name. -/
def isNameChar (c : Char) : Bool :=
  c.isAlphanum || c == '_'

/-- Whether a name before a text ends there. -/
def EndsName (rest : List Char) : Prop :=
  ∀ c ∈ rest.head?, isNameChar c = false

variable {a b rest rest' : List Char}

@[simp] theorem endsName_cons {c : Char} : EndsName (c :: rest) ↔ isNameChar c = false := by
  simp [EndsName]

/-- A name is told from what follows it. -/
theorem name_append_inj (ha : ∀ c ∈ a, isNameChar c = true) (hb : ∀ c ∈ b, isNameChar c = true)
    (hrest : EndsName rest) (hrest' : EndsName rest') (h : a ++ rest = b ++ rest') :
    a = b ∧ rest = rest' := by
  obtain ⟨htake, hdrop⟩ := takeWhile_dropWhile_append ha hrest
  obtain ⟨htake', hdrop'⟩ := takeWhile_dropWhile_append hb hrest'
  exact ⟨by rw [← htake, h, htake'], by rw [← hdrop, h, hdrop']⟩

/-! ## Digits -/

@[simp] theorem toList_decimalText (n : Nat) : (decimalText n).toList = decimalDigits n :=
  String.toList_ofList

theorem isNameChar_of_isDigit {c : Char} (h : c.isDigit = true) : isNameChar c = true := by
  simp [isNameChar, Char.isAlphanum, h]

theorem isNameChar_of_mem_decimalDigits {n : Nat} {c : Char} (h : c ∈ decimalDigits n) :
    isNameChar c = true :=
  isNameChar_of_isDigit (isDigit_of_mem_decimalDigits h)

theorem decimalDigits_append_inj {m n : Nat} (hrest : EndsName rest) (hrest' : EndsName rest')
    (h : decimalDigits m ++ rest = decimalDigits n ++ rest') : m = n ∧ rest = rest' := by
  obtain ⟨hdigits, hrest⟩ := name_append_inj (fun _ ↦ isNameChar_of_mem_decimalDigits)
    (fun _ ↦ isNameChar_of_mem_decimalDigits) hrest hrest' h
  refine ⟨?_, hrest⟩
  rw [← Decimal.valueOfDigits_decimalDigits m, hdigits, Decimal.valueOfDigits_decimalDigits]

/-- Digits start with a digit. -/
theorem exists_decimalDigits_eq_cons (n : Nat) :
    ∃ d digits, decimalDigits n = d :: digits ∧ d.isDigit = true := by
  obtain ⟨d, digits, h⟩ := List.exists_cons_of_ne_nil (decimalDigits_ne_nil n)
  exact ⟨d, digits, h, isDigit_of_mem_decimalDigits (h ▸ List.mem_cons_self)⟩

theorem decimalDigits_append_ne {n : Nat} {c : Char} (hc : c.isDigit = false) :
    decimalDigits n ++ rest ≠ c :: rest' := by
  obtain ⟨d, digits, hdigits, hd⟩ := exists_decimalDigits_eq_cons n
  intro h
  rw [hdigits] at h
  exact ne_of_isDigit hd hc (List.cons.inj h).1

/-- Digits to the base sixteen are those of one number. -/
theorem hexDigits_injective {m n : Nat} (h : hexDigits m = hexDigits n) : m = n := by
  have hdigit : ∀ d < 16, ∀ e < 16, Nat.digitChar d = Nat.digitChar e → d = e := by decide
  have hlong : ∀ {n}, 16 ≤ n → hexDigits n = hexDigits (n / 16) ++ [(n % 16).digitChar] :=
    fun hn ↦ Nat.toDigits_of_base_le (by decide) hn
  have hshort : ∀ {n}, n < 16 → hexDigits n = [n.digitChar] := fun hn ↦ Nat.toDigits_of_lt_base hn
  have hne : ∀ {n}, hexDigits n ≠ [] := Nat.toDigits_ne_nil
  induction m using Nat.strong_induction_on generalizing n with
  | _ m ih =>
    rcases Nat.lt_or_ge m 16 with hm | hm <;> rcases Nat.lt_or_ge n 16 with hn | hn
    · rw [hshort hm, hshort hn, List.singleton_inj] at h
      exact hdigit m hm n hn h
    · rw [hshort hm, hlong hn, List.singleton_eq_append_iff] at h
      simp [hne] at h
    · rw [hlong hm, hshort hn, List.append_eq_singleton_iff] at h
      simp [hne] at h
    · rw [hlong hm, hlong hn] at h
      obtain ⟨hfront, hlast⟩ := List.append_inj' h rfl
      have hdiv : m / 16 = n / 16 := ih (m / 16) (by omega) hfront
      have hmod : m % 16 = n % 16 := hdigit _ (Nat.mod_lt _ (by decide)) _
        (Nat.mod_lt _ (by decide)) (List.singleton_inj.mp hlast)
      omega

theorem isNameChar_of_mem_hexDigits {n : Nat} {c : Char} (h : c ∈ hexDigits n) :
    isNameChar c = true := by
  have hdigit : ∀ d < 16, isNameChar (Nat.digitChar d) = true := by decide
  induction n using Nat.strong_induction_on with
  | _ n ih =>
    rcases Nat.lt_or_ge n 16 with hn | hn
    · rw [hexDigits, Nat.toDigits_of_lt_base hn, List.mem_singleton] at h
      exact h ▸ hdigit n hn
    · rw [hexDigits, Nat.toDigits_of_base_le (by decide) hn, List.mem_append,
        List.mem_singleton] at h
      obtain h | rfl := h
      · exact ih (n / 16) (by omega) h
      · exact hdigit _ (Nat.mod_lt _ (by decide))

/-! ## Quoted texts -/

/-- The characters that have an escape of their own, with the letter of it. -/
def escapes : List (Char × Char) :=
  [('"', '"'), ('\\', '\\'), ('\n', 'n'), ('\r', 'r'), ('\t', 't'), (Char.ofNat 0, '0')]

/-- How a character stands between quotes. -/
inductive Quoted (c : Char) : List Char → Prop where
  | plain (hquote : c ≠ '"') (hbackslash : c ≠ '\\') : Quoted c [c]
  | letter {letter : Char} (h : (c, letter) ∈ escapes) : Quoted c ['\\', letter]
  | code : Quoted c ('\\' :: 'u' :: '\x7b' :: (hexDigits c.toNat ++ ['\x7d']))

theorem quoted_quoteChar (c : Char) : Quoted c (quoteChar c) := by
  rw [quoteChar]
  split_ifs with hquote hbackslash hnewline hreturn htab hzero hplain
  · subst hquote
    exact .letter (by decide)
  · subst hbackslash
    exact .letter (by decide)
  · subst hnewline
    exact .letter (by decide)
  · subst hreturn
    exact .letter (by decide)
  · subst htab
    exact .letter (by decide)
  · rw [← Char.ofNat_toNat c, hzero]
    exact .letter (by decide)
  · exact .plain hquote hbackslash
  · exact .code

variable {c d : Char} {text text' : List Char}

/-- No character between quotes looks like the quote that ends them. -/
theorem Quoted.append_ne (h : Quoted c text) : text ++ rest ≠ '"' :: rest' := by
  cases h with
  | plain hquote _ => simp [hquote]
  | letter _ | code => simp

/-- A character between quotes is told from what follows it. -/
theorem Quoted.append_inj (hc : Quoted c text) (hd : Quoted d text')
    (h : text ++ rest = text' ++ rest') : c = d ∧ rest = rest' := by
  -- A letter after a backslash stands for one character only, and `u` is none of the letters.
  have hsame : ∀ p ∈ escapes, ∀ q ∈ escapes, p.2 = q.2 → p.1 = q.1 := by decide
  have hletter : ∀ p ∈ escapes, p.2 ≠ 'u' := by decide
  cases hc with
  | plain _ hbackslash =>
    cases hd with
    | plain _ _ => simpa using h
    | letter _ | code => exact absurd (List.cons.inj h).1 hbackslash
  | @letter letter hmem =>
    cases hd with
    | plain _ hbackslash => exact absurd (List.cons.inj h).1.symm hbackslash
    | @letter letter' hmem' =>
      simp only [List.cons_append, List.nil_append, List.cons.injEq, true_and] at h
      exact ⟨hsame _ hmem _ hmem' h.1, h.2⟩
    | code =>
      simp only [List.cons_append, List.nil_append, List.cons.injEq, true_and] at h
      exact absurd h.1 (hletter _ hmem)
  | code =>
    cases hd with
    | plain _ hbackslash => exact absurd (List.cons.inj h).1.symm hbackslash
    | letter hmem =>
      simp only [List.cons_append, List.nil_append, List.cons.injEq, true_and] at h
      exact absurd h.1.symm (hletter _ hmem)
    | code =>
      simp only [List.cons_append, List.nil_append, List.append_assoc, List.cons.injEq,
        true_and] at h
      have hbrace : isNameChar '\x7d' = false := by decide
      obtain ⟨hdigits, hrest⟩ := name_append_inj (fun _ ↦ isNameChar_of_mem_hexDigits)
        (fun _ ↦ isNameChar_of_mem_hexDigits) (endsName_cons.mpr hbrace)
        (endsName_cons.mpr hbrace) h
      refine ⟨?_, (List.cons.inj hrest).2⟩
      rw [← Char.ofNat_toNat c, hexDigits_injective hdigits, Char.ofNat_toNat]

theorem flatMap_quoteChar_append_inj
    (h : a.flatMap quoteChar ++ '"' :: rest = b.flatMap quoteChar ++ '"' :: rest') :
    a = b ∧ rest = rest' := by
  induction a generalizing b with
  | nil =>
    cases b with
    | nil => exact ⟨rfl, (List.cons.inj h).2⟩
    | cons d b =>
      rw [List.flatMap_cons, List.append_assoc] at h
      exact absurd h.symm (quoted_quoteChar d).append_ne
  | cons c a ih =>
    cases b with
    | nil =>
      rw [List.flatMap_cons, List.append_assoc] at h
      exact absurd h (quoted_quoteChar c).append_ne
    | cons d b =>
      rw [List.flatMap_cons, List.flatMap_cons, List.append_assoc, List.append_assoc] at h
      obtain ⟨rfl, htail⟩ := (quoted_quoteChar c).append_inj (quoted_quoteChar d) h
      obtain ⟨rfl, hrest⟩ := ih htail
      exact ⟨rfl, hrest⟩

/-- **A quoted text is told from what follows it.** -/
theorem quoteChars_append_inj (h : quoteChars a ++ rest = quoteChars b ++ rest') :
    a = b ∧ rest = rest' := by
  simp only [quoteChars, List.cons_append, List.append_assoc, List.nil_append,
    List.cons.injEq, true_and] at h
  exact flatMap_quoteChar_append_inj h

end Text

/-! ## Whole numbers -/

namespace Number

open Text

variable {rest rest' : List Char}

/-- The whole number that a number has the form of. -/
def whole? : Number → Option Int
  | .signed value => some value.toInt
  | .unsigned value => some value.toNat
  | .double _ => none

theorem text_of_whole? {n : Number} {k : Int} (h : n.whole? = some k) : n.text = integerText k := by
  cases n with
  | signed value =>
    obtain rfl := Option.some.inj h
    rfl
  | unsigned value =>
    obtain rfl := Option.some.inj h
    rw [integerText, if_neg (by omega)]
    rfl
  | double value => cases h

theorem standing_of_whole? {n : Number} {k : Int} (h : n.whole? = some k) :
    n.isNaN = false ∧ n.standing = .finite (k * Double.unitsPerOne) := by
  cases n with
  | signed value | unsigned value =>
    obtain rfl := Option.some.inj h
    exact ⟨rfl, rfl⟩
  | double value => cases h

/-- Numbers that have the form of whole numbers are equal when these are the same. -/
theorem beq_iff_of_whole? {m n : Number} {k l : Int} (hm : m.whole? = some k)
    (hn : n.whole? = some l) : (m == n) = true ↔ k = l := by
  obtain ⟨hmnan, hmstanding⟩ := standing_of_whole? hm
  obtain ⟨hnnan, hnstanding⟩ := standing_of_whole? hn
  have hone : (Double.unitsPerOne : Int) ≠ 0 := by
    have := Double.unitsPerOne_pos
    omega
  rw [beq_iff, hmstanding, hnstanding, Standing.finite.injEq, mul_left_inj' hone]
  simp [hmnan, hnnan]

theorem toList_integerText (k : Int) : (integerText k).toList =
    if k < 0 then '-' :: decimalDigits k.natAbs else decimalDigits k.natAbs := by
  rw [integerText]
  split <;> simp

/-- A whole number is told from what follows it. -/
theorem integerText_append_inj {k l : Int} (hrest : EndsName rest) (hrest' : EndsName rest')
    (h : (integerText k).toList ++ rest = (integerText l).toList ++ rest') :
    k = l ∧ rest = rest' := by
  have hsign : ∀ {n : Nat} {x y : List Char}, decimalDigits n ++ x ≠ '-' :: y :=
    decimalDigits_append_ne (by decide)
  rw [toList_integerText, toList_integerText] at h
  split at h <;> split at h
  · obtain ⟨habs, hrest⟩ := decimalDigits_append_inj hrest hrest' (List.cons.inj h).2
    exact ⟨by omega, hrest⟩
  · exact absurd h.symm hsign
  · exact absurd h hsign
  · obtain ⟨habs, hrest⟩ := decimalDigits_append_inj hrest hrest' h
    exact ⟨by omega, hrest⟩

end Number

/-! ## Operands -/

namespace Operand

open Text

variable {rest rest' : List Char}

/-- What follows the first discriminant of a list, up to the bracket that closes it. -/
def listRest : List UInt32 → List Char
  | [] => [']']
  | d :: ds => ',' :: ' ' :: (decimalDigits d.toNat ++ listRest ds)

/-- What follows the bracket that opens a list. -/
def listChars : List UInt32 → List Char
  | [] => [']']
  | d :: ds => decimalDigits d.toNat ++ listRest ds

theorem toList_listText (ds : List UInt32) : (listText ds).toList = '[' :: listChars ds := by
  have hrest : ∀ d ds, [',', ' '].intercalate
      ((d :: ds).map fun d : UInt32 ↦ decimalDigits d.toNat) ++ [']'] =
        decimalDigits d.toNat ++ listRest ds := by
    intro d ds
    induction ds generalizing d with
    | nil => simp [listRest]
    | cons e ds ih =>
      have htail := ih e
      rw [List.map_cons] at htail ⊢
      rw [List.map_cons, List.intercalate_cons_cons, List.append_assoc, htail, List.append_assoc]
      rfl
  have hdigits : (String.toList ∘ fun d : UInt32 ↦ decimalText d.toNat) =
      fun d ↦ decimalDigits d.toNat := by
    funext d
    simp
  rw [listText, String.toList_append, String.toList_append, String.toList_intercalate,
    List.map_map, hdigits]
  cases ds with
  | nil => rfl
  | cons d ds => exact congrArg ('[' :: ·) (hrest d ds)

theorem endsName_listRest (ds : List UInt32) : EndsName (listRest ds ++ rest) := by
  cases ds with
  | nil => exact endsName_cons.mpr (by decide)
  | cons d ds => exact endsName_cons.mpr (by decide)

theorem listRest_append_inj {ds es : List UInt32}
    (h : listRest ds ++ rest = listRest es ++ rest') : ds = es ∧ rest = rest' := by
  induction ds generalizing es with
  | nil =>
    cases es with
    | nil => exact ⟨rfl, (List.cons.inj h).2⟩
    | cons e es => cases (List.cons.inj h).1
  | cons d ds ih =>
    cases es with
    | nil => cases (List.cons.inj h).1
    | cons e es =>
      simp only [listRest, List.cons_append, List.append_assoc, List.cons.injEq, true_and] at h
      obtain ⟨hfirst, h⟩ := decimalDigits_append_inj (endsName_listRest ds)
        (endsName_listRest es) h
      obtain ⟨rfl, hrest⟩ := ih h
      exact ⟨congrArg (· :: ds) (UInt32.toNat_inj.mp hfirst), hrest⟩

/-- **A list is told from what follows it.** -/
theorem listChars_append_inj {ds es : List UInt32}
    (h : listChars ds ++ rest = listChars es ++ rest') : ds = es ∧ rest = rest' := by
  have hclose : ∀ {n : Nat} {x y : List Char}, decimalDigits n ++ x ≠ ']' :: y :=
    decimalDigits_append_ne (by decide)
  cases ds with
  | nil =>
    cases es with
    | nil => exact ⟨rfl, (List.cons.inj h).2⟩
    | cons e es =>
      rw [listChars, listChars, List.append_assoc] at h
      exact absurd h.symm hclose
  | cons d ds =>
    cases es with
    | nil =>
      rw [listChars, listChars, List.append_assoc] at h
      exact absurd h hclose
    | cons e es =>
      rw [listChars, listChars, List.append_assoc, List.append_assoc] at h
      obtain ⟨hfirst, h⟩ := decimalDigits_append_inj (endsName_listRest ds)
        (endsName_listRest es) h
      obtain ⟨rfl, hrest⟩ := listRest_append_inj h
      exact ⟨congrArg (· :: ds) (UInt32.toNat_inj.mp hfirst), hrest⟩

/-- Operands whose text tells all about them: no doubles and no patterns. -/
def isExact : Operand → Bool
  | .number n => n.whole?.isSome
  | .pattern _ => false
  | _ => true

/-- The kind of operand that starts with a character. -/
def kindFrom (c : Char) : String :=
  if c = '"' then "string"
  else if c = '@' then "timestamp"
  else if c = '#' then "enum"
  else if c = '[' then "enum_set"
  else if c = 't' ∨ c = 'f' then "bool"
  else if c = 'n' then "null"
  else "number"

variable {a b : Operand}

theorem kindFrom_integerText (k : Int) :
    ∃ c text, (Number.integerText k).toList = c :: text ∧ kindFrom c = "number" := by
  rw [Number.toList_integerText]
  split
  · exact ⟨'-', _, rfl, rfl⟩
  · obtain ⟨d, digits, hdigits, hd⟩ := exists_decimalDigits_eq_cons k.natAbs
    have hne : ∀ {c}, c.isDigit = false → d ≠ c := fun hc ↦ ne_of_isDigit hd hc
    refine ⟨d, digits, hdigits, ?_⟩
    simp [kindFrom, hne]

/-- The first character tells the kind of an operand. -/
theorem exists_text_eq_cons (ha : a.isExact = true) :
    ∃ c text, a.text.toList = c :: text ∧ kindFrom c = a.kind := by
  cases a with
  | string s => exact ⟨'"', _, String.toList_ofList, rfl⟩
  | number n =>
    obtain ⟨k, hk⟩ := Option.isSome_iff_exists.mp ha
    rw [text, Number.text_of_whole? hk]
    exact kindFrom_integerText k
  | timestamp t => exact ⟨'@', _, String.toList_append, rfl⟩
  | enumeration d => exact ⟨'#', _, String.toList_append, rfl⟩
  | enumerationSet ds => exact ⟨'[', _, toList_listText ds, rfl⟩
  | bool value => cases value <;> exact ⟨_, _, rfl, by decide⟩
  | pattern p => cases ha
  | null => exact ⟨'n', _, rfl, rfl⟩

/-- **An operand is told from what follows it.** -/
theorem text_append_inj (ha : a.isExact = true) (hb : b.isExact = true) (hrest : EndsName rest)
    (hrest' : EndsName rest') (h : a.text.toList ++ rest = b.text.toList ++ rest') :
    (a == b) = true ∧ rest = rest' := by
  have hkind : a.kind = b.kind := by
    obtain ⟨c, _, hc, hakind⟩ := exists_text_eq_cons ha
    obtain ⟨d, _, hd, hbkind⟩ := exists_text_eq_cons hb
    rw [hc, hd] at h
    rw [← hakind, ← hbkind, (List.cons.inj h).1]
  have hsame : ∀ {a : Operand}, (∀ n, a ≠ .number n) → (a == a) = true :=
    fun hother ↦ beq_iff_alike.mpr (.same hother)
  -- Operands of two kinds do not start with the same character, so `hkind` settles all other pairs.
  cases a <;> cases b
  case string.string s t =>
    rw [text, text, quoted, quoted, String.toList_ofList, String.toList_ofList] at h
    obtain ⟨hchars, hrest⟩ := quoteChars_append_inj h
    obtain rfl := String.toList_inj.mp hchars
    exact ⟨hsame (by simp), hrest⟩
  case number.number m n =>
    obtain ⟨k, hk⟩ := Option.isSome_iff_exists.mp ha
    obtain ⟨l, hl⟩ := Option.isSome_iff_exists.mp hb
    rw [text, text, Number.text_of_whole? hk, Number.text_of_whole? hl] at h
    obtain ⟨hwhole, hrest⟩ := Number.integerText_append_inj hrest hrest' h
    exact ⟨(Number.beq_iff_of_whole? hk hl).mpr hwhole, hrest⟩
  case timestamp.timestamp t u =>
    rw [text, text, String.toList_append, String.toList_append] at h
    obtain ⟨hmillis, hrest⟩ := Number.integerText_append_inj hrest hrest' (List.cons.inj h).2
    obtain rfl : t = u := congrArg Timestamp.mk (Int64.toInt_inj.mp hmillis)
    exact ⟨hsame (by simp), hrest⟩
  case enumeration.enumeration d e =>
    rw [text, text, String.toList_append, String.toList_append, toList_decimalText,
      toList_decimalText] at h
    obtain ⟨hdigits, hrest⟩ := decimalDigits_append_inj hrest hrest' (List.cons.inj h).2
    obtain rfl := UInt32.toNat_inj.mp hdigits
    exact ⟨hsame (by simp), hrest⟩
  case enumerationSet.enumerationSet ds es =>
    rw [text, text, toList_listText, toList_listText] at h
    obtain ⟨rfl, hrest⟩ := listChars_append_inj (List.cons.inj h).2
    exact ⟨hsame (by simp), hrest⟩
  case bool.bool x y =>
    cases x <;> cases y
    case false.false | true.true => exact ⟨hsame (by simp), List.append_cancel_left h⟩
    case false.true | true.false => exact absurd (List.cons.inj h).1 (by decide)
  case pattern.pattern p q => cases ha
  case null.null => exact ⟨hsame (by simp), List.append_cancel_left h⟩
  all_goals exact absurd hkind (by simp [kind])

/-- Equal operands are shown alike. -/
theorem text_of_beq (ha : a.isExact = true) (hb : b.isExact = true) (h : (a == b) = true) :
    a.text = b.text := by
  cases beq_iff_alike.mp h with
  | same _ => rfl
  | @number m n hnumber =>
    obtain ⟨k, hk⟩ := Option.isSome_iff_exists.mp ha
    obtain ⟨l, hl⟩ := Option.isSome_iff_exists.mp hb
    rw [text, text, Number.text_of_whole? hk, Number.text_of_whole? hl,
      (Number.beq_iff_of_whole? hk hl).mp hnumber]

end Operand
end Sift
