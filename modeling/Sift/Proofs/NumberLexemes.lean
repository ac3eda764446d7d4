import Sift.Json.Lexeme
import Sift.Proofs.ShortestDecimal

/-!
# Numbers read back from JSON text

`Lexeme.chars` writes the parts of a number one after the other, and `Lexeme.split?_chars` finds
them again.  Every number that JSON can express is written as the parts of some lexeme, whatever
the layout of its digits, and that lexeme has the value of the number: `Number.exists_lexeme`.

Only the form of a number may change.  `Number.stored` is the form it has afterwards: a whole number
comes back signed if it can.
-/

set_option autoImplicit false
namespace Sift

/-- A list taken apart where a property ends. -/
theorem takeWhile_dropWhile_append {α : Type} {p : α → Bool} {front back : List α}
    (hfront : ∀ a ∈ front, p a = true) (hback : ∀ a ∈ back.head?, p a = false) :
    (front ++ back).takeWhile p = front ∧ (front ++ back).dropWhile p = back := by
  rw [List.takeWhile_append_of_pos hfront, List.dropWhile_append_of_pos hfront]
  cases back with
  | nil => exact ⟨List.append_nil _, rfl⟩
  | cons a back =>
    have ha : ¬ p a = true := Bool.eq_false_iff.mp (hback a rfl)
    rw [List.takeWhile_cons_of_neg ha, List.dropWhile_cons_of_neg ha]
    exact ⟨List.append_nil _, rfl⟩

/-- No digit is a letter or a sign. -/
theorem ne_of_isDigit {c d : Char} (hc : c.isDigit = true) (hd : d.isDigit = false) : c ≠ d := by
  rintro rfl
  exact Bool.noConfusion (hc.symm.trans hd)

namespace Json.Lexeme

variable {l : Lexeme}

/-! ## The text of a lexeme -/

/-- An exponent after its mark, with its sign. -/
def exponentChars (exponent : Int) : List Char :=
  'e' :: (if exponent < 0 then '-' else '+') :: decimalDigits exponent.natAbs

/-- The digits of a number with its point, if it has one. -/
def mantissaChars (l : Lexeme) : List Char :=
  l.whole ++ l.fraction.elim [] ('.' :: ·)

/-- The characters of a number, its sign aside. -/
def unsignedChars (l : Lexeme) : List Char :=
  l.mantissaChars ++ l.exponent.elim [] exponentChars

/-- The characters a lexeme is written with. -/
def chars (l : Lexeme) : List Char :=
  if l.negative then '-' :: l.unsignedChars else l.unsignedChars

/-- The parts are such as JSON allows. -/
structure WellFormed (l : Lexeme) : Prop where
  whole : isWhole l.whole = true
  fraction : ∀ digits ∈ l.fraction, isDigits digits = true

theorem isDigits_iff {text : List Char} : isDigits text = true ↔
    text ≠ [] ∧ ∀ c ∈ text, c.isDigit = true := by
  simp [isDigits]

theorem isWhole_iff {text : List Char} : isWhole text = true ↔
    isDigits text = true ∧ (text.head? = some '0' → text.length = 1) := by
  rcases text with _ | ⟨c, _ | ⟨d, rest⟩⟩
  · exact ⟨nofun, nofun⟩
  · simp [isWhole, isDigits]
  · simp [isWhole, isDigits, and_assoc, and_left_comm, and_comm]

theorem isDigits_decimalDigits (n : Nat) : isDigits (decimalDigits n) = true :=
  isDigits_iff.mpr ⟨decimalDigits_ne_nil n, fun _ ↦ isDigit_of_mem_decimalDigits⟩

theorem isWhole_decimalDigits (n : Nat) : isWhole (decimalDigits n) = true := by
  refine isWhole_iff.mpr ⟨isDigits_decimalDigits n, fun hhead ↦ ?_⟩
  rcases eq_or_ne n 0 with rfl | hn
  · rfl
  · exact absurd hhead (head?_decimalDigits hn)

theorem exponentOfText?_of_split (negative : Bool) {text digits : List Char}
    (hsplit : Double.splitSign text = (negative, digits)) (hdigits : isDigits digits = true) :
    Double.exponentOfText? text =
      some (if negative then -(Decimal.valueOfDigits digits : Int)
        else Decimal.valueOfDigits digits) := by
  obtain ⟨hne, hall⟩ := isDigits_iff.mp hdigits
  have hguard : ¬ (digits.isEmpty || !digits.all Char.isDigit) = true := by
    simpa [hne] using hall
  rw [Double.exponentOfText?, hsplit]
  exact if_neg hguard

/-- An exponent is read back. -/
theorem exponentOfText?_signed (exponent : Int) :
    Double.exponentOfText? ((if exponent < 0 then '-' else '+') :: decimalDigits exponent.natAbs) =
      some exponent := by
  have hdigits := isDigits_decimalDigits exponent.natAbs
  rcases lt_or_ge exponent 0 with hneg | hpos
  · rw [if_pos hneg, exponentOfText?_of_split true rfl hdigits,
      Decimal.valueOfDigits_decimalDigits, if_pos rfl, Int.ofNat_natAbs_of_nonpos hneg.le, neg_neg]
  · rw [if_neg (not_lt.mpr hpos), exponentOfText?_of_split false rfl hdigits,
      Decimal.valueOfDigits_decimalDigits, if_neg Bool.false_ne_true, Int.natAbs_of_nonneg hpos]

namespace WellFormed

theorem isDigit_of_mem_whole (h : l.WellFormed) {c : Char} (hc : c ∈ l.whole) :
    c.isDigit = true :=
  (isDigits_iff.mp (isWhole_iff.mp h.whole).1).2 c hc

/-- Nothing of a mantissa marks an exponent. -/
theorem mem_mantissaChars (h : l.WellFormed) {c : Char} (hc : c ∈ l.mantissaChars) :
    c.isDigit = true ∨ c = '.' := by
  rcases List.mem_append.mp hc with hc | hc
  · exact .inl (h.isDigit_of_mem_whole hc)
  · rcases hfraction : l.fraction with _ | digits
    · rw [hfraction] at hc
      cases hc
    · rw [hfraction] at hc
      rcases List.mem_cons.mp hc with rfl | hc
      · exact .inr rfl
      · exact .inl ((isDigits_iff.mp (h.fraction digits hfraction)).2 c hc)

/-- The parts of an unsigned lexeme are found again. -/
theorem splitUnsigned?_unsignedChars (h : l.WellFormed) :
    splitUnsigned? l.negative l.unsignedChars = some l := by
  have hmantissa : ∀ c ∈ l.mantissaChars, (!(c == 'e' || c == 'E')) = true := by
    intro c hc
    rcases h.mem_mantissaChars hc with hdigit | rfl
    · simp [ne_of_isDigit hdigit (d := 'e') rfl, ne_of_isDigit hdigit (d := 'E') rfl]
    · rfl
  have hexponent : ∀ c ∈ (l.exponent.elim [] exponentChars).head?,
      (!(c == 'e' || c == 'E')) = false := by
    cases l.exponent with
    | none => exact nofun
    | some e =>
      intro c hc
      obtain rfl := Option.some.inj hc
      rfl
  have hwhole : ∀ c ∈ l.whole, (c != '.') = true := fun c hc ↦
    bne_iff_ne.mpr (ne_of_isDigit (h.isDigit_of_mem_whole hc) rfl)
  have hpoint : ∀ c ∈ (l.fraction.elim [] ('.' :: ·)).head?, (c != '.') = false := by
    cases l.fraction with
    | none => exact nofun
    | some digits =>
      intro c hc
      obtain rfl := Option.some.inj hc
      rfl
  obtain ⟨htake, hdrop⟩ := takeWhile_dropWhile_append hmantissa hexponent
  obtain ⟨htake', hdrop'⟩ := takeWhile_dropWhile_append hwhole hpoint
  rw [splitUnsigned?]
  dsimp only
  rw [unsignedChars, htake, hdrop, mantissaChars, htake', hdrop']
  obtain ⟨negative, whole, fraction, exponent⟩ := l
  have hisWhole : isWhole whole = true := h.whole
  have hisDigits : ∀ digits ∈ fraction, isDigits digits = true := h.fraction
  cases exponent <;> cases fraction <;>
    simp_all [exponentChars, exponentOfText?_signed]

/-- An unsigned lexeme starts with a digit. -/
theorem unsignedChars_eq_cons (h : l.WellFormed) :
    ∃ c rest, l.unsignedChars = c :: rest ∧ c.isDigit = true := by
  obtain ⟨c, rest, hwhole⟩ := List.exists_cons_of_ne_nil
    (isDigits_iff.mp (isWhole_iff.mp h.whole).1).1
  refine ⟨c, rest ++ l.fraction.elim [] ('.' :: ·) ++ l.exponent.elim [] exponentChars, ?_, ?_⟩
  · rw [unsignedChars, mantissaChars, hwhole]
    rfl
  · exact h.isDigit_of_mem_whole (hwhole ▸ List.mem_cons_self)

/-- **The parts of a lexeme are found again in its text.** -/
theorem split?_chars (h : l.WellFormed) : split? l.chars = some l := by
  have hsplit := h.splitUnsigned?_unsignedChars
  rw [chars]
  rcases hnegative : l.negative with _ | _ <;> rw [hnegative] at hsplit
  · obtain ⟨c, rest, hcons, hc⟩ := h.unsignedChars_eq_cons
    rw [if_neg Bool.false_ne_true]
    rw [hcons] at hsplit ⊢
    rw [split?.eq_2 _ fun _ hminus ↦ ne_of_isDigit hc rfl (List.cons.inj hminus).1]
    exact hsplit
  · exact hsplit

/-- A lexeme starts with a minus or a digit. -/
theorem chars_eq_cons (h : l.WellFormed) :
    ∃ c rest, l.chars = c :: rest ∧ (c = '-' ∨ c.isDigit = true) := by
  rw [chars]
  split
  · exact ⟨'-', _, rfl, .inl rfl⟩
  · obtain ⟨c, rest, hcons, hc⟩ := h.unsignedChars_eq_cons
    exact ⟨c, rest, hcons, .inr hc⟩

/-- Every character of a lexeme can stand in a number. -/
theorem isNumberChar_of_mem_chars (h : l.WellFormed) {c : Char} (hc : c ∈ l.chars) :
    isNumberChar c = true := by
  have hdigit : ∀ {d : Char}, d.isDigit = true → isNumberChar d = true := fun hd ↦ by
    simp [isNumberChar, hd]
  have hunsigned : ∀ d ∈ l.unsignedChars, isNumberChar d = true := by
    intro d hd
    rcases List.mem_append.mp hd with hd | hd
    · rcases h.mem_mantissaChars hd with hd | rfl
      · exact hdigit hd
      · rfl
    · rcases hexponent : l.exponent with _ | e <;> rw [hexponent] at hd
      · cases hd
      · rcases List.mem_cons.mp hd with rfl | hd
        · rfl
        · rcases List.mem_cons.mp hd with rfl | hd
          · split <;> rfl
          · exact hdigit (isDigit_of_mem_decimalDigits hd)
  rw [chars] at hc
  split at hc
  · rcases List.mem_cons.mp hc with rfl | hc
    · rfl
    · exact hunsigned c hc
  · exact hunsigned c hc

end WellFormed

/-! ## The value of a lexeme -/

/-- A lexeme with a point or an exponent is a double. -/
theorem number?_of_nearestUnits {units : Nat} (h : Double.Representable units)
    (hpart : l.fraction.isSome = true ∨ l.exponent.isSome = true)
    (hunits : l.decimal.nearestUnits .double = some units) :
    l.number? = some (.double (.finite l.negative units h)) := by
  have hinteger : l.integer? = none := by
    rw [integer?]
    split
    · rename_i hfraction hexponent
      rw [hfraction, hexponent] at hpart
      exact absurd hpart (by decide)
    · rfl
  have hnearest : l.decimal.nearest l.negative = .finite l.negative units h := by
    rw [Decimal.nearest, Decimal.nearestOn, hunits]
    exact Double.ofUnits_of_representable h
  rw [number?, hinteger]
  show l.double?.map Number.double = _
  rw [double?, hnearest]
  rfl

/-! ## Whole numbers -/

/-- The lexeme of a whole number. -/
def ofInt (n : Int) : Lexeme := ⟨decide (n < 0), decimalDigits n.natAbs, none, none⟩

theorem wellFormed_ofInt (n : Int) : (ofInt n).WellFormed :=
  ⟨isWhole_decimalDigits _, nofun⟩

theorem chars_ofInt (n : Int) : (ofInt n).chars = (Number.integerText n).toList := by
  have hunsigned : (ofInt n).unsignedChars = decimalDigits n.natAbs := by
    rw [unsignedChars, mantissaChars]
    exact (List.append_nil _).trans (List.append_nil _)
  have hnegative : (ofInt n).negative = decide (n < 0) := rfl
  rw [chars, hunsigned, hnegative, Number.integerText, decimalText]
  rcases lt_or_ge n 0 with hneg | hpos
  · rw [if_pos hneg, if_pos (decide_eq_true hneg), String.toList_append, String.toList_ofList,
      String.toList_ofList]
    rfl
  · rw [if_neg (not_lt.mpr hpos), if_neg (by simpa using hpos), String.toList_ofList]

theorem integer?_ofInt (n : Int) : (ofInt n).integer? = some n := by
  show (if decide (n < 0) = true then
      (if (Decimal.valueOfDigits (decimalDigits n.natAbs) : Int) = 0 then none
        else some (-(Decimal.valueOfDigits (decimalDigits n.natAbs) : Int)))
    else some (Decimal.valueOfDigits (decimalDigits n.natAbs) : Int)) = some n
  rw [Decimal.valueOfDigits_decimalDigits]
  rcases lt_or_ge n 0 with hneg | hpos
  · have hne : ¬ (n.natAbs : Int) = 0 := by omega
    rw [if_pos (decide_eq_true hneg), if_neg hne, Int.ofNat_natAbs_of_nonpos hneg.le, neg_neg]
  · rw [if_neg (by simpa using hpos), Int.natAbs_of_nonneg hpos]

theorem number?_ofInt {n : Int} {m : Number} (h : Number.ofInt? n = some m) :
    (ofInt n).number? = some m := by
  rw [number?, integer?_ofInt, Option.bind_some, h]

/-! ## Doubles -/

/-- A text spells a decimal, up to zeros moved between its digits and its exponent. -/
structure Spells (l : Lexeme) (text : List Char) (d : Decimal) : Prop where
  wellFormed : l.WellFormed
  isDouble : l.fraction.isSome = true ∨ l.exponent.isSome = true
  chars_eq : l.unsignedChars = text
  units_eq : l.decimal.nearestUnits .double = d.nearestUnits .double

/-- Digits that start a number: the first is not zero. -/
structure Leading (digits : List Char) : Prop where
  isDigits : isDigits digits = true
  head?_ne : digits.head? ≠ some '0'

theorem leading_decimalDigits {n : Nat} (hn : n ≠ 0) : Leading (decimalDigits n) :=
  ⟨isDigits_decimalDigits n, head?_decimalDigits hn⟩

theorem isDigits_zeros_append {digits : List Char} (h : Json.Lexeme.isDigits digits = true)
    (count : Nat) : Json.Lexeme.isDigits (List.replicate count '0' ++ digits) = true := by
  obtain ⟨hne, hall⟩ := isDigits_iff.mp h
  refine isDigits_iff.mpr ⟨List.append_ne_nil_of_right_ne_nil _ hne, fun c hc ↦ ?_⟩
  rcases List.mem_append.mp hc with hc | hc
  · rw [List.eq_of_mem_replicate hc]
    rfl
  · exact hall c hc

namespace Leading

variable {digits : List Char} (h : Leading digits) (negative : Bool) (exponent : Int)

include h

theorem isWhole : isWhole digits = true :=
  isWhole_iff.mpr ⟨h.isDigits, fun hhead ↦ absurd hhead h.head?_ne⟩

theorem append_zeros (count : Nat) : Leading (digits ++ List.replicate count '0') := by
  obtain ⟨hne, hall⟩ := isDigits_iff.mp h.isDigits
  refine ⟨isDigits_iff.mpr ⟨List.append_ne_nil_of_left_ne_nil hne _, fun c hc ↦ ?_⟩, ?_⟩
  · rcases List.mem_append.mp hc with hc | hc
    · exact hall c hc
    · rw [List.eq_of_mem_replicate hc]
      rfl
  · rw [List.head?_append_of_ne_nil _ hne]
    exact h.head?_ne

theorem take_succ (count : Nat) : Leading (digits.take (count + 1)) := by
  obtain ⟨hne, hall⟩ := isDigits_iff.mp h.isDigits
  have hhead := h.head?_ne
  cases digits with
  | nil => exact absurd rfl hne
  | cons c rest =>
    exact ⟨isDigits_iff.mpr ⟨List.cons_ne_nil _ _, fun d hd ↦ hall d (List.mem_of_mem_take hd)⟩,
      hhead⟩

theorem isDigits_drop {count : Nat} (hcount : count < digits.length) :
    Json.Lexeme.isDigits (digits.drop count) = true := by
  refine isDigits_iff.mpr
    ⟨?_, fun c hc ↦ (isDigits_iff.mp h.isDigits).2 c (List.mem_of_mem_drop hc)⟩
  rw [ne_eq, List.drop_eq_nil_iff]
  exact Nat.not_le.mpr hcount

/-- Digits with the point where it belongs. -/
theorem exists_spells_positional : ∃ l : Lexeme, l.negative = negative ∧
    l.Spells (Number.storedLayout.positional digits (exponent + digits.length - 1))
      ⟨Decimal.valueOfDigits digits, exponent⟩ := by
  rw [Layout.positional]
  split
  -- All digits stand behind the point.
  · rename_i hneg
    generalize hzeros : (-(exponent + digits.length - 1) - 1).toNat = zeros
    refine ⟨⟨negative, ['0'], some (List.replicate zeros '0' ++ digits), none⟩, rfl, ⟨rfl, ?_⟩,
      .inl rfl, ?_, congrArg _ ?_⟩
    · rintro _ ⟨⟩
      exact isDigits_zeros_append h.isDigits _
    · simp [unsignedChars, mantissaChars]
    · have hvalue : Decimal.valueOfDigits (['0'] ++ (List.replicate zeros '0' ++ digits)) =
          Decimal.valueOfDigits digits :=
        Decimal.valueOfDigits_zeros_append (zeros + 1) digits
      have hexponent : 0 - ((List.replicate zeros '0' ++ digits).length : Int) = exponent := by
        rw [List.length_append, List.length_replicate]
        omega
      exact congrArg₂ Decimal.mk hvalue hexponent
  · rename_i hpos
    dsimp only
    generalize hwhole : (exponent + digits.length - 1).toNat + 1 = whole
    split
    -- All of them stand before it, with zeros to fill the places that are left.
    · rename_i hshort
      refine ⟨⟨negative, digits ++ List.replicate (whole - digits.length) '0', some ['0'], none⟩,
        rfl, ⟨(h.append_zeros _).isWhole, ?_⟩, .inl rfl, ?_, ?_⟩
      · rintro _ ⟨⟩
        rfl
      · simp [unsignedChars, mantissaChars, Number.storedLayout]
      · have hvalue : Decimal.valueOfDigits
              (digits ++ List.replicate (whole - digits.length) '0' ++ ['0']) =
            Decimal.valueOfDigits digits * Nat.pow 10 (whole - digits.length + 1) := by
          rw [← Decimal.valueOfDigits_append_zeros, List.append_assoc,
            ← List.replicate_succ']
        have hexponent : -1 + ((whole - digits.length + 1 : Nat) : Int) = exponent := by
          omega
        calc Decimal.nearestUnits .double ⟨Decimal.valueOfDigits
              (digits ++ List.replicate (whole - digits.length) '0' ++ ['0']), -1⟩
          _ = _ := by rw [hvalue, Decimal.nearestUnits_mul_pow, hexponent]
    -- The point falls between two of them.
    · rename_i hlong
      have hlong : whole < digits.length := Nat.lt_of_not_le hlong
      refine ⟨⟨negative, digits.take whole, some (digits.drop whole), none⟩, rfl, ⟨?_, ?_⟩,
        .inl rfl, ?_, congrArg _ ?_⟩
      · exact hwhole ▸ (h.take_succ _).isWhole
      · rintro _ ⟨⟩
        exact h.isDigits_drop hlong
      · simp [unsignedChars, mantissaChars]
      · have hexponent : 0 - ((digits.drop whole).length : Int) = exponent := by
          rw [List.length_drop]
          omega
        exact congrArg₂ Decimal.mk (congrArg _ (List.take_append_drop _ _)) hexponent

/-- One digit before the point, and the exponent. -/
theorem exists_spells_scientific : ∃ l : Lexeme, l.negative = negative ∧
    l.Spells (Number.storedLayout.scientific digits (exponent + digits.length - 1))
      ⟨Decimal.valueOfDigits digits, exponent⟩ := by
  have hpos : 0 < digits.length := List.length_pos_of_ne_nil (isDigits_iff.mp h.isDigits).1
  generalize hleading : exponent + digits.length - 1 = leading
  have hsign : (if leading < 0 then ['-'] else Number.storedLayout.exponentSign.toList) =
      [if leading < 0 then '-' else '+'] := by
    split <;> rfl
  rw [Layout.scientific, hsign]
  split
  · rename_i hone
    refine ⟨⟨negative, digits.take 1, none, some leading⟩, rfl, ⟨(h.take_succ 0).isWhole, nofun⟩,
      .inr rfl, ?_, congrArg _ ?_⟩
    · simp [unsignedChars, mantissaChars, exponentChars]
    · have htake : digits.take 1 ++ [] = digits := by
        rw [List.append_nil, List.take_of_length_le hone]
      have hexponent : leading - (([] : List Char).length : Int) = exponent := by
        rw [List.length_nil]
        omega
      exact congrArg₂ Decimal.mk (congrArg _ htake) hexponent
  · rename_i hmany
    refine ⟨⟨negative, digits.take 1, some (digits.drop 1), some leading⟩, rfl,
      ⟨(h.take_succ 0).isWhole, ?_⟩, .inr rfl, ?_, congrArg _ ?_⟩
    · rintro _ ⟨⟩
      exact h.isDigits_drop (Nat.lt_of_not_le hmany)
    · simp [unsignedChars, mantissaChars, exponentChars]
    · have hexponent : leading - ((digits.drop 1).length : Int) = exponent := by
        rw [List.length_drop]
        omega
      exact congrArg₂ Decimal.mk (congrArg _ (List.take_append_drop _ _)) hexponent

end Leading

/-- A finite double is written as a lexeme of its value. -/
theorem exists_of_double (negative : Bool) {units : Nat} (h : Double.Representable units) :
    ∃ l : Lexeme, l.WellFormed ∧
      (Number.storedLayout.text (.finite negative units h)).toList = l.chars ∧
      l.number? = some (.double (.finite negative units h)) := by
  have hspells : ∃ l : Lexeme, l.negative = negative ∧ l.WellFormed ∧
      (l.fraction.isSome = true ∨ l.exponent.isSome = true) ∧
      l.unsignedChars = Number.storedLayout.magnitudeText units ∧
      l.decimal.nearestUnits .double = some units := by
    rw [Layout.magnitudeText]
    split
    · rename_i hzero
      subst hzero
      refine ⟨⟨negative, ['0'], some ['0'], none⟩, rfl, ⟨rfl, ?_⟩, .inl rfl, rfl, ?_⟩
      · rintro _ ⟨⟩
        rfl
      · rw [Decimal.nearestUnits]
        exact if_pos (.inl rfl)
    · rename_i hne
      have hunits := Decimal.nearestUnits_shortest Number.storedLayout.tie h hne
      have hleading := leading_decimalDigits
        (Decimal.significand_shortest_ne_zero Number.storedLayout.tie h hne)
      generalize Decimal.shortest Number.storedLayout.tie units = d at hunits hleading ⊢
      obtain ⟨significand, exponent⟩ := d
      dsimp only
      rw [← Decimal.valueOfDigits_decimalDigits significand] at hunits
      split
      · obtain ⟨l, hnegative, hl⟩ := hleading.exists_spells_positional negative exponent
        exact ⟨l, hnegative, hl.wellFormed, hl.isDouble, hl.chars_eq, hl.units_eq.trans hunits⟩
      · obtain ⟨l, hnegative, hl⟩ := hleading.exists_spells_scientific negative exponent
        exact ⟨l, hnegative, hl.wellFormed, hl.isDouble, hl.chars_eq, hl.units_eq.trans hunits⟩
  obtain ⟨l, rfl, hwellFormed, hdouble, hchars, hunits⟩ := hspells
  refine ⟨l, hwellFormed, ?_, number?_of_nearestUnits h hdouble hunits⟩
  rw [Layout.text, String.toList_ofList, chars, hchars]
  split <;> rfl

end Json.Lexeme

/-! ## Numbers -/

namespace Number

/-- Whether JSON can express a number. -/
def isExpressible : Number → Bool
  | .double value => value.isFinite
  | _ => true

/-- The form a number has once it was stored: a whole number is signed if it can be. -/
def stored : Number → Number
  | .unsigned value =>
    if (value.toNat : Int) ≤ Int64.maxValue.toInt then .signed (.ofInt value.toNat)
    else .unsigned value
  | n => n

theorem ofInt?_toInt (value : Int64) : ofInt? value.toInt = some (.signed value) := by
  rw [ofInt?, if_pos ⟨value.minValue_le_toInt, value.toInt_le⟩, Int64.ofInt_toInt]

theorem ofInt?_toNat (value : UInt64) :
    ofInt? value.toNat = some (stored (.unsigned value)) := by
  have hmin : Int64.minValue.toInt ≤ (value.toNat : Int) :=
    le_trans (by decide) (Int.natCast_nonneg _)
  rw [ofInt?, stored]
  split
  · rename_i hfits
    rw [if_pos hfits.2]
  · rename_i hfits
    have hmax : ¬ (value.toNat : Int) ≤ Int64.maxValue.toInt := fun h ↦ hfits ⟨hmin, h⟩
    have hsize : (value.toNat : Int) < UInt64.size := Int.ofNat_lt.mpr value.toNat_lt_size
    rw [if_neg hmax, if_pos ⟨Int.natCast_nonneg _, hsize⟩, Int.toNat_natCast, UInt64.ofNat_toNat]

/-- **A number that JSON can express is written as a lexeme of its value.** -/
theorem exists_lexeme {n : Number} (h : n.isExpressible = true) : ∃ l : Json.Lexeme,
    l.WellFormed ∧ Json.numberChars n = l.chars ∧ l.number? = some n.stored := by
  cases n with
  | signed value =>
    exact ⟨.ofInt value.toInt, Json.Lexeme.wellFormed_ofInt _, (Json.Lexeme.chars_ofInt _).symm,
      Json.Lexeme.number?_ofInt (ofInt?_toInt value)⟩
  | unsigned value =>
    refine ⟨.ofInt value.toNat, Json.Lexeme.wellFormed_ofInt _, ?_,
      Json.Lexeme.number?_ofInt (ofInt?_toNat value)⟩
    rw [Json.Lexeme.chars_ofInt, integerText, if_neg (Int.not_lt.mpr (Int.natCast_nonneg _))]
    rfl
  | double value =>
    cases value with
    | finite negative units hunits => exact Json.Lexeme.exists_of_double negative hunits
    | nan => cases h
    | infinite negative => cases h

end Number
end Sift
