import Mathlib.Tactic.SplitIfs
import Sift.Json.Scanner
import Sift.Proofs.NumberLexemes

/-!
# JSON text read back

`Json.scan_text` says what the text of a value is read as: the whole text is one value, and that
value is `Json.asRead`, in which numbers have their stored form, what JSON cannot express is null,
and an array or object past the limit is unreadable.

The proof follows the scanner over the text of a value from any stack of open arrays and objects.
Afterwards the value has been delivered to the stack, whatever the stack is; so the texts of the
parts of a value compose.  A number is an exception, since it ends only at the next character:
`Scanner.Settles` is what a state has in common with one in which the number has ended.
-/

set_option autoImplicit false
namespace Sift

/-! ## What a value is read as -/

/-- What the text of a number is read as. -/
def Number.asRead (n : Number) : Json :=
  if n.isExpressible then .number n.stored else .null

namespace Json

mutual

/-- What the text of a value is read as inside so many open arrays and objects. -/
def asRead (level : Nat) : Json → Json
  | .null => .null
  | .bool value => .bool value
  | .number value => value.asRead
  | .string value => .string value
  | .array items =>
    if level < nestingLimit then .array (itemsAsRead (level + 1) items) else .unreadable
  | .object members =>
    if level < nestingLimit then .object (membersAsRead (level + 1) members) else .unreadable
  | .unreadable => .null

/-- The items of an array as they are read back. -/
def itemsAsRead (level : Nat) : List Json → List Json
  | [] => []
  | item :: items => item.asRead level :: itemsAsRead level items

/-- The members of an object as they are read back. -/
def membersAsRead (level : Nat) : List (String × Json) → List (String × Json)
  | [] => []
  | (key, value) :: members => (key, value.asRead level) :: membersAsRead level members

end

namespace Scanner

variable {stack : List Frame}

/-! ## Strings -/

/-- Inside a string whose characters so far are given, latest first. -/
def inString (stack : List Frame) (isKey : Bool) (reversed : List Char) : Scanner :=
  .reading stack (.string isKey ⟨reversed, none, true, .none⟩)

theorem step_string {isKey : Bool} {s next : OpenString} {c : Char}
    (hquote : ¬ (c = '"' ∧ s.isPlain = true)) (h : s.step? c = some next) :
    step (.reading stack (.string isKey s)) c = .reading stack (.string isKey next) := by
  show stepPlain stack (.string isKey s) c = _
  rw [stepPlain, if_neg hquote, h]

theorem digitChar_ne_quote : ∀ d < 16, Nat.digitChar d ≠ '"' := by
  decide

theorem step?_code (reversed : List Char) {digits value digit : Nat} (hdigits : digits ≠ 3)
    (hdigit : digit < 16) :
    OpenString.step? ⟨reversed, none, true, .code digits value⟩ (Nat.digitChar digit) =
      some ⟨reversed, none, true, .code (digits + 1) (16 * value + digit)⟩ := by
  rw [OpenString.step?]
  dsimp only
  rw [Text.hexValue?_digitChar _ hdigit]
  exact congrArg some (if_neg hdigits)

/-- The last digit of the code of a control character. -/
theorem step?_lastDigit (reversed : List Char) {c : Char} (hc : c.toNat < 32) :
    OpenString.step? ⟨reversed, none, true, .code 3 (c.toNat / 16)⟩
      (Nat.digitChar (c.toNat % 16)) = some ⟨c :: reversed, none, true, .none⟩ := by
  have hvalue : 16 * (c.toNat / 16) + c.toNat % 16 = c.toNat := Nat.div_add_mod _ _
  have hhigh : ¬ (0xD800 ≤ c.toNat ∧ c.toNat < 0xDC00) := by omega
  have hlow : ¬ (0xDC00 ≤ c.toNat ∧ c.toNat < 0xE000) := by omega
  rw [OpenString.step?]
  dsimp only
  rw [Text.hexValue?_digitChar _ (Nat.mod_lt _ (by decide)), Option.map_some, if_pos rfl, hvalue,
    OpenString.pushCode, if_neg hhigh, if_neg hlow, Char.ofNat_toNat]
  rfl

/-- The code of a control character is read as the character. -/
theorem foldl_controlCode (isKey : Bool) (reversed : List Char) {c : Char} (hc : c.toNat < 32) :
    ['\\', 'u', '0', '0', Nat.digitChar (c.toNat / 16), Nat.digitChar (c.toNat % 16)].foldl step
      (inString stack isKey reversed) = inString stack isKey (c :: reversed) := by
  have hdigit : c.toNat / 16 < 16 := by omega
  calc _ = step (step (.reading stack (.string isKey ⟨reversed, none, true, .code 2 0⟩))
        (Nat.digitChar (c.toNat / 16))) (Nat.digitChar (c.toNat % 16)) := rfl
    _ = step (.reading stack (.string isKey ⟨reversed, none, true, .code 3 (c.toNat / 16)⟩))
        (Nat.digitChar (c.toNat % 16)) := by
      rw [step_string (fun h ↦ digitChar_ne_quote _ hdigit h.1)
        (step?_code reversed (by decide) hdigit), Nat.mul_zero, Nat.zero_add]
    _ = inString stack isKey (c :: reversed) :=
      step_string (fun h ↦ digitChar_ne_quote _ (Nat.mod_lt _ (by decide)) h.1)
        (step?_lastDigit reversed hc)

/-- A character written between quotes is read as itself. -/
theorem foldl_escapeChar (isKey : Bool) (reversed : List Char) (c : Char) :
    (escapeChar c).foldl step (inString stack isKey reversed) =
      inString stack isKey (c :: reversed) := by
  rw [escapeChar]
  split_ifs with hquote hbackslash hnewline hreturn htab hbackspace hfeed hcontrol
  · subst hquote
    rfl
  · subst hbackslash
    rfl
  · subst hnewline
    rfl
  · subst hreturn
    rfl
  · subst htab
    rfl
  · obtain rfl : c = '\x08' := Char.toNat_inj.mp hbackspace
    rfl
  · obtain rfl : c = '\x0c' := Char.toNat_inj.mp hfeed
    rfl
  · exact foldl_controlCode isKey reversed hcontrol
  · refine step_string (fun hc ↦ hquote hc.1) ?_
    rw [OpenString.step?]
    dsimp only
    rw [if_neg hbackslash, if_neg hcontrol]
    rfl

theorem foldl_escapeChars (isKey : Bool) (reversed text : List Char) :
    (text.flatMap escapeChar).foldl step (inString stack isKey reversed) =
      inString stack isKey (text.reverse ++ reversed) := by
  induction text generalizing reversed with
  | nil => rfl
  | cons c text ih =>
    rw [List.flatMap_cons, List.foldl_append, foldl_escapeChar, ih, List.reverse_cons,
      List.append_assoc, List.singleton_append]

/-- A string that was opened is read to its end. -/
theorem foldl_string (isKey : Bool) (text : String) :
    (text.toList.flatMap escapeChar ++ ['"']).foldl step (inString stack isKey []) =
      closeString isKey ⟨text.toList.reverse, none, true, .none⟩ stack := by
  rw [List.foldl_append, foldl_escapeChars, List.append_nil]
  rfl

theorem close?_reverse (text : String) :
    OpenString.close? ⟨text.toList.reverse, none, true, .none⟩ = some text := by
  show some (String.ofList text.toList.reverse.reverse) = some text
  rw [List.reverse_reverse, String.ofList_toList]

theorem foldl_stringChars_value (text : String) :
    (stringChars text).foldl step (.reading stack .value) = deliver (.string text) stack := by
  rw [stringChars, List.append_assoc, List.foldl_append]
  show (text.toList.flatMap escapeChar ++ ['"']).foldl step (inString stack false []) = _
  rw [foldl_string, closeString.eq_def, close?_reverse]

/-- The key of a member, with the colon after it. -/
theorem foldl_stringChars_key (members : List (String × Json)) (key text : String) :
    (stringChars text ++ [':']).foldl step (.reading (.object members key true :: stack) .key) =
      .reading (.object members text true :: stack) .value := by
  rw [stringChars, List.append_assoc, List.append_assoc, List.foldl_append, ← List.append_assoc]
  show (text.toList.flatMap escapeChar ++ ['"'] ++ [':']).foldl step
    (inString (.object members key true :: stack) true []) = _
  rw [List.foldl_append, foldl_string, closeString.eq_def, close?_reverse]
  rfl

/-! ## Numbers -/

/-- A state that goes on as another does, unless a number goes on in it. -/
structure Settles (state target : Scanner) : Prop where
  step_eq : ∀ c, Lexeme.isNumberChar c = false → step state c = step target c
  finish_eq : state.finish = target.finish

theorem Settles.refl (state : Scanner) : Settles state state :=
  ⟨fun _ _ ↦ rfl, rfl⟩

theorem Settles.of_eq {state target : Scanner} (h : state = target) : Settles state target :=
  h ▸ .refl state

/-- A number that is read whole settles into its value. -/
theorem Settles.number {reversed : List Char} {value : Json}
    (h : ofLexeme? reversed.reverse = some value) :
    Settles (.reading stack (.number reversed)) (deliver value stack) where
  step_eq c hc := by
    have hend : endNumber reversed stack = deliver value stack := by rw [endNumber, h]
    rw [step, if_neg (Bool.eq_false_iff.mp hc), hend]
    cases stack with
    | nil => rfl
    | cons frame rest => cases frame <;> rfl
  finish_eq := by
    have hend : endNumber reversed stack = deliver value stack := by rw [endNumber, h]
    rw [finish, hend]
    cases stack with
    | nil => rfl
    | cons frame rest => cases frame <;> rfl

/-- The first character of a number is none of those that start anything else. -/
theorem ne_of_startsNumber {c d : Char} (hc : c = '-' ∨ c.isDigit = true) (hminus : d ≠ '-')
    (hdigit : d.isDigit = false) : c ≠ d := by
  rcases hc with rfl | hc
  · exact hminus.symm
  · exact ne_of_isDigit hc hdigit

theorem startValue_number {c : Char} (hc : c = '-' ∨ c.isDigit = true) :
    startValue stack c = .reading stack (.number [c]) := by
  rw [startValue, if_neg (ne_of_startsNumber hc (by decide) rfl),
    if_neg (ne_of_startsNumber hc (by decide) rfl), if_neg (ne_of_startsNumber hc (by decide) rfl),
    if_neg (ne_of_startsNumber hc (by decide) rfl), if_neg (ne_of_startsNumber hc (by decide) rfl),
    if_neg (ne_of_startsNumber hc (by decide) rfl), if_pos hc]

theorem isBlank_number {c : Char} (hc : c = '-' ∨ c.isDigit = true) : isBlank c = false := by
  rcases hc with rfl | hc
  · rfl
  · simp [isBlank, ne_of_isDigit hc]

theorem foldl_numberChars {text : List Char} (htext : ∀ c ∈ text, Lexeme.isNumberChar c = true)
    (reversed : List Char) : text.foldl step (.reading stack (.number reversed)) =
      .reading stack (.number (text.reverse ++ reversed)) := by
  induction text generalizing reversed with
  | nil => rfl
  | cons c text ih =>
    have hc : step (.reading stack (.number reversed)) c =
        .reading stack (.number (c :: reversed)) :=
      if_pos (htext c List.mem_cons_self)
    rw [List.foldl_cons, hc, ih fun d hd ↦ htext d (List.mem_cons_of_mem _ hd), List.reverse_cons,
      List.append_assoc, List.singleton_append]

theorem foldl_null : "null".toList.foldl step (.reading stack .value) = deliver .null stack := by
  rfl

theorem settles_numberChars (n : Number) :
    Settles ((numberChars n).foldl step (.reading stack .value)) (deliver n.asRead stack) := by
  rw [Number.asRead]
  split
  · rename_i hn
    obtain ⟨l, hl, hchars, hvalue⟩ := n.exists_lexeme hn
    obtain ⟨c, rest, hcons, hc⟩ := hl.chars_eq_cons
    have hstart : step (.reading stack .value) c = .reading stack (.number [c]) :=
      (if_neg (Bool.eq_false_iff.mp (isBlank_number hc))).trans (startValue_number hc)
    have hrest : ∀ d ∈ rest, Lexeme.isNumberChar d = true := fun d hd ↦
      hl.isNumberChar_of_mem_chars (hcons ▸ List.mem_cons_of_mem _ hd)
    rw [hchars, hcons, List.foldl_cons, hstart, foldl_numberChars hrest]
    refine Settles.number ?_
    rw [List.reverse_append, List.reverse_reverse, List.reverse_singleton, List.singleton_append,
      ← hcons, ofLexeme?, hl.split?_chars, Option.map_some, hvalue]
  · rename_i hn
    rcases n with _ | _ | (_ | _ | _)
    case double.nan => exact .of_eq foldl_null
    case double.infinite => exact .of_eq foldl_null
    all_goals exact absurd rfl hn

/-! ## Values -/

/-- The text of a value starts neither with a blank nor with what closes an array. -/
theorem exists_chars_eq_cons (v : Json) :
    ∃ c rest, v.chars = c :: rest ∧ isBlank c = false ∧ c ≠ ']' := by
  have hnull : ∃ c rest, "null".toList = c :: rest ∧ isBlank c = false ∧ c ≠ ']' :=
    ⟨'n', _, rfl, rfl, by decide⟩
  cases v with
  | null => exact hnull
  | bool value => cases value <;> exact ⟨_, _, rfl, rfl, by decide⟩
  | number n =>
    rw [chars]
    by_cases hn : n.isExpressible = true
    · obtain ⟨l, hl, hchars, -⟩ := n.exists_lexeme hn
      obtain ⟨c, rest, hcons, hc⟩ := hl.chars_eq_cons
      exact ⟨c, rest, hchars.trans hcons, isBlank_number hc,
        ne_of_startsNumber hc (by decide) rfl⟩
    · rcases n with _ | _ | (_ | _ | _)
      case double.nan => exact hnull
      case double.infinite => exact hnull
      all_goals exact absurd rfl hn
  | string value => exact ⟨'"', _, rfl, rfl, by decide⟩
  | array items => exact ⟨'[', _, rfl, rfl, by decide⟩
  | object members => exact ⟨'\x7b', _, rfl, rfl, by decide⟩
  | unreadable => exact hnull

/-- Where an array may be closed, a value is read as anywhere else. -/
theorem foldl_chars_valueOrClose (v : Json) (text : List Char) :
    (v.chars ++ text).foldl step (.reading stack .valueOrClose) =
      (v.chars ++ text).foldl step (.reading stack .value) := by
  obtain ⟨c, rest, hcons, hblank, hclose⟩ := exists_chars_eq_cons v
  have hstep : step (.reading stack .valueOrClose) c = step (.reading stack .value) c := by
    show stepPlain stack .valueOrClose c = stepPlain stack .value c
    have hblank := Bool.eq_false_iff.mp hblank
    rw [stepPlain, stepPlain, if_neg hblank, if_neg hblank, if_neg hclose]
  rw [hcons, List.cons_append, List.foldl_cons, List.foldl_cons, hstep]

theorem exists_itemChars_eq_append (item : Json) (items : List Json) :
    ∃ text, itemChars (item :: items) = item.chars ++ text := by
  cases items with
  | nil => exact ⟨[], (List.append_nil _).symm⟩
  | cons next items => exact ⟨[','] ++ itemChars (next :: items), List.append_assoc _ _ _⟩

/-- Where an object may be closed, a key is read as anywhere else. -/
theorem foldl_stringChars_keyOrClose (key : String) (text : List Char) :
    (stringChars key ++ text).foldl step (.reading stack .keyOrClose) =
      (stringChars key ++ text).foldl step (.reading stack .key) :=
  rfl

theorem exists_memberChars_eq_append (key : String) (value : Json)
    (members : List (String × Json)) :
    ∃ text, memberChars ((key, value) :: members) = stringChars key ++ text := by
  cases members with
  | nil => exact ⟨[':'] ++ value.chars, List.append_assoc _ _ _⟩
  | cons next members =>
    refine ⟨[':'] ++ value.chars ++ [','] ++ memberChars (next :: members), ?_⟩
    simp [memberChars]

/-- An array that is closed holds what was read, unless it nests too deep. -/
theorem close_array (items : List Json) : close ']' (.array items.reverse :: stack) =
    deliver (if stack.length < nestingLimit then .array items else .unreadable) stack := by
  rw [close]
  simp only [fits, decide_eq_true_eq, List.reverse_reverse]

theorem close_object (members : List (String × Json)) :
    close '\x7d' (.object members.reverse "" true :: stack) =
      deliver (if stack.length < nestingLimit then .object members else .unreadable) stack := by
  rw [close]
  simp only [fits, Bool.true_and, decide_eq_true_eq, List.reverse_reverse]

mutual

/-- **The text of a value delivers the value, wherever it stands.**  The induction is on the value,
for every stack, since the parts of a value are read on top of what is open around it. -/
theorem settles_chars : (v : Json) → (stack : List Frame) →
    Settles (v.chars.foldl step (.reading stack .value)) (deliver (v.asRead stack.length) stack)
  | .null, stack => .of_eq foldl_null
  | .bool true, stack => .of_eq rfl
  | .bool false, stack => .of_eq rfl
  | .number n, stack => settles_numberChars n
  | .string text, stack => .of_eq (foldl_stringChars_value text)
  | .array [], stack => .of_eq (close_array [])
  | .array (item :: items), stack => by
    have hitems := settles_itemChars (item :: items) (List.cons_ne_nil _ _) stack []
    obtain ⟨text, htext⟩ := exists_itemChars_eq_append item items
    rw [List.append_nil] at hitems
    refine .of_eq ?_
    -- The bracket that closes the array ends the last item, should that be a number.
    calc (Json.array (item :: items)).chars.foldl step (.reading stack .value)
      _ = (itemChars (item :: items) ++ [']']).foldl step
            (.reading (.array [] :: stack) .valueOrClose) := rfl
      _ = step ((itemChars (item :: items)).foldl step
            (.reading (.array [] :: stack) .value)) ']' := by
        rw [htext, List.append_assoc, foldl_chars_valueOrClose, ← List.append_assoc,
          List.foldl_append, List.foldl_cons, List.foldl_nil]
      _ = close ']' (.array (itemsAsRead (stack.length + 1) (item :: items)).reverse :: stack) :=
        hitems.step_eq ']' rfl
      _ = _ := close_array _
  | .object [], stack => .of_eq (close_object [])
  | .object ((key, value) :: members), stack => by
    have hmembers := settles_memberChars ((key, value) :: members) (List.cons_ne_nil _ _) stack
      [] ""
    obtain ⟨text, htext⟩ := exists_memberChars_eq_append key value members
    rw [List.append_nil] at hmembers
    refine .of_eq ?_
    calc (Json.object ((key, value) :: members)).chars.foldl step (.reading stack .value)
      _ = (memberChars ((key, value) :: members) ++ ['\x7d']).foldl step
            (.reading (.object [] "" true :: stack) .keyOrClose) := rfl
      _ = step ((memberChars ((key, value) :: members)).foldl step
            (.reading (.object [] "" true :: stack) .key)) '\x7d' := by
        rw [htext, List.append_assoc, foldl_stringChars_keyOrClose, ← List.append_assoc,
          List.foldl_append, List.foldl_cons, List.foldl_nil]
      _ = close '\x7d' (.object (membersAsRead (stack.length + 1)
            ((key, value) :: members)).reverse "" true :: stack) :=
        hmembers.step_eq '\x7d' rfl
      _ = _ := close_object _
  | .unreadable, stack => .of_eq foldl_null

theorem settles_itemChars : (items : List Json) → items ≠ [] → (stack : List Frame) →
    (done : List Json) →
    Settles ((itemChars items).foldl step (.reading (.array done :: stack) .value))
      (.reading (.array ((itemsAsRead (stack.length + 1) items).reverse ++ done) :: stack)
        .commaOrClose)
  | [], hne, stack, done => absurd rfl hne
  | [item], _, stack, done => settles_chars item (.array done :: stack)
  | item :: next :: items, _, stack, done => by
    have hitem := settles_chars item (.array done :: stack)
    have hitems := settles_itemChars (next :: items) (List.cons_ne_nil _ _) stack
      (item.asRead (stack.length + 1) :: done)
    rw [itemChars, List.foldl_append, List.foldl_append, List.foldl_cons, hitem.step_eq ',' rfl,
      List.foldl_nil, itemsAsRead, List.reverse_cons, List.append_assoc, List.singleton_append]
    · exact hitems
    · exact nofun

theorem settles_memberChars : (members : List (String × Json)) → members ≠ [] →
    (stack : List Frame) → (done : List (String × Json)) → (key : String) →
    Settles ((memberChars members).foldl step (.reading (.object done key true :: stack) .key))
      (.reading (.object ((membersAsRead (stack.length + 1) members).reverse ++ done) "" true ::
        stack) .commaOrClose)
  | [], hne, stack, done, _ => absurd rfl hne
  | [(name, value)], _, stack, done, key => by
    have hvalue := settles_chars value (.object done name true :: stack)
    rw [memberChars, List.foldl_append, foldl_stringChars_key]
    exact hvalue
  | (name, value) :: next :: members, _, stack, done, key => by
    have hvalue := settles_chars value (.object done name true :: stack)
    have hmembers := settles_memberChars (next :: members) (List.cons_ne_nil _ _) stack
      ((name, value.asRead (stack.length + 1)) :: done) ""
    rw [memberChars, List.foldl_append, List.foldl_append, List.foldl_append,
      foldl_stringChars_key, List.foldl_cons, hvalue.step_eq ',' rfl, List.foldl_nil,
      membersAsRead, List.reverse_cons, List.append_assoc, List.singleton_append]
    · exact hmembers
    · exact nofun

end

end Scanner

/-- **The text of a value is read to its end.** -/
theorem scan_text (v : Json) : scan v.text = ⟨v.asRead 0, .none⟩ := by
  rw [scan, text, String.toList_ofList, scanChars]
  exact (Scanner.settles_chars v []).finish_eq

/-! ## Nesting -/

mutual

/-- A value with its numbers in stored form and null for what JSON cannot express. -/
def stored : Json → Json
  | .null => .null
  | .bool value => .bool value
  | .number value => value.asRead
  | .string value => .string value
  | .array items => .array (itemsStored items)
  | .object members => .object (membersStored members)
  | .unreadable => .null

/-- The items of an array in their stored form. -/
def itemsStored : List Json → List Json
  | [] => []
  | item :: items => item.stored :: itemsStored items

/-- The members of an object in their stored form. -/
def membersStored : List (String × Json) → List (String × Json)
  | [] => []
  | (key, value) :: members => (key, value.stored) :: membersStored members

end

mutual

/-- What does not nest past the limit is read as it is stored. -/
theorem asRead_of_depth : (v : Json) → {level : Nat} → level + v.depth ≤ nestingLimit →
    v.asRead level = v.stored
  | .null, _, _ | .bool _, _, _ | .number _, _, _ | .string _, _, _ | .unreadable, _, _ => rfl
  | .array items, level, h => by
    rw [depth] at h
    have hlevel : level < nestingLimit := by omega
    rw [asRead, if_pos hlevel, stored, itemsAsRead_of_depth items (by omega)]
  | .object members, level, h => by
    rw [depth] at h
    have hlevel : level < nestingLimit := by omega
    rw [asRead, if_pos hlevel, stored, membersAsRead_of_depth members (by omega)]

theorem itemsAsRead_of_depth : (items : List Json) → {level : Nat} →
    level + depthOfItems items ≤ nestingLimit → itemsAsRead level items = itemsStored items
  | [], _, _ => rfl
  | item :: items, _, h => by
    rw [depthOfItems] at h
    rw [itemsAsRead, itemsStored, asRead_of_depth item (by omega),
      itemsAsRead_of_depth items (by omega)]

theorem membersAsRead_of_depth : (members : List (String × Json)) → {level : Nat} →
    level + depthOfMembers members ≤ nestingLimit →
    membersAsRead level members = membersStored members
  | [], _, _ => rfl
  | (_, value) :: members, _, h => by
    rw [depthOfMembers] at h
    rw [membersAsRead, membersStored, asRead_of_depth value (by omega),
      membersAsRead_of_depth members (by omega)]

end

mutual

/-- What is read is readable if it does not nest past the limit. -/
theorem isReadable_asRead : (v : Json) → {level : Nat} → level ≤ nestingLimit →
    ((v.asRead level).isReadable = true ↔ level + v.depth ≤ nestingLimit)
  | .null, _, h => ⟨fun _ ↦ h, fun _ ↦ rfl⟩
  | .bool _, _, h => ⟨fun _ ↦ h, fun _ ↦ rfl⟩
  | .number n, _, h => by
    refine ⟨fun _ ↦ h, fun _ ↦ ?_⟩
    rw [asRead, Number.asRead]
    split <;> rfl
  | .string _, _, h => ⟨fun _ ↦ h, fun _ ↦ rfl⟩
  | .array items, level, h => by
    rw [asRead, depth]
    split
    · rename_i hlevel
      rw [isReadable, areReadable_itemsAsRead items hlevel]
      omega
    · rename_i hlevel
      exact ⟨nofun, fun hdepth ↦ by omega⟩
  | .object members, level, h => by
    rw [asRead, depth]
    split
    · rename_i hlevel
      rw [isReadable, haveReadable_membersAsRead members hlevel]
      omega
    · rename_i hlevel
      exact ⟨nofun, fun hdepth ↦ by omega⟩
  | .unreadable, _, h => ⟨fun _ ↦ h, fun _ ↦ rfl⟩

theorem areReadable_itemsAsRead : (items : List Json) → {level : Nat} → level ≤ nestingLimit →
    (areReadable (itemsAsRead level items) = true ↔ level + depthOfItems items ≤ nestingLimit)
  | [], _, h => ⟨fun _ ↦ h, fun _ ↦ rfl⟩
  | item :: items, _, h => by
    rw [itemsAsRead, areReadable, depthOfItems, Bool.and_eq_true, isReadable_asRead item h,
      areReadable_itemsAsRead items h]
    omega

theorem haveReadable_membersAsRead : (members : List (String × Json)) → {level : Nat} →
    level ≤ nestingLimit →
    (haveReadable (membersAsRead level members) = true ↔
      level + depthOfMembers members ≤ nestingLimit)
  | [], _, h => ⟨fun _ ↦ h, fun _ ↦ rfl⟩
  | (_, value) :: members, _, h => by
    rw [membersAsRead, haveReadable, depthOfMembers, Bool.and_eq_true, isReadable_asRead value h,
      haveReadable_membersAsRead members h]
    omega

end

end Json
end Sift
