import Mathlib.Data.List.Basic
import MoveClient.Argument.Coercion

/-!
Texts that spell integers.

Owns:
- `Numeral.Digits`, which says of characters and digits, without reading them, that the characters
  are the digits with single underscores between them;
- `Value.SpellsInteger`, which says so of a value and an integer;
- that a value is read as the integer that it spells, and that too many decimal digits are refused.

Does not own: texts that are accepted though they spell no integer by these rules.
-/

namespace MoveClient

variable {base : Numeral.Base} {c : Char} {digit : Nat}

/-! ## Characters of numerals -/

theorem not_isBlank_of_decimalDigitValue?
    (valued : decimalDigitValue? c = some digit) :
    isBlank c = false := by
  have apart : ∀ start ∈ decimalZeros, ∀ offset : Fin 10,
      isBlank (Char.ofNat (start + offset)) = false := by
    decide +kernel
  obtain ⟨start, found, _⟩ := Option.map_eq_some_iff.mp valued
  have inRange := List.find?_some found
  simp only [Bool.and_eq_true, decide_eq_true_eq] at inRange
  have offsetLt : c.toNat - start < 10 := by omega
  have notBlank := apart start (List.mem_of_find?_eq_some found) ⟨c.toNat - start, offsetLt⟩
  have codeEq : start + (c.toNat - start) = c.toNat := by omega
  rw [show (start + ((⟨c.toNat - start, offsetLt⟩ : Fin 10) : Nat)) = c.toNat from codeEq,
    Char.ofNat_toNat] at notBlank
  exact notBlank

theorem not_isBlank_of_hexDigitValue?
    (valued : hexDigitValue? c = some digit) :
    isBlank c = false := by
  have order (left right : Char) : left ≤ right ↔ left.toNat ≤ right.toNat := Iff.rfl
  have inRange : (48 ≤ c.toNat ∧ c.toNat ≤ 57) ∨ (97 ≤ c.toNat ∧ c.toNat ≤ 102) ∨
      (65 ≤ c.toNat ∧ c.toNat ≤ 70) := by
    simp only [hexDigitValue?, order, Char.reduceToNat] at valued
    by_contra outside
    rw [if_neg (by omega), if_neg (by omega), if_neg (by omega)] at valued
    cases valued
  simp only [isBlank, Bool.or_eq_false_iff, Bool.and_eq_false_iff, decide_eq_false_iff_not,
    beq_eq_false_iff_ne]
  omega

namespace Numeral

theorem not_isBlank_of_digitValue?
    (valued : base.digitValue? c = some digit) :
    isBlank c = false := by
  cases base with
  | decimal => exact not_isBlank_of_decimalDigitValue? valued
  | hexadecimal =>
      cases hexadecimal : hexDigitValue? c with
      | some other => exact not_isBlank_of_hexDigitValue? hexadecimal
      | none =>
          rw [Base.digitValue?, hexadecimal] at valued
          exact not_isBlank_of_decimalDigitValue? valued

/-- Neither signs, nor markers, nor underscores are digits. -/
theorem digitValue?_mark
    (base : Base)
    (isMark : c ∈ ['-', '+', 'x', 'X', '_']) :
    base.digitValue? c = none := by
  have noDigits : (['-', '+', 'x', 'X', '_'].all fun c => (base.digitValue? c).isNone) = true := by
    cases base <;> decide +kernel
  exact Option.isNone_iff_eq_none.mp (List.all_eq_true.mp noDigits c isMark)

/-- The characters are the digits, one behind the other, but for single underscores between two. -/
inductive Digits (base : Base) : List Char → List Nat → Prop where
  | last {c : Char} {digit : Nat}
      (valued : base.digitValue? c = some digit) :
      Digits base [c] [digit]
  | next {c : Char} {digit : Nat} {text : List Char} {digits : List Nat}
      (valued : base.digitValue? c = some digit)
      (others : Digits base text digits) :
      Digits base (c :: text) (digit :: digits)
  | underscore {c : Char} {digit : Nat} {text : List Char} {digits : List Nat}
      (valued : base.digitValue? c = some digit)
      (others : Digits base text digits) :
      Digits base (c :: '_' :: text) (digit :: digits)

/-- A sign in front of digits. -/
inductive Sign where
  | none
  | plus
  | minus

namespace Sign

/-- How the sign is written. -/
def characters : Sign → List Char
  | none => []
  | plus => ['+']
  | minus => ['-']

/-- The integer of the magnitude with the sign. -/
def apply : Sign → Nat → Int
  | none, magnitude | plus, magnitude => magnitude
  | minus, magnitude => -magnitude

/-- Whether the integers with the sign are below zero. -/
def isMinus : Sign → Bool
  | minus => true
  | _ => false

theorem not_mem_of_marker
    (sign : Sign)
    (isMarker : c ∈ ['x', 'X']) :
    c ∉ sign.characters := by
  obtain isX | isX : c = 'x' ∨ c = 'X' := by simpa using isMarker
  all_goals rw [isX]; cases sign <;> decide

theorem not_isBlank
    {sign : Sign}
    (member : c ∈ sign.characters) :
    isBlank c = false := by
  cases sign with
  | none => cases member
  | plus | minus =>
      rw [List.mem_singleton.mp member]
      decide

end Sign

namespace Digits

variable {text : List Char} {digits : List Nat}

theorem character
    (spelled : Digits base text digits)
    (member : c ∈ text) :
    c = '_' ∨ ∃ digit, base.digitValue? c = some digit := by
  induction spelled with
  | last valued =>
      rw [List.mem_singleton.mp member]
      exact .inr ⟨_, valued⟩
  | next valued _ inductionHypothesis =>
      obtain isFirst | inRest := List.mem_cons.mp member
      · rw [isFirst]
        exact .inr ⟨_, valued⟩
      · exact inductionHypothesis inRest
  | underscore valued _ inductionHypothesis =>
      obtain isFirst | inRest := List.mem_cons.mp member
      · rw [isFirst]
        exact .inr ⟨_, valued⟩
      · obtain isUnderscore | inRest := List.mem_cons.mp inRest
        · exact .inl isUnderscore
        · exact inductionHypothesis inRest

theorem not_isBlank
    (spelled : Digits base text digits)
    (member : c ∈ text) :
    isBlank c = false := by
  obtain isUnderscore | ⟨digit, valued⟩ := spelled.character member
  · rw [isUnderscore]
    decide
  · exact not_isBlank_of_digitValue? valued

/-- No sign and no marker is among the characters. -/
theorem not_mem_of_mark
    (spelled : Digits base text digits)
    (isMark : c ∈ ['-', '+', 'x', 'X']) :
    c ∉ text := by
  intro member
  obtain isUnderscore | ⟨digit, valued⟩ := spelled.character member
  · subst isUnderscore
    exact absurd isMark (by decide)
  · have isAnyMark : c ∈ ['-', '+', 'x', 'X', '_'] := List.mem_append_left ['_'] isMark
    rw [digitValue?_mark base isAnyMark] at valued
    cases valued

theorem ne_underscore
    (valued : base.digitValue? c = some digit) :
    c ≠ '_' := by
  intro isUnderscore
  subst isUnderscore
  rw [digitValue?_mark base (by decide)] at valued
  cases valued

/-- Digits are read as they are, whether another digit is in front of them or not. -/
theorem digits?_eq
    (spelled : Digits base text digits)
    (afterDigit : Bool) :
    digits? base afterDigit text = some digits := by
  induction spelled generalizing afterDigit with
  | last valued => simp [digits?, valued, ne_underscore valued]
  | next valued _ inductionHypothesis =>
      simp [digits?, valued, ne_underscore valued, inductionHypothesis]
  | underscore valued _ inductionHypothesis =>
      simp [digits?, valued, ne_underscore valued, inductionHypothesis]

/-- Digits with zeros in front of them. -/
theorem zeros
    (count : Nat)
    (spelled : Digits .decimal text digits) :
    Digits .decimal (List.replicate count '0' ++ text) (List.replicate count 0 ++ digits) := by
  induction count with
  | zero => exact spelled
  | succ count inductionHypothesis => exact .next (by decide) inductionHypothesis

end Digits

/-! ## Reading -/

theorem dropWhile_before
    {dropped : Char → Bool}
    {before core after : List Char}
    (inFront : ∀ c ∈ before, dropped c = true)
    (inside : ∀ c ∈ core, dropped c = false)
    (nonempty : core ≠ []) :
    (before ++ (core ++ after)).dropWhile dropped = core ++ after := by
  rw [List.dropWhile_append_of_pos inFront]
  cases core with
  | nil => exact absurd rfl nonempty
  | cons c rest =>
      have kept := inside c List.mem_cons_self
      exact List.dropWhile_cons_of_neg (by simp [kept])

/-- What is left of text when characters around it are dropped that do not occur in it. -/
theorem trimmed_eq
    {dropped : Char → Bool}
    {before core after : List Char}
    (inFront : ∀ c ∈ before, dropped c = true)
    (inside : ∀ c ∈ core, dropped c = false)
    (behind : ∀ c ∈ after, dropped c = true) :
    (((before ++ (core ++ after)).dropWhile dropped).reverse.dropWhile dropped).reverse = core := by
  by_cases empty : core = []
  · subst empty
    have allDropped : (before ++ ([] ++ after)).dropWhile dropped = [] := by
      rw [List.dropWhile_append_of_pos inFront, List.nil_append, ← List.append_nil after,
        List.dropWhile_append_of_pos behind]
      rfl
    rw [allDropped]
    rfl
  · have insideReversed : ∀ c ∈ core.reverse, dropped c = false :=
      fun c member => inside c (List.mem_reverse.mp member)
    have behindReversed : ∀ c ∈ after.reverse, dropped c = true :=
      fun c member => behind c (List.mem_reverse.mp member)
    have nonempty : core.reverse ≠ [] := fun nil => empty (List.reverse_eq_nil_iff.mp nil)
    have backDropped :
        (after.reverse ++ (core.reverse ++ [])).dropWhile dropped = core.reverse ++ [] :=
      dropWhile_before behindReversed insideReversed nonempty
    rw [List.append_nil] at backDropped
    rw [dropWhile_before inFront inside empty, List.reverse_append, backDropped,
      List.reverse_reverse]

theorem splitSign_eq
    {text : List Char}
    (sign : Sign)
    (noSign : ∀ c ∈ ['-', '+'], c ∉ text) :
    splitSign (sign.characters ++ text) = (sign.isMinus, text) := by
  cases sign with
  | minus | plus => rfl
  | none =>
      show splitSign text = (false, text)
      unfold splitSign
      split
      · exact absurd List.mem_cons_self (noSign '-' (by decide))
      · exact absurd List.mem_cons_self (noSign '+' (by decide))
      · rfl

theorem not_isMarker
    {x : Char}
    {rest : List Char}
    (noMarker : ∀ c ∈ ['x', 'X'], c ∉ '0' :: x :: rest) :
    ¬ (x = 'x' ∨ x = 'X') := by
  have isInside : x ∈ '0' :: x :: rest := List.mem_cons_of_mem _ List.mem_cons_self
  intro isMarker
  obtain isMarker | isMarker := isMarker <;> subst isMarker
  · exact noMarker 'x' (by decide) isInside
  · exact noMarker 'X' (by decide) isInside

theorem dropMarker_eq
    {text : List Char}
    (noMarker : ∀ c ∈ ['x', 'X'], c ∉ text) :
    dropMarker base text = text := by
  unfold dropMarker
  split
  · rfl
  · rw [if_neg (not_isMarker noMarker)]
  · rfl

/-- Digits behind a sign are read as the integer that they spell, unless there are too many of base
ten. -/
theorem read?_eq
    {text : List Char}
    {digits : List Nat}
    (sign : Sign)
    (spelled : Digits base text digits) :
    read? base (sign.characters ++ text) =
      if base = .decimal ∧ maxDecimalDigits < digits.length then none
      else some (sign.apply (ofDigits base.radix digits)) := by
  have notPadding : ∀ c ∈ sign.characters ++ text, isPadding c = false := by
    intro c member
    obtain inSign | inText := List.mem_append.mp member
    · rw [isPadding, Sign.not_isBlank inSign, Bool.false_and]
    · rw [isPadding, spelled.not_isBlank inText, Bool.false_and]
  have inner := @trimmed_eq isPadding [] (sign.characters ++ text) [] (List.forall_mem_nil _)
    notPadding (List.forall_mem_nil _)
  rw [List.nil_append, List.append_nil] at inner
  have split := splitSign_eq sign fun c isSign =>
    spelled.not_mem_of_mark (List.mem_append_left ['x', 'X'] isSign)
  have whole := @dropMarker_eq base text fun c isMarker =>
    spelled.not_mem_of_mark (List.mem_append_right ['-', '+'] isMarker)
  unfold read?
  rw [inner]
  simp only [split, whole, spelled.digits?_eq]
  congr 2
  cases sign <;> rfl

end Numeral

/-! ## Integers in values -/

/-- The text is the characters with nothing but blanks around them. -/
def IsPadded (s : String) (core : List Char) : Prop :=
  ∃ before after, (∀ c ∈ before, isBlank c = true) ∧ (∀ c ∈ after, isBlank c = true) ∧
    s.toList = before ++ (core ++ after)

theorem IsPadded.trimBlanks_eq
    {s : String}
    {core : List Char}
    (padded : IsPadded s core)
    (inside : ∀ c ∈ core, isBlank c = false) :
    trimBlanks s.toList = core := by
  obtain ⟨before, after, inFront, behind, textEq⟩ := padded
  rw [textEq]
  exact Numeral.trimmed_eq inFront inside behind

namespace Value

open Numeral

/-- The value is the integer, or text that spells it: with a sign or without and digits of base ten,
or, if it is not below zero, with a marker and digits of base sixteen. -/
inductive SpellsInteger : Value → Int → Prop where
  | number (number : Int) : SpellsInteger (.int number) number
  | decimal {s : String} {text : List Char} {digits : List Nat}
      (sign : Sign)
      (padded : IsPadded s (sign.characters ++ text))
      (spelled : Digits .decimal text digits)
      (few : digits.length ≤ maxDecimalDigits) :
      SpellsInteger (.text s) (sign.apply (ofDigits 10 digits))
  | hexadecimal {s : String} {x : Char} {text : List Char} {digits : List Nat}
      (isMarker : x = 'x' ∨ x = 'X')
      (padded : IsPadded s ('0' :: x :: text))
      (spelled : Digits .hexadecimal text digits) :
      SpellsInteger (.text s) (ofDigits 16 digits)

variable {s : String} {text : List Char} {digits : List Nat}

theorem integerOfText?_decimal
    {sign : Sign}
    (padded : IsPadded s (sign.characters ++ text))
    (spelled : Digits .decimal text digits) :
    integerOfText? s =
      if maxDecimalDigits < digits.length then none
      else some (sign.apply (ofDigits 10 digits)) := by
  have inside : ∀ c ∈ sign.characters ++ text, isBlank c = false := by
    intro c member
    obtain inSign | inText := List.mem_append.mp member
    · exact Sign.not_isBlank inSign
    · exact spelled.not_isBlank inText
  have noMarker : ∀ c ∈ ['x', 'X'], c ∉ sign.characters ++ text := by
    intro c isMarker member
    obtain inSign | inText := List.mem_append.mp member
    · exact sign.not_mem_of_marker isMarker inSign
    · exact spelled.not_mem_of_mark (List.mem_append_right ['-', '+'] isMarker) inText
  rw [integerOfText?, padded.trimBlanks_eq inside]
  have read := read?_eq sign spelled
  simp only [true_and] at read
  generalize sign.characters ++ text = core at noMarker read ⊢
  split
  · rw [if_neg (not_isMarker noMarker), read]
    rfl
  · exact read

theorem integerOfText?_hexadecimal
    {x : Char}
    (isMarker : x = 'x' ∨ x = 'X')
    (padded : IsPadded s ('0' :: x :: text))
    (spelled : Digits .hexadecimal text digits) :
    integerOfText? s = some (ofDigits 16 digits : Int) := by
  have inside : ∀ c ∈ '0' :: x :: text, isBlank c = false := by
    intro c member
    obtain isZero | member := List.mem_cons.mp member
    · rw [isZero]
      decide
    obtain isX | inText := List.mem_cons.mp member
    · rw [isX]
      obtain isMarker | isMarker := isMarker <;> rw [isMarker] <;> decide
    · exact spelled.not_isBlank inText
  rw [integerOfText?, padded.trimBlanks_eq inside]
  have read := read?_eq Sign.none spelled
  rw [if_neg (fun both => nomatch both.1)] at read
  simp only [if_pos isMarker]
  exact read

/-- A value is read as the integer that it spells. -/
theorem SpellsInteger.toInteger_eq
    {value : Value}
    {number : Int}
    (spells : value.SpellsInteger number)
    (expected : String) :
    value.toInteger expected = .ok number := by
  cases spells with
  | number => rfl
  | decimal sign padded spelled few =>
      rw [toInteger, integerOfText?_decimal padded spelled, if_neg (Nat.not_lt_of_le few)]
  | hexadecimal isMarker padded spelled =>
      rw [toInteger, integerOfText?_hexadecimal isMarker padded spelled]

end Value

end MoveClient
