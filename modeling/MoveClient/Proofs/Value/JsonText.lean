import Mathlib.Data.List.Basic
import MoveClient.Value.JsonText

/-!
JSON objects of plain texts.

Owns:
- `JsonText.IsPlain`, and that a plain text is printed as it is and read back;
- that an object of plain texts is read back from its printed form.

Does not own: texts with characters that are escaped, and values of other kinds.
-/

namespace MoveClient

namespace JsonText

/-- The character is printed in a string as it is. -/
def IsPlainCharacter (c : Char) : Prop :=
  c ≠ '"' ∧ c ≠ '\\' ∧ 0x20 ≤ c.toNat ∧ c.toNat < 0x7f

/-- All characters of the text are printed as they are. -/
def IsPlain (s : String) : Prop :=
  ∀ c ∈ s.toList, IsPlainCharacter c

instance : DecidablePred IsPlainCharacter :=
  fun _ => inferInstanceAs (Decidable (_ ∧ _))

-- Over the characters of the text, not over all characters there are.
instance : DecidablePred IsPlain :=
  fun s => List.decidableBAll IsPlainCharacter s.toList

theorem isPlain_append_iff {left right : String} :
    IsPlain (left ++ right) ↔ IsPlain left ∧ IsPlain right := by
  simp only [IsPlain, String.toList_append, List.mem_append, or_imp, forall_and]

/-! ## Strings -/

theorem IsPlainCharacter.escape {c : Char} (plain : IsPlainCharacter c) : escape c = [c] := by
  obtain ⟨notQuote, notBackslash, printable⟩ := plain
  have other {d : Char} (control : d.toNat < 0x20) : c ≠ d := by
    rintro rfl
    omega
  rw [JsonText.escape, if_neg (not_or.mpr ⟨notQuote, notBackslash⟩), if_neg (other (by decide)),
    if_neg (other (by decide)), if_neg (other (by decide)), if_neg (other (by decide)),
    if_neg (other (by decide)), if_pos printable]

theorem toList_printedString {s : String} (plain : IsPlain s) :
    (printedString s).toList = '"' :: (s.toList ++ ['"']) := by
  have escaped : s.toList.flatMap escape = s.toList := by
    rw [List.flatMap_congr fun c member => (plain c member).escape]
    exact List.flatMap_singleton' _
  rw [printedString, String.toList_ofList, escaped, List.cons_append]

theorem stringParts_plain
    {characters : List Char}
    (plain : ∀ c ∈ characters, IsPlainCharacter c)
    (rest : List Char) :
    stringParts (characters ++ '"' :: rest) = .ok (characters.map .character, rest) := by
  induction characters with
  | nil => rfl
  | cons c characters inductionHypothesis =>
      obtain ⟨⟨notQuote, notBackslash, printable, _⟩, others⟩ := List.forall_mem_cons.mp plain
      rw [List.cons_append, stringParts, if_neg (Nat.not_lt.mpr printable),
        inductionHypothesis others]
      · rfl
      · exact notQuote
      · rintro _ _ _ _ _ rfl
        exact absurd rfl notBackslash
      · rintro _ _ rfl
        exact absurd rfl notBackslash

theorem joinUnits_characters (characters : List Char) :
    joinUnits (characters.map .character) = characters.map .character := by
  induction characters with
  | nil => rfl
  | cons c characters inductionHypothesis =>
      exact congrArg (CodePoint.character c :: ·) inductionHypothesis

/-- A plain text is read up to the quotation mark behind it. -/
theorem string_plain
    {s : String}
    (plain : IsPlain s)
    (rest : List Char) :
    string (s.toList ++ '"' :: rest) = .ok (.text s, rest) := by
  rw [string, stringParts_plain plain]
  show Except.ok (Value.ofCodePoints (joinUnits (s.toList.map .character)), rest) = _
  rw [joinUnits_characters, Value.ofCodePoints_characters]

/-! ## Objects -/

@[simp] theorem skipBlanks_blank (rest : List Char) : skipBlanks (' ' :: rest) = skipBlanks rest :=
  rfl

theorem skipBlanks_cons
    {c : Char}
    (solid : c ∉ [' ', '\t', '\n', '\r'])
    (rest : List Char) :
    skipBlanks (c :: rest) = c :: rest := by
  simp only [List.mem_cons, List.not_mem_nil, or_false, not_or] at solid
  rw [skipBlanks, List.dropWhile_cons_of_neg]
  simp [solid]

/-- Name and text of an entry. -/
abbrev Field := String × String

/-- The entry in an object. -/
def Field.entry (field : Field) : Value × Value :=
  (.text field.1, .text field.2)

/-- Name and text are plain. -/
def Field.IsPlain (field : Field) : Prop :=
  JsonText.IsPlain field.1 ∧ JsonText.IsPlain field.2

instance : DecidablePred Field.IsPlain :=
  fun _ => inferInstanceAs (Decidable (_ ∧ _))

/-- The printed form of a field in front of the rest. -/
def Field.printed (field : Field) (rest : List Char) : List Char :=
  '"' :: (field.1.toList ++ '"' :: ':' :: ' ' :: '"' :: (field.2.toList ++ '"' :: rest))

/-- Fields with a comma and a blank between them, in front of the rest. -/
def printedFields (first : Field) : List Field → List Char → List Char
  | [], rest => first.printed rest
  | next :: others, rest => first.printed (',' :: ' ' :: printedFields next others rest)

theorem skipBlanks_printedFields (first : Field) (others : List Field) (rest : List Char) :
    skipBlanks (printedFields first others rest) = printedFields first others rest := by
  cases others <;> exact skipBlanks_cons (by decide) _

variable {first : Field} {others : List Field} {rest : List Char}

theorem value_quoted
    {s : String}
    (plain : IsPlain s)
    (fuel : Nat)
    (rest : List Char) :
    value (fuel + 1) ('"' :: (s.toList ++ '"' :: rest)) = .ok (.text s, rest) := by
  rw [value]
  exact string_plain plain rest

/-- All fields are read up to the closing brace. -/
theorem entries_printedFields
    (plain : ∀ field ∈ first :: others, field.IsPlain)
    (fuel : Nat) :
    entries (fuel + others.length + 2) (printedFields first others ('\x7d' :: rest)) =
      .ok ((first :: others).map Field.entry, rest) := by
  have colon := skipBlanks_cons (by decide : ':' ∉ _)
  have quote := skipBlanks_cons (by decide : '"' ∉ _)
  induction others generalizing first with
  | nil =>
      have firstPlain := plain first (List.mem_cons_self ..)
      have brace := skipBlanks_cons (by decide : '\x7d' ∉ _)
      rw [printedFields, Field.printed, entries]
      simp only [string_plain firstPlain.1, Error.ok_bind, colon, skipBlanks_blank, quote,
        value_quoted firstPlain.2, brace]
      rfl
  | cons next others inductionHypothesis =>
      obtain ⟨firstPlain, othersPlain⟩ := List.forall_mem_cons.mp plain
      have comma := skipBlanks_cons (by decide : ',' ∉ _)
      rw [List.length_cons, ← Nat.add_assoc, printedFields, Field.printed, entries]
      simp only [string_plain firstPlain.1, Error.ok_bind, colon, skipBlanks_blank, quote,
        value_quoted firstPlain.2, comma, skipBlanks_printedFields, inductionHypothesis othersPlain]
      rfl

theorem toList_joined_jsonEntries
    (plain : ∀ field ∈ first :: others, field.IsPlain) :
    (Value.joined (Value.jsonEntries ((first :: others).map Field.entry))).toList ++ rest =
      printedFields first others rest := by
  have printed {field : Field} (fieldPlain : field.IsPlain) (more : List Char) :
      (Value.json (.text field.1) ++ ": " ++ Value.json (.text field.2)).toList ++ more =
        field.printed more := by
    simp [Value.json, toList_printedString fieldPlain.1, toList_printedString fieldPlain.2,
      Field.printed]
  induction others generalizing first with
  | nil =>
      rw [printedFields, ← printed (plain first (List.mem_cons_self ..))]
      simp [Value.jsonEntries, Value.joined, Field.entry]
  | cons next others inductionHypothesis =>
      obtain ⟨firstPlain, othersPlain⟩ := List.forall_mem_cons.mp plain
      rw [printedFields, ← printed firstPlain, ← inductionHypothesis othersPlain]
      simp [Value.jsonEntries, Value.joined, Field.entry, String.intercalate_cons_cons]

theorem length_printedFields (first : Field) (others : List Field) (rest : List Char) :
    others.length + 1 ≤ (printedFields first others rest).length := by
  induction others generalizing first with
  | nil => simp [printedFields, Field.printed]
  | cons next others inductionHypothesis =>
      have shorter := inductionHypothesis next
      simp only [printedFields, Field.printed, List.length_cons, List.length_append]
      omega

theorem value_printedFields
    (plain : ∀ field ∈ first :: others, field.IsPlain)
    (fuel : Nat) :
    value (fuel + others.length + 3) ('\x7b' :: printedFields first others ('\x7d' :: rest)) =
      .ok (.map (Value.entriesOf ((first :: others).map Field.entry)), rest) := by
  have opened : value (fuel + others.length + 3)
      ('\x7b' :: printedFields first others ('\x7d' :: rest)) =
        (entries (fuel + others.length + 2) (printedFields first others ('\x7d' :: rest))).map
          fun scanned => (.map (Value.entriesOf scanned.1), scanned.2) := by
    rw [value]
    simp only [skipBlanks_printedFields]
    cases others <;> rfl
  rw [opened, entries_printedFields plain]
  rfl

end JsonText

/-- An object of plain texts is read back. -/
theorem Value.ofJson_json
    {fields : List JsonText.Field}
    (plain : ∀ field ∈ fields, field.IsPlain) :
    ofJson (Value.map (fields.map JsonText.Field.entry)).json =
      .ok (.map (entriesOf (fields.map JsonText.Field.entry))) := by
  cases fields with
  | nil => rfl
  | cons first others =>
      have printed : (Value.map ((first :: others).map JsonText.Field.entry)).json.toList =
          '\x7b' :: JsonText.printedFields first others ['\x7d'] := by
        rw [← JsonText.toList_joined_jsonEntries plain]
        simp [json]
      have long := JsonText.length_printedFields first others ['\x7d']
      obtain ⟨fuel, fuelEq⟩ := Nat.exists_eq_add_of_le'
        (show others.length + 3 ≤
          2 * (JsonText.printedFields first others ['\x7d']).length + 4 by omega)
      have skipped : JsonText.skipBlanks
          ('\x7b' :: JsonText.printedFields first others ['\x7d']) =
            '\x7b' :: JsonText.printedFields first others ['\x7d'] :=
        JsonText.skipBlanks_cons (by decide) _
      rw [ofJson, printed, skipped, List.length_cons, Nat.mul_add, fuelEq, ← Nat.add_assoc,
        JsonText.value_printedFields plain]
      rfl

end MoveClient
