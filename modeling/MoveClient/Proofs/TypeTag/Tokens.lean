import Mathlib.Data.List.TakeWhile
import MoveClient.TypeTag.Parser

/-!
The tokens of written types.

Owns:
- `TypeToken`, the words and marks that types are written with;
- `Tokenizes`, which says that a text consists of tokens, with blanks around and between them,
  and that every word reaches as far as it can;
- `Begins`, which says the same of the front of a text, whatever follows;
- how the readers of single tokens meet it.

Does not own: which tokens make up a type.
-/

namespace MoveClient

/-- A word or a mark of a written type. -/
inductive TypeToken where
  | word (characters : List Char)
  | colons
  | comma
  | opening
  | closing
  | ampersand
deriving DecidableEq, Repr

namespace TypeToken

/-- The characters of a token. -/
def characters : TypeToken → List Char
  | .word characters => characters
  | .colons => [':', ':']
  | .comma => [',']
  | .opening => ['<']
  | .closing => ['>']
  | .ampersand => ['&']

/-- A word has characters, all of them letters, digits or underscores, and the text behind it does
not go on with such a character. A mark asks for nothing. -/
def EndsBefore (rest : List Char) : TypeToken → Prop
  | .word characters =>
      characters ≠ [] ∧ (∀ c ∈ characters, isTokenCharacter c = true) ∧
        ∀ c ∈ rest.head?, isTokenCharacter c = false
  | _ => True

end TypeToken

/-- The text is made of the tokens, each as long as it can be, and of blanks around them. -/
def Tokenizes (text : List Char) : List TypeToken → Prop
  | [] => ∀ c ∈ text, isBlank c = true
  | token :: tokens =>
      ∃ blanks rest, (∀ c ∈ blanks, isBlank c = true) ∧ text = blanks ++ (token.characters ++ rest) ∧
        token.EndsBefore rest ∧ Tokenizes rest tokens

namespace TypeTag

variable {text rest : List Char} {token : TypeToken} {tokens : List TypeToken}

/-! ## Blanks -/

/-- No character of a word is blank. -/
theorem not_isBlank_of_isTokenCharacter
    {c : Char}
    (inWord : isTokenCharacter c = true) :
    isBlank c = false := by
  have order (left right : Char) : left ≤ right ↔ left.toNat ≤ right.toNat := Iff.rfl
  simp only [isTokenCharacter, order, Char.reduceToNat, Bool.or_eq_true, Bool.and_eq_true,
    decide_eq_true_eq, beq_iff_eq, ← Char.toNat_inj] at inWord
  simp only [isBlank, Bool.or_eq_false_iff, Bool.and_eq_false_iff, decide_eq_false_iff_not,
    beq_eq_false_iff_ne]
  omega

theorem skipBlanks_append
    {blanks : List Char}
    (allBlank : ∀ c ∈ blanks, isBlank c = true)
    (text : List Char) :
    skipBlanks (blanks ++ text) = skipBlanks text :=
  List.dropWhile_append_of_pos allBlank

theorem exists_skipBlanks (text : List Char) :
    ∃ blanks, (∀ c ∈ blanks, isBlank c = true) ∧ text = blanks ++ skipBlanks text :=
  ⟨text.takeWhile isBlank, fun _ member => List.mem_takeWhile_imp member,
    List.takeWhile_append_dropWhile.symm⟩

@[simp] theorem skipBlanks_skipBlanks (text : List Char) :
    skipBlanks (skipBlanks text) = skipBlanks text := by
  obtain ⟨blanks, allBlank, textEq⟩ := exists_skipBlanks text
  have skipped := skipBlanks_append allBlank (skipBlanks text)
  rw [← textEq] at skipped
  exact skipped.symm

/-- What begins with a token begins with no blank. -/
theorem skipBlanks_characters
    (ends : token.EndsBefore rest) :
    skipBlanks (token.characters ++ rest) = token.characters ++ rest := by
  cases token with
  | word characters =>
      obtain ⟨nonempty, inWord, _⟩ := ends
      match characters, nonempty, inWord with
      | c :: characters, _, inWord =>
          have notBlank := not_isBlank_of_isTokenCharacter (inWord c List.mem_cons_self)
          exact List.dropWhile_cons_of_neg (by simp [notBlank])
  | colons | comma | opening | closing | ampersand => rfl

/-! ## Tokens in front of a text -/

/-- The token stands in front of the text, behind blanks if there are any, and `rest` follows. -/
def Leads (token : TypeToken) (text rest : List Char) : Prop :=
  skipBlanks text = token.characters ++ rest ∧ token.EndsBefore rest

theorem tokenizes_nil_iff : Tokenizes text [] ↔ skipBlanks text = [] :=
  List.dropWhile_eq_nil_iff.symm

theorem tokenizes_cons_iff :
    Tokenizes text (token :: tokens) ↔ ∃ rest, Leads token text rest ∧ Tokenizes rest tokens := by
  apply Iff.intro
  · intro given
    rcases given with ⟨blanks, rest, allBlank, textEq, ends, restTokens⟩
    refine ⟨rest, ⟨?_, ends⟩, restTokens⟩
    rw [textEq, skipBlanks_append allBlank, skipBlanks_characters ends]
  · intro given
    rcases given with ⟨rest, ⟨front, ends⟩, restTokens⟩
    obtain ⟨blanks, allBlank, textEq⟩ := exists_skipBlanks text
    exact ⟨blanks, rest, allBlank, front ▸ textEq, ends, restTokens⟩

/-- Blanks in front do not matter. -/
theorem leads_iff_of_skipBlanks_eq
    {other : List Char}
    (same : skipBlanks text = skipBlanks other) :
    Leads token text rest ↔ Leads token other rest := by
  rw [Leads, same, Leads]

theorem leads_skipBlanks_iff : Leads token (skipBlanks text) rest ↔ Leads token text rest :=
  leads_iff_of_skipBlanks_eq (skipBlanks_skipBlanks text)

@[simp] theorem tokenizes_skipBlanks_iff :
    Tokenizes (skipBlanks text) tokens ↔ Tokenizes text tokens := by
  cases tokens with
  | nil => rw [tokenizes_nil_iff, skipBlanks_skipBlanks, tokenizes_nil_iff]
  | cons token tokens => simp only [tokenizes_cons_iff, leads_skipBlanks_iff]

/-- The characters of a token stand in the text. -/
theorem length_characters_le_of_tokenizes
    (tokenized : Tokenizes text tokens)
    (member : token ∈ tokens) :
    token.characters.length ≤ text.length := by
  induction tokens generalizing text with
  | nil => cases member
  | cons first tokens inductionHypothesis =>
      obtain ⟨blanks, rest, _, rfl, _, restTokens⟩ := tokenized
      simp only [List.length_append]
      rcases List.mem_cons.mp member with rfl | member
      · omega
      · have inRest := inductionHypothesis restTokens member
        omega

theorem characters_ne_nil
    (ends : token.EndsBefore rest) :
    token.characters ≠ [] := by
  cases token with
  | word characters => exact ends.1
  | colons | comma | opening | closing | ampersand => nofun

theorem Leads.skipBlanks_ne_nil
    (leads : Leads token text rest) :
    skipBlanks text ≠ [] := by
  intro empty
  have front := leads.1
  rw [empty] at front
  exact characters_ne_nil leads.2 (List.append_eq_nil_iff.mp front.symm).1

theorem Leads.suffix
    (leads : Leads token text rest) :
    rest <:+ text := by
  obtain ⟨blanks, _, textEq⟩ := exists_skipBlanks text
  rw [leads.1, ← List.append_assoc] at textEq
  exact ⟨_, textEq.symm⟩

theorem length_skipBlanks_le (text : List Char) : (skipBlanks text).length ≤ text.length :=
  (List.dropWhile_suffix isBlank).length_le

/-- A token has a character at least. -/
theorem Leads.length_lt
    (leads : Leads token text rest) :
    rest.length < text.length := by
  have positive := List.length_pos_iff.mpr (characters_ne_nil leads.2)
  have front := congrArg List.length leads.1
  rw [List.length_append] at front
  have shorter := length_skipBlanks_le text
  omega

/-! ## Texts that begin with tokens -/

variable {middle : List Char} {others : List TypeToken}

/-- The text begins with the tokens, each as long as it can be, and `rest` follows; there may be
blanks in front of each token and of what follows. -/
def Begins : (text : List Char) → List TypeToken → (rest : List Char) → Prop
  | text, [], rest => ∃ blanks, (∀ c ∈ blanks, isBlank c = true) ∧ text = blanks ++ rest
  | text, token :: tokens, rest => ∃ middle, Leads token text middle ∧ Begins middle tokens rest

theorem begins_nil (text : List Char) : Begins text [] text :=
  ⟨[], nofun, rfl⟩

theorem begins_skipBlanks (text : List Char) : Begins text [] (skipBlanks text) :=
  exists_skipBlanks text

theorem skipBlanks_eq_of_begins_nil
    (begins : Begins text [] rest) :
    skipBlanks text = skipBlanks rest := by
  obtain ⟨blanks, allBlank, textEq⟩ := begins
  rw [textEq, skipBlanks_append allBlank]

theorem begins_skipBlanks_iff
    (nonempty : tokens ≠ []) :
    Begins (skipBlanks text) tokens rest ↔ Begins text tokens rest := by
  cases tokens with
  | nil => exact absurd rfl nonempty
  | cons token tokens => simp only [Begins, leads_skipBlanks_iff]

/-- What follows some tokens may begin with further ones. -/
theorem begins_append_iff :
    Begins text (tokens ++ others) rest ↔
      ∃ middle, Begins text tokens middle ∧ Begins middle others rest := by
  induction tokens generalizing text with
  | nil =>
      rw [List.nil_append]
      apply Iff.intro
      · intro begins
        exact ⟨text, begins_nil text, begins⟩
      · intro given
        obtain ⟨middle, blank, begins⟩ := given
        cases others with
        | nil =>
            obtain ⟨blanks, allBlank, rfl⟩ := blank
            obtain ⟨more, moreBlank, rfl⟩ := begins
            refine ⟨blanks ++ more, ?_, (List.append_assoc ..).symm⟩
            intro c member
            exact (List.mem_append.mp member).elim (allBlank c) (moreBlank c)
        | cons token others =>
            obtain ⟨after, leads, begins⟩ := begins
            refine ⟨after, ?_, begins⟩
            rw [Leads, skipBlanks_eq_of_begins_nil blank]
            exact leads
  | cons token tokens inductionHypothesis =>
      simp only [List.cons_append, Begins, inductionHypothesis]
      apply Iff.intro
      · intro given
        obtain ⟨after, leads, middle, begins, behind⟩ := given
        exact ⟨middle, ⟨after, leads, begins⟩, behind⟩
      · intro given
        obtain ⟨middle, ⟨after, leads, begins⟩, behind⟩ := given
        exact ⟨after, leads, middle, begins, behind⟩

theorem Begins.append
    (begins : Begins text tokens middle)
    (behind : Begins middle others rest) :
    Begins text (tokens ++ others) rest :=
  begins_append_iff.mpr ⟨middle, begins, behind⟩

theorem Leads.begins (leads : Leads token text rest) : Begins text [token] rest :=
  ⟨rest, leads, begins_nil rest⟩

theorem Begins.suffix
    (begins : Begins text tokens rest) :
    rest <:+ text := by
  induction tokens generalizing text with
  | nil =>
      obtain ⟨blanks, _, textEq⟩ := begins
      exact ⟨blanks, textEq.symm⟩
  | cons token tokens inductionHypothesis =>
      obtain ⟨middle, leads, begins⟩ := begins
      exact (inductionHypothesis begins).trans leads.suffix

theorem Begins.skipBlanks_ne_nil
    (begins : Begins text tokens rest)
    (nonempty : tokens ≠ []) :
    skipBlanks text ≠ [] := by
  cases tokens with
  | nil => exact absurd rfl nonempty
  | cons token tokens =>
      obtain ⟨middle, leads, _⟩ := begins
      exact leads.skipBlanks_ne_nil

/-- Every token has a character of its own. -/
theorem Begins.length_le
    (begins : Begins text tokens rest) :
    tokens.length + rest.length ≤ text.length := by
  induction tokens generalizing text with
  | nil =>
      have shorter := begins.suffix.length_le
      rw [List.length_nil]
      omega
  | cons token tokens inductionHypothesis =>
      obtain ⟨middle, leads, begins⟩ := begins
      have inMiddle := inductionHypothesis begins
      have shorter := leads.length_lt
      rw [List.length_cons]
      omega

/-- A text is made of tokens if it begins with them and nothing but blanks follows. -/
theorem tokenizes_iff_begins : Tokenizes text tokens ↔ Begins text tokens [] := by
  induction tokens generalizing text with
  | nil => simp [Tokenizes, Begins]
  | cons token tokens inductionHypothesis =>
      simp only [tokenizes_cons_iff, inductionHypothesis, Begins]

/-! ## Words -/

/-- The reader of words takes exactly a word as long as it can be. -/
theorem token_eq_iff
    {name : List Char}
    (nonempty : name ≠ []) :
    TypeTag.token text = (name, rest) ↔
      text = name ++ rest ∧ (TypeToken.word name).EndsBefore rest := by
  apply Iff.intro
  · intro read
    obtain ⟨rfl, rfl⟩ := Prod.mk.inj read
    refine ⟨List.takeWhile_append_dropWhile.symm, nonempty,
      fun _ member => List.mem_takeWhile_imp member, ?_⟩
    intro c member
    have stopped := List.head?_dropWhile_not isTokenCharacter text
    rw [Option.mem_def.mp member] at stopped
    exact stopped
  · intro given
    rcases given with ⟨textEq, _, inWord, stops⟩
    have behind : rest.takeWhile isTokenCharacter = [] ∧ rest.dropWhile isTokenCharacter = rest := by
      cases rest with
      | nil => exact ⟨rfl, rfl⟩
      | cons c rest =>
          have stopped := stops c rfl
          simp [stopped]
    rw [TypeTag.token, textEq, List.takeWhile_append_of_pos inWord, List.dropWhile_append_of_pos inWord,
      behind.1, behind.2, List.append_nil]

end TypeTag

end MoveClient
