import MoveClient.Text.Quoted

/-!
Text with halves of characters.

UTF-16 writes a character beyond the first 65536 code points in two halves, and a half is a code
point of its own. Text may hold a half that is not part of a character: it is text like any other
until its octets are wanted, for a half has none.
-/

namespace MoveClient

/-- A code point of text: a character, or a half of one. -/
inductive CodePoint where
  | character (c : Char)
  | half (number : Fin 0x800)
deriving DecidableEq, Repr

/-- Text with a half of a character: the characters in front of the first half, that half, and the
code points behind it. -/
structure BrokenText where
  front : List Char
  half : Fin 0x800
  rest : List CodePoint
deriving DecidableEq, Repr

namespace CodePoint

/-- The number of a code point among all of them. -/
def code : CodePoint → Nat
  | character c => c.toNat
  | half number => 0xd800 + number

/-- The code point of a code unit of UTF-16. -/
def ofUnit (unit : Nat) : CodePoint :=
  if 0xd800 ≤ unit ∧ unit < 0xe000 then half (Fin.ofNat 0x800 (unit - 0xd800))
  else character (Char.ofNat unit)

/-- The character that is shown for a code point: a half is replaced. -/
def shown : CodePoint → Char
  | character c => c
  | half _ => '\ufffd'

/-- One code point between the given quotes. -/
def escape (quote : Char) : CodePoint → List Char
  | character c => Quoted.escape quote c
  | half number => Quoted.codeEscape (half number).code

/-- The characters that code points are, or the text with halves that they make up. -/
def split : List CodePoint → List Char ⊕ BrokenText
  | [] => .inl []
  | half number :: rest => .inr ⟨[], number, rest⟩
  | character c :: rest =>
      match split rest with
      | .inl characters => .inl (c :: characters)
      | .inr broken => .inr { broken with front := c :: broken.front }

theorem split_characters (characters : List Char) :
    split (characters.map character) = .inl characters := by
  induction characters with
  | nil => rfl
  | cons c characters inductionHypothesis => rw [List.map_cons, split, inductionHypothesis]

end CodePoint

namespace BrokenText

/-- The code points in order. -/
def codePoints (text : BrokenText) : List CodePoint :=
  text.front.map .character ++ .half text.half :: text.rest

/-- The text with every half replaced. -/
def shown (text : BrokenText) : String :=
  String.ofList (text.codePoints.map CodePoint.shown)

/-- The text in quotes. -/
def quoted (text : BrokenText) : String :=
  let quote := Quoted.quoteFor (text.codePoints.map CodePoint.shown)
  String.ofList (quote :: text.codePoints.flatMap (CodePoint.escape quote) ++ [quote])

end BrokenText

end MoveClient
