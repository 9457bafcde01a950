import MoveClient.Bytes

/-!
Hexadecimal text of byte strings.

Writing gives two lower-case digits per octet. Reading takes pairs of digits of either case and
skips ASCII blanks before, after and between pairs, never inside one. What was written reads back
(`ofHexDigits_hexDigits`).
-/

namespace MoveClient

/-- The value of a hexadecimal digit of either case; only ASCII characters are digits. -/
def hexDigitValue? (c : Char) : Option Nat :=
  if '0' ≤ c ∧ c ≤ '9' then some (c.toNat - '0'.toNat)
  else if 'a' ≤ c ∧ c ≤ 'f' then some (c.toNat - 'a'.toNat + 10)
  else if 'A' ≤ c ∧ c ≤ 'F' then some (c.toNat - 'A'.toNat + 10)
  else none

/-- Whether a character is a hexadecimal digit. -/
def isHexDigit (c : Char) : Bool :=
  (hexDigitValue? c).isSome

/-- The lower-case hexadecimal digit of a value below sixteen. -/
def hexDigit (value : Nat) : Char :=
  if value < 10 then Char.ofNat ('0'.toNat + value) else Char.ofNat ('a'.toNat + (value - 10))

/-- Whether a character is an ASCII blank: space, tab, line feed, vertical tab, form feed or
carriage return. -/
def isAsciiBlank (c : Char) : Bool :=
  c == ' ' || ('\t' ≤ c && c ≤ '\r')

namespace Bytes

/-- The two digits of one octet, high half first. -/
def hexPair (octet : UInt8) : List Char :=
  [hexDigit (octet.toNat / 16), hexDigit (octet.toNat % 16)]

/-- The digits of a byte string, two for each octet. -/
def hexDigits (octets : Bytes) : List Char :=
  octets.flatMap hexPair

/-- Lower-case hexadecimal text without a marker. -/
def hex (octets : Bytes) : String :=
  String.ofList (hexDigits octets)

/-- Reads pairs of digits; blanks are skipped wherever a pair may begin. -/
def ofHexDigits : List Char → Option Bytes
  | [] => some []
  | [c] => if isAsciiBlank c then some [] else none
  | c :: d :: rest =>
      if isAsciiBlank c then ofHexDigits (d :: rest)
      else
        match hexDigitValue? c, hexDigitValue? d with
        | some high, some low =>
            (ofHexDigits rest).map (UInt8.ofNat (16 * high + low) :: ·)
        | _, _ => none

/-- Reads hexadecimal text without a marker. -/
def ofHex? (text : String) : Option Bytes :=
  ofHexDigits text.toList

end Bytes

theorem hexDigitValue?_hexDigit {value : Nat} (small : value < 16) :
    hexDigitValue? (hexDigit value) = some value := by
  have all : ∀ v : Fin 16, hexDigitValue? (hexDigit v.val) = some v.val := by decide
  exact all ⟨value, small⟩

theorem isAsciiBlank_hexDigit {value : Nat} (small : value < 16) :
    isAsciiBlank (hexDigit value) = false := by
  have all : ∀ v : Fin 16, isAsciiBlank (hexDigit v.val) = false := by decide
  exact all ⟨value, small⟩

namespace Bytes

/-- Reading the digits of a byte string gives that byte string back. -/
theorem ofHexDigits_hexDigits (octets : Bytes) : ofHexDigits (hexDigits octets) = some octets := by
  induction octets with
  | nil => rfl
  | cons octet rest inductionHypothesis =>
      have octetLt := octet.toNat_lt
      have high : octet.toNat / 16 < 16 := by omega
      have low : octet.toNat % 16 < 16 := by omega
      have whole : UInt8.ofNat (16 * (octet.toNat / 16) + octet.toNat % 16) = octet := by
        rw [Nat.div_add_mod]
        exact UInt8.ofNat_toNat
      have split : hexDigits (octet :: rest) =
          hexDigit (octet.toNat / 16) :: hexDigit (octet.toNat % 16) :: hexDigits rest := rfl
      simp [split, ofHexDigits, isAsciiBlank_hexDigit high, hexDigitValue?_hexDigit high,
        hexDigitValue?_hexDigit low, inductionHypothesis, whole]

@[simp] theorem hexDigits_length (octets : Bytes) :
    (hexDigits octets).length = 2 * octets.length := by
  induction octets with
  | nil => rfl
  | cons octet rest inductionHypothesis =>
      have split : hexDigits (octet :: rest) =
          hexDigit (octet.toNat / 16) :: hexDigit (octet.toNat % 16) :: hexDigits rest := rfl
      simp only [split, List.length_cons, inductionHypothesis]
      omega

end Bytes

end MoveClient
