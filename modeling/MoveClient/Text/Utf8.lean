import MoveClient.Bytes

/-!
Text in octets that may be damaged.

A character is one to four octets: the first says how many follow and which values the second may
have. Octets that do not continue a character end it; what has been read of it counts as one
replacement character, and so does an octet that cannot begin one.
-/

namespace MoveClient.Utf8

/-- A character that has been begun: how many octets are missing, the code so far, and the bounds
of the next octet. -/
structure Partial where
  missing : Nat
  code : Nat
  low : UInt8
  high : UInt8

/-- The character that stands for damaged octets. -/
def replacement : Char := '\ufffd'

/-- What an octet begins that begins no character of a single octet. -/
def begin? (octet : UInt8) : Option Partial :=
  let code := octet.toNat
  if 0xc2 ≤ code ∧ code ≤ 0xdf then some ⟨1, code - 0xc0, 0x80, 0xbf⟩
  else if code = 0xe0 then some ⟨2, 0, 0xa0, 0xbf⟩
  else if code = 0xed then some ⟨2, 0xd, 0x80, 0x9f⟩
  else if 0xe1 ≤ code ∧ code ≤ 0xef then some ⟨2, code - 0xe0, 0x80, 0xbf⟩
  else if code = 0xf0 then some ⟨3, 0, 0x90, 0xbf⟩
  else if 0xf1 ≤ code ∧ code ≤ 0xf3 then some ⟨3, code - 0xf0, 0x80, 0xbf⟩
  else if code = 0xf4 then some ⟨3, 4, 0x80, 0x8f⟩
  else none

/-- The characters that an octet completes at the beginning of a character, and what it begins. -/
def first (octet : UInt8) : List Char × Option Partial :=
  if octet < 0x80 then ([Char.ofNat octet.toNat], none)
  else
    match begin? octet with
    | some begun => ([], some begun)
    | none => ([replacement], none)

/-- The characters that an octet completes, and what it begins or continues. -/
def step : Option Partial → UInt8 → List Char × Option Partial
  | none, octet => first octet
  | some begun, octet =>
      if begun.low ≤ octet ∧ octet ≤ begun.high then
        let code := begun.code * 64 + octet.toNat % 64
        if begun.missing ≤ 1 then ([Char.ofNat code], none)
        else ([], some ⟨begun.missing - 1, code, 0x80, 0xbf⟩)
      else
        let (characters, next) := first octet
        (replacement :: characters, next)

/-- The characters of octets behind what has been begun. -/
def characters : Option Partial → Bytes → List Char
  | none, [] => []
  | some _, [] => [replacement]
  | begun, octet :: rest =>
      let (completed, next) := step begun octet
      completed ++ characters next rest

/-- The text of octets, with replacement characters where they are damaged. -/
def decode (octets : Bytes) : String :=
  String.ofList (characters none octets)

end MoveClient.Utf8
