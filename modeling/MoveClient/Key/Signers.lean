import MoveClient.Error

/-!
Signatures of some members of a set of keys.

A multi-signature pairs each signature with the position of its key. Positions are below 32, and
the entries are kept in strictly increasing order of position, whatever order they are given in.
-/

namespace MoveClient

/-- The most keys of a set, and the number of bits of a bitmap of positions. -/
def maxSigners : Nat := 32

/-- Signatures with the positions of their keys, in increasing order. -/
structure Signers (σ : Type) where
  entries : List (Nat × σ)
  increasing : entries.Pairwise fun left right => left.1 < right.1
  bounded : ∀ entry ∈ entries, entry.1 < maxSigners

namespace Signers

variable {σ : Type}

instance [DecidableEq σ] : DecidableEq (Signers σ) := fun left right =>
  decidable_of_iff (left.entries = right.entries) (by
    cases left
    cases right
    simp)

instance [Repr σ] : Repr (Signers σ) := ⟨fun signers precedence => reprPrec signers.entries precedence⟩

/-- Puts an entry before the first one with a greater or equal position. -/
def insertEntry (entry : Nat × σ) : List (Nat × σ) → List (Nat × σ)
  | [] => [entry]
  | next :: rest =>
      if entry.1 ≤ next.1 then entry :: next :: rest else next :: insertEntry entry rest

/-- The entries in order of position. -/
def sortEntries : List (Nat × σ) → List (Nat × σ)
  | [] => []
  | entry :: rest => insertEntry entry (sortEntries rest)

/-- The signatures in order of position, if all positions differ and are in range. -/
def ofEntries? (entries : List (Nat × σ)) : Option (Signers σ) :=
  let sorted := sortEntries entries
  if h : (sorted.Pairwise fun left right => left.1 < right.1) ∧
      ∀ entry ∈ sorted, entry.1 < maxSigners then
    some ⟨sorted, h.1, h.2⟩
  else none

/-- The positions. -/
def positions (signers : Signers σ) : List Nat :=
  signers.entries.map Prod.fst

/-- The signatures. -/
def signatures (signers : Signers σ) : List σ :=
  signers.entries.map Prod.snd

/-- A position given as an integer, if it is in range. -/
def position? (index : Int) : Option Nat :=
  if 0 ≤ index ∧ index < maxSigners then some index.toNat else none

end Signers

/-- Whether every entry is accepted by the key at its position. A position beyond the keys is
refused, and the first refusal decides. -/
def acceptsEntries {κ σ : Type} (accepts : κ → σ → Except Error Bool) (keys : List κ) :
    List (Nat × σ) → Except Error Bool
  | [] => .ok true
  | (position, signature) :: rest =>
      match keys[position]? with
      | none => .ok false
      | some key => do
          if ← accepts key signature then acceptsEntries accepts keys rest else .ok false

/-- Whether there are at least `threshold` entries and each is accepted by the key at its
position. -/
def acceptsThreshold {κ σ : Type} (accepts : κ → σ → Except Error Bool) (keys : List κ)
    (threshold : Nat) (entries : List (Nat × σ)) : Except Error Bool :=
  if entries.length < threshold then .ok false else acceptsEntries accepts keys entries

end MoveClient
