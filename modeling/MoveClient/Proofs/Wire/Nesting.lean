import MoveClient.Proofs.Wire.Decoders
import MoveClient.TypeTag.Codec

/-!
Reading types that are nested in types.

Owns:
- `TypeTag.readWith`, one level of reading a type, which leaves nested types to a given reader;
- that the reader of types is the only reader that uses itself for nested types: every level
  consumes an octet, so the recursion comes to an end and the bound on its depth is never felt;
- that addresses and types are read by decoders.

Does not own: which octets spell a type.
-/

namespace MoveClient

open Reader

namespace Address

theorem read_isDecoder : read.IsDecoder := by
  constructor
  · apply (octets_isDecoder 32).isLocal.bind
    intro spelled
    cases ofBytes? spelled with
    | some address => exact (isDecoder_pure address).isLocal
    | none => exact isLocal_throw _
  · intro input error left failed
    cases taken : octets 32 input with
    | ok spelled rest =>
        -- As many octets as an address has always make one up.
        have lengthEq := (octets_eq_ok_iff.mp taken).1
        have addressRead : read input = .ok ⟨spelled, lengthEq⟩ rest := by
          rw [read, bind_of_ok taken, ofBytes?, dif_pos lengthEq]
          rfl
        rw [addressRead] at failed
        cases failed
    | error cause middle =>
        rw [read, bind_of_error taken] at failed
        cases failed
        exact (octets_isDecoder 32).fault input error left taken

end Address

namespace TypeTag

variable {nested other : Reader TypeTag}

/-- Reads what follows a variant number, with nested types read by `nested`. -/
def readContent (nested : Reader TypeTag) (variant : Nat) : Reader TypeTag :=
  match PrimitiveType.ofVariant? variant with
  | some type => pure (.primitive type)
  | none =>
      if variant = 6 then do
        let element ← nested
        pure (.vector element)
      else if variant = 7 then do
        let address ← Address.read
        let module ← Reader.text
        let name ← Reader.text
        let arguments ← Reader.sequence nested
        pure (.struct address module name arguments)
      else throw (.codec (.unknownVariant .typeTag variant))

/-- Reads one level of a type, with nested types read by `nested`. -/
def readWith (nested : Reader TypeTag) : Reader TypeTag := do
  let variant ← Reader.length
  readContent nested variant

theorem readNested_succ (depth : Nat) : readNested (depth + 1) = readWith (readNested depth) :=
  rfl

theorem readContent_isDecoder
    (decoder : nested.IsDecoder)
    (variant : Nat) :
    (readContent nested variant).IsDecoder := by
  unfold readContent
  cases PrimitiveType.ofVariant? variant with
  | some type => exact isDecoder_pure _
  | none =>
      refine isDecoder_ite (decoder.bind fun element => isDecoder_pure _) ?_
      refine isDecoder_ite ?_ (isDecoder_throw trivial)
      apply Address.read_isDecoder.bind
      intro address
      apply text_isDecoder.bind
      intro module
      apply text_isDecoder.bind
      intro name
      exact (sequence_isDecoder decoder).bind fun arguments => isDecoder_pure _

theorem readWith_isDecoder (decoder : nested.IsDecoder) : (readWith nested).IsDecoder :=
  length_isDecoder.bind (readContent_isDecoder decoder)

theorem readNested_isDecoder (depth : Nat) : (readNested depth).IsDecoder := by
  induction depth with
  | zero => exact isDecoder_throw trivial
  | succ depth inductionHypothesis =>
      rw [readNested_succ]
      exact readWith_isDecoder inductionHypothesis

/-! ## Every level consumes an octet -/

theorem readContent_congr
    (isLocal : nested.IsLocal)
    {variant : Nat}
    {input : Bytes}
    (agree : ∀ behind : Bytes, behind.length ≤ input.length → nested behind = other behind) :
    readContent nested variant input = readContent other variant input := by
  unfold readContent
  cases PrimitiveType.ofVariant? variant with
  | some type => rfl
  | none =>
      by_cases isVector : variant = 6
      · rw [if_pos isVector, if_pos isVector]
        exact bind_congr_left (agree input (Nat.le_refl _))
      by_cases isStruct : variant = 7
      · rw [if_neg isVector, if_neg isVector, if_pos isStruct, if_pos isStruct]
        apply bind_congr_right
        intro address afterAddress addressRead
        apply bind_congr_right
        intro module afterModule moduleRead
        apply bind_congr_right
        intro name afterName nameRead
        have addressShorter := Address.read_isDecoder.isLocal.length_le addressRead
        have moduleShorter := text_isDecoder.isLocal.length_le moduleRead
        have nameShorter := text_isDecoder.isLocal.length_le nameRead
        apply bind_congr_left
        apply sequence_congr isLocal
        intro behind behindShort
        exact agree behind (by omega)
      · rw [if_neg isVector, if_neg isVector, if_neg isStruct, if_neg isStruct]

theorem length_progresses : Reader.length.Progresses :=
  length_isDecoder.isLocal.progresses ⟨1, 0, rfl⟩

/-- What is read with nested types depends on them for shorter inputs only. -/
theorem readWith_congr
    (isLocal : nested.IsLocal)
    {input : Bytes}
    (agree : ∀ behind : Bytes, behind.length < input.length → nested behind = other behind) :
    readWith nested input = readWith other input := by
  apply bind_congr_right
  intro variant middle counted
  have shorter := length_progresses input variant middle counted
  apply readContent_congr isLocal
  intro behind behindShort
  exact agree behind (Nat.lt_of_le_of_lt behindShort shorter)

/-- With more depth than octets the depth does not matter. -/
theorem readNested_eq
    {depth otherDepth : Nat}
    {input : Bytes}
    (enough : input.length < depth)
    (otherEnough : input.length < otherDepth) :
    readNested depth input = readNested otherDepth input := by
  induction depth generalizing otherDepth input with
  | zero => exact absurd enough (Nat.not_lt_zero _)
  | succ depth inductionHypothesis =>
      cases otherDepth with
      | zero => exact absurd otherEnough (Nat.not_lt_zero _)
      | succ otherDepth =>
          rw [readNested_succ, readNested_succ]
          apply readWith_congr (readNested_isDecoder depth).isLocal
          intro behind shorter
          exact inductionHypothesis (by omega) (by omega)

theorem readNested_eq_read
    {depth : Nat}
    {input : Bytes}
    (enough : input.length < depth) :
    readNested depth input = read input :=
  readNested_eq enough (Nat.lt_succ_self _)

theorem read_isDecoder : read.IsDecoder := by
  constructor
  · intro input tag rest tagRead
    obtain ⟨taken, rfl, takes⟩ := (readNested_isDecoder _).isLocal input tag rest tagRead
    refine ⟨taken, rfl, ?_, ?_⟩
    · intro others
      -- A depth that is enough for both inputs.
      let depth := taken.length + rest.length + others.length + 1
      have deepRead : readNested depth (taken ++ rest) = .ok tag rest := by
        rw [readNested_eq_read (by rw [List.length_append]; omega)]
        exact tagRead
      obtain ⟨deepTaken, inputEq, deepTakes⟩ :=
        (readNested_isDecoder depth).isLocal _ tag rest deepRead
      have takenEq := List.append_cancel_right inputEq
      subst takenEq
      rw [← readNested_eq_read (by rw [List.length_append]; omega : _ < depth)]
      exact deepTakes.whole others
    · intro first missing split nonempty
      obtain ⟨requested, found, failed⟩ := takes.cut first missing split nonempty
      refine ⟨requested, found, ?_⟩
      rw [← failed]
      refine (readNested_eq_read ?_).symm
      rw [split, List.length_append, List.length_append]
      omega
  · intro input error left failed
    exact (readNested_isDecoder _).fault input error left failed

/-- The reader of types is the one that reads nested types by itself. -/
theorem eq_readWith_iff {reader : Reader TypeTag} : reader = readWith reader ↔ reader = read := by
  have agrees (input : Bytes) : readWith read input = read input := by
    rw [← readNested_eq_read (by omega : input.length < input.length + 2), readNested_succ]
    apply readWith_congr read_isDecoder.isLocal
    intro behind shorter
    exact (readNested_eq_read (by omega)).symm
  apply Iff.intro
  · intro recursive
    funext input
    induction lengthEq : input.length using Nat.strongRecOn generalizing input with
    | ind size inductionHypothesis =>
        have nestedAgrees : readWith read input = readWith reader input := by
          apply readWith_congr read_isDecoder.isLocal
          intro behind shorter
          exact (inductionHypothesis behind.length (by omega) behind rfl).symm
        calc
          reader input = readWith reader input := congrFun recursive input
          _ = readWith read input := nestedAgrees.symm
          _ = read input := agrees input
  · intro readerEq
    subst readerEq
    funext input
    exact (agrees input).symm

end TypeTag

end MoveClient
