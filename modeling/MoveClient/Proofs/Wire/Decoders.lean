import MoveClient.Proofs.Wire.Reading

/-!
Readers that are decoders.

Owns:
- `Reader.IsLocal`: what a reader takes for a value it takes whatever follows, and of less than that
  it says that the input has ended;
- `Reader.IsDecoder`, which adds what a reader can complain about;
- that the basic readers are decoders, and whatever is built from decoders;
- `Reader.Progresses` and `Reader.rounds`: how often a loop over counted values goes round.

Does not own: readers of types, keys, proofs and transactions.
-/

namespace MoveClient

/-- What can be wrong with wire data: its form, key material inside it, or a kind that is not
offered. -/
def Error.IsOfDecoding : Error → Prop
  | .codec _ | .keyFormat _ | .unsupported _ => True
  | _ => False

/-- The computation gives a value or a failure of decoding. -/
def Error.OnlyOfDecoding {α : Type} : Except Error α → Prop
  | .ok _ => True
  | .error error => error.IsOfDecoding

namespace Error.OnlyOfDecoding

variable {α β : Type} {computed : Except Error α} {next : α → Except Error β}

theorem bind
    (only : OnlyOfDecoding computed)
    (nextOnly : ∀ value, OnlyOfDecoding (next value)) :
    OnlyOfDecoding (computed >>= next) := by
  cases computed with
  | ok value => exact nextOnly value
  | error error => exact only

theorem map
    (only : OnlyOfDecoding computed)
    (image : α → β) :
    OnlyOfDecoding (image <$> computed) := by
  cases computed with
  | ok value => trivial
  | error error => exact only

theorem mapM
    (only : ∀ value, OnlyOfDecoding (next value))
    (values : List α) :
    OnlyOfDecoding (values.mapM next) := by
  induction values with
  | nil => trivial
  | cons first rest inductionHypothesis =>
      rw [List.mapM_cons]
      apply (only first).bind
      intro result
      exact inductionHypothesis.bind fun _ => trivial

end Error.OnlyOfDecoding

namespace Reader

variable {α β : Type} {reader element : Reader α} {next : α → Reader β}

/-- The reader finds that the input has ended, and has consumed all of it. -/
def EndsEarly (reader : Reader α) (input : Bytes) : Prop :=
  ∃ requested found, reader input = .error (.codec (.endOfInput requested found)) []

/-- The octets are all that the reader takes for the value, and it needs every one of them. -/
structure Takes (reader : Reader α) (taken : Bytes) (value : α) : Prop where
  whole : ∀ rest, reader (taken ++ rest) = .ok value rest
  cut : ∀ first missing, taken = first ++ missing → missing ≠ [] → reader.EndsEarly first

/-- Whatever is accepted is accepted for the octets in front of it alone. -/
def IsLocal (reader : Reader α) : Prop :=
  ∀ input value rest, reader input = .ok value rest →
    ∃ taken, input = taken ++ rest ∧ reader.Takes taken value

/-- A local reader with no other complaints than those of decoding. -/
structure IsDecoder (reader : Reader α) : Prop where
  isLocal : reader.IsLocal
  fault : ∀ input error left, reader input = .error error left → error.IsOfDecoding

theorem IsLocal.length_le
    (isLocal : reader.IsLocal)
    {input rest : Bytes}
    {value : α}
    (read : reader input = .ok value rest) :
    rest.length ≤ input.length := by
  obtain ⟨taken, rfl, _⟩ := isLocal input value rest read
  rw [List.length_append]
  omega

/-! ## Readers built from others -/

theorem bind_of_ok
    {input middle : Bytes}
    {value : α}
    (read : reader input = .ok value middle) :
    (reader >>= next) input = next value middle := by
  simp only [bind, EStateM.bind, read]

theorem bind_of_error
    {input left : Bytes}
    {error : Error}
    (failed : reader input = .error error left) :
    (reader >>= next) input = .error error left := by
  simp only [bind, EStateM.bind, failed]

theorem EndsEarly.bind
    {input : Bytes}
    (early : reader.EndsEarly input) :
    (reader >>= next).EndsEarly input := by
  obtain ⟨requested, found, failed⟩ := early
  exact ⟨requested, found, bind_of_error failed⟩

/-- What two readers take one behind the other is cut inside the octets of the first, or behind
them. -/
theorem Takes.bind
    {taken nextTaken : Bytes}
    {value : α}
    {result : β}
    (takes : reader.Takes taken value)
    (nextTakes : (next value).Takes nextTaken result) :
    (reader >>= next).Takes (taken ++ nextTaken) result := by
  constructor
  · intro rest
    rw [List.append_assoc, bind_of_ok (takes.whole _), nextTakes.whole]
  · intro first missing split nonempty
    rcases List.append_eq_append_iff.mp split with
      ⟨further, firstEq, nextEq⟩ | ⟨further, takenEq, missingEq⟩
    · obtain ⟨requested, found, failed⟩ := nextTakes.cut further missing nextEq nonempty
      subst firstEq
      exact ⟨requested, found, (bind_of_ok (takes.whole further)).trans failed⟩
    · by_cases atEnd : further = []
      · subst atEnd
        rw [List.append_nil] at takenEq
        rw [List.nil_append] at missingEq
        subst takenEq missingEq
        obtain ⟨requested, found, failed⟩ := nextTakes.cut [] missing rfl nonempty
        have read := takes.whole []
        rw [List.append_nil] at read
        exact ⟨requested, found, (bind_of_ok read).trans failed⟩
      · exact (takes.cut first further takenEq atEnd).bind

theorem isDecoder_pure (value : α) : (pure value : Reader α).IsDecoder := by
  constructor
  · intro input result rest read
    obtain ⟨rfl, rfl⟩ := pure_eq_ok_iff.mp read
    refine ⟨[], rfl, fun _ => rfl, ?_⟩
    intro first missing split nonempty
    exact absurd (List.nil_eq_append_iff.mp split).2 nonempty
  · intro input error left failed
    cases failed

theorem isLocal_throw (error : Error) : (throw error : Reader α).IsLocal := by
  intro input value rest read
  exact absurd read throw_ne_ok

theorem isDecoder_throw
    {error : Error}
    (ofDecoding : error.IsOfDecoding) :
    (throw error : Reader α).IsDecoder := by
  refine ⟨isLocal_throw error, ?_⟩
  intro input other left failed
  cases failed
  exact ofDecoding

theorem IsLocal.bind
    (isLocal : reader.IsLocal)
    (nextLocal : ∀ value, (next value).IsLocal) :
    (reader >>= next).IsLocal := by
  intro input result rest read
  obtain ⟨value, middle, firstRead, nextRead⟩ := bind_eq_ok_iff.mp read
  obtain ⟨taken, rfl, takes⟩ := isLocal input value middle firstRead
  obtain ⟨nextTaken, rfl, nextTakes⟩ := nextLocal value middle result rest nextRead
  exact ⟨taken ++ nextTaken, (List.append_assoc ..).symm, takes.bind nextTakes⟩

theorem IsDecoder.bind
    (decoder : reader.IsDecoder)
    (nextDecoder : ∀ value, (next value).IsDecoder) :
    (reader >>= next).IsDecoder := by
  refine ⟨decoder.isLocal.bind fun value => (nextDecoder value).isLocal, ?_⟩
  intro input error left failed
  cases read : reader input with
  | ok value middle =>
      rw [bind_of_ok read] at failed
      exact (nextDecoder value).fault middle error left failed
  | error cause middle =>
      rw [bind_of_error read] at failed
      cases failed
      exact decoder.fault input error left read

theorem IsDecoder.map
    (decoder : reader.IsDecoder)
    (image : α → β) :
    (image <$> reader).IsDecoder := by
  have mapped : image <$> reader = reader >>= fun value => pure (image value) := by
    funext input
    simp only [Functor.map, EStateM.map, Bind.bind, EStateM.bind]
    cases reader input <;> rfl
  rw [mapped]
  exact decoder.bind fun value => isDecoder_pure (image value)

theorem IsLocal.map
    (isLocal : reader.IsLocal)
    (image : α → β) :
    (image <$> reader).IsLocal := by
  intro input result rest read
  obtain ⟨value, valueRead, imageEq⟩ := map_eq_ok_iff.mp read
  obtain ⟨taken, inputEq, takes⟩ := isLocal input value rest valueRead
  refine ⟨taken, inputEq, ?_, ?_⟩
  · intro others
    exact map_eq_ok_iff.mpr ⟨value, takes.whole others, imageEq⟩
  · intro first missing split nonempty
    obtain ⟨requested, found, failed⟩ := takes.cut first missing split nonempty
    refine ⟨requested, found, ?_⟩
    simp only [Functor.map, EStateM.map, failed]

theorem isDecoder_ite
    {condition : Prop}
    [Decidable condition]
    {other : Reader α}
    (decoder : reader.IsDecoder)
    (otherDecoder : other.IsDecoder) :
    (if condition then reader else other).IsDecoder := by
  by_cases holds : condition
  · rw [if_pos holds]
    exact decoder
  · rw [if_neg holds]
    exact otherDecoder

/-- Goes on with what was computed. -/
def ofComputed (computed : Except Error α) : Reader α :=
  match computed with
  | .ok value => pure value
  | .error error => throw error

theorem ofComputed_isDecoder
    {computed : Except Error α}
    (only : Error.OnlyOfDecoding computed) :
    (ofComputed computed).IsDecoder := by
  cases computed with
  | ok value => exact isDecoder_pure value
  | error error => exact isDecoder_throw only

/-- What is read is made into a value by a computation. -/
theorem IsDecoder.bind_computed
    (decoder : reader.IsDecoder)
    {compute : α → Except Error β}
    (only : ∀ value, Error.OnlyOfDecoding (compute value))
    (law : ∀ value, next value = ofComputed (compute value)) :
    (reader >>= next).IsDecoder := by
  apply decoder.bind
  intro value
  rw [law value]
  exact ofComputed_isDecoder (only value)

/-! ## Basic readers -/

theorem octets_of_length_lt
    {count : Nat}
    {input : Bytes}
    (short : input.length < count) :
    octets count input = .error (.codec (.endOfInput count input.length)) [] := by
  cases split : splitExact count input with
  | none => simp only [octets, split]
  | some parts =>
      have read : octets count input = .ok parts.1 parts.2 := by
        simp only [octets, split]
      obtain ⟨lengthEq, inputEq⟩ := octets_eq_ok_iff.mp read
      have := congrArg List.length inputEq
      rw [List.length_append] at this
      omega

theorem octets_isDecoder (count : Nat) : (octets count).IsDecoder := by
  constructor
  · intro input taken rest read
    obtain ⟨lengthEq, inputEq⟩ := octets_eq_ok_iff.mp read
    refine ⟨taken, inputEq, fun _ => octets_eq_ok_iff.mpr ⟨lengthEq, rfl⟩, ?_⟩
    intro first missing split nonempty
    have positive := List.length_pos_iff.mpr nonempty
    have short : first.length < count := by
      rw [← lengthEq, split, List.length_append]
      omega
    exact ⟨count, first.length, octets_of_length_lt short⟩
  · intro input error left failed
    by_cases short : input.length < count
    · rw [octets_of_length_lt short] at failed
      cases failed
      trivial
    · have enough : (input.take count).length = count := by
        rw [List.length_take]
        omega
      rw [octets_eq_ok_iff.mpr ⟨enough, (List.take_append_drop count input).symm⟩] at failed
      cases failed

theorem octet_isDecoder : octet.IsDecoder := by
  constructor
  · intro input digit rest read
    refine ⟨[digit], octet_eq_ok_iff.mp read, fun _ => rfl, ?_⟩
    intro first missing split nonempty
    cases first with
    | nil => exact ⟨1, 0, rfl⟩
    | cons head others =>
        have tailsEq := (List.cons.inj split).2
        exact absurd (List.nil_eq_append_iff.mp tailsEq).2 nonempty
  · intro input error left failed
    cases input with
    | nil =>
        cases failed
        trivial
    | cons head others => cases failed

theorem integer_isDecoder (type : IntegerType) : (integer type).IsDecoder :=
  (octets_isDecoder type.octets).bind fun _ => isDecoder_pure _

theorem lengthFrom_isDecoder (left place sum : Nat) : (lengthFrom left place sum).IsDecoder := by
  induction left generalizing place sum with
  | zero => exact isDecoder_throw trivial
  | succ left inductionHypothesis =>
      apply octet_isDecoder.bind
      intro digit
      refine isDecoder_ite (inductionHypothesis _ _) ?_
      refine isDecoder_ite (isDecoder_throw trivial) ?_
      exact isDecoder_ite (isDecoder_throw trivial) (isDecoder_pure _)

theorem length_isDecoder : length.IsDecoder :=
  lengthFrom_isDecoder _ _ _

theorem bool_isDecoder : bool.IsDecoder := by
  apply octet_isDecoder.bind
  intro digit
  exact isDecoder_ite (isDecoder_pure _)
    (isDecoder_ite (isDecoder_pure _) (isDecoder_throw trivial))

theorem bytes_isDecoder : bytes.IsDecoder :=
  length_isDecoder.bind octets_isDecoder

theorem text_isDecoder : text.IsDecoder := by
  apply bytes_isDecoder.bind
  intro spelled
  cases textOf? spelled with
  | none => exact isDecoder_throw trivial
  | some s => exact isDecoder_pure s

/-! ## Counted values and values that may be absent -/

theorem many_isDecoder
    (decoder : element.IsDecoder)
    (count : Nat) :
    (many element count).IsDecoder := by
  induction count with
  | zero => exact isDecoder_pure []
  | succ count inductionHypothesis =>
      apply decoder.bind
      intro first
      exact inductionHypothesis.bind fun rest => isDecoder_pure (first :: rest)

theorem sequence_isDecoder (decoder : element.IsDecoder) : (sequence element).IsDecoder :=
  length_isDecoder.bind (many_isDecoder decoder)

theorem option_isDecoder (decoder : element.IsDecoder) : (option element).IsDecoder := by
  apply length_isDecoder.bind
  intro tag
  apply isDecoder_ite (isDecoder_pure none)
  exact isDecoder_ite (decoder.bind fun _ => isDecoder_pure _) (isDecoder_throw trivial)

/-! ## Loops over counted values -/

/-- Every value takes at least one octet. -/
def Progresses (reader : Reader α) : Prop :=
  ∀ input value rest, reader input = .ok value rest → rest.length < input.length

theorem Takes.ne_nil
    {taken : Bytes}
    {value : α}
    (takes : reader.Takes taken value)
    (wanting : reader.EndsEarly []) :
    taken ≠ [] := by
  intro nothing
  subst nothing
  obtain ⟨_, _, failed⟩ := wanting
  have accepted := takes.whole []
  rw [List.append_nil, failed] at accepted
  cases accepted

/-- A local reader that wants an octet consumes one. -/
theorem IsLocal.progresses
    (isLocal : reader.IsLocal)
    (wanting : reader.EndsEarly []) :
    reader.Progresses := by
  intro input value rest read
  obtain ⟨taken, rfl, takes⟩ := isLocal input value rest read
  have positive := List.length_pos_iff.mpr (takes.ne_nil wanting)
  rw [List.length_append]
  omega

/-- Where the first octet is given, the others are taken as before. -/
theorem IsLocal.behind
    (isLocal : reader.IsLocal)
    (wanting : reader.EndsEarly [])
    (given : UInt8) :
    IsLocal (fun input => reader (given :: input)) := by
  intro input value rest read
  obtain ⟨taken, inputEq, takes⟩ := isLocal (given :: input) value rest read
  cases taken with
  | nil => exact absurd rfl (takes.ne_nil wanting)
  | cons head others =>
      obtain ⟨headEq, othersEq⟩ := List.cons.inj inputEq
      subst headEq
      refine ⟨others, othersEq, takes.whole, ?_⟩
      intro first missing split nonempty
      exact takes.cut (given :: first) missing (congrArg (given :: ·) split) nonempty

/-- How often a loop over `count` values calls the reader of the values. -/
def rounds (element : Reader α) : (count : Nat) → Bytes → Nat
  | 0, _ => 0
  | count + 1, input =>
      match element input with
      | .ok _ rest => element.rounds count rest + 1
      | .error _ _ => 1

/-- The rounds that a loop makes settle what it gives, whatever count it was asked for. -/
theorem many_rounds
    (element : Reader α)
    (count : Nat)
    (input : Bytes) :
    many element (element.rounds count input) input = many element count input := by
  induction count generalizing input with
  | zero => rfl
  | succ count inductionHypothesis =>
      cases read : element input with
      | ok first rest =>
          have behind := inductionHypothesis rest
          simp only [rounds, read, many, bind, EStateM.bind, behind]
      | error error left =>
          simp only [rounds, read, many, bind, EStateM.bind]

/-- Where every value takes an octet a loop makes at most one round more than there are octets. -/
theorem Progresses.rounds_le
    (progresses : element.Progresses)
    (count : Nat)
    (input : Bytes) :
    element.rounds count input ≤ input.length + 1 := by
  induction count generalizing input with
  | zero => exact Nat.zero_le _
  | succ count inductionHypothesis =>
      cases read : element input with
      | ok first rest =>
          have shorter := progresses input first rest read
          have behind := inductionHypothesis rest
          simp only [rounds, read]
          omega
      | error error left =>
          simp only [rounds, read]
          omega

/-! ## Readers that agree -/

theorem bind_congr_left
    {other : Reader α}
    {input : Bytes}
    (agree : reader input = other input) :
    (reader >>= next) input = (other >>= next) input := by
  simp only [bind, EStateM.bind, agree]

theorem bind_congr_right
    {other : α → Reader β}
    {input : Bytes}
    (agree : ∀ value middle, reader input = .ok value middle →
      next value middle = other value middle) :
    (reader >>= next) input = (reader >>= other) input := by
  cases read : reader input with
  | ok value middle => rw [bind_of_ok read, bind_of_ok read, agree value middle read]
  | error error left => rw [bind_of_error read, bind_of_error read]

/-- Elements that agree on what is no longer than the input are read alike from it. -/
theorem many_congr
    {other : Reader α}
    (isLocal : element.IsLocal)
    {count : Nat}
    {input : Bytes}
    (agree : ∀ behind : Bytes, behind.length ≤ input.length → element behind = other behind) :
    many element count input = many other count input := by
  induction count generalizing input with
  | zero => rfl
  | succ count inductionHypothesis =>
      cases read : element input with
      | ok first rest =>
          have shorter := isLocal.length_le read
          have behindAgree : many element count rest = many other count rest :=
            inductionHypothesis fun behind behindShort =>
              agree behind (Nat.le_trans behindShort shorter)
          have otherRead := (agree input (Nat.le_refl _)).symm.trans read
          simp only [many, bind, EStateM.bind, read, otherRead, behindAgree]
      | error error left =>
          have otherRead := (agree input (Nat.le_refl _)).symm.trans read
          simp only [many, bind, EStateM.bind, read, otherRead]

theorem sequence_congr
    {other : Reader α}
    (isLocal : element.IsLocal)
    {input : Bytes}
    (agree : ∀ behind : Bytes, behind.length ≤ input.length → element behind = other behind) :
    sequence element input = sequence other input := by
  apply bind_congr_right
  intro count middle counted
  have shorter := length_isDecoder.isLocal.length_le counted
  apply many_congr isLocal
  intro behind behindShort
  exact agree behind (Nat.le_trans behindShort shorter)

end Reader

end MoveClient
