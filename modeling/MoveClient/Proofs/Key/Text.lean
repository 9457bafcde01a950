import MoveClient.Key.Text
import MoveClient.Proofs.Address.Forms
import MoveClient.Proofs.Key.Spelling

/-!
Private keys as text.

Owns:
- which names are those of schemes with private keys, and that none of what stands in front of such
  keys begins like another;
- that formatting key material changes neither what is read from it nor the scheme that reads it;
- that every private key is read back from its printed form.

Does not own: the texts of public keys and signatures.
-/

namespace MoveClient

namespace PrivateKey

variable {beginning rest : List Char}

@[simp] theorem dropBeginning_append (beginning rest : List Char) :
    dropBeginning beginning (beginning ++ rest) = some rest := by
  induction beginning with
  | nil => rfl
  | cons c beginning inductionHypothesis =>
      rw [List.cons_append, dropBeginning, if_pos rfl, inductionHypothesis]

theorem dropBeginning_eq_some_iff {text : List Char} :
    dropBeginning beginning text = some rest ↔ text = beginning ++ rest := by
  constructor
  · intro dropped
    induction beginning generalizing text with
    | nil => exact Option.some.inj dropped
    | cons c beginning inductionHypothesis =>
        cases text with
        | nil => cases dropped
        | cons d text =>
            rw [dropBeginning] at dropped
            split at dropped
            · rename_i same
              rw [same, List.cons_append, inductionHypothesis dropped]
            · cases dropped
  · rintro rfl
    exact dropBeginning_append beginning rest

end PrivateKey

/-- Everything that reads as octets consists of digits and blanks. -/
theorem Bytes.isHexDigit_or_isAsciiBlank
    {text : List Char}
    {octets : Bytes}
    (read : ofHexDigits text = some octets) :
    ∀ c ∈ text, isHexDigit c = true ∨ isAsciiBlank c = true := by
  fun_induction ofHexDigits text generalizing octets with
  | case1 => exact List.forall_mem_nil _
  | case2 c blank => exact List.forall_mem_singleton.mpr (.inr blank)
  | case3 => cases read
  | case4 c d rest blank inductionHypothesis =>
      exact List.forall_mem_cons.mpr ⟨.inr blank, inductionHypothesis read⟩
  | case5 c d rest solid high low lowFound highFound inductionHypothesis =>
      obtain ⟨others, othersRead, -⟩ := Option.map_eq_some_iff.mp read
      refine List.forall_mem_cons.mpr ⟨.inl ?_, List.forall_mem_cons.mpr ⟨.inl ?_, ?_⟩⟩
      · rw [isHexDigit, highFound]
        rfl
      · rw [isHexDigit, lowFound]
        rfl
      · exact inductionHypothesis othersRead
  | case6 => cases read

namespace KeyScheme

/-- The names of the schemes that have private keys. -/
def names : List String :=
  ["ed25519", "secp256k1", "secp256r1"]

/-- What stands in front of a key is the name of its scheme and a fixed text; only these three
names have it. -/
theorem keyPrefix_eq_ok_iff {name marker : String} :
    keyPrefix name = .ok marker ↔ name ∈ names ∧ marker = name ++ "-priv-" := by
  constructor
  · intro found
    unfold keyPrefix ofName? at found
    split at found
    · rename_i kept
      cases found
      split at kept <;> cases kept <;> exact ⟨by decide, rfl⟩
    · cases found
  · rintro ⟨isName, rfl⟩
    simp only [names, List.mem_cons, List.not_mem_nil, or_false] at isName
    rcases isName with rfl | rfl | rfl <;> rfl

/-- No text begins like a key of two schemes. -/
theorem dropBeginning_other
    {name other : String}
    (isName : name ∈ names)
    (isOther : other ∈ names)
    (differ : other ≠ name)
    (rest : List Char) :
    PrivateKey.dropBeginning (other ++ "-priv-").toList ((name ++ "-priv-").toList ++ rest) =
      none := by
  simp only [names, List.mem_cons, List.not_mem_nil, or_false] at isName isOther
  rcases isName with rfl | rfl | rfl <;> rcases isOther with rfl | rfl | rfl <;>
    first
    | exact absurd rfl differ
    | rfl

end KeyScheme

namespace PrivateKey

variable {name other text : String} {material : Value} {rest : List Char}

/-- Behind the beginning of its own scheme, key material is read whatever `strict` is. -/
theorem parseMaterial_own
    (isName : name ∈ KeyScheme.names)
    (textEq : text.toList = (name ++ "-priv-").toList ++ rest)
    (strict : Bool) :
    parseMaterial name strict (.text text) = octetsOfHex rest := by
  have marker := KeyScheme.keyPrefix_eq_ok_iff.mpr ⟨isName, rfl⟩
  simp only [parseMaterial, marker, Error.ok_bind, textEq, dropBeginning_append]

theorem parseMaterial_bytes
    (isName : name ∈ KeyScheme.names)
    (strict : Bool)
    (octets : Bytes) :
    parseMaterial name strict (.bytes octets) = .ok octets := by
  have marker := KeyScheme.keyPrefix_eq_ok_iff.mpr ⟨isName, rfl⟩
  simp only [parseMaterial, marker, Error.ok_bind]

/-- What begins like a private key of some scheme is not hexadecimal. -/
theorem octetsOfHex_named
    (isName : name ∈ KeyScheme.names)
    (textEq : text.toList = (name ++ "-priv-").toList ++ rest) :
    octetsOfHex text.toList = .error (.parse (.invalidHexKey text)) := by
  have dash : '-' ∈ text.toList := by
    rw [textEq, String.toList_append]
    simp
  have notHex : Bytes.ofHexDigits text.toList = none := by
    rw [Option.eq_none_iff_forall_ne_some]
    intro octets read
    exact absurd (Bytes.isHexDigit_or_isAsciiBlank read '-' dash) (by decide)
  have unmarked : Address.dropMarker text.toList = text.toList := by
    rw [textEq]
    simp only [KeyScheme.names, List.mem_cons, List.not_mem_nil, or_false] at isName
    rcases isName with rfl | rfl | rfl <;> rfl
  rw [octetsOfHex, unmarked, notHex, String.ofList_toList]

/-- A key of one scheme is no key of another one. -/
theorem parseMaterial_other
    (isName : name ∈ KeyScheme.names)
    (isOther : other ∈ KeyScheme.names)
    (differ : other ≠ name)
    (textEq : text.toList = (name ++ "-priv-").toList ++ rest)
    (strict : Bool) :
    parseMaterial other strict (.text text) =
      .error (.parse (if strict then .notPrefixedKey else .invalidHexKey text)) := by
  have marker := KeyScheme.keyPrefix_eq_ok_iff.mpr ⟨isOther, rfl⟩
  have foreign : dropBeginning (other ++ "-priv-").toList text.toList = none := by
    rw [textEq]
    exact KeyScheme.dropBeginning_other isName isOther differ rest
  simp only [parseMaterial, marker, Error.ok_bind, foreign, octetsOfHex_named isName textEq]
  cases strict <;> rfl

/-- What stands behind the beginning is read like the key material itself. -/
theorem behind_of_formatText (made : formatText name material = .ok text) :
    name ∈ KeyScheme.names ∧ ∃ rest, text.toList = (name ++ "-priv-").toList ++ rest ∧
      octetsOfHex rest = parseMaterial name false material := by
  obtain ⟨marker, found, formatted⟩ := Error.bind_eq_ok_iff.mp made
  obtain ⟨isName, rfl⟩ := KeyScheme.keyPrefix_eq_ok_iff.mp found
  refine ⟨isName, ?_⟩
  simp only [parseMaterial, found, Error.ok_bind]
  cases material with
  | bytes octets =>
      cases formatted
      refine ⟨'0' :: 'x' :: Bytes.hexDigits octets, by simp [Bytes.hex], ?_⟩
      rw [octetsOfHex, Address.dropMarker_cons, Bytes.ofHexDigits_hexDigits]
  | text given =>
      simp only at formatted ⊢
      split at formatted
      · rename_i behind dropped
        cases formatted
        exact ⟨behind, dropBeginning_eq_some_iff.mp dropped, by rw [dropped]⟩
      · rename_i digits absent marked
        cases formatted
        exact ⟨given.toList, by simp, by rw [absent]; rfl⟩
      · rename_i absent unmarked
        cases formatted
        refine ⟨'0' :: 'x' :: given.toList, by simp, ?_⟩
        rw [absent, octetsOfHex, octetsOfHex, Address.dropMarker_cons,
          Address.dropMarker_of_unmarked unmarked]
        rfl
  | _ => cases formatted

/-- The prefixed form is read like the key material that it is made of, whatever `strict` is. -/
theorem parseMaterial_formatText
    (made : formatText name material = .ok text)
    (strict : Bool) :
    parseMaterial name strict (.text text) = parseMaterial name false material := by
  obtain ⟨isName, rest, textEq, same⟩ := behind_of_formatText made
  rw [parseMaterial_own isName textEq, same]

/-- The prefixed form is not formatted once more. -/
theorem formatText_formatText (made : formatText name material = .ok text) :
    formatText name (.text text) = .ok text := by
  obtain ⟨isName, rest, textEq, -⟩ := behind_of_formatText made
  have marker := KeyScheme.keyPrefix_eq_ok_iff.mpr ⟨isName, rfl⟩
  simp only [formatText, marker, Error.ok_bind, textEq, dropBeginning_append]

/-- Every scheme with private keys formats octets and texts. -/
theorem exists_formatText
    (isName : name ∈ KeyScheme.names)
    (octets : Bytes) :
    ∃ text, formatText name (.bytes octets) = .ok text := by
  have marker := KeyScheme.keyPrefix_eq_ok_iff.mpr ⟨isName, rfl⟩
  simp only [formatText, marker, Error.ok_bind]
  exact ⟨_, rfl⟩

/-! ## Keys -/

variable (key : PrivateKey)

theorem schemeName_mem_names : key.schemeName ∈ KeyScheme.names := by
  rcases key with _ | ⟨_ | _, _⟩ <;> simp [schemeName, KeyScheme.names]

theorem ofName_schemeName : KeyScheme.ofName? key.schemeName = some key.scheme := by
  rcases key with _ | ⟨_ | _, _⟩ <;> rfl

/-- A private key is read back from its octets. -/
theorem ofBytes_bytes : ofBytes key.scheme key.bytes = .ok key := by
  cases key with
  | ed25519 seed => exact Error.map_eq_ok_iff.mpr ⟨seed, Octets.expect_eq_ok_iff.mpr rfl, rfl⟩
  | ecdsa curve secret =>
      apply Error.map_eq_ok_iff.mpr
      have small : secret.scalar < 256 ^ (32 : Nat) :=
        Nat.lt_trans secret.below_order (by cases curve <;> decide)
      have number : Bytes.ofBigEndian (Bytes.bigEndian 32 secret.scalar) = secret.scalar := by
        rw [Bytes.ofBigEndian_bigEndian, Nat.mod_eq_of_lt small]
      refine ⟨secret, ?_, rfl⟩
      simp only [bytes, EcdsaPrivateKey.bytes, EcdsaPrivateKey.ofBytes, Bytes.bigEndian_length,
        if_true, number, secret.positive, secret.below_order, and_self, dif_pos]

/-- The printed form is the prefixed form of the octets. -/
theorem formatText_bytes : formatText key.schemeName (.bytes key.bytes) = .ok key.text := by
  have marker := KeyScheme.keyPrefix_eq_ok_iff.mpr ⟨key.schemeName_mem_names, rfl⟩
  simp only [formatText, marker, Error.ok_bind, text, hexText, String.append_assoc]

/-- A private key is read back from its printed form by its own scheme, whatever `strict` is. -/
theorem load_text (strict : Bool) :
    load key.schemeName strict (.text key.text) = .ok key := by
  have octetsRead : parseMaterial key.schemeName strict (.text key.text) = .ok key.bytes := by
    rw [parseMaterial_formatText key.formatText_bytes]
    exact parseMaterial_bytes key.schemeName_mem_names false key.bytes
  rw [load, octetsRead]
  simp only [Error.ok_bind, ofName_schemeName, ofBytes_bytes]

theorem namedScheme_text : namedScheme key.text.toList = key.schemeName := by
  obtain ⟨isName, rest, textEq, -⟩ := behind_of_formatText key.formatText_bytes
  have begins (name : String) (isOther : name ∈ KeyScheme.names) :
      (dropBeginning (name ++ "-priv-").toList key.text.toList).isSome =
        decide (name = key.schemeName) := by
    rw [textEq]
    by_cases own : name = key.schemeName
    · rw [own, dropBeginning_append, decide_eq_true rfl]
      rfl
    · rw [KeyScheme.dropBeginning_other isName isOther own, decide_eq_false own]
      rfl
  rw [namedScheme, List.find?_cons, List.find?_singleton, begins _ (by decide),
    begins _ (by decide)]
  rcases key with _ | ⟨_ | _, _⟩ <;> rfl

/-- The scheme that the printed form is read by is that of the key. -/
theorem ofText_text : ofText key.text = .ok key := by
  rw [ofText, namedScheme_text]
  exact key.load_text false

end PrivateKey

end MoveClient
