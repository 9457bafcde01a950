import MoveClient.Account
import MoveClient.Key.Generation
import MoveClient.Proofs.Key.Text
import MoveClient.Proofs.Value.JsonText

/-!
Stored accounts.

Owns:
- that the texts of addresses and private keys are plain;
- that a stored account is read back, with its address and with a key of the same scheme.

Does not own: where an account is stored.
-/

namespace MoveClient

/-! ## Plain texts -/

theorem JsonText.isPlainCharacter_of_isHexDigit
    {c : Char}
    (digit : isHexDigit c = true) :
    IsPlainCharacter c := by
  have order (left right : Char) : left ≤ right ↔ left.toNat ≤ right.toNat := Iff.rfl
  have ranges : (48 ≤ c.toNat ∧ c.toNat ≤ 57) ∨ (97 ≤ c.toNat ∧ c.toNat ≤ 102) ∨
      (65 ≤ c.toNat ∧ c.toNat ≤ 70) := by
    simp only [isHexDigit, hexDigitValue?, order, Char.reduceToNat] at digit
    split at digit
    · exact .inl ‹_›
    · split at digit
      · exact .inr (.inl ‹_›)
      · split at digit
        · exact .inr (.inr ‹_›)
        · cases digit
  have other {d : Char} (outside : d.toNat = 34 ∨ d.toNat = 92) : c ≠ d := by
    rintro rfl
    omega
  exact ⟨other (.inl rfl), other (.inr rfl), by omega, by omega⟩

theorem Address.isPlain_text (address : Address) : JsonText.IsPlain address.text := by
  obtain ⟨digits, textEq, _, _, values, valued, _⟩ := address.spelledBy_text
  have allDigits := List.all_eq_true.mp (exists_values_iff.mp ⟨values, valued⟩)
  rw [JsonText.IsPlain, textEq]
  refine List.forall_mem_cons.mpr ⟨by decide, List.forall_mem_cons.mpr ⟨by decide, ?_⟩⟩
  exact fun c member => JsonText.isPlainCharacter_of_isHexDigit (allDigits c member)

theorem Bytes.isPlain_hex (octets : Bytes) : JsonText.IsPlain octets.hex := by
  obtain ⟨values, valued, _⟩ := Address.exists_values_hexDigits octets
  have allDigits := List.all_eq_true.mp (Address.exists_values_iff.mp ⟨values, valued⟩)
  intro c member
  rw [hex, String.toList_ofList] at member
  exact JsonText.isPlainCharacter_of_isHexDigit (allDigits c member)

theorem PrivateKey.isPlain_text (key : PrivateKey) : JsonText.IsPlain key.text := by
  have scheme : JsonText.IsPlain key.schemeName := by
    rcases key with _ | ⟨_ | _, _⟩ <;> rw [schemeName] <;> decide
  simp only [text, hexText, JsonText.isPlain_append_iff]
  exact ⟨⟨scheme, by decide⟩, by decide, Bytes.isPlain_hex key.bytes⟩

/-! ## Accounts -/

namespace Account

/-- What is stored is an object of two texts. -/
theorem ofJson_store (account : Account) :
    Value.ofJson account.store =
      .ok (.map [
        (.text "account_address", .text account.address.text),
        (.text "private_key", .text account.key.text)]) := by
  let fields : List JsonText.Field :=
    [("account_address", account.address.text), ("private_key", account.key.text)]
  have namesPlain : JsonText.IsPlain "account_address" ∧ JsonText.IsPlain "private_key" := by
    decide
  have plain : ∀ field ∈ fields, field.IsPlain := by
    refine List.forall_mem_cons.mpr ⟨⟨namesPlain.1, account.address.isPlain_text⟩, ?_⟩
    exact List.forall_mem_singleton.mpr ⟨namesPlain.2, account.key.isPlain_text⟩
  have entries : Value.entriesOf (fields.map JsonText.Field.entry) =
      fields.map JsonText.Field.entry := by
    have distinct : ("account_address" == "private_key") = false := by decide
    simp only [fields, List.map_cons, List.map_nil, JsonText.Field.entry, Value.entriesOf,
      List.foldl_cons, List.foldl_nil, Value.setEntry, Value.same, distinct, Bool.false_eq_true,
      if_false]
  have read := Value.ofJson_json plain
  rw [entries] at read
  exact read

/-- An account is read back from what was stored. -/
theorem load_store (account : Account) : load account.store = .ok account := by
  have addressRead : Address.parseRelaxed account.address.text = .ok account.address := by
    obtain ⟨digits, textEq, spelled⟩ := account.address.spelledBy_text
    rw [Address.parseRelaxed_eq_ok_iff, textEq]
    exact spelled
  rw [load, account.ofJson_store]
  have addressStored : Value.required "account_address" (.map [
      (.text "account_address", .text account.address.text),
      (.text "private_key", .text account.key.text)]) = .ok (.text account.address.text) := rfl
  have keyStored : Value.required "private_key" (.map [
      (.text "account_address", .text account.address.text),
      (.text "private_key", .text account.key.text)]) = .ok (.text account.key.text) := rfl
  have addressGiven : Value.toAddressOfText (.text account.address.text) = .ok account.address := by
    have isText : (Value.text account.address.text).kindName = "str" := rfl
    rw [Value.toAddressOfText, if_pos isText, Value.toAddress, addressRead]
  simp only [Error.ok_bind, addressStored, addressGiven, keyStored, PrivateKey.ofValue,
    account.key.ofText_text]

end Account

/-- The text of a private key changes neither the key nor its scheme. What is formatted for a scheme
is read by this scheme as the key material that was formatted, is not changed by formatting it once
more, and is refused by every other scheme, all of this whatever `strict` is. So an account that was
stored is read back. -/
theorem PrivateKey.text_keeps_key_and_scheme :
    (∀ name ∈ KeyScheme.names, ∀ octets : Bytes,
      ∃ text, formatText name (.bytes octets) = .ok text ∧
        ∀ strict, parseMaterial name strict (.text text) = .ok octets) ∧
    (∀ (name text : String) (material : Value), formatText name material = .ok text →
      formatText name (.text text) = .ok text ∧
      (∀ strict, parseMaterial name strict (.text text) = parseMaterial name false material) ∧
      ∀ other ∈ KeyScheme.names, other ≠ name → ∀ strict,
        parseMaterial other strict (.text text) =
          .error (.parse (if strict then .notPrefixedKey else .invalidHexKey text))) ∧
    (∀ key : PrivateKey, ofText key.text = .ok key ∧
      ∀ strict, load key.schemeName strict (.text key.text) = .ok key ∧
        ∀ other ∈ KeyScheme.names, other ≠ key.schemeName →
          load other strict (.text key.text) =
            .error (.parse (if strict then .notPrefixedKey else .invalidHexKey key.text))) ∧
    ∀ account : Account, Account.load account.store = .ok account := by
  have refused {name text other : String} {material : Value}
      (made : formatText name material = .ok text) (isOther : other ∈ KeyScheme.names)
      (differ : other ≠ name) (strict : Bool) :
      parseMaterial other strict (.text text) =
        .error (.parse (if strict then .notPrefixedKey else .invalidHexKey text)) := by
    obtain ⟨isName, rest, textEq, -⟩ := behind_of_formatText made
    exact parseMaterial_other isName isOther differ textEq strict
  refine ⟨?octets, ?formatted, ?keys, Account.load_store⟩
  case octets =>
    intro name isName octets
    obtain ⟨text, made⟩ := exists_formatText isName octets
    refine ⟨text, made, fun strict => ?_⟩
    rw [parseMaterial_formatText made]
    exact parseMaterial_bytes isName false octets
  case formatted =>
    intro name text material made
    exact ⟨formatText_formatText made, parseMaterial_formatText made,
      fun other isOther differ strict => refused made isOther differ strict⟩
  case keys =>
    intro key
    refine ⟨key.ofText_text, fun strict => ⟨key.load_text strict, ?_⟩⟩
    intro other isOther differ
    rw [load, refused key.formatText_bytes isOther differ]
    rfl

/-- An account at address one with a private key over secp256r1. -/
def Account.secp256r1One : Account :=
  ⟨.one, .ecdsa .secp256r1 (.ofNumber .secp256r1 7)⟩

theorem PrivateKey.text_keeps_key_and_scheme_secp256k1 :
    (∃ text, formatText "secp256k1" (.bytes [0x12, 0xab]) = .ok text ∧
      parseMaterial "secp256k1" true (.text text) = .ok [0x12, 0xab]) ∧
    (formatText "secp256k1" (.text "secp256k1-priv-0x12ab") = .ok "secp256k1-priv-0x12ab" ∧
      parseMaterial "secp256k1" true (.text "secp256k1-priv-0x12ab") =
        parseMaterial "secp256k1" false (.text "12ab") ∧
      parseMaterial "ed25519" false (.text "secp256k1-priv-0x12ab") =
        .error (.parse (.invalidHexKey "secp256k1-priv-0x12ab"))) ∧
    load "secp256k1" true (.text Account.secp256r1One.key.text) =
      .error (.parse .notPrefixedKey) ∧
    Account.load Account.secp256r1One.store = .ok Account.secp256r1One := by
  obtain ⟨octets, formatted, keys, stored⟩ := text_keeps_key_and_scheme
  have made : formatText "secp256k1" (.text "12ab") = .ok "secp256k1-priv-0x12ab" := rfl
  obtain ⟨text, textMade, textRead⟩ := octets "secp256k1" (by decide) [0x12, 0xab]
  obtain ⟨again, same, others⟩ := formatted _ _ _ made
  exact ⟨⟨text, textMade, textRead true⟩,
    ⟨again, same true, others "ed25519" (by decide) (by decide) false⟩,
    ((keys _).2 true).2 "secp256k1" (by decide) (by decide), stored _⟩

end MoveClient
