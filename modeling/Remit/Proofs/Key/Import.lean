import Remit.Key.Private
import Remit.Proofs.Base58

/-!
# Keys in import format

A text in import format holds the version byte of a network, a secret of 32 bytes, and a byte 1 if the key is used with
short public keys. Such texts and no others are loaded, each as the key that it holds, and all others are refused as bad
keys. A key is written with the byte 1, so only a text that holds this byte is what is written of its key.
-/

namespace Remit.PrivateKey

/-- What a text in import format holds. -/
structure Import where
  version : UInt8
  network : String
  secret : Bytes
  /-- Is the key used with short public keys? -/
  isShort : Bool
  mem_versions : (version, network) ∈ versions
  length_secret : secret.length = 32
  isValid : 0 < Bytes.toNatBE secret ∧ Bytes.toNatBE secret < Curve.order

namespace Import

/-- The bytes that are written behind each other. -/
def payload (i : Import) : Bytes := i.version :: i.secret ++ if i.isShort then [1] else []

/-- The text. -/
def text (i : Import) : Text := Base58.encodeCheck i.payload

/-- The key with the secret, on the network. -/
def key (i : Import) : PrivateKey := ⟨Bytes.toNatBE i.secret, i.network, i.isValid⟩

/-- The same key, with the byte for short public keys. -/
def short (i : Import) : Import := { i with isShort := true }

end Import

variable {bs secret : Bytes} {key : PrivateKey} {network : Value} {t : Text}

/-! ## Secrets -/

theorem ofBytes_eq_ok :
    ofBytes bs network = .ok key ↔ bs.length = 32 ∧ Bytes.toNatBE bs = key.secret ∧ network = key.network := by
  constructor
  · intro h
    rw [ofBytes] at h
    split at h
    case isTrue => cases h
    case isFalse hl =>
      dsimp only at h
      split at h
      case isTrue hv =>
        cases h
        exact ⟨Decidable.not_not.mp hl, rfl, rfl⟩
      case isFalse => cases h
  · rintro ⟨hl, hs, rfl⟩
    obtain ⟨_, network, hv⟩ := key
    cases hs
    rw [ofBytes, if_neg (not_not.mpr hl)]
    exact dif_pos hv

theorem exists_reason_of_ofBytes_eq_error {e : Error} (h : ofBytes bs network = .error e) :
    ∃ reason, e = .invalidPrivateKey reason := by
  rw [ofBytes] at h
  split at h
  case isTrue =>
    cases h
    exact ⟨_, rfl⟩
  case isFalse =>
    dsimp only at h
    split at h
    case isTrue => cases h
    case isFalse =>
      cases h
      exact ⟨_, rfl⟩

/-- A byte 1 is left out only where it makes one byte too many, so a secret that ends in 1 is kept as it is. -/
theorem secretPart_eq (h : secret.length = 32) :
    secretPart bs = secret ↔ ∃ isShort : Bool, bs = secret ++ if isShort then [1] else [] := by
  constructor
  · intro hs
    rw [secretPart] at hs
    split at hs
    case isTrue hone =>
      subst hs
      exact ⟨true, (List.dropLast_append_getLast? 1 hone.2).symm⟩
    case isFalse =>
      subst hs
      exact ⟨false, (List.append_nil _).symm⟩
  · rintro ⟨_ | _, rfl⟩
    · change secretPart (secret ++ []) = secret
      rw [List.append_nil, secretPart, if_neg (by omega)]
    · change secretPart (secret ++ [1]) = secret
      have hl : (secret ++ [1]).length = 33 := by rw [List.length_append, h, List.length_singleton]
      rw [secretPart, if_pos ⟨hl, List.getLast?_concat⟩, List.dropLast_concat]

/-- A secret takes up 32 bytes, and these give it back. -/
theorem toNatBE_bytes (key : PrivateKey) : Bytes.toNatBE key.bytes = key.secret := by
  rw [bytes, Bytes.toNatBE_ofNatBE]
  exact Nat.mod_eq_of_lt (Nat.lt_trans key.isValid.2 (by decide))

theorem Import.bytes_key (i : Import) : i.key.bytes = i.secret := by
  change Bytes.ofNatBE 32 (Bytes.toNatBE i.secret) = _
  rw [← i.length_secret, Bytes.ofNatBE_toNatBE]

/-! ## Networks -/

theorem lookup_of_mem_versions : ∀ v ∈ versions, versions.lookup v.1 = some v.2 := by decide

theorem find?_of_mem_versions :
    ∀ v ∈ versions, (versions.find? fun w => Value.text w.2 == Value.text v.2) = some v := by decide

theorem exists_mem_versions (h : key.network = "mainnet" ∨ key.network = "testnet") :
    ∃ v ∈ versions, key.network = .text v.2 := by
  rcases h with h | h
  · exact ⟨(0x80, "mainnet"), by decide, h⟩
  · exact ⟨(0xef, "testnet"), by decide, h⟩

/-- A key on a known network is what some text in import format holds. -/
theorem exists_import_of_network (h : key.network = "mainnet" ∨ key.network = "testnet") :
    ∃ i : Import, i.isShort = true ∧ i.key = key := by
  obtain ⟨v, hv, hn⟩ := exists_mem_versions h
  have hs := key.toNatBE_bytes
  refine ⟨⟨v.1, v.2, key.bytes, true, hv, Bytes.length_ofNatBE _ _, hs ▸ key.isValid⟩, rfl, ?_⟩
  cases key
  simp only [Import.key, hs, ← hn]

/-! ## Writing -/

theorem Import.payload_short (i : Import) : i.short.payload = i.version :: i.secret ++ [1] := rfl

theorem Import.importText_key (i : Import) : i.key.importText = .ok i.short.text := by
  have hnetwork : i.key.network = .text i.network := rfl
  rw [importText, hnetwork, find?_of_mem_versions (i.version, i.network) i.mem_versions]
  dsimp only
  rw [i.bytes_key, Import.text, i.payload_short]

/-! ## Reading -/

theorem ofPayload_eq_ok : ofPayload bs = .ok key ↔ ∃ i : Import, i.payload = bs ∧ i.key = key := by
  constructor
  · intro h
    cases bs with
    | nil => cases h
    | cons version rest =>
      rw [ofPayload] at h
      split at h
      case h_1 => cases h
      case h_2 network hlookup =>
        obtain ⟨before, after, hversions, -⟩ := List.lookup_eq_some_iff.mp hlookup
        have hmem : (version, network) ∈ versions := hversions ▸ List.mem_append_right _ List.mem_cons_self
        obtain ⟨hl, hs, hn⟩ := ofBytes_eq_ok.mp h
        obtain ⟨isShort, hrest⟩ := (secretPart_eq hl).mp rfl
        refine ⟨⟨version, network, secretPart rest, isShort, hmem, hl, hs ▸ key.isValid⟩, ?_, ?_⟩
        · exact congrArg _ hrest.symm
        · obtain ⟨_, _, _⟩ := key
          cases hs
          cases hn
          rfl
  · rintro ⟨i, rfl, rfl⟩
    have hlookup : versions.lookup i.version = some i.network := lookup_of_mem_versions _ i.mem_versions
    rw [Import.payload, List.cons_append, ofPayload, hlookup]
    dsimp only
    rw [(secretPart_eq i.length_secret).mpr ⟨i.isShort, rfl⟩]
    exact ofBytes_eq_ok.mpr ⟨i.length_secret, rfl, rfl⟩

theorem exists_reason_of_ofPayload_eq_error {e : Error} (h : ofPayload bs = .error e) :
    ∃ reason, e = .invalidPrivateKey reason := by
  rw [ofPayload.eq_def] at h
  split at h
  case h_1 =>
    cases h
    exact ⟨_, rfl⟩
  case h_2 =>
    split at h
    case h_1 =>
      cases h
      exact ⟨_, rfl⟩
    case h_2 => exact exists_reason_of_ofBytes_eq_error h

/-- A text is loaded as what is read behind its check. -/
theorem ofImport_of_decodeCheck (h : Base58.decodeCheck t = .ok bs) : ofImport (.text t) = ofPayload bs := by
  have hv : Base58.decodeCheckValue (.text t) = .ok bs := h
  rw [ofImport, hv]

theorem ofImport_of_error {e : Error} (h : Base58.decodeCheck t = .error e) :
    ofImport (.text t) = .error (.invalidPrivateKey e) := by
  have hv : Base58.decodeCheckValue (.text t) = .error e := h
  have he := Base58.isBase58_of_decodeCheck h
  rw [ofImport, hv]
  cases e <;> first | rfl | cases he

theorem ofImport_eq_ok : ofImport (.text t) = .ok key ↔ ∃ i : Import, i.text = t ∧ i.key = key := by
  cases h : Base58.decodeCheck t with
  | ok bs =>
    obtain rfl := (Base58.decodeCheck_eq_ok Base58.four_le_length_doubleHash).mp h
    rw [ofImport_of_decodeCheck h, ofPayload_eq_ok]
    refine exists_congr fun i => and_congr_left fun _ => ?_
    exact ⟨fun hp => congrArg (Base58.encodeCheck ·) hp, fun ht => Base58.encodeCheck_injective ht⟩
  | error e =>
    rw [ofImport_of_error h]
    refine iff_of_false (fun h => nomatch h) ?_
    rintro ⟨i, rfl, -⟩
    cases h.symm.trans ((Base58.decodeCheck_eq_ok Base58.four_le_length_doubleHash).mpr rfl)

theorem exists_reason_of_ofImport_eq_error {e : Error} (h : ofImport (.text t) = .error e) :
    ∃ reason, e = .invalidPrivateKey reason := by
  cases hd : Base58.decodeCheck t with
  | ok bs =>
    rw [ofImport_of_decodeCheck hd] at h
    exact exists_reason_of_ofPayload_eq_error h
  | error e' =>
    cases h.symm.trans (ofImport_of_error hd)
    exact ⟨e', rfl⟩

/-- The byte 1 makes the difference between a text and what is written of its key. -/
theorem Import.importText_key_eq_text_iff (i : Import) : i.key.importText = .ok i.text ↔ i.isShort = true := by
  rw [i.importText_key, Except.ok.injEq]
  constructor
  · intro h
    have hp := Base58.encodeCheck_injective h
    rw [i.payload_short, payload] at hp
    cases hs : i.isShort with
    | true => rfl
    | false => simp [hs] at hp
  · intro h
    rw [short, ← h]

/-- A key on a known network is loaded from what is written of it. A text is loaded if and only if it holds a valid
secret in import format, and then as the key with this secret on the network of its version byte; what is written of the
key is that text again if and only if the text holds the byte 1. Every other text is refused as a bad key. -/
theorem ofImport_reads_imports (t : Text) :
    (∀ key : PrivateKey, key.network = "mainnet" ∨ key.network = "testnet" →
        ∃ u, key.importText = .ok u ∧ ofImport (.text u) = .ok key) ∧
      (∀ key, ofImport (.text t) = .ok key ↔ ∃ i : Import, i.text = t ∧ i.key = key) ∧
      (∀ i : Import, i.text = t → i.key.bytes = i.secret ∧ (i.key.importText = .ok t ↔ i.isShort = true)) ∧
      ((∀ i : Import, i.text ≠ t) → ∃ reason, ofImport (.text t) = .error (.invalidPrivateKey reason)) := by
  refine ⟨fun key hn => ?_, fun key => ofImport_eq_ok, ?_, fun hnone => ?_⟩
  · obtain ⟨i, -, rfl⟩ := exists_import_of_network hn
    exact ⟨i.short.text, i.importText_key, ofImport_eq_ok.mpr ⟨i.short, rfl, rfl⟩⟩
  · rintro i rfl
    exact ⟨i.bytes_key, i.importText_key_eq_text_iff⟩
  · cases h : ofImport (.text t) with
    | ok key =>
      obtain ⟨i, hi, -⟩ := ofImport_eq_ok.mp h
      exact absurd hi (hnone i)
    | error e =>
      obtain ⟨reason, rfl⟩ := exists_reason_of_ofImport_eq_error h
      exact ⟨reason, rfl⟩

/-- A secret that ends in the byte 1 is loaded whole from a text without that byte behind it, so another text is written
of its key. The check of an empty payload holds no key. -/
theorem ofImport_reads_imports_one :
    ∃ i : Import, i.secret = List.replicate 31 0 ++ [1] ∧ i.isShort = false ∧
      i.text = ("5HpHagT65TZzG1PH3CSu63k8DbpvD8s5ip4nEB3kEsreAnchuDf" : Text) ∧
      ofImport (.text "5HpHagT65TZzG1PH3CSu63k8DbpvD8s5ip4nEB3kEsreAnchuDf") = .ok i.key ∧ i.key.bytes = i.secret ∧
      ¬ i.key.importText = .ok ("5HpHagT65TZzG1PH3CSu63k8DbpvD8s5ip4nEB3kEsreAnchuDf" : Text) ∧
      (∃ u, i.key.importText = .ok u ∧ ofImport (.text u) = .ok i.key) ∧
      ∃ reason, ofImport (.text "3QJmnh") = .error (.invalidPrivateKey reason) := by
  have hexists : ∃ i : Import, i.secret = List.replicate 31 0 ++ [1] ∧ i.isShort = false ∧ i.network = "mainnet" ∧
      i.text = ("5HpHagT65TZzG1PH3CSu63k8DbpvD8s5ip4nEB3kEsreAnchuDf" : Text) := by
    refine ⟨⟨0x80, "mainnet", List.replicate 31 0 ++ [1], false, by decide, by decide, by decide⟩, rfl, rfl, rfl, ?_⟩
    decide +kernel
  obtain ⟨i, hsecret, hshort, hnetwork, ht⟩ := hexists
  obtain ⟨hround, hload, hwrite, -⟩ := ofImport_reads_imports "5HpHagT65TZzG1PH3CSu63k8DbpvD8s5ip4nEB3kEsreAnchuDf"
  obtain ⟨-, -, -, hrefused⟩ := ofImport_reads_imports "3QJmnh"
  have hloaded := (hload i.key).mpr ⟨i, ht, rfl⟩
  obtain ⟨hbytes, hiff⟩ := hwrite i ht
  have hlong : ¬ i.key.importText = .ok ("5HpHagT65TZzG1PH3CSu63k8DbpvD8s5ip4nEB3kEsreAnchuDf" : Text) := by
    rw [hiff, hshort]
    decide
  have hmainnet : i.key.network = "mainnet" := congrArg Value.text (congrArg Text.ofString hnetwork)
  have hnone (j : Import) : j.text ≠ ("3QJmnh" : Text) := by
    intro hj
    cases Base58.encodeCheck_injective (hj.trans Base58.encodeCheck_nil.symm)
  exact ⟨i, hsecret, hshort, ht, hloaded, hbytes, hlong, hround i.key (.inl hmainnet), hrefused hnone⟩

end Remit.PrivateKey
