import WireguardPanel.Foundation.Base64
import WireguardPanel.Foundation.Text
import WireguardPanel.Foundation.Utf8

/-!
# Stored secrets

A secret is stored as a text that holds the nonce, the tag and the ciphertext of
an authenticated encryption with AES-256-GCM.

* `encryptionKey`: the key that a text spells.
* `encryptSecretWithKey`, `decryptSecretWithKey`: a secret and its plaintext.
* `Gcm.Ideal`: what is relied on of the cipher.
* `decryptSecretWithKey_encrypt`, `decryptSecretWithKey_other`: what the right key
  and another one make of a secret.
-/

namespace WireguardPanel

open Foundation

/-! ## Keys -/

/-- The value of a hexadecimal digit. -/
def hexDigit (c : Char) : Option ℕ :=
  if '0' ≤ c ∧ c ≤ '9' then some (c.toNat - 48)
  else if 'a' ≤ c ∧ c ≤ 'f' then some (c.toNat - 87)
  else if 'A' ≤ c ∧ c ≤ 'F' then some (c.toNat - 55)
  else none

/-- The bytes that pairs of digits spell. -/
def hexBytes : List ℕ → List UInt8
  | a :: b :: rest => UInt8.ofNat (a * 16 + b) :: hexBytes rest
  | _ => []

/-- `encryptionKey`. -/
def encryptionKey (raw : String) : Except String (List UInt8) :=
  let decoded :=
    if raw.toList.length = 64 ∧ raw.toList.all (fun c => (hexDigit c).isSome) then
      hexBytes (raw.toList.filterMap hexDigit)
    else Base64.decode raw.toList
  if decoded.length = 32 then .ok decoded
  else .error "APP_ENCRYPTION_KEY must decode to exactly 32 bytes."

theorem encryptionKey_length {raw : String} {key : List UInt8} (h : encryptionKey raw = .ok key) :
    key.length = 32 := by
  unfold encryptionKey at h
  dsimp only at h
  split_ifs at h with hhex hlength hlength <;> cases h <;> exact hlength

/-! ## Secrets -/

/-- The cipher of `createCipheriv` and `createDecipheriv`. -/
structure Gcm where
  /-- The ciphertext and the tag, given a key, a nonce and a plaintext. -/
  encrypt : List UInt8 → List UInt8 → List UInt8 → List UInt8 × List UInt8
  /-- The plaintext, given a key, a nonce, a tag and a ciphertext. -/
  decrypt : List UInt8 → List UInt8 → List UInt8 → List UInt8 → Option (List UInt8)

/-- What is relied on of the cipher: the right key gives the plaintext, another
    one fails, and a tag has 16 bytes. -/
structure Gcm.Ideal (G : Gcm) : Prop where
  decrypt_encrypt : ∀ key nonce plaintext, G.decrypt key nonce (G.encrypt key nonce plaintext).2
    (G.encrypt key nonce plaintext).1 = some plaintext
  other_key : ∀ key key' nonce plaintext, key.length = 32 → key'.length = 32 → key ≠ key' →
    G.decrypt key' nonce (G.encrypt key nonce plaintext).2 (G.encrypt key nonce plaintext).1 = none
  tag_length : ∀ key nonce plaintext, (G.encrypt key nonce plaintext).2.length = 16

/-- Bytes as they stand in a secret. -/
def base64url (bytes : List UInt8) : String := String.ofList (Base64.encode bytes)

section Cipher

variable (G : Gcm)

/-- `encryptSecretWithKey`, with the nonce that `randomBytes` gives. -/
def encryptSecretWithKey (iv : List UInt8) (value rawKey : String) : Except String String := do
  let key ← encryptionKey rawKey
  let (ciphertext, tag) := G.encrypt key iv (Utf8.encode value)
  return Text.join "." ["v1", base64url iv, base64url tag, base64url ciphertext]

/-- `decryptSecretWithKey`. -/
def decryptSecretWithKey (payload rawKey : String) : Except String String :=
  match Text.split '.' payload with
  | version :: ivRaw :: tagRaw :: ciphertextRaw :: _ =>
    if version ≠ "v1" ∨ ivRaw = "" ∨ tagRaw = "" then throw "Invalid encrypted value."
    else do
      let key ← encryptionKey rawKey
      match G.decrypt key (Base64.decode ivRaw.toList) (Base64.decode tagRaw.toList)
          (Base64.decode ciphertextRaw.toList) with
      | some bytes => return Utf8.decode bytes
      | none => throw "Unsupported state or unable to authenticate data"
  | _ => throw "Invalid encrypted value."

end Cipher

/-! ## Reading a secret -/

section Ideal

variable {G : Gcm} {iv key : List UInt8} {value rawKey payload : String}

theorem base64url_ne_empty {bytes : List UInt8} (h : bytes ≠ []) : base64url bytes ≠ "" :=
  fun hempty => Base64.encode_ne_nil h <| by
    have hlist := congrArg String.toList hempty
    rwa [base64url, String.toList_ofList] at hlist

theorem decode_base64url (bytes : List UInt8) : Base64.decode (base64url bytes).toList = bytes := by
  rw [base64url, String.toList_ofList, Base64.decode_encode]

/-- What any key makes of a secret: the parts of the envelope are read back as
    they were written. -/
theorem decryptSecretWithKey_eq (hideal : G.Ideal) (hiv : iv.length = 12)
    (hkey : encryptionKey rawKey = .ok key)
    (h : encryptSecretWithKey G iv value rawKey = .ok payload) (other : String) :
    decryptSecretWithKey G payload other = (do
      let key' ← encryptionKey other
      match G.decrypt key' iv (G.encrypt key iv (Utf8.encode value)).2
          (G.encrypt key iv (Utf8.encode value)).1 with
      | some bytes => return Utf8.decode bytes
      | none => throw "Unsupported state or unable to authenticate data") := by
  rw [encryptSecretWithKey, hkey] at h
  cases h
  have htag := hideal.tag_length key iv (Utf8.encode value)
  have hparts : ∀ s ∈ ["v1", base64url iv,
      base64url (G.encrypt key iv (Utf8.encode value)).2,
      base64url (G.encrypt key iv (Utf8.encode value)).1], '.' ∉ s.toList := by
    have hdot : ∀ bytes, '.' ∉ (base64url bytes).toList := fun bytes => by
      rw [base64url, String.toList_ofList]
      exact Base64.dot_not_mem_encode bytes
    simp only [List.forall_mem_cons, hdot, not_false_eq_true, true_and]
    exact ⟨by decide, nofun⟩
  have hiv' : base64url iv ≠ "" := base64url_ne_empty fun hnil => by
    rw [hnil] at hiv
    cases hiv
  have htag' : base64url (G.encrypt key iv (Utf8.encode value)).2 ≠ "" :=
    base64url_ne_empty fun hnil => by
      rw [hnil] at htag
      cases htag
  unfold decryptSecretWithKey
  rw [show ("." : String) = String.singleton '.' from rfl, Text.split_join (by simp) hparts]
  dsimp only
  rw [if_neg (by simp [hiv', htag'])]
  simp only [decode_base64url]

/-- A secret is made with a key. -/
theorem encryptionKey_of_encrypt (h : encryptSecretWithKey G iv value rawKey = .ok payload) :
    ∃ key, encryptionKey rawKey = .ok key := by
  cases hkey : encryptionKey rawKey with
  | ok key => exact ⟨key, rfl⟩
  | error e =>
    rw [encryptSecretWithKey, hkey] at h
    cases h

/-- The right key gives the plaintext. -/
theorem decryptSecretWithKey_encrypt (hideal : G.Ideal) (hiv : iv.length = 12)
    (h : encryptSecretWithKey G iv value rawKey = .ok payload) :
    decryptSecretWithKey G payload rawKey = .ok value := by
  obtain ⟨key, hkey⟩ := encryptionKey_of_encrypt h
  rw [decryptSecretWithKey_eq hideal hiv hkey h, hkey]
  change (match G.decrypt key iv _ _ with | some bytes => _ | none => _) = _
  rw [hideal.decrypt_encrypt]
  exact congrArg Except.ok (Utf8.decode_encode value)

/-- Another key gives nothing. -/
theorem decryptSecretWithKey_other (hideal : G.Ideal) (hiv : iv.length = 12)
    (h : encryptSecretWithKey G iv value rawKey = .ok payload) {other : String}
    (hother : encryptionKey other ≠ encryptionKey rawKey) :
    ∃ e, decryptSecretWithKey G payload other = .error e := by
  obtain ⟨key, hkey⟩ := encryptionKey_of_encrypt h
  rw [decryptSecretWithKey_eq hideal hiv hkey h]
  cases hkey' : encryptionKey other with
  | error e => exact ⟨e, rfl⟩
  | ok key' =>
    have hne : key ≠ key' := fun hsame => hother (by rw [hkey, hkey', hsame])
    have hnone := hideal.other_key key key' iv (Utf8.encode value) (encryptionKey_length hkey)
      (encryptionKey_length hkey') hne
    refine ⟨"Unsupported state or unable to authenticate data", ?_⟩
    change (match G.decrypt key' iv _ _ with | some bytes => _ | none => _) = _
    rw [hnone]
    rfl

end Ideal

end WireguardPanel
