import WireguardPanel.Foundation.Sweep
import WireguardPanel.Peer
import WireguardPanel.Secrets

/-!
# The rotation of the encryption key

A script that encrypts every stored secret under a new key, in one transaction.
A secret that the old key does not open may have been rotated before.

* `rotateValue`, `rotateRouter`, `rotatePeer`, `rotateEncryptionKey`: the script.
* `rotateValue_old`, `rotateValue_new`, `rotateValue_neither`: what becomes of a
  secret.
* `rotateEncryptionKey_spec`: what becomes of the database, and what a second run
  does.
-/

namespace WireguardPanel

open Foundation

/-! ## The script -/

/-- The columns of a router that hold secrets. -/
structure RouterSecrets where
  id : String
  usernameEncrypted : String
  passwordEncrypted : String
  deriving DecidableEq

/-- The columns of a peer that hold secrets. -/
structure PeerSecrets where
  id : String
  privateKeyEncrypted : Option String
  presharedKeyEncrypted : Option String
  qrPngEncrypted : Option String
  qrSvgEncrypted : Option String
  deriving DecidableEq

/-- What `rotateValue` returns. -/
structure RotatedValue where
  value : String
  rotated : Bool

/-- What the script counts. -/
structure RotationResult where
  routers : ℕ
  peers : ℕ
  valuesRotated : ℕ
  deriving DecidableEq

/-- The tables that the script writes to. Of `audit_logs` these are the details
    of its own entries. -/
structure SecretStore where
  routers : List RouterSecrets
  peers : List PeerSecrets
  audits : List RotationResult
  deriving DecidableEq

/-- The primary keys. -/
structure SecretStore.Keyed (db : SecretStore) : Prop where
  routers : (db.routers.map RouterSecrets.id).Nodup
  peers : (db.peers.map PeerSecrets.id).Nodup

/-- What the script is run with: the cipher, the two keys, and the nonce that
    `randomBytes` gives for the secret with a label. -/
structure Rotation where
  cipher : Gcm
  oldKey : String
  newKey : String
  randomBytes : String → List UInt8

section Script

variable (R : Rotation)

/-- The part of `rotateValue` whose failure is caught. -/
def Rotation.reencrypt (value label : String) : Except String RotatedValue := do
  let plaintext ← decryptSecretWithKey R.cipher value R.oldKey
  let rotated ← encryptSecretWithKey R.cipher (R.randomBytes label) plaintext R.newKey
  let verified ← decryptSecretWithKey R.cipher rotated R.newKey
  if verified ≠ plaintext then throw "verification failed"
  else return ⟨rotated, true⟩

/-- `rotateValue`. -/
def rotateValue (value label : String) : Except String RotatedValue :=
  match R.reencrypt value label with
  | .ok rotated => .ok rotated
  | .error _ =>
    match decryptSecretWithKey R.cipher value R.newKey with
    | .ok _ => .ok ⟨value, false⟩
    | .error _ => .error (label ++
        " cannot be decrypted with either the old or new key. Rotation was rolled back.")

/-- `rotateRouter`: the row as the `UPDATE` writes it, and how many values are
    rotated. -/
def rotateRouter (router : RouterSecrets) : Except String (RouterSecrets × ℕ) := do
  let username ← rotateValue R router.usernameEncrypted ("Router " ++ router.id ++ " username")
  let password ← rotateValue R router.passwordEncrypted ("Router " ++ router.id ++ " password")
  return ({ router with usernameEncrypted := username.value, passwordEncrypted := password.value },
    username.rotated.toNat + password.rotated.toNat)

/-- The value of a column of a peer. An empty text is no secret, and is stored as
    null. -/
def rotateField (peerId field : String) (value : Option String) :
    Except String (Option String × ℕ) :=
  match filled value with
  | some value => do
    let rotated ← rotateValue R value ("Peer " ++ peerId ++ " " ++ field)
    return (some rotated.value, rotated.rotated.toNat)
  | none => return (none, 0)

/-- `rotatePeer`, likewise. -/
def rotatePeer (peer : PeerSecrets) : Except String (PeerSecrets × ℕ) := do
  let (privateKey, a) ← rotateField R peer.id "private_key_encrypted" peer.privateKeyEncrypted
  let (presharedKey, b) ← rotateField R peer.id "preshared_key_encrypted" peer.presharedKeyEncrypted
  let (qrPng, c) ← rotateField R peer.id "qr_png_encrypted" peer.qrPngEncrypted
  let (qrSvg, d) ← rotateField R peer.id "qr_svg_encrypted" peer.qrSvgEncrypted
  return ({ peer with
    privateKeyEncrypted := privateKey
    presharedKeyEncrypted := presharedKey
    qrPngEncrypted := qrPng
    qrSvgEncrypted := qrSvg }, a + b + c + d)

/-- The transaction of `main`. -/
def rotateSecrets (db : SecretStore) : Except String (RotationResult × SecretStore) := do
  let selectedRouters := db.routers.insertionSort fun r s => r.id ≤ s.id
  let selectedPeers := db.peers.insertionSort fun p q => p.id ≤ q.id
  let (a, routers) ← updateEach RouterSecrets.id (rotateRouter R) selectedRouters db.routers
  let (b, peers) ← updateEach PeerSecrets.id (rotatePeer R) selectedPeers db.peers
  let result := {
    routers := selectedRouters.length, peers := selectedPeers.length, valuesRotated := a + b }
  return (result, { routers, peers, audits := db.audits ++ [result] })

/-- `withTransaction`: what an error leaves is the database before it. -/
def withTransaction {α : Type} (callback : SecretStore → Except String (α × SecretStore))
    (db : SecretStore) : Except String α × SecretStore :=
  match callback db with
  | .ok (a, db') => (.ok a, db')
  | .error e => (.error e, db)

/-- `main`. -/
def rotateEncryptionKey (db : SecretStore) : Except String RotationResult × SecretStore :=
  if R.oldKey = "" then (.error "OLD_APP_ENCRYPTION_KEY is required.", db)
  else if R.newKey = "" then (.error "APP_ENCRYPTION_KEY is required.", db)
  else withTransaction (rotateSecrets R) db

end Script

/-! ## A value -/

/-- What is relied on of the parameters of the script: an ideal cipher, two keys
    that differ, and nonces of twelve bytes. -/
structure Rotation.Sound (R : Rotation) : Prop where
  ideal : R.cipher.Ideal
  old_key : ∃ key, encryptionKey R.oldKey = .ok key
  new_key : ∃ key, encryptionKey R.newKey = .ok key
  differ : encryptionKey R.oldKey ≠ encryptionKey R.newKey
  nonce : ∀ label, (R.randomBytes label).length = 12

namespace Rotation

/-- A key opens a value. -/
def Opens (R : Rotation) (rawKey value : String) : Prop :=
  ∃ plaintext, decryptSecretWithKey R.cipher value rawKey = .ok plaintext

/-- A value was produced by `encryptSecretWithKey`. -/
def Holds (R : Rotation) (rawKey value plaintext : String) : Prop :=
  ∃ iv, iv.length = 12 ∧ encryptSecretWithKey R.cipher iv plaintext rawKey = .ok value

/-- A value opens under the new key only. -/
def Settled (R : Rotation) (value : String) : Prop :=
  R.Opens R.newKey value ∧ ¬R.Opens R.oldKey value

end Rotation

section Values

variable {R : Rotation} {value label plaintext : String}

theorem Rotation.Sound.opens_holds (hR : R.Sound) {rawKey : String}
    (h : R.Holds rawKey value plaintext) :
    decryptSecretWithKey R.cipher value rawKey = .ok plaintext := by
  obtain ⟨iv, hiv, hencrypt⟩ := h
  exact decryptSecretWithKey_encrypt hR.ideal hiv hencrypt

/-- What is made with the new key is settled. -/
theorem Rotation.Sound.settled_holds (hR : R.Sound) (h : R.Holds R.newKey value plaintext) :
    R.Settled value := by
  refine ⟨⟨plaintext, hR.opens_holds h⟩, ?_⟩
  rintro ⟨other, hopens⟩
  obtain ⟨iv, hiv, hencrypt⟩ := h
  obtain ⟨e, hfails⟩ := decryptSecretWithKey_other hR.ideal hiv hencrypt hR.differ
  cases hfails.symm.trans hopens

/-- A value that the old key opens is encrypted under the new one. -/
theorem rotateValue_old (hR : R.Sound)
    (h : decryptSecretWithKey R.cipher value R.oldKey = .ok plaintext) :
    ∃ rotated, rotateValue R value label = .ok ⟨rotated, true⟩ ∧
      R.Holds R.newKey rotated plaintext := by
  obtain ⟨key, hkey⟩ := hR.new_key
  obtain ⟨rotated, hrotated⟩ : ∃ rotated,
      encryptSecretWithKey R.cipher (R.randomBytes label) plaintext R.newKey = .ok rotated := by
    rw [encryptSecretWithKey, hkey]
    exact ⟨_, rfl⟩
  have hholds : R.Holds R.newKey rotated plaintext := ⟨_, hR.nonce label, hrotated⟩
  refine ⟨rotated, ?_, hholds⟩
  have hreencrypt : R.reencrypt value label = .ok ⟨rotated, true⟩ := by
    rw [Rotation.reencrypt, h]
    change (encryptSecretWithKey _ _ _ _ >>= _) = _
    rw [hrotated]
    change (decryptSecretWithKey _ _ _ >>= _) = _
    rw [hR.opens_holds hholds]
    exact if_neg fun hne => hne rfl
  rw [rotateValue, hreencrypt]

theorem reencrypt_error (h : ¬R.Opens R.oldKey value) :
    ∃ e, R.reencrypt value label = .error e := by
  rw [Rotation.reencrypt]
  cases hopens : decryptSecretWithKey R.cipher value R.oldKey with
  | ok plaintext => exact absurd ⟨plaintext, hopens⟩ h
  | error e => exact ⟨e, rfl⟩

/-- A value that only the new key opens is left as it is. -/
theorem rotateValue_new (h : R.Settled value) : rotateValue R value label = .ok ⟨value, false⟩ := by
  obtain ⟨e, he⟩ := @reencrypt_error R value label h.2
  obtain ⟨plaintext, hopens⟩ := h.1
  rw [rotateValue, he]
  simp only [hopens]

/-- A value that neither key opens is an error. -/
theorem rotateValue_neither (hold : ¬R.Opens R.oldKey value) (hnew : ¬R.Opens R.newKey value) :
    ∃ e, rotateValue R value label = .error e := by
  obtain ⟨e, he⟩ := @reencrypt_error R value label hold
  rw [rotateValue, he]
  cases hopens : decryptSecretWithKey R.cipher value R.newKey with
  | ok plaintext => exact absurd ⟨plaintext, hopens⟩ hnew
  | error e => exact ⟨_, rfl⟩

/-- The plaintext that one value has under either key is that of the other under
    the new one. -/
def Rotation.Keeps (R : Rotation) (value value' : String) : Prop :=
  ∀ plaintext, R.Holds R.oldKey value plaintext ∨ R.Holds R.newKey value plaintext →
    decryptSecretWithKey R.cipher value' R.newKey = .ok plaintext

/-- What is returned for a value keeps its plaintext, and needs no other rotation. -/
theorem rotateValue_ok (hR : R.Sound) {rotated : RotatedValue}
    (h : rotateValue R value label = .ok rotated) :
    R.Keeps value rotated.value ∧ R.Settled rotated.value := by
  by_cases hold : R.Opens R.oldKey value
  · obtain ⟨plaintext, hopens⟩ := hold
    obtain ⟨v, hv, hholds⟩ := @rotateValue_old R value label plaintext hR hopens
    cases hv.symm.trans h
    refine ⟨fun other hother => ?_, hR.settled_holds hholds⟩
    rcases hother with hother | hother
    · cases (hR.opens_holds hother).symm.trans hopens
      exact hR.opens_holds hholds
    · exact absurd ⟨plaintext, hopens⟩ (hR.settled_holds hother).2
  · by_cases hnew : R.Opens R.newKey value
    · cases (rotateValue_new ⟨hnew, hold⟩).symm.trans h
      refine ⟨fun other hother => ?_, hnew, hold⟩
      rcases hother with hother | hother
      · exact absurd ⟨other, hR.opens_holds hother⟩ hold
      · exact hR.opens_holds hother
    · obtain ⟨e, he⟩ := @rotateValue_neither R value label hold hnew
      cases he.symm.trans h

/-- The rotation of a value fails just when neither key opens it. -/
theorem exists_rotateValue_iff (hR : R.Sound) :
    (∃ rotated, rotateValue R value label = .ok rotated) ↔
      R.Opens R.oldKey value ∨ R.Opens R.newKey value := by
  constructor
  · rintro ⟨rotated, hrotated⟩
    by_contra hneither
    rw [not_or] at hneither
    obtain ⟨e, he⟩ := @rotateValue_neither R value label hneither.1 hneither.2
    cases he.symm.trans hrotated
  · intro h
    by_cases hold : R.Opens R.oldKey value
    · obtain ⟨plaintext, hopens⟩ := hold
      obtain ⟨v, hv, -⟩ := @rotateValue_old R value label plaintext hR hopens
      exact ⟨_, hv⟩
    · exact ⟨_, rotateValue_new ⟨h.resolve_left hold, hold⟩⟩

end Values

/-! ## A row -/

section Rows

variable {R : Rotation}

theorem not_opens_empty {rawKey : String} : ¬R.Opens rawKey "" := nofun

/-- The secret of a column of a peer. -/
def Rotation.KeepsField (R : Rotation) (value value' : Option String) : Prop :=
  match filled value with
  | some v => ∃ v', value' = some v' ∧ R.Keeps v v'
  | none => value' = none

/-- A column of a peer that needs no rotation. -/
def Rotation.SettledField (R : Rotation) (value : Option String) : Prop :=
  ∀ v ∈ value, R.Settled v

/-- The secrets of a router are kept. -/
structure Rotation.KeepsRouter (R : Rotation) (router router' : RouterSecrets) : Prop where
  id : router'.id = router.id
  username : R.Keeps router.usernameEncrypted router'.usernameEncrypted
  password : R.Keeps router.passwordEncrypted router'.passwordEncrypted

/-- The secrets of a peer are kept. -/
structure Rotation.KeepsPeer (R : Rotation) (peer peer' : PeerSecrets) : Prop where
  id : peer'.id = peer.id
  privateKey : R.KeepsField peer.privateKeyEncrypted peer'.privateKeyEncrypted
  presharedKey : R.KeepsField peer.presharedKeyEncrypted peer'.presharedKeyEncrypted
  qrPng : R.KeepsField peer.qrPngEncrypted peer'.qrPngEncrypted
  qrSvg : R.KeepsField peer.qrSvgEncrypted peer'.qrSvgEncrypted

/-- The secrets of a router. -/
def RouterSecrets.secrets (router : RouterSecrets) : List String :=
  [router.usernameEncrypted, router.passwordEncrypted]

/-- The columns of a peer. -/
def PeerSecrets.columns (peer : PeerSecrets) : List (Option String) :=
  [peer.privateKeyEncrypted, peer.presharedKeyEncrypted, peer.qrPngEncrypted, peer.qrSvgEncrypted]

/-- The secrets of a peer. -/
def PeerSecrets.secrets (peer : PeerSecrets) : List String := peer.columns.filterMap filled

theorem rotateField_ok (hR : R.Sound) {peerId field : String} {value value' : Option String} {n : ℕ}
    (h : rotateField R peerId field value = .ok (value', n)) :
    R.KeepsField value value' ∧ R.SettledField value' := by
  unfold Rotation.KeepsField
  cases hvalue : filled value with
  | none =>
    rw [rotateField, hvalue] at h
    cases h
    exact ⟨rfl, nofun⟩
  | some v =>
    simp only [rotateField, hvalue] at h
    cases hrotated : rotateValue R v ("Peer " ++ peerId ++ " " ++ field) with
    | error e =>
      rw [hrotated] at h
      cases h
    | ok rotated =>
      rw [hrotated] at h
      cases h
      obtain ⟨hkeeps, hsettled⟩ := rotateValue_ok hR hrotated
      exact ⟨⟨_, rfl, hkeeps⟩, fun w hw => by cases hw; exact hsettled⟩

theorem rotateField_settled {peerId field : String} {value : Option String}
    (h : R.SettledField value) : rotateField R peerId field value = .ok (value, 0) := by
  cases value with
  | none => rfl
  | some v =>
    have hsettled := h v rfl
    have hne : v ≠ "" := fun hempty => not_opens_empty (hempty ▸ hsettled.1)
    have hfilled : filled (some v) = some v := if_neg hne
    simp only [rotateField, hfilled, rotateValue_new hsettled]
    rfl

theorem rotateRouter_ok (hR : R.Sound) {router router' : RouterSecrets} {n : ℕ}
    (h : rotateRouter R router = .ok (router', n)) :
    R.KeepsRouter router router' ∧ ∀ value ∈ router'.secrets, R.Settled value := by
  obtain ⟨username, husername, h⟩ := except_bind_eq_ok.1 h
  obtain ⟨password, hpassword, h⟩ := except_bind_eq_ok.1 h
  cases h
  have hfirst := rotateValue_ok hR husername
  have hsecond := rotateValue_ok hR hpassword
  refine ⟨⟨rfl, hfirst.1, hsecond.1⟩, ?_⟩
  simp only [RouterSecrets.secrets, List.forall_mem_cons]
  exact ⟨hfirst.2, hsecond.2, nofun⟩

theorem rotateRouter_settled {router : RouterSecrets}
    (h : ∀ value ∈ router.secrets, R.Settled value) :
    rotateRouter R router = .ok (router, 0) := by
  simp only [RouterSecrets.secrets, List.forall_mem_cons] at h
  rw [rotateRouter, rotateValue_new h.1, rotateValue_new h.2.1]
  rfl

theorem exists_rotateRouter_iff (hR : R.Sound) {router : RouterSecrets} :
    (∃ new, rotateRouter R router = .ok new) ↔
      ∀ value ∈ router.secrets, R.Opens R.oldKey value ∨ R.Opens R.newKey value := by
  simp only [RouterSecrets.secrets, List.forall_mem_cons]
  constructor
  · rintro ⟨new, h⟩
    obtain ⟨username, husername, h⟩ := except_bind_eq_ok.1 h
    obtain ⟨password, hpassword, h⟩ := except_bind_eq_ok.1 h
    exact ⟨(exists_rotateValue_iff hR).1 ⟨_, husername⟩,
      (exists_rotateValue_iff hR).1 ⟨_, hpassword⟩, nofun⟩
  · rintro ⟨hfirst, hsecond, -⟩
    obtain ⟨username, husername⟩ := (exists_rotateValue_iff hR).2 hfirst
    obtain ⟨password, hpassword⟩ := (exists_rotateValue_iff hR).2 hsecond
    exact ⟨_, except_bind_eq_ok.2 ⟨username, husername, except_bind_eq_ok.2
      ⟨password, hpassword, rfl⟩⟩⟩

theorem rotatePeer_ok (hR : R.Sound) {peer peer' : PeerSecrets} {n : ℕ}
    (h : rotatePeer R peer = .ok (peer', n)) :
    R.KeepsPeer peer peer' ∧ ∀ value ∈ peer'.columns, R.SettledField value := by
  obtain ⟨⟨a, _⟩, ha, h⟩ := except_bind_eq_ok.1 h
  obtain ⟨⟨b, _⟩, hb, h⟩ := except_bind_eq_ok.1 h
  obtain ⟨⟨c, _⟩, hc, h⟩ := except_bind_eq_ok.1 h
  obtain ⟨⟨d, _⟩, hd, h⟩ := except_bind_eq_ok.1 h
  cases h
  replace ha := rotateField_ok hR ha
  replace hb := rotateField_ok hR hb
  replace hc := rotateField_ok hR hc
  replace hd := rotateField_ok hR hd
  refine ⟨⟨rfl, ha.1, hb.1, hc.1, hd.1⟩, ?_⟩
  simp only [PeerSecrets.columns, List.forall_mem_cons]
  exact ⟨ha.2, hb.2, hc.2, hd.2, nofun⟩

theorem rotatePeer_settled {peer : PeerSecrets} (h : ∀ value ∈ peer.columns, R.SettledField value) :
    rotatePeer R peer = .ok (peer, 0) := by
  simp only [PeerSecrets.columns, List.forall_mem_cons] at h
  rw [rotatePeer, rotateField_settled h.1, rotateField_settled h.2.1, rotateField_settled h.2.2.1,
    rotateField_settled h.2.2.2.1]
  rfl

theorem exists_rotateField_iff (hR : R.Sound) {peerId field : String} {value : Option String} :
    (∃ new, rotateField R peerId field value = .ok new) ↔
      ∀ v ∈ filled value, R.Opens R.oldKey v ∨ R.Opens R.newKey v := by
  cases hvalue : filled value with
  | none =>
    refine iff_of_true ⟨(none, 0), ?_⟩ nofun
    simp only [rotateField, hvalue]
    rfl
  | some v =>
    simp only [rotateField, hvalue, Option.mem_some_iff, forall_eq']
    rw [← exists_rotateValue_iff hR]
    constructor
    · rintro ⟨new, h⟩
      obtain ⟨rotated, hrotated, -⟩ := except_bind_eq_ok.1 h
      exact ⟨rotated, hrotated⟩
    · rintro ⟨rotated, hrotated⟩
      exact ⟨_, except_bind_eq_ok.2 ⟨rotated, hrotated, rfl⟩⟩

theorem exists_rotatePeer_iff (hR : R.Sound) {peer : PeerSecrets} :
    (∃ new, rotatePeer R peer = .ok new) ↔
      ∀ value ∈ peer.secrets, R.Opens R.oldKey value ∨ R.Opens R.newKey value := by
  have hfields : (∀ value ∈ peer.secrets, R.Opens R.oldKey value ∨ R.Opens R.newKey value) ↔
      ∀ column ∈ peer.columns, ∀ v ∈ filled column,
        R.Opens R.oldKey v ∨ R.Opens R.newKey v := by
    simp only [PeerSecrets.secrets, List.mem_filterMap]
    exact ⟨fun h column hcolumn v hv => h v ⟨column, hcolumn, hv⟩,
      fun h v ⟨column, hcolumn, hv⟩ => h column hcolumn v hv⟩
  -- Field by field: one that fails fails the row.
  rw [hfields]
  simp only [PeerSecrets.columns, List.forall_mem_cons]
  constructor
  · rintro ⟨new, h⟩
    obtain ⟨a, ha, h⟩ := except_bind_eq_ok.1 h
    obtain ⟨b, hb, h⟩ := except_bind_eq_ok.1 h
    obtain ⟨c, hc, h⟩ := except_bind_eq_ok.1 h
    obtain ⟨d, hd, h⟩ := except_bind_eq_ok.1 h
    exact ⟨(exists_rotateField_iff hR).1 ⟨a, ha⟩, (exists_rotateField_iff hR).1 ⟨b, hb⟩,
      (exists_rotateField_iff hR).1 ⟨c, hc⟩, (exists_rotateField_iff hR).1 ⟨d, hd⟩, nofun⟩
  · rintro ⟨hprivate, hpreshared, hpng, hsvg, -⟩
    obtain ⟨a, ha⟩ := (exists_rotateField_iff hR).2 hprivate
    obtain ⟨b, hb⟩ := (exists_rotateField_iff hR).2 hpreshared
    obtain ⟨c, hc⟩ := (exists_rotateField_iff hR).2 hpng
    obtain ⟨d, hd⟩ := (exists_rotateField_iff hR).2 hsvg
    exact ⟨_, except_bind_eq_ok.2 ⟨a, ha, except_bind_eq_ok.2 ⟨b, hb, except_bind_eq_ok.2
      ⟨c, hc, except_bind_eq_ok.2 ⟨d, hd, rfl⟩⟩⟩⟩⟩

end Rows

/-! ## The database -/

/-- The secrets of the database. -/
def SecretStore.secrets (db : SecretStore) : List String :=
  db.routers.flatMap RouterSecrets.secrets ++ db.peers.flatMap PeerSecrets.secrets

/-- The secrets of all rows are kept. -/
structure Rotation.KeepsStore (R : Rotation) (db db' : SecretStore) : Prop where
  routers : List.Forall₂ R.KeepsRouter db.routers db'.routers
  peers : List.Forall₂ R.KeepsPeer db.peers db'.peers

/-- No row needs a rotation. -/
structure Rotation.SettledStore (R : Rotation) (db : SecretStore) : Prop where
  routers : ∀ router ∈ db.routers, ∀ value ∈ router.secrets, R.Settled value
  peers : ∀ peer ∈ db.peers, ∀ value ∈ peer.columns, R.SettledField value

section Store

variable {R : Rotation} {db db' : SecretStore} {result : RotationResult}

/-- The transaction as a change of every row. -/
theorem rotateSecrets_of_rows (hkeyed : db.Keyed)
    (hrouters : ∀ r ∈ db.routers, ∃ s n, rotateRouter R r = .ok (s, n) ∧ s.id = r.id)
    (hpeers : ∀ p ∈ db.peers, ∃ q n, rotatePeer R p = .ok (q, n) ∧ q.id = p.id) :
    ∃ (f : RouterSecrets → RouterSecrets) (m : RouterSecrets → ℕ) (g : PeerSecrets → PeerSecrets)
      (n : PeerSecrets → ℕ) (result : RotationResult) (audits : List RotationResult),
      (∀ r ∈ db.routers, rotateRouter R r = .ok (f r, m r)) ∧ (∀ r, (f r).id = r.id) ∧
      (∀ p ∈ db.peers, rotatePeer R p = .ok (g p, n p)) ∧ (∀ p, (g p).id = p.id) ∧
      result.valuesRotated = (db.routers.map m).sum + (db.peers.map n).sum ∧
      rotateSecrets R db = .ok (result, ⟨db.routers.map f, db.peers.map g, audits⟩) := by
  obtain ⟨f, m, hf, hfid, hfirst⟩ := updateEach_ok
    (List.perm_insertionSort (fun r s : RouterSecrets => r.id ≤ s.id) db.routers) hkeyed.routers
    hrouters
  obtain ⟨g, n, hg, hgid, hsecond⟩ := updateEach_ok
    (List.perm_insertionSort (fun p q : PeerSecrets => p.id ≤ q.id) db.peers) hkeyed.peers hpeers
  refine ⟨f, m, g, n, _, _, hf, hfid, hg, hgid, ?_, except_bind_eq_ok.2 ⟨_, hfirst,
    except_bind_eq_ok.2 ⟨_, hsecond, rfl⟩⟩⟩
  rfl

/-- A row that is computed is that of the same router. -/
theorem rotateRouter_keyed (hR : R.Sound) {r : RouterSecrets}
    (h : ∃ new, rotateRouter R r = .ok new) :
    ∃ s n, rotateRouter R r = .ok (s, n) ∧ s.id = r.id := by
  obtain ⟨⟨s, n⟩, hs⟩ := h
  exact ⟨s, n, hs, (rotateRouter_ok hR hs).1.id⟩

theorem rotatePeer_keyed (hR : R.Sound) {p : PeerSecrets} (h : ∃ new, rotatePeer R p = .ok new) :
    ∃ q n, rotatePeer R p = .ok (q, n) ∧ q.id = p.id := by
  obtain ⟨⟨q, n⟩, hq⟩ := h
  exact ⟨q, n, hq, (rotatePeer_ok hR hq).1.id⟩

/-- A transaction that succeeds has computed every row. -/
theorem rows_of_rotateSecrets {done : RotationResult × SecretStore}
    (h : rotateSecrets R db = .ok done) :
    (∀ r ∈ db.routers, ∃ new, rotateRouter R r = .ok new) ∧
      ∀ p ∈ db.peers, ∃ new, rotatePeer R p = .ok new := by
  obtain ⟨_, hrouters, h⟩ := except_bind_eq_ok.1 h
  obtain ⟨_, hpeers, -⟩ := except_bind_eq_ok.1 h
  exact ⟨fun r hr => write_ok_of_updateEach hrouters r
      ((List.perm_insertionSort _ db.routers).symm.subset hr),
    fun p hp => write_ok_of_updateEach hpeers p
      ((List.perm_insertionSort _ db.peers).symm.subset hp)⟩

/-- The transaction succeeds just when a key opens every secret. -/
theorem exists_rotateSecrets_iff (hR : R.Sound) (hkeyed : db.Keyed) :
    (∃ done, rotateSecrets R db = .ok done) ↔
      ∀ value ∈ db.secrets, R.Opens R.oldKey value ∨ R.Opens R.newKey value := by
  simp only [SecretStore.secrets, List.mem_append, List.mem_flatMap]
  constructor
  · rintro ⟨done, h⟩ value (⟨r, hr, hvalue⟩ | ⟨p, hp, hvalue⟩)
    · exact (exists_rotateRouter_iff hR).1 ((rows_of_rotateSecrets h).1 r hr) value hvalue
    · exact (exists_rotatePeer_iff hR).1 ((rows_of_rotateSecrets h).2 p hp) value hvalue
  · intro h
    have hrouters : ∀ r ∈ db.routers, ∃ s n, rotateRouter R r = .ok (s, n) ∧ s.id = r.id :=
      fun r hr => rotateRouter_keyed hR <| (exists_rotateRouter_iff hR).2 fun value hvalue =>
        h value (.inl ⟨r, hr, hvalue⟩)
    have hpeers : ∀ p ∈ db.peers, ∃ q n, rotatePeer R p = .ok (q, n) ∧ q.id = p.id :=
      fun p hp => rotatePeer_keyed hR <| (exists_rotatePeer_iff hR).2 fun value hvalue =>
        h value (.inr ⟨p, hp, hvalue⟩)
    obtain ⟨_, _, _, _, result, audits, -, -, -, -, -, hdone⟩ :=
      rotateSecrets_of_rows hkeyed hrouters hpeers
    exact ⟨_, hdone⟩

/-- What a transaction that succeeds leaves. -/
theorem rotateSecrets_ok (hR : R.Sound) (hkeyed : db.Keyed)
    (h : rotateSecrets R db = .ok (result, db')) :
    R.KeepsStore db db' ∧ R.SettledStore db' ∧ db'.Keyed := by
  obtain ⟨hrouters, hpeers⟩ := rows_of_rotateSecrets h
  obtain ⟨f, m, g, n, _, audits, hf, hfid, hg, hgid, -, hdone⟩ := rotateSecrets_of_rows hkeyed
    (fun r hr => rotateRouter_keyed hR (hrouters r hr))
    (fun p hp => rotatePeer_keyed hR (hpeers p hp))
  cases hdone.symm.trans h
  refine ⟨⟨?_, ?_⟩, ⟨?_, ?_⟩, ⟨?_, ?_⟩⟩
  · exact List.forall₂_map_right_iff.2
      (List.forall₂_same.2 fun r hr => (rotateRouter_ok hR (hf r hr)).1)
  · exact List.forall₂_map_right_iff.2
      (List.forall₂_same.2 fun p hp => (rotatePeer_ok hR (hg p hp)).1)
  · exact List.forall_mem_map.2 fun r hr => (rotateRouter_ok hR (hf r hr)).2
  · exact List.forall_mem_map.2 fun p hp => (rotatePeer_ok hR (hg p hp)).2
  · rw [List.map_map, show RouterSecrets.id ∘ f = RouterSecrets.id from funext hfid]
    exact hkeyed.routers
  · rw [List.map_map, show PeerSecrets.id ∘ g = PeerSecrets.id from funext hgid]
    exact hkeyed.peers

/-- Another transaction has nothing to do. -/
theorem rotateSecrets_settled (hkeyed : db.Keyed) (h : R.SettledStore db) :
    ∃ again db', rotateSecrets R db = .ok (again, db') ∧ again.valuesRotated = 0 ∧
      db'.routers = db.routers ∧ db'.peers = db.peers := by
  have hrouters : ∀ r ∈ db.routers, rotateRouter R r = .ok (r, 0) := fun r hr =>
    rotateRouter_settled (h.routers r hr)
  have hpeers : ∀ p ∈ db.peers, rotatePeer R p = .ok (p, 0) := fun p hp =>
    rotatePeer_settled (h.peers p hp)
  obtain ⟨f, m, g, n, again, audits, hf, -, hg, -, hcount, hdone⟩ := rotateSecrets_of_rows hkeyed
    (fun r hr => ⟨r, 0, hrouters r hr, rfl⟩) (fun p hp => ⟨p, 0, hpeers p hp, rfl⟩)
  have hsameRouter : ∀ r ∈ db.routers, f r = r ∧ m r = 0 := fun r hr =>
    Prod.mk.inj (Except.ok.inj ((hf r hr).symm.trans (hrouters r hr)))
  have hsamePeer : ∀ p ∈ db.peers, g p = p ∧ n p = 0 := fun p hp =>
    Prod.mk.inj (Except.ok.inj ((hg p hp).symm.trans (hpeers p hp)))
  refine ⟨again, _, hdone, ?_, ?_, ?_⟩
  · rw [hcount, List.map_congr_left fun r hr => (hsameRouter r hr).2,
      List.map_congr_left fun p hp => (hsamePeer p hp).2]
    simp
  · exact (List.map_congr_left fun r hr => (hsameRouter r hr).1).trans (List.map_id' _)
  · exact (List.map_congr_left fun p hp => (hsamePeer p hp).1).trans (List.map_id' _)

end Store

/-- The rotation commits if both keys together have produced the secrets, and every
    secret then opens under the new key, to the plaintext it had. If neither key
    opens a secret it throws, and nothing is changed. After a rotation another one
    rotates nothing. -/
theorem rotateEncryptionKey_spec (R : Rotation) (hR : R.Sound) (db : SecretStore)
    (hkeyed : db.Keyed) :
    ((∀ value ∈ db.secrets, ∃ plaintext,
        R.Holds R.oldKey value plaintext ∨ R.Holds R.newKey value plaintext) →
      ∃ result db', rotateEncryptionKey R db = (.ok result, db') ∧ R.KeepsStore db db') ∧
    ((∃ value ∈ db.secrets, ¬R.Opens R.oldKey value ∧ ¬R.Opens R.newKey value) →
      ∃ e, rotateEncryptionKey R db = (.error e, db)) ∧
    ∀ result db', rotateEncryptionKey R db = (.ok result, db') →
      ∀ randomBytes, ∃ again db'',
        rotateEncryptionKey { R with randomBytes } db' = (.ok again, db'') ∧
          again.valuesRotated = 0 ∧ db''.routers = db'.routers ∧ db''.peers = db'.peers := by
  -- Neither key is empty, so that the rotation begins its transaction.
  have hfilled : ∀ raw : String, (∃ key, encryptionKey raw = .ok key) → raw ≠ "" := by
    rintro raw ⟨key, hkey⟩ rfl
    cases hkey
  have hkeys : R.oldKey ≠ "" ∧ R.newKey ≠ "" :=
    ⟨hfilled R.oldKey hR.old_key, hfilled R.newKey hR.new_key⟩
  have hmain : ∀ (S : Rotation) (d : SecretStore), S.oldKey ≠ "" ∧ S.newKey ≠ "" →
      rotateEncryptionKey S d = withTransaction (rotateSecrets S) d := fun S d hS => by
    rw [rotateEncryptionKey, if_neg hS.1, if_neg hS.2]
  rw [hmain R db hkeys]
  refine ⟨fun hproduced => ?_, fun hneither => ?_, fun result db' hdone randomBytes => ?_⟩
  · obtain ⟨⟨result, db'⟩, hdone⟩ := (exists_rotateSecrets_iff hR hkeyed).2 fun value hvalue => by
      obtain ⟨plaintext, hholds⟩ := hproduced value hvalue
      exact hholds.imp (fun hold => ⟨plaintext, hR.opens_holds hold⟩)
        fun hnew => ⟨plaintext, hR.opens_holds hnew⟩
    refine ⟨result, db', ?_, (rotateSecrets_ok hR hkeyed hdone).1⟩
    rw [withTransaction, hdone]
  -- The transaction is rolled back.
  · obtain ⟨value, hvalue, hold, hnew⟩ := hneither
    obtain ⟨e, he⟩ := exists_error_of_not_ok fun done hdone =>
      ((exists_rotateSecrets_iff hR hkeyed).1 ⟨done, hdone⟩ value hvalue).elim hold hnew
    exact ⟨e, by rw [withTransaction, he]⟩
  · have hsecrets : rotateSecrets R db = .ok (result, db') := by
      cases htransaction : rotateSecrets R db with
      | error e =>
        rw [withTransaction, htransaction] at hdone
        cases hdone
      | ok done =>
        rw [withTransaction, htransaction] at hdone
        cases hdone
        rfl
    -- After the rotation only the new key opens a value, and nothing is written again.
    obtain ⟨-, hsettled, hkeyed'⟩ := rotateSecrets_ok hR hkeyed hsecrets
    obtain ⟨again, db'', hagain, hcount, hrouters, hpeers⟩ :=
      @rotateSecrets_settled { R with randomBytes } db' hkeyed' ⟨hsettled.routers, hsettled.peers⟩
    refine ⟨again, db'', ?_, hcount, hrouters, hpeers⟩
    rw [hmain { R with randomBytes } db' hkeys, withTransaction, hagain]

/-! ## A database to rotate -/

/-- A cipher that puts the key before the plaintext. -/
def plainGcm : Gcm where
  encrypt key _ plaintext := (key ++ plaintext, List.replicate 16 0)
  decrypt key _ _ ciphertext :=
    if ciphertext.take key.length = key then some (ciphertext.drop key.length) else none

theorem plainGcm_ideal : plainGcm.Ideal where
  decrypt_encrypt key _ plaintext := by
    simp [plainGcm]
  other_key key key' _ plaintext hlength hlength' hne := by
    have htake : (key ++ plaintext).take key'.length = key := by
      rw [hlength', ← hlength, List.take_left']
      rfl
    simp only [plainGcm, htake, if_neg hne]
  tag_length _ _ _ := rfl

/-- A rotation from one key to another. -/
def plainRotation : Rotation where
  cipher := plainGcm
  oldKey := "0000000000000000000000000000000000000000000000000000000000000000"
  newKey := "1111111111111111111111111111111111111111111111111111111111111111"
  randomBytes _ := List.replicate 12 0

theorem plainRotation_oldKey :
    encryptionKey plainRotation.oldKey = .ok (List.replicate 32 0x00) := by decide +kernel

theorem plainRotation_newKey :
    encryptionKey plainRotation.newKey = .ok (List.replicate 32 0x11) := by decide +kernel

theorem plainRotation_sound : plainRotation.Sound where
  ideal := plainGcm_ideal
  old_key := ⟨_, plainRotation_oldKey⟩
  new_key := ⟨_, plainRotation_newKey⟩
  differ := by
    rw [plainRotation_oldKey, plainRotation_newKey]
    decide
  nonce _ := rfl

/-- A secret that `encryptSecretWithKey` produces. -/
def plainSecret (rawKey plaintext : String) : String :=
  (encryptSecretWithKey plainGcm (List.replicate 12 0) plaintext rawKey).toOption.getD ""

theorem holds_plainSecret {rawKey : String} {key : List UInt8}
    (hkey : encryptionKey rawKey = .ok key)
    (plaintext : String) : plainRotation.Holds rawKey (plainSecret rawKey plaintext) plaintext := by
  refine ⟨List.replicate 12 0, rfl, ?_⟩
  simp only [plainSecret, encryptSecretWithKey, hkey]
  rfl

/-- A router whose user name has been stored before a rotation that was broken
    off, and whose password is empty. -/
def plainStore : SecretStore where
  routers := [⟨"r1", plainSecret plainRotation.newKey "admin", plainSecret plainRotation.oldKey ""⟩]
  peers := []
  audits := []

/-- Its secrets are kept. -/
theorem rotateEncryptionKey_spec_plain :
    ∃ result db', rotateEncryptionKey plainRotation plainStore = (.ok result, db') ∧
      plainRotation.KeepsStore plainStore db' :=
  (rotateEncryptionKey_spec plainRotation plainRotation_sound plainStore
    ⟨List.nodup_singleton _, List.nodup_nil⟩).1 <| by
      simp only [SecretStore.secrets, plainStore, List.flatMap_cons, List.flatMap_nil,
        List.append_nil, RouterSecrets.secrets, List.forall_mem_cons]
      exact ⟨⟨"admin", .inr (holds_plainSecret plainRotation_newKey "admin")⟩,
        ⟨"", .inl (holds_plainSecret plainRotation_oldKey "")⟩, nofun⟩

/-- An empty text in a column of a peer opens under neither key, but the rotation
    stores null instead of it and commits. -/
theorem not_rolledBack_of_empty :
    ¬∀ (R : Rotation), R.Sound → ∀ db : SecretStore, db.Keyed →
      (∃ value ∈ db.routers.flatMap RouterSecrets.secrets ++
          db.peers.flatMap fun p => p.columns.filterMap id,
        ¬R.Opens R.oldKey value ∧ ¬R.Opens R.newKey value) →
      ∃ e, rotateEncryptionKey R db = (.error e, db) := by
  intro h
  obtain ⟨e, he⟩ := h plainRotation plainRotation_sound
    ⟨[], [⟨"p1", some "", none, none, none⟩], []⟩ ⟨List.nodup_nil, List.nodup_singleton _⟩
    ⟨"", by decide, not_opens_empty, not_opens_empty⟩
  cases he

end WireguardPanel
