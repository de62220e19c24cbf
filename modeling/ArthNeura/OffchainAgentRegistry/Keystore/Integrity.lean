import ArthNeura.Frame.Run
import ArthNeura.OffchainAgentRegistry.Keystore.Spec

set_option autoImplicit false

/-! # Integrity of the keystore

A history of saves, with any outcomes, and a file of it that somebody replaces who does not know
the passphrase. What was saved is loaded, and no later save changes that. Of a replaced file the
encryption protects the key: a load that returns has found a key that a save has encrypted under
this passphrase (`keystore_integrity`); a save that is refused or fails before it encrypts does not
count and leaves no trace (`saveStep_of_not_encrypted`). The encryption protects neither the DID,
which is stored beside the ciphertext, nor the place of the file: the ciphertext of every such save
is accepted in every file, with every DID (`Encryption.open_keyFile`, `swap_not_noticed`).
-/

namespace OffchainAgentRegistry.Keystore

open Frame Process

/-! ## Histories -/

/-- A call of `save_identity`, with what becomes of its steps. -/
structure SaveCall where
  outcomes : SaveOutcomes
  dir : String
  label : String
  did : Did
  key : Bytes
  passphrase : String

def SaveCall.path (c : SaveCall) : KeyPath := ⟨c.dir, c.label⟩

/-- The use of a key that was derived from a passphrase. -/
structure Encryption where
  passphrase : String
  salt : Bytes
  nonce : Nonce
  plaintext : Bytes
  ciphertext : Bytes

section

variable (lib : Lib)

def SaveCall.run (c : SaveCall) : KeyM Unit :=
  saveIdentity lib c.outcomes c.dir c.label c.did c.key c.passphrase

/-- The files after a call. -/
def saveStep (disk : Disk) (c : SaveCall) : Disk := after (c.run lib) disk

/-- The encryption of a call, if it comes to that: a call with an invalid label, for a file that
exists, or without its directory or its random bytes ends before. -/
def SaveCall.encryption (c : SaveCall) (disk : Disk) : Option Encryption :=
  if validateLabel c.label = true ∧ disk c.path = none then
    match c.outcomes.createDir, c.outcomes.setDirPermissions, c.outcomes.salt, c.outcomes.nonce with
    | .ok _, .ok _, .ok salt, .ok nonce =>
        match lib.argon2 c.passphrase salt.toList with
        | .ok derivedKey =>
            (lib.encrypt derivedKey nonce c.key).map
              fun ciphertext => ⟨c.passphrase, salt.toList, nonce, c.key, ciphertext⟩
        | .error _ => none
    | _, _, _, _ => none
  else none

/-- The encryptions that the calls of a history have made. -/
def encryptions (disk : Disk) (calls : List SaveCall) : List Encryption :=
  (trace (saveStep lib) disk calls).filterMap fun p => p.2.encryption lib p.1

/-- The primitives are ideal as far as this file goes, where `made` are all encryptions that
anybody has made. -/
structure Ideal (made : List Encryption) (passphrase : String) (content : Bytes) : Prop where
  /-- Argon2 does not collide. -/
  argon2 : ∀ x, Decodes lib passphrase content x → ∀ e ∈ made,
    lib.argon2 e.passphrase e.salt = .ok x.derivedKey → e.passphrase = passphrase ∧ e.salt = x.salt
  /-- A ciphertext that decrypts was made by an encryption, and decrypts to its plaintext. -/
  aead : ∀ x nonce plaintext, Decodes lib passphrase content x →
    x.nonceBytes = List.Vector.toList nonce →
    lib.decrypt x.derivedKey nonce x.ciphertext = some plaintext →
    ∃ e ∈ made, lib.argon2 e.passphrase e.salt = .ok x.derivedKey ∧ e.nonce = nonce ∧
      e.ciphertext = x.ciphertext ∧ e.plaintext = plaintext

/-- The ciphertext is what the libraries make of the rest. -/
def Encryption.Made (e : Encryption) : Prop :=
  ∃ derivedKey, lib.argon2 e.passphrase e.salt = .ok derivedKey ∧
    lib.encrypt derivedKey e.nonce e.plaintext = some e.ciphertext

/-- A key file with this encryption. -/
def Encryption.keyFile (e : Encryption) (version : UInt8) (did : Did) : KeyFile where
  version := version
  didHex := Hex.encode did.toList
  saltB64 := lib.base64Encode e.salt
  nonceB64 := lib.base64Encode e.nonce.toList
  ciphertextB64 := lib.base64Encode e.ciphertext

/-- The call comes to encrypt, with this result. -/
structure SaveCall.Encrypts (c : SaveCall) (disk : Disk) (e : Encryption) : Prop where
  label : validateLabel c.label = true
  absent : disk c.path = none
  createDir : c.outcomes.createDir = .ok ()
  setDirPermissions : c.outcomes.setDirPermissions = .ok ()
  salt : ∃ salt, c.outcomes.salt = .ok salt ∧ e.salt = salt.toList
  nonce : c.outcomes.nonce = .ok e.nonce
  passphrase : e.passphrase = c.passphrase
  plaintext : e.plaintext = c.key
  made : e.Made lib

end

section

variable {lib : Lib}

theorem extends_exec (calls : List SaveCall) (disk : Disk) :
    disk.Extends (exec (saveStep lib) disk calls) :=
  exec_rel Disk.Extends Disk.Extends.refl (fun _ _ _ => Disk.Extends.trans)
    (fun disk _ => saveIdentity_extends disk) calls disk

theorem loads_of_saved {c : SaveCall} {disk disk' : Disk}
    (h : (c.run lib).run disk = .ok () disk') :
    Loads lib disk' c.path c.passphrase ⟨c.did, c.key⟩ := by
  obtain ⟨json, hready, hwrite, -, -⟩ := saveIdentity_ok.1 h
  rw [← after_of_ok h]
  exact loads_of_written hready hwrite

theorem encryption_eq_some {c : SaveCall} {disk : Disk} {e : Encryption} :
    c.encryption lib disk = some e ↔ c.Encrypts lib disk e := by
  constructor
  · intro h
    unfold SaveCall.encryption at h
    split at h
    · next hopen =>
        split at h
        · next hcreate hperm hsalt hnonce =>
            split at h
            · next derivedKey hkey =>
                obtain ⟨ciphertext, henc, rfl⟩ := Option.map_eq_some_iff.1 h
                exact ⟨hopen.1, hopen.2, hcreate, hperm, ⟨_, hsalt, rfl⟩, hnonce, rfl, rfl,
                  derivedKey, hkey, henc⟩
            · cases h
        · cases h
    · cases h
  · rintro ⟨hlabel, habsent, hcreate, hperm, ⟨salt, hsalt, heq⟩, hnonce, hpass, hplain,
      derivedKey, hkey, henc⟩
    rw [hpass, heq] at hkey
    rw [hplain] at henc
    simp only [SaveCall.encryption, hlabel, habsent, and_self, if_true, hcreate, hperm, hsalt,
      hnonce, hkey, henc, Option.map_some]
    rw [← hpass, ← heq, ← hplain]

/-- **A save comes to its write exactly if it has encrypted**, and the file can be put as JSON. -/
theorem ready_iff_encryption {c : SaveCall} {disk : Disk} {json : Bytes} :
    Ready lib c.outcomes disk c.path c.did c.key c.passphrase json ↔
      ∃ e, c.encryption lib disk = some e ∧
        lib.toStringPretty (e.keyFile lib 1 c.did) = .ok json := by
  constructor
  · rintro ⟨hlabel, habsent, hcreate, hperm, salt, nonce, hsalt, hnonce, hseal⟩
    obtain ⟨derivedKey, ciphertext, hkey, henc, hjson⟩ := sealKeyFile_ok.1 hseal
    refine ⟨⟨c.passphrase, salt.toList, nonce, c.key, ciphertext⟩, encryption_eq_some.2 ?_, hjson⟩
    exact ⟨hlabel, habsent, hcreate, hperm, ⟨salt, hsalt, rfl⟩, hnonce, rfl, rfl, derivedKey, hkey,
      henc⟩
  · rintro ⟨⟨_, _, nonce, _, ciphertext⟩, h, hjson⟩
    obtain ⟨hlabel, habsent, hcreate, hperm, ⟨salt, hsalt, rfl⟩, hnonce, rfl, rfl, derivedKey,
      hkey, henc⟩ := encryption_eq_some.1 h
    exact ⟨hlabel, habsent, hcreate, hperm, salt, nonce, hsalt, hnonce,
      sealKeyFile_ok.2 ⟨derivedKey, ciphertext, hkey, henc, hjson⟩⟩

/-- A save that has not encrypted leaves no trace. -/
theorem saveStep_of_not_encrypted {c : SaveCall} {disk : Disk} (h : c.encryption lib disk = none) :
    saveStep lib disk c = disk := by
  refine after_saveIdentity_of_not_ready fun json hready => ?_
  obtain ⟨e, he, -⟩ := ready_iff_encryption.1 hready
  rw [h] at he
  cases he

theorem encryptions_nil (disk : Disk) : encryptions lib disk [] = [] := rfl

theorem encryptions_cons_of_some {c : SaveCall} {disk : Disk} {e : Encryption}
    (h : c.encryption lib disk = some e) (calls : List SaveCall) :
    encryptions lib disk (c :: calls) = e :: encryptions lib (saveStep lib disk c) calls := by
  rw [encryptions, trace]
  exact List.filterMap_cons_some h

/-- **A key that is read from a file was encrypted under the passphrase**, by a save if nobody else
has encrypted under it. -/
theorem key_was_encrypted {made forged : List Encryption} {passphrase : String} {content : Bytes}
    {identity : StoredIdentity} (hideal : Ideal lib (made ++ forged) passphrase content)
    (hforged : ∀ e ∈ forged, e.passphrase ≠ passphrase)
    (hopen : openKeyFile lib passphrase content = .ok identity) :
    ∃ e ∈ made, e.passphrase = passphrase ∧ e.plaintext = identity.signingKeyBytes := by
  obtain ⟨x, nonce, hx, hnonce, hdec, -⟩ := openKeyFile_ok.1 hopen
  obtain ⟨e, he, hkey, -, -, hplain⟩ := hideal.aead x nonce _ hx hnonce hdec
  have hpass := (hideal.argon2 x hx e he hkey).1
  rcases List.mem_append.1 he with he | he
  · exact ⟨e, he, hpass, hplain⟩
  · exact absurd hpass (hforged e he)

/-- The DID that a file names. -/
def namedDid (lib : Lib) (content : Bytes) : Option Did :=
  match lib.fromStr content with
  | .ok file => (Hex.decode file.didHex).bind tryInto32
  | .error _ => none

theorem namedDid_of_open {passphrase : String} {content : Bytes} {identity : StoredIdentity}
    (hopen : openKeyFile lib passphrase content = .ok identity) :
    namedDid lib content = some identity.did := by
  obtain ⟨x, -, hx, -, -, hhex⟩ := openKeyFile_ok.1 hopen
  rw [namedDid, hx.keyFile]
  show (Hex.decode x.keyFile.didHex).bind tryInto32 = some identity.did
  rw [hhex]
  exact tryInto32_eq_some.2 rfl

/-! ## Files with a ciphertext that exists -/

section

variable {e : Encryption} {version : UInt8} {did : Did} {json : Bytes}
  (hjson : lib.toStringPretty (e.keyFile lib version did) = .ok json)

include hjson

theorem Encryption.decodes_keyFile {passphrase : String} {x : Decoded}
    (hx : Decodes lib passphrase json x) :
    x.salt = e.salt ∧ x.nonceBytes = e.nonce.toList ∧ x.ciphertext = e.ciphertext := by
  have hstored := lib.fromStr_toStringPretty _ _ hjson
  have hfile : x.keyFile = e.keyFile lib version did :=
    Except.ok.inj (hx.keyFile.symm.trans hstored)
  have hsalt := hx.salt
  have hnonce := hx.nonce
  have hciphertext := hx.ciphertext
  rw [hfile] at hsalt hnonce hciphertext
  exact ⟨Option.some.inj (hsalt.symm.trans (lib.base64Decode_encode _)),
    Option.some.inj (hnonce.symm.trans (lib.base64Decode_encode _)),
    Option.some.inj (hciphertext.symm.trans (lib.base64Decode_encode _))⟩

/-- **A ciphertext is accepted in every file and with every DID.** -/
theorem Encryption.open_keyFile (hmade : e.Made lib) :
    openKeyFile lib e.passphrase json = .ok ⟨did, e.plaintext⟩ := by
  obtain ⟨derivedKey, hkey, henc⟩ := hmade
  have hx := decodes_of_toStringPretty (x := ⟨e.keyFile lib version did, _, _, _, _⟩) hjson rfl rfl
    rfl hkey
  have hdec : lib.decrypt derivedKey e.nonce e.ciphertext = some e.plaintext :=
    (lib.decrypt_eq_some _ _ _ _).2 henc
  exact openKeyFile_ok.2 ⟨_, e.nonce, hx, rfl, hdec, Hex.decode_encode did.toList⟩

/-- Such a file needs no encryption of its own. -/
theorem ideal_keyFile {made : List Encryption} (he : e ∈ made) (hmade : e.Made lib)
    (hargon2 : ∀ e' ∈ made, lib.argon2 e'.passphrase e'.salt = lib.argon2 e.passphrase e.salt →
      e'.passphrase = e.passphrase ∧ e'.salt = e.salt) :
    Ideal lib made e.passphrase json where
  argon2 := by
    intro x hx e' he' hkey
    obtain ⟨hsalt, -, -⟩ := Encryption.decodes_keyFile hjson hx
    have hkey' : lib.argon2 e.passphrase e.salt = .ok x.derivedKey := hsalt ▸ hx.derivedKey
    rw [hsalt]
    exact hargon2 e' he' (hkey.trans hkey'.symm)
  aead := by
    intro x nonce plaintext hx hnonce hdec
    obtain ⟨hsalt, hnonce', hciphertext⟩ := Encryption.decodes_keyFile hjson hx
    obtain ⟨derivedKey, hkey, hplain⟩ := hmade
    have hkey' : lib.argon2 e.passphrase e.salt = .ok x.derivedKey := hsalt ▸ hx.derivedKey
    have hderived : derivedKey = x.derivedKey := Except.ok.inj (hkey.symm.trans hkey')
    have heq : e.nonce = nonce := Subtype.ext (hnonce'.symm.trans hnonce)
    refine ⟨e, he, hkey', heq, hciphertext.symm, ?_⟩
    rw [hderived, ← lib.decrypt_eq_some, heq, ← hciphertext, hdec] at hplain
    exact (Option.some.inj hplain).symm

end

end

/-! ## The result -/

/-- **Integrity of the keystore.** What a save has stored is loaded, whatever is saved later. If the
file is replaced by somebody who has not encrypted under the passphrase, a load that returns gives
the DID that the file names now, and a key that a save has encrypted under the passphrase; so it
gives what was stored if the file still names that DID and no save has encrypted another key under
the passphrase. -/
theorem keystore_integrity (lib : Lib) (disk disk₁ : Disk) (earlier : List SaveCall)
    (save : SaveCall)
    (hsaved : (save.run lib).run (exec (saveStep lib) disk earlier) = .ok () disk₁)
    (later : List SaveCall) :
    Loads lib disk₁ save.path save.passphrase ⟨save.did, save.key⟩ ∧
    Loads lib (exec (saveStep lib) disk₁ later) save.path save.passphrase ⟨save.did, save.key⟩ ∧
    ∀ (content : Bytes) (afterwards : List SaveCall) (forged : List Encryption),
      let modified := (exec (saveStep lib) disk₁ later).insert save.path content
      let made := encryptions lib disk (earlier ++ save :: later) ++
        encryptions lib modified afterwards
      (∀ e ∈ forged, e.passphrase ≠ save.passphrase) →
      Ideal lib (made ++ forged) save.passphrase content →
      ∀ read identity disk₂,
        (loadIdentity lib read save.dir save.label save.passphrase).run
            (exec (saveStep lib) modified afterwards) = .ok identity disk₂ →
        namedDid lib content = some identity.did ∧
        (∃ e ∈ made, e.passphrase = save.passphrase ∧ e.plaintext = identity.signingKeyBytes) ∧
        ((∀ e ∈ made, e.passphrase = save.passphrase → e.plaintext = save.key) →
          namedDid lib content = some save.did → identity = ⟨save.did, save.key⟩) := by
  have hloads := loads_of_saved hsaved
  refine ⟨hloads, hloads.mono (extends_exec later disk₁), ?_⟩
  intro content afterwards forged modified made hforged hideal read identity disk₂ hload
  obtain ⟨-, -, -, content', hcontent', hopen⟩ := loadIdentity_ok.1 hload
  -- no save changes the file that was put there
  have hkept : exec (saveStep lib) modified afterwards save.path = some content :=
    extends_exec afterwards modified save.path content (StorageMap.insert_self ..)
  have heq : content' = content := Option.some.inj (hcontent'.symm.trans hkept)
  rw [heq] at hopen
  have hdid := namedDid_of_open hopen
  obtain ⟨e, he, hpass, hkey⟩ := key_was_encrypted hideal hforged hopen
  refine ⟨hdid, ⟨e, he, hpass, hkey⟩, ?_⟩
  intro honly hnamed
  have hdid' : identity.did = save.did := Option.some.inj (hdid.symm.trans hnamed)
  have hkey' : identity.signingKeyBytes = save.key := hkey.symm.trans (honly e he hpass)
  cases identity with
  | mk did key =>
      cases hdid'
      cases hkey'
      rfl

/-! ## Two saves under one passphrase -/

def aliceSave : SaveCall where
  outcomes := Mock.allOk
  dir := "keys"
  label := "alice"
  did := Bytes32.ofNat 1
  key := [7, 7, 7]
  passphrase := "passphrase"

def bobSave : SaveCall where
  outcomes :=
    { Mock.allOk with
      salt := .ok (List.Vector.replicate 16 3)
      nonce := .ok (List.Vector.replicate 12 4) }
  dir := "keys"
  label := "bob"
  did := Bytes32.ofNat 2
  key := [8, 8, 8]
  passphrase := "passphrase"

/-- The encryption with the libraries of `Mock`. -/
def mockEncryption (salt : Salt) (nonce : Nonce) (key : Bytes) (passphrase : String) :
    Encryption where
  passphrase := passphrase
  salt := salt.toList
  nonce := nonce
  plaintext := key
  ciphertext := (Mock.fill (salt.toList ++
    passphrase.toList.map fun c => UInt8.ofNat (Char.toNat c))).toList ++ nonce.toList ++ key

theorem made_mockEncryption (salt : Salt) (nonce : Nonce) (key : Bytes) (passphrase : String) :
    (mockEncryption salt nonce key passphrase).Made Mock.testLib := by
  have hlength : ¬ salt.toList.length < 8 := by simp
  exact ⟨_, if_neg hlength, rfl⟩

def aliceEncryption : Encryption :=
  mockEncryption Mock.salt Mock.nonce aliceSave.key aliceSave.passphrase

def bobEncryption : Encryption :=
  mockEncryption (List.Vector.replicate 16 3) (List.Vector.replicate 12 4) bobSave.key
    bobSave.passphrase

/-- The file that a save under an encryption writes. -/
def mockFile (e : Encryption) (version : UInt8) (did : Did) : Bytes :=
  Mock.json (e.keyFile Mock.testLib version did)

def aliceDisk : Disk :=
  StorageMap.empty.insert aliceSave.path (mockFile aliceEncryption 1 aliceSave.did)

def bobDisk : Disk := aliceDisk.insert bobSave.path (mockFile bobEncryption 1 bobSave.did)

theorem aliceSave_encryption :
    aliceSave.encryption Mock.testLib StorageMap.empty = some aliceEncryption :=
  encryption_eq_some.2 ⟨by decide, rfl, rfl, rfl, ⟨_, rfl, rfl⟩, rfl, rfl, rfl,
    made_mockEncryption ..⟩

theorem bobSave_encryption : bobSave.encryption Mock.testLib aliceDisk = some bobEncryption :=
  encryption_eq_some.2 ⟨by decide, StorageMap.insert_ne (by decide), rfl, rfl, ⟨_, rfl, rfl⟩, rfl,
    rfl, rfl, made_mockEncryption ..⟩

theorem aliceSave_ok : (aliceSave.run Mock.testLib).run StorageMap.empty = .ok () aliceDisk :=
  saveIdentity_ok.2
    ⟨_, ready_iff_encryption.2 ⟨_, aliceSave_encryption, Mock.toStringPretty_eq _⟩, rfl, rfl, rfl⟩

theorem bobSave_ok : (bobSave.run Mock.testLib).run aliceDisk = .ok () bobDisk :=
  saveIdentity_ok.2
    ⟨_, ready_iff_encryption.2 ⟨_, bobSave_encryption, Mock.toStringPretty_eq _⟩, rfl, rfl, rfl⟩

theorem encryptions_alice :
    encryptions Mock.testLib StorageMap.empty [aliceSave] = [aliceEncryption] := by
  rw [encryptions_cons_of_some aliceSave_encryption, encryptions_nil]

theorem encryptions_alice_bob :
    encryptions Mock.testLib StorageMap.empty [aliceSave, bobSave] =
      [aliceEncryption, bobEncryption] := by
  have hstep : saveStep Mock.testLib StorageMap.empty aliceSave = aliceDisk :=
    after_of_ok aliceSave_ok
  rw [encryptions_cons_of_some aliceSave_encryption, hstep,
    encryptions_cons_of_some bobSave_encryption, encryptions_nil]

/-- The file of `aliceSave` with other values in the fields that are not encrypted. -/
theorem ideal_edited (version : UInt8) (did : Did) :
    Ideal Mock.testLib (encryptions Mock.testLib StorageMap.empty [aliceSave])
      aliceSave.passphrase (mockFile aliceEncryption version did) := by
  rw [encryptions_alice]
  refine ideal_keyFile (Mock.toStringPretty_eq _) (List.mem_singleton_self aliceEncryption)
    (made_mockEncryption ..) ?_
  intro e he _
  rw [List.mem_singleton.1 he]
  exact ⟨rfl, rfl⟩

/-- Argon2 gives the two saves different keys. -/
theorem ideal_swapped :
    Ideal Mock.testLib (encryptions Mock.testLib StorageMap.empty [aliceSave, bobSave])
      aliceSave.passphrase (mockFile bobEncryption 1 bobSave.did) := by
  rw [encryptions_alice_bob]
  have hmem : bobEncryption ∈ [aliceEncryption, bobEncryption] := by simp
  refine ideal_keyFile (Mock.toStringPretty_eq _) hmem (made_mockEncryption ..) ?_
  intro e he hkey
  rcases List.mem_cons.1 he with rfl | he
  · exact absurd hkey (by decide)
  · rw [List.mem_singleton.1 he]
    exact ⟨rfl, rfl⟩

theorem open_mockFile {e : Encryption} (hmade : e.Made Mock.testLib) (version : UInt8) (did : Did) :
    openKeyFile Mock.testLib e.passphrase (mockFile e version did) = .ok ⟨did, e.plaintext⟩ :=
  Encryption.open_keyFile (Mock.toStringPretty_eq _) hmade

/-- What is loaded when the file of `aliceSave` is replaced by one with a ciphertext that exists. -/
theorem loads_replaced {e : Encryption} (disk : Disk) (hmade : e.Made Mock.testLib)
    (version : UInt8) (did : Did) :
    Loads Mock.testLib (disk.insert aliceSave.path (mockFile e version did)) aliceSave.path
      e.passphrase ⟨did, e.plaintext⟩ :=
  loads_iff.2 ⟨by decide, _, StorageMap.insert_self .., open_mockFile hmade version did⟩

/-- Another version in the file changes nothing. -/
theorem keystore_integrity_other_version :
    Loads Mock.testLib aliceDisk aliceSave.path aliceSave.passphrase
      ⟨aliceSave.did, aliceSave.key⟩ ∧
    ∀ identity, Loads Mock.testLib
        (aliceDisk.insert aliceSave.path (mockFile aliceEncryption 9 aliceSave.did))
        aliceSave.path aliceSave.passphrase identity →
      identity = ⟨aliceSave.did, aliceSave.key⟩ := by
  have h := keystore_integrity Mock.testLib StorageMap.empty aliceDisk [] aliceSave aliceSave_ok []
  refine ⟨h.1, ?_⟩
  intro identity hload
  have hopen := open_mockFile (e := aliceEncryption) (made_mockEncryption ..) 9 aliceSave.did
  have hreplaced := h.2.2 (mockFile aliceEncryption 9 aliceSave.did) [] []
  simp only [exec_nil, List.nil_append, encryptions_nil, List.append_nil] at hreplaced
  have honly : ∀ e ∈ encryptions Mock.testLib StorageMap.empty [aliceSave],
      e.passphrase = aliceSave.passphrase → e.plaintext = aliceSave.key := by
    rw [encryptions_alice]
    intro e he _
    rw [List.mem_singleton.1 he]
    rfl
  have hloaded := hreplaced (by simp) (ideal_edited 9 aliceSave.did) (.ok ()) identity _ hload
  exact hloaded.2.2 honly (namedDid_of_open hopen)

/-- The DID can be replaced, and the file can be replaced by that of another key under the same
passphrase; the load notices neither. -/
theorem swap_not_noticed :
    (aliceSave.run Mock.testLib).run StorageMap.empty = .ok () aliceDisk ∧
    (bobSave.run Mock.testLib).run aliceDisk = .ok () bobDisk ∧
    -- the DID of the first save is edited
    Ideal Mock.testLib (encryptions Mock.testLib StorageMap.empty [aliceSave])
      aliceSave.passphrase (mockFile aliceEncryption 1 bobSave.did) ∧
    Loads Mock.testLib (aliceDisk.insert aliceSave.path (mockFile aliceEncryption 1 bobSave.did))
      aliceSave.path aliceSave.passphrase ⟨bobSave.did, aliceSave.key⟩ ∧
    bobSave.did ≠ aliceSave.did ∧
    -- the file of the second save is copied over that of the first
    bobDisk bobSave.path = some (mockFile bobEncryption 1 bobSave.did) ∧
    Ideal Mock.testLib (encryptions Mock.testLib StorageMap.empty [aliceSave, bobSave])
      aliceSave.passphrase (mockFile bobEncryption 1 bobSave.did) ∧
    Loads Mock.testLib (bobDisk.insert aliceSave.path (mockFile bobEncryption 1 bobSave.did))
      aliceSave.path aliceSave.passphrase ⟨bobSave.did, bobSave.key⟩ ∧
    bobSave.key ≠ aliceSave.key :=
  ⟨aliceSave_ok, bobSave_ok, ideal_edited 1 _, loads_replaced _ (made_mockEncryption ..) 1 _,
    by decide, StorageMap.insert_self .., ideal_swapped,
    loads_replaced _ (made_mockEncryption ..) 1 _, by decide⟩

end OffchainAgentRegistry.Keystore
