import ArthNeura.OffchainAgentRegistry.Keystore.Mock

set_option autoImplicit false

/-! # What the functions of the keystore do

* `loadIdentity_ok`, `loadIdentity_error`: the results of a load. It returns unless it meets a nonce
  of a wrong length (`load_returns_iff`), on which the library panics;
* `openKeyFile_sealKeyFile`: what was sealed is opened with the same passphrase;
* `saveIdentity_ok`, `saveIdentity_extends`: a save writes a file only where there is none, whatever
  becomes of it;
* `loads_after_saveIdentity_iff`: when a key can be loaded after its save.
-/

namespace OffchainAgentRegistry.Keystore

open Frame Process

/-! ## Opening a key file -/

section

variable {lib : Lib} {passphrase : String} {content : Bytes}

theorem orDecryptionFailed_ok {α : Type} {o : Option α} {a : α} :
    orDecryptionFailed o = .ok a ↔ o = some a := orError_ok

theorem textOf_ok {json : Bytes} :
    textOf lib content = .ok json ↔ lib.isUtf8 content = true ∧ content = json := by
  unfold textOf
  split <;> simp [*]

theorem nonceFromSlice_ok {bytes : Bytes} {nonce : Nonce} :
    nonceFromSlice bytes = .ok nonce ↔ bytes = nonce.toList := by
  unfold nonceFromSlice
  constructor
  · intro h
    split at h
    · cases h
      rfl
    · cases h
  · rintro rfl
    rw [dif_pos nonce.toList_length]
    rfl

theorem nonceFromSlice_error {bytes : Bytes} {exit : Exit KeyStoreError} :
    nonceFromSlice bytes = .error exit ↔ bytes.length ≠ 12 ∧ exit = .panicked := by
  unfold nonceFromSlice
  split <;> simp [*, eq_comm]

theorem tryInto32_eq_some {bytes : Bytes} {array : Bytes32} :
    tryInto32 bytes = some array ↔ bytes = array.toList := by
  unfold tryInto32
  constructor
  · intro h
    split at h
    · cases h
      rfl
    · cases h
  · rintro rfl
    rw [dif_pos array.toList_length]
    rfl

/-- What is read out of a key file before the nonce is used. -/
structure Decoded where
  keyFile : KeyFile
  salt : Bytes
  nonceBytes : Bytes
  ciphertext : Bytes
  derivedKey : Bytes32

/-- All steps up to the nonce go through, with these results. -/
structure Decodes (lib : Lib) (passphrase : String) (content : Bytes) (x : Decoded) : Prop where
  isUtf8 : lib.isUtf8 content = true
  keyFile : lib.fromStr content = .ok x.keyFile
  salt : lib.base64Decode x.keyFile.saltB64 = some x.salt
  nonce : lib.base64Decode x.keyFile.nonceB64 = some x.nonceBytes
  ciphertext : lib.base64Decode x.keyFile.ciphertextB64 = some x.ciphertext
  derivedKey : lib.argon2 passphrase x.salt = .ok x.derivedKey

theorem openKeyFile_ok {identity : StoredIdentity} :
    openKeyFile lib passphrase content = .ok identity ↔
      ∃ x nonce, Decodes lib passphrase content x ∧ x.nonceBytes = List.Vector.toList nonce ∧
        lib.decrypt x.derivedKey nonce x.ciphertext = some identity.signingKeyBytes ∧
        Hex.decode x.keyFile.didHex = some identity.did.toList := by
  simp only [openKeyFile, except_bind_ok, textOf_ok, mapError_ok, orDecryptionFailed_ok,
    nonceFromSlice_ok, tryInto32_eq_some]
  constructor
  · rintro ⟨_, ⟨hutf8, rfl⟩, file, hfile, salt, hsalt, nonceBytes, hnonce, ciphertext, hct, key,
      hkey, nonce, hn, plaintext, hdec, didVec, hhex, did, rfl, hid⟩
    cases hid
    exact ⟨⟨file, salt, nonceBytes, ciphertext, key⟩, nonce,
      ⟨hutf8, hfile, hsalt, hnonce, hct, hkey⟩, hn, hdec, hhex⟩
  · rintro ⟨⟨file, salt, nonceBytes, ciphertext, key⟩, nonce,
      ⟨hutf8, hfile, hsalt, hnonce, hct, hkey⟩, hn, hdec, hhex⟩
    exact ⟨_, ⟨hutf8, rfl⟩, file, hfile, salt, hsalt, nonceBytes, hnonce, ciphertext, hct, key,
      hkey, nonce, hn, _, hdec, _, hhex, _, rfl, rfl⟩

section

variable {exit : Exit KeyStoreError} (hexit : ∀ e, exit ≠ .error e)

include hexit

theorem orDecryptionFailed_ne {α : Type} (o : Option α) : orDecryptionFailed o ≠ .error exit := by
  cases o with
  | none => simpa [orDecryptionFailed, orError] using (hexit .decryptionFailed).symm
  | some a => simp [orDecryptionFailed, orError]

theorem mapError_ne {ε α : Type} (wrap : ε → KeyStoreError) (x : Except ε α) :
    x.mapError (fun e => Exit.error (wrap e)) ≠ .error exit := by
  cases x with
  | ok a => simp [Except.mapError]
  | error e => simpa [Except.mapError] using (hexit (wrap e)).symm

theorem textOf_ne : textOf lib content ≠ .error exit := by
  unfold textOf
  split
  · simp
  · simpa using (hexit _).symm

/-- The only way to stop without an error of the keystore is the nonce. -/
theorem openKeyFile_exit :
    openKeyFile lib passphrase content = .error exit ↔
      exit = .panicked ∧ ∃ x, Decodes lib passphrase content x ∧ x.nonceBytes.length ≠ 12 := by
  have hreturn : ∀ did plaintext,
      (pure ⟨did, plaintext⟩ : Except (Exit KeyStoreError) StoredIdentity) ≠ .error exit :=
    fun _ _ h => nomatch h
  simp only [openKeyFile, except_bind_error, textOf_ok, mapError_ok, orDecryptionFailed_ok,
    nonceFromSlice_error, textOf_ne hexit, mapError_ne hexit, orDecryptionFailed_ne hexit,
    hreturn, false_or, and_false, exists_false, or_false]
  constructor
  · rintro ⟨_, ⟨hutf8, rfl⟩, file, hfile, salt, hsalt, nonceBytes, hnonce, ciphertext, hct, key,
      hkey, hlength, hpanic⟩
    exact ⟨hpanic, ⟨file, salt, nonceBytes, ciphertext, key⟩,
      ⟨hutf8, hfile, hsalt, hnonce, hct, hkey⟩, hlength⟩
  · rintro ⟨hpanic, ⟨file, salt, nonceBytes, ciphertext, key⟩,
      ⟨hutf8, hfile, hsalt, hnonce, hct, hkey⟩, hlength⟩
    exact ⟨_, ⟨hutf8, rfl⟩, file, hfile, salt, hsalt, nonceBytes, hnonce, ciphertext, hct, key,
      hkey, hlength, hpanic⟩

end

/-! ## Sealing and opening -/

theorem sealKeyFile_ok {salt : Salt} {nonce : Nonce} {did : Did} {key json : Bytes} :
    sealKeyFile lib salt nonce did key passphrase = .ok json ↔
      ∃ derivedKey ciphertext, lib.argon2 passphrase salt.toList = .ok derivedKey ∧
        lib.encrypt derivedKey nonce key = some ciphertext ∧
        lib.toStringPretty (newKeyFile lib salt nonce did ciphertext) = .ok json := by
  simp only [sealKeyFile, except_bind_ok, mapError_ok, orError_ok]
  constructor
  · rintro ⟨derivedKey, hkey, ciphertext, henc, hjson⟩
    exact ⟨derivedKey, ciphertext, hkey, henc, hjson⟩
  · rintro ⟨derivedKey, ciphertext, hkey, henc, hjson⟩
    exact ⟨derivedKey, hkey, ciphertext, henc, hjson⟩

/-- What a key file decodes to that was written as JSON. -/
theorem decodes_of_toStringPretty {x : Decoded} {json : Bytes}
    (hjson : lib.toStringPretty x.keyFile = .ok json)
    (hsalt : x.keyFile.saltB64 = lib.base64Encode x.salt)
    (hnonce : x.keyFile.nonceB64 = lib.base64Encode x.nonceBytes)
    (hciphertext : x.keyFile.ciphertextB64 = lib.base64Encode x.ciphertext)
    (hkey : lib.argon2 passphrase x.salt = .ok x.derivedKey) : Decodes lib passphrase json x where
  isUtf8 := lib.isUtf8_toStringPretty _ _ hjson
  keyFile := lib.fromStr_toStringPretty _ _ hjson
  salt := hsalt ▸ lib.base64Decode_encode _
  nonce := hnonce ▸ lib.base64Decode_encode _
  ciphertext := hciphertext ▸ lib.base64Decode_encode _
  derivedKey := hkey

/-- **What was sealed is opened with the same passphrase.** -/
theorem openKeyFile_sealKeyFile {salt : Salt} {nonce : Nonce} {did : Did} {key json : Bytes}
    (h : sealKeyFile lib salt nonce did key passphrase = .ok json) :
    openKeyFile lib passphrase json = .ok ⟨did, key⟩ := by
  obtain ⟨derivedKey, ciphertext, hkey, henc, hjson⟩ := sealKeyFile_ok.1 h
  have hdec : lib.decrypt derivedKey nonce ciphertext = some key :=
    (lib.decrypt_eq_some _ _ _ _).2 henc
  have hx := decodes_of_toStringPretty
    (x := ⟨newKeyFile lib salt nonce did ciphertext, _, _, _, _⟩) hjson rfl rfl rfl hkey
  exact openKeyFile_ok.2 ⟨_, nonce, hx, rfl, hdec, Hex.decode_encode did.toList⟩

/-- A file that was not written to its end is not opened. -/
theorem openKeyFile_cutShort {salt : Salt} {nonce : Nonce} {did : Did} {key json : Bytes}
    {passphrase' : String} (h : sealKeyFile lib salt nonce did key passphrase = .ok json) (n : Nat)
    (identity : StoredIdentity) :
    openKeyFile lib passphrase' (cutShort json n) ≠ .ok identity := by
  intro hopen
  obtain ⟨_, _, -, -, hjson⟩ := sealKeyFile_ok.1 h
  obtain ⟨x, _, hx, -⟩ := openKeyFile_ok.1 hopen
  have hlength : min n (json.length - 1) < json.length := by
    have hpos := List.length_pos_of_ne_nil (lib.toStringPretty_ne_nil _ _ hjson)
    omega
  obtain ⟨e, he⟩ := lib.fromStr_take _ _ _ hjson hlength
  have hfile : lib.fromStr (cutShort json n) = .ok x.keyFile := hx.keyFile
  rw [cutShort, he] at hfile
  cases hfile

/-! ## The three functions -/

variable {disk disk' : Disk} {dir label : String}

theorem run_keyFilePath_ok {α : Type} {f : KeyPath → KeyM α} {a : α} :
    (keyFilePath dir label >>= f).run disk = .ok a disk' ↔
      validateLabel label = true ∧ (f ⟨dir, label⟩).run disk = .ok a disk' := by
  rw [keyFilePath, bind_assoc, run_ensure_ok, pure_bind]

theorem loadIdentity_ok {read : Except String Unit} {identity : StoredIdentity} :
    (loadIdentity lib read dir label passphrase).run disk = .ok identity disk' ↔
      validateLabel label = true ∧ read = .ok () ∧ disk' = disk ∧
      ∃ content, disk ⟨dir, label⟩ = some content ∧
        openKeyFile lib passphrase content = .ok identity := by
  simp only [loadIdentity, run_keyFilePath_ok, run_get_bind, run_okOr_ok, run_attempt_ok,
    run_fromExcept_ok]
  constructor
  · rintro ⟨hlabel, content, hcontent, ⟨⟩, hread, hid, hdisk⟩
    exact ⟨hlabel, hread, hdisk, content, hcontent, hid⟩
  · rintro ⟨hlabel, hread, hdisk, content, hcontent, hid⟩
    exact ⟨hlabel, content, hcontent, (), hread, hid, hdisk⟩

theorem loadIdentity_error {read : Except String Unit} {exit : Exit KeyStoreError} :
    (loadIdentity lib read dir label passphrase).run disk = .error exit disk' ↔
      disk' = disk ∧
        (¬ validateLabel label = true ∧ exit = .error (.invalidLabel label) ∨
        validateLabel label = true ∧
          (disk ⟨dir, label⟩ = none ∧
              exit = .error (.notFound label (KeyPath.display ⟨dir, label⟩)) ∨
            ∃ content, disk ⟨dir, label⟩ = some content ∧
              ((∃ e, read = .error e ∧ exit = .error (.io e)) ∨
                read = .ok () ∧ openKeyFile lib passphrase content = .error exit))) := by
  rw [loadIdentity, keyFilePath, bind_assoc]
  simp only [pure_bind, run_ensure_error, run_get_bind, run_okOr_error, run_attempt_error,
    run_fromExcept_error]
  constructor
  · rintro (⟨hlabel, hexit, rfl⟩ | ⟨hlabel, ⟨hnone, hexit, rfl⟩ | ⟨content, hcontent,
      ⟨e, hread, hexit, rfl⟩ | ⟨⟨⟩, hread, hopen, rfl⟩⟩⟩)
    · exact ⟨rfl, Or.inl ⟨hlabel, hexit⟩⟩
    · exact ⟨rfl, Or.inr ⟨hlabel, Or.inl ⟨hnone, hexit⟩⟩⟩
    · exact ⟨rfl, Or.inr ⟨hlabel, Or.inr ⟨content, hcontent, Or.inl ⟨e, hread, hexit⟩⟩⟩⟩
    · exact ⟨rfl, Or.inr ⟨hlabel, Or.inr ⟨content, hcontent, Or.inr ⟨hread, hopen⟩⟩⟩⟩
  · rintro ⟨rfl, ⟨hlabel, hexit⟩ | ⟨hlabel, ⟨hnone, hexit⟩ | ⟨content, hcontent,
      ⟨e, hread, hexit⟩ | ⟨hread, hopen⟩⟩⟩⟩
    · exact Or.inl ⟨hlabel, hexit, rfl⟩
    · exact Or.inr ⟨hlabel, Or.inl ⟨hnone, hexit, rfl⟩⟩
    · exact Or.inr ⟨hlabel, Or.inr ⟨content, hcontent, Or.inl ⟨e, hread, hexit, rfl⟩⟩⟩
    · exact Or.inr ⟨hlabel, Or.inr ⟨content, hcontent, Or.inr ⟨(), hread, hopen, rfl⟩⟩⟩

theorem after_loadIdentity (read : Except String Unit) (disk : Disk) :
    after (loadIdentity lib read dir label passphrase) disk = disk := by
  cases hrun : (loadIdentity lib read dir label passphrase).run disk with
  | ok identity disk' => rw [after_of_ok hrun, (loadIdentity_ok.1 hrun).2.2.1]
  | error exit disk' => rw [after_of_error hrun, (loadIdentity_error.1 hrun).1]

/-- A load that ends without an error of the keystore has met a nonce of a wrong length. -/
theorem loadIdentity_exit {read : Except String Unit} {exit : Exit KeyStoreError}
    (hexit : ∀ e, exit ≠ .error e) :
    (loadIdentity lib read dir label passphrase).run disk = .error exit disk' ↔
      disk' = disk ∧ validateLabel label = true ∧ read = .ok () ∧ exit = .panicked ∧
        ∃ content x, disk ⟨dir, label⟩ = some content ∧ Decodes lib passphrase content x ∧
          x.nonceBytes.length ≠ 12 := by
  rw [loadIdentity_error]
  simp only [hexit, and_false, exists_false, false_or, openKeyFile_exit hexit]
  constructor
  · rintro ⟨hdisk, hlabel, content, hcontent, hread, hpanic, x, hx, hlength⟩
    exact ⟨hdisk, hlabel, hread, hpanic, content, x, hcontent, hx, hlength⟩
  · rintro ⟨hdisk, hlabel, hread, hpanic, content, x, hcontent, hx, hlength⟩
    exact ⟨hdisk, hlabel, content, hcontent, hread, hpanic, x, hx, hlength⟩

/-- **A load returns on exactly the files in which the nonce has 12 bytes**, as long as the load
comes so far as to use it. -/
theorem load_returns_iff (lib : Lib) (read : Except String Unit) (dir label passphrase : String)
    (disk : Disk) :
    ((∃ identity, (loadIdentity lib read dir label passphrase).run disk = .ok identity disk) ∨
      (∃ e, (loadIdentity lib read dir label passphrase).run disk = .error (.error e) disk)) ↔
    (validateLabel label = true → read = .ok () → ∀ content x, disk ⟨dir, label⟩ = some content →
      Decodes lib passphrase content x → x.nonceBytes.length = 12) := by
  constructor
  · intro h hlabel hread content x hcontent hx
    by_contra hlength
    have hne : ∀ e : KeyStoreError, Exit.panicked ≠ .error e := by simp
    have hpanic : (loadIdentity lib read dir label passphrase).run disk = .error .panicked disk :=
      (loadIdentity_exit hne).2 ⟨rfl, hlabel, hread, rfl, content, x, hcontent, hx, hlength⟩
    rcases h with ⟨identity, h⟩ | ⟨e, h⟩
    · rw [hpanic] at h
      cases h
    · rw [hpanic] at h
      cases h
  · intro h
    cases hrun : (loadIdentity lib read dir label passphrase).run disk with
    | ok identity disk' =>
        obtain ⟨-, -, rfl, -⟩ := loadIdentity_ok.1 hrun
        exact Or.inl ⟨identity, rfl⟩
    | error exit disk' =>
        by_cases hexit : ∃ e, exit = .error e
        · obtain ⟨e, rfl⟩ := hexit
          obtain ⟨rfl, -⟩ := loadIdentity_error.1 hrun
          exact Or.inr ⟨e, rfl⟩
        · obtain ⟨-, hlabel, hread, -, content, x, hcontent, hx, hlength⟩ :=
            (loadIdentity_exit (not_exists.1 hexit)).1 hrun
          exact absurd (h hlabel hread content x hcontent hx) hlength

/-- A key file with a nonce of 11 bytes. -/
def shortNonceFile : KeyFile where
  version := 1
  didHex := Hex.encode (List.replicate 32 0)
  saltB64 := Hex.encode (List.replicate 16 0)
  nonceB64 := Hex.encode (List.replicate 11 0)
  ciphertextB64 := Hex.encode (List.replicate 48 0)

def shortNonceDisk : Disk :=
  StorageMap.empty.insert ⟨"keys", "alice"⟩ (Mock.json shortNonceFile)

theorem load_panics_on_short_nonce :
    (loadIdentity Mock.testLib (.ok ()) "keys" "alice" "passphrase").run shortNonceDisk =
      .error .panicked shortNonceDisk := by
  have hne : ∀ e : KeyStoreError, Exit.panicked ≠ .error e := by simp
  have hx := decodes_of_toStringPretty
    (x := ⟨shortNonceFile, List.replicate 16 0, List.replicate 11 0, List.replicate 48 0, _⟩)
    (Mock.toStringPretty_eq shortNonceFile) rfl rfl rfl
    (show Mock.argon2 "passphrase" (List.replicate 16 0) = .ok _ from rfl)
  exact (loadIdentity_exit hne).2
    ⟨rfl, by decide, rfl, rfl, _, _, StorageMap.insert_self .., hx, by decide⟩

/-! ## Saving -/

/-- Everything before the write goes through, and `json` is to be written. -/
structure Ready (lib : Lib) (o : SaveOutcomes) (disk : Disk) (path : KeyPath) (did : Did)
    (key : Bytes) (passphrase : String) (json : Bytes) : Prop where
  label : validateLabel path.label = true
  absent : disk path = none
  createDir : o.createDir = .ok ()
  setDirPermissions : o.setDirPermissions = .ok ()
  sealed : ∃ salt nonce, o.salt = .ok salt ∧ o.nonce = .ok nonce ∧
    sealKeyFile lib salt nonce did key passphrase = .ok json

variable {o : SaveOutcomes} {did : Did} {key json : Bytes}

theorem Ready.of_absent {path : KeyPath} (h : Ready lib o disk path did key passphrase json)
    (habsent : disk' path = none) : Ready lib o disk' path did key passphrase json :=
  { h with absent := habsent }

theorem saveIdentity_of_ready (h : Ready lib o disk ⟨dir, label⟩ did key passphrase json) :
    (saveIdentity lib o dir label did key passphrase).run disk =
      (do writeFile ⟨dir, label⟩ json o.write; external .io o.setFilePermissions : KeyM Unit).run
        disk := by
  obtain ⟨salt, nonce, hsalt, hnonce, hseal⟩ := h.sealed
  have hlabel : validateLabel label = true := h.label
  rw [saveIdentity, keyFilePath, h.createDir, h.setDirPermissions, hsalt, hnonce]
  simp only [ensure, if_pos hlabel, pure_bind, run_get_bind, if_pos h.absent, external, hseal,
    attempt]

theorem saveIdentity_stops (h : ∀ json, ¬ Ready lib o disk ⟨dir, label⟩ did key passphrase json) :
    Stops (saveIdentity lib o dir label did key passphrase) disk := by
  by_contra hstops
  simp only [saveIdentity, keyFilePath, bind_assoc, pure_bind, not_stops_ensure, stops_get_bind,
    not_stops_external, not_stops_attempt] at hstops
  obtain ⟨hlabel, habsent, ⟨⟩, hcreate, ⟨⟩, hperm, salt, hsalt, nonce, hnonce, json, hseal, -⟩ :=
    hstops
  exact h json ⟨hlabel, habsent, hcreate, hperm, salt, nonce, hsalt, hnonce, hseal⟩

theorem after_saveIdentity_of_ready (h : Ready lib o disk ⟨dir, label⟩ did key passphrase json) :
    after (saveIdentity lib o dir label did key passphrase) disk =
      disk.put ⟨dir, label⟩ (o.write.leaves json) := by
  rw [after, saveIdentity_of_ready h]
  cases o.write with
  | ok => cases o.setFilePermissions <;> rfl
  | err e written => rfl
  | killed written => rfl

theorem after_saveIdentity_of_not_ready
    (h : ∀ json, ¬ Ready lib o disk ⟨dir, label⟩ did key passphrase json) :
    after (saveIdentity lib o dir label did key passphrase) disk = disk := by
  obtain ⟨exit, hexit⟩ := saveIdentity_stops h
  exact after_of_error hexit

theorem after_saveIdentity_of_exists (h : identityExists disk dir label = true) :
    after (saveIdentity lib o dir label did key passphrase) disk = disk := by
  refine after_saveIdentity_of_not_ready fun json hready => ?_
  rw [identityExists, hready.absent, Option.isSome_none, Bool.and_false] at h
  cases h

theorem saveIdentity_ok :
    (saveIdentity lib o dir label did key passphrase).run disk = .ok () disk' ↔
      ∃ json, Ready lib o disk ⟨dir, label⟩ did key passphrase json ∧ o.write = .ok ∧
        o.setFilePermissions = .ok () ∧ disk' = disk.insert ⟨dir, label⟩ json := by
  constructor
  · intro h
    by_cases hready : ∃ json, Ready lib o disk ⟨dir, label⟩ did key passphrase json
    · obtain ⟨json, hready⟩ := hready
      rw [saveIdentity_of_ready hready] at h
      cases hwrite : o.write with
      | ok =>
          cases hperm : o.setFilePermissions with
          | ok =>
              rw [hwrite, hperm] at h
              cases h
              exact ⟨json, hready, rfl, rfl, rfl⟩
          | err e =>
              rw [hwrite, hperm] at h
              cases h
          | killed =>
              rw [hwrite, hperm] at h
              cases h
      | err e written =>
          rw [hwrite] at h
          cases h
      | killed written =>
          rw [hwrite] at h
          cases h
    · obtain ⟨exit, hexit⟩ := saveIdentity_stops (not_exists.1 hready)
      rw [hexit] at h
      cases h
  · rintro ⟨json, hready, hwrite, hperm, rfl⟩
    rw [saveIdentity_of_ready hready, hwrite, hperm]
    rfl

theorem ready_allOk {path : KeyPath} (hlabel : validateLabel path.label = true)
    (habsent : disk path = none) (did : Did) (key : Bytes) (passphrase : String) :
    Ready Mock.testLib Mock.allOk disk path did key passphrase
      (Mock.json (Mock.storedFile did key passphrase)) where
  label := hlabel
  absent := habsent
  createDir := rfl
  setDirPermissions := rfl
  sealed := ⟨Mock.salt, Mock.nonce, rfl, rfl, Mock.sealKeyFile_eq did key passphrase⟩

/-- All files of `disk` are there, unchanged. -/
def Disk.Extends (disk disk' : Disk) : Prop :=
  ∀ path content, disk path = some content → disk' path = some content

theorem Disk.Extends.refl (disk : Disk) : disk.Extends disk := fun _ _ h => h

theorem Disk.Extends.trans {d₁ d₂ d₃ : Disk} (h : d₁.Extends d₂) (h' : d₂.Extends d₃) :
    d₁.Extends d₃ := fun path content hd => h' path content (h path content hd)

theorem Disk.extends_put {path : KeyPath} (h : disk path = none) (content : Option Bytes) :
    disk.Extends (disk.put path content) := by
  intro path' content' hd
  have hne : path' ≠ path := by
    rintro rfl
    rw [h] at hd
    cases hd
  cases content with
  | none => exact hd
  | some c =>
      rw [Disk.put, StorageMap.insert_ne hne]
      exact hd

/-- **A save changes no file that exists**, whatever becomes of it. -/
theorem saveIdentity_extends (disk : Disk) :
    disk.Extends (after (saveIdentity lib o dir label did key passphrase) disk) := by
  by_cases hready : ∃ json, Ready lib o disk ⟨dir, label⟩ did key passphrase json
  · obtain ⟨json, hready⟩ := hready
    rw [after_saveIdentity_of_ready hready]
    exact Disk.extends_put hready.absent _
  · rw [after_saveIdentity_of_not_ready (not_exists.1 hready)]
    exact Disk.Extends.refl disk

/-- A save touches the file of its label only. -/
theorem after_saveIdentity_ne {path : KeyPath} (h : path ≠ ⟨dir, label⟩) (disk : Disk) :
    after (saveIdentity lib o dir label did key passphrase) disk path = disk path := by
  by_cases hready : ∃ json, Ready lib o disk ⟨dir, label⟩ did key passphrase json
  · obtain ⟨json, hready⟩ := hready
    rw [after_saveIdentity_of_ready hready]
    cases o.write.leaves json with
    | none => rfl
    | some content => exact StorageMap.insert_ne h
  · rw [after_saveIdentity_of_not_ready (not_exists.1 hready)]

/-! ## Loading what was saved -/

/-- A load returns the identity if the file can be read. -/
def Loads (lib : Lib) (disk : Disk) (path : KeyPath) (passphrase : String)
    (identity : StoredIdentity) : Prop :=
  (loadIdentity lib (.ok ()) path.dir path.label passphrase).run disk = .ok identity disk

theorem loads_iff {path : KeyPath} {identity : StoredIdentity} :
    Loads lib disk path passphrase identity ↔
      validateLabel path.label = true ∧
      ∃ content, disk path = some content ∧
        openKeyFile lib passphrase content = .ok identity := by
  rw [Loads, loadIdentity_ok]
  simp

theorem Loads.identityExists {identity : StoredIdentity}
    (h : Loads lib disk ⟨dir, label⟩ passphrase identity) :
    identityExists disk dir label = true := by
  obtain ⟨hlabel, content, hcontent, -⟩ := loads_iff.1 h
  have hlabel' : validateLabel label = true := hlabel
  rw [Keystore.identityExists, hlabel', hcontent]
  rfl

/-- A load reads only the file of its label. -/
theorem Loads.congr {path : KeyPath} {identity : StoredIdentity} (h : disk path = disk' path) :
    Loads lib disk path passphrase identity ↔ Loads lib disk' path passphrase identity := by
  rw [loads_iff, loads_iff, h]

/-- A file that exists is loaded the same way from then on. -/
theorem Loads.mono {path : KeyPath} {identity : StoredIdentity}
    (h : Loads lib disk path passphrase identity) (hext : disk.Extends disk') :
    Loads lib disk' path passphrase identity := by
  obtain ⟨hlabel, content, hcontent, hopen⟩ := loads_iff.1 h
  exact loads_iff.2 ⟨hlabel, content, hext path content hcontent, hopen⟩

theorem not_loads_of_not_exists {identity : StoredIdentity}
    (hnew : identityExists disk dir label = false) :
    ¬ Loads lib disk ⟨dir, label⟩ passphrase identity := by
  intro h
  rw [h.identityExists] at hnew
  cases hnew

/-- Some of a new key file is not enough to load it. -/
theorem not_loads_cutShort {salt : Salt} {nonce : Nonce} {passphrase' : String}
    {identity : StoredIdentity} (hseal : sealKeyFile lib salt nonce did key passphrase = .ok json)
    (hnew : identityExists disk dir label = false) (written : Option Nat) :
    ¬ Loads lib (disk.put ⟨dir, label⟩ (written.map (cutShort json))) ⟨dir, label⟩ passphrase'
      identity := by
  cases written with
  | none => exact not_loads_of_not_exists hnew
  | some n =>
      intro h
      obtain ⟨-, content, hcontent, hopen⟩ := loads_iff.1 h
      have hcut : content = cutShort json n := by
        rw [Option.map_some, Disk.put, StorageMap.insert_self] at hcontent
        exact (Option.some.inj hcontent).symm
      rw [hcut] at hopen
      exact openKeyFile_cutShort hseal n identity hopen

/-- Where there was no file, one can be loaded only if the save came to its write and wrote
everything. -/
theorem written_of_loads {passphrase' : String} {identity : StoredIdentity}
    (hnew : identityExists disk dir label = false)
    (h : Loads lib (after (saveIdentity lib o dir label did key passphrase) disk) ⟨dir, label⟩
      passphrase' identity) :
    o.write = .ok ∧ ∃ json, Ready lib o disk ⟨dir, label⟩ did key passphrase json := by
  by_cases hready : ∃ json, Ready lib o disk ⟨dir, label⟩ did key passphrase json
  · obtain ⟨json, hready⟩ := hready
    obtain ⟨_, _, -, -, hseal⟩ := hready.sealed
    rw [after_saveIdentity_of_ready hready] at h
    cases hwrite : o.write with
    | ok => exact ⟨rfl, json, hready⟩
    | err e written =>
        rw [hwrite] at h
        exact absurd h (not_loads_cutShort hseal hnew written)
    | killed written =>
        rw [hwrite] at h
        exact absurd h (not_loads_cutShort hseal hnew written)
  · rw [after_saveIdentity_of_not_ready (not_exists.1 hready)] at h
    exact absurd h (not_loads_of_not_exists hnew)

theorem loads_of_written (hready : Ready lib o disk ⟨dir, label⟩ did key passphrase json)
    (hwrite : o.write = .ok) :
    Loads lib (after (saveIdentity lib o dir label did key passphrase) disk) ⟨dir, label⟩ passphrase
      ⟨did, key⟩ := by
  rw [after_saveIdentity_of_ready hready, hwrite]
  obtain ⟨_, _, -, -, hseal⟩ := hready.sealed
  exact loads_iff.2 ⟨hready.label, json, StorageMap.insert_self .., openKeyFile_sealKeyFile hseal⟩

/-- **Where there was no file, the key can be loaded after a save exactly if the save came to its
write and wrote everything.** -/
theorem loads_after_saveIdentity_iff (hnew : identityExists disk dir label = false) :
    Loads lib (after (saveIdentity lib o dir label did key passphrase) disk) ⟨dir, label⟩ passphrase
        ⟨did, key⟩ ↔
      o.write = .ok ∧ ∃ json, Ready lib o disk ⟨dir, label⟩ did key passphrase json := by
  constructor
  · exact written_of_loads hnew
  · rintro ⟨hwrite, json, hready⟩
    exact loads_of_written hready hwrite

end

end OffchainAgentRegistry.Keystore
