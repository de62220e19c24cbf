import ArthNeura.Codec.Hex
import ArthNeura.Frame.Storage
import ArthNeura.Process.Program

set_option autoImplicit false

/-! # The encrypted keystore

`keystore.rs` keeps the secret keys of agents in files, one for each label, encrypted under a key
that Argon2 derives from a passphrase. This file has its functions, with the libraries they call as
a parameter (`Lib`) and the outcomes of the calls to the operating system as arguments.
-/

namespace OffchainAgentRegistry.Keystore

open Frame Process

abbrev Did := Bytes32

inductive KeyStoreError where
  | io (e : String)
  | serde (e : String)
  | kdf (e : String)
  | decryptionFailed
  | alreadyExists (label path : String)
  | notFound (label path : String)
  | invalidLabel (label : String)
  deriving DecidableEq

structure KeyFile where
  version : UInt8
  didHex : String
  saltB64 : String
  nonceB64 : String
  ciphertextB64 : String
  deriving DecidableEq

structure StoredIdentity where
  did : Did
  signingKeyBytes : Bytes
  deriving DecidableEq

/-- `SALT_LEN` bytes. -/
abbrev Salt := List.Vector UInt8 16

/-- `NONCE_LEN` bytes. -/
abbrev Nonce := List.Vector UInt8 12

/-- The libraries that the keystore calls, with what is documented of them. A text that is written
to a file is the list of the bytes of its UTF-8 encoding. -/
structure Lib where
  argon2 : String → Bytes → Except String Bytes32
  encrypt : Bytes32 → Nonce → Bytes → Option Bytes
  decrypt : Bytes32 → Nonce → Bytes → Option Bytes
  base64Encode : Bytes → String
  base64Decode : String → Option Bytes
  toStringPretty : KeyFile → Except String Bytes
  fromStr : Bytes → Except String KeyFile
  isUtf8 : Bytes → Bool
  /-- A ciphertext is accepted exactly if it is the encryption of what is returned. -/
  decrypt_eq_some : ∀ key nonce ciphertext plaintext,
    decrypt key nonce ciphertext = some plaintext ↔ encrypt key nonce plaintext = some ciphertext
  base64Decode_encode : ∀ bytes, base64Decode (base64Encode bytes) = some bytes
  fromStr_toStringPretty : ∀ file json, toStringPretty file = .ok json → fromStr json = .ok file
  isUtf8_toStringPretty : ∀ file json, toStringPretty file = .ok json → isUtf8 json = true
  toStringPretty_ne_nil : ∀ file json, toStringPretty file = .ok json → json ≠ []
  /-- A JSON object that was cut short is not a JSON object. -/
  fromStr_take : ∀ file json n, toStringPretty file = .ok json → n < json.length →
    ∃ e, fromStr (json.take n) = .error e

/-! ## Paths -/

def validateLabel (label : String) : Bool :=
  !label.toList.isEmpty && label.toList.all fun c => c.isAlphanum || c == '-' || c == '_'

/-- The file `<dir>/<label>.json`. -/
structure KeyPath where
  dir : String
  label : String
  deriving DecidableEq

def KeyPath.display (path : KeyPath) : String := path.dir ++ "/" ++ path.label ++ ".json"

/-- The contents of the key files that exist. -/
abbrev Disk := StorageMap KeyPath Bytes

abbrev KeyM := Program KeyStoreError Disk

def keyFilePath (dir label : String) : KeyM KeyPath := do
  ensure (validateLabel label = true) (.error (.invalidLabel label))
  return ⟨dir, label⟩

/-- `Path::exists` is taken at its word, here and in `saveIdentity`; in fact it also answers `false`
for a file that may not be looked up. -/
def identityExists (disk : Disk) (dir label : String) : Bool :=
  validateLabel label && (disk ⟨dir, label⟩).isSome

/-! ## Saving -/

/-- A write either puts the whole text into the file, or ends before that: then the file does not
exist, or it holds some of the text. -/
inductive WriteOutcome where
  | ok
  | err (e : String) (written : Option Nat)
  | killed (written : Option Nat)

structure SaveOutcomes where
  createDir : Outcome Unit
  setDirPermissions : Outcome Unit
  salt : Outcome Salt
  nonce : Outcome Nonce
  write : WriteOutcome
  setFilePermissions : Outcome Unit

section

variable (lib : Lib)

def newKeyFile (salt : Salt) (nonce : Nonce) (did : Did) (ciphertext : Bytes) : KeyFile where
  version := 1
  didHex := Hex.encode did.toList
  saltB64 := lib.base64Encode salt.toList
  nonceB64 := lib.base64Encode nonce.toList
  ciphertextB64 := lib.base64Encode ciphertext

/-- The content of a new key file. -/
def sealKeyFile (salt : Salt) (nonce : Nonce) (did : Did) (signingKeyBytes : Bytes)
    (passphrase : String) : Except KeyStoreError Bytes := do
  let derivedKey ← (lib.argon2 passphrase salt.toList).mapError .kdf
  let ciphertext ← orError (.kdf "AEAD encryption failed")
    (lib.encrypt derivedKey nonce signingKeyBytes)
  (lib.toStringPretty (newKeyFile lib salt nonce did ciphertext)).mapError .serde

/-- The first bytes of a text that was not written to its end. -/
def cutShort (json : Bytes) (n : Nat) : Bytes := json.take (min n (json.length - 1))

/-- What a write leaves in the file. -/
def WriteOutcome.leaves (json : Bytes) : WriteOutcome → Option Bytes
  | .ok => some json
  | .err _ written => written.map (cutShort json)
  | .killed written => written.map (cutShort json)

def Disk.put (disk : Disk) (path : KeyPath) : Option Bytes → Disk
  | none => disk
  | some content => disk.insert path content

/-- `fs::write`. -/
def writeFile (path : KeyPath) (json : Bytes) (write : WriteOutcome) : KeyM Unit := do
  modify fun disk => disk.put path (write.leaves json)
  match write with
  | .ok => return
  | .err e _ => fail (.io e)
  | .killed _ => throw .killed

def saveIdentity (o : SaveOutcomes) (dir label : String) (did : Did) (signingKeyBytes : Bytes)
    (passphrase : String) : KeyM Unit := do
  let path ← keyFilePath dir label
  let disk ← get
  ensure (disk path = none) (.error (.alreadyExists label path.display))
  external .io o.createDir
  external .io o.setDirPermissions
  let salt ← external (fun e => .kdf ("OS RNG failure: " ++ e)) o.salt
  let nonce ← external (fun e => .kdf ("OS RNG failure: " ++ e)) o.nonce
  let json ← attempt id (sealKeyFile lib salt nonce did signingKeyBytes passphrase)
  writeFile path json o.write
  external .io o.setFilePermissions

/-! ## Loading -/

/-- `Nonce::from_slice` panics on a slice of another length. -/
def nonceFromSlice (bytes : Bytes) : Except (Exit KeyStoreError) Nonce :=
  if h : bytes.length = 12 then .ok ⟨bytes, h⟩ else .error .panicked

/-- `try_into`. -/
def tryInto32 (bytes : Bytes) : Option Bytes32 :=
  if h : bytes.length = 32 then some ⟨bytes, h⟩ else none

def orDecryptionFailed {α : Type} (o : Option α) : Except (Exit KeyStoreError) α :=
  orError (.error .decryptionFailed) o

/-- `read_to_string` on the bytes of the file. -/
def textOf (content : Bytes) : Except (Exit KeyStoreError) Bytes :=
  if lib.isUtf8 content then .ok content
  else .error (.error (.io "stream did not contain valid UTF-8"))

/-- What is made of the content of a key file. -/
def openKeyFile (passphrase : String) (content : Bytes) :
    Except (Exit KeyStoreError) StoredIdentity := do
  let json ← textOf lib content
  let keyFile ← (lib.fromStr json).mapError fun e => .error (.serde e)
  let salt ← orDecryptionFailed (lib.base64Decode keyFile.saltB64)
  let nonceBytes ← orDecryptionFailed (lib.base64Decode keyFile.nonceB64)
  let ciphertext ← orDecryptionFailed (lib.base64Decode keyFile.ciphertextB64)
  let derivedKey ← (lib.argon2 passphrase salt).mapError fun e => .error (.kdf e)
  let nonce ← nonceFromSlice nonceBytes
  let plaintext ← orDecryptionFailed (lib.decrypt derivedKey nonce ciphertext)
  let didVec ← orDecryptionFailed (Hex.decode keyFile.didHex)
  let did ← orDecryptionFailed (tryInto32 didVec)
  return ⟨did, plaintext⟩

def loadIdentity (read : Except String Unit) (dir label passphrase : String) :
    KeyM StoredIdentity := do
  let path ← keyFilePath dir label
  let disk ← get
  let content ← okOr (disk path) (.error (.notFound label path.display))
  attempt .io read
  fromExcept (openKeyFile lib passphrase content)

end

end OffchainAgentRegistry.Keystore
