import Mathlib.Logic.Encodable.Basic
import Mathlib.Logic.Equiv.List
import ArthNeura.OffchainAgentRegistry.Keystore

set_option autoImplicit false

/-! # Libraries for concrete runs of the keystore

A key is the salt, filled up with the passphrase; a ciphertext is the key, the nonce and the
plaintext; base 64 is replaced by hexadecimal, and a JSON text by as many bytes as the number of the
key file in an enumeration, with a last byte that ends it.
-/

namespace OffchainAgentRegistry.Keystore.Mock

open Frame

def fill (bytes : Bytes) : Bytes32 := ⟨(bytes ++ List.replicate 32 0).take 32, by simp⟩

def argon2 (passphrase : String) (salt : Bytes) : Except String Bytes32 :=
  if salt.length < 8 then .error "salt is too short"
  else .ok (fill (salt ++ passphrase.toList.map fun c => UInt8.ofNat (Char.toNat c)))

def encrypt (key : Bytes32) (nonce : Nonce) (plaintext : Bytes) : Option Bytes :=
  some (key.toList ++ nonce.toList ++ plaintext)

def decrypt (key : Bytes32) (nonce : Nonce) (ciphertext : Bytes) : Option Bytes :=
  if ciphertext.take 44 = key.toList ++ nonce.toList then some (ciphertext.drop 44) else none

theorem decrypt_eq_some (key : Bytes32) (nonce : Nonce) (ciphertext plaintext : Bytes) :
    decrypt key nonce ciphertext = some plaintext ↔
      encrypt key nonce plaintext = some ciphertext := by
  have hlength : (key.toList ++ nonce.toList).length = 44 := by simp
  unfold decrypt encrypt
  rw [Option.some.injEq]
  constructor
  · intro h
    split at h
    · next htake =>
        rw [← htake, ← Option.some.inj h, List.take_append_drop]
    · cases h
  · rintro rfl
    rw [if_pos (List.take_left' hlength), List.drop_left' hlength]

/-! ## JSON -/

abbrev Fields := ℕ × List ℕ × List ℕ × List ℕ × List ℕ

def charCodes (s : String) : List ℕ := s.toList.map Char.toNat

def ofCharCodes (codes : List ℕ) : String := String.ofList (codes.map Char.ofNat)

theorem ofCharCodes_charCodes (s : String) : ofCharCodes (charCodes s) = s := by
  have hchar : Char.ofNat ∘ Char.toNat = id := funext Char.ofNat_toNat
  rw [ofCharCodes, charCodes, List.map_map, hchar, List.map_id, String.ofList_toList]

def fields (file : KeyFile) : Fields :=
  (file.version.toNat, charCodes file.didHex, charCodes file.saltB64, charCodes file.nonceB64,
    charCodes file.ciphertextB64)

def ofFields : Fields → KeyFile
  | (version, didHex, saltB64, nonceB64, ciphertextB64) =>
      ⟨UInt8.ofNat version, ofCharCodes didHex, ofCharCodes saltB64, ofCharCodes nonceB64,
        ofCharCodes ciphertextB64⟩

theorem ofFields_fields (file : KeyFile) : ofFields (fields file) = file := by
  simp [ofFields, fields, ofCharCodes_charCodes]

def text (n : ℕ) : Bytes := List.replicate n 1 ++ [0]

theorem text_length (n : ℕ) : (text n).length = n + 1 := by simp [text]

/-- The content of a file. -/
def json (file : KeyFile) : Bytes := text (Encodable.encode (fields file))

def fromStr (json : Bytes) : Except String KeyFile :=
  if json = text (json.length - 1) then
    match (Encodable.decode (json.length - 1) : Option Fields) with
    | some fs => .ok (ofFields fs)
    | none => .error "invalid type"
  else .error "EOF while parsing an object"

theorem fromStr_json (file : KeyFile) : fromStr (json file) = .ok file := by
  have hlength : (text (Encodable.encode (fields file))).length - 1 =
      Encodable.encode (fields file) := by
    rw [text_length, Nat.add_sub_cancel]
  rw [fromStr, json, hlength, if_pos rfl, Encodable.encodek]
  exact congrArg Except.ok (ofFields_fields file)

/-- A text that was cut short has lost its last byte. -/
theorem fromStr_take_text (n k : ℕ) (h : k < (text n).length) :
    ∃ e, fromStr ((text n).take k) = .error e := by
  rw [text_length] at h
  have htake : (text n).take k = List.replicate k 1 := by
    rw [text, List.take_append_of_le_length (by simp; omega), List.take_replicate,
      Nat.min_eq_left (Nat.le_of_lt_succ h)]
  refine ⟨"EOF while parsing an object", ?_⟩
  rw [htake, fromStr, if_neg]
  intro heq
  have hzero : (0 : UInt8) ∈ List.replicate k (1 : UInt8) := by
    rw [heq]
    simp [text]
  have hone := List.eq_of_mem_replicate hzero
  cases hone

def testLib : Lib where
  argon2 := argon2
  encrypt := encrypt
  decrypt := decrypt
  base64Encode := Hex.encode
  base64Decode := Hex.decode
  toStringPretty := fun file => .ok (json file)
  fromStr := fromStr
  isUtf8 := fun _ => true
  decrypt_eq_some := decrypt_eq_some
  base64Decode_encode := Hex.decode_encode
  fromStr_toStringPretty := by
    intro file content h
    rw [← Except.ok.inj h]
    exact fromStr_json file
  isUtf8_toStringPretty := fun _ _ _ => rfl
  toStringPretty_ne_nil := by
    intro file content h
    rw [← Except.ok.inj h]
    simp [json, text]
  fromStr_take := by
    intro file json n h hn
    rw [← Except.ok.inj h] at hn ⊢
    exact fromStr_take_text _ n hn

theorem toStringPretty_eq (file : KeyFile) : testLib.toStringPretty file = .ok (json file) := rfl

/-! ## A save that goes through -/

def salt : Salt := List.Vector.replicate 16 1

def nonce : Nonce := List.Vector.replicate 12 2

def allOk : SaveOutcomes where
  createDir := .ok ()
  setDirPermissions := .ok ()
  salt := .ok salt
  nonce := .ok nonce
  write := .ok
  setFilePermissions := .ok ()

def derivedKey (passphrase : String) : Bytes32 :=
  fill (salt.toList ++ passphrase.toList.map fun c => UInt8.ofNat (Char.toNat c))

def ciphertext (key : Bytes) (passphrase : String) : Bytes :=
  (derivedKey passphrase).toList ++ nonce.toList ++ key

def storedFile (did : Did) (key : Bytes) (passphrase : String) : KeyFile :=
  newKeyFile testLib salt nonce did (ciphertext key passphrase)

theorem sealKeyFile_eq (did : Did) (key : Bytes) (passphrase : String) :
    sealKeyFile testLib salt nonce did key passphrase =
      .ok (json (storedFile did key passphrase)) := rfl

end OffchainAgentRegistry.Keystore.Mock
