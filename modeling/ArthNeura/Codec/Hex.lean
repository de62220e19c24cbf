import Mathlib.Data.List.Basic

set_option autoImplicit false

/-! # Hexadecimal text

Bytes as text with two digits a byte, in lower case. Reading accepts both cases, and nothing but
an even number of digits; what was written is read back (`decode_encode`).
-/

namespace Hex

/-- The value of a digit. -/
def digitValue (c : Char) : Option Nat :=
  let n := c.toNat
  if 48 ≤ n ∧ n ≤ 57 then some (n - 48)
  else if 97 ≤ n ∧ n ≤ 102 then some (n - 87)
  else if 65 ≤ n ∧ n ≤ 70 then some (n - 55)
  else none

def encode (bytes : List UInt8) : String :=
  String.ofList (bytes.flatMap fun b =>
    [Nat.digitChar (b.toNat / 16), Nat.digitChar (b.toNat % 16)])

def decodeDigits : List Char → Option (List UInt8)
  | [] => some []
  | [_] => none
  | hi :: lo :: rest => do
      let h ← digitValue hi
      let l ← digitValue lo
      let bytes ← decodeDigits rest
      return UInt8.ofNat (16 * h + l) :: bytes

def decode (s : String) : Option (List UInt8) := decodeDigits s.toList

theorem digitValue_digitChar : ∀ n < 16, digitValue (Nat.digitChar n) = some n := by decide

theorem decodeDigits_pair (b : UInt8) (rest : List Char) :
    decodeDigits (Nat.digitChar (b.toNat / 16) :: Nat.digitChar (b.toNat % 16) :: rest) =
      (decodeDigits rest).map (b :: ·) := by
  have hb : b.toNat < 256 := b.toNat_lt
  have hhi := digitValue_digitChar (b.toNat / 16) (by omega)
  have hlo := digitValue_digitChar (b.toNat % 16) (by omega)
  have hbyte : UInt8.ofNat (16 * (b.toNat / 16) + b.toNat % 16) = b := by
    rw [Nat.div_add_mod, UInt8.ofNat_toNat]
  rw [decodeDigits, hhi, hlo]
  cases decodeDigits rest with
  | none => rfl
  | some bytes =>
      show some (UInt8.ofNat (16 * (b.toNat / 16) + b.toNat % 16) :: bytes) = some (b :: bytes)
      rw [hbyte]

/-- **What was written is read back.** -/
theorem decode_encode (bytes : List UInt8) : decode (encode bytes) = some bytes := by
  rw [decode, encode, String.toList_ofList]
  induction bytes with
  | nil => rfl
  | cons b bytes ih =>
      rw [List.flatMap_cons, List.cons_append, List.cons_append, List.nil_append,
        decodeDigits_pair, ih, Option.map_some]

theorem mem_encode {bytes : List UInt8} {c : Char} (h : c ∈ (encode bytes).toList) :
    ∃ n < 16, c = Nat.digitChar n := by
  rw [encode, String.toList_ofList, List.mem_flatMap] at h
  obtain ⟨b, -, hc⟩ := h
  have hb : b.toNat < 256 := b.toNat_lt
  rcases List.mem_cons.mp hc with rfl | hc
  · exact ⟨b.toNat / 16, by omega, rfl⟩
  · exact ⟨b.toNat % 16, by omega, List.mem_singleton.mp hc⟩

theorem length_encode (bytes : List UInt8) : (encode bytes).toList.length = 2 * bytes.length := by
  rw [encode, String.toList_ofList]
  induction bytes with
  | nil => rfl
  | cons b bytes ih =>
      rw [List.flatMap_cons, List.length_append, ih]
      simp only [List.length_cons, List.length_nil]
      omega

end Hex
