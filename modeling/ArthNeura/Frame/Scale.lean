import ArthNeura.Frame.Storage

set_option autoImplicit false

/-! # SCALE encodings

The fixed part of the codec: byte arrays, `u32`, tuples and newtypes. An encoding carries no
type information, but it marks its own end: what follows a value in a byte string does not change
how the value is read. This is the law of the class, because it is what tuples inherit; that an
encoding is injective (`encode_injective`) is the case where nothing follows.
-/

namespace Frame

/-- The types that can be encoded. -/
class Encode (α : Type) where
  encode : α → Bytes
  append_inj : ∀ {a b : α} {x y : Bytes}, encode a ++ x = encode b ++ y → a = b ∧ x = y

export Encode (encode)

theorem encode_injective {α : Type} [Encode α] {a b : α} (h : encode a = encode b) : a = b := by
  have happend : encode a ++ [] = encode b ++ [] := by rw [h]
  exact (Encode.append_inj happend).1

/-- `[u8; 32]` is encoded as it is. -/
instance : Encode Bytes32 where
  encode b := b.toList
  append_inj h := by
    obtain ⟨hab, hxy⟩ := List.append_inj h (by simp)
    exact ⟨List.Vector.toList_injective hab, hxy⟩

/-- `u32`, least significant byte first. -/
instance : Encode UInt32 where
  encode n := encodeU32 n.toNat
  append_inj {a b _ _} h := by
    obtain ⟨hab, hxy⟩ := List.append_inj h rfl
    exact ⟨UInt32.toNat_inj.mp (encodeU32_inj a.toNat_lt b.toNat_lt hab), hxy⟩

/-- The parts of a tuple one after the other. -/
instance {α β : Type} [Encode α] [Encode β] : Encode (α × β) where
  encode p := encode p.1 ++ encode p.2
  append_inj {p q x y} h := by
    rw [List.append_assoc, List.append_assoc] at h
    obtain ⟨h1, h⟩ := Encode.append_inj h
    obtain ⟨h2, hxy⟩ := Encode.append_inj h
    exact ⟨Prod.ext h1 h2, hxy⟩

/-! ## Newtypes -/

/-- The hash of a block. -/
structure H256 where
  bytes : Bytes32
  deriving DecidableEq

/-- The account of the runtime. -/
structure AccountId32 where
  bytes : Bytes32
  deriving DecidableEq

instance : Encode H256 where
  encode h := encode h.bytes
  append_inj {h k _ _} he := by
    obtain ⟨hb, hxy⟩ := Encode.append_inj he
    exact ⟨congrArg H256.mk hb, hxy⟩

instance : Encode AccountId32 where
  encode a := encode a.bytes
  append_inj {a b _ _} he := by
    obtain ⟨hb, hxy⟩ := Encode.append_inj he
    exact ⟨congrArg AccountId32.mk hb, hxy⟩

end Frame
