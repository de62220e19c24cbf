import ArthNeura.Frame.Storage

set_option autoImplicit false

/-! # Codecs

A codec reads a value back exactly where it was written, with what follows left over. The law
carries over to pairs, lists and types that are given by a part of another one (`pullback`), so that
the codec of a message is put together from those of its fields and needs no proof of its own.

The codecs are those of SCALE, the format of the chain, as it is documented; the library that
implements it is not part of the repository. Integers have a fixed width, least significant byte
first; lengths have the compact form, whose four modes are told apart by two bits; sequences stand
behind their length.
-/

namespace Scale

open Frame

variable {α β : Type}

structure Codec (α : Type) where
  /-- The values that have an encoding. -/
  Valid : α → Prop
  encode : α → Bytes
  decode : Bytes → Option (α × Bytes)
  decode_encode : ∀ a rest, Valid a → decode (encode a ++ rest) = some (a, rest)

namespace Codec

/-! ## Combinators -/

/-- One value after the other. -/
def prod (c : Codec α) (d : Codec β) : Codec (α × β) where
  Valid p := c.Valid p.1 ∧ d.Valid p.2
  encode p := c.encode p.1 ++ d.encode p.2
  decode bs :=
    (c.decode bs).bind fun p => (d.decode p.2).map fun q => ((p.1, q.1), q.2)
  decode_encode := by
    rintro ⟨a, b⟩ rest ⟨ha, hb⟩
    rw [List.append_assoc, c.decode_encode a _ ha, Option.bind_some, d.decode_encode b _ hb]
    rfl

/-- A type that is a part of another one. -/
def pullback (c : Codec α) (f : β → α) (g : α → Option β) (h : ∀ b, g (f b) = some b) :
    Codec β where
  Valid b := c.Valid (f b)
  encode b := c.encode (f b)
  decode bs := (c.decode bs).bind fun p => (g p.1).map fun b => (b, p.2)
  decode_encode := by
    intro b rest hb
    rw [c.decode_encode (f b) rest hb, Option.bind_some, h b]
    rfl

/-- The values of a list, without its length. -/
def decodeMany (c : Codec α) : Nat → Bytes → Option (List α × Bytes)
  | 0, bs => some ([], bs)
  | n + 1, bs =>
      (c.decode bs).bind fun p => (decodeMany c n p.2).map fun q => (p.1 :: q.1, q.2)

theorem decodeMany_flatMap (c : Codec α) (rest : Bytes) : ∀ l : List α, (∀ a ∈ l, c.Valid a) →
    decodeMany c l.length (l.flatMap c.encode ++ rest) = some (l, rest)
  | [], _ => rfl
  | a :: l, h => by
      obtain ⟨ha, hl⟩ := List.forall_mem_cons.mp h
      rw [List.length_cons, decodeMany, List.flatMap_cons, List.append_assoc,
        c.decode_encode a _ ha, Option.bind_some, decodeMany_flatMap c rest l hl]
      rfl

/-- `n` values in a row. -/
def many (c : Codec α) (n : Nat) : Codec (List α) where
  Valid l := l.length = n ∧ ∀ a ∈ l, c.Valid a
  encode l := l.flatMap c.encode
  decode := decodeMany c n
  decode_encode := by
    rintro l rest ⟨rfl, hl⟩
    exact decodeMany_flatMap c rest l hl

/-! ## Integers -/

def byte : Codec UInt8 where
  Valid _ := True
  encode b := [b]
  decode bs :=
    match bs with
    | [] => none
    | b :: rest => some (b, rest)
  decode_encode _ _ _ := rfl

/-- The lowest `w` bytes of a number. -/
def leBytes : Nat → Nat → Bytes
  | 0, _ => []
  | w + 1, n => UInt8.ofNat n :: leBytes w (n / 256)

def leValue : Bytes → Nat
  | [] => 0
  | b :: bs => b.toNat + 256 * leValue bs

theorem length_leBytes : ∀ w n : Nat, (leBytes w n).length = w
  | 0, _ => rfl
  | w + 1, n => congrArg Nat.succ (length_leBytes w (n / 256))

theorem leValue_leBytes (w : Nat) : ∀ n, n < 256 ^ w → leValue (leBytes w n) = n := by
  induction w with
  | zero =>
      intro n hn
      rw [Nat.pow_zero] at hn
      rw [leBytes, leValue]
      omega
  | succ w ih =>
      intro n hn
      rw [leBytes, leValue, ih (n / 256) (by rw [Nat.pow_succ] at hn; omega), UInt8.toNat_ofNat']
      omega

/-- An integer of `w` bytes. -/
def le (w : Nat) : Codec Nat where
  Valid n := n < 256 ^ w
  encode n := leBytes w n
  decode bs := if w ≤ bs.length then some (leValue (bs.take w), bs.drop w) else none
  decode_encode := by
    intro n rest hn
    have hlen := length_leBytes w n
    rw [if_pos (by rw [List.length_append]; omega), List.take_left' hlen, List.drop_left' hlen,
      leValue_leBytes w n hn]

def u64 : Codec UInt64 :=
  (le 8).pullback UInt64.toNat
    (fun n => if n < UInt64.size then some (UInt64.ofNat n) else none) (by
      intro b
      rw [if_pos b.toNat_lt, UInt64.ofNat_toNat])

theorem valid_u64 (b : UInt64) : u64.Valid b := b.toNat_lt

/-! ## Lengths -/

/-- The compact form of a `u32`. The two lowest bits are the mode. -/
def encodeCompact (n : Nat) : Bytes :=
  if n < 64 then leBytes 1 (4 * n)
  else if n < 16384 then leBytes 2 (4 * n + 1)
  else if n < 1073741824 then leBytes 4 (4 * n + 2)
  else 3 :: leBytes 4 n

/-- A mode of `w` bytes, for numbers from `lo` on. -/
def decodeMode (w lo : Nat) (bs : Bytes) : Option (Nat × Bytes) :=
  ((le w).decode bs).bind fun p => if lo ≤ p.1 / 4 then some (p.1 / 4, p.2) else none

/-- A number that has a shorter form is refused. -/
def decodeCompact (bs : Bytes) : Option (Nat × Bytes) :=
  match bs with
  | [] => none
  | b :: tail =>
      if b.toNat % 4 = 0 then decodeMode 1 0 bs
      else if b.toNat % 4 = 1 then decodeMode 2 64 bs
      else if b.toNat % 4 = 2 then decodeMode 4 16384 bs
      else if b = 3 then
        ((le 4).decode tail).bind fun p => if 1073741824 ≤ p.1 then some p else none
      else none

/-- A number in one of the modes. The mode can be read off the first byte. -/
theorem decodeMode_leBytes {n lo tag : Nat} (w : Nat) (htag : tag < 4)
    (hlt : 4 * n + tag < 256 ^ (w + 1)) (hlo : lo ≤ n) (rest : Bytes) :
    ∃ b bs, leBytes (w + 1) (4 * n + tag) ++ rest = b :: bs ∧ b.toNat % 4 = tag ∧
      decodeMode (w + 1) lo (b :: bs) = some (n, rest) := by
  refine ⟨_, _, rfl, ?_, ?_⟩
  · rw [UInt8.toNat_ofNat']
    omega
  · have hdec := (le (w + 1)).decode_encode _ rest hlt
    have hdiv : (4 * n + tag) / 4 = n := by omega
    show ((le (w + 1)).decode ((le (w + 1)).encode (4 * n + tag) ++ rest)).bind _ = _
    rw [hdec, Option.bind_some, hdiv, if_pos hlo]

theorem decodeCompact_encodeCompact {n : Nat} (h : n < 4294967296) (rest : Bytes) :
    decodeCompact (encodeCompact n ++ rest) = some (n, rest) := by
  rw [encodeCompact]
  split
  · obtain ⟨b, bs, hbs, htag, hdec⟩ :=
      decodeMode_leBytes 0 (by omega : 0 < 4) (by omega : 4 * n + 0 < _) n.zero_le rest
    have hbytes : leBytes 1 (4 * n) ++ rest = b :: bs := hbs
    rw [hbytes, decodeCompact, if_pos htag]
    exact hdec
  split
  · obtain ⟨b, bs, hbs, htag, hdec⟩ :=
      decodeMode_leBytes 1 (by omega : 1 < 4) (by omega) (by omega : 64 ≤ n) rest
    rw [hbs, decodeCompact, if_neg (by omega), if_pos htag]
    exact hdec
  split
  · obtain ⟨b, bs, hbs, htag, hdec⟩ :=
      decodeMode_leBytes 3 (by omega : 2 < 4) (by omega) (by omega : 16384 ≤ n) rest
    rw [hbs, decodeCompact, if_neg (by omega), if_neg (by omega), if_pos htag]
    exact hdec
  · have hdec := (le 4).decode_encode n rest h
    rw [List.cons_append, decodeCompact, if_neg (by decide), if_neg (by decide),
      if_neg (by decide), if_pos rfl]
    show ((le 4).decode ((le 4).encode n ++ rest)).bind _ = _
    rw [hdec, Option.bind_some, if_pos (by omega)]

def compact : Codec Nat where
  Valid n := n < 4294967296
  encode := encodeCompact
  decode := decodeCompact
  decode_encode _ rest hn := decodeCompact_encodeCompact hn rest

/-! ## Sequences -/

/-- A list behind its length. -/
def seq (c : Codec α) : Codec (List α) where
  Valid l := l.length < 4294967296 ∧ ∀ a ∈ l, c.Valid a
  encode l := compact.encode l.length ++ l.flatMap c.encode
  decode bs := (compact.decode bs).bind fun p => decodeMany c p.1 p.2
  decode_encode := by
    rintro l rest ⟨hlen, hl⟩
    rw [List.append_assoc, compact.decode_encode _ _ hlen, Option.bind_some]
    exact decodeMany_flatMap c rest l hl

/-- `n` values as a vector. -/
def array (c : Codec α) (n : Nat) : Codec (List.Vector α n) :=
  (c.many n).pullback List.Vector.toList
    (fun l => if h : l.length = n then some ⟨l, h⟩ else none) (by
      intro v
      rw [dif_pos v.toList_length]
      exact congrArg some (List.Vector.toList_injective rfl))

theorem valid_array {c : Codec α} {n : Nat} {v : List.Vector α n} (h : ∀ a ∈ v.toList, c.Valid a) :
    (c.array n).Valid v :=
  ⟨v.toList_length, h⟩

end Codec

end Scale
