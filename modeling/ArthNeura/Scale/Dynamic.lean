import ArthNeura.Scale.Codec

set_option autoImplicit false

/-! # Values that are encoded by type

A dynamic client does not know the types of a call at compile time. It composes untyped values,
looks the call up by name in the metadata of the chain and encodes the values one by one against the
types it finds there; the events of the chain are read the same way, as untyped values. Nothing but
the order of the values says which argument is which.

A `WireField` is a type that is known to both sides: its codec, its description in the metadata, and
the untyped value for each of its values, together with the proof that both ways of writing and
reading agree. `WireFields` are the arguments of a call or the fields of an event, and
a `PalletType` is a list of calls, from which both the metadata and the decoder of the chain are
derived. What a client composes is what the chain reads as soon as its values are those of the
fields (`encodeCall_bind_decodeCall`).

The two ways belong to libraries outside the repository, the client library's encoding of untyped
values and the decoder that is generated from the signatures of the calls. They are given here by
what is documented of them; what the repository adds, the signatures on one side and the values that
a client composes on the other, is in the modules that use this one.
-/

namespace Scale

open Frame

/-- The description of a type in the metadata. A type with a single field, such as a bounded vector,
is described by that field. -/
inductive Ty where
  | uint (width : Nat)
  | array (n : Nat) (elem : Ty)
  | seq (elem : Ty)
  /-- Variants without fields. -/
  | enum (variants : List String)

inductive Primitive where
  | bool (b : Bool)
  | u128 (n : Nat)

mutual

inductive Composite where
  | named (fields : List (String × Value))
  | unnamed (values : List Value)

inductive Value where
  | primitive (p : Primitive)
  | composite (c : Composite)
  | variant (name : String) (values : Composite)

end

def Composite.values : Composite → List Value
  | .named fields => fields.map Prod.snd
  | .unnamed values => values

namespace Value

def u128 (n : Nat) : Value := .primitive (.u128 n)

def unnamed (values : List Value) : Value := .composite (.unnamed values)

def unnamedVariant (name : String) (values : List Value) : Value :=
  .variant name (.unnamed values)

def fromBytes (bs : Bytes) : Value := .unnamed (bs.map fun b => .u128 b.toNat)

end Value

/-! ## Encoding and decoding by type -/

/-- The values of a list, one after the other. -/
def encodeEach (f : Value → Option Bytes) : List Value → Option Bytes
  | [] => some []
  | v :: vs => (f v).bind fun bs => (encodeEach f vs).map fun tail => bs ++ tail

def encodeAs : Ty → Value → Option Bytes
  | .uint w, .primitive (.u128 n) => if n < 256 ^ w then some (Codec.leBytes w n) else none
  | .array n ty, .composite c =>
      if c.values.length = n then encodeEach (encodeAs ty) c.values else none
  | .seq ty, .composite c =>
      if c.values.length < 4294967296 then
        (encodeEach (encodeAs ty) c.values).map fun bs =>
          Codec.encodeCompact c.values.length ++ bs
      else none
  | .enum variants, .variant name (.unnamed []) =>
      (variants.findIdx? (· = name)).map fun i => [UInt8.ofNat i]
  | _, _ => none

def decodeEach (f : Bytes → Option (Value × Bytes)) : Nat → Bytes → Option (List Value × Bytes)
  | 0, bs => some ([], bs)
  | n + 1, bs => (f bs).bind fun p => (decodeEach f n p.2).map fun q => (p.1 :: q.1, q.2)

def decodeAs : Ty → Bytes → Option (Value × Bytes)
  | .uint w, bs => ((Codec.le w).decode bs).map fun p => (.u128 p.1, p.2)
  | .array n ty, bs => (decodeEach (decodeAs ty) n bs).map fun p => (.unnamed p.1, p.2)
  | .seq ty, bs =>
      (Codec.decodeCompact bs).bind fun p =>
        (decodeEach (decodeAs ty) p.1 p.2).map fun q => (.unnamed q.1, q.2)
  | .enum variants, bs =>
      (Codec.byte.decode bs).bind fun p =>
        (variants[p.1.toNat]?).map fun name => (.unnamedVariant name [], p.2)

/-! ## WireFields -/

/-- A type that is known to both sides. -/
structure WireField (α : Type) where
  codec : Codec α
  ty : Ty
  value : α → Value
  encodeAs_value : ∀ a, codec.Valid a → encodeAs ty (value a) = some (codec.encode a)
  decodeAs_encode : ∀ a rest, codec.Valid a →
    decodeAs ty (codec.encode a ++ rest) = some (value a, rest)

namespace WireField

variable {α : Type}

theorem encodeEach_value (f : WireField α) : ∀ l : List α, (∀ a ∈ l, f.codec.Valid a) →
    encodeEach (encodeAs f.ty) (l.map f.value) = some (l.flatMap f.codec.encode)
  | [], _ => rfl
  | a :: l, h => by
      obtain ⟨ha, hl⟩ := List.forall_mem_cons.mp h
      rw [List.map_cons, encodeEach, f.encodeAs_value a ha, encodeEach_value f l hl]
      rfl

theorem decodeEach_encode (f : WireField α) (rest : Bytes) : ∀ l : List α,
    (∀ a ∈ l, f.codec.Valid a) →
    decodeEach (decodeAs f.ty) l.length (l.flatMap f.codec.encode ++ rest)
      = some (l.map f.value, rest)
  | [], _ => rfl
  | a :: l, h => by
      obtain ⟨ha, hl⟩ := List.forall_mem_cons.mp h
      rw [List.length_cons, decodeEach, List.flatMap_cons, List.append_assoc,
        f.decodeAs_encode a _ ha, Option.bind_some, decodeEach_encode f rest l hl]
      rfl

/-- An unsigned integer of `w` bytes. -/
def uint (w : Nat) : WireField Nat where
  codec := Codec.le w
  ty := .uint w
  value := .u128
  encodeAs_value _ h := if_pos h
  decodeAs_encode n rest h := by
    rw [decodeAs, (Codec.le w).decode_encode n rest h]
    rfl

def u64 : WireField UInt64 where
  codec := Codec.u64
  ty := .uint 8
  value n := .u128 n.toNat
  encodeAs_value _ h := if_pos h
  decodeAs_encode n rest h := (uint 8).decodeAs_encode n.toNat rest h

def byte : WireField UInt8 where
  codec := Codec.byte
  ty := .uint 1
  value b := .u128 b.toNat
  encodeAs_value b _ :=
    ((uint 1).encodeAs_value b.toNat b.toNat_lt).trans
      (congrArg (fun b => some [b]) UInt8.ofNat_toNat)
  decodeAs_encode b rest _ := by
    have hbytes : Codec.byte.encode b = (Codec.le 1).encode b.toNat :=
      congrArg (fun b => [b]) UInt8.ofNat_toNat.symm
    rw [hbytes]
    exact (uint 1).decodeAs_encode b.toNat rest b.toNat_lt

def array (f : WireField α) (n : Nat) : WireField (List.Vector α n) where
  codec := f.codec.array n
  ty := .array n f.ty
  value v := .unnamed (v.toList.map f.value)
  encodeAs_value v h := by
    have hlen : (v.toList.map f.value).length = n := by rw [List.length_map, v.toList_length]
    exact (if_pos hlen).trans (f.encodeEach_value v.toList h.2)
  decodeAs_encode v rest h := by
    have hdec := f.decodeEach_encode rest v.toList h.2
    rw [v.toList_length] at hdec
    rw [decodeAs]
    exact congrArg (Option.map _) hdec

def seq (f : WireField α) : WireField (List α) where
  codec := f.codec.seq
  ty := .seq f.ty
  value l := .unnamed (l.map f.value)
  encodeAs_value l h := by
    rw [Value.unnamed, encodeAs, Composite.values, List.length_map, if_pos h.1,
      f.encodeEach_value l h.2]
    rfl
  decodeAs_encode l rest h := by
    have hlen := Codec.compact.decode_encode _ (l.flatMap f.codec.encode ++ rest) h.1
    rw [decodeAs]
    show ((Codec.compact.decode (Codec.compact.encode l.length ++ _ ++ rest))).bind _ = _
    rw [List.append_assoc, hlen, Option.bind_some, f.decodeEach_encode rest l h.2]
    rfl

/-- An enumeration, whose variants the client knows by name and the chain by position. -/
def enum (variants : List String) (tag : α → UInt8) (ofTag : UInt8 → Option α) (name : α → String)
    (hof : ∀ a, ofTag (tag a) = some a)
    (hname : ∀ a, variants.findIdx? (· = name a) = some (tag a).toNat) : WireField α where
  codec := Codec.byte.pullback tag ofTag hof
  ty := .enum variants
  value a := .unnamedVariant (name a) []
  encodeAs_value a _ := by
    rw [Value.unnamedVariant, encodeAs, hname a]
    exact congrArg (fun b => some [b]) UInt8.ofNat_toNat
  decodeAs_encode a rest h := by
    obtain ⟨hlt, hget, -⟩ := List.findIdx?_eq_some_iff_getElem.mp (hname a)
    have hat : variants[(tag a).toNat]? = some (name a) := by
      rw [List.getElem?_eq_getElem hlt, of_decide_eq_true hget]
    show (Codec.byte.decode (Codec.byte.encode (tag a) ++ rest)).bind _ = _
    rw [Codec.byte.decode_encode _ _ h, Option.bind_some, hat]
    rfl

end WireField

/-! ## Arguments -/

def encodeArgs : List Ty → List Value → Option Bytes
  | [], [] => some []
  | ty :: tys, v :: vs =>
      (encodeAs ty v).bind fun bs => (encodeArgs tys vs).map fun tail => bs ++ tail
  | _, _ => none

def decodeArgs : List Ty → Bytes → Option (List Value × Bytes)
  | [], bs => some ([], bs)
  | ty :: tys, bs =>
      (decodeAs ty bs).bind fun p => (decodeArgs tys p.2).map fun q => (p.1 :: q.1, q.2)

/-- Several fields in a row. -/
structure WireFields (α : Type) where
  codec : Codec α
  tys : List Ty
  values : α → List Value
  encodeArgs_values : ∀ a, codec.Valid a → encodeArgs tys (values a) = some (codec.encode a)
  decodeArgs_encode : ∀ a rest, codec.Valid a →
    decodeArgs tys (codec.encode a ++ rest) = some (values a, rest)

namespace WireFields

variable {α β : Type}

def last (f : WireField α) : WireFields α where
  codec := f.codec
  tys := [f.ty]
  values a := [f.value a]
  encodeArgs_values a h := by
    rw [encodeArgs, f.encodeAs_value a h]
    exact congrArg some (List.append_nil _)
  decodeArgs_encode a rest h := by
    rw [decodeArgs, f.decodeAs_encode a rest h]
    rfl

def cons (f : WireField α) (g : WireFields β) : WireFields (α × β) where
  codec := f.codec.prod g.codec
  tys := f.ty :: g.tys
  values p := f.value p.1 :: g.values p.2
  encodeArgs_values p h := by
    rw [encodeArgs, f.encodeAs_value p.1 h.1, g.encodeArgs_values p.2 h.2]
    rfl
  decodeArgs_encode p rest h := by
    show decodeArgs _ (f.codec.encode p.1 ++ g.codec.encode p.2 ++ rest) = _
    rw [decodeArgs, List.append_assoc, f.decodeAs_encode p.1 _ h.1, Option.bind_some,
      g.decodeArgs_encode p.2 rest h.2]
    rfl

end WireFields

/-! ## Calls -/

/-- A call of a pallet. What its arguments are is checked after they are read: a vector that exceeds
its bound is refused. -/
structure CallType (κ : Type) where
  name : String
  index : UInt8
  Args : Type
  fields : WireFields Args
  call : Args → Option κ

structure PalletType (κ : Type) where
  name : String
  index : UInt8
  calls : List (CallType κ)

/-- A call as a client composes it. -/
structure DynamicCall where
  pallet : String
  call : String
  args : List Value

variable {κ : Type}

/-- The bytes of a call, with pallet and call looked up by their names. -/
def encodeCall (pallets : List (PalletType κ)) (tx : DynamicCall) : Option Bytes :=
  (pallets.find? fun p => p.name = tx.pallet).bind fun p =>
    (p.calls.find? fun c => c.name = tx.call).bind fun c =>
      (encodeArgs c.fields.tys tx.args).map fun args => p.index :: c.index :: args

/-- The call that the chain reads. Nothing may follow the arguments. -/
def decodeCall (pallets : List (PalletType κ)) : Bytes → Option κ
  | i :: j :: args =>
      (pallets.find? fun p => p.index = i).bind fun p =>
        (p.calls.find? fun c => c.index = j).bind fun c =>
          match c.fields.codec.decode args with
          | some (a, []) => c.call a
          | _ => none
  | _ => none

/-- Pallets and calls are told apart by their names, and by their indices. -/
structure WellFormed (pallets : List (PalletType κ)) : Prop where
  names : (pallets.map PalletType.name).Nodup
  indices : (pallets.map PalletType.index).Nodup
  callNames : ∀ p ∈ pallets, (p.calls.map CallType.name).Nodup
  callIndices : ∀ p ∈ pallets, (p.calls.map CallType.index).Nodup

/-- What is listed under a key that nothing else has is found by it. -/
theorem find?_key {α : Type 1} {β : Type} [DecidableEq β] {l : List α} {f : α → β}
    (h : (l.map f).Nodup) {a : α} (ha : a ∈ l) : l.find? (fun b => f b = f a) = some a := by
  have hsome : (l.find? fun b => f b = f a).isSome := by
    rw [List.find?_isSome]
    exact ⟨a, ha, decide_eq_true rfl⟩
  obtain ⟨b, hb⟩ := Option.isSome_iff_exists.mp hsome
  have hkey : f b = f a := by simpa using List.find?_some hb
  rw [hb, List.inj_on_of_nodup_map h (List.mem_of_find?_eq_some hb) ha hkey]

section

variable {pallets : List (PalletType κ)} {p : PalletType κ} {c : CallType κ}

theorem encodeCall_values (h : WellFormed pallets) (hp : p ∈ pallets) (hc : c ∈ p.calls)
    {a : c.Args} (ha : c.fields.codec.Valid a) :
    encodeCall pallets ⟨p.name, c.name, c.fields.values a⟩
      = some (p.index :: c.index :: c.fields.codec.encode a) := by
  simp only [encodeCall]
  rw [find?_key h.names hp, Option.bind_some, find?_key (h.callNames p hp) hc, Option.bind_some,
    c.fields.encodeArgs_values a ha]
  rfl

theorem decodeCall_encode (h : WellFormed pallets) (hp : p ∈ pallets) (hc : c ∈ p.calls)
    {a : c.Args} (ha : c.fields.codec.Valid a) :
    decodeCall pallets (p.index :: c.index :: c.fields.codec.encode a) = c.call a := by
  have hdec := c.fields.codec.decode_encode a [] ha
  rw [List.append_nil] at hdec
  rw [decodeCall, find?_key h.indices hp, Option.bind_some, find?_key (h.callIndices p hp) hc,
    Option.bind_some, hdec]

/-- **A call that is composed from the values of its fields is read as it was meant.** -/
theorem encodeCall_bind_decodeCall (h : WellFormed pallets) (hp : p ∈ pallets) (hc : c ∈ p.calls)
    {a : c.Args} (ha : c.fields.codec.Valid a) :
    (encodeCall pallets ⟨p.name, c.name, c.fields.values a⟩).bind (decodeCall pallets)
      = c.call a := by
  rw [encodeCall_values h hp hc ha, Option.bind_some, decodeCall_encode h hp hc ha]

end

/-! ## Events -/

/-- An event as it is found in the events of a block: the names of the pallet and of the variant,
the names and types of its fields, and their bytes. -/
structure EventDetails where
  pallet : String
  variant : String
  fieldNames : List String
  tys : List Ty
  bytes : Bytes

def EventDetails.fieldValues (e : EventDetails) : Option Composite :=
  (decodeArgs e.tys e.bytes).map fun p => .named (e.fieldNames.zip p.1)

end Scale
