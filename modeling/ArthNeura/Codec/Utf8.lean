import Mathlib.Data.List.Basic

set_option autoImplicit false

/-! # UTF-8 with replacement

`decodeLossy` reads any bytes as text: where no character can be decoded, the longest start of one
that stands there becomes a replacement character. Two facts carry what follows. Encoded text is
read back, wherever it stands (`decodeLossy_encode_append`); and a byte that can start a character
does start one, so that the bytes before it and those from it on are read apart
(`decodeLossy_append`).
-/

namespace Utf8

def encode (text : List Char) : List UInt8 := text.flatMap String.utf8EncodeChar

theorem encode_cons (c : Char) (text : List Char) :
    encode (c :: text) = String.utf8EncodeChar c ++ encode text := List.flatMap_cons

/-- The character at the start of the bytes. -/
def decodeChar? (bytes : List UInt8) : Option Char := bytes.toByteArray.utf8DecodeChar? 0

def isContinuation (b : UInt8) : Bool := 0x80 ≤ b && b ≤ 0xBF

/-- The second byte may stand behind the first one in a character of three or four bytes. -/
def opens (b₀ b₁ : UInt8) : Bool :=
  isContinuation b₁ &&
    if b₀ = 0xE0 then 0xA0 ≤ b₁
    else if b₀ = 0xED then b₁ ≤ 0x9F
    else if b₀ = 0xF0 then 0x90 ≤ b₁
    else if b₀ = 0xF4 then b₁ ≤ 0x8F
    else 0xE1 ≤ b₀ && b₀ ≤ 0xF3

/-- How many bytes one replacement character stands for: the start of a character that is cut
short. -/
def brokenLength : List UInt8 → Nat
  | b₀ :: b₁ :: rest =>
      if opens b₀ b₁ then
        if 0xF0 ≤ b₀ ∧ rest.head?.any isContinuation then 3 else 2
      else 1
  | _ => 1

theorem brokenLength_pos (bytes : List UInt8) : 0 < brokenLength bytes := by
  unfold brokenLength
  split
  · split
    · split <;> decide
    · decide
  · decide

/-- `String::from_utf8_lossy`. -/
def decodeLossy (bytes : List UInt8) : List Char :=
  if _h : bytes = [] then []
  else
    match decodeChar? bytes with
    | some c => c :: decodeLossy (bytes.drop c.utf8Size)
    | none => '\uFFFD' :: decodeLossy (bytes.drop (brokenLength bytes))
termination_by bytes.length
decreasing_by
  · have hlen := List.length_pos_iff.mpr _h
    have hpos := c.utf8Size_pos
    rw [List.length_drop]
    omega
  · have hlen := List.length_pos_iff.mpr _h
    have hpos := brokenLength_pos bytes
    rw [List.length_drop]
    omega

/-! ## One character -/

theorem length_encodeChar_pos (c : Char) : 0 < (String.utf8EncodeChar c).length := by
  rw [String.length_utf8EncodeChar]
  exact c.utf8Size_pos

theorem decodeChar?_encodeChar_append (c : Char) (bytes : List UInt8) :
    decodeChar? (String.utf8EncodeChar c ++ bytes) = some c := by
  rw [decodeChar?, List.toByteArray_append]
  exact ByteArray.utf8DecodeChar?_utf8EncodeChar_append

theorem eq_append_of_decodeChar? {bytes : List UInt8} {c : Char} (h : decodeChar? bytes = some c) :
    ∃ rest, bytes = String.utf8EncodeChar c ++ rest := by
  obtain ⟨l, hl⟩ := ByteArray.exists_of_utf8DecodeChar?_eq_some h
  refine ⟨l.data.toList, ?_⟩
  have hdata := congrArg (fun b => b.data.toList) hl
  simpa using hdata

/-- Only the first byte of a character can start one. -/
theorem not_firstByte_of_encodeChar {c : Char} {bytes tail : List UInt8} {b : UInt8}
    (h : String.utf8EncodeChar c = bytes ++ b :: tail) (hne : bytes ≠ []) :
    ¬ b.IsUTF8FirstByte := by
  have hlt : bytes.length < (String.utf8EncodeChar c).length := by
    rw [h, List.length_append, List.length_cons]
    omega
  have hget : (String.utf8EncodeChar c)[bytes.length] = b := by
    simp [h]
  rw [← hget, UInt8.isUTF8FirstByte_getElem_utf8EncodeChar]
  exact fun hlen => hne (List.length_eq_zero_iff.mp hlen)

theorem not_isContinuation {b : UInt8} (h : b.IsUTF8FirstByte) : isContinuation b = false := by
  have hall : ∀ n : Fin 256, (UInt8.ofNat n).IsUTF8FirstByte →
      isContinuation (UInt8.ofNat n) = false := by decide +kernel
  have hb := hall ⟨b.toNat, b.toNat_lt⟩
  rw [UInt8.ofNat_toNat] at hb
  exact hb h

/-! ## Reading -/

theorem decodeLossy_nil : decodeLossy [] = [] := by
  rw [decodeLossy, dif_pos rfl]

theorem decodeLossy_encodeChar_append (c : Char) (bytes : List UInt8) :
    decodeLossy (String.utf8EncodeChar c ++ bytes) = c :: decodeLossy bytes := by
  have hpos := length_encodeChar_pos c
  have hne : String.utf8EncodeChar c ++ bytes ≠ [] := by
    intro h
    have hlen := congrArg List.length h
    rw [List.length_append, List.length_nil] at hlen
    omega
  rw [decodeLossy, dif_neg hne, decodeChar?_encodeChar_append]
  simp only [← String.length_utf8EncodeChar c, List.drop_left]

theorem decodeLossy_broken {bytes : List UInt8} (hne : bytes ≠ []) (h : decodeChar? bytes = none) :
    decodeLossy bytes = '\uFFFD' :: decodeLossy (bytes.drop (brokenLength bytes)) := by
  rw [decodeLossy, dif_neg hne, h]

/-- Induction along the decoder. -/
theorem decodeLossy_induction {motive : List UInt8 → Prop} (nil : motive [])
    (char : ∀ c rest, motive rest → motive (String.utf8EncodeChar c ++ rest))
    (broken : ∀ bytes, bytes ≠ [] → decodeChar? bytes = none →
      motive (bytes.drop (brokenLength bytes)) → motive bytes) (bytes : List UInt8) :
    motive bytes := by
  induction hn : bytes.length using Nat.strongRecOn generalizing bytes with
  | ind n ih =>
      by_cases hne : bytes = []
      · rw [hne]
        exact nil
      · have hlen := List.length_pos_iff.mpr hne
        cases hc : decodeChar? bytes with
        | some c =>
            obtain ⟨rest, rfl⟩ := eq_append_of_decodeChar? hc
            have hpos := length_encodeChar_pos c
            refine char c rest (ih rest.length ?_ rest rfl)
            rw [← hn, List.length_append]
            omega
        | none =>
            have hpos := brokenLength_pos bytes
            refine broken bytes hne hc (ih _ ?_ _ rfl)
            rw [List.length_drop]
            omega

/-- **Encoded text is read back.** -/
theorem decodeLossy_encode_append (text : List Char) (bytes : List UInt8) :
    decodeLossy (encode text ++ bytes) = text ++ decodeLossy bytes := by
  induction text with
  | nil => rfl
  | cons c text ih =>
      rw [encode_cons, List.append_assoc, decodeLossy_encodeChar_append, ih]
      rfl

theorem decodeLossy_encode (text : List Char) : decodeLossy (encode text) = text := by
  have h := decodeLossy_encode_append text []
  rwa [List.append_nil, decodeLossy_nil, List.append_nil] at h

/-! ## Reading apart -/

/-- A byte that can start a character does not belong to the broken one before it. -/
theorem brokenLength_append {b : UInt8} (hb : b.IsUTF8FirstByte) {bytes : List UInt8}
    (hne : bytes ≠ []) (tail : List UInt8) :
    brokenLength (bytes ++ b :: tail) = brokenLength bytes ∧ brokenLength bytes ≤ bytes.length := by
  have hcont := not_isContinuation hb
  -- at most the first three bytes are looked at, and `b` is none of those that count
  match bytes with
  | [b₀] =>
      have hopens : opens b₀ b = false := by simp [opens, hcont]
      simp [brokenLength, hopens]
  | [b₀, b₁] =>
      simp only [brokenLength, List.cons_append, List.nil_append, List.head?_cons, Option.any_some,
        hcont, List.head?_nil, Option.any_none]
      split <;> simp
  | b₀ :: b₁ :: b₂ :: rest =>
      refine ⟨rfl, ?_⟩
      simp only [brokenLength, List.length_cons]
      split
      · split <;> omega
      · omega

theorem decodeChar?_append_of_none {b : UInt8} (hb : b.IsUTF8FirstByte) {bytes : List UInt8}
    (hne : bytes ≠ []) (h : decodeChar? bytes = none) (tail : List UInt8) :
    decodeChar? (bytes ++ b :: tail) = none := by
  cases hc : decodeChar? (bytes ++ b :: tail) with
  | none => rfl
  | some c =>
      obtain ⟨rest, hrest⟩ := eq_append_of_decodeChar? hc
      -- either the character ends within `bytes`, or it runs over `b`
      rcases List.append_eq_append_iff.mp hrest with ⟨l, henc, htail⟩ | ⟨l, hbytes, -⟩
      · cases l with
        | nil =>
            rw [List.append_nil] at henc
            have hdec := decodeChar?_encodeChar_append c []
            rw [List.append_nil, henc, h] at hdec
            cases hdec
        | cons b' l =>
            injection htail with hb' _
            subst hb'
            exact absurd hb (not_firstByte_of_encodeChar henc hne)
      · rw [hbytes, decodeChar?_encodeChar_append] at h
        cases h

/-- **A byte that can start a character is read apart from what is before it.** -/
theorem decodeLossy_append {b : UInt8} (hb : b.IsUTF8FirstByte) (bytes tail : List UInt8) :
    decodeLossy (bytes ++ b :: tail) = decodeLossy bytes ++ decodeLossy (b :: tail) := by
  induction bytes using decodeLossy_induction with
  | nil => rw [decodeLossy_nil, List.nil_append, List.nil_append]
  | char c rest ih =>
      rw [List.append_assoc, decodeLossy_encodeChar_append, decodeLossy_encodeChar_append, ih]
      rfl
  | broken bytes hne h ih =>
      obtain ⟨hlen, hle⟩ := brokenLength_append hb hne tail
      have hne' : bytes ++ b :: tail ≠ [] := by simp
      rw [decodeLossy_broken hne' (decodeChar?_append_of_none hb hne h tail), hlen,
        List.drop_append_of_le_length hle, ih, decodeLossy_broken hne h]
      rfl

/-- Encoded text is read apart from the bytes around it. -/
theorem decodeLossy_append_encode (bytes : List UInt8) {text : List Char} (htext : text ≠ [])
    (tail : List UInt8) :
    decodeLossy (bytes ++ (encode text ++ tail)) =
      decodeLossy bytes ++ (text ++ decodeLossy tail) := by
  obtain ⟨c, text, rfl⟩ := List.exists_cons_of_ne_nil htext
  have hpos := length_encodeChar_pos c
  obtain ⟨b, bs, hb⟩ := List.exists_cons_of_length_pos hpos
  have hfirst : b.IsUTF8FirstByte := by
    have hget : (String.utf8EncodeChar c)[0] = b := by simp [hb]
    rw [← hget, UInt8.isUTF8FirstByte_getElem_utf8EncodeChar]
  have hcons : encode (c :: text) ++ tail = b :: (bs ++ encode text ++ tail) := by
    rw [encode_cons, hb]
    rfl
  rw [← decodeLossy_encode_append, hcons, decodeLossy_append hfirst]

/-! ## Characters that were not replaced -/

/-- A first character other than the replacement character stands in the bytes. -/
theorem eq_append_of_decodeLossy_cons {bytes : List UInt8} {c : Char} {text : List Char}
    (hc : c ≠ '\uFFFD') (h : decodeLossy bytes = c :: text) :
    ∃ rest, bytes = String.utf8EncodeChar c ++ rest ∧ decodeLossy rest = text := by
  by_cases hne : bytes = []
  · rw [hne, decodeLossy_nil] at h
    cases h
  · cases hchar : decodeChar? bytes with
    | none =>
        rw [decodeLossy_broken hne hchar] at h
        injection h with hhead _
        exact absurd hhead.symm hc
    | some d =>
        obtain ⟨rest, rfl⟩ := eq_append_of_decodeChar? hchar
        rw [decodeLossy_encodeChar_append] at h
        injection h with hhead htail
        subst hhead
        exact ⟨rest, rfl, htail⟩

theorem eq_append_of_decodeLossy_append {text rest : List Char} (htext : ∀ c ∈ text, c ≠ '\uFFFD')
    {bytes : List UInt8} (h : decodeLossy bytes = text ++ rest) :
    ∃ tail, bytes = encode text ++ tail ∧ decodeLossy tail = rest := by
  induction text generalizing bytes with
  | nil => exact ⟨bytes, rfl, h⟩
  | cons c text ih =>
      obtain ⟨bytes', rfl, htail⟩ := eq_append_of_decodeLossy_cons (htext c List.mem_cons_self) h
      obtain ⟨tail, rfl, hrest⟩ := ih (fun d hd => htext d (List.mem_cons_of_mem _ hd)) htail
      exact ⟨tail, by rw [encode_cons, List.append_assoc], hrest⟩

theorem infix_of_mem_decodeLossy {bytes : List UInt8} {c : Char} (hc : c ≠ '\uFFFD')
    (h : c ∈ decodeLossy bytes) : String.utf8EncodeChar c <:+: bytes := by
  induction bytes using decodeLossy_induction with
  | nil =>
      rw [decodeLossy_nil] at h
      exact absurd h List.not_mem_nil
  | char d rest ih =>
      rw [decodeLossy_encodeChar_append, List.mem_cons] at h
      rcases h with rfl | h
      · exact (List.prefix_append _ _).isInfix
      · exact (ih h).trans (List.suffix_append _ _).isInfix
  | broken bytes hne hnone ih =>
      rw [decodeLossy_broken hne hnone, List.mem_cons] at h
      rcases h with h | h
      · exact absurd h hc
      · exact (ih h).trans (List.drop_suffix _ _).isInfix

/-- A byte that is a character of its own stands for that character. -/
theorem mem_of_mem_encode {c : Char} {b : UInt8} (hc : String.utf8EncodeChar c = [b])
    {text : List Char} (h : b ∈ encode text) : c ∈ text := by
  -- decode the encoded text in two ways: as a whole, and apart at this byte
  obtain ⟨l, t, hlt⟩ := List.append_of_mem h
  have henc : encode [c] = [b] := by rw [encode_cons, hc]; rfl
  have hdec := decodeLossy_append_encode l (List.cons_ne_nil c []) t
  rw [henc, List.singleton_append, ← hlt, decodeLossy_encode] at hdec
  rw [hdec]
  simp

theorem decodeLossy_eq_nil {bytes : List UInt8} (h : decodeLossy bytes = []) : bytes = [] := by
  by_contra hne
  rw [decodeLossy, dif_neg hne] at h
  split at h <;> cases h

end Utf8
