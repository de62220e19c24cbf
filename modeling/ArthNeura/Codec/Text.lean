import Mathlib.Data.List.Basic
import Mathlib.Data.List.Induction

set_option autoImplicit false

/-! # Searching and parsing text

Search for a pattern in a list, splitting at a pattern, and lines that end in `\r\n`, over any type
of letters, so that they serve for bytes and for characters alike. A block of lines that are not
empty, and a blank line behind it: the first place of `\r\n\r\n` is the end of the block, whatever
follows (`position_blankLine`).

The second part is for characters: the lines of a text, trimming, and numbers.
-/

namespace Text

/-! ## Lines that end in `\r\n` -/

section

variable {α : Type} {cr lf : α}

/-- Behind a line without line feeds, `\r\n` stands at its end first. -/
theorem eq_length_of_crlf_start (hne : cr ≠ lf) {line tail : List α} (hline : lf ∉ line) {j : Nat}
    (hj : j ≤ line.length) (h : [cr, lf] <+: (line ++ cr :: tail).drop j) : j = line.length := by
  by_contra hlt
  have hget : (line ++ cr :: tail)[j + 1]? = some lf := by
    obtain ⟨t, ht⟩ := h
    have hdrop : ((line ++ cr :: tail).drop j)[1]? = some lf := by
      rw [← ht]
      rfl
    rwa [List.getElem?_drop] at hdrop
  by_cases hend : j + 1 < line.length
  · rw [List.getElem?_append_left hend] at hget
    exact hline (List.mem_of_getElem? hget)
  · have hj' : j + 1 = line.length := by omega
    rw [hj', List.getElem?_append_right (Nat.le_refl _), Nat.sub_self] at hget
    injection hget with hcr
    exact hne hcr

theorem intercalate_cons {sep l : List α} {ls : List (List α)} (hls : ls ≠ []) :
    sep.intercalate (l :: ls) = l ++ (sep ++ sep.intercalate ls) := by
  cases ls with
  | nil => exact absurd rfl hls
  | cons l' ls => rw [List.intercalate_cons_cons, List.append_assoc]

theorem map_intercalate {β : Type} (f : α → β) (sep : List α) (ls : List (List α)) :
    (sep.intercalate ls).map f = (sep.map f).intercalate (ls.map (List.map f)) := by
  induction ls with
  | nil => rfl
  | cons l ls ih =>
      by_cases hls : ls = []
      · subst hls
        simp only [List.intercalate_singleton, List.map_cons, List.map_nil]
      · have hmap : ls.map (List.map f) ≠ [] := by simpa using hls
        rw [intercalate_cons hls, List.map_cons, intercalate_cons hmap, List.map_append,
          List.map_append, ih]

/-- A block starts with its first line. -/
theorem exists_block_eq (cr lf : α) (line : List α) (lines : List (List α)) (rest : List α) :
    ∃ tail, [cr, lf].intercalate (line :: lines) ++ cr :: lf :: rest
      = line ++ cr :: lf :: tail := by
  by_cases hls : lines = []
  · subst hls
    exact ⟨rest, by rw [List.intercalate_singleton]⟩
  · refine ⟨[cr, lf].intercalate lines ++ cr :: lf :: rest, ?_⟩
    rw [intercalate_cons hls, List.append_assoc, List.append_assoc]
    rfl

/-- A block of lines that are not empty does not start with `\r\n`. -/
theorem not_crlf_prefix_block (hne : cr ≠ lf) {lines : List (List α)} (hlines : lines ≠ [])
    (hfree : ∀ line ∈ lines, line ≠ [] ∧ lf ∉ line) (rest : List α) :
    ¬ [cr, lf] <+: [cr, lf].intercalate lines ++ cr :: lf :: rest := by
  obtain ⟨line, lines, rfl⟩ := List.exists_cons_of_ne_nil hlines
  obtain ⟨hline, hlf⟩ := hfree line List.mem_cons_self
  obtain ⟨tail, htail⟩ := exists_block_eq cr lf line lines rest
  rw [htail]
  intro hstart
  have hzero := eq_length_of_crlf_start hne hlf (Nat.zero_le _) hstart
  exact hline (List.length_eq_zero_iff.mp hzero.symm)

end

/-! ## The first place of a pattern -/

section

variable {α : Type} [DecidableEq α]

/-- The first place at which the pattern stands. -/
def position (pattern l : List α) : Option Nat :=
  (List.range l.length).find? fun i => pattern.isPrefixOf (l.drop i)

theorem position_eq_some {pattern l : List α} {i : Nat} (hpat : pattern ≠ []) :
    position pattern l = some i ↔ pattern <+: l.drop i ∧ ∀ j < i, ¬ pattern <+: l.drop j := by
  simp only [position, List.find?_range_eq_some, List.isPrefixOf_iff_prefix, List.mem_range,
    Bool.not_eq_true', ← Bool.not_eq_true]
  constructor
  · rintro ⟨hi, -, hj⟩
    exact ⟨hi, hj⟩
  · rintro ⟨hi, hj⟩
    refine ⟨hi, ?_, hj⟩
    have hlen := hi.length_le
    have hpos := List.length_pos_iff.mpr hpat
    rw [List.length_drop] at hlen
    omega

theorem position_eq_none {pattern l : List α} (hpat : pattern ≠ []) :
    position pattern l = none ↔ ¬ pattern <:+: l := by
  constructor
  · rintro h ⟨a, b, rfl⟩
    rw [position, List.find?_range_eq_none] at h
    have hpos := List.length_pos_iff.mpr hpat
    have ha := h a.length (by simp only [List.length_append]; omega)
    rw [List.append_assoc, List.drop_left, Bool.not_eq_true', ← Bool.not_eq_true,
      List.isPrefixOf_iff_prefix] at ha
    exact ha (List.prefix_append _ _)
  · intro h
    cases hi : position pattern l with
    | none => rfl
    | some i =>
        have hstart := ((position_eq_some hpat).mp hi).1
        exact absurd (hstart.isInfix.trans (List.drop_suffix i l).isInfix) h

/-- In a part of the list that is not long enough, the pattern is not found yet. -/
theorem position_take {pattern l : List α} {i : Nat} (hpat : pattern ≠ [])
    (h : position pattern l = some i) (n : Nat) :
    position pattern (l.take n) = if i + pattern.length ≤ n then some i else none := by
  obtain ⟨hi, hfirst⟩ := (position_eq_some hpat).mp h
  have hpos := List.length_pos_iff.mpr hpat
  have hdrop : ∀ j, pattern <+: (l.take n).drop j ↔
      pattern <+: l.drop j ∧ pattern.length ≤ n - j := by
    intro j
    rw [List.drop_take, List.prefix_take_iff]
  split
  · refine (position_eq_some hpat).mpr ⟨(hdrop i).mpr ⟨hi, by omega⟩, fun j hj hstart => ?_⟩
    exact hfirst j hj ((hdrop j).mp hstart).1
  · cases hk : position pattern (l.take n) with
    | none => rfl
    | some k =>
        obtain ⟨hstart, hlen⟩ := (hdrop k).mp ((position_eq_some hpat).mp hk).1
        -- found in the part, it stands there in the whole list, and no earlier than `i`
        have hle : i ≤ k := by
          by_contra hlt
          exact hfirst k (by omega) hstart
        omega

/-! ## Splitting at a pattern -/

/-- The pieces of a list between the places of the pattern `p :: ps`. -/
def split (p : α) (ps l : List α) : List (List α) :=
  match h : position (p :: ps) l with
  | none => [l]
  | some i => l.take i :: split p ps (l.drop (i + (ps.length + 1)))
termination_by l.length
decreasing_by
  have hlen := ((position_eq_some (List.cons_ne_nil p ps)).mp h).1.length_le
  rw [List.length_drop, List.length_cons] at hlen
  rw [List.length_drop]
  omega

theorem split_of_none {p : α} {ps l : List α} (h : position (p :: ps) l = none) :
    split p ps l = [l] := by
  rw [split]
  split
  · rfl
  · next i hi => rw [h] at hi; cases hi

theorem split_of_some {p : α} {ps l : List α} {i : Nat} (h : position (p :: ps) l = some i) :
    split p ps l = l.take i :: split p ps (l.drop (i + (ps.length + 1))) := by
  rw [split]
  split
  · next hnone => rw [h] at hnone; cases hnone
  · next k hk =>
      rw [h] at hk
      cases hk
      rfl

theorem split_ne_nil (p : α) (ps l : List α) : split p ps l ≠ [] := by
  cases h : position (p :: ps) l with
  | none =>
      rw [split_of_none h]
      exact List.cons_ne_nil _ _
  | some i =>
      rw [split_of_some h]
      exact List.cons_ne_nil _ _

/-- The first piece is the whole list exactly if the pattern does not occur. -/
theorem head?_split_eq_iff {p : α} {ps l : List α} :
    (split p ps l).head? = some l ↔ ¬ p :: ps <:+: l := by
  rw [← position_eq_none (List.cons_ne_nil p ps)]
  cases h : position (p :: ps) l with
  | none =>
      rw [split_of_none h]
      exact ⟨fun _ => rfl, fun _ => rfl⟩
  | some i =>
      have hlen := ((position_eq_some (List.cons_ne_nil p ps)).mp h).1.length_le
      rw [List.length_drop, List.length_cons] at hlen
      rw [split_of_some h, List.head?_cons, Option.some.injEq]
      constructor
      · intro htake
        have hlen' := congrArg List.length htake
        rw [List.length_take] at hlen'
        omega
      · intro hnone
        cases hnone

/-! ## The first blank line -/

variable {cr lf : α}

/-- **The first blank line ends the block.** -/
theorem position_blankLine (hne : cr ≠ lf) (lines : List (List α)) (hlines : lines ≠ [])
    (hfree : ∀ line ∈ lines, line ≠ [] ∧ lf ∉ line) (rest : List α) :
    position [cr, lf, cr, lf] ([cr, lf].intercalate lines ++ cr :: lf :: cr :: lf :: rest) =
      some ([cr, lf].intercalate lines).length := by
  have hshort : [cr, lf] <+: [cr, lf, cr, lf] := ⟨[cr, lf], rfl⟩
  rw [position_eq_some (List.cons_ne_nil _ _), List.drop_left]
  refine ⟨⟨rest, rfl⟩, ?_⟩
  -- at no place before the end of the block, by induction on its lines
  induction lines, hlines using List.recNeNil with
  | singleton line =>
      obtain ⟨-, hlf⟩ := hfree line List.mem_cons_self
      intro j hj hstart
      rw [List.intercalate_singleton] at hj hstart
      have hend := eq_length_of_crlf_start hne hlf (Nat.le_of_lt hj) (hshort.trans hstart)
      omega
  | cons line lines hls ih =>
      obtain ⟨-, hlf⟩ := hfree line List.mem_cons_self
      have hfree' : ∀ l ∈ lines, l ≠ [] ∧ lf ∉ l := fun l hl => hfree l (List.mem_cons_of_mem _ hl)
      intro j hj hstart
      rw [intercalate_cons hls] at hj hstart
      simp only [List.append_assoc, List.cons_append, List.nil_append, List.length_append,
        List.length_cons] at hj hstart
      by_cases hjl : j ≤ line.length
      · -- only the `\r\n` behind this line is left, and the next line is not empty
        have hend := eq_length_of_crlf_start hne hlf hjl (hshort.trans hstart)
        rw [hend, List.drop_left, List.cons_prefix_cons, List.cons_prefix_cons] at hstart
        exact not_crlf_prefix_block hne hls hfree' _ hstart.2.2
      · obtain ⟨k, rfl⟩ : ∃ k, j = line.length + (k + 1) := ⟨j - line.length - 1, by omega⟩
        rw [List.drop_length_add_append, List.drop_succ_cons] at hstart
        cases k with
        | zero =>
            rw [List.drop_zero, List.cons_prefix_cons] at hstart
            exact hne hstart.1
        | succ k =>
            rw [List.drop_succ_cons] at hstart
            exact ih hfree' k (by omega) hstart

end

/-! ## Lines of a text -/

/-- Drop one trailing `\r`. -/
def dropCr (line : List Char) : List Char :=
  if line.getLast? = some '\r' then line.dropLast else line

/-- `str::lines`: the pieces between line feeds, each less a `\r` before the line feed, and
without an empty one at the end. -/
def lines (text : List Char) : List (List Char) :=
  let pieces := text.splitOn '\n'
  pieces.dropLast.map dropCr ++ (pieces.getLast?.filter (· ≠ [])).toList

theorem lines_of_notMem {line : List Char} (hne : line ≠ []) (h : '\n' ∉ line) :
    lines line = [line] := by
  rw [lines, List.splitOn_eq_singleton h]
  simp [hne]

theorem lines_append {line : List Char} (h : '\n' ∉ line) (rest : List Char) :
    lines (line ++ '\r' :: '\n' :: rest) = line :: lines rest := by
  have hcr : '\n' ∉ line ++ ['\r'] := by simpa using h
  have hsplit : (line ++ '\r' :: '\n' :: rest).splitOn '\n'
      = (line ++ ['\r']) :: rest.splitOn '\n' := by
    have happend : line ++ '\r' :: '\n' :: rest = (line ++ ['\r']) ++ '\n' :: rest := by simp
    rw [happend, List.splitOn_append_cons_self_of_not_mem hcr]
  have hdrop : dropCr (line ++ ['\r']) = line := by
    rw [dropCr, if_pos List.getLast?_concat, List.dropLast_concat]
  obtain ⟨piece, pieces, hpieces⟩ := List.exists_cons_of_ne_nil (List.splitOn_ne_nil '\n' rest)
  rw [lines, lines, hsplit, hpieces, List.dropLast_cons_cons, List.map_cons, hdrop,
    List.getLast?_cons_cons]
  rfl

/-- The lines of a block are read back. -/
theorem lines_intercalate {ls : List (List Char)} (hls : ls ≠ [])
    (hfree : ∀ line ∈ ls, line ≠ [] ∧ '\n' ∉ line) : lines (['\r', '\n'].intercalate ls) = ls := by
  induction ls, hls using List.recNeNil with
  | singleton line =>
      obtain ⟨hne, hlf⟩ := hfree line List.mem_cons_self
      rw [List.intercalate_singleton, lines_of_notMem hne hlf]
  | cons line ls hls ih =>
      obtain ⟨-, hlf⟩ := hfree line List.mem_cons_self
      rw [intercalate_cons hls]
      show lines (line ++ '\r' :: '\n' :: ['\r', '\n'].intercalate ls) = line :: ls
      rw [lines_append hlf, ih fun l hl => hfree l (List.mem_cons_of_mem _ hl)]

/-! ## Case -/

/-- Only letters come from another letter. -/
theorem toLower_eq {c d : Char} (h : c.toLower = d) (hd : d.toNat < 97 ∨ 122 < d.toNat) :
    c = d := by
  unfold Char.toLower at h
  split at h
  · next hc =>
      exfalso
      have hlow : 65 ≤ c.val.toNat := UInt32.le_iff_toNat_le.mp hc.1
      have hhigh : c.val.toNat ≤ 90 := UInt32.le_iff_toNat_le.mp hc.2
      have hval : d.toNat = (c.val + ('a'.val - 'A'.val)).toNat := by rw [← h]; rfl
      have hdiff : ('a'.val - 'A'.val).toNat = 32 := by decide
      rw [UInt32.toNat_add, hdiff, Nat.mod_eq_of_lt (by omega)] at hval
      omega
  · exact h

/-- Below the letters nothing changes. -/
theorem map_toLower_of_lt {text : List Char} (h : ∀ c ∈ text, c.toNat < 65) :
    text.map Char.toLower = text := by
  refine (List.map_congr_left fun c hc => ?_).trans (List.map_id text)
  have hlt := h c hc
  refine (dif_neg ?_ : c.toLower = c)
  rintro ⟨hge, -⟩
  have hge' : 65 ≤ c.toNat := UInt32.le_iff_toNat_le.mp hge
  omega

/-! ## Trimming and numbers -/

/-- `str::strip_prefix`. -/
def stripPrefix? (start text : List Char) : Option (List Char) :=
  if start.isPrefixOf text then some (text.drop start.length) else none

theorem stripPrefix?_append (start text : List Char) :
    stripPrefix? start (start ++ text) = some text := by
  rw [stripPrefix?, if_pos ( List.isPrefixOf_iff_prefix.mpr (List.prefix_append _ _)),
    List.drop_left]

theorem stripPrefix?_eq_none {start text : List Char} (h : ¬ start <+: text) :
    stripPrefix? start text = none :=
  if_neg fun hstart => h ( List.isPrefixOf_iff_prefix.mp hstart)

/-- White space in the sense of Unicode. -/
def isWhitespace (c : Char) : Bool :=
  let n := c.toNat
  (0x09 ≤ n && n ≤ 0x0D) || n == 0x20 || n == 0x85 || n == 0xA0 || n == 0x1680 ||
    (0x2000 ≤ n && n ≤ 0x200A) || n == 0x2028 || n == 0x2029 || n == 0x202F || n == 0x205F ||
    n == 0x3000

/-- `str::trim`. -/
def trim (text : List Char) : List Char :=
  ((text.dropWhile isWhitespace).reverse.dropWhile isWhitespace).reverse

theorem dropWhile_append_of_all {left text : List Char} (hleft : ∀ c ∈ left, isWhitespace c = true)
    (htext : ∀ c ∈ text.head?, isWhitespace c = false) :
    (left ++ text).dropWhile isWhitespace = text := by
  rw [List.dropWhile_append_of_pos hleft]
  cases text with
  | nil => rfl
  | cons c text => rw [List.dropWhile_cons_of_neg (by simpa using htext c rfl)]

theorem trim_padded {left text right : List Char} (hleft : ∀ c ∈ left, isWhitespace c = true)
    (hright : ∀ c ∈ right, isWhitespace c = true) (hne : text ≠ [])
    (htext : ∀ c ∈ text, isWhitespace c = false) : trim (left ++ (text ++ right)) = text := by
  have hhead : ∀ c ∈ (text ++ right).head?, isWhitespace c = false := by
    intro c hc
    rw [List.head?_append_of_ne_nil _ hne] at hc
    exact htext c (List.mem_of_mem_head? hc)
  have hlast : ∀ c ∈ text.reverse.head?, isWhitespace c = false := by
    intro c hc
    exact htext c (List.mem_reverse.mp (List.mem_of_mem_head? hc))
  rw [trim, dropWhile_append_of_all hleft hhead, List.reverse_append,
    dropWhile_append_of_all (fun c hc => hright c (List.mem_reverse.mp hc)) hlast,
    List.reverse_reverse]

/-- `str::parse::<usize>` on a platform of 64 bits. -/
def parseUsize (text : List Char) : Option Nat :=
  let digits := if text.head? = some '+' then text.tail else text
  if digits.isEmpty || !digits.all Char.isDigit then none
  else
    let n := Nat.ofDigitChars 10 digits 0
    if n < UInt64.size then some n else none

theorem isDigit_of_mem_toDigits {n : Nat} {c : Char} (h : c ∈ Nat.toDigits 10 n) :
    c.isDigit = true :=
  Nat.isDigit_of_mem_toDigits (by decide) (by decide) h

theorem isWhitespace_of_isDigit {c : Char} (h : c.isDigit = true) : isWhitespace c = false := by
  obtain ⟨hlow, hhigh⟩ := Char.isDigit_iff_toNat.mp h
  have hlow' : 48 ≤ c.toNat := hlow
  have hhigh' : c.toNat ≤ 57 := hhigh
  simp only [isWhitespace, Bool.or_eq_false_iff, Bool.and_eq_false_iff, decide_eq_false_iff_not,
    beq_eq_false_iff_ne]
  omega

theorem parseUsize_toDigits {n : Nat} (hn : n < UInt64.size) :
    parseUsize (Nat.toDigits 10 n) = some n := by
  have hplus : (Nat.toDigits 10 n).head? ≠ some '+' := by
    intro h
    have hdigit := isDigit_of_mem_toDigits (List.mem_of_mem_head? h)
    exact absurd hdigit (by decide)
  have hall : (Nat.toDigits 10 n).all Char.isDigit = true :=
    List.all_eq_true.mpr fun c hc => isDigit_of_mem_toDigits hc
  have hempty : (Nat.toDigits 10 n).isEmpty = false :=
    List.isEmpty_eq_false_iff.mpr Nat.toDigits_ne_nil
  rw [parseUsize]
  simp only [if_neg hplus, hempty, hall, Bool.not_true, Bool.or_false, Bool.false_eq_true, if_false,
    Nat.ofDigitChars_ten_toDigits, if_pos hn]

end Text
