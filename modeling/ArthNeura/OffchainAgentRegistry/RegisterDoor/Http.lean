import ArthNeura.Codec.Text
import ArthNeura.Codec.Utf8
import ArthNeura.OffchainAgentRegistry.RegisterDoor

set_option autoImplicit false

/-! # How the door reads a request

The door reads from the connection until it has the head of the request, up to the first blank
line, and as many bytes behind it as the `Content-Length` line says. This does not depend on how
the bytes arrive: the loop stops with the last byte of the request, and not before
(`readLoop_segments`).

The handlers look for the body once more in the text of the whole request, as the piece between
the first blank line and the next one. A blank line inside of the body, which JSON allows, ends it
there: the handler gets the body exactly if it has none (`request_read_exactly`).
-/

namespace OffchainAgentRegistry.RegisterDoor

open Frame

/-! ## The read loop -/

def maxRequestLen : Nat := 65536

/-- The value of the first `content-length` line of the head. -/
def contentLength (head : Bytes) : Nat :=
  let head := (Utf8.decodeLossy head).map Char.toLower
  -- `find_map` stops at the first line with the name, also if its value is not a number
  (((Text.lines head).findSome? (Text.stripPrefix? "content-length:".toList)).bind
    fun n => Text.parseUsize (Text.trim n)).getD 0

/-- Whether the loop stops when it holds these bytes. The sum `i + 4 + need` does not overflow here;
in the source it does for a length close to `usize::MAX`. -/
def stopsReading (buf : Bytes) : Bool :=
  match Text.position [13, 10, 13, 10] buf with
  | some i =>
      -- the head is parsed again after every read
      let need := contentLength (buf.take i)
      buf.length ≥ i + 4 + need || buf.length > maxRequestLen
  | none => buf.length > maxRequestLen

/-- The loop over the results of the read calls; `none` is an error, and no bytes are the end of
the stream. Where the calls run out, the door still waits for the next one. -/
def readLoop : Bytes → List (Option Bytes) → Option Bytes
  | _, [] => none
  | buf, read :: reads =>
      -- `unwrap_or(0)`: an error counts as the end of the stream
      let tmp := read.getD []
      if tmp = [] then some buf
      else if stopsReading (buf ++ tmp) then some (buf ++ tmp)
      else readLoop (buf ++ tmp) reads

/-! ## The handlers -/

inductive Endpoint where
  | challenge
  | prepare
  | finish
  | fund
  | submit
  | register
  deriving DecidableEq

/-- The starts of the request line, in the order in which they are tried. -/
def endpoints : List (String × Endpoint) :=
  [("GET /v1/register/challenge", .challenge), ("POST /v1/prepare", .prepare),
    ("POST /v1/finish", .finish), ("POST /v1/fund", .fund), ("POST /v1/submit", .submit),
    ("POST /v1/register", .register)]

/-- The handler for a request line. -/
def route (line : List Char) : Option Endpoint :=
  (endpoints.find? fun p => p.1.toList.isPrefixOf line).map (·.2)

def requestLine (req : List Char) : List Char := (Text.lines req).head?.getD []

/-- The text that the handlers give to the JSON parser. -/
def rawBody (req : List Char) : List Char :=
  -- `split(..).nth(1)`, so the piece ends at the next blank line
  ((Text.split '\r' ['\n', '\r', '\n'] req)[1]?).getD []

/-- The request in the buffer, as far as the map `pending` is concerned. -/
def receive {Params : Type} (fromStr : List Char → Option JsonBody)
    (chain : Except String Params) (submission : Submission) (buf : Bytes) : Request Params :=
  let req := Utf8.decodeLossy buf
  match route (requestLine req) with
  | some .prepare => .prepare (fromStr (rawBody req)) chain
  | some .finish => .finish (fromStr (rawBody req)) submission
  | _ => .other

/-! ## Requests -/

/-- A line with the name `Content-Length`, in whatever case. -/
def IsContentLength (line : Bytes) : Prop :=
  ∃ name rest, name.map Char.toLower = "content-length".toList ∧
    line = Utf8.encode (name ++ [':']) ++ rest

/-- A request with one `Content-Length` line and a body in UTF-8. The other lines of the head, the
request line among them, are any bytes that are not empty and have no line feed. -/
structure HttpRequest where
  before : List Bytes
  name : List Char
  left : List Char
  right : List Char
  after : List Bytes
  body : List Char
  name_eq : name.map Char.toLower = "content-length".toList
  blank : ∀ c ∈ left ++ right, c = ' ' ∨ c = '\t'
  other : ∀ line ∈ before ++ after, line ≠ [] ∧ (10 : UInt8) ∉ line ∧ ¬ IsContentLength line

namespace HttpRequest

variable (r : HttpRequest)

/-- `Content-Length: n`, where `n` is the number of bytes of the body. -/
def lengthLine : List Char :=
  r.name ++ ':' :: (r.left ++ (Nat.toDigits 10 (Utf8.encode r.body).length ++ r.right))

def lines : List Bytes := r.before ++ Utf8.encode r.lengthLine :: r.after

def head : Bytes := [13, 10].intercalate r.lines

def bytes : Bytes := r.head ++ 13 :: 10 :: 13 :: 10 :: Utf8.encode r.body

/-- The head, line by line, as the door reads it. -/
def texts : List (List Char) := r.lines.map Utf8.decodeLossy

end HttpRequest

/-! ## The head as text -/

theorem encode_crlf : Utf8.encode ['\r', '\n'] = [13, 10] := by decide

/-- Lines are read one by one. -/
theorem decodeLossy_intercalate {lines : List Bytes} (hne : lines ≠ []) :
    Utf8.decodeLossy ([13, 10].intercalate lines) =
      ['\r', '\n'].intercalate (lines.map Utf8.decodeLossy) := by
  induction lines, hne using List.recNeNil with
  | singleton line => simp only [List.intercalate_singleton, List.map_cons, List.map_nil]
  | cons line lines hls ih =>
      have hmap : lines.map Utf8.decodeLossy ≠ [] := by simpa using hls
      rw [Text.intercalate_cons hls, List.map_cons, Text.intercalate_cons hmap, ← encode_crlf,
        Utf8.decodeLossy_append_encode line (List.cons_ne_nil _ _), encode_crlf, ih]

theorem start_of_isContentLength {line : Bytes} (h : IsContentLength line) :
    "content-length:".toList <+: (Utf8.decodeLossy line).map Char.toLower := by
  obtain ⟨name, rest, hname, rfl⟩ := h
  rw [Utf8.decodeLossy_encode_append, List.map_append, List.map_append, hname]
  exact List.prefix_append _ _

/-- A line that reads as `content-length:` is one. -/
theorem isContentLength_of_start {line : Bytes}
    (h : "content-length:".toList <+: (Utf8.decodeLossy line).map Char.toLower) :
    IsContentLength line := by
  obtain ⟨rest, hrest⟩ := h
  obtain ⟨text, tail, htext, hlower, -⟩ := List.append_eq_map_iff.mp hrest
  -- the last character of the start is the colon itself
  have hsplit : text.map Char.toLower = "content-length".toList ++ [':'] := hlower
  obtain ⟨name, colon, rfl, hname, hcolon⟩ := List.map_eq_append_iff.mp hsplit
  obtain ⟨c, rfl, hc⟩ := List.map_eq_singleton_iff.mp hcolon
  obtain rfl : c = ':' := Text.toLower_eq hc (by decide)
  -- no letter of the start is a replacement character, so the bytes are those of the text
  have hkept : ∀ d ∈ name ++ [':'], d ≠ '\uFFFD' := by
    rintro d hd rfl
    have hmem := List.mem_map_of_mem (f := Char.toLower) hd
    rw [hlower] at hmem
    exact absurd hmem (by decide)
  obtain ⟨bytes, hbytes, -⟩ := Utf8.eq_append_of_decodeLossy_append hkept htext
  exact ⟨name, bytes, hname, hbytes⟩

namespace HttpRequest

variable (r : HttpRequest)

theorem newline_notMem_lengthLine : '\n' ∉ r.lengthLine := by
  have hname : '\n' ∉ r.name := by
    intro h
    have hmem := List.mem_map_of_mem (f := Char.toLower) h
    rw [r.name_eq] at hmem
    exact absurd hmem (by decide)
  have hblank : ∀ l : List Char, (∀ c ∈ l, c = ' ' ∨ c = '\t') → '\n' ∉ l := by
    intro l hl hmem
    rcases hl _ hmem with h | h <;> exact absurd h (by decide)
  have hdigits : '\n' ∉ Nat.toDigits 10 (Utf8.encode r.body).length := by
    intro h
    exact absurd (Text.isDigit_of_mem_toDigits h) (by decide)
  have hleft := hblank r.left fun c hc => r.blank c (List.mem_append_left _ hc)
  have hright := hblank r.right fun c hc => r.blank c (List.mem_append_right _ hc)
  simp [lengthLine, hname, hleft, hdigits, hright]

theorem lines_ne_nil : r.lines ≠ [] := by simp [lines]

theorem line_spec : ∀ line ∈ r.lines, line ≠ [] ∧ (10 : UInt8) ∉ line := by
  intro line hline
  have hother : line ∈ r.before ++ r.after → line ≠ [] ∧ (10 : UInt8) ∉ line := by
    intro h
    obtain ⟨hne, hlf, -⟩ := r.other line h
    exact ⟨hne, hlf⟩
  rw [lines, List.mem_append, List.mem_cons] at hline
  rcases hline with h | rfl | h
  · exact hother (List.mem_append_left _ h)
  · constructor
    · intro h
      have hdec := Utf8.decodeLossy_encode r.lengthLine
      rw [h, Utf8.decodeLossy_nil] at hdec
      have hne : r.lengthLine ≠ [] := by simp [lengthLine]
      exact hne hdec.symm
    · exact fun h => r.newline_notMem_lengthLine (Utf8.mem_of_mem_encode (by decide) h)
  · exact hother (List.mem_append_right _ h)

theorem texts_ne_nil : r.texts ≠ [] := by simp [texts, lines]

theorem text_spec : ∀ text ∈ r.texts, text ≠ [] ∧ '\n' ∉ text := by
  intro text htext
  obtain ⟨line, hline, rfl⟩ := List.mem_map.mp htext
  obtain ⟨hne, hlf⟩ := r.line_spec line hline
  refine ⟨fun h => hne (Utf8.decodeLossy_eq_nil h), fun h => hlf ?_⟩
  have hinfix := Utf8.infix_of_mem_decodeLossy (by decide) h
  exact hinfix.subset (by decide)

theorem decodeLossy_head : Utf8.decodeLossy r.head = ['\r', '\n'].intercalate r.texts :=
  decodeLossy_intercalate r.lines_ne_nil

theorem decodeLossy_bytes :
    Utf8.decodeLossy r.bytes =
      ['\r', '\n'].intercalate r.texts ++ '\r' :: '\n' :: '\r' :: '\n' :: r.body := by
  have hblank : Utf8.encode ['\r', '\n', '\r', '\n'] = [13, 10, 13, 10] := by decide
  have h := Utf8.decodeLossy_append_encode r.head (List.cons_ne_nil '\r' ['\n', '\r', '\n'])
    (Utf8.encode r.body)
  rw [hblank, Utf8.decodeLossy_encode, r.decodeLossy_head] at h
  exact h

/-! ## The length of the body -/

/-- What the door finds behind the name on the `Content-Length` line. -/
theorem lengthLine_lower :
    r.lengthLine.map Char.toLower = "content-length:".toList ++
      (r.left ++ (Nat.toDigits 10 (Utf8.encode r.body).length ++ r.right)) := by
  have hvalue : ∀ c ∈ ':' :: (r.left ++ (Nat.toDigits 10 (Utf8.encode r.body).length ++ r.right)),
      c.toNat < 65 := by
    have hblank : ∀ c ∈ r.left ++ r.right, c.toNat < 65 := by
      intro c hc
      rcases r.blank c hc with rfl | rfl <;> decide
    intro c hc
    simp only [List.mem_cons, List.mem_append] at hc
    rcases hc with rfl | hc | hc | hc
    · decide
    · exact hblank c (List.mem_append_left _ hc)
    · have hdigit := (Char.isDigit_iff_toNat.mp (Text.isDigit_of_mem_toDigits hc)).2
      exact Nat.lt_of_le_of_lt hdigit (by decide)
    · exact hblank c (List.mem_append_right _ hc)
  have hcolon : "content-length:".toList = "content-length".toList ++ [':'] := by decide
  rw [lengthLine, List.map_append, r.name_eq, Text.map_toLower_of_lt hvalue, hcolon,
    List.append_assoc, List.singleton_append]

theorem contentLength_head (hlen : (Utf8.encode r.body).length < UInt64.size) :
    contentLength r.head = (Utf8.encode r.body).length := by
  have hlines : Text.lines ((Utf8.decodeLossy r.head).map Char.toLower)
      = r.texts.map (List.map Char.toLower) := by
    have hcrlf : ['\r', '\n'].map Char.toLower = ['\r', '\n'] := by decide
    rw [r.decodeLossy_head, Text.map_intercalate, hcrlf]
    refine Text.lines_intercalate (by simpa using r.texts_ne_nil) fun line hline => ?_
    obtain ⟨text, htext, rfl⟩ := List.mem_map.mp hline
    obtain ⟨hne, hlf⟩ := r.text_spec text htext
    refine ⟨by simpa using hne, fun h => hlf ?_⟩
    obtain ⟨c, hc, hlow⟩ := List.mem_map.mp h
    rwa [← Text.toLower_eq hlow (by decide)]
  have hfind : (r.texts.map (List.map Char.toLower)).findSome?
      (Text.stripPrefix? "content-length:".toList)
      = some (r.left ++ (Nat.toDigits 10 (Utf8.encode r.body).length ++ r.right)) := by
    -- no line before it has the name
    have hbefore : ((r.before.map Utf8.decodeLossy).map (List.map Char.toLower)).findSome?
        (Text.stripPrefix? "content-length:".toList) = none := by
      rw [List.findSome?_eq_none_iff]
      intro line hline
      obtain ⟨text, htext, rfl⟩ := List.mem_map.mp hline
      obtain ⟨bytes, hbytes, rfl⟩ := List.mem_map.mp htext
      obtain ⟨-, -, hnot⟩ := r.other bytes (List.mem_append_left _ hbytes)
      exact Text.stripPrefix?_eq_none fun hstart => hnot (isContentLength_of_start hstart)
    rw [texts, lines, List.map_append, List.map_append, List.findSome?_append, hbefore,
      List.map_cons, List.map_cons, Utf8.decodeLossy_encode, r.lengthLine_lower,
      List.findSome?_cons, Text.stripPrefix?_append]
    rfl
  have hblank : ∀ c ∈ r.left ++ r.right, Text.isWhitespace c = true := by
    intro c hc
    rcases r.blank c hc with rfl | rfl <;> decide
  have htrim : Text.trim (r.left ++ (Nat.toDigits 10 (Utf8.encode r.body).length ++ r.right))
      = Nat.toDigits 10 (Utf8.encode r.body).length :=
    Text.trim_padded (fun c hc => hblank c (List.mem_append_left _ hc))
      (fun c hc => hblank c (List.mem_append_right _ hc)) Nat.toDigits_ne_nil
      (fun c hc => Text.isWhitespace_of_isDigit (Text.isDigit_of_mem_toDigits hc))
  rw [contentLength, hlines, hfind, Option.bind_some, htrim, Text.parseUsize_toDigits hlen,
    Option.getD_some]

/-! ## The end of the request -/

theorem length_bytes : r.bytes.length = r.head.length + 4 + (Utf8.encode r.body).length := by
  rw [bytes, List.length_append]
  simp only [List.length_cons]
  omega

theorem position_bytes : Text.position [13, 10, 13, 10] r.bytes = some r.head.length :=
  Text.position_blankLine (by decide) r.lines r.lines_ne_nil r.line_spec _

/-- With a part of the request, the loop stops exactly if the part is the whole. -/
theorem stopsReading_take (hsize : r.bytes.length ≤ maxRequestLen) {k : Nat}
    (hk : k ≤ r.bytes.length) : stopsReading (r.bytes.take k) = true ↔ k = r.bytes.length := by
  have hlength := r.length_bytes
  have hmax : maxRequestLen = 65536 := rfl
  have htake : (r.bytes.take k).length = k := by
    rw [List.length_take]
    omega
  rw [stopsReading, Text.position_take (by decide) r.position_bytes, htake]
  -- before the blank line is complete, only the size of the buffer could stop the loop
  by_cases hhead : r.head.length + 4 ≤ k
  · have hheadBytes : (r.bytes.take k).take r.head.length = r.head := by
      rw [List.take_take, Nat.min_eq_left (by omega), bytes, List.take_left]
    have hneed := r.contentLength_head (by simp only [UInt64.size]; omega)
    rw [if_pos (by simpa using hhead)]
    simp only [hheadBytes, hneed, Bool.or_eq_true, decide_eq_true_eq]
    omega
  · rw [if_neg (by simpa using hhead)]
    simp only [decide_eq_true_eq]
    omega

end HttpRequest

/-- **The loop stops with the last byte of the request.** From any part that has been read, and
however the rest arrives. -/
theorem readLoop_segments (r : HttpRequest) (hsize : r.bytes.length ≤ maxRequestLen) :
    ∀ (segments : List Bytes) (buf : Bytes), segments ≠ [] → (∀ seg ∈ segments, seg ≠ []) →
      buf ++ segments.flatten = r.bytes → readLoop buf (segments.map some) = some r.bytes := by
  intro segments
  induction segments with
  | nil => exact fun buf h => absurd rfl h
  | cons seg segments ih =>
      intro buf _ hne hbytes
      have hseg := hne seg List.mem_cons_self
      rw [List.flatten_cons, ← List.append_assoc] at hbytes
      have htake : r.bytes.take (buf ++ seg).length = buf ++ seg := by
        rw [← hbytes, List.take_left]
      have hlength := congrArg List.length hbytes
      rw [List.length_append] at hlength
      have hstop := r.stopsReading_take hsize (k := (buf ++ seg).length) (by omega)
      rw [htake] at hstop
      rw [List.map_cons, readLoop]
      simp only [Option.getD_some, hseg, if_false]
      by_cases hlast : segments = []
      · -- the last segment completes the request
        subst hlast
        rw [List.flatten_nil, List.append_nil] at hbytes
        rw [if_pos (hstop.mpr (by rw [hbytes])), hbytes]
      · have hmore : 0 < segments.flatten.length := by
          obtain ⟨next, more, rfl⟩ := List.exists_cons_of_ne_nil hlast
          have hnext := List.length_pos_iff.mpr (hne next (by simp))
          rw [List.flatten_cons, List.length_append]
          omega
        have hgo : ¬ stopsReading (buf ++ seg) = true := fun h => by
          have hwhole := hstop.mp h
          omega
        rw [if_neg hgo]
        exact ih (buf ++ seg) hlast (fun s hs => hne s (List.mem_cons_of_mem _ hs)) hbytes

/-! ## The body as the handlers see it -/

/-- The handlers get the body up to its first blank line. -/
theorem rawBody_bytes (r : HttpRequest) :
    rawBody (Utf8.decodeLossy r.bytes) =
      ((Text.split '\r' ['\n', '\r', '\n'] r.body).head?).getD [] := by
  have hposition : Text.position ['\r', '\n', '\r', '\n'] (Utf8.decodeLossy r.bytes)
      = some (['\r', '\n'].intercalate r.texts).length := by
    rw [r.decodeLossy_bytes]
    exact Text.position_blankLine (by decide) r.texts r.texts_ne_nil r.text_spec r.body
  rw [rawBody, Text.split_of_some hposition, List.getElem?_cons_succ, r.decodeLossy_bytes,
    List.drop_length_add_append, List.head?_eq_getElem?]
  rfl

theorem rawBody_eq_body_iff (r : HttpRequest) :
    rawBody (Utf8.decodeLossy r.bytes) = r.body ↔ ¬ ['\r', '\n', '\r', '\n'] <:+: r.body := by
  rw [rawBody_bytes, ← Text.head?_split_eq_iff]
  obtain ⟨piece, pieces, hpieces⟩ := List.exists_cons_of_ne_nil
    (Text.split_ne_nil '\r' ['\n', '\r', '\n'] r.body)
  rw [hpieces, List.head?_cons, Option.getD_some, Option.some.injEq]

/-- **The door reads a request exactly, if its body has no blank line.** However a request is
delivered, the loop stops with the whole request in the buffer. The text that the handlers parse
is the body exactly if the body does not contain `\r\n\r\n`. -/
theorem request_read_exactly (r : HttpRequest) (hsize : r.bytes.length ≤ 65536)
    (segments : List Bytes) (hsegments : segments.flatten = r.bytes)
    (hlen : ∀ seg ∈ segments, 1 ≤ seg.length ∧ seg.length ≤ 4096) :
    ∃ buf, readLoop [] (segments.map some) = some buf ∧ buf = r.bytes ∧
      (rawBody (Utf8.decodeLossy buf) = r.body ↔ ¬ ['\r', '\n', '\r', '\n'] <:+: r.body) := by
  have hne : segments ≠ [] := by
    rintro rfl
    have hlength := r.length_bytes
    rw [← hsegments, List.flatten_nil, List.length_nil] at hlength
    omega
  refine ⟨r.bytes, readLoop_segments r hsize segments [] hne (fun seg hseg => ?_) ?_, rfl,
    rawBody_eq_body_iff r⟩
  · exact List.length_pos_iff.mp (hlen seg hseg).1
  · exact hsegments

/-- A call of `/v1/submit`. -/
def submitRequest (body : List Char) : HttpRequest where
  before := [Utf8.encode "POST /v1/submit HTTP/1.1".toList]
  name := "Content-Length".toList
  left := [' ']
  right := []
  after := []
  body := body
  name_eq := by decide +kernel
  blank := by simp
  other := by
    intro line hline
    rw [List.mem_singleton.mp hline]
    refine ⟨by decide +kernel, by decide +kernel, fun h => ?_⟩
    have hstart := start_of_isContentLength h
    rw [Utf8.decodeLossy_encode] at hstart
    exact absurd hstart (by decide +kernel)

theorem request_read_exactly_twoSegments :
    ∃ buf, readLoop [] [some ((submitRequest ['7']).bytes.take 20),
        some ((submitRequest ['7']).bytes.drop 20)] = some buf ∧
      rawBody (Utf8.decodeLossy buf) = ['7'] := by
  obtain ⟨buf, hread, -, hbody⟩ := request_read_exactly (submitRequest ['7']) (by decide +kernel)
    [(submitRequest ['7']).bytes.take 20, (submitRequest ['7']).bytes.drop 20]
    (by rw [List.flatten_cons, List.flatten_singleton, List.take_append_drop]) (by decide +kernel)
  exact ⟨buf, hread, hbody.mpr (by decide)⟩

/-- A blank line between two tokens of the body: the handler gets what is before it. -/
theorem body_cut_at_blankLine :
    let r := submitRequest "\x7b\"tx\":\r\n\r\n\"0x00\"\x7d".toList
    readLoop [] [some r.bytes] = some r.bytes ∧
      rawBody (Utf8.decodeLossy r.bytes) = "\x7b\"tx\":".toList ∧
      rawBody (Utf8.decodeLossy r.bytes) ≠ r.body := by
  intro r
  have hcut : rawBody (Utf8.decodeLossy r.bytes) = "\x7b\"tx\":".toList := by
    have hposition : Text.position ['\r', '\n', '\r', '\n'] r.body = some 6 := by decide
    rw [rawBody_bytes, Text.split_of_some hposition]
    decide
  refine ⟨?_, hcut, ?_⟩
  · refine readLoop_segments r (by decide +kernel) [r.bytes] [] (by decide) ?_ (by simp)
    exact fun seg hseg => by rw [List.mem_singleton.mp hseg]; decide +kernel
  · rw [hcut]
    decide

/-! ## The request that reaches the map -/

theorem requestLine_bytes (r : HttpRequest) :
    requestLine (Utf8.decodeLossy r.bytes) = r.texts.head r.texts_ne_nil := by
  obtain ⟨text, texts, htexts⟩ := List.exists_cons_of_ne_nil r.texts_ne_nil
  have hlf : '\n' ∉ text := (r.text_spec text (by simp [htexts])).2
  obtain ⟨tail, htail⟩ := Text.exists_block_eq '\r' '\n' text texts ('\r' :: '\n' :: r.body)
  rw [← htexts, ← r.decodeLossy_bytes] at htail
  rw [requestLine, htail, Text.lines_append hlf]
  simp [htexts]

/-- **The door sees the request line and the body, and nothing else.** A request without a blank
line in its body reaches the map as its own, however it is delivered. -/
theorem receive_request {Params : Type} (fromStr : List Char → Option JsonBody)
    (chain : Except String Params) (submission : Submission) (r : HttpRequest)
    (hsize : r.bytes.length ≤ maxRequestLen) (hblank : ¬ ['\r', '\n', '\r', '\n'] <:+: r.body)
    {segments : List Bytes} (hne : segments ≠ []) (hsegments : segments.flatten = r.bytes)
    (hlen : ∀ seg ∈ segments, seg ≠ []) :
    (readLoop [] (segments.map some)).map (receive fromStr chain submission) =
      some (match route (r.texts.head r.texts_ne_nil) with
        | some .prepare => .prepare (fromStr r.body) chain
        | some .finish => .finish (fromStr r.body) submission
        | _ => .other) := by
  rw [readLoop_segments r hsize segments [] hne hlen hsegments, Option.map_some, receive,
    requestLine_bytes, (rawBody_eq_body_iff r).mpr hblank]

end OffchainAgentRegistry.RegisterDoor
