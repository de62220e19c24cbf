import ArthNeura.Codec.Hex
import ArthNeura.Frame.Run
import ArthNeura.Frame.Storage
import Mathlib.Data.List.AList

set_option autoImplicit false

/-! # The registration door

`register-door` prepares registrations for clients that keep their keys. A client posts what is
to be registered to `/v1/prepare` and gets a token; it signs the payload and posts the token and
the signature to `/v1/finish`. In between, the extrinsic waits in the map `pending`.

The token is made of the size of the map, which grows and shrinks. A prepare that finds the key
`p{len}` taken overwrites the extrinsic of another client (`token_collision`). `Apart` says that
this has not happened: the outstanding tokens are distinct, and each of them still names the
extrinsic that was built for its own client. The clients are kept apart as long as they finish in
the reverse order of their prepares, so that the outstanding tokens are always `p0`, `p1` and so on
without a gap; the first finish out of that order makes the next prepare a collision
(`door_keeps_clients_apart`).
-/

namespace OffchainAgentRegistry.RegisterDoor

open Frame

/-! ## Requests -/

/-- The members of a JSON body that the handlers read, as `as_str` and `as_u64` see them. -/
structure JsonBody where
  account : Option String := none
  pubkey : Option String := none
  signature : Option String := none
  signedAtBlock : Option Nat := none
  label : Option String := none
  token : Option String := none

/-- `trim_start_matches("0x")`. -/
def trimHex : List Char → List Char
  | '0' :: 'x' :: rest => trimHex rest
  | s => s

/-- A hexadecimal member; empty if it is missing or not hexadecimal. -/
def hexMember (member : Option String) : Bytes :=
  (Hex.decodeDigits (trimHex (member.getD "").toList)).getD []

/-- The arguments of `register_agent`. -/
structure RegisterAgentTx where
  pubkey : Bytes
  signature : Bytes
  signedAtBlock : Nat
  capabilities : Nat
  metadata : Bytes
  label : Bytes
  deriving DecidableEq

/-- A call, the account that is to sign it, and what the chain has added: nonce, era and so on. -/
structure PartialExtrinsic (Params : Type) where
  tx : RegisterAgentTx
  account : Bytes
  params : Params
  deriving DecidableEq

structure SubmittableExtrinsic (Params : Type) where
  extrinsic : PartialExtrinsic Params
  address : Bytes
  signature : Bytes
  deriving DecidableEq

/-- What becomes of a submission. -/
inductive Submission where
  /-- No connection: the door stops with a panic. -/
  | unreachable
  | accepted (hash dry : String)
  | rejected (error : String)

/-- A request with what the chain answers when it is asked on its way. A body that is no JSON is
`none`. -/
inductive Request (Params : Type) where
  | prepare (body : Option JsonBody) (chain : Except String Params)
  | finish (body : Option JsonBody) (chain : Submission)
  /-- The other endpoints do not use the map. -/
  | other

inductive Response where
  | badRequest (error : String)
  | prepared (token payload : String)
  | submitted (hash dry : String)
  deriving DecidableEq

structure Door (Params : Type) where
  pending : AList fun _ : String => PartialExtrinsic Params
  running : Bool

/-- The door after a request, the answer, and the extrinsic that was submitted. -/
structure Handled (Params : Type) where
  door : Door Params
  response : Option Response
  submitted : Option (SubmittableExtrinsic Params)

section

variable {Params : Type}

/-- The extrinsic of a prepare request, or the error it is answered with. -/
def buildExtrinsic (body : Option JsonBody) (chain : Except String Params) :
    Except String (PartialExtrinsic Params) :=
  match body with
  | none => .error "bad json"
  | some v =>
      let account := hexMember v.account
      let pubkey := hexMember v.pubkey
      let signature := hexMember v.signature
      let signedAtBlock := v.signedAtBlock.getD 0
      let label := (v.label.getD "").toUTF8.data.toList
      if account.length ≠ 32 ∨ pubkey = [] ∨ signature = [] ∨ signedAtBlock = 0 then
        .error "account, pubkey, signature, signed_at_block required"
      else
        match chain with
        | .error e => .error e
        | .ok params =>
            -- the metadata is `door`
            .ok ⟨⟨pubkey, signature, signedAtBlock, 1, [100, 111, 111, 114], label⟩, account,
              params⟩

/-- The key of the next extrinsic. -/
def Door.nextToken (door : Door Params) : String := "p" ++ toString door.pending.keys.length

/-- `POST /v1/prepare`. -/
def prepareRequest (signerPayload : PartialExtrinsic Params → Bytes) (door : Door Params)
    (body : Option JsonBody) (chain : Except String Params) : Handled Params :=
  match buildExtrinsic body chain with
  | .error e => ⟨door, some (.badRequest e), none⟩
  | .ok x =>
      let payload := Hex.encode (signerPayload x)
      let token := door.nextToken
      ⟨{ door with pending := door.pending.insert token x }, some (.prepared token payload), none⟩

/-- The token, the signature and the account of a finish request. -/
def finishArgs (body : Option JsonBody) : Except String (String × Bytes × Bytes) :=
  match body with
  | none => .error "bad json"
  | some v =>
      let token := v.token.getD ""
      let sigb := hexMember v.signature
      let account := hexMember v.account
      if sigb.length ≠ 64 ∨ account.length ≠ 32 then
        .error "account and 64-byte signature required"
      else .ok (token, sigb, account)

/-- Sign the extrinsic that was taken out of the map and submit it. -/
def complete (door : Door Params) (x : PartialExtrinsic Params) (signature account : Bytes) :
    Submission → Handled Params
  | .unreachable => ⟨{ door with running := false }, none, none⟩
  | .accepted hash dry => ⟨door, some (.submitted hash dry), some ⟨x, account, signature⟩⟩
  | .rejected e => ⟨door, some (.badRequest e), some ⟨x, account, signature⟩⟩

/-- `POST /v1/finish`. -/
def finishRequest (door : Door Params) (body : Option JsonBody) (chain : Submission) :
    Handled Params :=
  match finishArgs body with
  | .error e => ⟨door, some (.badRequest e), none⟩
  | .ok (token, signature, account) =>
      match door.pending.lookup token with
      | none => ⟨door, some (.badRequest "unknown token"), none⟩
      | some x =>
          complete { door with pending := door.pending.erase token } x signature account chain

/-! ## Outstanding tokens -/

/-- The door, and the tokens that clients have been given and not used yet, each with the extrinsic
built for its client. -/
structure Tracked (Params : Type) where
  door : Door Params
  outstanding : List (String × PartialExtrinsic Params)

def initial : Tracked Params := ⟨⟨∅, true⟩, []⟩

def step (signerPayload : PartialExtrinsic Params → Bytes) (t : Tracked Params) :
    Request Params → Tracked Params
  | .prepare body chain =>
      if t.door.running then
        ⟨(prepareRequest signerPayload t.door body chain).door,
          match buildExtrinsic body chain with
          | .error _ => t.outstanding
          | .ok x => t.outstanding ++ [(t.door.nextToken, x)]⟩
      else t
  | .finish body chain =>
      if t.door.running then
        ⟨(finishRequest t.door body chain).door,
          match finishArgs body with
          | .error _ => t.outstanding
          | .ok (token, _) => t.outstanding.filter fun p => p.1 ≠ token⟩
      else t
  | .other => t

/-- The outstanding tokens are distinct, and each one names the extrinsic of its own client. -/
structure Apart (t : Tracked Params) : Prop where
  nodup : (t.outstanding.map Prod.fst).Nodup
  kept : ∀ p ∈ t.outstanding, t.door.pending.lookup p.1 = some p.2

/-- A prepare that is accepted finds its key free. -/
def KeyFree (t : Tracked Params) : Request Params → Prop
  | .prepare body chain =>
      t.door.running = true → ∀ x, buildExtrinsic body chain = .ok x →
        t.door.pending.lookup t.door.nextToken = none
  | _ => True

/-- A finish that takes an outstanding token takes the one that was handed out last. -/
def TakesLast (t : Tracked Params) : Request Params → Prop
  | .finish body _ =>
      t.door.running = true → ∀ token signature account,
        finishArgs body = .ok (token, signature, account) →
        token ∈ t.outstanding.map Prod.fst →
        (t.outstanding.map Prod.fst).getLast? = some token
  | _ => True

/-- Every key of the map is outstanding. -/
def KeysOutstanding (t : Tracked Params) : Prop :=
  ∀ token, t.door.pending.lookup token ≠ none → token ∈ t.outstanding.map Prod.fst

variable {signerPayload : PartialExtrinsic Params → Bytes} {t : Tracked Params}

/-- The map after a finish request: the token of a well-formed request is gone. -/
theorem finishRequest_pending {door : Door Params} {body : Option JsonBody} {chain : Submission}
    {token : String} {signature account : Bytes}
    (h : finishArgs body = .ok (token, signature, account)) (k : String) :
    (finishRequest door body chain).door.pending.lookup k =
      if k = token then none else door.pending.lookup k := by
  rw [finishRequest, h]
  show ((match door.pending.lookup token with
    | none => (⟨door, some (.badRequest "unknown token"), none⟩ : Handled Params)
    | some x => complete { door with pending := door.pending.erase token } x signature account
        chain).door.pending.lookup k) = _
  cases hx : door.pending.lookup token with
  | none =>
      by_cases hk : k = token
      · rw [if_pos hk, hk]
        exact hx
      · rw [if_neg hk]
  | some x =>
      have hpending : (complete { door with pending := door.pending.erase token } x signature
          account chain).door.pending = door.pending.erase token := by
        cases chain <;> rfl
      show (complete _ x signature account chain).door.pending.lookup k = _
      rw [hpending]
      by_cases hk : k = token
      · rw [if_pos hk, hk, AList.lookup_erase]
      · rw [if_neg hk, AList.lookup_erase_ne hk]

/-- What a request does to the map and to the outstanding tokens. -/
inductive Effect (t t' : Tracked Params) (r : Request Params) : Prop
  | kept (hpending : t'.door.pending = t.door.pending) (hout : t'.outstanding = t.outstanding)
      (hfree : KeyFree t r)
  | issued (x : PartialExtrinsic Params)
      (hpending : t'.door.pending = t.door.pending.insert t.door.nextToken x)
      (hout : t'.outstanding = t.outstanding ++ [(t.door.nextToken, x)])
      (hfree : KeyFree t r ↔ t.door.pending.lookup t.door.nextToken = none)
  | consumed (token : String)
      (hpending : ∀ k, t'.door.pending.lookup k =
        if k = token then none else t.door.pending.lookup k)
      (hout : t'.outstanding = t.outstanding.filter fun p => p.1 ≠ token) (hfree : KeyFree t r)
      (hlast : TakesLast t r → token ∈ t.outstanding.map Prod.fst →
        (t.outstanding.map Prod.fst).getLast? = some token)

theorem step_effect (signerPayload : PartialExtrinsic Params → Bytes) (t : Tracked Params)
    (r : Request Params) : Effect t (step signerPayload t r) r := by
  cases r with
  | other => exact .kept rfl rfl trivial
  | prepare body chain =>
      by_cases hrun : t.door.running = true
      · cases hx : buildExtrinsic body chain with
        | error e =>
            refine .kept ?_ ?_ fun _ x h => ?_
            · simp only [step, hrun, if_true, prepareRequest, hx]
            · simp only [step, hrun, if_true, hx]
            · rw [hx] at h
              cases h
        | ok x =>
            refine .issued x ?_ ?_ ⟨fun h => h hrun x hx, fun h _ _ _ => h⟩
            · simp only [step, hrun, if_true, prepareRequest, hx]
            · simp only [step, hrun, if_true, hx]
      · have hstep : step signerPayload t (.prepare body chain) = t := if_neg hrun
        rw [hstep]
        exact .kept rfl rfl fun h => absurd h hrun
  | finish body chain =>
      by_cases hrun : t.door.running = true
      · cases hargs : finishArgs body with
        | error e =>
            refine .kept ?_ ?_ trivial
            · simp only [step, hrun, if_true, finishRequest, hargs]
            · simp only [step, hrun, if_true, hargs]
        | ok args =>
            obtain ⟨token, signature, account⟩ := args
            refine .consumed token (fun k => ?_) ?_ trivial fun h => h hrun _ _ _ hargs
            · simp only [step, hrun, if_true]
              exact finishRequest_pending hargs k
            · simp only [step, hrun, if_true, hargs]
      · have hstep : step signerPayload t (.finish body chain) = t := if_neg hrun
        rw [hstep]
        exact .kept rfl rfl trivial

theorem step_keysOutstanding (h : KeysOutstanding t) (r : Request Params) :
    KeysOutstanding (step signerPayload t r) := by
  intro k hk
  cases step_effect signerPayload t r with
  | kept hpending hout _ =>
      rw [hpending] at hk
      rw [hout]
      exact h k hk
  | issued x hpending hout _ =>
      rw [hout, List.map_append, List.mem_append]
      by_cases hnew : k = t.door.nextToken
      · exact Or.inr (by simp [hnew])
      · rw [hpending, AList.lookup_insert_ne hnew] at hk
        exact Or.inl (h k hk)
  | consumed token hpending hout _ _ =>
      rw [hpending k] at hk
      by_cases hnew : k = token
      · exact absurd (if_pos hnew) hk
      · rw [if_neg hnew] at hk
        obtain ⟨p, hp, rfl⟩ := List.mem_map.mp (h k hk)
        rw [hout]
        exact List.mem_map_of_mem (List.mem_filter.mpr ⟨hp, by simpa using hnew⟩)

/-- **A request keeps the clients apart exactly if it finds its key free.** -/
theorem step_apart_iff (hkeys : KeysOutstanding t) (h : Apart t) (r : Request Params) :
    Apart (step signerPayload t r) ↔ KeyFree t r := by
  cases step_effect signerPayload t r with
  | kept hpending hout hfree =>
      refine ⟨fun _ => hfree, fun _ => ⟨?_, fun p hp => ?_⟩⟩
      · rw [hout]
        exact h.nodup
      · rw [hout] at hp
        rw [hpending]
        exact h.kept p hp
  | issued x hpending hout hfree =>
      rw [hfree]
      constructor
      · intro h'
        by_contra hne
        -- the key was taken, so its token is outstanding twice
        have hnodup := h'.nodup
        rw [hout, List.map_append, List.nodup_append] at hnodup
        exact hnodup.2.2 _ (hkeys _ hne) _ (by simp) rfl
      · intro hnone
        have hnew : t.door.nextToken ∉ t.outstanding.map Prod.fst := by
          intro hmem
          obtain ⟨p, hp, heq⟩ := List.mem_map.mp hmem
          have hsome := h.kept p hp
          rw [heq, hnone] at hsome
          cases hsome
        refine ⟨?_, fun p hp => ?_⟩
        · rw [hout, List.map_append, List.nodup_append]
          refine ⟨h.nodup, List.nodup_singleton _, fun a ha b hb hab => ?_⟩
          rw [hab, List.mem_singleton.mp hb] at ha
          exact hnew ha
        · rw [hout, List.mem_append, List.mem_singleton] at hp
          rw [hpending]
          rcases hp with hp | rfl
          · have hne : p.1 ≠ t.door.nextToken := fun heq => hnew (heq ▸ List.mem_map_of_mem hp)
            rw [AList.lookup_insert_ne hne]
            exact h.kept p hp
          · exact AList.lookup_insert _
  | consumed token hpending hout hfree _ =>
      refine ⟨fun _ => hfree, fun _ => ⟨?_, fun p hp => ?_⟩⟩
      · rw [hout]
        exact h.nodup.sublist (List.filter_sublist.map _)
      · rw [hout, List.mem_filter] at hp
        rw [hpending p.1, if_neg (by simpa using hp.2)]
        exact h.kept p hp.1

/-- A well-formed finish with an outstanding token completes the extrinsic of that token. -/
theorem finishRequest_of_outstanding (h : Apart t) {token : String} {x : PartialExtrinsic Params}
    (hx : (token, x) ∈ t.outstanding) {body : Option JsonBody} {signature account : Bytes}
    (hargs : finishArgs body = .ok (token, signature, account)) (chain : Submission) :
    finishRequest t.door body chain =
      complete { t.door with pending := t.door.pending.erase token } x signature account chain := by
  have hlookup := h.kept _ hx
  rw [finishRequest, hargs]
  show (match t.door.pending.lookup token with
    | none => (⟨t.door, some (.badRequest "unknown token"), none⟩ : Handled Params)
    | some x => complete { t.door with pending := t.door.pending.erase token } x signature account
        chain) = _
  rw [hlookup]

/-! ## Tokens without a gap -/

/-- The `n`-th token. -/
def nthToken (n : Nat) : String := "p" ++ toString n

theorem nthToken_inj {m n : Nat} (h : nthToken m = nthToken n) : m = n := by
  have hdigits : Nat.toDigits 10 m = Nat.toDigits 10 n :=
    String.ofList_injective (String.append_right_inj "p" |>.mp h)
  rw [← @Nat.ofDigitChars_ten_toDigits m, hdigits, Nat.ofDigitChars_ten_toDigits]

theorem mem_map_nthToken {m n : Nat} : nthToken m ∈ (List.range n).map nthToken ↔ m < n := by
  rw [List.mem_map]
  constructor
  · rintro ⟨k, hk, heq⟩
    rw [← nthToken_inj heq]
    exact List.mem_range.mp hk
  · exact fun hm => ⟨m, List.mem_range.mpr hm, rfl⟩

/-- The clients are apart, and the outstanding tokens are `p0`, `p1` and so on, in the order in
which they were handed out. -/
structure Stacked (t : Tracked Params) : Prop where
  apart : Apart t
  keys : KeysOutstanding t
  tokens : t.outstanding.map Prod.fst = (List.range t.outstanding.length).map nthToken

theorem stacked_initial : Stacked (initial : Tracked Params) where
  apart := ⟨List.nodup_nil, fun _ hp => absurd hp List.not_mem_nil⟩
  keys _ hk := absurd rfl hk
  tokens := rfl

/-- The map has as many entries as there are outstanding tokens. -/
theorem nextToken_eq (h : Apart t) (hkeys : KeysOutstanding t) :
    t.door.nextToken = nthToken t.outstanding.length := by
  have hmem : ∀ k, k ∈ t.door.pending.keys ↔ k ∈ t.outstanding.map Prod.fst := by
    intro k
    rw [← AList.mem_keys, ← AList.lookup_isSome, Option.isSome_iff_ne_none]
    refine ⟨hkeys k, fun hk => ?_⟩
    obtain ⟨p, hp, rfl⟩ := List.mem_map.mp hk
    rw [h.kept p hp]
    exact Option.some_ne_none _
  have hperm := (List.perm_ext_iff_of_nodup t.door.pending.keys_nodup h.nodup).mpr hmem
  rw [Door.nextToken, hperm.length_eq, List.length_map]
  rfl

theorem Stacked.mem_iff (h : Stacked t) (n : Nat) :
    nthToken n ∈ t.outstanding.map Prod.fst ↔ n < t.outstanding.length := by
  rw [h.tokens, mem_map_nthToken]

/-- Without a gap, the next token is a new one. -/
theorem Stacked.keyFree (h : Stacked t) (r : Request Params) : KeyFree t r := by
  cases r with
  | prepare body chain =>
      intro _ x _
      by_contra hne
      have hmem := h.keys _ hne
      rw [nextToken_eq h.apart h.keys, h.mem_iff] at hmem
      exact Nat.lt_irrefl _ hmem
  | finish | other => trivial

theorem length_of_mem {k : String} (hk : k ∈ t.outstanding.map Prod.fst) :
    ∃ n, t.outstanding.length = n + 1 := by
  have hpos := List.length_pos_of_mem hk
  rw [List.length_map] at hpos
  exact Nat.exists_eq_add_one.mpr hpos

theorem Stacked.getLast? (h : Stacked t) {n : Nat} (hn : t.outstanding.length = n + 1) :
    (t.outstanding.map Prod.fst).getLast? = some (nthToken n) := by
  rw [h.tokens, hn, List.range_succ, List.map_append]
  exact List.getLast?_concat ..

/-- The tokens that are left when `k` is taken. -/
theorem Apart.map_filter (h : Apart t) (k : String) :
    (t.outstanding.filter fun p => p.1 ≠ k).map Prod.fst =
      (t.outstanding.map Prod.fst).erase k := by
  rw [h.nodup.erase_eq_filter, List.filter_map]
  congr 1
  exact List.filter_congr fun p _ => by simp [bne, beq_eq_decide]

/-- When the last token is taken, the others are still without a gap. -/
theorem Stacked.erase_last (h : Stacked t) {k : String}
    (hlast : k ∈ t.outstanding.map Prod.fst → (t.outstanding.map Prod.fst).getLast? = some k) :
    let rest := (t.outstanding.map Prod.fst).erase k
    rest = (List.range rest.length).map nthToken := by
  intro rest
  by_cases hk : k ∈ t.outstanding.map Prod.fst
  · obtain ⟨n, hn⟩ := length_of_mem hk
    have hkn : k = nthToken n := Option.some.inj ((hlast hk).symm.trans (h.getLast? hn))
    have hnot : nthToken n ∉ (List.range n).map nthToken :=
      fun hmem => Nat.lt_irrefl n (mem_map_nthToken.mp hmem)
    have hrest : rest = (List.range n).map nthToken := by
      show (t.outstanding.map Prod.fst).erase k = _
      rw [h.tokens, hn, hkn, List.range_succ, List.map_append, List.erase_append_right _ hnot,
        List.map_singleton, List.erase_cons_head, List.append_nil]
    rw [hrest, List.length_map, List.length_range]
  · have hrest : rest = t.outstanding.map Prod.fst := List.erase_of_not_mem hk
    rw [hrest, List.length_map]
    exact h.tokens

theorem step_stacked (h : Stacked t) {r : Request Params} (hlast : TakesLast t r) :
    Stacked (step signerPayload t r) where
  apart := (step_apart_iff h.keys h.apart r).mpr (h.keyFree r)
  keys := step_keysOutstanding h.keys r
  tokens := by
    cases step_effect signerPayload t r with
    | kept _ hout _ =>
        rw [hout]
        exact h.tokens
    | issued x _ hout _ =>
        rw [hout, List.map_append, h.tokens, List.length_append, List.length_singleton,
          List.range_succ, List.map_append, nextToken_eq h.apart h.keys]
        rfl
    | consumed k _ hout _ htakes =>
        rw [hout, ← List.length_map (f := Prod.fst), h.apart.map_filter]
        exact h.erase_last (htakes hlast)

/-- A finish that reaches the chain leaves the door running. -/
theorem running_finish (h : Apart t) (hrun : t.door.running = true) {k : String}
    (hk : k ∈ t.outstanding.map Prod.fst) {body : Option JsonBody} {signature account : Bytes}
    (hargs : finishArgs body = .ok (k, signature, account)) {chain : Submission}
    (hchain : chain ≠ .unreachable) :
    (step signerPayload t (.finish body chain)).door.running = true := by
  obtain ⟨⟨_, x⟩, hx, rfl⟩ := List.mem_map.mp hk
  simp only [step, hrun, if_true, finishRequest_of_outstanding h hx hargs]
  cases chain with
  | unreachable => exact absurd rfl hchain
  | accepted | rejected => rfl

/-- **A finish out of order makes the next prepare a collision.** The map shrinks while the last
token is still outstanding, so the prepare is given that token again. -/
theorem Stacked.not_apart (h : Stacked t) (hrun : t.door.running = true) {k : String}
    (hk : k ∈ t.outstanding.map Prod.fst) (hlast : (t.outstanding.map Prod.fst).getLast? ≠ some k)
    {body : Option JsonBody} {signature account : Bytes}
    (hargs : finishArgs body = .ok (k, signature, account)) {chain : Submission}
    (hchain : chain ≠ .unreachable) {body' : Option JsonBody} {chain' : Except String Params}
    {x : PartialExtrinsic Params} (hx : buildExtrinsic body' chain' = .ok x) :
    ¬ Apart (step signerPayload (step signerPayload t (.finish body chain))
      (.prepare body' chain')) := by
  set t' := step signerPayload t (.finish body chain) with ht'
  obtain ⟨n, hn⟩ := length_of_mem hk
  have hkeys : KeysOutstanding t' := step_keysOutstanding h.keys _
  have hapart : Apart t' := (step_apart_iff h.keys h.apart _).mpr trivial
  have htokens : t'.outstanding.map Prod.fst = (t.outstanding.map Prod.fst).erase k := by
    rw [← h.apart.map_filter, ht']
    simp only [step, hrun, if_true, hargs]
  -- one token is gone, and the last one is not
  have hlength : t'.outstanding.length = n := by
    rw [← List.length_map (f := Prod.fst), htokens, List.length_erase_of_mem hk, List.length_map,
      hn, Nat.add_sub_cancel]
  have hmem : nthToken n ∈ t'.outstanding.map Prod.fst := by
    have hne : nthToken n ≠ k := by
      rintro rfl
      exact hlast (h.getLast? hn)
    rw [htokens, List.mem_erase_of_ne hne, h.mem_iff, hn]
    exact Nat.lt_succ_self n
  obtain ⟨p, hp, hpn⟩ := List.mem_map.mp hmem
  rw [step_apart_iff hkeys hapart]
  intro hfree
  have hnone := hfree (running_finish h.apart hrun hk hargs hchain) x hx
  rw [nextToken_eq hapart hkeys, hlength, ← hpn, hapart.kept p hp] at hnone
  cases hnone

end

/-- **The door keeps its clients apart as long as they finish in the reverse order of their
prepares.** In every state of such a run the outstanding tokens are distinct and each one names the
extrinsic of its own client, and a well-formed finish with an outstanding token completes that
extrinsic. The order matters: when a finish that reaches the chain takes another outstanding token
than the last one, the next prepare that is accepted is given the token of another client. -/
theorem door_keeps_clients_apart {Params : Type} (signerPayload : PartialExtrinsic Params → Bytes)
    (run : List (Request Params))
    (hlast : ∀ q ∈ trace (step signerPayload) initial run, TakesLast q.1 q.2) :
    (∀ n, let t := exec (step signerPayload) initial (run.take n)
      Apart t ∧ ∀ token x, (token, x) ∈ t.outstanding →
        ∀ body signature account, finishArgs body = .ok (token, signature, account) → ∀ chain,
          finishRequest t.door body chain =
            complete { t.door with pending := t.door.pending.erase token } x signature account
              chain) ∧
    let t := exec (step signerPayload) initial run
    t.door.running = true → ∀ body chain body' chain' x, chain ≠ .unreachable →
      ¬ TakesLast t (.finish body chain) → buildExtrinsic body' chain' = .ok x →
      ¬ Apart (exec (step signerPayload) t [.finish body chain, .prepare body' chain']) := by
  have hstacked : ∀ run : List (Request Params),
      (∀ q ∈ trace (step signerPayload) initial run, TakesLast q.1 q.2) →
      Stacked (exec (step signerPayload) initial run) := fun run h =>
    exec_invariant Stacked TakesLast (fun _ _ hs hr => step_stacked hs hr) run initial
      stacked_initial h
  constructor
  · intro n t
    have hapart : Apart t := (hstacked _ fun q hq => hlast q (mem_trace_of_take hq)).apart
    exact ⟨hapart, fun token x hx body signature account hargs chain =>
      finishRequest_of_outstanding hapart hx hargs chain⟩
  · intro t hrun body chain body' chain' x hchain hnot hx
    simp only [TakesLast] at hnot
    push Not at hnot
    obtain ⟨_, k, signature, account, hargs, hk, hne⟩ := hnot
    exact (hstacked run hlast).not_apart hrun hk hne hargs hchain hx

/-! ## A collision -/

theorem trimHex_encode (bytes : Bytes) :
    trimHex (Hex.encode bytes).toList = (Hex.encode bytes).toList := by
  rw [Hex.encode, String.toList_ofList]
  cases bytes with
  | nil => rfl
  | cons b bytes =>
      have hdigit : ∀ n < 16, Nat.digitChar n ≠ 'x' := by decide
      have hne := hdigit (b.toNat % 16) (Nat.mod_lt _ (by decide))
      rw [List.flatMap_cons, List.cons_append, List.cons_append, trimHex]
      intro rest hrest
      injection hrest with _ hrest
      injection hrest with hx _
      exact hne hx

/-- A member that a client has encoded is read back. -/
theorem hexMember_encode (bytes : Bytes) : hexMember (some (Hex.encode bytes)) = bytes := by
  have hdecode : Hex.decodeDigits (Hex.encode bytes).toList = some bytes := Hex.decode_encode bytes
  rw [hexMember, Option.getD_some, trimHex_encode, hdecode, Option.getD_some]

def prepareBody (n : UInt8) : JsonBody where
  account := some (Hex.encode (List.replicate 32 n))
  pubkey := some "0x01"
  signature := some "0x02"
  signedAtBlock := some 7

def finishBody (token : String) (n : UInt8) : JsonBody where
  token := some token
  account := some (Hex.encode (List.replicate 32 n))
  signature := some (Hex.encode (List.replicate 64 n))

/-- Client `n` prepares a registration. -/
def testPrepare (n : UInt8) : Request Nat := .prepare (some (prepareBody n)) (.ok n.toNat)

/-- Client `n` finishes the registration of `token`. -/
def testFinish (token : String) (n : UInt8) : Request Nat :=
  .finish (some (finishBody token n)) (.accepted "" "")

def testExtrinsic (n : UInt8) : PartialExtrinsic Nat :=
  ⟨⟨[1], [2], 7, 1, [100, 111, 111, 114], []⟩, List.replicate 32 n, n.toNat⟩

theorem buildExtrinsic_prepareBody (n : UInt8) :
    buildExtrinsic (some (prepareBody n)) (.ok n.toNat) = .ok (testExtrinsic n) := by
  have hpubkey : hexMember (some "0x01") = [1] := by decide +kernel
  have hsignature : hexMember (some "0x02") = [2] := by decide +kernel
  simp [buildExtrinsic, prepareBody, hexMember_encode, hpubkey, hsignature, testExtrinsic]

theorem finishArgs_finishBody (token : String) (n : UInt8) :
    finishArgs (some (finishBody token n)) =
      .ok (token, List.replicate 64 n, List.replicate 32 n) := by
  simp [finishArgs, finishBody, hexMember_encode]

theorem step_testPrepare {t : Tracked Nat} {token : String} (n : UInt8)
    (hrunning : t.door.running = true) (htoken : t.door.nextToken = token) :
    step (fun _ => []) t (testPrepare n) =
      ⟨⟨t.door.pending.insert token (testExtrinsic n), true⟩,
        t.outstanding ++ [(token, testExtrinsic n)]⟩ := by
  rw [testPrepare, step, if_pos hrunning, prepareRequest, buildExtrinsic_prepareBody]
  simp only [htoken, hrunning]

theorem step_testFinish {t : Tracked Nat} {token : String} {x : PartialExtrinsic Nat} (n : UInt8)
    (hrunning : t.door.running = true) (hpending : t.door.pending.lookup token = some x) :
    step (fun _ => []) t (testFinish token n) =
      ⟨⟨t.door.pending.erase token, true⟩, t.outstanding.filter fun p => p.1 ≠ token⟩ := by
  rw [testFinish, step, if_pos hrunning, finishRequest, finishArgs_finishBody]
  simp only [hpending, complete, hrunning]

/-- The map when clients 1 and 2 have prepared. -/
def twoPending : AList fun _ : String => PartialExtrinsic Nat :=
  (AList.insert "p0" (testExtrinsic 1) ∅).insert "p1" (testExtrinsic 2)

theorem exec_twoPrepares :
    exec (step fun _ => []) initial [testPrepare 1, testPrepare 2] =
      ⟨⟨twoPending, true⟩, [("p0", testExtrinsic 1), ("p1", testExtrinsic 2)]⟩ := by
  rw [exec_cons, step_testPrepare 1 rfl (by decide +kernel : _ = "p0"),
    exec_cons, step_testPrepare 2 rfl (by decide +kernel : _ = "p1"), exec_nil]
  rfl

/-- Clients 1 and 2 prepare, client 2 finishes, and client 3 prepares. -/
theorem door_keeps_clients_apart_threeClients :
    Apart (exec (step fun _ => []) initial
      [testPrepare 1, testPrepare 2, testFinish "p1" 2, testPrepare 3]) := by
  refine ((door_keeps_clients_apart (fun _ => [])
    [testPrepare 1, testPrepare 2, testFinish "p1" 2, testPrepare 3] ?_).1 4).1
  intro q hq
  simp only [trace, List.mem_cons, List.not_mem_nil, or_false] at hq
  rcases hq with rfl | rfl | rfl | rfl
  · trivial
  · trivial
  · show TakesLast (exec (step fun _ => []) initial [testPrepare 1, testPrepare 2]) _
    rw [exec_twoPrepares]
    intro _ token signature account hargs _
    rw [finishArgs_finishBody] at hargs
    cases hargs
    rfl
  · trivial

/-- Clients 1 and 2 prepare, client 1 finishes, and client 3 prepares: it is given the token of
client 2, whose extrinsic is lost. -/
theorem token_collision :
    let t := exec (step fun _ => []) initial
      [testPrepare 1, testPrepare 2, testFinish "p0" 1, testPrepare 3]
    t.outstanding.map (fun p => (p.1, p.2.params)) = [("p1", 2), ("p1", 3)] ∧
    (t.door.pending.lookup "p1").map (·.params) = some 3 ∧ ¬ Apart t := by
  intro t
  have ht : t = ⟨⟨(twoPending.erase "p0").insert "p1" (testExtrinsic 3), true⟩,
      [("p1", testExtrinsic 2), ("p1", testExtrinsic 3)]⟩ := by
    have hfirst : twoPending.lookup "p0" = some (testExtrinsic 1) := by
      rw [twoPending, AList.lookup_insert_ne (by decide), AList.lookup_insert]
    have hsplit := exec_append (step fun _ => []) initial [testPrepare 1, testPrepare 2]
      [testFinish "p0" 1, testPrepare 3]
    refine hsplit.trans ?_
    rw [exec_twoPrepares, exec_cons, step_testFinish 1 rfl hfirst,
      exec_cons, step_testPrepare 3 rfl (by decide +kernel : _ = "p1"), exec_nil]
    simp
  have hout : t.outstanding.map (fun p => (p.1, p.2.params)) = [("p1", 2), ("p1", 3)] := by
    rw [ht]
    rfl
  refine ⟨hout, ?_, ?_⟩
  · rw [ht, AList.lookup_insert]
    rfl
  · intro h
    have hnodup := h.nodup
    rw [ht] at hnodup
    exact absurd hnodup (by simp)

end OffchainAgentRegistry.RegisterDoor
