import ArthNeura.OffchainAgentRegistry.RegisterDoor.Http
import ArthNeura.OffchainAgentRegistry.Transactions

set_option autoImplicit false

/-! # A stranger registers through the door

`register-me` makes a key, asks the door for a challenge, signs it and posts the signature. Either
the account of the door pays and becomes the controller (`/v1/register`), or the stranger has an
account of its own, for which the door prepares the extrinsic (`/v1/prepare`). Between the challenge
and the registration anything may happen on the chain.

`register_me_registers_iff` follows both ways through hexadecimal text, the JSON members, the
challenge and the bytes of the call, down to the pallet: the registration goes through exactly if
the DID is new, the controller has room for it and can pay the deposit, the label is short enough,
and the call is dispatched after the block of the challenge, but at most 64 blocks after it. In the
block of the challenge itself the pallet does not know the hash yet.

JSON text is left to its library: a body is given by the members that are read.
-/

namespace OffchainAgentRegistry.RegisterDoor

open Frame Scale
open AgentRegistry (Did)
open Runtime (SubmitError finalizedSuccess included)

/-! ## The door -/

/-- The members of the answer to `GET /v1/register/challenge`. -/
structure ChallengeBody where
  genesis : String
  controller : String
  block : Nat
  hash : String

/-- The account in the query of a request line, empty if there is none. -/
def queryAccount (line : List Char) : List Char :=
  let q := (((line.splitOn '?')[1]?.getD []).splitOn ' ').head?.getD []
  ((q.splitOn '&').findSome? (Text.stripPrefix? "account=".toList)).getD []

/-- `GET /v1/register/challenge`, with the latest block of the chain. -/
def challengeRequest (alice genesis : Bytes32) (block : UInt32) (hash : Bytes32)
    (line : List Char) : ChallengeBody where
  genesis := Hex.encode genesis.toList
  controller :=
    let controller := queryAccount line
    if (Utf8.encode controller).length = 64 then String.ofList controller
    else Hex.encode alice.toList
  block := block.toNat
  hash := Hex.encode hash.toList

/-- The bytes of `door`. -/
def doorMetadata : Bytes := [100, 111, 111, 114]

/-- The arguments of a register request, or the error it is answered with. -/
def registerArgs (body : Option JsonBody) : Except String OffchainAgentRegistry.Submission :=
  match body with
  | none => .error "bad json"
  | some v =>
      let pubkey := hexMember v.pubkey
      let signature := hexMember v.signature
      -- `as u32` keeps the lower half of the number
      let signedAtBlock := UInt32.ofNat (v.signedAtBlock.getD 0)
      let label := (v.label.getD "").toUTF8.data.toList
      if pubkey = [] ∨ signature = [] ∨ signedAtBlock = 0 then
        .error "pubkey, signature, signed_at_block required"
      else .ok (.registerAgent pubkey signature signedAtBlock 1 doorMetadata label)

/-- The answer to a register request. -/
inductive RegisterAnswer where
  | badRequest (error : String)
  | failed (error : SubmitError)
  | submitted (did : String)
  deriving DecidableEq

section

variable {AccountId : Type} [DecidableEq AccountId] {cfg : Runtime.Config AccountId}

/-- `POST /v1/register`, on a chain that includes the transaction in state `s`. -/
def registerRequest (alice : AccountId) (body : Option JsonBody) (s : Runtime.State cfg)
    (events : List EventDetails) : RegisterAnswer :=
  match registerArgs body with
  | .error e => .badRequest e
  | .ok sub =>
      match sub.submit alice s events with
      | .error e => .failed e
      | .ok did => .submitted (Hex.encode (did.elim [] List.Vector.toList))

/-- The dynamic call of an extrinsic of `/v1/prepare`. -/
def RegisterAgentTx.dynamic (t : RegisterAgentTx) : DynamicCall :=
  ⟨"AgentRegistry", "register_agent",
    [.fromBytes t.pubkey, .fromBytes t.signature, .u128 t.signedAtBlock, .u128 t.capabilities,
      .fromBytes t.metadata, .fromBytes t.label]⟩

/-! ## The stranger -/

/-- The length of a challenge: four arrays and a block number. -/
def challengeLen : Nat := 132

/-- The signature scheme on the side of the signer. Among the challenges, a signature is good for
the one that was signed and for no other one. -/
structure MlDsa (cfg : AgentRegistry.Config AccountId) where
  SigningKey : Type
  pubkey : SigningKey → Bytes
  sign : SigningKey → Bytes → Bytes
  pubkey_ne_nil : ∀ k, pubkey k ≠ []
  pubkey_length : ∀ k, (pubkey k).length ≤ AgentRegistry.maxPubkeyLen
  sign_ne_nil : ∀ k m, sign k m ≠ []
  sign_length : ∀ k m, (sign k m).length ≤ AgentRegistry.maxSigLen
  verify_sign : ∀ k, ∃ key, cfg.newFromSlice (pubkey k) = some key ∧
    ∀ m, ∃ sig, cfg.signatureTryFrom (sign k m) = some sig ∧
      ∀ m', m.length = challengeLen → m'.length = challengeLen →
        (cfg.verify key m' sig = true ↔ m' = m)

/-- A member of the challenge, read into an array of 32 bytes. Anything else is a panic. -/
def decode32 (member : String) : Option Bytes32 :=
  (Hex.decode member).bind fun bytes =>
    if h : bytes.length = 32 then some ⟨bytes, h⟩ else none

/-- The signature of a challenge, and its block. -/
def signChallenge (lib : MlDsa cfg.registry) (k : lib.SigningKey) (ch : ChallengeBody) :
    Option (Bytes × UInt32) := do
  let g ← decode32 ch.genesis
  let c ← decode32 ch.controller
  let h ← decode32 ch.hash
  let block := UInt32.ofNat ch.block
  let did := deriveDid cfg.registry.blake2_256 (lib.pubkey k)
  return (lib.sign k (challenge g did c block h), block)

/-- The body that `register-me` posts to `/v1/register`. -/
def registerBody (lib : MlDsa cfg.registry) (k : lib.SigningKey) (label : String)
    (ch : ChallengeBody) : Option JsonBody :=
  (signChallenge lib k ch).map fun (signature, block) =>
    { pubkey := some (Hex.encode (lib.pubkey k))
      signature := some (Hex.encode signature)
      signedAtBlock := some block.toNat
      label := some label }

/-- The body that `register-me` posts to `/v1/prepare`. -/
def prepareOwnBody (lib : MlDsa cfg.registry) (k : lib.SigningKey) (label : String)
    (account : Bytes32) (ch : ChallengeBody) : Option JsonBody :=
  (signChallenge lib k ch).map fun (signature, block) =>
    { account := some (Hex.encode account.toList)
      pubkey := some (Hex.encode (lib.pubkey k))
      signature := some (Hex.encode signature)
      signedAtBlock := some block.toNat
      label := some label }

/-- The request line for the challenge of the door's own account. -/
def challengeLine : List Char := "GET /v1/register/challenge HTTP/1.1".toList

/-- The request line for the challenge of another account. -/
def accountChallengeLine (account : Bytes32) : List Char :=
  "GET /v1/register/challenge?account=".toList ++ (Hex.encode account.toList).toList
    ++ " HTTP/1.1".toList

end

/-! ## The texts -/

theorem decode32_encode (v : Bytes32) : decode32 (Hex.encode v.toList) = some v := by
  rw [decode32, Hex.decode_encode, Option.bind_some, dif_pos v.toList_length]
  exact congrArg some (List.Vector.toList_injective rfl)

/-- A digit is none of the characters that separate the parts of a request line. -/
theorem notMem_hex {c : Char} (hc : ∀ n < 16, Nat.digitChar n ≠ c) (bytes : Bytes) :
    c ∉ (Hex.encode bytes).toList := by
  intro hmem
  obtain ⟨n, hn, rfl⟩ := Hex.mem_encode hmem
  exact hc n hn rfl

theorem length_utf8_hex (bytes : Bytes) :
    (Utf8.encode (Hex.encode bytes).toList).length = 2 * bytes.length := by
  have hone : ∀ n < 16, (String.utf8EncodeChar (Nat.digitChar n)).length = 1 := by decide
  have hall : ∀ text : List Char, (∀ c ∈ text, ∃ n < 16, c = Nat.digitChar n) →
      (Utf8.encode text).length = text.length := by
    intro text
    induction text with
    | nil => exact fun _ => rfl
    | cons c text ih =>
        intro h
        obtain ⟨n, hn, rfl⟩ := h c (List.mem_cons_self ..)
        rw [Utf8.encode_cons, List.length_append, hone n hn,
          ih fun d hd => h d (List.mem_cons_of_mem _ hd), List.length_cons, Nat.add_comm]
  rw [hall _ fun _ => Hex.mem_encode, Hex.length_encode]

theorem queryAccount_eq {text : List Char} (hquestion : '?' ∉ text) (hblank : ' ' ∉ text)
    (hand : '&' ∉ text) :
    queryAccount ("GET /v1/register/challenge?account=".toList ++ text ++ " HTTP/1.1".toList)
      = text := by
  have hstart : "GET /v1/register/challenge?account=".toList
      = "GET /v1/register/challenge".toList ++ '?' :: "account=".toList := by decide +kernel
  have hend : " HTTP/1.1".toList = ' ' :: "HTTP/1.1".toList := by decide +kernel
  have hline : "GET /v1/register/challenge?account=".toList ++ text ++ " HTTP/1.1".toList
      = "GET /v1/register/challenge".toList ++ '?' ::
          (("account=".toList ++ text) ++ ' ' :: "HTTP/1.1".toList) := by
    rw [hstart, hend, List.append_assoc, List.append_assoc, List.cons_append, List.append_assoc]
  have hleft : '?' ∉ "GET /v1/register/challenge".toList := by decide +kernel
  have hright : '?' ∉ ("account=".toList ++ text) ++ ' ' :: "HTTP/1.1".toList := by
    simpa using hquestion
  have hquery : ' ' ∉ "account=".toList ++ text := by simpa using hblank
  have hparam : '&' ∉ "account=".toList ++ text := by simpa using hand
  rw [queryAccount, hline, List.splitOn_append_cons_self_of_not_mem hleft,
    List.splitOn_eq_singleton hright]
  show (((((("account=".toList ++ text) ++ ' ' :: "HTTP/1.1".toList).splitOn ' ').head?.getD
    []).splitOn '&').findSome? _).getD [] = _
  rw [List.splitOn_append_cons_self_of_not_mem hquery, List.head?_cons, Option.getD_some,
    List.splitOn_eq_singleton hparam, List.findSome?_singleton, Text.stripPrefix?_append,
    Option.getD_some]

theorem queryAccount_accountChallengeLine (account : Bytes32) :
    queryAccount (accountChallengeLine account) = (Hex.encode account.toList).toList :=
  queryAccount_eq (notMem_hex (by decide) _) (notMem_hex (by decide) _) (notMem_hex (by decide) _)

/-- Without an account in its line the challenge is for the account of the door. -/
theorem controller_challengeLine (alice genesis : Bytes32) (block : UInt32) (hash : Bytes32) :
    (challengeRequest alice genesis block hash challengeLine).controller
      = Hex.encode alice.toList := by
  have hnone : queryAccount challengeLine = [] := by decide +kernel
  simp only [challengeRequest, hnone]
  rfl

theorem controller_accountChallengeLine (alice account genesis : Bytes32) (block : UInt32)
    (hash : Bytes32) :
    (challengeRequest alice genesis block hash (accountChallengeLine account)).controller
      = Hex.encode account.toList := by
  have hlen : (Utf8.encode (Hex.encode account.toList).toList).length = 64 := by
    rw [length_utf8_hex, account.toList_length]
  simp only [challengeRequest, queryAccount_accountChallengeLine]
  rw [if_pos hlen, String.ofList_toList]

/-! ## The registration that is meant -/

variable {cfg : Runtime.Config AccountId32}

/-- The registration of a key for a controller, with the signature of the challenge of a block. -/
def registration (lib : MlDsa cfg.registry) (k : lib.SigningKey) (label : String)
    (controller genesis : Bytes32) (block : UInt32) (hash : Bytes32) :
    OffchainAgentRegistry.Submission :=
  .registerAgent (lib.pubkey k)
    (lib.sign k (challenge genesis (deriveDid cfg.registry.blake2_256 (lib.pubkey k)) controller
      block hash))
    block 1 doorMetadata label.toUTF8.data.toList

/-- A controller can register a new agent, with the challenge of an earlier block. -/
structure Admissible (s : Runtime.State cfg) (controller : AccountId32) (did : Did) (block : Nat)
    (label : String) : Prop where
  new : s.ext.registry.agentProfiles did = none
  room : (s.ext.registry.controllerAgents controller).val.length < 64
  later : block < s.ext.system.blockNumber
  window : s.ext.system.blockNumber ≤ block + 64
  deposit : (cfg.currency.reserve controller cfg.registry.registrationDeposit s.ext.ledger).isSome
  label_le : label.toUTF8.data.toList.length ≤ 64

/-- The agent of a stranger stands in the registry. -/
def Registered (s : Runtime.State cfg) (controller : AccountId32) (did : Did) (label : String) :
    Prop :=
  ∃ p, s.ext.registry.agentProfiles did = some p ∧ p.controller = controller ∧
    p.status = .active ∧ p.isVerified = true ∧ p.capabilities = 1 ∧
    p.metadata.val = doorMetadata ∧ p.label.val = label.toUTF8.data.toList

section

variable (lib : MlDsa cfg.registry) (k : lib.SigningKey) (label : String)
  (controller genesis : Bytes32) (block : UInt32) (hash : Bytes32)

theorem signChallenge_eq {alice : Bytes32} {line : List Char}
    (hcontroller : (challengeRequest alice genesis block hash line).controller
      = Hex.encode controller.toList) :
    signChallenge lib k (challengeRequest alice genesis block hash line) =
      some (lib.sign k (challenge genesis (deriveDid cfg.registry.blake2_256 (lib.pubkey k))
        controller block hash), block) := by
  have hgenesis := decode32_encode genesis
  have hhash := decode32_encode hash
  have hread := decode32_encode controller
  rw [← hcontroller] at hread
  have hblock : UInt32.ofNat block.toNat = block := UInt32.ofNat_toNat
  simp only [signChallenge, hread, Option.bind_eq_bind, Option.bind_some]
  simp only [challengeRequest, hgenesis, hhash, hblock, Option.bind_some]
  rfl

/-- The door reads the registration that the stranger has signed. -/
theorem exists_registerBody (hblock : block ≠ 0) {alice : Bytes32} {line : List Char}
    (hcontroller : (challengeRequest alice genesis block hash line).controller
      = Hex.encode controller.toList) :
    ∃ body, registerBody lib k label (challengeRequest alice genesis block hash line) = some body ∧
      registerArgs (some body) = .ok (registration lib k label controller genesis block hash) := by
  rw [registerBody, signChallenge_eq lib k controller genesis block hash hcontroller,
    Option.map_some]
  refine ⟨_, rfl, ?_⟩
  simp only [registerArgs, hexMember_encode, Option.getD_some, UInt32.ofNat_toNat]
  rw [if_neg (by simp [lib.pubkey_ne_nil, lib.sign_ne_nil, hblock])]
  rfl

/-- The extrinsic that the door prepares is the same registration. -/
theorem exists_prepareOwnBody (hblock : block ≠ 0) {alice : Bytes32} {line : List Char}
    (hcontroller : (challengeRequest alice genesis block hash line).controller
      = Hex.encode controller.toList) :
    ∃ body, prepareOwnBody lib k label controller
        (challengeRequest alice genesis block hash line) = some body ∧
      ∀ {Params : Type} (params : Params), ∃ x, buildExtrinsic (some body) (.ok params) = .ok x ∧
        x.account = controller.toList ∧
        x.tx.dynamic = (registration lib k label controller genesis block hash).tx := by
  rw [prepareOwnBody, signChallenge_eq lib k controller genesis block hash hcontroller,
    Option.map_some]
  refine ⟨_, rfl, fun params => ?_⟩
  have hpos : block.toNat ≠ 0 := fun h => hblock (UInt32.toNat_inj.mp h)
  simp only [buildExtrinsic, hexMember_encode, Option.getD_some]
  rw [if_neg (by simp [lib.pubkey_ne_nil, lib.sign_ne_nil, hpos])]
  exact ⟨_, rfl, rfl, rfl⟩

/-! ## What the pallet makes of it -/

theorem length_challenge (did : Did) :
    (challenge genesis did controller block hash).length = challengeLen := by
  show (genesis.toList ++ (did.toList ++ (controller.toList ++ (encodeU32 block.toNat
    ++ hash.toList)))).length = challengeLen
  simp only [List.length_append, List.Vector.toList_length]
  rfl

theorem registration_sized (hlabel : label.toUTF8.data.toList.length < 4294967296) :
    (registration lib k label controller genesis block hash).Sized := by
  have hpubkey := lib.pubkey_length k
  have hsignature := lib.sign_length k (challenge genesis
    (deriveDid cfg.registry.blake2_256 (lib.pubkey k)) controller block hash)
  simp only [AgentRegistry.maxPubkeyLen, AgentRegistry.maxSigLen] at hpubkey hsignature
  exact ⟨by omega, by omega, by decide, hlabel⟩

variable {lib k label controller genesis block hash}

/-- In the window, the pallet knows the hash of a block exactly in later blocks. -/
theorem blockHash_eq_iff {chain : Chain AccountId32} {system : System}
    (hshows : chain.Shows system) {n : Nat} (hle : n ≤ system.blockNumber)
    (hwindow : system.blockNumber ≤ n + 64) :
    system.blockHash n = chain.blockHash n ↔ n < system.blockNumber := by
  constructor
  · intro hhash
    by_contra hnot
    have hn : n = system.blockNumber := by omega
    -- the hash of the current block reads as zero
    rw [hn, hshows.current] at hhash
    exact chain.blockHash_ne_zero _ hhash.symm
  · intro hlt
    apply hshows.finished n hlt
    rw [blockHashCount]
    omega

/-- The challenge of the pallet is the one that was signed exactly in a later block. -/
theorem challenge_eq_signed_iff (henc : cfg.registry.encodeAccountId = encode)
    {chain : Chain AccountId32} {system : System} (hshows : chain.Shows system)
    (hle : block.toNat ≤ system.blockNumber) (hwindow : system.blockNumber ≤ block.toNat + 64)
    (did : Did) :
    AgentRegistry.challenge cfg.registry (system.blockHash 0) did ⟨controller⟩ block.toNat
        (system.blockHash block.toNat)
      = challenge (chain.blockHash 0) did controller block (chain.blockHash block.toNat) ↔
    block.toNat < system.blockNumber := by
  rw [← challenge_eq henc, hshows.genesis, ← blockHash_eq_iff hshows hle hwindow]
  constructor
  · intro heq
    have htuple := encode_injective heq
    simp only [Prod.mk.injEq, true_and] at htuple
    exact htuple
  · intro hhash
    rw [hhash]

/-- The calls that the registration is read as. -/
theorem registration_call_iff {call : AgentRegistry.Call} :
    (registration lib k label controller genesis block hash).call = some call ↔
      ∃ pubkey signature metadata labelBytes,
        lib.pubkey k = pubkey.val ∧
        lib.sign k (challenge genesis (deriveDid cfg.registry.blake2_256 (lib.pubkey k)) controller
          block hash) = signature.val ∧
        doorMetadata = metadata.val ∧ label.toUTF8.data.toList = labelBytes.val ∧
        call = .registerAgent pubkey signature block.toNat 1 metadata labelBytes := by
  simp only [registration, Submission.call, Option.bind_eq_bind, Option.bind_eq_some_iff,
    Runtime.boundedVec_eq_some]
  constructor
  · rintro ⟨pubkey, hpubkey, signature, hsignature, metadata, hmetadata, labelBytes, hlabel, ⟨⟩⟩
    exact ⟨pubkey, signature, metadata, labelBytes, hpubkey, hsignature, hmetadata, hlabel, rfl⟩
  · rintro ⟨pubkey, signature, metadata, labelBytes, hpubkey, hsignature, hmetadata, hlabel, rfl⟩
    exact ⟨pubkey, hpubkey, signature, hsignature, metadata, hmetadata, labelBytes, hlabel, rfl⟩

/-- **The pallet performs the registration of a stranger exactly if it is admissible.** -/
theorem registration_ok_iff (henc : cfg.registry.encodeAccountId = encode)
    {chain : Chain AccountId32} {s : Runtime.State cfg} (hshows : chain.Shows s.ext.system)
    {call : AgentRegistry.Call}
    (hcall : (registration lib k label controller (chain.blockHash 0) block
      (chain.blockHash block.toNat)).call = some call) :
    succeeds (call.run (.signed ⟨controller⟩)) s.ext.registryState = true ↔
      Admissible s ⟨controller⟩ (deriveDid cfg.registry.blake2_256 (lib.pubkey k)) block.toNat
        label := by
  obtain ⟨pubkey, signature, metadata, labelBytes, hpubkey, hsignature, -, hlabel, rfl⟩ :=
    registration_call_iff.mp hcall
  obtain ⟨key, hkey, hsign⟩ := lib.verify_sign k
  obtain ⟨sig, hsig, hverify⟩ := hsign (challenge (chain.blockHash 0)
    (deriveDid cfg.registry.blake2_256 (lib.pubkey k)) controller block
    (chain.blockHash block.toNat))
  have hverify := hverify (AgentRegistry.challenge cfg.registry (s.ext.system.blockHash 0)
      (deriveDid cfg.registry.blake2_256 (lib.pubkey k)) ⟨controller⟩ block.toNat
      (s.ext.system.blockHash block.toNat)) (length_challenge ..)
    ((challenge_eq henc ..).symm ▸ length_challenge ..)
  rw [hsignature] at hsig
  rw [hpubkey] at hkey hverify ⊢
  rw [succeeds_iff]
  constructor
  · rintro ⟨t, ht⟩
    obtain ⟨a, ha, hnew, hroom, hle, hreplay, key', hkey', sig', hsig', hgood, ledger, hledger,
      -⟩ := AgentRegistry.registerAgent_ok.mp ht
    cases ha
    cases hkey.symm.trans hkey'
    cases hsig.symm.trans hsig'
    have hwindow : s.ext.system.blockNumber ≤ block.toNat + 64 := by
      have hreplay : s.ext.system.blockNumber - block.toNat ≤ 64 := hreplay
      omega
    refine ⟨hnew, hroom, ?_, hwindow, Option.isSome_of_eq_some hledger, ?_⟩
    · exact (challenge_eq_signed_iff henc hshows hle hwindow _).mp (hverify.mp hgood)
    · rw [hlabel]
      exact labelBytes.property
  · intro h
    have hle := h.later.le
    have hgood := hverify.mpr ((challenge_eq_signed_iff henc hshows hle h.window _).mpr h.later)
    obtain ⟨ledger, hledger⟩ := Option.isSome_iff_exists.mp h.deposit
    have hroom : (s.ext.registry.controllerAgents ⟨controller⟩).val.length
        < AgentRegistry.maxAgentsPerController := h.room
    refine ⟨_, AgentRegistry.registerAgent_ok.mpr ⟨⟨controller⟩, rfl, h.new, h.room, hle, ?_, key,
      hkey, sig, hsig, hgood, ledger, hledger, _, dif_pos hroom, rfl⟩⟩
    exact Nat.sub_le_iff_le_add'.mpr h.window

theorem exists_registration_call (hlabel : label.toUTF8.data.toList.length ≤ 64) :
    ∃ call, (registration lib k label controller genesis block hash).call = some call :=
  ⟨_, registration_call_iff.mpr ⟨⟨_, lib.pubkey_length k⟩, ⟨_, lib.sign_length k _⟩,
    ⟨doorMetadata, by decide⟩, ⟨_, hlabel⟩, rfl, rfl, rfl, rfl, rfl⟩⟩

theorem registered_of_ok {call : AgentRegistry.Call}
    (hcall : (registration lib k label controller genesis block hash).call = some call)
    {s : Runtime.State cfg} {t : AgentRegistry.State cfg.registry}
    (ht : (call.run (.signed ⟨controller⟩)).run s.ext.registryState = .ok () t) :
    Registered (s.putExt (s.ext.putRegistry t)) ⟨controller⟩
      (deriveDid cfg.registry.blake2_256 (lib.pubkey k)) label := by
  obtain ⟨pubkey, signature, metadata, labelBytes, hpubkey, -, hmetadata, hlabel, rfl⟩ :=
    registration_call_iff.mp hcall
  obtain ⟨a, ha, -, -, -, -, key, -, sig, -, -, ledger, -, dids, -, rfl⟩ :=
    AgentRegistry.registerAgent_ok.mp ht
  cases ha
  rw [hpubkey]
  exact ⟨_, StorageMap.insert_self .., rfl, rfl, rfl, rfl, hmetadata.symm, hlabel.symm⟩

variable (lib k label controller block)

/-- What becomes of the transaction of a registration. -/
theorem registration_outcome (henc : cfg.registry.encodeAccountId = encode)
    (hlen : label.toUTF8.data.toList.length < 4294967296)
    {chain : Chain AccountId32} {s : Runtime.State cfg} (hshows : chain.Shows s.ext.system) :
    let did := deriveDid cfg.registry.blake2_256 (lib.pubkey k)
    let tx := (registration lib k label controller (chain.blockHash 0) block
      (chain.blockHash block.toNat)).tx
    (Admissible s ⟨controller⟩ did block.toNat label →
      finalizedSuccess s ⟨controller⟩ tx = true ∧
        Registered (included s ⟨controller⟩ tx) ⟨controller⟩ did label) ∧
    (¬ Admissible s ⟨controller⟩ did block.toNat label →
      finalizedSuccess s ⟨controller⟩ tx = false ∧ included s ⟨controller⟩ tx = s) := by
  intro did tx
  have hsize := registration_sized lib k label controller (chain.blockHash 0) block
    (chain.blockHash block.toNat) hlen
  cases hcall : (registration lib k label controller (chain.blockHash 0) block
      (chain.blockHash block.toNat)).call with
  | none =>
      refine ⟨fun h => ?_, fun _ => ?_⟩
      · obtain ⟨call, hsome⟩ := exists_registration_call h.label_le
        rw [hsome] at hcall
        cases hcall
      · rw [finalizedSuccess, included, tx_decodes hsize, hcall]
        exact ⟨rfl, rfl⟩
  | some call =>
      have hok := registration_ok_iff henc hshows hcall
      rw [finalizedSuccess_of_call hsize hcall, included_of_call hsize hcall, Runtime.step]
      refine ⟨fun h => ?_, fun h => ?_⟩
      · obtain ⟨t, ht⟩ := succeeds_iff.mp (hok.mpr h)
        rw [dispatch_of_ok ht]
        exact ⟨hok.mpr h, registered_of_ok hcall ht⟩
      · have hfails : succeeds (call.run (.signed ⟨controller⟩)) s.ext.registryState = false :=
          Bool.eq_false_iff.mpr fun hsucceeds => h (hok.mp hsucceeds)
        rw [dispatch_of_not_succeeds hfails]
        exact ⟨hfails, rfl⟩

variable {lib k label controller block}

/-- The answer of the door to the registration. -/
theorem submit_registration (henc : cfg.registry.encodeAccountId = encode)
    (hlen : label.toUTF8.data.toList.length < 4294967296)
    {chain : Chain AccountId32} {s : Runtime.State cfg} (hshows : chain.Shows s.ext.system)
    {events : List EventDetails} {sub : OffchainAgentRegistry.Submission}
    (hsub : sub = registration lib k label controller (chain.blockHash 0) block
      (chain.blockHash block.toNat))
    (hev : Delivered s (included s ⟨controller⟩ sub.tx) events)
    (h : Admissible s ⟨controller⟩ (deriveDid cfg.registry.blake2_256 (lib.pubkey k)) block.toNat
      label) :
    sub.submit ⟨controller⟩ s events
      = .ok (some (deriveDid cfg.registry.blake2_256 (lib.pubkey k))) := by
  subst hsub
  have hsize := registration_sized lib k label controller (chain.blockHash 0) block
    (chain.blockHash block.toNat) hlen
  obtain ⟨call, hcall⟩ := exists_registration_call h.label_le
  rw [included_of_call hsize hcall] at hev
  rw [submit_of_call hsize hcall hev, if_pos ((registration_ok_iff henc hshows hcall).mpr h),
    ← result_eq_registeredDid hcall]
  rfl

end

/-- **A stranger is registered through the door exactly if the registration is admissible**,
whatever has happened on the chain since the challenge, both if the door pays and if the stranger
has an account of its own; for labels of less than 2³² bytes, whose length can be encoded. -/
theorem register_me_registers_iff (henc : cfg.registry.encodeAccountId = encode)
    (lib : MlDsa cfg.registry) (k : lib.SigningKey) (label : String)
    (hlen : label.toUTF8.data.toList.length < 4294967296) (chain : Chain AccountId32)
    (alice account : Bytes32) (block : UInt32) (hblock : block ≠ 0) (s : Runtime.State cfg)
    (hshows : chain.Shows s.ext.system) :
    let did := deriveDid cfg.registry.blake2_256 (lib.pubkey k)
    let ch := challengeRequest alice (chain.blockHash 0) block (chain.blockHash block.toNat)
    (∃ body sub, registerBody lib k label (ch challengeLine) = some body ∧
      registerArgs (some body) = .ok sub ∧
      (Admissible s ⟨alice⟩ did block.toNat label →
        Registered (included s ⟨alice⟩ sub.tx) ⟨alice⟩ did label ∧
        ∀ events, Delivered s (included s ⟨alice⟩ sub.tx) events →
          registerRequest ⟨alice⟩ (some body) s events = .submitted (Hex.encode did.toList)) ∧
      (¬ Admissible s ⟨alice⟩ did block.toNat label →
        included s ⟨alice⟩ sub.tx = s ∧
        ∀ events, registerRequest ⟨alice⟩ (some body) s events = .failed .subxt)) ∧
    (∃ body, prepareOwnBody lib k label account (ch (accountChallengeLine account)) = some body ∧
      ∀ {Params : Type} (params : Params), ∃ x, buildExtrinsic (some body) (.ok params) = .ok x ∧
        x.account = account.toList ∧
        (Admissible s ⟨account⟩ did block.toNat label →
          Registered (included s ⟨account⟩ x.tx.dynamic) ⟨account⟩ did label) ∧
        (¬ Admissible s ⟨account⟩ did block.toNat label →
          included s ⟨account⟩ x.tx.dynamic = s)) := by
  intro did ch
  constructor
  · obtain ⟨body, hbody, hargs⟩ := exists_registerBody lib k label alice (chain.blockHash 0) block
      (chain.blockHash block.toNat) hblock (controller_challengeLine alice _ block _)
    obtain ⟨hyes, hno⟩ := registration_outcome lib k label alice block henc hlen hshows
    refine ⟨body, _, hbody, hargs, fun h => ⟨(hyes h).2, fun events hev => ?_⟩,
      fun h => ⟨(hno h).2, fun events => ?_⟩⟩
    · have hsubmit := submit_registration henc hlen hshows rfl hev h
      simp only [registerRequest, hargs, hsubmit]
      rfl
    · simp only [registerRequest, hargs, OffchainAgentRegistry.Submission.submit, (hno h).1]
      rfl
  · obtain ⟨body, hbody, hextrinsic⟩ := exists_prepareOwnBody lib k label account
      (chain.blockHash 0) block (chain.blockHash block.toNat) hblock
      (controller_accountChallengeLine alice account _ block _)
    obtain ⟨hyes, hno⟩ := registration_outcome lib k label account block henc hlen hshows
    refine ⟨body, hbody, fun params => ?_⟩
    obtain ⟨x, hx, haccount, htx⟩ := hextrinsic params
    rw [← htx] at hyes hno
    exact ⟨x, hx, haccount, fun h => (hyes h).2, fun h => (hno h).2⟩

/-! ## A run -/

/-- The runtime with the signature scheme of `signConfig`. -/
def signRuntime : Runtime.Config AccountId32 where
  registry := signConfig
  disputeWindow := 14400
  maxCommitmentLifetime := 100800
  providerGuiltySlash := 5
  falseDisputeSlash := 2
  rsMerkle := Merkle.layered Bytes32

/-- A challenge is its own signature. -/
def testMlDsa : MlDsa signRuntime.registry where
  SigningKey := Unit
  pubkey _ := [1]
  sign _ m := if m.length = challengeLen then m else [0]
  pubkey_ne_nil _ := by decide
  pubkey_length _ := by decide
  sign_ne_nil _ m := by
    by_cases h : m.length = challengeLen
    · rw [if_pos h]
      rintro rfl
      cases h
    · rw [if_neg h]
      decide
  sign_length _ m := by
    by_cases h : m.length = challengeLen
    · rw [if_pos h, h]
      decide
    · rw [if_neg h]
      decide
  verify_sign _ := by
    refine ⟨[1], rfl, fun m => ⟨_, rfl, fun m' hm _ => ?_⟩⟩
    rw [if_pos hm]
    exact decide_eq_true_iff

/-- The state of the runtime on `testChain` at block `n`. -/
def doorState (n : Nat) : Runtime.State signRuntime :=
  let s := Runtime.genesis signRuntime none (fun _ => Bytes32.ofNat 1)
    (fun _ => ⟨1000 * AgentRegistry.unit, 0⟩)
  s.putExt { s.ext with system := (testState n).system }

/-- The challenge is for block 2 and the call in block 3. -/
theorem register_me_registers_iff_test :
    ∃ body sub, registerBody testMlDsa () "me"
        (challengeRequest testAccount.bytes (Bytes32.ofNat 1) 2 (Bytes32.ofNat 1) challengeLine)
          = some body ∧
      registerArgs (some body) = .ok sub ∧
      Registered (included (doorState 3) testAccount sub.tx) testAccount
        (deriveDid tailHash [1]) "me" := by
  have hshows : testChain.Shows (doorState 3).ext.system :=
    ⟨rfl, fun n hn _ => if_neg hn.ne, rfl, by decide⟩
  obtain ⟨⟨body, sub, hbody, hargs, hyes, -⟩, -⟩ := @register_me_registers_iff signRuntime
    rfl testMlDsa () "me" (by decide) testChain testAccount.bytes testAccount.bytes 2 (by decide)
    (doorState 3) hshows
  refine ⟨body, sub, hbody, hargs, (hyes ?_).1⟩
  exact ⟨rfl, by decide, by decide, by decide, by decide +kernel, by decide⟩

end OffchainAgentRegistry.RegisterDoor
