import ArthNeura.OffchainVectorDb.World
import ArthNeura.Runtime.Metadata

set_option autoImplicit false

/-! # The transactions of the client

Each function of the client composes a dynamic call, waits until it is finalized, and looks for the
event of the call by name; `register_commitment` reads the identifier out of the event's fields.
No compiler checks any of this against the pallet: the names, the order of the arguments, their
types, the name of the event and the position of the identifier in it.

`vectorDb_client_exact` is that check, for all seven functions. The chain reads the call that the
function means, with all its arguments, unless a vector exceeds the bound of the pallet; the client
reports success exactly if the call goes through; and the event is never missed, whatever other
events stand in the block.
-/

namespace OffchainVectorDb

open Frame Scale
open VectorDb (Did CommitmentId MerkleRoot ChunkIndex)
open Runtime (pallets boundedVec now SubmitError findEvent finalizedSuccess included)

/-! ## The dynamic calls -/

def palletName : String := "VectorDb"

def registerCommitmentTx (providerDid consumerDid : Did) (root : MerkleRoot) (totalChunks : UInt64)
    (metadata : Bytes) (expiresInBlocks : UInt32) (price : BitVec 128) : DynamicCall :=
  ⟨palletName, "register_commitment",
    [.fromBytes providerDid.toList, .fromBytes consumerDid.toList, .fromBytes root.toList,
      .u128 totalChunks.toNat, .fromBytes metadata, .u128 expiresInBlocks.toNat,
      .u128 price.toNat]⟩

def acknowledgeCommitmentTx (commitmentId : CommitmentId) (consumerDid : Did) : DynamicCall :=
  ⟨palletName, "acknowledge_commitment",
    [.fromBytes commitmentId.toList, .fromBytes consumerDid.toList]⟩

def closeCommitmentTx (commitmentId : CommitmentId) (consumerDid : Did)
    (finalStreamHash : MerkleRoot) (chunkCount : UInt64) : DynamicCall :=
  ⟨palletName, "close_commitment",
    [.fromBytes commitmentId.toList, .fromBytes consumerDid.toList,
      .fromBytes finalStreamHash.toList, .u128 chunkCount.toNat]⟩

def raiseDisputeTx (commitmentId : CommitmentId) (consumerDid : Did)
    (disputedChunkIndex : UInt64) (receivedChunkHash : Bytes32) (chunkCount : UInt64) :
    DynamicCall :=
  ⟨palletName, "raise_dispute",
    [.fromBytes commitmentId.toList, .fromBytes consumerDid.toList,
      .u128 disputedChunkIndex.toNat, .fromBytes receivedChunkHash.toList,
      .u128 chunkCount.toNat]⟩

def counterDisputeTx (commitmentId : CommitmentId) (providerDid : Did) (targetChunk : Bytes)
    (proofHashes : List Bytes32) : DynamicCall :=
  ⟨palletName, "counter_dispute",
    [.fromBytes commitmentId.toList, .fromBytes providerDid.toList, .fromBytes targetChunk,
      .unnamed (proofHashes.map fun h => .fromBytes h.toList)]⟩

def finalizeDisputeTx (commitmentId : CommitmentId) : DynamicCall :=
  ⟨palletName, "finalize_dispute", [.fromBytes commitmentId.toList]⟩

def expireCommitmentTx (commitmentId : CommitmentId) : DynamicCall :=
  ⟨palletName, "expire_commitment", [.fromBytes commitmentId.toList]⟩

/-- What one of the functions puts into its transaction. -/
inductive Submission where
  | registerCommitment (providerDid consumerDid : Did) (root : MerkleRoot) (totalChunks : UInt64)
      (metadata : Bytes) (expiresInBlocks : UInt32) (price : BitVec 128)
  | acknowledgeCommitment (commitmentId : CommitmentId) (consumerDid : Did)
  | closeCommitment (commitmentId : CommitmentId) (consumerDid : Did)
      (finalStreamHash : MerkleRoot) (chunkCount : UInt64)
  | raiseDispute (commitmentId : CommitmentId) (consumerDid : Did) (disputedChunkIndex : UInt64)
      (receivedChunkHash : Bytes32) (chunkCount : UInt64)
  | counterDispute (commitmentId : CommitmentId) (providerDid : Did) (targetChunk : Bytes)
      (proofHashes : List Bytes32)
  | finalizeDispute (commitmentId : CommitmentId)
  | expireCommitment (commitmentId : CommitmentId)

namespace Submission

def tx : Submission → DynamicCall
  | .registerCommitment providerDid consumerDid root totalChunks metadata expiresInBlocks price =>
      registerCommitmentTx providerDid consumerDid root totalChunks metadata expiresInBlocks price
  | .acknowledgeCommitment commitmentId consumerDid =>
      acknowledgeCommitmentTx commitmentId consumerDid
  | .closeCommitment commitmentId consumerDid finalStreamHash chunkCount =>
      closeCommitmentTx commitmentId consumerDid finalStreamHash chunkCount
  | .raiseDispute commitmentId consumerDid disputedChunkIndex receivedChunkHash chunkCount =>
      raiseDisputeTx commitmentId consumerDid disputedChunkIndex receivedChunkHash chunkCount
  | .counterDispute commitmentId providerDid targetChunk proofHashes =>
      counterDisputeTx commitmentId providerDid targetChunk proofHashes
  | .finalizeDispute commitmentId => finalizeDisputeTx commitmentId
  | .expireCommitment commitmentId => expireCommitmentTx commitmentId

/-- The event that the function waits for. -/
def event : Submission → String
  | .registerCommitment .. => "CommitmentRegistered"
  | .acknowledgeCommitment .. => "CommitmentAcknowledged"
  | .closeCommitment .. => "CommitmentSettled"
  | .raiseDispute .. => "DisputeRaised"
  | .counterDispute .. => "DisputeCountered"
  | .finalizeDispute _ => "DisputeFinalized"
  | .expireCommitment _ => "CommitmentExpired"

end Submission

/-! ## Reading the events -/

/-- A primitive as a number. -/
def asU128 : Primitive → Option Nat
  | .u128 n => some n
  | .bool _ => none

def decodeFixedBytesField (composite : Composite) (index : Nat) : Option Bytes32 := do
  let value ← match composite with
    | .unnamed vals => vals[index]?
    | .named vals => (vals[index]?).map fun (_, v) => v
  match value with
  | .composite (.unnamed bytes) =>
      if bytes.length ≠ 32 then none
      else
        let out ← bytes.mapM fun
          | .primitive p => (asU128 p).map UInt8.ofNat
          | _ => none
        if h : out.length = 32 then some ⟨out, h⟩ else none
  | _ => none

namespace Submission

/-- What a function takes from its event. -/
def extract (e : EventDetails) : Submission → Except SubmitError (Option CommitmentId)
  | .registerCommitment .. =>
      (e.fieldValues.bind fun fields => decodeFixedBytesField fields 0).elim
        (.error .eventMissing) fun id => .ok (some id)
  | _ => .ok none

/-- What a function makes of the events of its transaction. -/
def read (sub : Submission) (events : List EventDetails) :
    Except SubmitError (Option CommitmentId) :=
  match findEvent events palletName sub.event with
  | none => .error .eventMissing
  | some e => sub.extract e

/-- One of the functions, on a chain that includes its transaction in state `s` and answers with
`events`. -/
def submit {AccountId : Type} [DecidableEq AccountId] {cfg : Runtime.Config AccountId}
    (sub : Submission) (signer : AccountId) (s : Runtime.State cfg) (events : List EventDetails) :
    Except SubmitError (Option CommitmentId) :=
  if finalizedSuccess s signer sub.tx then sub.read events else .error .subxt

end Submission

/-! ## What the chain reads -/

namespace Submission

/-- The call that a function means. -/
def call : Submission → Option VectorDb.Call
  | .registerCommitment providerDid consumerDid root totalChunks metadata expiresInBlocks price =>
      (boundedVec _ metadata).map fun metadata =>
        .registerCommitment providerDid consumerDid root totalChunks metadata
          expiresInBlocks.toNat price.toNat
  | .acknowledgeCommitment commitmentId consumerDid =>
      some (.acknowledgeCommitment commitmentId consumerDid)
  | .closeCommitment commitmentId consumerDid finalStreamHash chunkCount =>
      some (.closeCommitment commitmentId consumerDid finalStreamHash chunkCount)
  | .raiseDispute commitmentId consumerDid disputedChunkIndex receivedChunkHash chunkCount =>
      some (.raiseDispute commitmentId consumerDid disputedChunkIndex receivedChunkHash chunkCount)
  | .counterDispute commitmentId providerDid targetChunk proofHashes =>
      (boundedVec _ targetChunk).bind fun targetChunk =>
        (boundedVec _ proofHashes).map fun proofHashes =>
          .counterDispute commitmentId providerDid targetChunk proofHashes
  | .finalizeDispute commitmentId => some (.finalizeDispute commitmentId)
  | .expireCommitment commitmentId => some (.expireCommitment commitmentId)

/-- The lengths of the vectors fit into their encoding. -/
def Sized : Submission → Prop
  | .registerCommitment _ _ _ _ metadata _ _ => metadata.length < 4294967296
  | .counterDispute _ _ targetChunk proofHashes =>
      targetChunk.length < 4294967296 ∧ proofHashes.length < 4294967296
  | _ => True

end Submission

/-- A call of `pallet-vector-db` that is composed from the values of its arguments. -/
theorem bind_decodeCall (c : CallType Runtime.Call) (hc : c ∈ Runtime.vectorDbPallet.calls)
    (a : c.Args) (ha : c.fields.codec.Valid a) :
    (encodeCall pallets ⟨palletName, c.name, c.fields.values a⟩).bind (decodeCall pallets)
      = c.call a :=
  encodeCall_bind_decodeCall (p := Runtime.vectorDbPallet) Runtime.pallets_wellFormed
    (List.mem_cons_of_mem _ (List.mem_singleton_self _)) hc ha

open Runtime in
theorem tx_decodes {sub : Submission} (h : sub.Sized) :
    (encodeCall pallets sub.tx).bind (decodeCall pallets) = sub.call.map .vectorDb := by
  cases sub with
  | registerCommitment provider consumer root total metadata expires price =>
      refine (bind_decodeCall registerCommitmentType (by simp [vectorDbPallet])
        (provider, consumer, root, total, metadata, expires.toNat, price.toNat) ?_).trans ?_
      · exact ⟨valid_bytes32 provider, valid_bytes32 consumer, valid_bytes32 root,
          Codec.valid_u64 total, valid_byteVec h, expires.toNat_lt, price.isLt⟩
      · simp only [registerCommitmentType, Submission.call]
        cases boundedVec VectorDb.maxMetadataLen metadata <;> rfl
  | acknowledgeCommitment id consumer =>
      exact bind_decodeCall acknowledgeCommitmentType (by simp [vectorDbPallet])
        (id, consumer) ⟨valid_bytes32 id, valid_bytes32 consumer⟩
  | closeCommitment id consumer hash count =>
      exact bind_decodeCall closeCommitmentType (by simp [vectorDbPallet])
        (id, consumer, hash, count)
        ⟨valid_bytes32 id, valid_bytes32 consumer, valid_bytes32 hash, Codec.valid_u64 _⟩
  | raiseDispute id consumer index hash count =>
      exact bind_decodeCall raiseDisputeType (by simp [vectorDbPallet])
        (id, consumer, index, hash, count)
        ⟨valid_bytes32 id, valid_bytes32 consumer, Codec.valid_u64 _, valid_bytes32 hash,
          Codec.valid_u64 _⟩
  | counterDispute id provider chunk proof =>
      refine (bind_decodeCall counterDisputeType (by simp [vectorDbPallet])
        (id, provider, chunk, proof) ?_).trans ?_
      · exact ⟨valid_bytes32 id, valid_bytes32 provider, valid_byteVec h.1, valid_bytes32Vec h.2⟩
      · simp only [counterDisputeType, Submission.call]
        cases boundedVec VectorDb.maxChunkLen chunk with
        | none => rfl
        | some chunk => cases boundedVec VectorDb.maxProofDepth proof <;> rfl
  | finalizeDispute id =>
      exact bind_decodeCall finalizeDisputeType (by simp [vectorDbPallet])
        id (valid_bytes32 id)
  | expireCommitment id =>
      exact bind_decodeCall expireCommitmentType (by simp [vectorDbPallet])
        id (valid_bytes32 id)

/-! ## What the client reads -/

theorem mapM_asU128 : ∀ bs : Bytes, (bs.map fun b => Value.u128 b.toNat).mapM (fun
      | .primitive p => (asU128 p).map UInt8.ofNat
      | _ => none) = some bs
  | [] => rfl
  | b :: bs => by
      rw [List.map_cons, List.mapM_cons, mapM_asU128 bs]
      exact congrArg (fun b => some (b :: bs)) UInt8.ofNat_toNat

/-- The bytes of a field are read back. -/
theorem decodeFixedBytesField_named (name : String) (v : Bytes32) (fields : List (String × Value)) :
    decodeFixedBytesField (.named ((name, Runtime.bytes32.value v) :: fields)) 0 = some v := by
  have hlen : (v.toList.map fun b => Value.u128 b.toNat).length = 32 := by
    rw [List.length_map, v.toList_length]
  have hvalue : Runtime.bytes32.value v
      = .composite (.unnamed (v.toList.map fun b => Value.u128 b.toNat)) := rfl
  simp only [decodeFixedBytesField, hvalue, List.getElem?_cons_zero, Option.map_some]
  rw [Option.bind_eq_bind, Option.bind_some]
  simp only [hlen, mapM_asU128]
  rw [if_neg (by decide), Option.bind_eq_bind, Option.bind_some, dif_pos v.toList_length]
  exact congrArg some (List.Vector.toList_injective rfl)

/-- The identifier is the first field of `CommitmentRegistered`. -/
theorem commitmentId_of_event {id : CommitmentId} {provider consumer : Did} {root : MerkleRoot}
    {total : UInt64} {expiresAt : Nat} {metadata : BoundedVec UInt8 VectorDb.maxMetadataLen}
    (h : expiresAt ≤ u32Max) :
    ((Runtime.eventDetails (.commitmentRegistered id provider consumer root total expiresAt
      metadata)).fieldValues.bind fun fields => decodeFixedBytesField fields 0) = some id := by
  rw [Runtime.eventDetails, Runtime.fieldValues_vectorDbEvent, Option.bind_some]
  · exact decodeFixedBytesField_named "commitment_id" id _
  · exact ⟨Runtime.valid_bytes32 id, Runtime.valid_bytes32 provider,
      Runtime.valid_bytes32 consumer, Runtime.valid_bytes32 root, Codec.valid_u64 total,
      Nat.lt_succ_of_le h, Runtime.valid_boundedVec (by decide) metadata⟩

section

variable {AccountId : Type} [DecidableEq AccountId] {cfg : Runtime.Config AccountId}

/-- The events of a block that holds a call from `s` to `s'`: those of `pallet-vector-db` in their
order, between any others. -/
def Delivered (s s' : Runtime.State cfg) (events : List EventDetails) : Prop :=
  events.filter (fun e => e.pallet = palletName) = (deposited s s').map Runtime.eventDetails

/-- What a successful function returns. -/
def Submission.reply (s : Runtime.State cfg) : Submission → Option CommitmentId
  | .registerCommitment providerDid consumerDid root _ _ _ _ =>
      some (cfg.registry.blake2_256
        (VectorDb.commitmentPreimage providerDid consumerDid root (now s)))
  | _ => none

/-- A call that goes through deposits the event that the function waits for, and no other one. -/
theorem deposited_of_ok {sub : Submission} {call : VectorDb.Call} (hcall : sub.call = some call)
    {origin : Origin AccountId} {s s' : Runtime.State cfg}
    (h : (call.run cfg.vectorDb origin).run s = .ok () s') :
    ∃ e, deposited s s' = [e] ∧ (Runtime.eventDetails e).variant = sub.event ∧
      sub.extract (Runtime.eventDetails e) = .ok (sub.reply s) ∧
      registeredId [e] = sub.reply s := by
  cases sub with
  | registerCommitment provider consumer root total metadata expires price =>
      obtain ⟨metadata, -, rfl⟩ := Option.map_eq_some_iff.mp hcall
      obtain ⟨-, -, -, -, -, -, -, -, -, -, rfl⟩ := VectorDb.registerCommitment_ok.mp h
      refine ⟨_, deposited_of_append rfl, rfl, ?_, rfl⟩
      rw [Submission.extract, commitmentId_of_event (satAdd_le ..)]
      rfl
  | acknowledgeCommitment id consumer =>
      obtain rfl := Option.some.inj hcall
      obtain ⟨-, -, c, hc, -, -, -, -, -, -, ext, -, rfl⟩ :=
        VectorDb.acknowledgeCommitment_ok.mp h
      exact ⟨_, deposited_of_append rfl, rfl, rfl, rfl⟩
  | closeCommitment id consumer hash count =>
      obtain rfl := Option.some.inj hcall
      obtain ⟨-, -, c, hc, -, -, -, -, -, ext, -, rfl⟩ := VectorDb.closeCommitment_ok.mp h
      exact ⟨_, deposited_of_append rfl, rfl, rfl, rfl⟩
  | raiseDispute id consumer index hash count =>
      obtain rfl := Option.some.inj hcall
      obtain ⟨-, -, c, hc, -, -, -, -, -, -, rfl⟩ := (VectorDb.raiseDispute_ok count).mp h
      exact ⟨_, deposited_of_append rfl, rfl, rfl, rfl⟩
  | counterDispute id provider chunk proof =>
      obtain ⟨chunk, -, hcall⟩ := Option.bind_eq_some_iff.mp hcall
      obtain ⟨proof, -, rfl⟩ := Option.map_eq_some_iff.mp hcall
      obtain ⟨-, -, c, hc, -, -, -, d, hd, -, -, -, ext, -, rfl⟩ :=
        VectorDb.counterDispute_ok.mp h
      exact ⟨_, deposited_of_append rfl, rfl, rfl, rfl⟩
  | finalizeDispute id =>
      obtain rfl := Option.some.inj hcall
      obtain ⟨-, -, c, hc, -, d, hd, -, ext, -, rfl⟩ := VectorDb.finalizeDispute_ok.mp h
      exact ⟨_, deposited_of_append rfl, rfl, rfl, rfl⟩
  | expireCommitment id =>
      obtain rfl := Option.some.inj hcall
      obtain ⟨-, -, c, hc, -, -, rfl⟩ := VectorDb.expireCommitment_ok.mp h
      exact ⟨_, deposited_of_append rfl, rfl, rfl, rfl⟩

/-- The event of a call is found between the events of other pallets. -/
theorem read_of_delivered {sub : Submission} {s s' : Runtime.State cfg} {events : List EventDetails}
    (hev : Delivered s s' events) {e : VectorDb.Event} (hdep : deposited s s' = [e])
    (hname : (Runtime.eventDetails e).variant = sub.event) :
    sub.read events = sub.extract (Runtime.eventDetails e) := by
  have hfind : findEvent events palletName sub.event = some (Runtime.eventDetails e) := by
    rw [Runtime.findEvent_eq, hev, hdep]
    simp [hname]
  rw [Submission.read, hfind]

theorem submit_of_call {sub : Submission} (hsize : sub.Sized) {call : VectorDb.Call}
    (hcall : sub.call = some call) {signer : AccountId} {s : Runtime.State cfg}
    {events : List EventDetails}
    (hev : Delivered s (Runtime.step s (.call (.signed signer) (.vectorDb call))) events) :
    sub.submit signer s events =
      if succeeds (call.run cfg.vectorDb (.signed signer)) s then .ok (sub.reply s)
      else .error .subxt := by
  rw [Submission.submit, finalizedSuccess, tx_decodes hsize, hcall, Option.map_some]
  by_cases hok : succeeds (call.run cfg.vectorDb (.signed signer)) s = true
  · obtain ⟨s', hs'⟩ := succeeds_iff.mp hok
    obtain ⟨e, hdep, hname, hreply, -⟩ := deposited_of_ok hcall hs'
    have hstep : Runtime.step s (.call (.signed signer) (.vectorDb call)) = s' :=
      dispatch_of_ok hs'
    rw [if_pos hok, ← hreply, ← read_of_delivered (hstep ▸ hev) hdep hname]
    exact if_pos hok
  · rw [if_neg hok]
    exact if_neg hok

/-- What the transaction does to the chain. -/
theorem included_tx {sub : Submission} (hsize : sub.Sized) (signer : AccountId)
    (s : Runtime.State cfg) :
    included s signer sub.tx = sub.call.elim s fun call =>
      Runtime.step s (.call (.signed signer) (.vectorDb call)) := by
  rw [included, tx_decodes hsize]
  cases sub.call <;> rfl

/-- **A function of the client submits the call it means, and reports success exactly if the pallet
has performed it**: in every state of the chain, for all arguments with vectors of less than 2³²
entries and whatever other events stand in the block. The transaction is read as that call, or not
at all if a vector exceeds its bound, and its inclusion is the step of that call.
`register_commitment` returns the identifier under which the commitment was registered. -/
theorem vectorDb_client_exact (sub : Submission) (hsize : sub.Sized) (signer : AccountId)
    (s : Runtime.State cfg) (events : List EventDetails)
    (hev : ∀ call, sub.call = some call →
      Delivered s (Runtime.step s (.call (.signed signer) (.vectorDb call))) events) :
    (encodeCall pallets sub.tx).bind (decodeCall pallets) = sub.call.map .vectorDb ∧
    (included s signer sub.tx = sub.call.elim s fun call =>
      Runtime.step s (.call (.signed signer) (.vectorDb call))) ∧
    sub.submit signer s events =
      match sub.call with
      | none => .error .subxt
      | some call =>
          if succeeds (call.run cfg.vectorDb (.signed signer)) s then .ok (sub.reply s)
          else .error .subxt := by
  refine ⟨tx_decodes hsize, included_tx hsize signer s, ?_⟩
  cases hcall : sub.call with
  | none =>
      rw [Submission.submit, finalizedSuccess, tx_decodes hsize, hcall, Option.map_none]
      rfl
  | some call => exact submit_of_call hsize hcall (hev call hcall)

/-- The identifier that a registration goes on with in `World` is the one that the client reads. -/
theorem World.outcome_eq_submit {signers : Nat → AccountId} {w : World cfg} {r : Nat} {p : Prepared}
    (hp : w.client.phase r = .staged p) {sub : Submission} (hsize : sub.Sized)
    (hcall : sub.call = some p.tx) {events : List EventDetails}
    (hev : Delivered w.chain (Runtime.step w.chain (World.transaction signers r p)) events) :
    World.outcome signers w r .heard
      = (sub.submit (signers r) w.chain events).toOption.join := by
  rw [submit_of_call hsize hcall hev]
  simp only [World.outcome, hp]
  rcases dispatch_cases (p.tx.run cfg.vectorDb (.signed (signers r))) w.chain with
    ⟨s', hs', hstep⟩ | ⟨hfail, hstep⟩
  · obtain ⟨e, hdep, -, -, hid⟩ := deposited_of_ok hcall hs'
    have hstep' : Runtime.step w.chain (World.transaction signers r p) = s' := hstep
    rw [if_pos (succeeds_iff.mpr ⟨s', hs'⟩), hstep', hdep, hid]
    rfl
  · have hstep' : Runtime.step w.chain (World.transaction signers r p) = w.chain := hstep
    rw [hfail, hstep', deposited_of_append (List.append_nil _).symm]
    rfl

end

theorem eventDetails_pallet (e : VectorDb.Event) :
    (Runtime.eventDetails e).pallet = palletName := by
  cases e <;> rfl

/-- The events of the call behind one of another pallet. -/
theorem delivered_cons {AccountId : Type} [DecidableEq AccountId] {cfg : Runtime.Config AccountId}
    {s s' : Runtime.State cfg} {other : EventDetails} (h : other.pallet ≠ palletName) :
    Delivered s s' (other :: (deposited s s').map Runtime.eventDetails) := by
  rw [Delivered, List.filter_cons_of_neg (by simpa using h), List.filter_eq_self]
  intro e he
  obtain ⟨e, -, rfl⟩ := List.mem_map.mp he
  exact decide_eq_true (eventDetails_pallet e)

/-- In block 1 of `dealRun`, agent 1 registers the commitment through the client. -/
def dealSubmission : Submission :=
  .registerCommitment (AgentRegistry.keyDid 1) (AgentRegistry.keyDid 2) (Bytes32.ofNat 5) 3 [] 10
    (BitVec.ofNat 128 (50 * AgentRegistry.unit))

def dealCall : VectorDb.Call :=
  .registerCommitment (AgentRegistry.keyDid 1) (AgentRegistry.keyDid 2) (Bytes32.ofNat 5) 3 .nil 10
    (50 * AgentRegistry.unit)

theorem dealSubmission_call : dealSubmission.call = some dealCall := rfl

theorem vectorDb_client_exact_deal :
    let s := exec Runtime.step Runtime.devGenesis (Runtime.dealRun.take 3)
    let s' := Runtime.step s (.call (.signed 1) (.vectorDb dealCall))
    dealSubmission.submit 1 s
      (⟨"Balances", "Reserved", [], [], []⟩ :: (deposited s s').map Runtime.eventDetails)
        = .ok (some Runtime.dealId) := by
  intro s s'
  have hev : ∀ call, dealSubmission.call = some call →
      Delivered s (Runtime.step s (.call (.signed 1) (.vectorDb call)))
        (⟨"Balances", "Reserved", [], [], []⟩ :: (deposited s s').map Runtime.eventDetails) := by
    intro call hcall
    obtain rfl := Option.some.inj hcall
    exact delivered_cons (by decide)
  rw [(vectorDb_client_exact dealSubmission (show (0 : Nat) < 4294967296 by decide) 1 s _ hev).2.2]
  simp only [dealSubmission_call]
  rw [if_pos (by decide +kernel)]
  exact congrArg Except.ok (by decide +kernel)

end OffchainVectorDb
