import ArthNeura.Codec.Text
import ArthNeura.Codec.Utf8
import ArthNeura.OffchainAgentRegistry.RegisterDoor
import ArthNeura.OffchainVectorDb.Transactions

set_option autoImplicit false

/-! # The command line

The binary of the client takes its action and all arguments from environment variables, and prints
its results as lines `NAME=value`. The scripts of the repository run it step by step: they cut the
values out of the printed lines with `sed` and put them into the environment of the next step, on
top of the environment they were started in.

`register` prints the variable `MERKLE_ROOT` in place of the root that it has registered, if the
variable holds 32 bytes. `settle_script_closes_iff` follows the values from the output of `register`
to the chain: the steps of the scripts name the commitment that was registered, and the script that
settles it can close it exactly if the variable is not set to another root.
-/

namespace OffchainVectorDb.Cli

open Frame Scale
open OffchainAgentRegistry.RegisterDoor (trimHex trimHex_encode)
open VectorDb (Did CommitmentId MerkleRoot)

/-! ## The environment -/

/-- The variables that are set to some text. -/
abbrev Env := String → Option String

/-- Run a command with one variable more. -/
def Env.set (env : Env) (name value : String) : Env := Function.update env name (some value)

inductive CliError where
  | notPresent (name : String)
  | invalidHex
  /-- `{name} must be 32-byte hex`. -/
  | wrongLength (name : String)
  | invalidNumber
  deriving DecidableEq

/-- `hex::decode` of a text without white space around it and without `0x`. -/
def decodeHex (raw : String) : Option Bytes := Hex.decodeDigits (trimHex (Text.trim raw.toList))

def hex32 (env : Env) (name : String) : Except CliError Bytes32 :=
  match env name with
  | none => .error (.notPresent name)
  | some raw =>
      match decodeHex raw with
      | none => .error .invalidHex
      | some b => if h : b.length = 32 then .ok ⟨b, h⟩ else .error (.wrongLength name)

/-- `str::parse` for an unsigned type with `size` values. -/
def parseBelow (size : Nat) (text : List Char) : Option Nat :=
  let digits := if text.head? = some '+' then text.tail else text
  if digits.isEmpty || !digits.all Char.isDigit then none
  else
    let n := Nat.ofDigitChars 10 digits 0
    if n < size then some n else none

/-- A number, or a default if the variable is not set or holds something else. -/
def numberOr (env : Env) (name : String) (size default : Nat) : Nat :=
  ((env name).bind fun s => parseBelow size s.toList).getD default

def chunkIndex (env : Env) : UInt64 := UInt64.ofNat (numberOr env "CHUNK_INDEX" UInt64.size 0)

def totalChunks (env : Env) : UInt64 := UInt64.ofNat (numberOr env "TOTAL_CHUNKS" UInt64.size 1)

/-! ## Signers -/

/-- The two development accounts, and the accounts of seeds. -/
structure Keys (AccountId : Type) where
  alice : AccountId
  bob : AccountId
  fromSecretKey : Bytes32 → Option AccountId

/-- The account of `CONTROLLER_SEED`, or another one if there is no seed. A seed that cannot be read
is a panic. -/
def seedSigner {AccountId : Type} (keys : Keys AccountId) (env : Env) (other : AccountId) :
    Option AccountId :=
  match env "CONTROLLER_SEED" with
  | none => some other
  | some s =>
      if Text.trim s.toList = [] then some other
      else (decodeHex s).bind fun raw =>
        if h : raw.length = 32 then keys.fromSecretKey ⟨raw, h⟩ else none

def signerFromEnv {AccountId : Type} (keys : Keys AccountId) (env : Env) : Option AccountId :=
  seedSigner keys env (if (env "SIGNER").getD "bob" = "alice" then keys.alice else keys.bob)

/-! ## Commands -/

/-- What `main` does. -/
inductive Command where
  | balance (who : String)
  | raise (commitmentId : CommitmentId) (consumerDid : Did) (index : UInt64) (bad : Bytes32)
      (chunks : UInt64)
  | counter (commitmentId : CommitmentId) (providerDid : Did) (index chunks : UInt64)
  | finalize (commitmentId : CommitmentId)
  | acknowledge (commitmentId : CommitmentId) (consumerDid : Did)
  | transfer (dest : Bytes32) (amount : Nat)
  | close (commitmentId : CommitmentId) (consumerDid : Did) (merkleRoot : MerkleRoot)
      (chunks : UInt64)
  | register (providerDid consumerDid : Did) (expires price : Nat) (payload metadata : Bytes)
  deriving DecidableEq

def payload (env : Env) : Bytes :=
  match env "PAYLOAD" with
  | some s => if s = "" then Utf8.encode "arthneura stamp payload".toList else Utf8.encode s.toList
  | none => Utf8.encode "arthneura stamp payload".toList

def schema (env : Env) : Bytes :=
  Utf8.encode (((env "SCHEMA").map fun s => Text.trim s.toList).filter (· ≠ [])
    |>.getD "csv.v1".toList)

/-- The command of an environment, with the arguments that it reads. Every other action is a
registration. -/
def command (env : Env) : Except CliError Command :=
  let action := (env "ACTION").getD "register"
  if action = "balance" then .ok (.balance ((env "SIGNER").getD "alice"))
  else if action = "raise" then do
    let commitmentId ← hex32 env "COMMITMENT_ID"
    let consumerDid ← hex32 env "CONSUMER_DID"
    let bad ← hex32 env "RECEIVED_CHUNK_HASH"
    return .raise commitmentId consumerDid (chunkIndex env) bad (totalChunks env)
  else if action = "counter" then do
    let commitmentId ← hex32 env "COMMITMENT_ID"
    let providerDid ← hex32 env "PROVIDER_DID"
    return .counter commitmentId providerDid (chunkIndex env) (totalChunks env)
  else if action = "finalize" then do
    let commitmentId ← hex32 env "COMMITMENT_ID"
    return .finalize commitmentId
  else if action = "acknowledge" then do
    let commitmentId ← hex32 env "COMMITMENT_ID"
    let consumerDid ← hex32 env "CONSUMER_DID"
    return .acknowledge commitmentId consumerDid
  else if action = "transfer" then do
    let dest ← hex32 env "TO"
    match parseBelow (2 ^ 128) ((env "AMOUNT").getD "100").toList with
    | none => throw .invalidNumber
    | some amount => return .transfer dest amount
  else if action = "close" then do
    let commitmentId ← hex32 env "COMMITMENT_ID"
    let consumerDid ← hex32 env "CONSUMER_DID"
    let merkleRoot ← hex32 env "MERKLE_ROOT"
    return .close commitmentId consumerDid merkleRoot (totalChunks env)
  else do
    let providerDid ← hex32 env "PROVIDER_DID"
    let consumerDid ← hex32 env "CONSUMER_DID"
    return .register providerDid consumerDid (numberOr env "EXPIRES_IN_BLOCKS" (2 ^ 32) 1000)
      (numberOr env "PRICE" (2 ^ 128) 75) (payload env) (schema env)

/-- The account that signs a command. -/
def Command.signer {AccountId : Type} (keys : Keys AccountId) (env : Env) :
    Command → Option AccountId
  | .transfer .. => some keys.alice
  | .register .. => seedSigner keys env keys.alice
  | _ => signerFromEnv keys env

/-- The transaction of the commands whose arguments are all in the environment. -/
def Command.submission : Command → Option Submission
  | .raise commitmentId consumerDid index bad chunks =>
      some (.raiseDispute commitmentId consumerDid index bad chunks)
  | .finalize commitmentId => some (.finalizeDispute commitmentId)
  | .acknowledge commitmentId consumerDid => some (.acknowledgeCommitment commitmentId consumerDid)
  | .close commitmentId consumerDid merkleRoot chunks =>
      some (.closeCommitment commitmentId consumerDid merkleRoot chunks)
  | _ => none

/-! ## The output of a registration -/

structure RegisterCommitmentResult where
  commitmentId : CommitmentId
  merkleRoot : MerkleRoot
  totalChunks : UInt64

/-- The root of `MERKLE_ROOT`, if it can be read. -/
def providedRoot (env : Env) : Option MerkleRoot :=
  (env "MERKLE_ROOT").bind fun s => (decodeHex s).bind fun b =>
    if h : b.length = 32 then some ⟨b, h⟩ else none

/-- `0x{}` of the encoded bytes. -/
def hexText (b : Bytes32) : List Char := '0' :: 'x' :: (Hex.encode b.toList).toList

def decimal (n : UInt64) : List Char := Nat.toDigits 10 n.toNat

/-- A line `NAME=value`. -/
def assignment (name : String) (value : List Char) : List Char := name.toList ++ '=' :: value

/-- The lines that are printed. -/
def registerOutput (env : Env) (result : RegisterCommitmentResult) : List (List Char) :=
  let merkleRoot := (providedRoot env).getD result.merkleRoot
  ["register_commitment succeeded: commitment_id=".toList ++ (hexText result.commitmentId
      ++ (" merkle_root=".toList ++ (hexText merkleRoot ++ (" total_chunks=".toList
      ++ decimal result.totalChunks)))),
    assignment "COMMITMENT_ID" (hexText result.commitmentId),
    assignment "MERKLE_ROOT" (hexText merkleRoot),
    assignment "TOTAL_CHUNKS" (decimal result.totalChunks)]

/-! ## The scripts -/

/-- `sed -n 's/^NAME=//p' | tail -n 1`. -/
def sedValue (name : String) (out : List (List Char)) : String :=
  String.ofList ((out.filterMap (Text.stripPrefix? (assignment name []))).getLast?.getD [])

/-- The environments of the steps after `register`, in the scripts `stranger-settle.sh`,
`stranger-counter.sh`, `stranger-dispute.sh` and `stranger-refund.sh`. -/
structure Script where
  /-- The environment in which the script was started. -/
  base : Env
  providerDid : Did
  consumerDid : Did
  result : RegisterCommitmentResult

namespace Script

def registerEnv (s : Script) (price : String) : Env :=
  (((((s.base.set "ACTION" "register").set "SIGNER" "alice").set "PROVIDER_DID"
    (String.ofList (hexText s.providerDid))).set "CONSUMER_DID"
    (String.ofList (hexText s.consumerDid))).set "PRICE" price).set "PAYLOAD" "hello arthneura"

/-- The output of `register`. -/
def out (s : Script) (price : String) : List (List Char) :=
  registerOutput (s.registerEnv price) s.result

/-- The environment of a later step, with the variables that all of them set. -/
def stepEnv (s : Script) (price action : String) (signer : String) : Env :=
  ((s.base.set "ACTION" action).set "SIGNER" signer).set "COMMITMENT_ID"
    (sedValue "COMMITMENT_ID" (s.out price))

def acknowledgeEnv (s : Script) (price : String) : Env :=
  (s.stepEnv price "acknowledge" "bob").set "CONSUMER_DID" (String.ofList (hexText s.consumerDid))

def closeEnv (s : Script) (price : String) : Env :=
  (((s.stepEnv price "close" "bob").set "CONSUMER_DID"
    (String.ofList (hexText s.consumerDid))).set "MERKLE_ROOT"
    (sedValue "MERKLE_ROOT" (s.out price))).set "TOTAL_CHUNKS"
    (sedValue "TOTAL_CHUNKS" (s.out price))

def raiseEnv (s : Script) (price badHash : String) : Env :=
  ((((s.stepEnv price "raise" "bob").set "CONSUMER_DID"
    (String.ofList (hexText s.consumerDid))).set "CHUNK_INDEX" "0").set "TOTAL_CHUNKS"
    (sedValue "TOTAL_CHUNKS" (s.out price))).set "RECEIVED_CHUNK_HASH" badHash

def counterEnv (s : Script) (price : String) : Env :=
  (((s.stepEnv price "counter" "alice").set "PROVIDER_DID"
    (String.ofList (hexText s.providerDid))).set "CHUNK_INDEX" "0").set "TOTAL_CHUNKS"
    (sedValue "TOTAL_CHUNKS" (s.out price))

def finalizeEnv (s : Script) (price : String) : Env := s.stepEnv price "finalize" "bob"

end Script

/-! ## Values that are printed and read back -/

theorem notMem_whitespace (v : Bytes32) : ∀ c ∈ hexText v, Text.isWhitespace c = false := by
  have hdigit : ∀ n < 16, Text.isWhitespace (Nat.digitChar n) = false := by decide
  intro c hc
  rcases List.mem_cons.mp hc with rfl | hc
  · decide
  rcases List.mem_cons.mp hc with rfl | hc
  · decide
  · obtain ⟨n, hn, rfl⟩ := Hex.mem_encode hc
    exact hdigit n hn

theorem decodeHex_hexText (v : Bytes32) :
    decodeHex (String.ofList (hexText v)) = some v.toList := by
  have hne : hexText v ≠ [] := by simp [hexText]
  have htrim : Text.trim (hexText v) = hexText v := by
    simpa using @Text.trim_padded [] (hexText v) [] (by simp) (by simp) hne (notMem_whitespace v)
  have hstart : trimHex (hexText v) = trimHex (Hex.encode v.toList).toList := rfl
  have hread : Hex.decodeDigits (Hex.encode v.toList).toList = some v.toList :=
    Hex.decode_encode v.toList
  rw [decodeHex, String.toList_ofList, htrim, hstart, trimHex_encode, hread]

theorem hex32_of_decodeHex {env : Env} {name raw : String} {v : Bytes32}
    (h : env name = some raw) (hraw : decodeHex raw = some v.toList) : hex32 env name = .ok v := by
  simp only [hex32, h, hraw]
  rw [dif_pos v.toList_length]
  exact congrArg Except.ok (List.Vector.toList_injective rfl)

theorem hex32_of_text {env : Env} {name : String} {v : Bytes32}
    (h : env name = some (String.ofList (hexText v))) : hex32 env name = .ok v :=
  hex32_of_decodeHex h (decodeHex_hexText v)

theorem totalChunks_of_text {env : Env} {n : UInt64}
    (h : env "TOTAL_CHUNKS" = some (String.ofList (decimal n))) : totalChunks env = n := by
  have hparse : parseBelow UInt64.size (decimal n) = some n.toNat :=
    Text.parseUsize_toDigits n.toNat_lt
  rw [totalChunks, numberOr, h, Option.bind_some, String.toList_ofList, hparse, Option.getD_some,
    UInt64.ofNat_toNat]

theorem stripPrefix?_assignment (name : String) (value : List Char) :
    Text.stripPrefix? (assignment name []) (assignment name value) = some value := by
  have happend : assignment name value = assignment name [] ++ value := by simp [assignment]
  rw [happend, Text.stripPrefix?_append]

/-- Of the four lines, the one with the name is taken. -/
theorem sedValue_registerOutput (env : Env) (r : RegisterCommitmentResult) :
    sedValue "COMMITMENT_ID" (registerOutput env r) = String.ofList (hexText r.commitmentId) ∧
    sedValue "MERKLE_ROOT" (registerOutput env r)
      = String.ofList (hexText ((providedRoot env).getD r.merkleRoot)) ∧
    sedValue "TOTAL_CHUNKS" (registerOutput env r) = String.ofList (decimal r.totalChunks) := by
  refine ⟨?_, ?_, ?_⟩
  all_goals
    simp only [sedValue, registerOutput, List.filterMap_cons, List.filterMap_nil,
      stripPrefix?_assignment]
    -- the other lines start with another letter
    rfl

/-! ## The steps of the scripts -/

@[simp] theorem Env.set_self (env : Env) (name value : String) :
    env.set name value name = some value :=
  Function.update_self ..

@[simp] theorem Env.set_ne {env : Env} {name other value : String} (h : other ≠ name) :
    env.set name value other = env other :=
  Function.update_of_ne h ..

namespace Script

variable (script : Script) (price : String)

theorem providedRoot_registerEnv : providedRoot (script.registerEnv price)
    = providedRoot script.base := by
  simp [providedRoot, registerEnv]

/-- A step that takes the identifier from the output names the commitment that was registered. -/
theorem hex32_commitmentId (env : Env)
    (h : env "COMMITMENT_ID" = some (sedValue "COMMITMENT_ID" (script.out price))) :
    hex32 env "COMMITMENT_ID" = .ok script.result.commitmentId := by
  apply hex32_of_text
  rw [h, out, (sedValue_registerOutput _ _).1]

theorem totalChunks_eq (env : Env)
    (h : env "TOTAL_CHUNKS" = some (sedValue "TOTAL_CHUNKS" (script.out price))) :
    totalChunks env = script.result.totalChunks := by
  apply totalChunks_of_text
  rw [h, out, (sedValue_registerOutput _ _).2.2]

theorem chunkIndex_zero {env : Env} (h : env "CHUNK_INDEX" = some "0") : chunkIndex env = 0 := by
  have hparse : parseBelow UInt64.size "0".toList = some 0 := by decide +kernel
  rw [chunkIndex, numberOr, h, Option.bind_some, hparse]
  rfl

theorem command_acknowledge :
    command (script.acknowledgeEnv price)
      = .ok (.acknowledge script.result.commitmentId script.consumerDid) := by
  have haction : script.acknowledgeEnv price "ACTION" = some "acknowledge" := by
    simp [acknowledgeEnv, stepEnv]
  have hid := script.hex32_commitmentId price (script.acknowledgeEnv price)
    (by simp [acknowledgeEnv, stepEnv])
  have hconsumer : hex32 (script.acknowledgeEnv price) "CONSUMER_DID" = .ok script.consumerDid :=
    hex32_of_text (by simp [acknowledgeEnv])
  simp [command, haction, hid, hconsumer, bind, Except.bind, pure, Except.pure]

theorem command_raise {badHash : String} {bad : Bytes32}
    (hbad : decodeHex badHash = some bad.toList) :
    command (script.raiseEnv price badHash)
      = .ok (.raise script.result.commitmentId script.consumerDid 0 bad
          script.result.totalChunks) := by
  have haction : script.raiseEnv price badHash "ACTION" = some "raise" := by
    simp [raiseEnv, stepEnv]
  have hid := script.hex32_commitmentId price (script.raiseEnv price badHash)
    (by simp [raiseEnv, stepEnv])
  have hconsumer : hex32 (script.raiseEnv price badHash) "CONSUMER_DID" = .ok script.consumerDid :=
    hex32_of_text (by simp [raiseEnv])
  have hhash : hex32 (script.raiseEnv price badHash) "RECEIVED_CHUNK_HASH" = .ok bad :=
    hex32_of_decodeHex (by simp [raiseEnv]) hbad
  have hindex : chunkIndex (script.raiseEnv price badHash) = 0 :=
    chunkIndex_zero (by simp [raiseEnv])
  have htotal := script.totalChunks_eq price (script.raiseEnv price badHash)
    (by simp [raiseEnv])
  simp [command, haction, hid, hconsumer, hhash, hindex, htotal, bind, Except.bind, pure,
    Except.pure]

theorem command_counter :
    command (script.counterEnv price)
      = .ok (.counter script.result.commitmentId script.providerDid 0
          script.result.totalChunks) := by
  have haction : script.counterEnv price "ACTION" = some "counter" := by
    simp [counterEnv, stepEnv]
  have hid := script.hex32_commitmentId price (script.counterEnv price)
    (by simp [counterEnv, stepEnv])
  have hprovider : hex32 (script.counterEnv price) "PROVIDER_DID" = .ok script.providerDid :=
    hex32_of_text (by simp [counterEnv])
  have hindex : chunkIndex (script.counterEnv price) = 0 := chunkIndex_zero (by simp [counterEnv])
  have htotal := script.totalChunks_eq price (script.counterEnv price)
    (by simp [counterEnv])
  simp [command, haction, hid, hprovider, hindex, htotal, bind, Except.bind, pure, Except.pure]

theorem command_finalize :
    command (script.finalizeEnv price) = .ok (.finalize script.result.commitmentId) := by
  have haction : script.finalizeEnv price "ACTION" = some "finalize" := by
    simp [finalizeEnv, stepEnv]
  have hid := script.hex32_commitmentId price (script.finalizeEnv price)
    (by simp [finalizeEnv, stepEnv])
  simp [command, haction, hid, bind, Except.bind, pure, Except.pure]

/-- The root that is printed is the one of the environment, if there is one. -/
theorem command_close :
    command (script.closeEnv price)
      = .ok (.close script.result.commitmentId script.consumerDid
          ((providedRoot script.base).getD script.result.merkleRoot)
          script.result.totalChunks) := by
  have haction : script.closeEnv price "ACTION" = some "close" := by
    simp [closeEnv, stepEnv]
  have hid := script.hex32_commitmentId price (script.closeEnv price)
    (by simp [closeEnv, stepEnv])
  have hconsumer : hex32 (script.closeEnv price) "CONSUMER_DID" = .ok script.consumerDid :=
    hex32_of_text (by simp [closeEnv])
  have hroot : hex32 (script.closeEnv price) "MERKLE_ROOT"
      = .ok ((providedRoot script.base).getD script.result.merkleRoot) := by
    apply hex32_of_text
    rw [← script.providedRoot_registerEnv price, ← (sedValue_registerOutput _ _).2.1]
    simp [closeEnv, out]
  have htotal := script.totalChunks_eq price (script.closeEnv price)
    (by simp [closeEnv])
  simp [command, haction, hid, hconsumer, hroot, htotal, bind, Except.bind, pure, Except.pure]

/-- The steps of the consumer are signed by one account. -/
theorem signerFromEnv_consumer {AccountId : Type} (keys : Keys AccountId) :
    signerFromEnv keys (script.acknowledgeEnv price) = seedSigner keys script.base keys.bob ∧
      signerFromEnv keys (script.closeEnv price) = seedSigner keys script.base keys.bob := by
  constructor
  · simp [signerFromEnv, seedSigner, acknowledgeEnv, stepEnv]
  · simp [signerFromEnv, seedSigner, closeEnv, stepEnv]

end Script

/-! ## The result -/

section

variable {AccountId : Type} [DecidableEq AccountId] {cfg : Runtime.Config AccountId}

/-- A commitment can be closed with its own root only. -/
theorem close_succeeds_iff {s : Runtime.State cfg} {signer : AccountId} {id : CommitmentId}
    {c : VectorDb.VectorCommitment} (hc : s.storage.vectorCommitments id = some c)
    (consumerDid : Did) (root : MerkleRoot) (chunks : UInt64) :
    succeeds (VectorDb.closeCommitment cfg.vectorDb (.signed signer) id consumerDid root chunks) s
        = true ↔
      succeeds (VectorDb.closeCommitment cfg.vectorDb (.signed signer) id consumerDid c.merkleRoot
        chunks) s = true ∧ root = c.merkleRoot := by
  constructor
  · intro h
    obtain ⟨s', hs'⟩ := succeeds_iff.mp h
    obtain ⟨_, _, c', hc', _, _, _, _, hroot, _⟩ := VectorDb.closeCommitment_ok.mp hs'
    cases hc.symm.trans hc'
    exact ⟨hroot ▸ h, hroot⟩
  · rintro ⟨h, rfl⟩
    exact h

/-- **What the steps of the scripts do.** Whatever is in the environment of a script, the steps that
follow the registration name the commitment that was registered, with its number of chunks. The
script that settles signs the close as it has signed the acknowledgement, and can close the
commitment in the same states of the chain as a caller who knows the root, provided that
`MERKLE_ROOT` does not hold another one; if it does, the step fails in every state. -/
theorem settle_script_closes_iff (keys : Keys AccountId) (script : Script)
    (price badHash : String) (bad : Bytes32) (hbad : decodeHex badHash = some bad.toList) :
    let r := script.result
    let root := (providedRoot script.base).getD r.merkleRoot
    let close := Command.close r.commitmentId script.consumerDid root r.totalChunks
    let sub := Submission.closeCommitment r.commitmentId script.consumerDid root r.totalChunks
    command (script.acknowledgeEnv price) = .ok (.acknowledge r.commitmentId script.consumerDid) ∧
    command (script.raiseEnv price badHash)
      = .ok (.raise r.commitmentId script.consumerDid 0 bad r.totalChunks) ∧
    command (script.counterEnv price)
      = .ok (.counter r.commitmentId script.providerDid 0 r.totalChunks) ∧
    command (script.finalizeEnv price) = .ok (.finalize r.commitmentId) ∧
    command (script.closeEnv price) = .ok close ∧ close.submission = some sub ∧
    close.signer keys (script.closeEnv price)
      = (Command.acknowledge r.commitmentId script.consumerDid).signer keys
          (script.acknowledgeEnv price) ∧
    ∀ (s : Runtime.State cfg) (signer : AccountId) (c : VectorDb.VectorCommitment),
      s.storage.vectorCommitments r.commitmentId = some c → c.merkleRoot = r.merkleRoot →
      (Runtime.finalizedSuccess s signer sub.tx = true ↔
        succeeds (VectorDb.closeCommitment cfg.vectorDb (.signed signer) r.commitmentId
          script.consumerDid r.merkleRoot r.totalChunks) s = true ∧
        (providedRoot script.base = none ∨ providedRoot script.base = some r.merkleRoot)) := by
  intro r root close sub
  refine ⟨script.command_acknowledge price, script.command_raise price hbad,
    script.command_counter price, script.command_finalize price, script.command_close price, rfl,
    ?_, ?_⟩
  · obtain ⟨hack, hclose⟩ := script.signerFromEnv_consumer price keys
    exact hclose.trans hack.symm
  intro s signer c hc hroot
  have hsize : sub.Sized := trivial
  rw [Runtime.finalizedSuccess, tx_decodes hsize]
  show succeeds (VectorDb.closeCommitment cfg.vectorDb (.signed signer) r.commitmentId
    script.consumerDid ((providedRoot script.base).getD r.merkleRoot) r.totalChunks) s = true ↔ _
  rw [close_succeeds_iff hc, hroot]
  refine and_congr_right fun _ => ?_
  cases providedRoot script.base <;> simp

end

/-- The deal of `dealRun`, with its commitment registered through the command line. -/
def dealScript (base : Env) : Script where
  base := base
  providerDid := AgentRegistry.keyDid 1
  consumerDid := AgentRegistry.keyDid 2
  result := ⟨Runtime.dealId, Bytes32.ofNat 5, 3⟩

/-- An environment without any variables, and one with another root. -/
def emptyEnv : Env := fun _ => none

def strayEnv : Env := emptyEnv.set "MERKLE_ROOT" (String.ofList (hexText (Bytes32.ofNat 6)))

theorem providedRoot_strayEnv : providedRoot strayEnv = some (Bytes32.ofNat 6) := by
  rw [providedRoot, strayEnv, Env.set_self, Option.bind_some, decodeHex_hexText, Option.bind_some,
    dif_pos (List.Vector.toList_length _)]
  exact congrArg some (List.Vector.toList_injective rfl)

def devKeys : Keys Nat := ⟨1, 2, fun _ => none⟩

theorem settle_script_closes_iff_deal :
    let s := exec Runtime.step Runtime.devGenesis Runtime.dealRun
    (∃ close sub, command ((dealScript emptyEnv).closeEnv "1000") = .ok close ∧
      close.submission = some sub ∧ Runtime.finalizedSuccess s 2 sub.tx = true) ∧
    (∃ close sub, command ((dealScript strayEnv).closeEnv "1000") = .ok close ∧
      close.submission = some sub ∧ Runtime.finalizedSuccess s 2 sub.tx = false) := by
  intro s
  have hbad := decodeHex_hexText (Bytes32.ofNat 1)
  obtain ⟨c, hc, hroot⟩ : ∃ c, s.storage.vectorCommitments Runtime.dealId = some c ∧
      c.merkleRoot = Bytes32.ofNat 5 := by
    have hsome : (s.storage.vectorCommitments Runtime.dealId).map (·.merkleRoot)
        = some (Bytes32.ofNat 5) := by decide +kernel
    exact Option.map_eq_some_iff.mp hsome
  constructor
  · obtain ⟨-, -, -, -, hclose, hsub, -, hiff⟩ := @settle_script_closes_iff
      Nat _ Runtime.devConfig devKeys (dealScript emptyEnv) "1000" _ _ hbad
    refine ⟨_, _, hclose, hsub, (hiff s 2 c hc hroot).mpr ⟨?_, Or.inl rfl⟩⟩
    decide +kernel
  · obtain ⟨-, -, -, -, hclose, hsub, -, hiff⟩ := @settle_script_closes_iff
      Nat _ Runtime.devConfig devKeys (dealScript strayEnv) "1000" _ _ hbad
    refine ⟨_, _, hclose, hsub, Bool.eq_false_iff.mpr fun h => ?_⟩
    obtain ⟨-, hprovided⟩ := (hiff s 2 c hc hroot).mp h
    have hstray : providedRoot (dealScript strayEnv).base = some (Bytes32.ofNat 6) :=
      providedRoot_strayEnv
    rw [hstray] at hprovided
    exact absurd hprovided (by decide)

end OffchainVectorDb.Cli
