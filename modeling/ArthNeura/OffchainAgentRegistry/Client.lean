import ArthNeura.OffchainAgentRegistry.Keystore.Spec
import ArthNeura.OffchainAgentRegistry.Registration

set_option autoImplicit false

/-! # The client that registers agents

`register_or_load_agent` and `bootstrap_new_agent` combine transactions with files of the keystore.
The state is the `World`: the key files, and what the transactions of the client have brought about
on the chain. A transaction has two results that need not agree: whether it is finalized, and what
the client hears of it (`ChainOutcome`). The chain does not know for which label it is used; the
label is recorded with each entry to speak of it.
-/

namespace OffchainAgentRegistry

open Frame Process Keystore

structure RegisteredAgent where
  did : Bytes32
  signingKeyBytes : Bytes
  deriving DecidableEq

def RegisteredAgent.stored (agent : RegisteredAgent) : StoredIdentity :=
  ⟨agent.did, agent.signingKeyBytes⟩

inductive RegisterAgentError where
  | subxt (e : String)
  | eventMissing
  deriving DecidableEq

inductive RegisterOrLoadError where
  | register (e : RegisterAgentError)
  | keyStore (e : KeyStoreError)
  deriving DecidableEq

inductive BootstrapAgentError where
  | funding (e : String)
  | register (e : RegisterAgentError)
  | keyStore (e : KeyStoreError)
  | accountKey (e : String)
  deriving DecidableEq

/-- A transfer to a fresh account, with the call that made it. -/
structure Funding where
  path : KeyPath
  passphrase : String
  seed : Bytes32
  deriving DecidableEq

structure World where
  disk : Disk
  funded : List Funding
  registered : List (KeyPath × RegisteredAgent)

/-- Whether a transaction is finalized with success, and what the client hears of it. -/
structure ChainOutcome where
  landed : Bool
  result : Outcome Unit
  landed_of_ok : result = .ok () → landed = true

structure RegisterOutcomes where
  signingKeyBytes : Bytes
  pubkeyBytes : Bytes
  latestBlock : Outcome Unit
  submit : ChainOutcome
  eventFound : Bool

section

variable (lib : Lib) (blake2_256 : Bytes → Bytes32)

/-- Sign and submit a transaction, and wait until it is finalized. -/
def submit {ε : Type} (wrap : String → ε) (o : ChainOutcome) (effect : World → World) :
    Program ε World Unit := do
  modify fun w => if o.landed then effect w else w
  external wrap o.result

/-- A function of the keystore. -/
def onDisk {ε α : Type} (wrap : KeyStoreError → ε) (m : KeyM α) : Program ε World α :=
  zoom World.disk (fun disk w => { w with disk := disk }) (Exit.map wrap) m

/-- The key that is generated, and its DID. -/
def RegisterOutcomes.agent (o : RegisterOutcomes) : RegisteredAgent :=
  ⟨deriveDid blake2_256 o.pubkeyBytes, o.signingKeyBytes⟩

def World.register (path : KeyPath) (agent : RegisteredAgent) (w : World) : World :=
  { w with registered := w.registered ++ [(path, agent)] }

def World.fund (funding : Funding) (w : World) : World :=
  { w with funded := w.funded ++ [funding] }

def registerAgent (path : KeyPath) (o : RegisterOutcomes) :
    Program RegisterAgentError World RegisteredAgent := do
  let agent := o.agent blake2_256
  external .subxt o.latestBlock
  submit .subxt o.submit (World.register path agent)
  ensure (o.eventFound = true) (.error .eventMissing)
  return agent

structure RegisterOrLoadOutcomes where
  read : Except String Unit
  register : RegisterOutcomes
  save : SaveOutcomes

def registerOrLoadAgent (o : RegisterOrLoadOutcomes) (dir label passphrase : String) :
    Program RegisterOrLoadError World RegisteredAgent := do
  let w ← get
  if identityExists w.disk dir label then
    let stored ← onDisk .keyStore (loadIdentity lib o.read dir label passphrase)
    return ⟨stored.did, stored.signingKeyBytes⟩
  else
    let agent ← wrapError .register (registerAgent blake2_256 ⟨dir, label⟩ o.register)
    onDisk .keyStore
      (saveIdentity lib o.save dir label agent.did agent.signingKeyBytes passphrase)
    return agent

structure BootstrapOutcomes where
  readIdentity : Except String Unit
  readAccount : Except String Unit
  seed : Outcome Bytes32
  fund : ChainOutcome
  register : RegisterOutcomes
  saveIdentity : SaveOutcomes
  saveAccount : SaveOutcomes

structure BootstrappedAgent (Keypair : Type) where
  did : Bytes32
  account : Keypair

def accountLabel (label : String) : String := label ++ "-account"

variable {Keypair : Type} (fromSecretKey : Bytes32 → Except String Keypair)

/-- The steps of `bootstrap_new_agent` that follow the transfer. -/
def registerAndPersist (o : BootstrapOutcomes) (dir label passphrase : String)
    (accountSeed : Bytes32) (newAccount : Keypair) :
    Program BootstrapAgentError World (BootstrappedAgent Keypair) := do
  let agent ← wrapError .register (registerAgent blake2_256 ⟨dir, label⟩ o.register)
  onDisk .keyStore
    (saveIdentity lib o.saveIdentity dir label agent.did agent.signingKeyBytes passphrase)
  onDisk .keyStore
    (saveIdentity lib o.saveAccount dir (accountLabel label) agent.did accountSeed.toList
      passphrase)
  return ⟨agent.did, newAccount⟩

def bootstrapNewAgent (o : BootstrapOutcomes) (dir label passphrase : String) :
    Program BootstrapAgentError World (BootstrappedAgent Keypair) := do
  let w ← get
  if identityExists w.disk dir label && identityExists w.disk dir (accountLabel label) then
    let identity ← onDisk .keyStore (loadIdentity lib o.readIdentity dir label passphrase)
    let accountSecret ← onDisk .keyStore
      (loadIdentity lib o.readAccount dir (accountLabel label) passphrase)
    let seed ← attempt .accountKey
      (orError "stored account seed is not 32 bytes" (tryInto32 accountSecret.signingKeyBytes))
    let account ← attempt .accountKey (fromSecretKey seed)
    return ⟨identity.did, account⟩
  else
    let accountSeed ← external (fun e => .accountKey ("OS RNG failure: " ++ e)) o.seed
    let newAccount ← attempt .accountKey (fromSecretKey accountSeed)
    submit .funding o.fund (World.fund ⟨⟨dir, label⟩, passphrase, accountSeed⟩)
    registerAndPersist lib blake2_256 o dir label passphrase accountSeed newAccount

end

/-! ## Outcomes for concrete runs -/

def World.initial : World := ⟨StorageMap.empty, [], []⟩

def ChainOutcome.finalized : ChainOutcome := ⟨true, .ok (), fun _ => rfl⟩

/-- A registration that goes through, with the `n`-th key. -/
def RegisterOutcomes.finalized (n : UInt8) : RegisterOutcomes where
  signingKeyBytes := [n]
  pubkeyBytes := [n]
  latestBlock := .ok ()
  submit := ChainOutcome.finalized
  eventFound := true

/-! ## Transactions -/

section

variable {ε : Type} (wrap : String → ε) {o : ChainOutcome} (effect : World → World)

theorem submit_of_ok (h : o.result = .ok ()) (w : World) :
    (submit wrap o effect).run w = .ok () (effect w) := by
  rw [submit, run_modify_bind, h, if_pos (o.landed_of_ok h)]
  rfl

theorem submit_of_not_ok (h : o.result ≠ .ok ()) (w : World) :
    ∃ exit, (submit wrap o effect).run w = .error exit (if o.landed then effect w else w) := by
  rw [submit, run_modify_bind]
  cases hresult : o.result with
  | ok => exact absurd hresult h
  | err e => exact ⟨_, rfl⟩
  | killed => exact ⟨_, rfl⟩

end

/-! ## Registration -/

/-- The client hears of the registration. -/
def RegisterOutcomes.Reported (o : RegisterOutcomes) : Prop :=
  o.latestBlock = .ok () ∧ o.submit.result = .ok () ∧ o.eventFound = true

/-- The registration is finalized. -/
def RegisterOutcomes.lands (o : RegisterOutcomes) : Bool :=
  match o.latestBlock with
  | .ok () => o.submit.landed
  | _ => false

section

variable (blake2_256 : Bytes → Bytes32) (path : KeyPath) {o : RegisterOutcomes}

theorem RegisterOutcomes.Reported.lands (h : o.Reported) : o.lands = true := by
  rw [RegisterOutcomes.lands, h.1]
  exact o.submit.landed_of_ok h.2.1

theorem registerAgent_of_reported (h : o.Reported) (w : World) :
    (registerAgent blake2_256 path o).run w =
      .ok (o.agent blake2_256) (w.register path (o.agent blake2_256)) := by
  obtain ⟨hblock, hresult, hevent⟩ := h
  refine run_external_ok.2 ⟨(), hblock, ?_⟩
  refine run_bind_ok.2 ⟨(), _, submit_of_ok _ _ hresult w, ?_⟩
  exact run_ensure_ok.2 ⟨hevent, rfl⟩

theorem registerAgent_of_not_reported (h : ¬ o.Reported) (w : World) :
    ∃ exit, (registerAgent blake2_256 path o).run w =
      .error exit (if o.lands then w.register path (o.agent blake2_256) else w) := by
  by_cases hblock : o.latestBlock = .ok ()
  · have hlands : o.lands = o.submit.landed := by rw [RegisterOutcomes.lands, hblock]
    rw [registerAgent, hblock, external_ok, pure_bind, hlands]
    by_cases hresult : o.submit.result = .ok ()
    · have hevent : ¬ o.eventFound = true := fun hevent => h ⟨hblock, hresult, hevent⟩
      have hsubmit := submit_of_ok RegisterAgentError.subxt
        (World.register path (o.agent blake2_256)) hresult w
      rw [if_pos (o.submit.landed_of_ok hresult)]
      exact ⟨.error .eventMissing, run_bind_error.2 (Or.inr ⟨(), _, hsubmit,
        run_ensure_error.2 (Or.inl ⟨hevent, rfl, rfl⟩)⟩)⟩
    · obtain ⟨exit, hexit⟩ := submit_of_not_ok RegisterAgentError.subxt
        (World.register path (o.agent blake2_256)) hresult w
      exact ⟨exit, run_bind_error.2 (Or.inl hexit)⟩
  · rw [registerAgent, RegisterOutcomes.lands]
    cases hblock' : o.latestBlock with
    | ok => exact absurd hblock' hblock
    | err e => exact ⟨_, rfl⟩
    | killed => exact ⟨_, rfl⟩

end

/-! ## The keystore -/

section

variable {ε α : Type} (wrap : KeyStoreError → ε) {m : KeyM α} {w : World} {disk : Disk}

theorem run_onDisk_of_ok {a : α} (h : m.run w.disk = .ok a disk) :
    (onDisk wrap m).run w = .ok a { w with disk := disk } :=
  run_zoom_ok.2 ⟨disk, h, rfl⟩

theorem run_onDisk_of_error {exit : Exit KeyStoreError} (h : m.run w.disk = .error exit disk) :
    (onDisk wrap m).run w = .error (exit.map wrap) { w with disk := disk } :=
  run_zoom_error.2 ⟨exit, disk, h, rfl, rfl⟩

theorem after_onDisk : after (onDisk wrap m) w = { w with disk := after m w.disk } :=
  after_zoom World.disk _ _ m w

/-- The second save is made only if the first one returns. -/
theorem after_saves (first second : KeyM Unit) (a : α) (w : World) :
    (∃ disk, first.run w.disk = .ok () disk ∧
      after (onDisk wrap first >>= fun _ => onDisk wrap second >>= fun _ => pure a) w =
        { w with disk := after second disk }) ∨
    ((∀ disk, first.run w.disk ≠ .ok () disk) ∧
      after (onDisk wrap first >>= fun _ => onDisk wrap second >>= fun _ => pure a) w =
        { w with disk := after first w.disk }) := by
  cases hfirst : first.run w.disk with
  | ok u disk =>
      refine Or.inl ⟨disk, rfl, ?_⟩
      rw [after_bind_of_ok (run_onDisk_of_ok wrap hfirst), after_bind_pure, after_onDisk]
  | error exit disk =>
      refine Or.inr ⟨fun disk' h => ?_, ?_⟩
      · cases h
      · rw [after_bind_of_error (run_onDisk_of_error wrap hfirst), after_of_error hfirst]

end

end OffchainAgentRegistry
