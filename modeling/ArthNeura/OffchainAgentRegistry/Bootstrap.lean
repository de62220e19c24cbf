import ArthNeura.Frame.Run
import ArthNeura.OffchainAgentRegistry.Client

set_option autoImplicit false

/-! # Accounts that are lost

`bootstrap_new_agent` sends money to an account whose seed it has only in memory, and saves the seed
in the last of its steps. Calls that are not disturbed are idempotent: each label is funded and
registered once, and a repeated call loads the account of the first one. A call that is disturbed
after the transfer loses the account, and the next call for the label pays for another one
(`bootstrap_loses_nothing`).
-/

namespace OffchainAgentRegistry

open Frame Process Keystore

/-- A call of `bootstrap_new_agent`, with what becomes of its steps. -/
structure BootstrapCall where
  outcomes : BootstrapOutcomes
  dir : String
  label : String
  passphrase : String

def BootstrapCall.path (c : BootstrapCall) : KeyPath := ⟨c.dir, c.label⟩

def accountPath (path : KeyPath) : KeyPath := ⟨path.dir, accountLabel path.label⟩

/-- Both files of the label exist. -/
def BootstrapCall.stored (c : BootstrapCall) (w : World) : Bool :=
  identityExists w.disk c.dir c.label && identityExists w.disk c.dir (accountLabel c.label)

def BootstrapCall.funding (c : BootstrapCall) (seed : Bytes32) : Funding :=
  ⟨c.path, c.passphrase, seed⟩

section

variable {Keypair : Type} (lib : Lib) (blake2_256 : Bytes → Bytes32)
  (fromSecretKey : Bytes32 → Except String Keypair)

def BootstrapCall.agent (c : BootstrapCall) : RegisteredAgent :=
  c.outcomes.register.agent blake2_256

def BootstrapCall.saveIdentity (c : BootstrapCall) : KeyM Unit :=
  Keystore.saveIdentity lib c.outcomes.saveIdentity c.dir c.label (c.agent blake2_256).did
    (c.agent blake2_256).signingKeyBytes c.passphrase

def BootstrapCall.saveAccount (c : BootstrapCall) (seed : Bytes32) : KeyM Unit :=
  Keystore.saveIdentity lib c.outcomes.saveAccount c.dir (accountLabel c.label)
    (c.agent blake2_256).did seed.toList c.passphrase

def BootstrapCall.run (c : BootstrapCall) :
    Program BootstrapAgentError World (BootstrappedAgent Keypair) :=
  bootstrapNewAgent lib blake2_256 fromSecretKey c.outcomes c.dir c.label c.passphrase

/-- The world after a call. -/
def bootstrapStep (w : World) (c : BootstrapCall) : World :=
  after (c.run lib blake2_256 fromSecretKey) w

/-- The call comes to a transfer to the account of `seed`, and the transfer is finalized. -/
structure Funds (w : World) (c : BootstrapCall) (seed : Bytes32) : Prop where
  not_stored : c.stored w = false
  seed_ok : c.outcomes.seed = .ok seed
  account_ok : ∃ account, fromSecretKey seed = .ok account
  landed : c.outcomes.fund.landed = true

/-- All that follows the transfer goes through, up to the write of the seed. -/
structure Undisturbed (w : World) (c : BootstrapCall) (seed : Bytes32) : Prop where
  fund : c.outcomes.fund.result = .ok ()
  register : c.outcomes.register.Reported
  identity : ∃ json, Ready lib c.outcomes.saveIdentity w.disk c.path (c.agent blake2_256).did
    (c.agent blake2_256).signingKeyBytes c.passphrase json
  identityWrite : c.outcomes.saveIdentity.write = .ok
  identityPermissions : c.outcomes.saveIdentity.setFilePermissions = .ok ()
  account : ∃ json, Ready lib c.outcomes.saveAccount w.disk (accountPath c.path)
    (c.agent blake2_256).did seed.toList c.passphrase json
  accountWrite : c.outcomes.saveAccount.write = .ok

/-- Every label is funded and registered once at most, the seed of every account that was funded can
be loaded, and a repeated call returns the account and leaves the world as it is. -/
structure LosesNothing (w : World) : Prop where
  funded_once : (w.funded.map Funding.path).Nodup
  registered_once : (w.registered.map Prod.fst).Nodup
  account_stored : ∀ f ∈ w.funded, ∃ did,
    Loads lib w.disk (accountPath f.path) f.passphrase ⟨did, f.seed.toList⟩
  resumes : ∀ f ∈ w.funded, ∃ did account, fromSecretKey f.seed = .ok account ∧
    ∀ o : BootstrapOutcomes, o.readIdentity = .ok () → o.readAccount = .ok () →
      (bootstrapNewAgent lib blake2_256 fromSecretKey o f.path.dir f.path.label f.passphrase).run w
        = .ok ⟨did, account⟩ w

end

theorem accountPath_ne (path : KeyPath) : accountPath path ≠ path := by
  intro h
  have hlabel : path.label ++ "-account" = path.label := congrArg KeyPath.label h
  have hlength := congrArg String.length hlabel
  rw [String.length_append] at hlength
  have hpos : "-account".length = 8 := rfl
  omega

section

variable {Keypair : Type} {lib : Lib} {blake2_256 : Bytes → Bytes32}
  {fromSecretKey : Bytes32 → Except String Keypair} {w : World} {c : BootstrapCall}
  {seed : Bytes32}

/-! ## Calls that find both files -/

theorem bootstrapStep_of_stored (h : c.stored w = true) :
    bootstrapStep lib blake2_256 fromSecretKey w c = w := by
  have hload : ∀ read label, after (onDisk BootstrapAgentError.keyStore
      (loadIdentity lib read c.dir label c.passphrase)) w = w := by
    intro read label
    rw [after_onDisk, after_loadIdentity]
  rw [bootstrapStep, BootstrapCall.run, bootstrapNewAgent, after_get_bind]
  rw [BootstrapCall.stored] at h
  rw [if_pos h]
  refine after_bind_self (hload _ _) fun identity => ?_
  refine after_bind_self (hload _ _) fun accountSecret => ?_
  refine after_bind_self (after_attempt _ _ _) fun seed => ?_
  exact after_bind_self (after_attempt _ _ _) fun account => rfl

/-- A repeated call returns what the files hold. -/
theorem bootstrap_of_loads {o : BootstrapOutcomes} {path : KeyPath} {passphrase : String}
    {did did' : Bytes32} {key : Bytes} {account : Keypair}
    (hidentity : Loads lib w.disk path passphrase ⟨did, key⟩)
    (haccount : Loads lib w.disk (accountPath path) passphrase ⟨did', seed.toList⟩)
    (hseed : fromSecretKey seed = .ok account)
    (hread : o.readIdentity = .ok ()) (hread' : o.readAccount = .ok ()) :
    (bootstrapNewAgent lib blake2_256 fromSecretKey o path.dir path.label passphrase).run w =
      .ok ⟨did, account⟩ w := by
  have hstored : (identityExists w.disk path.dir path.label &&
      identityExists w.disk path.dir (accountLabel path.label)) = true := by
    have h1 := Loads.identityExists hidentity
    have h2 := Loads.identityExists haccount
    rw [h1, h2]
    rfl
  rw [bootstrapNewAgent, run_get_bind, if_pos hstored, hread, hread']
  refine run_bind_ok.2 ⟨_, w, run_onDisk_of_ok _ hidentity, ?_⟩
  refine run_bind_ok.2 ⟨_, w, run_onDisk_of_ok _ haccount, ?_⟩
  refine run_attempt_ok.2 ⟨seed, orError_ok.2 (tryInto32_eq_some.2 rfl), ?_⟩
  exact run_attempt_ok.2 ⟨account, hseed, rfl⟩

/-! ## Calls that come to a transfer -/

theorem run_of_not_stored {account : Keypair} (h : c.stored w = false)
    (hseed : c.outcomes.seed = .ok seed) (haccount : fromSecretKey seed = .ok account) :
    (c.run lib blake2_256 fromSecretKey).run w =
      (submit .funding c.outcomes.fund (World.fund (c.funding seed)) >>= fun _ =>
        registerAndPersist lib blake2_256 c.outcomes c.dir c.label c.passphrase seed
          account).run w := by
  rw [BootstrapCall.stored] at h
  rw [BootstrapCall.run, bootstrapNewAgent, run_get_bind, if_neg (by simp [h]), hseed, external_ok,
    pure_bind, haccount, attempt_ok, pure_bind]
  rfl

theorem stops_of_no_account (h : c.stored w = false)
    (hno : ∀ seed account, c.outcomes.seed = .ok seed → fromSecretKey seed ≠ .ok account) :
    Stops (c.run lib blake2_256 fromSecretKey) w := by
  by_contra hstops
  rw [BootstrapCall.stored] at h
  rw [BootstrapCall.run, bootstrapNewAgent, stops_get_bind, if_neg (by simp [h]),
    not_stops_external] at hstops
  obtain ⟨seed, hseed, hstops⟩ := hstops
  obtain ⟨account, haccount, -⟩ := not_stops_attempt.1 hstops
  exact hno seed account hseed haccount

/-- A call that does not hear of its transfer ends there, whether the transfer is finalized or
not. -/
theorem bootstrapStep_of_fund_not_ok {account : Keypair} (h : c.stored w = false)
    (hseed : c.outcomes.seed = .ok seed) (haccount : fromSecretKey seed = .ok account)
    (hfund : c.outcomes.fund.result ≠ .ok ()) :
    bootstrapStep lib blake2_256 fromSecretKey w c =
      if c.outcomes.fund.landed then w.fund (c.funding seed) else w := by
  obtain ⟨exit, hexit⟩ := submit_of_not_ok BootstrapAgentError.funding
    (World.fund (c.funding seed)) hfund w
  rw [bootstrapStep, after, run_of_not_stored h hseed haccount]
  exact after_bind_of_error hexit

/-- **A call without a transfer changes nothing.** -/
theorem bootstrapStep_of_not_funds (h : ∀ seed, ¬ Funds fromSecretKey w c seed) :
    bootstrapStep lib blake2_256 fromSecretKey w c = w := by
  cases hstored : c.stored w with
  | true => exact bootstrapStep_of_stored hstored
  | false =>
      by_cases hkey : ∃ seed account, c.outcomes.seed = .ok seed ∧ fromSecretKey seed = .ok account
      · obtain ⟨seed, account, hseed, haccount⟩ := hkey
        have hlanded : ¬ c.outcomes.fund.landed = true :=
          fun hlanded => h seed ⟨hstored, hseed, ⟨account, haccount⟩, hlanded⟩
        have hresult : c.outcomes.fund.result ≠ .ok () :=
          fun hresult => hlanded (c.outcomes.fund.landed_of_ok hresult)
        rw [bootstrapStep_of_fund_not_ok hstored hseed haccount hresult, if_neg hlanded]
      · have hno : ∀ seed account, c.outcomes.seed = .ok seed → fromSecretKey seed ≠ .ok account :=
          fun seed account hseed haccount => hkey ⟨seed, account, hseed, haccount⟩
        obtain ⟨exit, hexit⟩ := stops_of_no_account hstored hno
        exact after_of_error hexit

end

section

variable (lib : Lib) (blake2_256 : Bytes → Bytes32) (w : World) (c : BootstrapCall)
  (seed : Bytes32)

/-- What a call with a transfer leaves behind, by the step that ends it. -/
inductive Effect : World → Prop
  | funding (h : c.outcomes.fund.result ≠ .ok ()) : Effect (w.fund (c.funding seed))
  | registration (h : ¬ c.outcomes.register.Reported) :
      Effect (if c.outcomes.register.lands then
        (w.fund (c.funding seed)).register c.path (c.agent blake2_256)
      else w.fund (c.funding seed))
  | identity (h : ∀ disk, (c.saveIdentity lib blake2_256).run w.disk ≠ .ok () disk) :
      Effect { (w.fund (c.funding seed)).register c.path (c.agent blake2_256) with
        disk := after (c.saveIdentity lib blake2_256) w.disk }
  | account (hfund : c.outcomes.fund.result = .ok ()) (hregister : c.outcomes.register.Reported)
      (disk : Disk) (h : (c.saveIdentity lib blake2_256).run w.disk = .ok () disk) :
      Effect { (w.fund (c.funding seed)).register c.path (c.agent blake2_256) with
        disk := after (c.saveAccount lib blake2_256 seed) disk }

end

section

variable {Keypair : Type} {lib : Lib} {blake2_256 : Bytes → Bytes32}
  {fromSecretKey : Bytes32 → Except String Keypair} {w : World} {c : BootstrapCall}
  {seed : Bytes32}

theorem bootstrapStep_of_fund_ok {account : Keypair} (h : Funds fromSecretKey w c seed)
    (haccount : fromSecretKey seed = .ok account) (hfund : c.outcomes.fund.result = .ok ()) :
    bootstrapStep lib blake2_256 fromSecretKey w c =
      after (registerAndPersist lib blake2_256 c.outcomes c.dir c.label c.passphrase seed account)
        (w.fund (c.funding seed)) := by
  rw [bootstrapStep, after, run_of_not_stored h.not_stored h.seed_ok haccount]
  exact after_bind_of_ok (submit_of_ok _ _ hfund w)

theorem effect_of_funds (h : Funds fromSecretKey w c seed) :
    Effect lib blake2_256 w c seed (bootstrapStep lib blake2_256 fromSecretKey w c) := by
  obtain ⟨account, haccount⟩ := h.account_ok
  by_cases hfund : c.outcomes.fund.result = .ok ()
  · rw [bootstrapStep_of_fund_ok h haccount hfund, registerAndPersist]
    by_cases hregister : c.outcomes.register.Reported
    · have hagent := registerAgent_of_reported blake2_256 ⟨c.dir, c.label⟩ hregister
        (w.fund (c.funding seed))
      rw [after_bind_of_ok (run_wrapError_of_ok _ hagent)]
      rcases after_saves BootstrapAgentError.keyStore (c.saveIdentity lib blake2_256)
          (c.saveAccount lib blake2_256 seed)
          (BootstrappedAgent.mk (c.agent blake2_256).did account)
          ((w.fund (c.funding seed)).register c.path (c.agent blake2_256)) with
        ⟨disk, hsave, hafter⟩ | ⟨hsave, hafter⟩
      · exact hafter ▸ Effect.account hfund hregister disk hsave
      · exact hafter ▸ Effect.identity hsave
    · obtain ⟨exit, hexit⟩ := registerAgent_of_not_reported blake2_256 ⟨c.dir, c.label⟩ hregister
        (w.fund (c.funding seed))
      rw [after_bind_of_error (run_wrapError_of_error _ hexit)]
      exact Effect.registration hregister
  · rw [bootstrapStep_of_fund_not_ok h.not_stored h.seed_ok haccount hfund, if_pos h.landed]
    exact Effect.funding hfund

/-! ## What the transfer leads to -/

variable {w' : World}

theorem Effect.funded (h : Effect lib blake2_256 w c seed w') :
    w'.funded = w.funded ++ [c.funding seed] := by
  cases h with
  | funding => rfl
  | registration => split <;> rfl
  | identity => rfl
  | account => rfl

/-- A call that is not disturbed registers the agent and stores both keys. -/
theorem Effect.of_undisturbed (h : Effect lib blake2_256 w c seed w')
    (hu : Undisturbed lib blake2_256 w c seed) :
    w'.registered = w.registered ++ [(c.path, c.agent blake2_256)] ∧
      w.disk.Extends w'.disk ∧
      Loads lib w'.disk c.path c.passphrase (c.agent blake2_256).stored ∧
      Loads lib w'.disk (accountPath c.path) c.passphrase
        ⟨(c.agent blake2_256).did, seed.toList⟩ := by
  obtain ⟨json, hready⟩ := hu.identity
  cases h with
  | funding h => exact absurd hu.fund h
  | registration h => exact absurd hu.register h
  | identity h =>
      exact absurd (saveIdentity_ok.2 ⟨json, hready, hu.identityWrite, hu.identityPermissions, rfl⟩)
        (h _)
  | account hfund hregister disk hsave =>
      have hdisk : after (c.saveIdentity lib blake2_256) w.disk = disk := after_of_ok hsave
      have hidentity : Loads lib disk c.path c.passphrase (c.agent blake2_256).stored :=
        hdisk ▸ loads_of_written hready hu.identityWrite
      have hfirst : w.disk.Extends disk := hdisk ▸ saveIdentity_extends w.disk
      have hsecond : disk.Extends (after (c.saveAccount lib blake2_256 seed) disk) :=
        saveIdentity_extends disk
      obtain ⟨json', hready'⟩ := hu.account
      have habsent : disk (accountPath c.path) = none := by
        rw [← hdisk, ← hready'.absent]
        exact after_saveIdentity_ne (accountPath_ne c.path) w.disk
      exact ⟨rfl, hfirst.trans hsecond, hidentity.mono hsecond,
        loads_of_written (hready'.of_absent habsent) hu.accountWrite⟩

/-- A seed that is fresh can be loaded only after a call that was not disturbed. -/
theorem Effect.undisturbed (h : Effect lib blake2_256 w c seed w')
    (hfresh : ∀ did, ¬ Loads lib w.disk (accountPath c.path) c.passphrase ⟨did, seed.toList⟩)
    {did : Bytes32}
    (hloads : Loads lib w'.disk (accountPath c.path) c.passphrase ⟨did, seed.toList⟩) :
    Undisturbed lib blake2_256 w c seed := by
  have hfirst : after (c.saveIdentity lib blake2_256) w.disk (accountPath c.path) =
      w.disk (accountPath c.path) := after_saveIdentity_ne (accountPath_ne c.path) w.disk
  cases h with
  | funding h => exact absurd hloads (hfresh did)
  | registration h =>
      split at hloads
      · exact absurd hloads (hfresh did)
      · exact absurd hloads (hfresh did)
  | identity h => exact absurd ((Loads.congr hfirst).1 hloads) (hfresh did)
  | account hfund hregister disk hsave =>
      rw [after_of_ok hsave] at hfirst
      -- an account file that is there already is the old one, and does not hold the seed
      cases hexists : identityExists disk c.dir (accountLabel c.label) with
      | true =>
          have hsecond : after (c.saveAccount lib blake2_256 seed) disk = disk :=
            after_saveIdentity_of_exists hexists
          rw [hsecond] at hloads
          exact absurd ((Loads.congr hfirst).1 hloads) (hfresh did)
      | false =>
          obtain ⟨json, hready, hwrite, hpermissions, -⟩ := saveIdentity_ok.1 hsave
          obtain ⟨hwrite', json', hready'⟩ := written_of_loads hexists hloads
          exact {
            fund := hfund
            register := hregister
            identity := ⟨json, hready⟩
            identityWrite := hwrite
            identityPermissions := hpermissions
            account := ⟨json', hready'.of_absent (hfirst.symm.trans hready'.absent)⟩
            accountWrite := hwrite' }

/-! ## Sequences of calls -/

/-- Both keys of the call that made the transfer can be loaded. -/
def Kept (lib : Lib) (fromSecretKey : Bytes32 → Except String Keypair) (w : World) (f : Funding) :
    Prop :=
  ∃ did key account, fromSecretKey f.seed = .ok account ∧
    Loads lib w.disk f.path f.passphrase ⟨did, key⟩ ∧
    Loads lib w.disk (accountPath f.path) f.passphrase ⟨did, f.seed.toList⟩

/-- What holds between two calls if none was disturbed. -/
structure Inv (lib : Lib) (fromSecretKey : Bytes32 → Except String Keypair) (w : World) :
    Prop where
  funded_once : (w.funded.map Funding.path).Nodup
  registered_once : (w.registered.map Prod.fst).Nodup
  registered_funded : ∀ path ∈ w.registered.map Prod.fst, path ∈ w.funded.map Funding.path
  kept : ∀ f ∈ w.funded, Kept lib fromSecretKey w f

theorem Kept.mono {f : Funding} (h : Kept lib fromSecretKey w f) (hext : w.disk.Extends w'.disk) :
    Kept lib fromSecretKey w' f := by
  obtain ⟨did, key, account, hseed, hidentity, haccount⟩ := h
  exact ⟨did, key, account, hseed, hidentity.mono hext, haccount.mono hext⟩

theorem Inv.losesNothing (h : Inv lib fromSecretKey w) :
    LosesNothing lib blake2_256 fromSecretKey w where
  funded_once := h.funded_once
  registered_once := h.registered_once
  account_stored := by
    intro f hf
    obtain ⟨did, -, -, -, -, haccount⟩ := h.kept f hf
    exact ⟨did, haccount⟩
  resumes := by
    intro f hf
    obtain ⟨did, key, account, hseed, hidentity, haccount⟩ := h.kept f hf
    exact ⟨did, account, hseed, fun o hread hread' =>
      bootstrap_of_loads hidentity haccount hseed hread hread'⟩

/-- A label whose file does not exist was not funded yet. -/
theorem Inv.not_funded (h : Inv lib fromSecretKey w) {path : KeyPath}
    (habsent : w.disk path = none) :
    path ∉ w.funded.map Funding.path := by
  intro hpath
  obtain ⟨f, hf, rfl⟩ := List.mem_map.1 hpath
  obtain ⟨_, _, _, -, hidentity, -⟩ := h.kept f hf
  obtain ⟨-, content, hcontent, -⟩ := loads_iff.1 hidentity
  rw [habsent] at hcontent
  cases hcontent

/-- **The step.** A call that is not disturbed after its transfer keeps the invariant. -/
theorem Inv.step (h : Inv lib fromSecretKey w)
    (hok : ∀ seed, Funds fromSecretKey w c seed → Undisturbed lib blake2_256 w c seed) :
    Inv lib fromSecretKey (bootstrapStep lib blake2_256 fromSecretKey w c) := by
  by_cases hfunds : ∃ seed, Funds fromSecretKey w c seed
  · obtain ⟨seed, hfunds⟩ := hfunds
    have hu := hok seed hfunds
    have heffect : Effect lib blake2_256 w c seed _ := effect_of_funds hfunds
    obtain ⟨hregistered, hext, hidentity, haccount⟩ := heffect.of_undisturbed hu
    have hfunded := heffect.funded
    obtain ⟨json, hready⟩ := hu.identity
    obtain ⟨account, hseed⟩ := hfunds.account_ok
    -- the save of the identity finds no file, so this is the first transfer for the label
    have hnew := h.not_funded hready.absent
    have hnew' : c.path ∉ w.registered.map Prod.fst := fun hpath =>
      hnew (h.registered_funded c.path hpath)
    have hpaths : (bootstrapStep lib blake2_256 fromSecretKey w c).funded.map Funding.path =
        (w.funded.map Funding.path).concat c.path := by
      rw [hfunded, List.map_append, List.concat_eq_append]
      rfl
    have hpaths' : (bootstrapStep lib blake2_256 fromSecretKey w c).registered.map Prod.fst =
        (w.registered.map Prod.fst).concat c.path := by
      rw [hregistered, List.map_append, List.concat_eq_append]
      rfl
    refine ⟨?_, ?_, ?_, ?_⟩
    · rw [hpaths]
      exact h.funded_once.concat hnew
    · rw [hpaths']
      exact h.registered_once.concat hnew'
    · rw [hpaths, hpaths']
      intro path hpath
      simp only [List.concat_eq_append, List.mem_append] at hpath ⊢
      exact hpath.imp_left (h.registered_funded path)
    · intro f hf
      rw [hfunded, List.mem_append, List.mem_singleton] at hf
      rcases hf with hf | rfl
      · exact (h.kept f hf).mono hext
      · exact ⟨_, _, account, hseed, hidentity, haccount⟩
  · rw [bootstrapStep_of_not_funds (not_exists.1 hfunds)]
    exact h

end

/-! ## The result -/

/-- **When bootstrapping loses nothing.** If no call of a sequence is disturbed after its transfer,
then nothing is lost between any two calls. The converse holds for seeds that were not stored
before: the first call that is disturbed after its transfer loses the account. -/
theorem bootstrap_loses_nothing {Keypair : Type} (lib : Lib) (blake2_256 : Bytes → Bytes32)
    (fromSecretKey : Bytes32 → Except String Keypair) (disk : Disk) (calls : List BootstrapCall) :
    let step := bootstrapStep lib blake2_256 fromSecretKey
    let start : World := ⟨disk, [], []⟩
    ((∀ p ∈ trace step start calls, ∀ seed, Funds fromSecretKey p.1 p.2 seed →
        Undisturbed lib blake2_256 p.1 p.2 seed) →
      ∀ k, LosesNothing lib blake2_256 fromSecretKey (exec step start (calls.take k))) ∧
    ((∀ p ∈ trace step start calls, ∀ seed did, p.2.outcomes.seed = .ok seed →
        ¬ Loads lib p.1.disk (accountPath p.2.path) p.2.passphrase ⟨did, seed.toList⟩) →
      (∀ k, LosesNothing lib blake2_256 fromSecretKey (exec step start (calls.take k))) →
      ∀ p ∈ trace step start calls, ∀ seed, Funds fromSecretKey p.1 p.2 seed →
        Undisturbed lib blake2_256 p.1 p.2 seed) := by
  intro step start
  constructor
  · intro hok k
    have hstart : Inv lib fromSecretKey start := by
      refine ⟨List.nodup_nil, List.nodup_nil, ?_, ?_⟩
      · intro path hpath
        cases hpath
      · intro f hf
        cases hf
    have hinv := exec_invariant (Inv lib fromSecretKey)
      (fun w c => ∀ seed, Funds fromSecretKey w c seed → Undisturbed lib blake2_256 w c seed)
      (fun w c h hok => h.step hok) (calls.take k) start hstart
      (fun p hp => hok p (mem_trace_of_take hp))
    exact hinv.losesNothing
  · intro hfresh hall p hp seed hfunds
    have hlast := (forall_trace_of_take calls start hall p hp).2
    have heffect : Effect lib blake2_256 p.1 p.2 seed (step p.1 p.2) := effect_of_funds hfunds
    have hmem : p.2.funding seed ∈ (step p.1 p.2).funded := by
      rw [heffect.funded]
      exact List.mem_append_right _ (List.mem_singleton.2 rfl)
    obtain ⟨did, hloads⟩ := hlast.account_stored _ hmem
    exact heffect.undisturbed (fun did => hfresh p hp seed did hfunds.seed_ok) hloads

/-- A call in which everything goes through, with the `n`-th keys. -/
def undisturbedCall (n : UInt8) : BootstrapCall where
  outcomes := {
    readIdentity := .ok ()
    readAccount := .ok ()
    seed := .ok (List.Vector.replicate 32 n)
    fund := ChainOutcome.finalized
    register := RegisterOutcomes.finalized n
    saveIdentity := Mock.allOk
    saveAccount := Mock.allOk }
  dir := "keys"
  label := "alice"
  passphrase := "passphrase"

theorem bootstrap_loses_nothing_undisturbedCall :
    LosesNothing Mock.testLib tailHash Except.ok
      (exec (bootstrapStep Mock.testLib tailHash Except.ok) World.initial [undisturbedCall 1]) := by
  refine (bootstrap_loses_nothing Mock.testLib tailHash Except.ok StorageMap.empty
    [undisturbedCall 1]).1 ?_ 1
  intro p hp seed hfunds
  have hp' : p = (World.initial, undisturbedCall 1) := List.mem_singleton.1 hp
  subst hp'
  exact {
    fund := rfl
    register := ⟨rfl, rfl, rfl⟩
    identity := ⟨_, ready_allOk (by decide) rfl _ _ _⟩
    identityWrite := rfl
    identityPermissions := rfl
    account := ⟨_, ready_allOk (by decide) rfl _ _ _⟩
    accountWrite := rfl }

/-- A call in which the registration fails. -/
def disturbedCall (n : UInt8) : BootstrapCall :=
  { undisturbedCall n with
    outcomes := { (undisturbedCall n).outcomes with
      register := { RegisterOutcomes.finalized n with
        submit := ⟨false, .err "connection closed", nofun⟩ } } }

/-- The registration fails after the transfer; the second try pays for another account, and no seed
is stored. -/
theorem funded_twice :
    let w := exec (bootstrapStep Mock.testLib tailHash Except.ok) World.initial
      [disturbedCall 1, disturbedCall 2]
    w.funded.map Funding.path = [⟨"keys", "alice"⟩, ⟨"keys", "alice"⟩] ∧
    w.funded.map Funding.seed = [List.Vector.replicate 32 1, List.Vector.replicate 32 2] ∧
    (∀ path passphrase identity, ¬ Loads Mock.testLib w.disk path passphrase identity) ∧
    ¬ LosesNothing Mock.testLib tailHash Except.ok w := by
  intro w
  have hpaths : w.funded.map Funding.path = [⟨"keys", "alice"⟩, ⟨"keys", "alice"⟩] := rfl
  refine ⟨hpaths, rfl, ?_, ?_⟩
  · intro path passphrase identity h
    obtain ⟨-, content, hcontent, -⟩ := loads_iff.1 h
    cases hcontent
  · intro h
    have honce := h.funded_once
    rw [hpaths] at honce
    exact absurd honce (by decide)

end OffchainAgentRegistry
