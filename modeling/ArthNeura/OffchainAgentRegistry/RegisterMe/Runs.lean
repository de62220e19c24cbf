import ArthNeura.Codec.Utf8
import ArthNeura.Frame.Run
import ArthNeura.OffchainAgentRegistry.Client

set_option autoImplicit false

/-! # Runs of register-me

`register-me` generates a key, has it registered through the door, and saves it under a label in the
last of its steps. It does not look for a key that is stored under the label already, and the
keystore does not overwrite one. So the first run that comes to its end settles what is stored, and
every later run for the same label pays for an agent whose key is gone when the run ends
(`register_me_keeps_first_key`).

All errors of the program are panics. The answers of the door are outcomes: a status of 400 or more
makes `curl -sf` fail, which is a panic as well.
-/

namespace OffchainAgentRegistry.RegisterMe

open Frame Process Keystore

/-- The world of the client, with the two files that are written next to the keys. -/
structure Home where
  world : World
  /-- `controller.seed` of each directory. -/
  seedFile : StorageMap String Bytes
  /-- `owner.did` of each directory. -/
  didFile : StorageMap String Bytes

/-- What becomes of the steps of a run. -/
structure Outcomes where
  createDir : Outcome Unit
  signingKeyBytes : Bytes
  pubkeyBytes : Bytes
  /-- The challenge is asked for, read and signed. -/
  challenge : Outcome Unit
  register : ChainOutcome
  saveIdentity : SaveOutcomes
  /-- The seed of the own account, and the account that is made of it. -/
  seed : Outcome Bytes32
  fund : ChainOutcome
  accountChallenge : Outcome Unit
  /-- Whether the answer is without the member `error`. -/
  prepare : Outcome Bool
  /-- The door does not wait for the extrinsic, so the answer says nothing about its end. -/
  finishLanded : Bool
  finish : Outcome Unit
  saveAccount : SaveOutcomes
  writeSeed : WriteOutcome
  writeDid : WriteOutcome

/-- A run, with its environment variables. -/
structure Run where
  outcomes : Outcomes
  ownController : Bool
  dir : String
  keyLabel : String
  pass : String

def Run.path (c : Run) : KeyPath := ⟨c.dir, c.keyLabel⟩

/-! ## The program -/

abbrev MeM := Program Empty Home

/-- `expect` and `unwrap`. -/
def expect {α : Type} : Outcome α → MeM α
  | .ok a => pure a
  | .err _ => throw .panicked
  | .killed => throw .killed

/-- A request that makes the door submit a transaction. -/
def transact (landed : Bool) (result : Outcome Unit) (effect : World → World) : MeM Unit := do
  modify fun h => if landed then { h with world := effect h.world } else h
  expect result

/-- An error of the keystore is a panic. -/
def panics : Exit KeyStoreError → Exit Empty
  | .killed => .killed
  | _ => .panicked

def onKeystore {α : Type} (m : KeyM α) : MeM α :=
  zoom (fun h => h.world.disk) (fun disk h => { h with world := { h.world with disk := disk } })
    panics m

/-- `fs::write(..).expect(..)`, on one of the files next to the keys. -/
def writeNext (put : Option Bytes → Home → Home) (content : Bytes) (write : WriteOutcome) :
    MeM Unit := do
  modify (put (write.leaves content))
  match write with
  | .ok => return
  | .err _ _ => throw .panicked
  | .killed _ => throw .killed

def putSeedFile (dir : String) : Option Bytes → Home → Home
  | none, h => h
  | some content, h => { h with seedFile := h.seedFile.insert dir content }

def putDidFile (dir : String) : Option Bytes → Home → Home
  | none, h => h
  | some content, h => { h with didFile := h.didFile.insert dir content }

section

variable (lib : Lib) (blake2_256 : Bytes → Bytes32)

def Run.agent (c : Run) : RegisteredAgent :=
  ⟨deriveDid blake2_256 c.outcomes.pubkeyBytes, c.outcomes.signingKeyBytes⟩

def Run.saveIdentity (c : Run) : KeyM Unit :=
  Keystore.saveIdentity lib c.outcomes.saveIdentity c.dir c.keyLabel (c.agent blake2_256).did
    (c.agent blake2_256).signingKeyBytes c.pass

def Run.saveAccount (c : Run) (accountSeed : Bytes32) : KeyM Unit :=
  Keystore.saveIdentity lib c.outcomes.saveAccount c.dir (accountLabel c.keyLabel)
    (c.agent blake2_256).did accountSeed.toList c.pass

/-- What is stored after the registration with an own account. -/
def Run.persist (c : Run) (accountSeed : Bytes32) : MeM Unit := do
  onKeystore (c.saveIdentity lib blake2_256)
  onKeystore (c.saveAccount lib blake2_256 accountSeed)
  writeNext (putSeedFile c.dir) (Utf8.encode (Hex.encode accountSeed.toList).toList)
    c.outcomes.writeSeed
  writeNext (putDidFile c.dir)
    (Utf8.encode (Hex.encode (c.agent blake2_256).did.toList).toList) c.outcomes.writeDid

/-- The branch of `OWN_CONTROLLER=1`. -/
def Run.ownAccount (c : Run) : MeM Unit := do
  let o := c.outcomes
  let accountSeed ← expect o.seed
  transact o.fund.landed o.fund.result (World.fund ⟨c.path, c.pass, accountSeed⟩)
  expect o.accountChallenge
  let prepared ← expect o.prepare
  -- an answer with an error is printed, and the run ends
  if prepared then
    transact o.finishLanded o.finish (World.register c.path (c.agent blake2_256))
    c.persist lib blake2_256 accountSeed

/-- The branch in which the account of the door pays and controls. -/
def Run.doorAccount (c : Run) : MeM Unit := do
  let o := c.outcomes
  transact o.register.landed o.register.result (World.register c.path (c.agent blake2_256))
  onKeystore (c.saveIdentity lib blake2_256)

def Run.main (c : Run) : MeM Unit := do
  expect c.outcomes.createDir
  expect c.outcomes.challenge
  if c.ownController then c.ownAccount lib blake2_256 else c.doorAccount lib blake2_256

/-- The home after a run. -/
def step (h : Home) (c : Run) : Home := after (c.main lib blake2_256) h

end

/-! ## What a run pays for -/

def isOk {α : Type} : Outcome α → Bool
  | .ok _ => true
  | _ => false

/-- The run comes to the request that pays. -/
def Run.started (c : Run) : Bool := isOk c.outcomes.createDir && isOk c.outcomes.challenge

/-- The transfer of a run. -/
def Run.funded (c : Run) : List Funding :=
  match c.outcomes.seed with
  | .ok accountSeed =>
      if c.started && c.ownController && c.outcomes.fund.landed then
        [⟨c.path, c.pass, accountSeed⟩]
      else []
  | _ => []

/-- The agent of the run is registered. -/
def Run.registers (c : Run) : Bool :=
  let o := c.outcomes
  c.started &&
    if c.ownController then
      isOk o.seed && isOk o.fund.result && isOk o.accountChallenge &&
        (match o.prepare with
          | .ok prepared => prepared
          | _ => false) && o.finishLanded
    else o.register.landed

def Run.registered (blake2_256 : Bytes → Bytes32) (c : Run) : List (KeyPath × RegisteredAgent) :=
  if c.registers then [(c.path, c.agent blake2_256)] else []

/-- The world with what some runs have paid for. -/
def Home.paid (h : Home) (funded : List Funding) (registered : List (KeyPath × RegisteredAgent)) :
    Home :=
  { h with world := { h.world with
      funded := h.world.funded ++ funded
      registered := h.world.registered ++ registered } }

theorem Home.paid_nil (h : Home) : h.paid [] [] = h := by
  rw [Home.paid, List.append_nil, List.append_nil]

theorem Home.paid_paid (h : Home) (f₁ f₂ : List Funding)
    (r₁ r₂ : List (KeyPath × RegisteredAgent)) :
    (h.paid f₁ r₁).paid f₂ r₂ = h.paid (f₁ ++ f₂) (r₁ ++ r₂) := by
  simp only [Home.paid, List.append_assoc]

/-! ## Runs that cannot save the key -/

/-- No key can be saved under the path. -/
def Blocked (disk : Disk) (path : KeyPath) : Prop :=
  disk path ≠ none ∨ validateLabel path.label = false

section

variable {lib : Lib} {blake2_256 : Bytes → Bytes32} {h : Home} {c : Run}

/-- The program fails in `h'`, or it returns there, which it may do only if `mayReturn`. -/
def EndsIn (m : MeM Unit) (h h' : Home) (mayReturn : Bool) : Prop :=
  (∃ exit, m.run h = .error exit h') ∨ (mayReturn = true ∧ m.run h = .ok () h')

theorem EndsIn.expect {α : Type} {o : Outcome α} {f : α → MeM Unit} {h' : Home} {b : Bool}
    (hok : ∀ a, o = .ok a → EndsIn (f a) h h' b) (hno : isOk o = false → h = h') :
    EndsIn (expect o >>= f) h h' b := by
  cases o with
  | ok a => exact hok a rfl
  | err e => exact hno rfl ▸ Or.inl ⟨_, rfl⟩
  | killed => exact hno rfl ▸ Or.inl ⟨_, rfl⟩

/-- The home after a request, whether the client hears of it or not. -/
def Home.transacted (h : Home) (landed : Bool) (effect : World → World) : Home :=
  if landed then { h with world := effect h.world } else h

theorem EndsIn.transact {landed : Bool} {result : Outcome Unit} {effect : World → World}
    {f : Unit → MeM Unit} {h' : Home} {b : Bool}
    (hok : result = .ok () → EndsIn (f ()) (h.transacted landed effect) h' b)
    (hno : isOk result = false → h.transacted landed effect = h') :
    EndsIn (transact landed result effect >>= f) h h' b := by
  cases result with
  | ok a => exact hok rfl
  | err e => exact hno rfl ▸ Or.inl ⟨_, rfl⟩
  | killed => exact hno rfl ▸ Or.inl ⟨_, rfl⟩

theorem Blocked.paid {path : KeyPath} (hb : Blocked h.world.disk path) (funded : List Funding)
    (registered : List (KeyPath × RegisteredAgent)) :
    Blocked (h.paid funded registered).world.disk path := hb

/-- The keystore refuses the key, whatever comes after. -/
theorem endsIn_save_of_blocked (hb : Blocked h.world.disk c.path) (b : Bool) :
    EndsIn (onKeystore (c.saveIdentity lib blake2_256)) h h b := by
  have hstops : Stops (c.saveIdentity lib blake2_256) h.world.disk := by
    refine saveIdentity_stops fun json hready => ?_
    rcases hb with hfile | hlabel
    · exact hfile hready.absent
    · exact absurd (hready.label.symm.trans hlabel) (by decide)
  obtain ⟨exit, hexit⟩ := hstops
  exact Or.inl ⟨_, run_zoom_error.2 ⟨exit, _, hexit, rfl, rfl⟩⟩

theorem endsIn_persist_of_blocked (hb : Blocked h.world.disk c.path) (accountSeed : Bytes32)
    (b : Bool) : EndsIn (c.persist lib blake2_256 accountSeed) h h b := by
  rcases endsIn_save_of_blocked hb false with ⟨exit, hexit⟩ | ⟨hfalse, -⟩
  · exact Or.inl ⟨exit, run_bind_error.2 (Or.inl hexit)⟩
  · cases hfalse

theorem Home.transacted_fund (h : Home) (landed : Bool) (f : Funding) :
    h.transacted landed (World.fund f) = h.paid (if landed then [f] else []) [] := by
  cases landed with
  | false => exact h.paid_nil.symm
  | true => simp [Home.transacted, Home.paid, World.fund]

theorem Home.transacted_register (h : Home) (landed : Bool) (path : KeyPath)
    (agent : RegisteredAgent) :
    h.transacted landed (World.register path agent)
      = h.paid [] (if landed then [(path, agent)] else []) := by
  cases landed with
  | false => exact h.paid_nil.symm
  | true => simp [Home.transacted, Home.paid, World.register]

theorem registered_of_not (hno : c.registers = false) : c.registered blake2_256 = [] := by
  rw [Run.registered, hno]
  rfl

theorem paid_of_not_started (hno : c.started = false) :
    h = h.paid c.funded (c.registered blake2_256) := by
  have hregisters : c.registers = false := by rw [Run.registers, hno, Bool.false_and]
  have hfunded : c.funded = [] := by
    rw [Run.funded, hno]
    cases c.outcomes.seed <;> rfl
  rw [hfunded, registered_of_not hregisters, h.paid_nil]

theorem ownAccount_of_blocked (hb : Blocked h.world.disk c.path) (hstarted : c.started = true)
    (hown : c.ownController = true) :
    EndsIn (c.ownAccount lib blake2_256) h (h.paid c.funded (c.registered blake2_256))
      (!c.registers) := by
  apply EndsIn.expect
  · intro accountSeed hseed
    have hfunded : c.funded = if c.outcomes.fund.landed then
        [⟨c.path, c.pass, accountSeed⟩] else [] := by
      simp only [Run.funded, hseed, hstarted, hown, Bool.true_and]
    -- a run that ends after the transfer has paid for the account only
    have hstop : c.registers = false →
        h.transacted c.outcomes.fund.landed (World.fund ⟨c.path, c.pass, accountSeed⟩)
          = h.paid c.funded (c.registered blake2_256) := by
      intro hno
      rw [Home.transacted_fund, hfunded, registered_of_not hno]
    apply EndsIn.transact
    · intro hfund
      apply EndsIn.expect
      · intro _ haccount
        apply EndsIn.expect
        · intro prepared hprepare
          have hregisters : c.registers = (prepared && c.outcomes.finishLanded) := by
            simp [Run.registers, hstarted, hown, hseed, hfund, haccount, hprepare, isOk]
          cases prepared with
          | false => exact Or.inr ⟨by rw [hregisters]; rfl, by rw [hstop hregisters]; rfl⟩
          | true =>
              have hpaid : (h.transacted c.outcomes.fund.landed
                  (World.fund ⟨c.path, c.pass, accountSeed⟩)).transacted c.outcomes.finishLanded
                    (World.register c.path (c.agent blake2_256))
                    = h.paid c.funded (c.registered blake2_256) := by
                rw [Home.transacted_fund, Home.transacted_register, Home.paid_paid,
                  List.append_nil, List.nil_append, hfunded, Run.registered, hregisters,
                  Bool.true_and]
              apply EndsIn.transact
              · intro _
                rw [hpaid]
                exact endsIn_persist_of_blocked (hb.paid ..) accountSeed _
              · exact fun _ => hpaid
        · intro hno
          apply hstop
          cases hprepare : c.outcomes.prepare with
          | ok prepared => rw [hprepare] at hno; cases hno
          | err e => simp [Run.registers, hown, hprepare]
          | killed => simp [Run.registers, hown, hprepare]
      · intro hno
        apply hstop
        simp [Run.registers, hown, hno]
    · intro hno
      apply hstop
      simp [Run.registers, hown, hno]
  · intro hno
    have hregisters : c.registers = false := by simp [Run.registers, hown, hno]
    have hfunded : c.funded = [] := by
      cases hseed : c.outcomes.seed with
      | ok accountSeed => rw [hseed] at hno; cases hno
      | err e => rw [Run.funded, hseed]
      | killed => rw [Run.funded, hseed]
    rw [hfunded, registered_of_not hregisters, h.paid_nil]

theorem doorAccount_of_blocked (hb : Blocked h.world.disk c.path) (hstarted : c.started = true)
    (hown : ¬ c.ownController = true) :
    EndsIn (c.doorAccount lib blake2_256) h (h.paid c.funded (c.registered blake2_256))
      (!c.registers) := by
  have hfunded : c.funded = [] := by
    rw [Run.funded]
    cases c.outcomes.seed <;> simp [hown]
  have hpaid : h.transacted c.outcomes.register.landed
      (World.register c.path (c.agent blake2_256))
        = h.paid c.funded (c.registered blake2_256) := by
    rw [Home.transacted_register, hfunded, Run.registered]
    simp [Run.registers, hstarted, hown]
  apply EndsIn.transact
  · intro _
    rw [hpaid]
    exact endsIn_save_of_blocked (hb.paid ..) _
  · exact fun _ => hpaid

/-- **The step.** A run that cannot save its key leaves what it has paid for, and does not return if
it has registered the agent. -/
theorem main_of_blocked (hb : Blocked h.world.disk c.path) :
    EndsIn (c.main lib blake2_256) h (h.paid c.funded (c.registered blake2_256))
      (!c.registers) := by
  apply EndsIn.expect
  · intro _ hcreate
    apply EndsIn.expect
    · intro _ hchallenge
      have hstarted : c.started = true := by
        rw [Run.started, hcreate, hchallenge]
        rfl
      by_cases hown : c.ownController = true
      · rw [if_pos hown]
        exact ownAccount_of_blocked hb hstarted hown
      · rw [if_neg hown]
        exact doorAccount_of_blocked hb hstarted hown
    · intro hno
      exact paid_of_not_started (by rw [Run.started, hno, Bool.and_false])
  · intro hno
    exact paid_of_not_started (by rw [Run.started, hno, Bool.false_and])

theorem EndsIn.after_eq {m : MeM Unit} {h' : Home} {b : Bool} (hends : EndsIn m h h' b) :
    after m h = h' := by
  rcases hends with ⟨exit, hexit⟩ | ⟨-, hok⟩
  · exact after_of_error hexit
  · exact after_of_ok hok

theorem step_of_blocked (hb : Blocked h.world.disk c.path) :
    step lib blake2_256 h c = h.paid c.funded (c.registered blake2_256) :=
  (main_of_blocked hb).after_eq

/-- **The run.** All runs for a blocked path together. -/
theorem exec_of_blocked {path : KeyPath} (runs : List Run) (hpath : ∀ c ∈ runs, c.path = path) :
    ∀ h : Home, Blocked h.world.disk path →
      exec (step lib blake2_256) h runs
        = h.paid (runs.flatMap Run.funded) (runs.flatMap (Run.registered blake2_256)) := by
  induction runs with
  | nil =>
      intro h _
      exact h.paid_nil.symm
  | cons c runs ih =>
      intro h hb
      have hc : c.path = path := hpath c (List.mem_cons_self ..)
      have hrest := ih fun c' hc' => hpath c' (List.mem_cons_of_mem _ hc')
      rw [exec_cons, step_of_blocked (hc ▸ hb), hrest _ (hb.paid ..), Home.paid_paid]
      rfl

theorem not_returns_of_blocked {path : KeyPath} {runs : List Run}
    (hpath : ∀ c ∈ runs, c.path = path) (hb : Blocked h.world.disk path) :
    ∀ p ∈ trace (step lib blake2_256) h runs, p.2.registers = true →
      ∀ h', (p.2.main lib blake2_256).run p.1 ≠ .ok () h' := by
  have hstep : ∀ (g : Home) (c : Run), Blocked g.world.disk path → c.path = path →
      Blocked (step lib blake2_256 g c).world.disk path := by
    intro g c hg hc
    rw [step_of_blocked (hc ▸ hg)]
    exact hg.paid ..
  have hall : ∀ p ∈ trace (step lib blake2_256) h runs, p.2.path = path :=
    fun p hp => hpath p.2 (mem_of_mem_trace hp)
  intro p hp hregisters h' hok
  have hp' : Blocked p.1.world.disk path :=
    trace_invariant (fun g => Blocked g.world.disk path) _ hstep runs h hb hall p hp
  have hends : EndsIn (p.2.main lib blake2_256) p.1 _ _ := main_of_blocked (hall p hp ▸ hp')
  rcases hends with ⟨exit, hexit⟩ | ⟨hreturns, -⟩
  · rw [hok] at hexit
    cases hexit
  · rw [hregisters] at hreturns
    cases hreturns

/-! ## A run that returns -/

theorem run_expect_ok {α : Type} {o : Outcome α} {f : α → MeM Unit} {h' : Home}
    (hrun : (expect o >>= f).run h = .ok () h') : ∃ a, o = .ok a ∧ (f a).run h = .ok () h' := by
  cases o with
  | ok a => exact ⟨a, rfl, hrun⟩
  | err e => cases hrun
  | killed => cases hrun

theorem run_transact_ok {landed : Bool} {result : Outcome Unit} {effect : World → World}
    {f : Unit → MeM Unit} {h' : Home}
    (hrun : (transact landed result effect >>= f).run h = .ok () h') :
    (f ()).run (h.transacted landed effect) = .ok () h' := by
  cases result with
  | ok a => exact hrun
  | err e => cases hrun
  | killed => cases hrun

/-- The run comes to the save if it returns: the door has not answered with an error. -/
def Run.prepared (c : Run) : Prop := c.ownController = true → c.outcomes.prepare = .ok true

theorem writeNext_disk {put : Option Bytes → Home → Home}
    (hput : ∀ content h, (put content h).world = h.world) {content : Bytes} {write : WriteOutcome}
    {h' : Home} (hrun : (writeNext put content write).run h = .ok () h') : h'.world = h.world := by
  cases write with
  | ok =>
      cases hrun
      exact hput _ h
  | err e written => cases hrun
  | killed written => cases hrun

theorem putSeedFile_world (dir : String) (content : Option Bytes) (h : Home) :
    (putSeedFile dir content h).world = h.world := by
  cases content <;> rfl

theorem putDidFile_world (dir : String) (content : Option Bytes) (h : Home) :
    (putDidFile dir content h).world = h.world := by
  cases content <;> rfl

theorem loads_of_save {h' : Home}
    (hrun : (onKeystore (c.saveIdentity lib blake2_256)).run h = .ok () h') :
    Loads lib h'.world.disk c.path c.pass (c.agent blake2_256).stored := by
  obtain ⟨disk, hsave, rfl⟩ := run_zoom_ok.1 hrun
  obtain ⟨json, hready, hwrite, -, -⟩ := saveIdentity_ok.1 hsave
  have hdisk : after (c.saveIdentity lib blake2_256) h.world.disk = disk := after_of_ok hsave
  exact hdisk ▸ loads_of_written hready hwrite

theorem loads_of_persist {accountSeed : Bytes32} {h' : Home}
    (hrun : (c.persist lib blake2_256 accountSeed).run h = .ok () h') :
    Loads lib h'.world.disk c.path c.pass (c.agent blake2_256).stored := by
  obtain ⟨_, h₁, hsave, hrun⟩ := run_bind_ok.1 hrun
  obtain ⟨_, h₂, haccount, hrun⟩ := run_bind_ok.1 hrun
  obtain ⟨_, h₃, hseed, hdid⟩ := run_bind_ok.1 hrun
  obtain ⟨disk, hsecond, rfl⟩ := run_zoom_ok.1 haccount
  have hext : h₁.world.disk.Extends disk := by
    have hdisk : after (c.saveAccount lib blake2_256 accountSeed) h₁.world.disk = disk :=
      after_of_ok hsecond
    exact hdisk ▸ saveIdentity_extends h₁.world.disk
  rw [writeNext_disk (putDidFile_world c.dir) hdid, writeNext_disk (putSeedFile_world c.dir) hseed]
  exact (loads_of_save hsave).mono hext

theorem loads_of_returns (hprepared : c.prepared) {h' : Home}
    (hrun : (c.main lib blake2_256).run h = .ok () h') :
    Loads lib h'.world.disk c.path c.pass (c.agent blake2_256).stored := by
  obtain ⟨_, -, hrun⟩ := run_expect_ok hrun
  obtain ⟨_, -, hrun⟩ := run_expect_ok hrun
  by_cases hown : c.ownController = true
  · rw [if_pos hown] at hrun
    obtain ⟨accountSeed, -, hrun⟩ := run_expect_ok hrun
    obtain ⟨_, -, hrun⟩ := run_expect_ok (run_transact_ok hrun)
    obtain ⟨prepared, hprepare, hrun⟩ := run_expect_ok hrun
    rw [hprepared hown] at hprepare
    cases hprepare
    exact loads_of_persist (run_transact_ok hrun)
  · rw [if_neg hown] at hrun
    exact loads_of_save (run_transact_ok hrun)

end

/-- **Only the first key of a label is kept.** After a run that has come to its end, the key of its
agent can be loaded, and stays so. Every later run for the same directory and label, whatever
becomes of its steps, changes no file and pays in vain: it leaves the transfer and the registration
that it has brought about, and if it has registered an agent then it does not return. -/
theorem register_me_keeps_first_key (lib : Lib) (blake2_256 : Bytes → Bytes32) (first : Run)
    (hprepared : first.prepared) (h₀ h : Home)
    (hfirst : (first.main lib blake2_256).run h₀ = .ok () h) (later : List Run)
    (hpath : ∀ c ∈ later, c.path = first.path) :
    Loads lib (exec (step lib blake2_256) h later).world.disk first.path first.pass
        (first.agent blake2_256).stored ∧
      exec (step lib blake2_256) h later
        = h.paid (later.flatMap Run.funded) (later.flatMap (Run.registered blake2_256)) ∧
      ∀ p ∈ trace (step lib blake2_256) h later, p.2.registers = true →
        ∀ h', (p.2.main lib blake2_256).run p.1 ≠ .ok () h' := by
  have hloads := loads_of_returns hprepared hfirst
  have hb : Blocked h.world.disk first.path := by
    obtain ⟨-, content, hcontent, -⟩ := loads_iff.1 hloads
    exact Or.inl (by rw [hcontent]; simp)
  have hexec : exec (step lib blake2_256) h later = _ := exec_of_blocked later hpath h hb
  refine ⟨?_, hexec, not_returns_of_blocked hpath hb⟩
  rw [hexec]
  exact hloads

/-- A run with the `n`-th key in which everything goes through, as far as it depends on others. -/
def testRun (n : UInt8) : Run where
  outcomes := {
    createDir := .ok ()
    signingKeyBytes := [n]
    pubkeyBytes := [n]
    challenge := .ok ()
    register := ChainOutcome.finalized
    saveIdentity := Mock.allOk
    seed := .ok (List.Vector.replicate 32 n)
    fund := ChainOutcome.finalized
    accountChallenge := .ok ()
    prepare := .ok true
    finishLanded := true
    finish := .ok ()
    saveAccount := Mock.allOk
    writeSeed := .ok
    writeDid := .ok }
  ownController := false
  dir := "agents"
  keyLabel := "me"
  pass := "dev-passphrase"

def Home.initial : Home := ⟨World.initial, .empty, .empty⟩

theorem testRun_returns :
    ∃ h, ((testRun 1).main Mock.testLib tailHash).run Home.initial = .ok () h := by
  obtain ⟨disk, hsave⟩ : ∃ disk,
      ((testRun 1).saveIdentity Mock.testLib tailHash).run World.initial.disk = .ok () disk :=
    ⟨_, saveIdentity_ok.2 ⟨_, ready_allOk (by decide) rfl _ _ _, rfl, rfl, rfl⟩⟩
  exact ⟨_, run_zoom_ok.2 ⟨disk, hsave, rfl⟩⟩

/-- The second agent is registered, and the key of the first one is stored. -/
theorem register_me_keeps_first_key_twice :
    ∃ h, ((testRun 1).main Mock.testLib tailHash).run Home.initial = .ok () h ∧
      Loads Mock.testLib (exec (step Mock.testLib tailHash) h [testRun 2]).world.disk
        ⟨"agents", "me"⟩ "dev-passphrase" ((testRun 1).agent tailHash).stored ∧
      (exec (step Mock.testLib tailHash) h [testRun 2]).world.registered
        = h.world.registered ++ [(⟨"agents", "me"⟩, (testRun 2).agent tailHash)] := by
  obtain ⟨h, hfirst⟩ := testRun_returns
  have hprepared : (testRun 1).prepared := by
    intro hown
    cases hown
  have hpath : ∀ c ∈ [testRun 2], c.path = (testRun 1).path := by
    intro c hc
    rw [List.mem_singleton.1 hc]
    rfl
  obtain ⟨hloads, hexec, -⟩ := register_me_keeps_first_key Mock.testLib tailHash (testRun 1)
    hprepared Home.initial h hfirst [testRun 2] hpath
  refine ⟨h, hfirst, hloads, ?_⟩
  rw [hexec]
  rfl

end OffchainAgentRegistry.RegisterMe
