import ArthNeura.Market.Deal
import ArthNeura.Runtime.Terms

set_option autoImplicit false

/-! # The runtime carries out deals

The two pallets keep four records under an identifier, and seven calls act on them. Together they
are one deal (`Market.Deal`): every call that goes through is one transition of the deal under its
identifier, and nothing else that happens on the chain touches it
(`runtime_refines_market`). An identifier under which nothing is stored may be new or may belong to
an offer that has lapsed, so the abstraction is a relation and not a function of the state; that a
lapsed offer is not made again rests on the hash (`Anchored`).
-/

namespace Runtime

open Frame VectorDb Market

variable {AccountId : Type} [DecidableEq AccountId] {cfg : Config AccountId}

/-- The escrow of a deal with the given terms. -/
def Escrowed (e : Entry AccountId) (status : Escrow.EscrowStatus) (price : Nat)
    (payer payee : AccountId) : Prop :=
  ∃ lockedAt, e.escrow = some ⟨payer, payee, price, status, lockedAt⟩

/-- The commitment of a deal with the given price. -/
def Recorded (e : Entry AccountId) (status : CommitmentStatus) (price : Nat) : Prop :=
  ∃ c, e.commitment = some c ∧ c.status = status ∧ c.price = price

/-- The deal that the records under an identifier stand for. -/
def Describes (e : Entry AccountId) : Deal AccountId → Prop
  | .unborn | .lapsed => e.commitment = none ∧ e.escrow = none
  | .offered price => Recorded e .pending price ∧ e.escrow = none
  | .funded price payer payee => Recorded e .active price ∧ Escrowed e .locked price payer payee
  | .contested price payer payee =>
      Recorded e .disputed price ∧ Escrowed e .locked price payer payee
  | .paid price payer payee =>
      (Recorded e .settled price ∨ Recorded e .disputeResolved price) ∧
        Escrowed e .released price payer payee
  | .returned price payer payee =>
      Recorded e .disputeResolved price ∧ Escrowed e .refunded price payer payee
  | .abandoned price payer payee => e.commitment = none ∧ Escrowed e .locked price payer payee

section

variable {AccountId : Type} {e : Entry AccountId} {d : Deal AccountId} {c : VectorCommitment}

theorem Recorded.of_some {status : CommitmentStatus} {price : Nat} (h : Recorded e status price)
    (hc : e.commitment = some c) : c.status = status ∧ c.price = price := by
  obtain ⟨c', hc', hst, hprice⟩ := h
  cases hc.symm.trans hc'
  exact ⟨hst, hprice⟩

/-! The deal can be read off the status of a commitment that is open. -/

theorem Describes.of_pending (h : Describes e d) (hc : e.commitment = some c)
    (hst : c.status = .pending) : d = .offered c.price ∧ e.escrow = none := by
  cases d with
  | offered price =>
      obtain ⟨-, hprice⟩ := h.1.of_some hc
      rw [hprice]
      exact ⟨rfl, h.2⟩
  | unborn | lapsed | abandoned _ _ _ => cases hc.symm.trans h.1
  | funded _ _ _ | contested _ _ _ | returned _ _ _ => cases hst.symm.trans (h.1.of_some hc).1
  | paid _ _ _ =>
      rcases h.1 with h | h
      · cases hst.symm.trans (h.of_some hc).1
      · cases hst.symm.trans (h.of_some hc).1

theorem Describes.of_active (h : Describes e d) (hc : e.commitment = some c)
    (hst : c.status = .active) :
    ∃ payer payee, d = .funded c.price payer payee ∧ Escrowed e .locked c.price payer payee := by
  cases d with
  | funded price payer payee =>
      obtain ⟨-, hprice⟩ := h.1.of_some hc
      rw [hprice]
      exact ⟨payer, payee, rfl, h.2⟩
  | unborn | lapsed | abandoned _ _ _ => cases hc.symm.trans h.1
  | offered _ | contested _ _ _ | returned _ _ _ => cases hst.symm.trans (h.1.of_some hc).1
  | paid _ _ _ =>
      rcases h.1 with h | h
      · cases hst.symm.trans (h.of_some hc).1
      · cases hst.symm.trans (h.of_some hc).1

theorem Describes.of_disputed (h : Describes e d) (hc : e.commitment = some c)
    (hst : c.status = .disputed) :
    ∃ payer payee, d = .contested c.price payer payee ∧ Escrowed e .locked c.price payer payee := by
  cases d with
  | contested price payer payee =>
      obtain ⟨-, hprice⟩ := h.1.of_some hc
      rw [hprice]
      exact ⟨payer, payee, rfl, h.2⟩
  | unborn | lapsed | abandoned _ _ _ => cases hc.symm.trans h.1
  | offered _ | funded _ _ _ | returned _ _ _ => cases hst.symm.trans (h.1.of_some hc).1
  | paid _ _ _ =>
      rcases h.1 with h | h
      · cases hst.symm.trans (h.of_some hc).1
      · cases hst.symm.trans (h.of_some hc).1

/-- A locked escrow that is settled keeps its terms. -/
theorem Escrowed.settle {e' : Entry AccountId} {status : Escrow.EscrowStatus} {price : Nat}
    {payer payee : AccountId} {record : Escrow.EscrowRecord AccountId}
    (h : Escrowed e .locked price payer payee) (hrec : e.escrow = some record)
    (hrec' : e'.escrow = some { record with status := status }) :
    Escrowed e' status price payer payee := by
  obtain ⟨lockedAt, hheld⟩ := h
  cases hrec.symm.trans hheld
  exact ⟨lockedAt, hrec'⟩

end

/-! ## One step -/

/-- The deal under `id`. A deal that was offered has its terms behind the identifier. -/
structure Simulates (U : Set Bytes) (id : CommitmentId) (s : State cfg) (d : Deal AccountId) :
    Prop where
  describes : Describes (entry s id) d
  issued : d ≠ .unborn → ∃ c₀ : VectorCommitment, c₀.commitmentId = id ∧ Anchored U c₀ s

/-- A call on `id` that goes through. -/
def callsOn (id : CommitmentId) (s : State cfg) : Input AccountId → Bool
  | .call origin (.vectorDb c) =>
      decide (c.target cfg.vectorDb s = id) && succeeds (c.run cfg.vectorDb origin) s
  | .call _ (.agentRegistry _) | .newBlocks _ _ => false

section

variable {U : Set Bytes} {s s' : State cfg}

/-- A successful call is a transition of the deal under its identifier, and only a registration
begins a deal. -/
theorem CallEffect.refines {origin : Origin AccountId} {call : VectorDb.Call}
    {d : Deal AccountId} (h : CallEffect s s' origin call)
    (hnew : ∀ b, hashes s (.call origin (.vectorDb call)) = some b →
      s.storage.vectorCommitments (call.target cfg.vectorDb s) = none → d = .unborn)
    (hd : Describes (entry s (call.target cfg.vectorDb s)) d) :
    (d = .unborn → hashes s (.call origin (.vectorDb call)) ≠ none) ∧
    ∃ d', Market.Step d d' ∧ Describes (entry s' (call.target cfg.vectorDb s)) d' := by
  cases h with
  | @register _ _ _ _ _ _ _ price c _ _ _ _ _ _ _ _ hc hnone hrec hext =>
      subst hc
      obtain rfl := hnew _ rfl hnone
      refine ⟨by simp [hashes], .offered price, .offer price,
        ⟨_, congrArg Records.commitment hrec, rfl, rfl⟩, ?_⟩
      show s'.ext.escrow.escrows _ = none
      rw [hext]
      exact hd.2
  | @acknowledge id did who payee c ledger _ hc hst _ _ _ _ _ _ hrec hext =>
      obtain ⟨rfl, -⟩ := hd.of_pending hc hst
      refine ⟨by simp, .funded c.price who payee, .fund _ _ _, ?_⟩
      rw [Call.target, entry_eq hrec, hext]
      exact ⟨⟨_, rfl, rfl, rfl⟩, _, locked_escrows s.ext id who payee c.price ledger⟩
  | close _ hc hst _ _ _ _ hescrow _ _ hrec hext =>
      obtain ⟨payer, payee, rfl, hheld⟩ := hd.of_active hc hst
      refine ⟨by simp, .paid _ payer payee, .pay _ _ _, ?_⟩
      rw [Call.target, entry_eq hrec]
      refine ⟨Or.inl ⟨_, rfl, rfl, rfl⟩, hheld.settle hescrow ?_⟩
      rw [hext, released_escrows]
  | raise _ hc hst _ _ _ _ _ hrec hext =>
      obtain ⟨payer, payee, rfl, hheld⟩ := hd.of_active hc hst
      refine ⟨by simp, .contested _ payer payee, .contest _ _ _, ?_⟩
      rw [Call.target, entry_eq hrec, hext]
      exact ⟨⟨_, rfl, rfl, rfl⟩, hheld⟩
  | counter _ hc hst _ _ _ _ _ _ hescrow _ _ hrec hext =>
      obtain ⟨payer, payee, rfl, hheld⟩ := hd.of_disputed hc hst
      refine ⟨by simp, .paid _ payer payee, .clear _ _ _, ?_⟩
      rw [Call.target, entry_eq hrec]
      refine ⟨Or.inr ⟨_, rfl, rfl, rfl⟩, hheld.settle hescrow ?_⟩
      rw [hext, penalizeFalseDisputer_escrow, released_escrows]
  | finalize _ hc hst _ _ hescrow _ hrec hext =>
      obtain ⟨payer, payee, rfl, hheld⟩ := hd.of_disputed hc hst
      refine ⟨by simp, .returned _ payer payee, .convict _ _ _, ?_⟩
      rw [Call.target, entry_eq hrec]
      refine ⟨⟨_, rfl, rfl, rfl⟩, hheld.settle hescrow ?_⟩
      rw [hext, penalizeProvider_escrow, refunded_escrows]
  | expire _ hc hst _ hrec hext =>
      -- an offer lapses, a funded deal is abandoned
      rcases hst with hst | hst
      · obtain ⟨rfl, hfree⟩ := hd.of_pending hc hst
        refine ⟨by simp, .lapsed, .lapse _, ?_⟩
        rw [Call.target, entry_eq hrec, hext]
        exact ⟨rfl, hfree⟩
      · obtain ⟨payer, payee, rfl, hheld⟩ := hd.of_active hc hst
        refine ⟨by simp, .abandoned _ payer payee, .abandon _ _ _, ?_⟩
        rw [Call.target, entry_eq hrec, hext]
        exact ⟨rfl, hheld⟩

/-- An identifier without a commitment that a call is about to issue is new. -/
theorem Simulates.unborn (hinj : Set.InjOn cfg.registry.blake2_256 U) {origin : Origin AccountId}
    {call : VectorDb.Call} {d : Deal AccountId}
    (h : Simulates U (call.target cfg.vectorDb s) s d) (hmax : now s ≤ u32Max)
    (hU : ∀ b, hashes s (.call origin (.vectorDb call)) = some b → b ∈ U) (b : Bytes)
    (hb : hashes s (.call origin (.vectorDb call)) = some b)
    (hnone : s.storage.vectorCommitments (call.target cfg.vectorDb s) = none) : d = .unborn := by
  by_contra hd
  obtain ⟨c₀, hid, ha⟩ := h.issued hd
  rw [← hid] at hnone
  cases call with
  | registerCommitment provider consumer merkleRoot totalChunks metadata expires price =>
      exact ha.not_reissued hinj hmax (hU _ rfl) hid.symm hnone
  | _ => cases hb

/-- A call that issues an identifier anchors its terms. -/
theorem anchored_of_hashes {origin : Origin AccountId} {call : VectorDb.Call}
    (hok : (call.run cfg.vectorDb origin).run s = .ok () s')
    (hhash : hashes s (.call origin (.vectorDb call)) ≠ none)
    (hU : ∀ b, hashes s (.call origin (.vectorDb call)) = some b → b ∈ U) (hmax : now s < u32Max) :
    ∃ c₀ : VectorCommitment, c₀.commitmentId = call.target cfg.vectorDb s ∧ Anchored U c₀ s' := by
  cases call with
  | registerCommitment provider consumer merkleRoot totalChunks metadata expires price =>
      exact ⟨_, rfl, anchored_register hok (hU _ rfl) hmax⟩
  | _ => exact absurd rfl hhash

theorem Simulates.move (hinj : Set.InjOn cfg.registry.blake2_256 U) {id : CommitmentId}
    {d : Deal AccountId} (h : Simulates U id s d) {i : Input AccountId} (hmax : now s < u32Max)
    (hU : ∀ b, hashes s i = some b → b ∈ U) (hcall : callsOn id s i = true) :
    ∃ d', Market.Step d d' ∧ Simulates U id (step s i) d' := by
  match i with
  | .newBlocks _ _ => cases hcall
  | .call _ (.agentRegistry _) => cases hcall
  | .call origin (.vectorDb c) =>
      obtain ⟨hid, hsucc⟩ := Bool.and_eq_true_iff.mp hcall
      obtain rfl := of_decide_eq_true hid
      obtain ⟨s', hok⟩ := succeeds_iff.mp hsucc
      have hstep : step s (.call origin (.vectorDb c)) = s' := dispatch_of_ok hok
      obtain ⟨hbegin, d', hmove, hd'⟩ := (vectorDb_effect hok).refines (h.unborn hinj hmax.le hU)
        h.describes
      rw [hstep]
      refine ⟨d', hmove, hd', fun _ => ?_⟩
      by_cases hd : d = .unborn
      · exact anchored_of_hashes hok (hbegin hd) hU hmax
      · obtain ⟨c₀, hid, ha⟩ := h.issued hd
        rw [← hstep]
        exact ⟨c₀, hid, ha.step hinj hmax.le _ hU⟩

theorem Simulates.stay (hinj : Set.InjOn cfg.registry.blake2_256 U) {id : CommitmentId}
    {d : Deal AccountId} (h : Simulates U id s d) {i : Input AccountId} (hmax : now s < u32Max)
    (hU : ∀ b, hashes s i = some b → b ∈ U) (hcall : callsOn id s i = false) :
    Simulates U id (step s i) d := by
  have hentry : entry (step s i) id = entry s id := by
    rcases step_effect s i with ⟨origin, c, rfl, hsucc, -, hframe⟩ | hp
    · apply hframe
      rintro rfl
      rw [callsOn, hsucc, decide_eq_true rfl] at hcall
      cases hcall
    · exact hp.entry id
  refine ⟨hentry ▸ h.describes, fun hd => ?_⟩
  obtain ⟨c₀, hid, ha⟩ := h.issued hd
  exact ⟨c₀, hid, ha.step hinj hmax.le i hU⟩

end

/-! ## Runs -/

/-- How many calls on `id` go through in a run. -/
def callCount (id : CommitmentId) (s : State cfg) (run : List (Input AccountId)) : Nat :=
  (trace step s run).countP fun q => callsOn id q.1 q.2

theorem simulates_genesis (U : Set Bytes) (id : CommitmentId) (disputeWindow : Option Nat)
    (blockHash : Nat → Bytes32) (ledger : cfg.currency.Ledger) :
    Simulates U id (genesis cfg disputeWindow blockHash ledger) .unborn :=
  ⟨⟨rfl, rfl⟩, fun h => absurd rfl h⟩

/-- A run from a state with a deal goes along a path of the deal. -/
theorem exec_simulates {U : Set Bytes} (hinj : Set.InjOn cfg.registry.blake2_256 U)
    (id : CommitmentId) {s : State cfg} {d : Deal AccountId} (h : Simulates U id s d)
    (run : List (Input AccountId))
    (hok : ∀ q ∈ trace step s run, now q.1 < u32Max ∧ ∀ b, hashes q.1 q.2 = some b → b ∈ U) :
    ∃ d', Path Market.Step (callCount id s run) d d' ∧ Simulates U id (exec step s run) d' :=
  exec_simulation (Simulates U id) (callsOn id)
    (fun s i => now s < u32Max ∧ ∀ b, hashes s i = some b → b ∈ U)
    (fun _ _ _ h hok hmove => h.move hinj hok.1 hok.2 hmove)
    (fun _ _ _ h hok hstay => h.stay hinj hok.1 hok.2 hstay) s d h run hok

/-- **The runtime carries out deals.** In every run in which the preimages of identifiers do not
collide and the block number does not saturate, and for every identifier: the records under it
describe a deal, which was reached by one transition for each call on the identifier that went
through, and the rest of the run goes on from there. So at most four calls on an identifier ever go
through, and the price and the parties of a deal stay as they were when it was funded. -/
theorem runtime_refines_market (cfg : Config AccountId) (disputeWindow : Option Nat)
    (blockHash : Nat → Bytes32) (ledger : cfg.currency.Ledger) (run rest : List (Input AccountId))
    (hinj : Set.InjOn cfg.registry.blake2_256
      { b | b ∈ hashedPreimages (genesis cfg disputeWindow blockHash ledger) (run ++ rest) })
    (htime : ∀ q ∈ trace step (genesis cfg disputeWindow blockHash ledger) (run ++ rest),
      now q.1 < u32Max) (id : CommitmentId) (s : State cfg)
    (hs : s = exec step (genesis cfg disputeWindow blockHash ledger) run) :
    ∃ d d', Path Market.Step (callCount id (genesis cfg disputeWindow blockHash ledger) run)
        .unborn d ∧
      Describes (entry s id) d ∧ Path Market.Step (callCount id s rest) d d' ∧
      Describes (entry (exec step s rest) id) d' ∧
      callCount id (genesis cfg disputeWindow blockHash ledger) run + callCount id s rest ≤ 4 ∧
      ∀ terms, d.terms = some terms → d'.terms = some terms := by
  subst hs
  have hok : ∀ q ∈ trace step (genesis cfg disputeWindow blockHash ledger) (run ++ rest),
      now q.1 < u32Max ∧ ∀ b, hashes q.1 q.2 = some b →
        b ∈ { b | b ∈ hashedPreimages (genesis cfg disputeWindow blockHash ledger)
          (run ++ rest) } :=
    fun q hq => ⟨htime q hq, fun b hb => List.mem_filterMap.mpr ⟨q, hq, hb⟩⟩
  rw [trace_append] at hok
  obtain ⟨d, hpath, hsim⟩ := exec_simulates hinj id
    (simulates_genesis _ id disputeWindow blockHash ledger) run
    fun q hq => hok q (List.mem_append_left _ hq)
  obtain ⟨d', hpath', hsim'⟩ := exec_simulates hinj id hsim rest
    fun q hq => hok q (List.mem_append_right _ hq)
  refine ⟨d, d', hpath, hsim.describes, hpath', hsim'.describes, ?_, fun terms hterms => ?_⟩
  · have h₁ : _ + d.stepsLeft ≤ 4 := add_stepsLeft_le hpath
    have h₂ := add_stepsLeft_le hpath'
    omega
  · exact terms_eq_of_path hpath' hterms

/-- The deal of `dealRun` is abandoned. -/
def abandonment : List (Input Nat) :=
  [nextBlocks 10, .call (.signed 9) (.vectorDb (.expireCommitment dealId))]

theorem runtime_refines_market_abandoned :
    ∃ d d', Path Market.Step 2 .unborn d ∧ Path Market.Step 1 d d' ∧
      Describes (entry (exec step (exec step devGenesis dealRun) abandonment) dealId) d' := by
  have hlist : hashedPreimages devGenesis (dealRun ++ abandonment) =
      [commitmentPreimage (AgentRegistry.keyDid 1) (AgentRegistry.keyDid 2)
        (Bytes32.ofNat 5) 1] := by decide +kernel
  have hinj : Set.InjOn devConfig.registry.blake2_256
      { b | b ∈ hashedPreimages devGenesis (dealRun ++ abandonment) } := by
    rw [hlist]
    intro a ha b hb _
    exact (List.mem_singleton.mp ha).trans (List.mem_singleton.mp hb).symm
  have htime : ∀ q ∈ trace step devGenesis (dealRun ++ abandonment), now q.1 < u32Max := by
    have hall : ∀ t ∈ (trace step devGenesis (dealRun ++ abandonment)).map (fun q => now q.1),
        t < u32Max := by decide +kernel
    exact fun q hq => hall _ (List.mem_map_of_mem hq)
  have hcalls : callCount dealId devGenesis dealRun = 2 ∧
      callCount dealId (exec step devGenesis dealRun) abandonment = 1 := by decide +kernel
  obtain ⟨d, d', hpath, -, hpath', hd', -⟩ :=
    runtime_refines_market devConfig none _ _ dealRun abandonment hinj htime dealId _ rfl
  exact ⟨d, d', hcalls.1 ▸ hpath, hcalls.2 ▸ hpath', hd'⟩

end Runtime
