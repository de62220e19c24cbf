import ArthNeura.Runtime.Effects
import ArthNeura.VectorDb.Errors
import ArthNeura.VectorDb.Identifiers

set_option autoImplicit false

/-! # The stores of the runtime agree

Four storage maps in two pallets keep records under the identifier of a commitment. `Aligned`
says what the status of the commitment implies for the other three; it is preserved by every
step, for any hash function. What needs the hash function is that a new commitment meets no
escrow record of an older one (`Issued`): an identifier that was retired was issued in an
earlier block, so that issuing it again is a collision.
-/

namespace Runtime

open Frame VectorDb

variable {AccountId : Type} [DecidableEq AccountId] {cfg : Config AccountId}

/-! ## Alignment -/

/-- The escrow exists, with the given status and amount. -/
def EscrowIs (escrow : Option (Escrow.EscrowRecord AccountId)) (status : Escrow.EscrowStatus)
    (amount : Nat) : Prop :=
  ∃ record, escrow = some record ∧ record.status = status ∧ record.amount = amount

/-- The records that belong to a stored commitment, by its status. -/
def StatusAligned (c : VectorCommitment) (e : Entry AccountId) : Prop :=
  match c.status with
  | .pending => c.acknowledgedAt = none ∧ e.dispute = none ∧ e.receipt = none
  | .active =>
      EscrowIs e.escrow .locked c.price ∧ c.acknowledgedAt ≠ none ∧ e.dispute = none ∧
        e.receipt = none
  | .disputed =>
      EscrowIs e.escrow .locked c.price ∧
      (∃ d, e.dispute = some d ∧ d.verdict = none ∧ d.merkleRoot = c.merkleRoot ∧
        d.disputedChunkIndex < c.totalChunks) ∧
      e.receipt = none
  | .settled =>
      EscrowIs e.escrow .released c.price ∧
      (∃ r, e.receipt = some r ∧ r.finalStreamHash = c.merkleRoot) ∧ e.dispute = none
  | .disputeResolved =>
      (∃ d, e.dispute = some d ∧
        ((d.verdict = some .claimantUnsubstantiated ∧ EscrowIs e.escrow .released c.price) ∨
          (d.verdict = some .providerGuilty ∧ EscrowIs e.escrow .refunded c.price))) ∧
      e.receipt = none
  | .expired => False

/-- The records under `id` agree with the status of the commitment; without a commitment there
is neither a dispute nor a receipt. -/
def Aligned (id : CommitmentId) (e : Entry AccountId) : Prop :=
  match e.commitment with
  | none => e.dispute = none ∧ e.receipt = none
  | some c => c.commitmentId = id ∧ StatusAligned c e

section

variable {AccountId : Type} {id : CommitmentId} {e : Entry AccountId} {c : VectorCommitment}

theorem aligned_none (h : e.commitment = none) :
    Aligned id e ↔ e.dispute = none ∧ e.receipt = none := by
  rw [Aligned, h]

theorem aligned_some (h : e.commitment = some c) :
    Aligned id e ↔ c.commitmentId = id ∧ StatusAligned c e := by
  rw [Aligned, h]

theorem StatusAligned.pending (h : StatusAligned c e) (hst : c.status = .pending) :
    c.acknowledgedAt = none ∧ e.dispute = none ∧ e.receipt = none := by
  simpa only [StatusAligned, hst] using h

theorem StatusAligned.active (h : StatusAligned c e) (hst : c.status = .active) :
    EscrowIs e.escrow .locked c.price ∧ c.acknowledgedAt ≠ none ∧ e.dispute = none ∧
      e.receipt = none := by
  simpa only [StatusAligned, hst] using h

theorem StatusAligned.disputed (h : StatusAligned c e) (hst : c.status = .disputed) :
    EscrowIs e.escrow .locked c.price ∧
      (∃ d, e.dispute = some d ∧ d.verdict = none ∧ d.merkleRoot = c.merkleRoot ∧
        d.disputedChunkIndex < c.totalChunks) ∧ e.receipt = none := by
  simpa only [StatusAligned, hst] using h

end

omit [DecidableEq AccountId] in
/-- A locked record that is settled keeps its amount. -/
theorem escrowIs_settle {record : Escrow.EscrowRecord AccountId} {amount : Nat}
    {escrow escrow' : Option (Escrow.EscrowRecord AccountId)} {status : Escrow.EscrowStatus}
    (h : EscrowIs escrow .locked amount) (hrec : escrow = some record)
    (hrec' : escrow' = some { record with status := status }) :
    EscrowIs escrow' status amount := by
  obtain ⟨record₀, hrec₀, -, hamount⟩ := h
  rw [hrec, Option.some.injEq] at hrec₀
  subst hrec₀
  exact ⟨_, hrec', rfl, hamount⟩

/-- The entry a successful call acts on stays aligned. -/
theorem CallEffect.aligned {s s' : State cfg} {origin : Origin AccountId} {call : VectorDb.Call}
    (h : CallEffect s s' origin call)
    (ha : Aligned (call.target cfg.vectorDb s) (entry s (call.target cfg.vectorDb s))) :
    Aligned (call.target cfg.vectorDb s) (entry s' (call.target cfg.vectorDb s)) := by
  cases h with
  | register _ _ _ _ _ _ _ _ hc hnone hrec _ =>
      subst hc
      obtain ⟨hd, hr⟩ := (aligned_none hnone).mp ha
      refine (aligned_some (congrArg Entry.commitment (entry_eq hrec))).mpr ⟨rfl, ?_⟩
      rw [entry_eq hrec]
      exact ⟨rfl, hd, hr⟩
  | @acknowledge id did who payee c ledger _ hc hst _ _ _ _ _ _ hrec hext =>
      obtain ⟨hid, hal⟩ := (aligned_some hc).mp ha
      obtain ⟨-, hd, hr⟩ := hal.pending hst
      have hescrow := locked_escrows s.ext id who payee c.price ledger
      rw [Call.target, entry_eq hrec, hext]
      refine (aligned_some rfl).mpr ?_
      exact ⟨hid, ⟨_, hescrow, rfl, rfl⟩, by simp, hd, hr⟩
  | close _ hc hst _ _ _ hhash hescrow _ _ hrec hext =>
      obtain ⟨hid, hal⟩ := (aligned_some hc).mp ha
      obtain ⟨hlock, -, hd, -⟩ := hal.active hst
      rw [Call.target, entry_eq hrec]
      refine (aligned_some rfl).mpr ?_
      refine ⟨hid, escrowIs_settle hlock hescrow ?_, ⟨_, rfl, hhash⟩, hd⟩
      rw [hext, released_escrows]
  | raise _ hc hst _ _ _ _ hindex hrec hext =>
      obtain ⟨hid, hal⟩ := (aligned_some hc).mp ha
      obtain ⟨hlock, -, -, hr⟩ := hal.active hst
      rw [Call.target, entry_eq hrec, hext]
      refine (aligned_some rfl).mpr ?_
      exact ⟨hid, hlock, ⟨_, rfl, rfl, rfl, hindex⟩, hr⟩
  | counter _ hc hst _ _ _ _ _ _ hescrow _ _ hrec hext =>
      obtain ⟨hid, hal⟩ := (aligned_some hc).mp ha
      obtain ⟨hlock, -, hr⟩ := hal.disputed hst
      rw [Call.target, entry_eq hrec]
      refine (aligned_some rfl).mpr ?_
      refine ⟨hid, ⟨_, rfl, Or.inl ⟨rfl, escrowIs_settle hlock hescrow ?_⟩⟩, hr⟩
      rw [hext, penalizeFalseDisputer_escrow, released_escrows]
  | finalize _ hc hst _ _ hescrow _ hrec hext =>
      obtain ⟨hid, hal⟩ := (aligned_some hc).mp ha
      obtain ⟨hlock, -, hr⟩ := hal.disputed hst
      rw [Call.target, entry_eq hrec]
      refine (aligned_some rfl).mpr ?_
      refine ⟨hid, ⟨_, rfl, Or.inr ⟨rfl, escrowIs_settle hlock hescrow ?_⟩⟩, hr⟩
      rw [hext, penalizeProvider_escrow, refunded_escrows]
  | expire _ hc hst _ hrec _ =>
      obtain ⟨-, hal⟩ := (aligned_some hc).mp ha
      rw [Call.target, entry_eq hrec]
      refine (aligned_none rfl).mpr ?_
      -- an expired commitment was pending or active: no dispute, no receipt
      rcases hst with hst | hst
      · exact (hal.pending hst).2
      · exact (hal.active hst).2.2

/-! ## Alignment in every reachable state -/

def AllAligned (s : State cfg) : Prop := ∀ id, Aligned id (entry s id)

theorem step_allAligned {s : State cfg} (h : AllAligned s) (i : Input AccountId) :
    AllAligned (step s i) := by
  intro id
  rcases step_effect s i with ⟨origin, c, -, -, heff, hframe⟩ | hp
  · by_cases hid : id = c.target cfg.vectorDb s
    · subst hid
      exact heff.aligned (h _)
    · rw [hframe id hid]
      exact h id
  · rw [hp.entry]
    exact h id

theorem allAligned_genesis (cfg : Config AccountId) (disputeWindow : Option Nat)
    (blockHash : Nat → Bytes32) (ledger : cfg.currency.Ledger) :
    AllAligned (genesis cfg disputeWindow blockHash ledger) := fun _ => ⟨rfl, rfl⟩

theorem allAligned_exec (cfg : Config AccountId) (disputeWindow : Option Nat)
    (blockHash : Nat → Bytes32) (ledger : cfg.currency.Ledger) (run : List (Input AccountId)) :
    AllAligned (exec step (genesis cfg disputeWindow blockHash ledger) run) :=
  exec_invariant AllAligned (fun _ _ => True) (fun _ i h _ => step_allAligned h i) run _
    (allAligned_genesis cfg disputeWindow blockHash ledger) (fun _ _ => trivial)

/-! ## Identifiers are not issued twice -/

/-- The preimage of the identifier of a commitment. -/
def preimageOf (c : VectorCommitment) : Bytes :=
  commitmentPreimage c.provider c.consumer c.merkleRoot c.createdAt

/-- Where an identifier comes from, with the preimages taken from `U`. -/
structure Issued (U : Set Bytes) (s : State cfg) (id : CommitmentId) : Prop where
  stored : ∀ c, s.storage.vectorCommitments id = some c →
    preimageOf c ∈ U ∧ cfg.registry.blake2_256 (preimageOf c) = id ∧ c.createdAt ≤ now s ∧
      (c.status ≠ .pending → c.createdAt < c.expiresAt)
  /-- An escrow whose commitment is gone was opened under an identifier of an earlier block. -/
  retired : s.storage.vectorCommitments id = none → s.ext.escrow.escrows id ≠ none →
    ∃ provider consumer merkleRoot block,
      commitmentPreimage provider consumer merkleRoot block ∈ U ∧
      cfg.registry.blake2_256 (commitmentPreimage provider consumer merkleRoot block) = id ∧
      block < now s
  fresh : ∀ c, s.storage.vectorCommitments id = some c → c.status = .pending →
    s.ext.escrow.escrows id = none

section

variable {U : Set Bytes} {s s' : State cfg} {id : CommitmentId}

theorem Issued.mono (h : Issued U s id) (he : entry s' id = entry s id) (hnow : now s ≤ now s') :
    Issued U s' id := by
  have hc : s'.storage.vectorCommitments id = s.storage.vectorCommitments id :=
    congrArg Entry.commitment he
  have hescrow : s'.ext.escrow.escrows id = s.ext.escrow.escrows id := congrArg Entry.escrow he
  refine ⟨fun c hc' => ?_, fun hn hne => ?_, fun c hc' hst => ?_⟩
  · rw [hc] at hc'
    obtain ⟨hU, hid, hle, hlt⟩ := h.stored c hc'
    exact ⟨hU, hid, hle.trans hnow, hlt⟩
  · rw [hc] at hn
    rw [hescrow] at hne
    obtain ⟨p, c, r, b, hU, hid, hb⟩ := h.retired hn hne
    exact ⟨p, c, r, b, hU, hid, hb.trans_le hnow⟩
  · rw [hc] at hc'
    rw [hescrow]
    exact h.fresh c hc' hst

/-- A commitment past `Pending` needs only its own origin. -/
theorem issued_of_some {c : VectorCommitment} (hc : s.storage.vectorCommitments id = some c)
    (hst : c.status ≠ .pending) (hU : preimageOf c ∈ U)
    (hid : cfg.registry.blake2_256 (preimageOf c) = id) (hle : c.createdAt ≤ now s)
    (hlt : c.createdAt < c.expiresAt) : Issued U s id := by
  refine ⟨fun c' hc' => ?_, fun hn => ?_, fun c' hc' hst' => ?_⟩
  · rw [hc, Option.some.injEq] at hc'
    subst hc'
    exact ⟨hU, hid, hle, fun _ => hlt⟩
  · rw [hc] at hn
    cases hn
  · rw [hc, Option.some.injEq] at hc'
    subst hc'
    exact absurd hst' hst

/-- The preimage that a call hashes to obtain a new identifier. -/
def hashes (s : State cfg) : Input AccountId → Option Bytes
  | .call _ (.vectorDb (.registerCommitment provider consumer merkleRoot _ _ _ _)) =>
      some (commitmentPreimage provider consumer merkleRoot (now s))
  | _ => none

theorem CallEffect.issued {origin : Origin AccountId} {call : VectorDb.Call}
    (h : CallEffect s s' origin call) (hinj : Set.InjOn cfg.registry.blake2_256 U)
    (hU : ∀ b, hashes s (.call origin (.vectorDb call)) = some b → b ∈ U)
    (hmax : now s ≤ u32Max) (hi : Issued U s (call.target cfg.vectorDb s)) :
    Issued U s' (call.target cfg.vectorDb s) := by
  have hnow : now s' = now s := by rw [now, now, h.system]
  cases h with
  | register _ _ _ _ _ _ _ _ hc hnone hrec hext =>
      subst hc
      have hstored := congrArg Records.commitment hrec
      have hmem := hU _ rfl
      refine ⟨fun c hc => ?_, fun hn => ?_, fun c hc hst => ?_⟩
      · cases hstored.symm.trans hc
        exact ⟨hmem, rfl, hnow.ge, fun hst => absurd rfl hst⟩
      · cases hstored.symm.trans hn
      · -- an escrow under the new identifier would have been opened in an earlier block
        rw [hext]
        by_contra hne
        obtain ⟨p, c, r, b, hb, hid, hlt⟩ := hi.retired hnone hne
        have heq := hinj hb hmem hid
        obtain ⟨-, -, -, hblock⟩ := commitmentPreimage_inj (hlt.le.trans hmax) hmax heq
        exact absurd hblock hlt.ne
  | acknowledge _ hc _ hlt _ _ _ _ _ hrec _ =>
      obtain ⟨hmem, hid, hle, -⟩ := hi.stored _ hc
      exact issued_of_some (congrArg Records.commitment hrec) (by simp) hmem hid (hle.trans hnow.ge)
        (hle.trans_lt hlt)
  | close _ hc hst _ _ _ _ _ _ _ hrec _ =>
      obtain ⟨hmem, hid, hle, hlt⟩ := hi.stored _ hc
      exact issued_of_some (congrArg Records.commitment hrec) (by simp) hmem hid (hle.trans hnow.ge)
        (hlt (by simp [hst]))
  | raise _ hc hst _ _ _ _ _ hrec _ =>
      obtain ⟨hmem, hid, hle, hlt⟩ := hi.stored _ hc
      exact issued_of_some (congrArg Records.commitment hrec) (by simp) hmem hid (hle.trans hnow.ge)
        (hlt (by simp [hst]))
  | counter _ hc hst _ _ _ _ _ _ _ _ _ hrec _ =>
      obtain ⟨hmem, hid, hle, hlt⟩ := hi.stored _ hc
      exact issued_of_some (congrArg Records.commitment hrec) (by simp) hmem hid (hle.trans hnow.ge)
        (hlt (by simp [hst]))
  | finalize _ hc hst _ _ _ _ hrec _ =>
      obtain ⟨hmem, hid, hle, hlt⟩ := hi.stored _ hc
      exact issued_of_some (congrArg Records.commitment hrec) (by simp) hmem hid (hle.trans hnow.ge)
        (hlt (by simp [hst]))
  | @expire id _ c _ hc hst hexp hrec hext =>
      have hgone := congrArg Records.commitment hrec
      refine ⟨fun c' hc' => ?_, fun _ hne => ?_, fun c' hc' => ?_⟩
      · cases hgone.symm.trans hc'
      · rw [hext] at hne
        obtain ⟨hmem, hid, -, hlt⟩ := hi.stored c hc
        have hactive : c.status ≠ .pending := fun hp => hne (hi.fresh c hc hp)
        exact ⟨_, _, _, _, hmem, hid, (hlt hactive).trans_le (hexp.trans hnow.ge)⟩
      · cases hgone.symm.trans hc'

theorem step_issued (hinj : Set.InjOn cfg.registry.blake2_256 U) (hmax : now s ≤ u32Max)
    (hi : ∀ id, Issued U s id) (i : Input AccountId) (hU : ∀ b, hashes s i = some b → b ∈ U)
    (id : CommitmentId) : Issued U (step s i) id := by
  have hnow := (now_step hmax i).1
  rcases step_effect s i with ⟨origin, c, rfl, -, heff, hframe⟩ | hp
  · by_cases hid : id = c.target cfg.vectorDb s
    · subst hid
      exact heff.issued hinj hU hmax (hi _)
    · exact (hi id).mono (hframe id hid) hnow
  · exact (hi id).mono (hp.entry id) hnow

end

/-- The preimages hashed by the steps of a run. -/
def hashedPreimages (s : State cfg) (run : List (Input AccountId)) : List Bytes :=
  (trace step s run).filterMap fun p => hashes p.1 p.2

theorem issued_exec (cfg : Config AccountId) (disputeWindow : Option Nat)
    (blockHash : Nat → Bytes32) (ledger : cfg.currency.Ledger) (run : List (Input AccountId))
    (hinj : Set.InjOn cfg.registry.blake2_256
      { b | b ∈ hashedPreimages (genesis cfg disputeWindow blockHash ledger) run })
    (id : CommitmentId) :
    Issued { b | b ∈ hashedPreimages (genesis cfg disputeWindow blockHash ledger) run }
      (exec step (genesis cfg disputeWindow blockHash ledger) run) id := by
  -- the preimages of the whole run stay fixed while the state moves
  generalize hU : { b | b ∈ hashedPreimages (genesis cfg disputeWindow blockHash ledger) run } = U
    at hinj ⊢
  refine (exec_invariant (fun s => now s ≤ u32Max ∧ ∀ id, Issued U s id)
    (fun s i => ∀ b, hashes s i = some b → b ∈ U)
    (fun s i h hmem => ⟨(now_step h.1 i).2, step_issued hinj h.1 h.2 i hmem⟩) run _ ?_ ?_).2 id
  · exact ⟨Nat.zero_le _, fun id => ⟨nofun, fun _ h => absurd rfl h, nofun⟩⟩
  · intro p hp b hb
    rw [← hU]
    exact List.mem_filterMap.mpr ⟨p, hp, hb⟩

/-- **A new commitment meets no record of an older one.** Where the next call issues an
identifier, nothing is stored under it in any of the four maps. -/
theorem entry_blank_of_issue (cfg : Config AccountId) (disputeWindow : Option Nat)
    (blockHash : Nat → Bytes32) (ledger : cfg.currency.Ledger) (run : List (Input AccountId))
    (origin : Origin AccountId) (call : VectorDb.Call) {b : Bytes}
    (hinj : Set.InjOn cfg.registry.blake2_256
      { b | b ∈ hashedPreimages (genesis cfg disputeWindow blockHash ledger)
        (run ++ [.call origin (.vectorDb call)]) })
    (hb : registeredPreimage cfg.vectorDb (exec step (genesis cfg disputeWindow blockHash ledger)
      run) (.call origin call) = some b) :
    entry (exec step (genesis cfg disputeWindow blockHash ledger) run)
      (cfg.registry.blake2_256 b) = ⟨none, none, none, none⟩ := by
  have hal := allAligned_exec cfg disputeWindow blockHash ledger run
  have hissued := issued_exec cfg disputeWindow blockHash ledger
    (run ++ [.call origin (.vectorDb call)]) hinj
  rw [exec_append, exec_cons, exec_nil] at hissued
  generalize exec step (genesis cfg disputeWindow blockHash ledger) run = s at hal hissued hb ⊢
  obtain ⟨-, hnone, -⟩ := registeredPreimage_eq_some hb
  cases call with
  | registerCommitment provider consumer merkleRoot totalChunks metadata expires price =>
      obtain ⟨hsucc, hb⟩ := Option.ite_none_right_eq_some.mp hb
      obtain rfl := Option.some.inj hb
      obtain ⟨s', hok⟩ := succeeds_iff.mp hsucc
      have hstep : step s (.call origin (.vectorDb (.registerCommitment provider consumer
          merkleRoot totalChunks metadata expires price))) = s' := dispatch_of_ok hok
      rw [hstep] at hissued
      cases vectorDb_effect (c := .registerCommitment provider consumer merkleRoot totalChunks
        metadata expires price) hok with
      | register _ _ _ _ _ _ _ _ hc hnone' hrec hext =>
          subst hc
          have hescrow := (hissued _).fresh _ (congrArg Records.commitment hrec) rfl
          rw [hext] at hescrow
          obtain ⟨hd, hr⟩ := (aligned_none hnone).mp (hal _)
          exact congr (congr (congr (congrArg Entry.mk hnone) hd) hr) hescrow
  | _ => cases hb

/-! ## Errors that cannot occur -/

/-- The errors that a coherent state leaves no room for. -/
def Unreachable (s : State cfg) (call : VectorDb.Call) :
    DispatchError VectorDb.Error (EscrowError cfg) → Prop
  | .module .disputeAlreadyRaised => True
  | .module .commitmentNotFound =>
      s.storage.vectorCommitments (call.target cfg.vectorDb s) ≠ none
  | .module .chunkIndexOutOfBounds =>
      ∃ c, s.storage.vectorCommitments (call.target cfg.vectorDb s) = some c ∧
        c.status = .disputed
  | .callee (.module .escrowAlreadyExists) => True
  | .callee (.module .escrowNotFound) => True
  | .callee (.module .escrowNotLocked) => True
  | _ => False

theorem forward_error {h : HookCall AccountId} {m : Escrow.EscrowM cfg.currency Unit}
    {x x' : Ext cfg} {e : EscrowError cfg}
    (hm : (EscrowAdapter.forward h m).run x = .error e x') :
    ∃ t, m.run x.escrowState = .error e t := by
  rw [EscrowAdapter.forward, run_bind_error] at hm
  rcases hm with hm | ⟨_, y, -, hm⟩
  · obtain ⟨e', t, ht, rfl, -⟩ := run_zoom_error.mp hm
    exact ⟨t, ht⟩
  · exact absurd hm run_modify_error

/-- The escrow pallet fails only where the currency does. -/
theorem escrow_error {s : State cfg} {id : CommitmentId} {c : VectorCommitment}
    (hc : s.storage.vectorCommitments id = some c) (hal : Aligned id (entry s id))
    (hfresh : c.status = .pending → s.ext.escrow.escrows id = none) {e : EscrowError cfg}
    {x : Ext cfg}
    (h : (c.status = .pending ∧ ∃ payer payee,
        (cfg.vectorDb.lock id payer payee c.price).run s.ext = .error e x) ∨
      ((c.status = .active ∨ c.status = .disputed) ∧
        (cfg.vectorDb.release id).run s.ext = .error e x) ∨
      (c.status = .disputed ∧ (cfg.vectorDb.refund id).run s.ext = .error e x)) :
    e = .module .insufficientBalanceForEscrow ∨ ∃ e', e = .callee e' := by
  have hst := ((aligned_some hc).mp hal).2
  rcases h with ⟨hp, payer, payee, h⟩ | ⟨hst', h⟩ | ⟨hd, h⟩
  · obtain ⟨t, ht⟩ := forward_error h
    rcases Escrow.lock_error ht with ⟨-, hne⟩ | rfl
    · exact absurd (hfresh hp) hne
    · exact Or.inl rfl
  · obtain ⟨t, ht⟩ := forward_error h
    have hlock : EscrowIs (entry s id).escrow .locked c.price := by
      rcases hst' with ha | hd
      · exact (hst.active ha).1
      · exact (hst.disputed hd).1
    obtain ⟨record, hrec, hlocked, -⟩ := hlock
    exact Or.inr (Escrow.release_error hrec hlocked ht)
  · -- a refund of a locked escrow succeeds
    obtain ⟨t, ht⟩ := forward_error h
    obtain ⟨record, hrec, hlocked, -⟩ := (hst.disputed hd).1
    have hok : (Escrow.refund id).run s.ext.escrowState = .ok () _ :=
      Escrow.refund_ok.mpr ⟨record, hrec, hlocked, rfl⟩
    cases ht.symm.trans hok

/-- **The stores of the runtime are coherent in every reachable state.** The records under every
identifier agree with the status of its commitment, a pending commitment has no escrow, and the
error branches that would say otherwise cannot be taken. -/
theorem stores_coherent (cfg : Config AccountId) (disputeWindow : Option Nat)
    (blockHash : Nat → Bytes32) (ledger : cfg.currency.Ledger) (run : List (Input AccountId))
    (hinj : Set.InjOn cfg.registry.blake2_256
      { b | b ∈ hashedPreimages (genesis cfg disputeWindow blockHash ledger) run })
    (s : State cfg)
    (hs : s = exec step (genesis cfg disputeWindow blockHash ledger) run) :
    (∀ id, Aligned id (entry s id)) ∧
    (∀ id c, s.storage.vectorCommitments id = some c → c.status = .pending →
      s.ext.escrow.escrows id = none) ∧
    (∀ origin (call : VectorDb.Call) e s', (call.run cfg.vectorDb origin).run s = .error e s' →
      ¬ Unreachable s call e) := by
  subst hs
  have hal := allAligned_exec cfg disputeWindow blockHash ledger run
  have hissued := issued_exec cfg disputeWindow blockHash ledger run hinj
  generalize exec step (genesis cfg disputeWindow blockHash ledger) run = s at hal hissued ⊢
  have hfresh : ∀ id c, s.storage.vectorCommitments id = some c → c.status = .pending →
      s.ext.escrow.escrows id = none := fun id => (hissued id).fresh
  refine ⟨hal, hfresh, fun origin call e s' herr hun => ?_⟩
  have hexp := call_explained herr
  have hst : ∀ {c}, s.storage.vectorCommitments (call.target cfg.vectorDb s) = some c →
      StatusAligned c (entry s (call.target cfg.vectorDb s)) :=
    fun hc => ((aligned_some hc).mp (hal _)).2
  cases e with
  | badOrigin => exact hun
  | module e =>
      cases e with
      | disputeAlreadyRaised =>
          obtain ⟨c, hc, ha, hne⟩ := hexp
          exact hne ((hst hc).active ha).2.2.1
      | commitmentNotFound =>
          rcases hexp with hnone | ⟨c, hc, hd, hnone⟩
          · exact hun hnone
          · obtain ⟨-, ⟨d, hsome, -⟩, -⟩ := (hst hc).disputed hd
            cases hnone.symm.trans hsome
      | chunkIndexOutOfBounds =>
          obtain ⟨c, hc, hd⟩ := hun
          obtain ⟨c', hc', hexp⟩ := hexp
          cases hc.symm.trans hc'
          rcases hexp with ha | ⟨-, d, hsome, hidx⟩
          · cases ha.symm.trans hd
          · obtain ⟨-, ⟨d', hsome', -, -, hlt⟩, -⟩ := (hst hc).disputed hd
            cases hsome.symm.trans hsome'
            exact hidx hlt
      | _ => exact hun
  | callee e =>
      obtain ⟨c, x, hc, h⟩ := hexp
      rcases escrow_error hc (hal _) (hfresh _ c hc) h with rfl | ⟨e', rfl⟩
      · exact hun
      · exact hun

/-- `dealRun` hashes one preimage only. -/
theorem injOn_dealRun : Set.InjOn devConfig.registry.blake2_256
    { b | b ∈ hashedPreimages devGenesis dealRun } := by
  have hlist : hashedPreimages devGenesis dealRun =
      [commitmentPreimage (AgentRegistry.keyDid 1) (AgentRegistry.keyDid 2)
        (Bytes32.ofNat 5) 1] := by decide +kernel
  rw [hlist]
  intro a ha b hb _
  exact (List.mem_singleton.mp ha).trans (List.mem_singleton.mp hb).symm

theorem stores_coherent_deal : Aligned dealId (entry (exec step devGenesis dealRun) dealId) :=
  (stores_coherent devConfig none _ _ dealRun injOn_dealRun _ rfl).1 dealId

/-- **Identifiers are one-shot.** In every timely run of `pallet-vector-db`, in any environment,
no identifier is issued twice and nothing was stored under an identifier when it was issued;
different deals have different preimages; and in the runtime there is no escrow record either. -/
theorem commitment_ids_one_shot :
    (∀ {Ext : Type} (cfg : VectorDb.Config AccountId Ext) (disputeWindow : Option Nat) (ext : Ext)
      (run : List (VectorDb.Input AccountId Ext)),
      Timely cfg (trace (VectorDb.step cfg) (VectorDb.genesis disputeWindow ext) run) →
      (issuedIds cfg (trace (VectorDb.step cfg) (VectorDb.genesis disputeWindow ext) run)).Nodup ∧
      ∀ p ∈ trace (VectorDb.step cfg) (VectorDb.genesis disputeWindow ext) run,
        ∀ b, registeredPreimage cfg p.1 p.2 = some b →
          p.1.records (cfg.blake2_256 b) = ⟨none, none, none⟩) ∧
    (∀ q q' : Did × Did × MerkleRoot × Nat, q.2.2.2 < 2 ^ 32 → q'.2.2.2 < 2 ^ 32 → q ≠ q' →
      commitmentPreimage q.1 q.2.1 q.2.2.1 q.2.2.2 ≠
        commitmentPreimage q'.1 q'.2.1 q'.2.2.1 q'.2.2.2) ∧
    (∀ (cfg : Config AccountId) (disputeWindow : Option Nat) (blockHash : Nat → Bytes32)
      (ledger : cfg.currency.Ledger) (run : List (Input AccountId)) (origin : Origin AccountId)
      (call : VectorDb.Call) (b : Bytes),
      Set.InjOn cfg.registry.blake2_256
        { b | b ∈ hashedPreimages (genesis cfg disputeWindow blockHash ledger)
          (run ++ [.call origin (.vectorDb call)]) } →
      registeredPreimage cfg.vectorDb (exec step (genesis cfg disputeWindow blockHash ledger) run)
        (.call origin call) = some b →
      entry (exec step (genesis cfg disputeWindow blockHash ledger) run)
        (cfg.registry.blake2_256 b) = ⟨none, none, none, none⟩) := by
  refine ⟨fun cfg disputeWindow ext run ht => ?_, fun q q' => commitmentPreimage_ne, ?_⟩
  · have h := issuedOnce_exec cfg disputeWindow ext run ht
    exact ⟨h.nodup, h.clean⟩
  · intro cfg disputeWindow blockHash ledger run origin call b hinj hb
    exact entry_blank_of_issue cfg disputeWindow blockHash ledger run origin call hinj hb

/-- The second registration of `purgedRun` issues a second identifier, and the registration of
`dealRun` finds nothing under its own. -/
theorem commitment_ids_one_shot_purged :
    (issuedIds mockConfig (trace (VectorDb.step mockConfig) (VectorDb.genesis none (testExt 1))
      purgedRun)).length = 2 ∧
    (issuedIds mockConfig (trace (VectorDb.step mockConfig) (VectorDb.genesis none (testExt 1))
      purgedRun)).Nodup ∧
    entry (exec step devGenesis (dealRun.take 3)) dealId = ⟨none, none, none, none⟩ := by
  obtain ⟨honce, -, hblank⟩ := @commitment_ids_one_shot Nat _
  have hlist : hashedPreimages devGenesis (dealRun.take 4)
      = hashedPreimages devGenesis dealRun := by
    decide +kernel
  have hinj : Set.InjOn devConfig.registry.blake2_256
      { b | b ∈ hashedPreimages devGenesis (dealRun.take 4) } := by
    rw [hlist]
    exact injOn_dealRun
  refine ⟨?_, (honce mockConfig none (testExt 1) purgedRun timely_purgedRun).1, ?_⟩
  · rw [issuedIds, registeredPreimages_purgedRun]
    rfl
  · exact hblank devConfig none _ _ (dealRun.take 3) (.signed 1) (.registerCommitment
      (AgentRegistry.keyDid 1) (AgentRegistry.keyDid 2) (Bytes32.ofNat 5) 3 .nil 10
      (50 * AgentRegistry.unit)) (commitmentPreimage (AgentRegistry.keyDid 1)
        (AgentRegistry.keyDid 2) (Bytes32.ofNat 5) 1) hinj (by decide +kernel)

end Runtime
