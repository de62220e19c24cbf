import ArthNeura.OffchainVectorDb.ChunkStore
import ArthNeura.OffchainVectorDb.Chunking
import ArthNeura.Frame.Run

set_option autoImplicit false

/-! # Registrations that share a chunk store

A registration of the client is three steps on the store and the chain: it stages its chunks
under the hash of the payload, submits the call, and moves the staged directory to the
identifier that the chain has issued. The steps of many registrations may interleave in any
order, and two of them with the same payload stage their chunks in one directory: the one that is
submitted last finds the directory gone (`chunks_lost_twinRun`).

As long as no registration stages its chunks in a directory that another one holds
(`Separate`), every registration keeps the directories it needs to itself (`Sound`), and the
chunks of a registered commitment can be read back for ever (`registrations_keep_chunks`).
-/

namespace OffchainVectorDb

open Frame
open VectorDb (CommitmentId)

/-- How far a registration has come. -/
inductive Phase where
  | idle
  | staged (p : Prepared)
  /-- The call went through; the event names the identifier. -/
  | accepted (p : Prepared) (id : CommitmentId)
  /-- The staged directory was moved, or could not be. -/
  | rekeyed (p : Prepared) (id : CommitmentId) (result : Except IoError Unit)
  | failed

structure State where
  store : FsChunkStore
  phase : Nat → Phase

/-- The next step of registration `r`. A write may fail after any part of the chunks, and the call
may fail or yield an identifier. -/
inductive Input where
  | persist (r : Nat) (written : Option (List Bytes))
  | submit (r : Nat) (outcome : Option CommitmentId)
  | rekey (r : Nat)

/-- No registration has started. -/
def initial (store : FsChunkStore) : State := ⟨store, fun _ => .idle⟩

def State.advance (s : State) (r : Nat) (store : FsChunkStore) (phase : Phase) : State :=
  ⟨store, Function.update s.phase r phase⟩

theorem advance_phase_self (s : State) (r : Nat) (store : FsChunkStore) (phase : Phase) :
    (s.advance r store phase).phase r = phase := Function.update_self ..

theorem advance_phase_ne (s : State) {r r' : Nat} (store : FsChunkStore) (phase : Phase)
    (h : r' ≠ r) : (s.advance r store phase).phase r' = s.phase r' := Function.update_of_ne h ..

section

variable (lib : Merkle.RsMerkle Bytes32) (blake2_256 : Bytes → Bytes32) (requests : Nat → Request)

def step (s : State) : Input → State
  | .persist r written =>
      match s.phase r with
      | .idle =>
          match prepare lib blake2_256 (requests r) with
          | .error _ => s.advance r s.store .failed
          | .ok p =>
              match written with
              | none => s.advance r (s.store.persist p.stagingId p.chunks) (.staged p)
              | some part => s.advance r (s.store.persist p.stagingId part) .failed
      | _ => s
  | .submit r outcome =>
      match s.phase r with
      | .staged p =>
          match outcome with
          | none => s.advance r s.store .failed
          | some id => s.advance r s.store (.accepted p id)
      | _ => s
  | .rekey r =>
      match s.phase r with
      | .accepted p id =>
          match s.store.rekey p.stagingId id with
          | .ok store => s.advance r store (.rekeyed p id (.ok ()))
          | .error e => s.advance r s.store (.rekeyed p id (.error e))
      | _ => s

end

/-- The directories that a registration needs. -/
def Phase.dirs : Phase → List CommitmentId
  | .staged p => [p.stagingId]
  | .accepted p id => [p.stagingId, id]
  | .rekeyed _ id _ => [id]
  | .idle | .failed => []

/-- Whenever the move of a registration has been attempted, the chunks of its commitment can be
read back. -/
def NoneLost (s : State) : Prop :=
  ∀ r p id result, s.phase r = .rekeyed p id result →
    loadAllChunks s.store id p.chunks.length = .ok p.chunks

/-- The chain issues a new identifier: no directory has that name, and no registration needs one. -/
def Fresh (s : State) : Input → Prop
  | .submit _ (some id) => s.store id = none ∧ ∀ r, id ∉ (s.phase r).dirs
  | _ => True

/-- A registration that comes to stage its chunks does so where no other one needs a directory. -/
def Separate (lib : Merkle.RsMerkle Bytes32) (blake2_256 : Bytes → Bytes32)
    (requests : Nat → Request) (s : State) : Input → Prop
  | .persist r _ =>
      s.phase r = .idle → ∀ p, prepare lib blake2_256 (requests r) = .ok p →
        ∀ r' ≠ r, p.stagingId ∉ (s.phase r').dirs
  | _ => True

/-! ## The invariant -/

/-- What a registration relies on, by its phase. -/
def Phase.Sound (store : FsChunkStore) : Phase → Prop
  | .staged p => ∃ dir, store p.stagingId = some dir ∧ dir.Holds p.chunks
  | .accepted p id =>
      (∃ dir, store p.stagingId = some dir ∧ dir.Holds p.chunks) ∧ store id = none
  | .rekeyed p id _ => ∃ dir, store id = some dir ∧ dir.Holds p.chunks
  | .idle | .failed => True

/-- Every registration has what it relies on, and no two of them share a directory. -/
structure Sound (s : State) : Prop where
  phase : ∀ r, (s.phase r).Sound s.store
  apart : ∀ r r', r ≠ r' → ∀ d ∈ (s.phase r).dirs, d ∉ (s.phase r').dirs

/-- A registration relies on its own directories only. -/
theorem Phase.Sound.congr {store store' : FsChunkStore} {ph : Phase} (h : ph.Sound store)
    (heq : ∀ d ∈ ph.dirs, store' d = store d) : ph.Sound store' := by
  cases ph with
  | idle | failed => trivial
  | staged p =>
      obtain ⟨dir, hdir, hholds⟩ := h
      exact ⟨dir, (heq _ (by simp [dirs])).trans hdir, hholds⟩
  | accepted p id =>
      obtain ⟨⟨dir, hdir, hholds⟩, hnone⟩ := h
      exact ⟨⟨dir, (heq _ (by simp [dirs])).trans hdir, hholds⟩,
        (heq _ (by simp [dirs])).trans hnone⟩
  | rekeyed p id result =>
      obtain ⟨dir, hdir, hholds⟩ := h
      exact ⟨dir, (heq _ (by simp [dirs])).trans hdir, hholds⟩

/-- **One registration moves on.** It keeps the invariant if it has what it relies on in its new
phase, and both the directories it has changed and those it needs are not needed by others. -/
theorem Sound.advance {s : State} (h : Sound s) {r : Nat} {store : FsChunkStore} {ph : Phase}
    (hph : ph.Sound store)
    (hstore : ∀ r' ≠ r, ∀ d ∈ (s.phase r').dirs, store d = s.store d)
    (hdirs : ∀ r' ≠ r, ∀ d ∈ ph.dirs, d ∉ (s.phase r').dirs) : Sound (s.advance r store ph) := by
  constructor
  · intro r'
    by_cases hr : r' = r
    · subst hr
      rw [advance_phase_self]
      exact hph
    · rw [advance_phase_ne _ _ _ hr]
      exact (h.phase r').congr (hstore r' hr)
  · intro r₁ r₂ hne d hd
    by_cases hr₁ : r₁ = r
    · subst hr₁
      rw [advance_phase_self] at hd
      rw [advance_phase_ne _ _ _ hne.symm]
      exact hdirs r₂ hne.symm d hd
    · rw [advance_phase_ne _ _ _ hr₁] at hd
      by_cases hr₂ : r₂ = r
      · subst hr₂
        rw [advance_phase_self]
        exact fun hd' => hdirs r₁ hr₁ d hd' hd
      · rw [advance_phase_ne _ _ _ hr₂]
        exact h.apart r₁ r₂ hne d hd

/-- A registration that gives up needs nothing. -/
theorem Sound.fail {s : State} (h : Sound s) {r : Nat} {store : FsChunkStore}
    (hstore : ∀ r' ≠ r, ∀ d ∈ (s.phase r').dirs, store d = s.store d) :
    Sound (s.advance r store .failed) := by
  refine h.advance ?_ hstore fun r' _ d hd => ?_
  · trivial
  · exact absurd hd List.not_mem_nil

theorem Sound.noneLost {s : State} (h : Sound s) : NoneLost s := by
  intro r p id result hr
  have hph := h.phase r
  rw [hr] at hph
  obtain ⟨dir, hdir, hholds⟩ := hph
  exact loadAllChunks_of_holds hdir hholds

/-! ## Steps -/

section

variable {lib : Merkle.RsMerkle Bytes32} {blake2_256 : Bytes → Bytes32} {requests : Nat → Request}

theorem step_persist {s : State} (h : Sound s) {r : Nat} {written : Option (List Bytes)}
    (hsep : Separate lib blake2_256 requests s (.persist r written)) :
    Sound (step lib blake2_256 requests s (.persist r written)) := by
  rw [step]
  split
  · next hidle =>
      split
      · exact h.fail fun _ _ _ _ => rfl
      · next p hp =>
          have hkey := hsep hidle p hp
          -- only the staging directory changes
          have hframe : ∀ chunks, ∀ r' ≠ r, ∀ d ∈ (s.phase r').dirs,
              s.store.persist p.stagingId chunks d = s.store d := by
            intro chunks r' hr d hd
            refine persist_ne s.store chunks fun heq => ?_
            exact hkey r' hr (heq ▸ hd)
          split
          · refine h.advance ?_ (hframe _) fun r' hr d hd => ?_
            · exact ⟨_, StorageMap.insert_self .., Dir.holds_writeChunks p.chunks _⟩
            · rw [List.mem_singleton.mp hd]
              exact hkey r' hr
          · exact h.fail (hframe _)
  · exact h

theorem step_submit {s : State} (h : Sound s) {r : Nat} {outcome : Option CommitmentId}
    (hfresh : Fresh s (.submit r outcome)) :
    Sound (step lib blake2_256 requests s (.submit r outcome)) := by
  rw [step]
  split
  · next p hp =>
      have hph := h.phase r
      have hapart := h.apart r
      rw [hp] at hph hapart
      cases outcome with
      | none =>
          exact h.fail fun _ _ _ _ => rfl
      | some id =>
          obtain ⟨hnone, hnew⟩ := hfresh
          refine h.advance ⟨hph, hnone⟩ (fun _ _ _ _ => rfl) fun r' hr d hd => ?_
          rcases List.mem_pair.mp hd with rfl | rfl
          · exact hapart r' hr.symm _ (List.mem_singleton_self _)
          · exact hnew r'
  · exact h

theorem step_rekey {s : State} (h : Sound s) (r : Nat) :
    Sound (step lib blake2_256 requests s (.rekey r)) := by
  rw [step]
  split
  · next p id hp =>
      have hph := h.phase r
      have hapart := h.apart r
      rw [hp] at hph hapart
      obtain ⟨⟨dir, hdir, hholds⟩, hnone⟩ := hph
      have hrekey := rekey_ok hdir hnone
      obtain ⟨hmoved, -, hframe⟩ := rekey_spec hdir (fun _ => hnone) hrekey
      rw [hrekey]
      refine h.advance ⟨dir, hmoved, hholds⟩ (fun r' hr d hd => ?_) (fun r' hr d hd => ?_)
      · have hkey : d ≠ p.stagingId := fun heq =>
          hapart r' hr.symm p.stagingId (by simp [Phase.dirs]) (heq ▸ hd)
        have hid : d ≠ id := fun heq => hapart r' hr.symm id (by simp [Phase.dirs]) (heq ▸ hd)
        exact hframe d hid hkey
      · rw [List.mem_singleton.mp hd]
        exact hapart r' hr.symm id (by simp [Phase.dirs])
  · exact h

theorem step_sound {s : State} (h : Sound s) (i : Input) (hfresh : Fresh s i)
    (hsep : Separate lib blake2_256 requests s i) : Sound (step lib blake2_256 requests s i) := by
  cases i with
  | persist r written => exact step_persist h hsep
  | submit r outcome => exact step_submit h hfresh
  | rekey r => exact step_rekey h r

end

theorem sound_initial (store : FsChunkStore) : Sound (initial store) :=
  ⟨fun _ => trivial, fun _ _ _ _ hd => absurd hd List.not_mem_nil⟩

/-- **Separate registrations lose no chunks.** For any requests, from any store, and in every
interleaving in which the chain issues new identifiers and no registration stages its chunks where
another one needs a directory: in every state, the chunks of every commitment whose registration
has come to its end can be read back. -/
theorem registrations_keep_chunks (lib : Merkle.RsMerkle Bytes32) (blake2_256 : Bytes → Bytes32)
    (requests : Nat → Request) (store : FsChunkStore) (run : List Input)
    (hfresh : ∀ q ∈ trace (step lib blake2_256 requests) (initial store) run, Fresh q.1 q.2)
    (hsep : ∀ q ∈ trace (step lib blake2_256 requests) (initial store) run,
      Separate lib blake2_256 requests q.1 q.2) (k : Nat) :
    NoneLost (exec (step lib blake2_256 requests) (initial store) (run.take k)) := by
  refine Sound.noneLost ?_
  refine exec_invariant Sound (fun s i => Fresh s i ∧ Separate lib blake2_256 requests s i)
    (fun s i hs hok => step_sound hs i hok.1 hok.2) (run.take k) _ (sound_initial store) ?_
  intro q hq
  have hmem := mem_trace_of_take hq
  exact ⟨hfresh q hmem, hsep q hmem⟩

/-! ## Two registrations of one payload -/

/-- The same payload for every consumer. -/
def twinRequests (r : Nat) : Request where
  providerDid := VectorDb.testDid 1
  consumerDid := VectorDb.testDid (UInt8.ofNat (r + 2))
  payload := [1, 2, 3]
  metadata := []
  expiresInBlocks := 9
  price := 5
  mode := .bytes

def twinStep : State → Input → State := step (Merkle.layered Bytes32) tailHash twinRequests

/-- One registration after the other. -/
def sequentialRun : List Input :=
  [.persist 0 none, .submit 0 (some (Bytes32.ofNat 10)), .rekey 0,
    .persist 1 none, .submit 1 (some (Bytes32.ofNat 11)), .rekey 1]

/-- Both registrations stage their chunks before the first one is moved. -/
def twinRun : List Input :=
  [.persist 0 none, .persist 1 none, .submit 0 (some (Bytes32.ofNat 10)), .rekey 0,
    .submit 1 (some (Bytes32.ofNat 11)), .rekey 1]

/-- Where only the first two registrations have started, the others need no directory. -/
theorem forall_dirs_of_two {s : State} {id : CommitmentId} (h0 : id ∉ (s.phase 0).dirs)
    (h1 : id ∉ (s.phase 1).dirs) (hidle : ∀ r, s.phase (r + 2) = .idle) :
    ∀ r, id ∉ (s.phase r).dirs := by
  intro r
  match r with
  | 0 => exact h0
  | 1 => exact h1
  | r + 2 =>
      rw [hidle r]
      exact List.not_mem_nil

theorem fresh_submit_of_two {s : State} {r : Nat} {id : CommitmentId}
    (hstore : (s.store id).isNone = true) (h0 : id ∉ (s.phase 0).dirs) (h1 : id ∉ (s.phase 1).dirs)
    (hidle : ∀ r, s.phase (r + 2) = .idle) : Fresh s (.submit r (some id)) :=
  ⟨Option.isNone_iff_eq_none.mp hstore, forall_dirs_of_two h0 h1 hidle⟩

theorem fresh_sequentialRun :
    ∀ q ∈ trace twinStep (initial .empty) sequentialRun, Fresh q.1 q.2 := by
  intro q hq
  simp only [sequentialRun, trace, List.mem_cons, List.not_mem_nil, or_false] at hq
  rcases hq with rfl | rfl | rfl | rfl | rfl | rfl
  · trivial
  · exact fresh_submit_of_two (by decide +kernel) (by decide +kernel) (by decide +kernel)
      (fun _ => rfl)
  · trivial
  · trivial
  · exact fresh_submit_of_two (by decide +kernel) (by decide +kernel) (by decide +kernel)
      (fun _ => rfl)
  · trivial

theorem separate_sequentialRun :
    ∀ q ∈ trace twinStep (initial .empty) sequentialRun,
      Separate (Merkle.layered Bytes32) tailHash twinRequests q.1 q.2 := by
  intro q hq
  simp only [sequentialRun, trace, List.mem_cons, List.not_mem_nil, or_false] at hq
  rcases hq with rfl | rfl | rfl | rfl | rfl | rfl
  · exact fun _ _ _ _ _ => List.not_mem_nil
  · trivial
  · trivial
  · intro _ p hp r _
    rw [prepare_stagingId hp]
    exact forall_dirs_of_two (by decide +kernel) (by decide +kernel) (fun _ => rfl) r
  · trivial
  · trivial

theorem registrations_keep_chunks_sequentialRun :
    loadAllChunks (exec twinStep (initial .empty) (sequentialRun.take 6)).store
      (Bytes32.ofNat 11) 1 = .ok [[1, 2, 3]] :=
  registrations_keep_chunks (Merkle.layered Bytes32) tailHash twinRequests .empty sequentialRun
    fresh_sequentialRun separate_sequentialRun 6 1 _ _ _ rfl

/-- The second registration of `twinRun` has its call accepted, and its chunks are lost: the
directory that it shared with the first one is gone. -/
theorem chunks_lost_twinRun :
    (∀ q ∈ trace twinStep (initial .empty) twinRun, Fresh q.1 q.2) ∧
    ¬ NoneLost (exec twinStep (initial .empty) twinRun) := by
  constructor
  · intro q hq
    simp only [twinRun, trace, List.mem_cons, List.not_mem_nil, or_false] at hq
    rcases hq with rfl | rfl | rfl | rfl | rfl | rfl
    · trivial
    · trivial
    · exact fresh_submit_of_two (by decide +kernel) (by decide +kernel) (by decide +kernel)
        (fun _ => rfl)
    · trivial
    · exact fresh_submit_of_two (by decide +kernel) (by decide +kernel) (by decide +kernel)
        (fun _ => rfl)
    · trivial
  · intro h
    have hload : loadAllChunks (exec twinStep (initial .empty) twinRun).store (Bytes32.ofNat 11) 1
        = .ok [[1, 2, 3]] := h 1 _ _ (.error .notFound) rfl
    have hgone : ((exec twinStep (initial .empty) twinRun).store (Bytes32.ofNat 11)).isNone
        = true := by decide +kernel
    rw [loadAllChunks, List.range_one, List.mapM_cons, FsChunkStore.loadChunk,
      Option.isNone_iff_eq_none.mp hgone] at hload
    cases hload

end OffchainVectorDb
