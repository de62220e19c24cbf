import ArthNeura.OffchainVectorDb.Merkle
import Mathlib.Data.List.AList

set_option autoImplicit false

/-! # The chunk store of `offchain-vector-db`

`FsChunkStore` keeps the chunks of a commitment as the files `0.bin`, `1.bin`, … of a directory
that is named by the identifier of the commitment. `persist` writes the files of a list of chunks
and removes none, so that a directory may keep files of an earlier and longer list; reading back
as many chunks as were written last is exact all the same (`loadAllChunks_of_holds`).
-/

namespace OffchainVectorDb

open Frame
open VectorDb (CommitmentId)

/-- The errors of the file system that the store can meet. -/
inductive IoError where
  | notFound
  | directoryNotEmpty
  deriving DecidableEq

/-- The files `<index>.bin` of a directory. -/
abbrev Dir := AList fun _ : Nat => Bytes

/-- Write the chunks to the files from `i` on. -/
def Dir.writeChunks : Nat → List Bytes → Dir → Dir
  | _, [], dir => dir
  | i, chunk :: chunks, dir => writeChunks (i + 1) chunks (dir.insert i chunk)

/-- The directories of the store, by the identifier that names them. -/
abbrev FsChunkStore := StorageMap CommitmentId Dir

namespace FsChunkStore

def persist (store : FsChunkStore) (commitmentId : CommitmentId) (chunks : List Bytes) :
    FsChunkStore :=
  store.insert commitmentId (((store commitmentId).getD ∅).writeChunks 0 chunks)

def loadChunk (store : FsChunkStore) (commitmentId : CommitmentId) (index : Nat) :
    Except IoError Bytes :=
  match (store commitmentId).bind (·.lookup index) with
  | none => .error .notFound
  | some chunk => .ok chunk

/-- `fs::rename` on directories: the old one has to exist, and one that has the new name already
has to be empty. -/
def rekey (store : FsChunkStore) (oldId newId : CommitmentId) : Except IoError FsChunkStore :=
  match store oldId with
  | none => .error .notFound
  | some dir =>
      if oldId = newId then .ok store
      else if (store newId).all (·.entries.isEmpty) then
        .ok ((store.remove oldId).insert newId dir)
      else .error .directoryNotEmpty

end FsChunkStore

def loadAllChunks (store : FsChunkStore) (commitmentId : CommitmentId) (totalChunks : Nat) :
    Except IoError (List Bytes) :=
  (List.range totalChunks).mapM (store.loadChunk commitmentId)

/-! ## Reading back what was written -/

/-- The first files of the directory are the chunks. -/
def Dir.Holds (dir : Dir) (chunks : List Bytes) : Prop :=
  ∀ k < chunks.length, dir.lookup k = chunks[k]?

theorem Dir.lookup_writeChunks_of_lt (chunks : List Bytes) :
    ∀ (i j : Nat) (dir : Dir), j < i → (writeChunks i chunks dir).lookup j = dir.lookup j := by
  induction chunks with
  | nil => intro i j dir _; rfl
  | cons chunk chunks ih =>
      intro i j dir hj
      rw [writeChunks, ih (i + 1) j _ (by omega), AList.lookup_insert_ne (by omega)]

theorem Dir.lookup_writeChunks (chunks : List Bytes) :
    ∀ (i k : Nat) (dir : Dir), k < chunks.length →
      (writeChunks i chunks dir).lookup (i + k) = chunks[k]? := by
  induction chunks with
  | nil => intro i k dir hk; exact absurd hk (Nat.not_lt_zero k)
  | cons chunk chunks ih =>
      intro i k dir hk
      rw [writeChunks]
      cases k with
      | zero =>
          rw [Nat.add_zero, lookup_writeChunks_of_lt _ _ _ _ (by omega), AList.lookup_insert]
          rfl
      | succ k =>
          rw [List.length_cons] at hk
          rw [List.getElem?_cons_succ, ← ih (i + 1) k _ (by omega)]
          congr 1
          omega

/-- The chunks written last are held, whatever was in the directory. -/
theorem Dir.holds_writeChunks (chunks : List Bytes) (dir : Dir) :
    (writeChunks 0 chunks dir).Holds chunks := by
  intro k hk
  have h := lookup_writeChunks chunks 0 k dir hk
  rwa [Nat.zero_add] at h

theorem mapM_range' {ε β : Type} (f : Nat → Except ε β) (l : List β) :
    ∀ i, (∀ k (h : k < l.length), f (i + k) = .ok l[k]) →
      (List.range' i l.length).mapM f = .ok l := by
  induction l with
  | nil => intro i _; rfl
  | cons b l ih =>
      intro i h
      have hhead : f i = .ok b := h 0 (by simp)
      have htail := ih (i + 1) (fun k hk => by
        have hk' := h (k + 1) (by simpa using hk)
        rwa [show i + (k + 1) = i + 1 + k by omega] at hk')
      rw [List.length_cons, List.range'_succ, List.mapM_cons, hhead, htail]
      rfl

theorem loadAllChunks_of_holds {store : FsChunkStore} {id : CommitmentId} {dir : Dir}
    {chunks : List Bytes} (hdir : store id = some dir) (h : dir.Holds chunks) :
    loadAllChunks store id chunks.length = .ok chunks := by
  rw [loadAllChunks, List.range_eq_range']
  refine mapM_range' _ chunks 0 fun k hk => ?_
  have hlookup := h k hk
  rw [List.getElem?_eq_getElem hk] at hlookup
  rw [Nat.zero_add, FsChunkStore.loadChunk, hdir, Option.bind_some, hlookup]

/-! ## Staging and moving -/

theorem persist_ne (store : FsChunkStore) {id d : CommitmentId} (chunks : List Bytes)
    (h : d ≠ id) : store.persist id chunks d = store d :=
  StorageMap.insert_ne h

/-- Moving an existing directory to a name that is free. -/
theorem rekey_ok {store : FsChunkStore} {oldId newId : CommitmentId} {dir : Dir}
    (hold : store oldId = some dir) (hnew : store newId = none) :
    store.rekey oldId newId = .ok ((store.remove oldId).insert newId dir) := by
  have hne : oldId ≠ newId := by
    intro heq
    rw [heq, hnew] at hold
    cases hold
  rw [FsChunkStore.rekey, hold, hnew]
  simp [hne]

/-- What moving a directory to a free name leaves: the directory under its new name, and every
other directory but the old one. -/
theorem rekey_spec {store store' : FsChunkStore} {oldId newId : CommitmentId} {dir : Dir}
    (hold : store oldId = some dir)
    (hnew : oldId ≠ newId → store newId = none)
    (h : store.rekey oldId newId = .ok store') :
    store' newId = some dir ∧ (oldId ≠ newId → store' oldId = none) ∧
    ∀ id, id ≠ newId → id ≠ oldId → store' id = store id := by
  by_cases heq : oldId = newId
  · -- renaming a directory to its own name does nothing
    rw [FsChunkStore.rekey, hold] at h
    simp only [if_pos heq, Except.ok.injEq] at h
    subst h heq
    exact ⟨hold, fun hne => absurd rfl hne, fun id _ _ => rfl⟩
  · rw [rekey_ok hold (hnew heq), Except.ok.injEq] at h
    subst h
    refine ⟨StorageMap.insert_self .., fun _ => ?_, fun id hid hkey => ?_⟩
    · rw [StorageMap.insert_ne heq, StorageMap.remove_self]
    · rw [StorageMap.insert_ne hid, StorageMap.remove_ne hkey]

end OffchainVectorDb
