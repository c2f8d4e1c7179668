import Mathlib.Order.Lattice

/-!
# The witness lease store

`WitnessLeaseStore` of `backend/witness.py`: one witness keeps, for each cluster, one lease record
with its holder, its epoch and its wall-clock expiry. `acquire` grants, renews or refuses,
`transfer` moves a live lease to a named successor, and `authorizeRecovery` tells a fenced source
whether the record still shows its own transfer.
-/

namespace StageForge

/-- One stored lease record, with the defaults the source reads missing fields with. -/
structure Lease where
  holderNodeId : String := ""
  epoch : Int := 0
  expiresAtUnixMs : Int := 0
  lastTransferTransactionId : Int := 0
  lastTransferSourceNodeId : String := ""
  deriving DecidableEq

/-- The answer of `acquire` and `transfer`. `idempotent` and `transactionId` are keys that only
some answers carry; the two `Option`s before them are `None` where the source writes
`holder or None` and `expires or None`. -/
structure LeaseReply where
  granted : Bool
  clusterId : String
  holderNodeId : Option String
  epoch : Int
  expiresAtUnixMs : Option Int
  serverUnixMs : Int
  idempotent : Option Bool := none
  transactionId : Option Int := none
  reason : String
  deriving DecidableEq

/-- The answer of `authorize_recovery`. -/
structure RecoveryReply where
  authorized : Bool
  clusterId : String
  nodeId : String
  targetNodeId : String
  sourceEpoch : Int
  targetEpoch : Int
  transactionId : Int
  recoveryId : String
  fenceDigest : String
  serverUnixMs : Int
  reason : String
  deriving DecidableEq

/-- The persistent state of one witness: `_leases`, a record for each cluster it has seen. -/
structure WitnessLeaseStore where
  leases : String → Option Lease

namespace WitnessLeaseStore

def empty : WitnessLeaseStore := ⟨fun _ => none⟩

/-- `self._leases.get(cluster_id) or {}`. -/
def lease (store : WitnessLeaseStore) (clusterId : String) : Lease :=
  (store.leases clusterId).getD {}

/-- `self._leases[cluster_id] = lease`. -/
def put (store : WitnessLeaseStore) (clusterId : String) (lease : Lease) : WitnessLeaseStore :=
  ⟨fun c => if c = clusterId then some lease else store.leases c⟩

@[simp] lemma leases_put_self (store : WitnessLeaseStore) (c : String) (l : Lease) :
    (store.put c l).leases c = some l := by simp [put]

@[simp] lemma lease_put_self (store : WitnessLeaseStore) (c : String) (l : Lease) :
    (store.put c l).lease c = l := by simp [lease]

lemma leases_put_ne (store : WitnessLeaseStore) {c c' : String} (l : Lease) (h : c' ≠ c) :
    (store.put c l).leases c' = store.leases c' := by simp [put, h]

lemma lease_put_ne (store : WitnessLeaseStore) {c c' : String} (l : Lease) (h : c' ≠ c) :
    (store.put c l).lease c' = store.lease c' := by rw [lease, lease, leases_put_ne store l h]

end WitnessLeaseStore

/-- Both operations force the requested lifetime into 0.5 s .. 60 s. -/
def clampTtl (ttlMs : Int) : Int := max 500 (min ttlMs 60000)

/-! ## Acquire -/

/-- The lease is somebody else's and has not expired: `acquire` refuses. -/
abbrev Lease.HeldByOther (lease : Lease) (nodeId : String) (now : Int) : Prop :=
  lease.holderNodeId ≠ "" ∧ lease.holderNodeId ≠ nodeId ∧ now < lease.expiresAtUnixMs

/-- The epoch `acquire` grants: the stored one for a renewal, the next one for a new holder, and
never below one. -/
def Lease.acquiredEpoch (lease : Lease) (nodeId : String) : Int :=
  max 1 (if lease.holderNodeId ≠ nodeId then max 0 lease.epoch + 1 else max 0 lease.epoch)

/-- The record `acquire` writes. It is built from scratch, so the two facts of the last transfer
are dropped. -/
def Lease.acquired (lease : Lease) (nodeId : String) (ttlMs now : Int) : Lease where
  holderNodeId := nodeId
  epoch := lease.acquiredEpoch nodeId
  expiresAtUnixMs := now + clampTtl ttlMs

def WitnessLeaseStore.acquire (store : WitnessLeaseStore) (clusterId nodeId : String)
    (ttlMs now : Int) : LeaseReply × WitnessLeaseStore :=
  let lease := store.lease clusterId
  if lease.HeldByOther nodeId now then
    ({ granted := false
       clusterId := clusterId
       holderNodeId := some lease.holderNodeId
       epoch := max 0 lease.epoch
       expiresAtUnixMs := some lease.expiresAtUnixMs
       serverUnixMs := now
       reason := "lease-held-by-other-node" }, store)
  else
    let renewed := lease.acquired nodeId ttlMs now
    ({ granted := true
       clusterId := clusterId
       holderNodeId := some nodeId
       epoch := renewed.epoch
       expiresAtUnixMs := some renewed.expiresAtUnixMs
       serverUnixMs := now
       reason := "granted" }, store.put clusterId renewed)

/-- **Everything `acquire` can do**: refuse and leave the store alone, or write and report the
same record. -/
theorem WitnessLeaseStore.acquire_cases (store : WitnessLeaseStore) (c n : String)
    (ttlMs now : Int) :
    ((store.lease c).HeldByOther n now ∧ (store.acquire c n ttlMs now).1.granted = false ∧
        (store.acquire c n ttlMs now).2 = store) ∨
      (¬ (store.lease c).HeldByOther n now ∧ (store.acquire c n ttlMs now).1 =
          { granted := true, clusterId := c, holderNodeId := some n,
            epoch := (store.lease c).acquiredEpoch n,
            expiresAtUnixMs := some (now + clampTtl ttlMs), serverUnixMs := now,
            reason := "granted" } ∧
        (store.acquire c n ttlMs now).2 = store.put c ((store.lease c).acquired n ttlMs now)) := by
  rw [WitnessLeaseStore.acquire]
  by_cases h : (store.lease c).HeldByOther n now
  · rw [if_pos h]
    exact Or.inl ⟨h, rfl, rfl⟩
  · rw [if_neg h]
    exact Or.inr ⟨h, rfl, rfl⟩

lemma Lease.acquiredEpoch_of_holder {lease : Lease} {n : String} (hn : lease.holderNodeId = n)
    (he : 1 ≤ lease.epoch) : lease.acquiredEpoch n = lease.epoch := by
  simp only [acquiredEpoch, hn, ne_eq, not_true_eq_false, if_false]
  omega

lemma Lease.lt_acquiredEpoch {lease : Lease} {n : String} (hn : lease.holderNodeId ≠ n) :
    lease.epoch < lease.acquiredEpoch n := by
  simp only [acquiredEpoch, hn, ne_eq, not_false_eq_true, if_true]
  omega

lemma Lease.le_acquiredEpoch (lease : Lease) (n : String) :
    lease.epoch ≤ lease.acquiredEpoch n := by
  unfold acquiredEpoch
  split <;> omega

lemma Lease.one_le_acquiredEpoch (lease : Lease) (n : String) : 1 ≤ lease.acquiredEpoch n :=
  le_max_left _ _

/-! ## Transfer -/

/-- The record shows this very transfer: the request is a repetition. -/
abbrev Lease.Replays (lease : Lease) (source target : String) (targetEpoch transactionId : Int) :
    Prop :=
  lease.lastTransferTransactionId = transactionId ∧ lease.lastTransferSourceNodeId = source ∧
    lease.holderNodeId = target ∧ lease.epoch = targetEpoch

/-- The record is not the live lease of exactly this source at exactly this epoch. -/
abbrev Lease.SourceMismatch (lease : Lease) (source : String) (sourceEpoch now : Int) : Prop :=
  lease.holderNodeId ≠ source ∨ lease.epoch ≠ sourceEpoch ∨ lease.expiresAtUnixMs ≤ now

/-- The record `transfer` writes, together with the facts that make a repetition recognisable. -/
def transferredLease (source target : String) (targetEpoch transactionId ttlMs now : Int) :
    Lease where
  holderNodeId := target
  epoch := targetEpoch
  expiresAtUnixMs := now + clampTtl ttlMs
  lastTransferTransactionId := transactionId
  lastTransferSourceNodeId := source

/-- `holder or None`. -/
def orNone (holder : String) : Option String := if holder = "" then none else some holder

def WitnessLeaseStore.transfer (store : WitnessLeaseStore) (clusterId source target : String)
    (sourceEpoch targetEpoch transactionId ttlMs now : Int) : LeaseReply × WitnessLeaseStore :=
  let lease := store.lease clusterId
  if lease.Replays source target targetEpoch transactionId then
    ({ granted := true
       idempotent := some true
       clusterId := clusterId
       holderNodeId := some target
       epoch := targetEpoch
       expiresAtUnixMs := some lease.expiresAtUnixMs
       serverUnixMs := now
       transactionId := some transactionId
       reason := "already-transferred" }, store)
  else if lease.SourceMismatch source sourceEpoch now then
    ({ granted := false
       clusterId := clusterId
       holderNodeId := orNone lease.holderNodeId
       epoch := lease.epoch
       expiresAtUnixMs := if lease.expiresAtUnixMs = 0 then none else some lease.expiresAtUnixMs
       serverUnixMs := now
       transactionId := some transactionId
       reason := "source-lease-fencing-mismatch" }, store)
  else if targetEpoch ≠ sourceEpoch + 1 then
    ({ granted := false
       clusterId := clusterId
       holderNodeId := some lease.holderNodeId
       epoch := lease.epoch
       expiresAtUnixMs := some lease.expiresAtUnixMs
       serverUnixMs := now
       transactionId := some transactionId
       reason := "target-epoch-not-next" }, store)
  else
    let transferred := transferredLease source target targetEpoch transactionId ttlMs now
    ({ granted := true
       idempotent := some false
       clusterId := clusterId
       holderNodeId := some target
       epoch := targetEpoch
       expiresAtUnixMs := some transferred.expiresAtUnixMs
       serverUnixMs := now
       transactionId := some transactionId
       reason := "transferred" }, store.put clusterId transferred)

/-- The requests on which `transfer` moves the lease: no repetition, and the exact live lease of
the source with the next epoch as its target. -/
abbrev Lease.Moves (lease : Lease) (source target : String)
    (sourceEpoch targetEpoch transactionId now : Int) : Prop :=
  ¬ lease.Replays source target targetEpoch transactionId ∧ lease.holderNodeId = source ∧
    lease.epoch = sourceEpoch ∧ now < lease.expiresAtUnixMs ∧ targetEpoch = sourceEpoch + 1

/-- **Everything `transfer` can do**: recognise a repetition, refuse, or move the lease; only the
last writes. -/
theorem WitnessLeaseStore.transfer_cases (store : WitnessLeaseStore) (c source target : String)
    (sourceEpoch targetEpoch tx ttlMs now : Int) :
    ((store.lease c).Replays source target targetEpoch tx ∧
        (store.transfer c source target sourceEpoch targetEpoch tx ttlMs now).1.granted = true ∧
        (store.transfer c source target sourceEpoch targetEpoch tx ttlMs now).1.idempotent
          = some true ∧
        (store.transfer c source target sourceEpoch targetEpoch tx ttlMs now).2 = store) ∨
      (¬ (store.lease c).Replays source target targetEpoch tx ∧
        ¬ (store.lease c).Moves source target sourceEpoch targetEpoch tx now ∧
        (store.transfer c source target sourceEpoch targetEpoch tx ttlMs now).1.granted = false ∧
        (store.transfer c source target sourceEpoch targetEpoch tx ttlMs now).2 = store) ∨
      ((store.lease c).Moves source target sourceEpoch targetEpoch tx now ∧
        (store.transfer c source target sourceEpoch targetEpoch tx ttlMs now).1.granted = true ∧
        (store.transfer c source target sourceEpoch targetEpoch tx ttlMs now).1.idempotent
          = some false ∧
        (store.transfer c source target sourceEpoch targetEpoch tx ttlMs now).2
          = store.put c (transferredLease source target targetEpoch tx ttlMs now)) := by
  rw [WitnessLeaseStore.transfer]
  by_cases hr : (store.lease c).Replays source target targetEpoch tx
  · rw [if_pos hr]
    exact Or.inl ⟨hr, rfl, rfl, rfl⟩
  · rw [if_neg hr]
    by_cases hm : (store.lease c).SourceMismatch source sourceEpoch now
    · rw [if_pos hm]
      refine Or.inr (Or.inl ⟨hr, fun h => ?_, rfl, rfl⟩)
      rcases hm with hm | hm | hm
      · exact hm h.2.1
      · exact hm h.2.2.1
      · exact absurd h.2.2.2.1 (not_lt.mpr hm)
    · rw [if_neg hm]
      by_cases ht : targetEpoch ≠ sourceEpoch + 1
      · rw [if_pos ht]
        exact Or.inr (Or.inl ⟨hr, fun h => ht h.2.2.2.2, rfl, rfl⟩)
      · rw [if_neg ht]
        simp only [Lease.SourceMismatch, not_or, not_not, not_le] at hm
        exact Or.inr (Or.inr ⟨⟨hr, hm.1, hm.2.1, hm.2.2, not_not.mp ht⟩, rfl, rfl, rfl⟩)

/-! ## Recovery authorisation -/

/-- `WitnessLeaseStore.authorize_recovery`: reads only. -/
def WitnessLeaseStore.authorizeRecovery (store : WitnessLeaseStore)
    (clusterId nodeId targetNodeId : String) (sourceEpoch targetEpoch transactionId : Int)
    (recoveryId fenceDigest : String) (now : Int) : RecoveryReply :=
  let lease := store.lease clusterId
  let authorized := decide (nodeId ≠ targetNodeId ∧
    lease.Replays nodeId targetNodeId targetEpoch transactionId ∧ targetEpoch = sourceEpoch + 1)
  { authorized := authorized
    clusterId := clusterId
    nodeId := nodeId
    targetNodeId := targetNodeId
    sourceEpoch := sourceEpoch
    targetEpoch := targetEpoch
    transactionId := transactionId
    recoveryId := recoveryId
    fenceDigest := fenceDigest
    serverUnixMs := now
    reason := if authorized then "authorized-standby-rejoin" else "recovery-fence-not-current" }

@[simp] lemma WitnessLeaseStore.authorizeRecovery_authorized (store : WitnessLeaseStore)
    (c n target : String) (sourceEpoch targetEpoch tx : Int) (recoveryId digest : String)
    (now : Int) :
    (store.authorizeRecovery c n target sourceEpoch targetEpoch tx recoveryId digest now).authorized
        = true ↔
      n ≠ target ∧ (store.lease c).Replays n target targetEpoch tx ∧
        targetEpoch = sourceEpoch + 1 := by
  simp only [authorizeRecovery, decide_eq_true_eq]

/-! ## Calls -/

inductive StoreCall
  | acquire (clusterId nodeId : String) (ttlMs : Int)
  | transfer (clusterId source target : String) (sourceEpoch targetEpoch transactionId ttlMs : Int)
  deriving DecidableEq

/-- Carry out one call at the clock value `now`. -/
def WitnessLeaseStore.exec (store : WitnessLeaseStore) (now : Int) :
    StoreCall → LeaseReply × WitnessLeaseStore
  | .acquire c n ttlMs => store.acquire c n ttlMs now
  | .transfer c s t se te tx ttlMs => store.transfer c s t se te tx ttlMs now

/-- What one call may do to the record of cluster `c`: nothing, grant it to a node that nobody
else fences off, or move it. -/
inductive Lease.Step (now : Int) (c : String) : StoreCall → Lease → Lease → Prop
  | keep (call : StoreCall) (lease : Lease) : Step now c call lease lease
  | acquired {lease : Lease} {n : String} (ttlMs : Int) : ¬ lease.HeldByOther n now →
      Step now c (.acquire c n ttlMs) lease (lease.acquired n ttlMs now)
  | moved {lease : Lease} {s t : String} {se te tx : Int} (ttlMs : Int) :
      lease.Moves s t se te tx now →
      Step now c (.transfer c s t se te tx ttlMs) lease (transferredLease s t te tx ttlMs now)

/-- **The step lemma of the store**: every call takes every cluster's record through one of these
changes. -/
theorem WitnessLeaseStore.exec_step (store : WitnessLeaseStore) (now : Int) (call : StoreCall)
    (c : String) : Lease.Step now c call (store.lease c) ((store.exec now call).2.lease c) := by
  cases call with
  | acquire c' n ttlMs =>
    rcases store.acquire_cases c' n ttlMs now with ⟨-, -, h⟩ | ⟨hfree, -, h⟩
    · simp only [exec, h]
      exact .keep _ _
    · simp only [exec, h]
      by_cases hc : c = c'
      · subst hc
        rw [lease_put_self]
        exact .acquired ttlMs hfree
      · rw [lease_put_ne store _ hc]
        exact .keep _ _
  | transfer c' s t se te tx ttlMs =>
    rcases store.transfer_cases c' s t se te tx ttlMs now with
      ⟨-, -, -, h⟩ | ⟨-, -, -, h⟩ | ⟨hm, -, -, h⟩
    · simp only [exec, h]
      exact .keep _ _
    · simp only [exec, h]
      exact .keep _ _
    · simp only [exec, h]
      by_cases hc : c = c'
      · subst hc
        rw [lease_put_self]
        exact .moved ttlMs hm
      · rw [lease_put_ne store _ hc]
        exact .keep _ _

variable {now : Int} {call : StoreCall}

lemma Lease.Step.epoch_le {c : String} {l l' : Lease}
    (h : Lease.Step now c call l l') : l.epoch ≤ l'.epoch := by
  cases h with
  | keep => exact le_refl _
  | acquired ttlMs _ => exact l.le_acquiredEpoch _
  | moved ttlMs hm =>
    obtain ⟨-, -, he, -, ht⟩ := hm
    simp only [transferredLease]
    omega

lemma Lease.Step.epoch_lt {c : String} {l l' : Lease}
    (h : Lease.Step now c call l l') (hne : l.holderNodeId ≠ l'.holderNodeId) :
    l.epoch < l'.epoch := by
  cases h with
  | keep => exact absurd rfl hne
  | acquired ttlMs _ => exact Lease.lt_acquiredEpoch hne
  | moved ttlMs hm =>
    obtain ⟨-, -, he, -, ht⟩ := hm
    simp only [transferredLease]
    omega

lemma WitnessLeaseStore.exec_denied {store : WitnessLeaseStore}
    (h : (store.exec now call).1.granted = false) : (store.exec now call).2 = store := by
  cases call with
  | acquire c n ttlMs =>
    rcases store.acquire_cases c n ttlMs now with ⟨-, -, hs⟩ | ⟨-, hr, -⟩
    · exact hs
    · simp [exec, hr] at h
  | transfer c s t se te tx ttlMs =>
    rcases store.transfer_cases c s t se te tx ttlMs now with
      ⟨-, hg, -, -⟩ | ⟨-, -, -, hs⟩ | ⟨-, hg, -, -⟩
    · simp [exec, hg] at h
    · exact hs
    · simp [exec, hg] at h

end StageForge
