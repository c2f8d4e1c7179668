import StageForge.Witness.LeaseStore

/-!
# Witness requests

The bodies that clients sign and what a witness checks before it touches its store:
`verify_request`, `verify_transfer_request` and `verify_recovery_request` of `backend/witness.py`,
and the dispatch of `witness_server.py`. Payloads are typed here, so the checks on JSON types are
gone and the checks on values remain, with their error texts.
-/

namespace StageForge

structure AcquirePayload where
  protocolVersion : Int := 1
  clusterId : String
  nodeId : String
  ttlMs : Int
  deriving DecidableEq

structure TransferPayload where
  protocolVersion : Int := 1
  clusterId : String
  sourceNodeId : String
  targetNodeId : String
  sourceEpoch : Int
  targetEpoch : Int
  transactionId : Int
  ttlMs : Int
  deriving DecidableEq

structure RecoveryPayload where
  protocolVersion : Int := 1
  clusterId : String
  nodeId : String
  sourceNodeId : String
  targetNodeId : String
  sourceEpoch : Int
  targetEpoch : Int
  transactionId : Int
  recoveryId : String
  fenceDigest : String
  deriving DecidableEq

/-- The nonce of a client request is `secrets.token_hex(12)`. -/
def tokenHexLength : ℕ := 24

def verifyRequest (signed : Bool) (payload : AcquirePayload) : Except String Unit :=
  if payload.protocolVersion ≠ 1 ∨ payload.clusterId = "" ∨ payload.nodeId = "" then
    .error "unsupported witness request"
  else if ¬ (500 ≤ payload.ttlMs ∧ payload.ttlMs ≤ 60000) then
    .error "witness ttl must be 500..60000 ms"
  else if ¬ signed then .error "witness authentication failed"
  else .ok ()

def verifyTransferRequest (signed : Bool) (nonceLength : ℕ) (payload : TransferPayload) :
    Except String Unit :=
  if payload.protocolVersion ≠ 1 ∨ payload.clusterId = "" ∨ payload.sourceNodeId = "" ∨
      payload.targetNodeId = "" ∨ payload.sourceNodeId = payload.targetNodeId then
    .error "unsupported witness transfer request"
  else if 64 < payload.clusterId.length ∨ 64 < payload.sourceNodeId.length ∨
      64 < payload.targetNodeId.length ∨ ¬ (1 ≤ nonceLength ∧ nonceLength ≤ 128) then
    .error "witness transfer identity is out of bounds"
  else if payload.transactionId ≤ 0 ∨ payload.sourceEpoch ≤ 0 ∨
      payload.targetEpoch ≠ payload.sourceEpoch + 1 then
    .error "invalid witness transfer fencing facts"
  else if ¬ (500 ≤ payload.ttlMs ∧ payload.ttlMs ≤ 60000) then
    .error "witness ttl must be 500..60000 ms"
  else if ¬ signed then .error "witness authentication failed"
  else .ok ()

def verifyRecoveryRequest (signed : Bool) (nonceLength : ℕ) (payload : RecoveryPayload) :
    Except String Unit :=
  if payload.protocolVersion ≠ 1 ∨ payload.clusterId = "" ∨
      payload.nodeId ≠ payload.sourceNodeId ∨ payload.sourceNodeId = payload.targetNodeId ∨
      payload.sourceEpoch ≤ 0 ∨ payload.targetEpoch ≠ payload.sourceEpoch + 1 ∨
      payload.transactionId ≤ 0 ∨
      ¬ (1 ≤ payload.recoveryId.length ∧ payload.recoveryId.length ≤ 128) ∨
      payload.fenceDigest.length ≠ 64 ∨
      ¬ (payload.fenceDigest.toList.all fun ch => ch ∈ "0123456789abcdef".toList) = true ∨
      ¬ (1 ≤ nonceLength ∧ nonceLength ≤ 128) then
    .error "invalid witness recovery fencing facts"
  else if ¬ signed then .error "witness authentication failed"
  else .ok ()

lemma verifyRequest_ok {signed : Bool} {p : AcquirePayload} (h : verifyRequest signed p = .ok ()) :
    p.nodeId ≠ "" ∧ 500 ≤ p.ttlMs ∧ p.ttlMs ≤ 60000 ∧ signed = true := by
  unfold verifyRequest at h
  split at h
  · exact absurd h (by simp)
  · rename_i hid
    split at h
    · exact absurd h (by simp)
    · rename_i httl
      split at h
      · exact absurd h (by simp)
      · rename_i hs
        rw [not_not] at httl hs
        exact ⟨fun he => hid (Or.inr (Or.inr he)), httl.1, httl.2, hs⟩

/-! ## Requests, answers and the witness server -/

inductive Payload
  | acquire (payload : AcquirePayload)
  | transfer (payload : TransferPayload)
  | recover (payload : RecoveryPayload)
  deriving DecidableEq

/-- A signed body on its way to the witness at `url`. The nonce is fresh for each request, so two
requests are equal only if they are the same one. -/
structure Request where
  url : String
  nonce : ℕ
  payload : Payload
  deriving DecidableEq

inductive Answer
  | lease (reply : LeaseReply)
  | recovery (reply : RecoveryReply)
  deriving DecidableEq

/-- A signed response. `sign_response` binds it to the digest of the request it answers;
collision freedom of the digest makes that the request itself. -/
structure Response where
  request : Request
  answer : Answer
  deriving DecidableEq

/-- The writing call, if any, that an accepted request makes on the store. -/
def Payload.storeCall : Payload → Option StoreCall
  | .acquire p => some (.acquire p.clusterId p.nodeId p.ttlMs)
  | .transfer p => some (.transfer p.clusterId p.sourceNodeId p.targetNodeId p.sourceEpoch
      p.targetEpoch p.transactionId p.ttlMs)
  | .recover _ => none

def Payload.transfer? : Payload → Option TransferPayload
  | .transfer p => some p
  | _ => none

def Payload.verify (signed : Bool) : Payload → Except String Unit
  | .acquire p => verifyRequest signed p
  | .transfer p => verifyTransferRequest signed tokenHexLength p
  | .recover p => verifyRecoveryRequest signed tokenHexLength p

/-- `do_POST` of the witness server on a signed body: a refused body gets an unsigned HTTP 403
(`none` here), an accepted one is carried out and answered. -/
def WitnessLeaseStore.serve (store : WitnessLeaseStore) (now : Int) (payload : Payload) :
    Option (Answer × WitnessLeaseStore) :=
  match payload.verify true with
  | .error _ => none
  | .ok () =>
    match payload with
    | .acquire p =>
      let result := store.acquire p.clusterId p.nodeId p.ttlMs now
      some (.lease result.1, result.2)
    | .transfer p =>
      let result := store.transfer p.clusterId p.sourceNodeId p.targetNodeId p.sourceEpoch
        p.targetEpoch p.transactionId p.ttlMs now
      some (.lease result.1, result.2)
    | .recover p =>
      some (.recovery (store.authorizeRecovery p.clusterId p.nodeId p.targetNodeId
        p.sourceEpoch p.targetEpoch p.transactionId p.recoveryId p.fenceDigest now), store)

lemma WitnessLeaseStore.serve_store {store store' : WitnessLeaseStore} {now : Int}
    {payload : Payload} {answer : Answer} (h : store.serve now payload = some (answer, store')) :
    (payload.storeCall = none ∧ store' = store) ∨
      ∃ call, payload.storeCall = some call ∧ store' = (store.exec now call).2 := by
  unfold serve at h
  split at h
  · exact absurd h (by simp)
  · cases payload with
    | acquire p =>
      simp only [Option.some.injEq, Prod.mk.injEq] at h
      exact Or.inr ⟨_, rfl, h.2.symm⟩
    | transfer p =>
      simp only [Option.some.injEq, Prod.mk.injEq] at h
      exact Or.inr ⟨_, rfl, h.2.symm⟩
    | recover p =>
      simp only [Option.some.injEq, Prod.mk.injEq] at h
      exact Or.inl ⟨rfl, h.2.symm⟩

lemma WitnessLeaseStore.serve_acquire {store store' : WitnessLeaseStore} {now : Int}
    {p : AcquirePayload} {answer : Answer}
    (h : store.serve now (.acquire p) = some (answer, store')) :
    verifyRequest true p = .ok () ∧
      answer = .lease (store.acquire p.clusterId p.nodeId p.ttlMs now).1 := by
  unfold serve at h
  split at h
  · exact absurd h (by simp)
  · rename_i hv
    simp only [Option.some.injEq, Prod.mk.injEq] at h
    exact ⟨hv, h.1.symm⟩

end StageForge
