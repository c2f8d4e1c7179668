import Mathlib.Data.List.Sort
import StageForge.Witness.Requests

/-!
# The quorum client

`WitnessQuorumClient` of `backend/witness.py`. A client asks the witnesses one after the other and
combines their answers: `acquire` caches a lease if a quorum granted it, `transfer` gives the lease
away and suspends the client for good, `recover` lifts the suspension when a quorum confirms that
the transfer is still what their records show.

One operation runs at a time (`_operation_lock`): `call` is the operation in progress, with the
URLs not asked yet, the request now waiting for its answer, and the results so far. The identity
and clock-skew checks of the independent mode only turn an answer into a failed one, as a timeout
or an HTTP error does; all of them are the one transition `noAnswer`.
-/

namespace StageForge

/-! ## Configuration -/

/-- The constructor's arguments. `keys` says that the configured keys are usable,
`independentQuorum` is the quorum of an independent topology, `fencePath` that a path for the
persistent fence was given. -/
structure ClientConfig where
  urls : List String
  clusterId : String
  requestedTtlMs : Int := 3000
  keys : Bool := true
  independentQuorum : Option ℕ := none
  fencePath : Bool := false
  deriving DecidableEq

namespace ClientConfig

def ttlMs (cfg : ClientConfig) : Int := clampTtl cfg.requestedTtlMs

def quorumSize (cfg : ClientConfig) : ℕ := match cfg.independentQuorum with
  | some quorum => quorum
  | none => if cfg.urls = [] then 0 else cfg.urls.length / 2 + 1

def configured (cfg : ClientConfig) : Bool := !cfg.urls.isEmpty && cfg.keys

@[simp] lemma clampTtl_ttlMs (cfg : ClientConfig) : clampTtl cfg.ttlMs = cfg.ttlMs := by
  unfold ttlMs clampTtl
  omega

end ClientConfig

/-! ## Answers -/

/-- One row of `_last_results`. -/
structure WitnessResult where
  url : String
  granted : Bool
  epoch : Int := 0
  expiresAtUnixMs : Int := 0
  holderNodeId : Option String := none
  error : Option String := none
  deriving DecidableEq

/-- `_parse_result`: what the client makes of a lease answer. -/
def parseResult (cfg : ClientConfig) (url : String) (reply : LeaseReply) (holder : String)
    (transactionId : Option Int) : Except String WitnessResult :=
  if reply.clusterId ≠ cfg.clusterId then .error "witness cluster mismatch"
  else if reply.granted = false then
    .ok { url := url, granted := false, error := some reply.reason }
  else if reply.holderNodeId ≠ some holder then .error "witness holder mismatch"
  else if reply.epoch ≤ 0 ∨ reply.expiresAtUnixMs.getD 0 ≤ 0 then
    .error "malformed witness fencing value"
  else if transactionId.isSome ∧ reply.transactionId ≠ transactionId then
    .error "witness transaction mismatch"
  else
    .ok { url := url, granted := true, epoch := reply.epoch,
          expiresAtUnixMs := reply.expiresAtUnixMs.getD 0, holderNodeId := some holder }

/-- The checks of `_recover_one` on a recovery answer. -/
def parseRecovery (cfg : ClientConfig) (nodeId url : String) (payload : RecoveryPayload)
    (reply : RecoveryReply) : Except String WitnessResult :=
  if reply.clusterId ≠ cfg.clusterId ∨ reply.nodeId ≠ nodeId ∨
      reply.recoveryId ≠ payload.recoveryId ∨ reply.fenceDigest ≠ payload.fenceDigest then
    .error "malformed witness recovery authorization"
  else
    .ok { url := url, granted := reply.authorized, epoch := reply.targetEpoch,
          holderNodeId := some nodeId,
          error := if reply.authorized then none else some reply.reason }

/-- A raised `ValueError` becomes a failed result. -/
def failed (url : String) (error : String) : WitnessResult :=
  { url := url, granted := false, error := some error }

/-- What the client records for an answer to its own request. -/
def readAnswer (cfg : ClientConfig) (nodeId url : String) : Payload → Answer → WitnessResult
  | .acquire _, .lease reply =>
    match parseResult cfg url reply nodeId none with
    | .ok result => result
    | .error e => failed url e
  | .transfer p, .lease reply =>
    match parseResult cfg url reply p.targetNodeId (some p.transactionId) with
    | .ok result => result
    | .error e => failed url e
  | .recover p, .recovery reply =>
    match parseRecovery cfg nodeId url p reply with
    | .ok result => result
    | .error e => failed url e
  | _, _ => failed url "witness response request binding mismatch"

@[simp] lemma readAnswer_url (cfg : ClientConfig) (n url : String) (payload : Payload)
    (answer : Answer) : (readAnswer cfg n url payload answer).url = url := by
  have hlease : ∀ reply holder tx result, parseResult cfg url reply holder tx = .ok result →
      result.url = url := by
    intro reply holder tx result h
    unfold parseResult at h
    repeat' split at h
    all_goals cases h <;> rfl
  have hrecovery : ∀ p reply result, parseRecovery cfg n url p reply = .ok result →
      result.url = url := by
    intro p reply result h
    unfold parseRecovery at h
    split at h
    all_goals cases h <;> rfl
  unfold readAnswer
  split
  · split
    · rename_i h
      exact hlease _ _ _ _ h
    · rfl
  · split
    · rename_i h
      exact hlease _ _ _ _ h
    · rfl
  · split
    · rename_i h
      exact hrecovery _ _ _ h
    · rfl
  · rfl

/-- **What a granted result of an acquisition says**: the witness granted the lease to this node
with exactly these values. -/
lemma readAnswer_acquire_granted {cfg : ClientConfig} {n url : String} {p : AcquirePayload}
    {answer : Answer} (h : (readAnswer cfg n url (.acquire p) answer).granted = true) :
    ∃ reply, answer = .lease reply ∧ reply.granted = true ∧ reply.clusterId = cfg.clusterId ∧
      reply.holderNodeId = some n ∧ 0 < reply.epoch ∧
      readAnswer cfg n url (.acquire p) answer =
        { url := url, granted := true, epoch := reply.epoch,
          expiresAtUnixMs := reply.expiresAtUnixMs.getD 0, holderNodeId := some n } := by
  cases answer with
  | recovery reply => simp [readAnswer, failed] at h
  | lease reply =>
    simp only [readAnswer, parseResult] at h ⊢
    by_cases hc : reply.clusterId ≠ cfg.clusterId
    · simp [hc, failed] at h
    by_cases hg : reply.granted = false
    · simp [hc, hg] at h
    by_cases hh : reply.holderNodeId ≠ some n
    · simp [hc, hg, hh, failed] at h
    by_cases he : reply.epoch ≤ 0 ∨ reply.expiresAtUnixMs.getD 0 ≤ 0
    · simp [hc, hg, hh, he, failed] at h
    · have hpos : 0 < reply.epoch := not_le.mp fun hle => he (Or.inl hle)
      refine ⟨reply, rfl, by simpa using hg, not_not.mp hc, not_not.mp hh, hpos, ?_⟩
      simp [hc, hg, hh, he]

/-! ## The client's state -/

inductive Operation
  | acquire
  | transfer (payload : TransferPayload)
  | recover (payload : RecoveryPayload)
  deriving DecidableEq

/-- The operation in progress. `remaining` starts with the URL now being asked. -/
structure PendingCall where
  operation : Operation
  remaining : List String
  outstanding : Option Request := none
  results : List WitnessResult := []
  deriving DecidableEq

/-- The mutable fields of a client, the content of the fence file (`fence`) and the operation that
holds `_operation_lock`. -/
structure WitnessQuorumClient where
  acquisitionSuspended : Bool := false
  leaseEpoch : Int := 0
  leaseExpiresAt : Int := 0
  lastResults : List WitnessResult := []
  lastAttemptAt : Int := 0
  fence : Option TransferPayload := none
  call : Option PendingCall := none
  deriving DecidableEq

namespace WitnessQuorumClient

/-- The operation in progress is an acquisition. -/
abbrev Acquiring (client : WitnessQuorumClient) : Prop :=
  client.call.map (·.operation) = some .acquire

/-- The client relies on no lease and is not about to: it is suspended, or nothing is cached and no
acquisition is under way. -/
abbrev Settled (client : WitnessQuorumClient) (now : Int) : Prop :=
  client.acquisitionSuspended = true ∨ (¬ client.Acquiring ∧ client.leaseExpiresAt ≤ now)

def valid (cfg : ClientConfig) (client : WitnessQuorumClient) (now : Int)
    (safetyMarginMs : Int := 100) : Bool :=
  cfg.configured && !client.acquisitionSuspended &&
    decide (now + max 0 safetyMarginMs < client.leaseExpiresAt)

lemma running_of_valid {cfg : ClientConfig} {client : WitnessQuorumClient} {now margin : Int}
    (h : client.valid cfg now margin = true) :
    client.acquisitionSuspended = false ∧ now < client.leaseExpiresAt := by
  simp only [valid, Bool.and_eq_true, Bool.not_eq_true', decide_eq_true_eq] at h
  refine ⟨h.1.2, lt_of_le_of_lt ?_ h.2⟩
  omega

/-- The body the client builds for an operation. -/
def payload (cfg : ClientConfig) (nodeId : String) : Operation → Payload
  | .acquire => .acquire { clusterId := cfg.clusterId, nodeId := nodeId, ttlMs := cfg.ttlMs }
  | .transfer p => .transfer p
  | .recover p => .recover p

/-! ### Starting an operation -/

/-- `acquire`, up to the first request. A suspended client only reports its status. -/
def beginAcquire (cfg : ClientConfig) (client : WitnessQuorumClient) : WitnessQuorumClient :=
  if client.acquisitionSuspended then client
  else { client with call := some { operation := .acquire, remaining := cfg.urls } }

/-- `transfer`, up to the first request: the client gives up its lease and suspends itself, then
writes the fence; an existing fence ends the call with an error. -/
def beginTransfer (cfg : ClientConfig) (nodeId target : String)
    (sourceEpoch targetEpoch transactionId : Int) (client : WitnessQuorumClient) :
    WitnessQuorumClient :=
  let payload : TransferPayload :=
    { clusterId := cfg.clusterId, sourceNodeId := nodeId, targetNodeId := target,
      sourceEpoch := sourceEpoch, targetEpoch := targetEpoch, transactionId := transactionId,
      ttlMs := cfg.ttlMs }
  let fenced := { client with acquisitionSuspended := true, leaseExpiresAt := 0 }
  let call : PendingCall := { operation := .transfer payload, remaining := cfg.urls }
  if cfg.fencePath then
    match client.fence with
    | some _ => fenced
    | none => { fenced with fence := some payload, call := some call }
  else { fenced with call := some call }

/-- `recover`, up to the first request. It needs a suspended client and a fence that names this
node and cluster (`_recovery_facts`); otherwise it raises and changes nothing. -/
def beginRecover (cfg : ClientConfig) (nodeId recoveryId : String)
    (fenceDigest : TransferPayload → String) (client : WitnessQuorumClient) :
    WitnessQuorumClient :=
  match client.fence with
  | none => client
  | some marker =>
    if client.acquisitionSuspended ∧ cfg.fencePath ∧ cfg.configured ∧
        marker.clusterId = cfg.clusterId ∧ marker.sourceNodeId = nodeId then
      let payload : RecoveryPayload :=
        { clusterId := cfg.clusterId, nodeId := nodeId, sourceNodeId := marker.sourceNodeId,
          targetNodeId := marker.targetNodeId, sourceEpoch := marker.sourceEpoch,
          targetEpoch := marker.targetEpoch, transactionId := marker.transactionId,
          recoveryId := recoveryId, fenceDigest := fenceDigest marker }
      { client with call := some { operation := .recover payload, remaining := cfg.urls } }
    else client

/-! ### Finishing an operation -/

/-- The results `_acquire_locked` counts: granted to this node and still running. -/
def liveGrants (nodeId : String) (now : Int) (results : List WitnessResult) : List WitnessResult :=
  results.filter fun r =>
    r.granted ∧ r.holderNodeId = some nodeId ∧ now < r.expiresAtUnixMs

/-- The quorum the client relies on: the grants that run longest. -/
def selectedGrants (quorum : ℕ) (grants : List WitnessResult) : List WitnessResult :=
  (grants.insertionSort fun a b => b.expiresAtUnixMs ≤ a.expiresAtUnixMs).take quorum

/-- The earliest expiry among the selected grants. -/
def earliestExpiry (selected : List WitnessResult) : Int :=
  (selected.map (·.expiresAtUnixMs)).min?.getD 0

/-- The highest epoch among the selected grants. -/
def highestEpoch (selected : List WitnessResult) : Int := (selected.map (·.epoch)).max?.getD 0

/-- `len(grants) >= quorum > 0`. -/
abbrev QuorumReached (quorum : ℕ) (grants : List WitnessResult) : Prop :=
  quorum ≤ grants.length ∧ 0 < quorum

/-- The end of `_acquire_locked`. -/
def finishAcquire (cfg : ClientConfig) (nodeId : String) (now : Int)
    (results : List WitnessResult) (client : WitnessQuorumClient) : WitnessQuorumClient :=
  let grants := liveGrants nodeId now results
  let attempted := { client with lastResults := results, lastAttemptAt := now, call := none }
  if QuorumReached cfg.quorumSize grants then
    let selected := selectedGrants cfg.quorumSize grants
    { attempted with
      leaseExpiresAt := earliestExpiry selected
      leaseEpoch := max client.leaseEpoch (highestEpoch selected) }
  else attempted

/-- The end of `transfer`. -/
def finishTransfer (now : Int) (results : List WitnessResult) (client : WitnessQuorumClient) :
    WitnessQuorumClient :=
  { client with lastResults := results, lastAttemptAt := now, call := none }

/-- The end of `recover`: with a quorum the fence is removed and the client may acquire again,
without any cached lease; short of one nothing changes. -/
def finishRecover (cfg : ClientConfig) (payload : RecoveryPayload) (now : Int)
    (results : List WitnessResult) (client : WitnessQuorumClient) : WitnessQuorumClient :=
  let grants := results.filter fun r => r.granted ∧ r.epoch = payload.targetEpoch
  if grants.length < cfg.quorumSize then { client with call := none }
  else
    { client with
      acquisitionSuspended := false
      leaseEpoch := 0
      leaseExpiresAt := 0
      lastResults := results
      lastAttemptAt := now
      fence := none
      call := none }

/-- A new process on the same data directory: the cached lease is gone, and the client is
suspended exactly if the fence file is there. -/
def restart (cfg : ClientConfig) (client : WitnessQuorumClient) : WitnessQuorumClient :=
  { acquisitionSuspended := cfg.fencePath && client.fence.isSome, fence := client.fence }

end WitnessQuorumClient

/-! ## The selected quorum -/

namespace WitnessQuorumClient

variable {r : WitnessResult}

lemma mem_liveGrants {n : String} {now : Int} {results : List WitnessResult} :
    r ∈ liveGrants n now results ↔
      r ∈ results ∧ r.granted = true ∧ r.holderNodeId = some n ∧ now < r.expiresAtUnixMs := by
  simp [liveGrants]

lemma selectedGrants_sublistPerm (quorum : ℕ) (grants : List WitnessResult) :
    ∃ sorted : List WitnessResult, sorted.Perm grants ∧
      selectedGrants quorum grants = sorted.take quorum :=
  ⟨_, List.perm_insertionSort _ grants, rfl⟩

variable {quorum : ℕ} {grants : List WitnessResult}

lemma mem_of_mem_selectedGrants
    (h : r ∈ selectedGrants quorum grants) : r ∈ grants := by
  obtain ⟨sorted, hperm, heq⟩ := selectedGrants_sublistPerm quorum grants
  rw [heq] at h
  exact hperm.subset (List.mem_of_mem_take h)

lemma length_selectedGrants
    (h : quorum ≤ grants.length) : (selectedGrants quorum grants).length = quorum := by
  obtain ⟨sorted, hperm, heq⟩ := selectedGrants_sublistPerm quorum grants
  rw [heq, List.length_take, hperm.length_eq]
  exact min_eq_left h

lemma nodup_urls_selectedGrants
    (h : (grants.map (·.url)).Nodup) : ((selectedGrants quorum grants).map (·.url)).Nodup := by
  obtain ⟨sorted, hperm, heq⟩ := selectedGrants_sublistPerm quorum grants
  rw [heq, List.map_take]
  exact ((hperm.map _).nodup_iff.mpr h).sublist (List.take_sublist _ _)

variable {selected : List WitnessResult}

lemma earliestExpiry_le (h : r ∈ selected) :
    earliestExpiry selected ≤ r.expiresAtUnixMs := by
  unfold earliestExpiry
  have hmem : r.expiresAtUnixMs ∈ selected.map (·.expiresAtUnixMs) := List.mem_map_of_mem h
  cases hmin : (selected.map (·.expiresAtUnixMs)).min? with
  | none => rw [List.min?_eq_none_iff.mp hmin] at hmem; exact absurd hmem (by simp)
  | some m => exact (List.min?_eq_some_iff.mp hmin).2 _ hmem

lemma le_highestEpoch (h : r ∈ selected) :
    r.epoch ≤ highestEpoch selected := by
  unfold highestEpoch
  have hmem : r.epoch ∈ selected.map (·.epoch) := List.mem_map_of_mem h
  cases hmax : (selected.map (·.epoch)).max? with
  | none => rw [List.max?_eq_none_iff.mp hmax] at hmem; exact absurd hmem (by simp)
  | some m => exact (List.max?_eq_some_iff.mp hmax).2 _ hmem

lemma exists_highestEpoch (h : selected ≠ []) :
    ∃ r ∈ selected, r.epoch = highestEpoch selected := by
  unfold highestEpoch
  cases hmax : (selected.map (·.epoch)).max? with
  | none => exact absurd (List.map_eq_nil_iff.mp (List.max?_eq_none_iff.mp hmax)) h
  | some m =>
    obtain ⟨r, hr, heq⟩ := List.mem_map.mp (List.max?_eq_some_iff.mp hmax).1
    exact ⟨r, hr, heq⟩

end WitnessQuorumClient

end StageForge
