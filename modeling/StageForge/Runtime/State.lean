import StageForge.Library.OrderedDict
import StageForge.Replication.Tracker
import StageForge.Witness.QuorumClient

/-!
# The runtime of a node

`StageForgeRuntime` of `backend/runtime.py`, as far as it decides who may change the show: the
replication tracker, the witness client, the show state with its saved snapshot, the cache of
command results, the mutation lock, and the threads that are in the middle of a call.

The show state itself is opaque. `mutate` takes an arbitrary operation on it, MIDI input an
arbitrary action; `ShowApi` names what the runtime reads of it and how a replica replaces it.
-/

namespace StageForge

/-! ## The show state -/

/-- What the runtime uses of `ShowState`: its revision, the revision of a snapshot and of an
operation's result, and `_restore`, which takes the revision from the snapshot. -/
structure ShowApi (σ Snapshot Result : Type) where
  revision : σ → Int
  snapshotRevision : Snapshot → Int
  resultRevision : Result → Int
  restore : σ → Snapshot → σ
  revision_restore : ∀ s x, revision (restore s x) = max 1 (snapshotRevision x)

def ShowApi.applyReplicaSnapshot {σ Snapshot Result : Type} (api : ShowApi σ Snapshot Result)
    (state : σ) (snapshot : Snapshot) : Except String σ :=
  let incoming := api.snapshotRevision snapshot
  let current := api.revision state
  if incoming < current then
    .error s!"revision conflict for replica: expected {incoming}, current {current}"
  else .ok (api.restore state snapshot)

/-- The configuration of a node: its witness client, automatic failover, and the show state. -/
structure NodeSetup (σ Snapshot Result : Type) where
  witness : ClientConfig
  autoFailover : Bool := false
  api : ShowApi σ Snapshot Result

/-! ## Calls in progress -/

/-- Where a MIDI action comes from: a direct `pump_midi_once`, the one inside the MIDI loop, or the
due mappings that the loop executes after it. -/
inductive MidiOrigin
  | pump
  | loopPump
  | loopDue
  deriving DecidableEq

/-- What a thread does under the mutation lock. An operation may change the state and then raise;
the first component is the state it leaves either way. -/
inductive Job (σ Snapshot Result : Type)
  | mutate (commandId : Option String) (operation : σ → σ × Except String Result)
  | midi (origin : MidiOrigin) (actions : σ → σ × Except String Unit)
  | apply (envelope : Envelope Snapshot)

inductive Thread (σ Snapshot Result : Type)
  /-- `mutate` has tested the authority and not yet looked up the command id. -/
  | mutateChecked (commandId : Option String) (operation : σ → σ × Except String Result)
  /-- A pass of the MIDI loop has tested the role. -/
  | loopChecked
  /-- The pass has pumped its input and comes to the due mappings. -/
  | loopPumped
  /-- `apply_replica` has verified the envelope. -/
  | applyVerified (envelope : Envelope Snapshot)
  /-- Waiting for the mutation lock. -/
  | waiting (job : Job σ Snapshot Result)
  /-- Holding the lock, before the state is touched. -/
  | running (job : Job σ Snapshot Result)
  /-- `apply_replica` has replaced the state. -/
  | applyRestored (envelope : Envelope Snapshot)
  /-- `apply_replica` has saved the snapshot. -/
  | applySaved (envelope : Envelope Snapshot)
  | returned
  | raised (reason : String)

/-! ## The state -/

/-- A replica that replaced the state: its envelope, the role of the node at that moment, and the
state it left. -/
structure Application (σ Snapshot : Type) where
  envelope : Envelope Snapshot
  role : NodeRole
  result : σ

/-- An operation that `mutate` executed: the state before and after, and the result if the call got
to the point of returning it. -/
structure Execution (σ Result : Type) where
  commandId : Option String
  before : σ
  after : σ
  result : Option Result

/-- History variables, newest first: replicas that replaced the state and those marked as applied,
executed operations, returned results, and every use of a key of the result cache. -/
structure History (σ Snapshot Result : Type) where
  applications : List (Application σ Snapshot) := []
  accepted : List (Envelope Snapshot) := []
  executions : List (Execution σ Result) := []
  returns : List (Option String × Result) := []
  uses : List String := []

/-- The state of a node. `saved` is the state that the last saved snapshot was taken of. -/
structure Runtime (σ Snapshot Result : Type) where
  now : Int
  replication : ReplicationTracker
  witness : WitnessQuorumClient
  state : σ
  saved : σ
  commandResults : List (String × Result) := []
  mutationLock : Option ℕ := none
  threads : List (Thread σ Snapshot Result) := []
  history : History σ Snapshot Result := {}

variable {σ Snapshot Result : Type}

namespace Runtime

/-- A node that has just come up, with its snapshot saved. -/
def start (now : Int) (replication : ReplicationTracker) (witness : WitnessQuorumClient)
    (state : σ) : Runtime σ Snapshot Result :=
  { now := now, replication := replication, witness := witness, state := state, saved := state }

def spawn (rt : Runtime σ Snapshot Result) (thread : Thread σ Snapshot Result) :
    Runtime σ Snapshot Result :=
  { rt with threads := rt.threads ++ [thread] }

def setThread (rt : Runtime σ Snapshot Result) (i : ℕ) (thread : Thread σ Snapshot Result) :
    Runtime σ Snapshot Result :=
  { rt with threads := rt.threads.set i thread }

/-- `with self._mutation_lock` ends, and the call comes to its next point. -/
def release (rt : Runtime σ Snapshot Result) (i : ℕ) (thread : Thread σ Snapshot Result) :
    Runtime σ Snapshot Result :=
  { rt.setThread i thread with mutationLock := none }

def hasAuthority (N : NodeSetup σ Snapshot Result) (rt : Runtime σ Snapshot Result) : Bool :=
  rt.replication.isPrimary && !rt.witness.acquisitionSuspended &&
    (!N.witness.configured || rt.witness.valid N.witness rt.now)

end Runtime

/-! ## Authority -/

/-- A quorum lease as the client caches it. -/
structure LeaseGrant where
  expiresAtUnixMs : Int
  epoch : Int
  deriving DecidableEq

/-- What `acquire` does to the cached lease, given what the witnesses answered: nothing for a
suspended client or without a quorum. -/
def WitnessQuorumClient.renewed (client : WitnessQuorumClient) (grant : Option LeaseGrant) :
    WitnessQuorumClient :=
  if client.acquisitionSuspended then client
  else
    match grant with
    | none => client
    | some lease =>
      { client with
        leaseExpiresAt := lease.expiresAtUnixMs
        leaseEpoch := max client.leaseEpoch lease.epoch }

/-- `status()["leaseValid"]`. -/
def WitnessQuorumClient.leaseValid (client : WitnessQuorumClient) (now : Int) : Bool :=
  !client.acquisitionSuspended && decide (now < client.leaseExpiresAt)

structure RoleRequest where
  role : NodeRole
  acknowledgeAuthorityChange : Bool := true
  forceAuthorityOverride : Bool := false
  deriving DecidableEq

namespace Runtime

/-- `set_node_role`, with the failure detector's verdict and the witnesses' answer to an
acquisition. It takes no lock; the second component is the error it raises. -/
def setNodeRole (N : NodeSetup σ Snapshot Result) (request : RoleRequest)
    (heartbeatEligible : Bool) (grant : Option LeaseGrant) (rt : Runtime σ Snapshot Result) :
    Runtime σ Snapshot Result × Option String :=
  let previous := rt.replication.role
  if request.role = .primary ∧ rt.witness.acquisitionSuspended then
    (rt, some "handoff acquisition fence requires recovery before promotion")
  else if ¬ request.acknowledgeAuthorityChange then
    (rt, some "role change requires acknowledgeAuthorityChange=true")
  else if request.role = previous ∧ (request.role ≠ .primary ∨ rt.hasAuthority N) then (rt, none)
  else
    match request.role with
    | .standby => ({ rt with replication := rt.replication.setRole .standby }, none)
    | .primary =>
      if previous = .standby ∧ ¬ request.forceAuthorityOverride ∧ ¬ heartbeatEligible then
        (rt, some "standby is not promotion-eligible; wait for heartbeat failure or use an explicit administrative override")
      else if N.witness.configured ∧ ¬ request.forceAuthorityOverride then
        let lease := rt.witness.renewed grant
        if lease.leaseValid rt.now then
          ({ rt with
             witness := lease
             replication := rt.replication.promoteWithEpoch lease.leaseEpoch }, none)
        else
          ({ rt with witness := lease }, some "cannot promote without a witness quorum lease")
      else ({ rt with replication := rt.replication.setRole .primary }, none)

/-- `_witness_tick`: renew, then keep, drop or take over the authority. It runs under the
lock. -/
def witnessTick (N : NodeSetup σ Snapshot Result) (heartbeatEligible : Bool)
    (grant : Option LeaseGrant) (rt : Runtime σ Snapshot Result) : Runtime σ Snapshot Result :=
  let lease := rt.witness.renewed grant
  let valid := lease.leaseValid rt.now
  if rt.replication.isPrimary then
    if valid then
      { rt with witness := lease, replication := rt.replication.adoptEpoch lease.leaseEpoch }
    else { rt with witness := lease, replication := rt.replication.setRole .standby }
  else if N.autoFailover ∧ heartbeatEligible ∧ valid then
    { rt with witness := lease, replication := rt.replication.promoteWithEpoch lease.leaseEpoch }
  else { rt with witness := lease }

/-! ## Commands -/

/-- The characters that `str.strip` removes. -/
def isWhitespace (c : Char) : Bool :=
  c.toNat ∈ [0x09, 0x0a, 0x0b, 0x0c, 0x0d, 0x1c, 0x1d, 0x1e, 0x1f, 0x20, 0x85, 0xa0, 0x1680,
    0x2000, 0x2001, 0x2002, 0x2003, 0x2004, 0x2005, 0x2006, 0x2007, 0x2008, 0x2009, 0x200a,
    0x2028, 0x2029, 0x202f, 0x205f, 0x3000]

/-- `command_id.strip()[:128]`; an empty id counts as none. -/
def normalizeCommandId (commandId : Option String) : Option String := commandId.bind fun raw =>
    let stripped := ((raw.toList.dropWhile isWhitespace).reverse.dropWhile isWhitespace).reverse
    let bounded := stripped.take 128
    if bounded = [] then none else some (String.ofList bounded)

/-- The number of command results a node remembers. -/
@[irreducible] def rememberedResults : ℕ := 256

/-- The end of `mutate`: remember the result under the command id and return it. -/
def remember (rt : Runtime σ Snapshot Result) (commandId : Option String) (result : Result) :
    Runtime σ Snapshot Result :=
  let history := { rt.history with returns := (commandId, result) :: rt.history.returns }
  match commandId with
  | none => { rt with history := history }
  | some k =>
    { rt with
      commandResults :=
        OrderedDict.trim rememberedResults (OrderedDict.put rt.commandResults k result)
      history := { history with uses := k :: history.uses } }

lemma commandResults_remember (rt : Runtime σ Snapshot Result) (k : String) (result : Result) :
    (rt.remember (some k) result).commandResults =
      OrderedDict.trim rememberedResults (OrderedDict.put rt.commandResults k result) := by
  simp only [remember]

/-- A hit in the result cache: the entry becomes the most recent one. -/
def reuse (rt : Runtime σ Snapshot Result) (k : String) (result : Result) :
    Runtime σ Snapshot Result :=
  { rt with
    commandResults := OrderedDict.put rt.commandResults k result
    history := { rt.history with
      returns := (some k, result) :: rt.history.returns
      uses := k :: rt.history.uses } }

/-- The section of `mutate` under the lock. `persistFails` says that `_after_mutation` raises. -/
def mutateBody (N : NodeSetup σ Snapshot Result) (i : ℕ) (commandId : Option String)
    (operation : σ → σ × Except String Result) (persistFails : Bool)
    (rt : Runtime σ Snapshot Result) : Runtime σ Snapshot Result :=
  let beforeRevision := N.api.revision rt.state
  let outcome := operation rt.state
  let executed (result : Option Result) (saved : σ) : Runtime σ Snapshot Result := { rt with
      state := outcome.1
      saved := saved
      history := { rt.history with
        executions := ⟨commandId, rt.state, outcome.1, result⟩ :: rt.history.executions } }
  match outcome.2 with
  | .error reason => (executed none rt.saved).release i (.raised reason)
  | .ok result =>
    if N.api.resultRevision result ≠ beforeRevision then
      if persistFails then (executed none rt.saved).release i (.raised "persistence failed")
      else ((executed (some result) outcome.1).remember commandId result).release i .returned
    else ((executed (some result) rt.saved).remember commandId result).release i .returned

/-- The section of a MIDI action under the lock. A pass of the loop goes on to its due
mappings. -/
def midiBody (N : NodeSetup σ Snapshot Result) (i : ℕ) (origin : MidiOrigin)
    (actions : σ → σ × Except String Unit) (persistFails : Bool) (rt : Runtime σ Snapshot Result) :
    Runtime σ Snapshot Result :=
  let beforeRevision := N.api.revision rt.state
  let outcome := actions rt.state
  let next : Thread σ Snapshot Result := if origin = .loopPump then .loopPumped else .returned
  match outcome.2 with
  | .error reason => { rt with state := outcome.1 }.release i (.raised reason)
  | .ok () =>
    if N.api.revision outcome.1 ≠ beforeRevision then
      if persistFails then { rt with state := outcome.1 }.release i (.raised "persistence failed")
      else { rt with state := outcome.1, saved := outcome.1 }.release i next
    else { rt with state := outcome.1 }.release i next

/-! ## Replicas -/

/-- `apply_replica` replaces the state, or raises and releases the lock. -/
def restoreBody (N : NodeSetup σ Snapshot Result) (i : ℕ) (envelope : Envelope Snapshot)
    (rt : Runtime σ Snapshot Result) : Runtime σ Snapshot Result :=
  match N.api.applyReplicaSnapshot rt.state envelope.snapshot with
  | .error reason => rt.release i (.raised reason)
  | .ok state =>
    { rt.setThread i (.applyRestored envelope) with
      state := state
      history := { rt.history with
        applications := ⟨envelope, rt.replication.role, state⟩ :: rt.history.applications } }

/-- `apply_replica` saves the snapshot. -/
def saveBody (i : ℕ) (envelope : Envelope Snapshot) (rt : Runtime σ Snapshot Result) :
    Runtime σ Snapshot Result :=
  { rt.setThread i (.applySaved envelope) with saved := rt.state }

/-- `apply_replica` marks the envelope as applied and returns. -/
def markBody (i : ℕ) (envelope : Envelope Snapshot) (rt : Runtime σ Snapshot Result) :
    Runtime σ Snapshot Result :=
  { rt.release i .returned with
    replication := rt.replication.markApplied envelope
    history := { rt.history with accepted := envelope :: rt.history.accepted } }

end Runtime

end StageForge
