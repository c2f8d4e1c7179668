import StageForge.Library.TransitionSystem
import StageForge.Runtime.State

/-!
# Physical outputs and demotion

The calls of `StageForgeRuntime` that switch physical outputs on, and the demotions that are to
leave a standby silent: `arm_lighting_network`, the calls under `_audio_control_lock`,
`set_node_role`, and `_witness_tick`.

The native engine is there and executes each command at once and successfully. What it was last
told is the state: whether the lighting network transmits, and which audio streams run on a
physical device. Between any two points of a call every other call may move.
-/

namespace StageForge

open TransitionSystem

/-! ## Outputs and calls -/

inductive AudioDirection
  | output
  | input
  deriving DecidableEq

structure AudioStream where
  direction : AudioDirection
  slot : Int
  deriving DecidableEq

/-- What a demotion switches off: what the native engine transmits, and `_lighting_armed`. -/
inductive PhysicalOutput
  | lightingNetwork
  | audio (direction : AudioDirection)
  | lightingArmed
  deriving DecidableEq

/-- The body of `arm_lighting_network`. -/
structure ArmRequest where
  armed : Bool
  acknowledgePhysicalOutput : Bool := false
  deriving DecidableEq

/-- The calls under the audio lock: `activate_audio` and `activate_audio_input`, also as a recovery
with its own acknowledgement; `deactivate_audio` and `deactivate_audio_input`; and the device scans
of `_refresh_audio_devices` and `replace_audio_identity`. -/
inductive AudioCall
  | activate (stream : AudioStream) (acknowledged : Bool) (recovery : Option Bool)
  | deactivate (stream : AudioStream)
  | rescan
  deriving DecidableEq

inductive DemotionOrigin
  | setNodeRole
  | witnessTick
  deriving DecidableEq

inductive DemotionPhase
  | entered
  | lightingOff
  | audioLocked
  | inputsOff
  | outputsOff
  | audioReleased
  | flagCleared
  deriving DecidableEq

/-- The phase lies behind the point at which the output is switched off. -/
def DemotionPhase.past : DemotionPhase → PhysicalOutput → Bool
  | .entered, _ => false
  | .flagCleared, _ => true
  | _, .lightingNetwork => true
  | .inputsOff, .audio .input => true
  | .outputsOff, .audio _ => true
  | .audioReleased, .audio _ => true
  | _, _ => false

inductive OutputThread
  | armRequested (request : ArmRequest)
  /-- The authority has been tested, nothing has been sent. -/
  | armChecked (request : ArmRequest)
  /-- The native command has been sent, `_lighting_armed` has not been set. -/
  | armCommanded (armed : Bool)
  | audioRequested (call : AudioCall)
  | audioEntered (call : AudioCall)
  /-- Holding the audio lock, the authority has been tested. -/
  | audioChecked (stream : AudioStream)
  /-- Holding the audio lock, the native engine has started the stream. -/
  | audioStarted (stream : AudioStream)
  | roleRequested (request : RoleRequest)
  /-- `set_node_role` is about to make the node primary, with the epoch of its lease if it needs
  one. -/
  | promotionGranted (leaseEpoch : Option Int)
  | tickRequested
  /-- Holding the mutation lock, with the outcome of `acquire`. -/
  | tickAcquired (leaseValid : Bool) (leaseEpoch : Int)
  | demoting (origin : DemotionOrigin) (phase : DemotionPhase)
  | returned
  | raised (reason : String)
  deriving DecidableEq

/-- What a step learns from outside: the lighting target of the show or the venue, the verdict of
the device checks, whether a physical stream came up and kept its device, the failure detector, and
the witnesses. -/
structure Answers where
  protocol : String := "artnet"
  target : String := ""
  deviceCheck : Except String Unit := .ok ()
  running : Bool := true
  disconnected : Bool := false
  heartbeatEligible : Bool := false
  grant : Option LeaseGrant := none

/-- The state of a node, as far as its physical outputs and its role depend on it. -/
structure OutputNode where
  now : Int
  replication : ReplicationTracker
  witness : WitnessQuorumClient
  networkArmed : Bool := false
  streams : List AudioStream := []
  lightingArmed : Bool := false
  audioControlLock : Option ℕ := none
  mutationLock : Option ℕ := none
  threads : List OutputThread := []
  deriving DecidableEq

structure OutputSetup where
  witness : ClientConfig
  autoFailover : Bool := false

/-! ## The texts of the audio calls -/

namespace AudioDirection

def lacksAuthority : AudioDirection → String
  | .output => "node lacks authoritative lease for physical audio output"
  | .input => "node lacks authoritative lease for physical audio input"

def unacknowledged : AudioDirection → String
  | .output => "audio activation requires acknowledgePhysicalOutput=true"
  | .input => "audio input activation requires acknowledgePhysicalInput=true"

def slotOutOfRange : AudioDirection → String
  | .output => "audio output slot must be 0..3"
  | .input => "audio input slot must be 0..3"

def recoveryUnacknowledged : AudioDirection → String
  | .output => "audio recovery requires acknowledgeRecovery=true"
  | .input => "audio input recovery requires acknowledgeRecovery=true"

def alreadyActive : AudioDirection → String
  | .output => "audio output is already active"
  | .input => "audio input is already active"

def stoppedDuringActivation : AudioDirection → String
  | .output => "audio output disconnected during activation; stream was stopped"
  | .input => "audio input disconnected during activation; stream was stopped"

end AudioDirection

/-- `0 <= slot < 4`. -/
def AudioStream.slotOk (stream : AudioStream) : Bool :=
  decide (0 ≤ stream.slot) && decide (stream.slot < 4)

namespace OutputNode

/-! ## The bodies of the calls -/

/-- A node that has just come up: no output is armed. -/
def start (now : Int) (replication : ReplicationTracker) (witness : WitnessQuorumClient) :
    OutputNode :=
  { now := now, replication := replication, witness := witness }

def goto (st : OutputNode) (i : ℕ) (thread : OutputThread) : OutputNode :=
  { st with threads := st.threads.set i thread }

/-- The same, where it also leaves the audio lock. -/
def leaveAudio (st : OutputNode) (i : ℕ) (thread : OutputThread) : OutputNode :=
  { st.goto i thread with audioControlLock := none }

/-- The same, where it leaves the mutation lock. -/
def leaveMutation (st : OutputNode) (i : ℕ) (thread : OutputThread) : OutputNode :=
  { st.goto i thread with mutationLock := none }

def hasAuthority (N : OutputSetup) (st : OutputNode) : Bool :=
  st.replication.isPrimary && !st.witness.acquisitionSuspended &&
    (!N.witness.configured || st.witness.valid N.witness st.now)

def stopStream (st : OutputNode) (stream : AudioStream) : OutputNode :=
  { st with streams := st.streams.filter (· ≠ stream) }

/-- The native engine starts a stream; a device that is not physical replaces a physical one. -/
def startStream (st : OutputNode) (stream : AudioStream) (running : Bool) : OutputNode :=
  let others := st.streams.filter (· ≠ stream)
  { st with streams := if running then others ++ [stream] else others }

/-- `deactivate_all_audio_inputs` and `deactivate_all_audio_outputs`. -/
def stopAll (st : OutputNode) (direction : AudioDirection) : OutputNode :=
  { st with streams := st.streams.filter (·.direction ≠ direction) }

/-- The tests at the head of an activation, after those of a recovery. -/
def activationCheck (N : OutputSetup) (st : OutputNode) (stream : AudioStream)
    (acknowledged : Bool) (recovery : Option Bool) : Except String Unit :=
  let d := stream.direction
  if recovery = some false then .error d.recoveryUnacknowledged
  else if recovery = some true ∧ ¬ stream.slotOk then .error d.slotOutOfRange
  else if recovery = some true ∧ stream ∈ st.streams then .error d.alreadyActive
  else if ¬ st.hasAuthority N then .error d.lacksAuthority
  else if ¬ acknowledged then .error d.unacknowledged
  else if ¬ stream.slotOk then .error d.slotOutOfRange
  else .ok ()

/-- The first line of an audio call up to the native command. -/
def enterAudio (N : OutputSetup) (st : OutputNode) (i : ℕ) : AudioCall → OutputNode
  | .activate stream acknowledged recovery =>
    match st.activationCheck N stream acknowledged recovery with
    | .error reason => st.leaveAudio i (.raised reason)
    | .ok () => st.goto i (.audioChecked stream)
  | .deactivate stream =>
    if stream.slotOk then (st.stopStream stream).leaveAudio i .returned
    else st.leaveAudio i (.raised stream.direction.slotOutOfRange)
  | .rescan => st.leaveAudio i .returned

/-- `set_node_role` up to the change of the role. -/
def requestRole (N : OutputSetup) (st : OutputNode) (i : ℕ) (request : RoleRequest)
    (answers : Answers) : OutputNode :=
  let previous := st.replication.role
  if request.role = .primary ∧ st.witness.acquisitionSuspended then
    st.goto i (.raised "handoff acquisition fence requires recovery before promotion")
  else if ¬ request.acknowledgeAuthorityChange then
    st.goto i (.raised "role change requires acknowledgeAuthorityChange=true")
  else if request.role = previous ∧ (request.role ≠ .primary ∨ st.hasAuthority N) then
    st.goto i .returned
  else
    match request.role with
    | .standby => st.goto i (.demoting .setNodeRole .entered)
    | .primary =>
      if previous = .standby ∧ ¬ request.forceAuthorityOverride ∧ ¬ answers.heartbeatEligible then
        st.goto i (.raised "standby is not promotion-eligible; wait for heartbeat failure or use an explicit administrative override")
      else if N.witness.configured ∧ ¬ request.forceAuthorityOverride then
        let lease := st.witness.renewed answers.grant
        let renewed := { st with witness := lease }
        if lease.leaseValid st.now then renewed.goto i (.promotionGranted (some lease.leaseEpoch))
        else renewed.goto i (.raised "cannot promote without a witness quorum lease")
      else st.goto i (.promotionGranted none)

/-- What `_witness_tick` decides after `acquire`. -/
def decideTick (N : OutputSetup) (st : OutputNode) (i : ℕ) (leaseValid : Bool) (leaseEpoch : Int)
    (answers : Answers) : OutputNode :=
  if st.replication.isPrimary then
    if leaseValid then
      { st.leaveMutation i .returned with replication := st.replication.adoptEpoch leaseEpoch }
    else st.goto i (.demoting .witnessTick .entered)
  else if N.autoFailover ∧ answers.heartbeatEligible ∧ leaseValid then
    { st.leaveMutation i .returned with replication := st.replication.promoteWithEpoch leaseEpoch }
  else st.leaveMutation i .returned

/-- `_fence_physical_outputs` and the change of the role after it. -/
def fence (st : OutputNode) (i : ℕ) (origin : DemotionOrigin) : DemotionPhase → Option OutputNode
  | .entered =>
    some { st.goto i (.demoting origin .lightingOff) with networkArmed := false }
  | .lightingOff =>
    if st.audioControlLock = none then
      some { st.goto i (.demoting origin .audioLocked) with audioControlLock := some i }
    else none
  | .audioLocked => some ((st.stopAll .input).goto i (.demoting origin .inputsOff))
  | .inputsOff => some ((st.stopAll .output).goto i (.demoting origin .outputsOff))
  | .outputsOff => some (st.leaveAudio i (.demoting origin .audioReleased))
  | .audioReleased =>
    some { st.goto i (.demoting origin .flagCleared) with lightingArmed := false }
  | .flagCleared =>
    let demoted := { st with replication := st.replication.setRole .standby }
    match origin with
    | .setNodeRole => some (demoted.goto i .returned)
    | .witnessTick => some (demoted.leaveMutation i .returned)

/-- A call goes on to its next point; `none` while it waits for a lock, and at its end. -/
def advance (N : OutputSetup) (st : OutputNode) (i : ℕ) (answers : Answers) :
    OutputThread → Option OutputNode
  | .armRequested request =>
    if request.armed ∧ ¬ st.hasAuthority N then
      some (st.goto i (.raised "node lacks authoritative lease for physical lighting output"))
    else if request.armed ∧ ¬ request.acknowledgePhysicalOutput then
      some (st.goto i (.raised "arming lighting output requires acknowledgePhysicalOutput=true"))
    else some (st.goto i (.armChecked request))
  | .armChecked request =>
    if request.armed ∧ answers.protocol ∉ ["artnet", "sacn"] then
      some (st.goto i (.raised "unsupported lighting network protocol"))
    else if request.armed ∧ answers.target = "" then
      some (st.goto i (.raised s!"configure a unicast {answers.protocol} target before arming"))
    else
      some { st.goto i (.armCommanded request.armed) with networkArmed := request.armed }
  | .armCommanded armed => some { st.goto i .returned with lightingArmed := armed }
  | .audioRequested call =>
    if st.audioControlLock = none then
      some { st.goto i (.audioEntered call) with audioControlLock := some i }
    else none
  | .audioEntered call => some (st.enterAudio N i call)
  | .audioChecked stream =>
    match answers.deviceCheck with
    | .error reason => some (st.leaveAudio i (.raised reason))
    | .ok () =>
      let started := st.startStream stream answers.running
      if answers.running then some (started.goto i (.audioStarted stream))
      else some (started.leaveAudio i .returned)
  | .audioStarted stream =>
    if answers.disconnected then
      some ((st.stopStream stream).leaveAudio i (.raised stream.direction.stoppedDuringActivation))
    else some (st.leaveAudio i .returned)
  | .roleRequested request => some (st.requestRole N i request answers)
  | .promotionGranted none =>
    some { st.goto i .returned with replication := st.replication.setRole .primary }
  | .promotionGranted (some epoch) =>
    some { st.goto i .returned with replication := st.replication.promoteWithEpoch epoch }
  | .tickRequested =>
    if N.witness.configured ∧ st.mutationLock = none then
      let lease := st.witness.renewed answers.grant
      some { st.goto i (.tickAcquired (lease.leaseValid st.now) lease.leaseEpoch) with
        witness := lease, mutationLock := some i }
    else none
  | .tickAcquired leaseValid leaseEpoch => some (st.decideTick N i leaseValid leaseEpoch answers)
  | .demoting origin phase => st.fence i origin phase
  | .returned => none
  | .raised _ => none

end OutputNode

/-- The calls that may begin at any time. -/
inductive OutputCall
  | armLightingNetwork (request : ArmRequest)
  | audio (call : AudioCall)
  | setNodeRole (request : RoleRequest)
  | witnessTick
  deriving DecidableEq

def OutputCall.entry : OutputCall → OutputThread
  | .armLightingNetwork request => .armRequested request
  | .audio call => .audioRequested call
  | .setNodeRole request => .roleRequested request
  | .witnessTick => .tickRequested

inductive OutputAction
  | elapse (ms : ℕ)
  | call (call : OutputCall)
  | advance (i : ℕ) (answers : Answers)
  /-- The device scan inside an audio call stops a stream whose device is gone. -/
  | scanStops (i : ℕ) (stream : AudioStream)

/-- The call holds the audio lock and is at a point at which it scans the devices. -/
def OutputThread.scans : OutputThread → Bool
  | .audioEntered .rescan => true
  | .audioChecked _ => true
  | .audioStarted _ => true
  | _ => false

/-- One step of the node; `none` when the action is not possible. -/
def OutputSetup.step (N : OutputSetup) (st : OutputNode) : OutputAction → Option OutputNode
  | .elapse ms => some { st with now := st.now + ms }
  | .call c => some { st with threads := st.threads ++ [c.entry] }
  | .advance i answers => st.threads[i]?.bind (st.advance N i answers)
  | .scanStops i stream =>
    if st.threads[i]?.any OutputThread.scans then some (st.stopStream stream) else none

/-! ## What is fenced -/

namespace OutputNode

def Off (st : OutputNode) : PhysicalOutput → Prop
  | .lightingNetwork => st.networkArmed = false
  | .audio direction => ∀ stream ∈ st.streams, stream.direction ≠ direction
  | .lightingArmed => st.lightingArmed = false

/-- Nothing physical is armed: the lighting network, any audio stream, and the flag. -/
def Silent (st : OutputNode) : Prop :=
  st.networkArmed = false ∧ st.streams = [] ∧ st.lightingArmed = false

instance (st : OutputNode) : Decidable st.Silent := by
  unfold Silent
  infer_instance

lemma silent_of_off {st : OutputNode} (h : ∀ output, st.Off output) : st.Silent := by
  refine ⟨h .lightingNetwork, ?_, h .lightingArmed⟩
  rw [List.eq_nil_iff_forall_not_mem]
  intro stream hmem
  exact h (.audio stream.direction) stream hmem rfl

end OutputNode

/-- The call is a demotion that has switched the output off. -/
def OutputThread.fences (output : PhysicalOutput) : OutputThread → Bool
  | .demoting _ phase => phase.past output
  | _ => false

/-- A demotion is over, or one is under way that has already switched the output off. -/
def OutputNode.Fenced (st : OutputNode) (output : PhysicalOutput) : Prop :=
  st.replication.role = .standby ∨ st.threads.any (OutputThread.fences output) = true

instance (st : OutputNode) (output : PhysicalOutput) : Decidable (st.Fenced output) := by
  unfold OutputNode.Fenced
  infer_instance

/-- The output that the next step of a call switches on. -/
def OutputThread.switchesOn (answers : Answers) : OutputThread → Option PhysicalOutput
  | .armChecked request =>
    if request.armed ∧ answers.protocol ∈ ["artnet", "sacn"] ∧ answers.target ≠ "" then
      some .lightingNetwork
    else none
  | .armCommanded armed => if armed then some .lightingArmed else none
  | .audioChecked stream =>
    if answers.deviceCheck.isOk ∧ answers.running then some (.audio stream.direction) else none
  | _ => none

/-- The step does not switch on an output that a demotion has already switched off. -/
def SparesFenced (st : OutputNode) : OutputAction → Prop
  | .advance i answers =>
    ∀ output ∈ st.threads[i]?.bind (OutputThread.switchesOn answers), ¬ st.Fenced output
  | _ => True

instance (st : OutputNode) (a : OutputAction) : Decidable (SparesFenced st a) := by
  cases a <;> unfold SparesFenced <;> infer_instance

/-! ## What a step does -/

/-- What a step of a call may do to the outputs and to the role. -/
structure AdvanceEffect (answers : Answers) (st : OutputNode) (i : ℕ) (thread : OutputThread)
    (st' : OutputNode) (thread' : OutputThread) : Prop where
  threads : st'.threads = st.threads.set i thread'
  /-- An output stays off unless the step switches it on. -/
  off : ∀ output, st.Off output → thread.switchesOn answers ≠ some output → st'.Off output
  /-- A demotion passes an output by switching it off. -/
  passes : ∀ output, thread'.fences output = true → thread.fences output = true ∨ st'.Off output
  /-- The node becomes a standby at the end of a demotion. -/
  demotes : st'.replication.role = .standby →
    st.replication.role = .standby ∨ ∀ output, thread.fences output = true

variable {N : OutputSetup} {st st' : OutputNode} {i : ℕ} {answers : Answers}
  {thread thread' : OutputThread}

lemma AdvanceEffect.of_switch (hthreads : st'.threads = st.threads.set i thread')
    (hoff : ∀ output, st.Off output → thread.switchesOn answers ≠ some output → st'.Off output)
    (hrole : st'.replication.role = .standby → st.replication.role = .standby)
    (hfences : ∀ output, thread'.fences output = false) :
    AdvanceEffect answers st i thread st' thread' where
  threads := hthreads
  off := hoff
  passes := by
    intro output h
    rw [hfences] at h
    cases h
  demotes := fun h => .inl (hrole h)

lemma AdvanceEffect.of_quiet (hthreads : st'.threads = st.threads.set i thread')
    (hnet : st'.networkArmed = st.networkArmed) (hflag : st'.lightingArmed = st.lightingArmed)
    (hstreams : ∀ stream ∈ st'.streams, stream ∈ st.streams)
    (hrole : st'.replication.role = .standby → st.replication.role = .standby)
    (hfences : ∀ output, thread'.fences output = false) :
    AdvanceEffect answers st i thread st' thread' := by
  refine .of_switch hthreads (fun output hoff _ => ?_) hrole hfences
  cases output with
  | lightingNetwork => exact hnet.trans hoff
  | audio direction => exact fun stream hmem => hoff stream (hstreams stream hmem)
  | lightingArmed => exact hflag.trans hoff

lemma role_setRole (t : ReplicationTracker) (role : NodeRole) : (t.setRole role).role = role := by
  unfold ReplicationTracker.setRole
  split_ifs with h
  · rfl
  · exact (not_not.mp h).symm

lemma role_adoptEpoch (t : ReplicationTracker) (epoch : Int) :
    (t.adoptEpoch epoch).role = t.role := by
  unfold ReplicationTracker.adoptEpoch
  split_ifs <;> rfl

open OutputNode

lemma enterAudio_effect (call : AudioCall) : ∃ thread',
      AdvanceEffect answers st i (.audioEntered call) (st.enterAudio N i call) thread' := by
  cases call with
  | activate stream acknowledged recovery =>
    simp only [enterAudio]
    split
    · exact ⟨.raised _, .of_quiet rfl rfl rfl (fun _ h => h) id fun _ => rfl⟩
    · exact ⟨.audioChecked stream, .of_quiet rfl rfl rfl (fun _ h => h) id fun _ => rfl⟩
  | deactivate stream =>
    simp only [enterAudio]
    split
    · refine ⟨.returned, .of_quiet rfl rfl rfl ?_ id fun _ => rfl⟩
      exact fun _ h => (List.mem_filter.mp h).1
    · exact ⟨.raised _, .of_quiet rfl rfl rfl (fun _ h => h) id fun _ => rfl⟩
  | rescan => exact ⟨.returned, .of_quiet rfl rfl rfl (fun _ h => h) id fun _ => rfl⟩

lemma requestRole_effect (request : RoleRequest) :
    ∃ thread', AdvanceEffect answers st i (.roleRequested request)
      (st.requestRole N i request answers) thread' := by
  obtain ⟨thread', witness, hst, hfences⟩ : ∃ thread' witness,
      st.requestRole N i request answers = { st.goto i thread' with witness := witness } ∧
        ∀ output, OutputThread.fences output thread' = false := by
    unfold requestRole
    cases request.role <;> simp only <;> split_ifs <;> exact ⟨_, _, rfl, fun _ => rfl⟩
  rw [hst]
  exact ⟨thread', .of_quiet rfl rfl rfl (fun _ h => h) id hfences⟩

lemma decideTick_effect (leaseValid : Bool) (leaseEpoch : Int) :
    ∃ thread', AdvanceEffect answers st i (.tickAcquired leaseValid leaseEpoch)
      (st.decideTick N i leaseValid leaseEpoch answers) thread' := by
  unfold decideTick
  split_ifs with hprimary hvalid
  · refine ⟨.returned, .of_quiet rfl rfl rfl (fun _ h => h) ?_ fun _ => rfl⟩
    exact fun h => (role_adoptEpoch _ _).symm.trans h
  · exact ⟨.demoting .witnessTick .entered, .of_quiet rfl rfl rfl (fun _ h => h) id fun _ => rfl⟩
  · refine ⟨.returned, .of_quiet rfl rfl rfl (fun _ h => h) ?_ fun _ => rfl⟩
    simp [ReplicationTracker.promoteWithEpoch]
  · exact ⟨.returned, .of_quiet rfl rfl rfl (fun _ h => h) id fun _ => rfl⟩

lemma AdvanceEffect.of_fence {origin : DemotionOrigin} {phase phase' : DemotionPhase}
    (hthreads : st'.threads = st.threads.set i (.demoting origin phase'))
    (hoff : ∀ output, st.Off output → st'.Off output)
    (hpast : ∀ output, phase'.past output = true → phase.past output = true ∨ st'.Off output)
    (hrole : st'.replication = st.replication) :
    AdvanceEffect answers st i (.demoting origin phase) st' (.demoting origin phase') where
  threads := hthreads
  off := fun output h _ => hoff output h
  passes := hpast
  demotes := fun h => .inl (hrole ▸ h)

variable {output : PhysicalOutput}

lemma off_stopAll (direction : AudioDirection) (h : st.Off output) :
    (st.stopAll direction).Off output := by
  cases output with
  | audio d => exact fun stream hmem => h stream (List.mem_filter.mp hmem).1
  | _ => exact h

lemma stopAll_off (st : OutputNode) (direction : AudioDirection) :
    (st.stopAll direction).Off (.audio direction) :=
  fun _ hmem => by simpa using (List.mem_filter.mp hmem).2

lemma off_congr (hnet : st'.networkArmed = st.networkArmed) (hstreams : st'.streams = st.streams)
    (hflag : st'.lightingArmed = st.lightingArmed) (h : st.Off output) :
    st'.Off output := by
  cases output with
  | lightingNetwork => exact hnet.trans h
  | audio direction => exact fun stream hmem => h stream (hstreams ▸ hmem)
  | lightingArmed => exact hflag.trans h

lemma fence_effect (origin : DemotionOrigin) (phase : DemotionPhase)
    (h : st.fence i origin phase = some st') :
    ∃ thread', AdvanceEffect answers st i (.demoting origin phase) st' thread' := by
  cases phase with
  | entered =>
    cases h
    refine ⟨.demoting origin .lightingOff, .of_fence rfl ?_ ?_ rfl⟩
    · rintro (_ | _ | _) hoff
      · rfl
      · exact hoff
      · exact hoff
    · rintro (_ | _ | _) hp
      · exact .inr rfl
      · exact absurd hp (by simp [DemotionPhase.past])
      · exact absurd hp (by simp [DemotionPhase.past])
  | lightingOff =>
    simp only [fence, Option.ite_none_right_eq_some, Option.some.injEq] at h
    obtain ⟨-, rfl⟩ := h
    refine ⟨.demoting origin .audioLocked, .of_fence rfl (fun _ => off_congr rfl rfl rfl) ?_ rfl⟩
    rintro (_ | _ | _) hp
    · exact .inl rfl
    · exact absurd hp (by simp [DemotionPhase.past])
    · exact absurd hp (by simp [DemotionPhase.past])
  | audioLocked =>
    cases h
    refine ⟨.demoting origin .inputsOff, .of_fence rfl ?_ ?_ rfl⟩
    · exact fun _ hoff => off_congr rfl rfl rfl (off_stopAll .input hoff)
    · rintro (_ | (_ | _) | _) hp
      · exact .inl rfl
      · exact absurd hp (by simp [DemotionPhase.past])
      · exact .inr (off_congr rfl rfl rfl (stopAll_off st .input))
      · exact absurd hp (by simp [DemotionPhase.past])
  | inputsOff =>
    cases h
    refine ⟨.demoting origin .outputsOff, .of_fence rfl ?_ ?_ rfl⟩
    · exact fun _ hoff => off_congr rfl rfl rfl (off_stopAll .output hoff)
    · rintro (_ | (_ | _) | _) hp
      · exact .inl rfl
      · exact .inr (off_congr rfl rfl rfl (stopAll_off st .output))
      · exact .inl rfl
      · exact absurd hp (by simp [DemotionPhase.past])
  | outputsOff =>
    cases h
    refine ⟨.demoting origin .audioReleased,
      .of_fence rfl (fun _ => off_congr rfl rfl rfl) ?_ rfl⟩
    rintro (_ | _ | _) hp
    · exact .inl rfl
    · exact .inl rfl
    · exact absurd hp (by simp [DemotionPhase.past])
  | audioReleased =>
    cases h
    refine ⟨.demoting origin .flagCleared, .of_fence rfl ?_ ?_ rfl⟩
    · rintro (_ | _ | _) hoff
      · exact hoff
      · exact hoff
      · rfl
    · rintro (_ | _ | _) hp
      · exact .inl rfl
      · exact .inl rfl
      · exact .inr rfl
  | flagCleared =>
    have hst : st'.threads = st.threads.set i .returned ∧ st'.networkArmed = st.networkArmed ∧
        st'.streams = st.streams ∧ st'.lightingArmed = st.lightingArmed := by
      cases origin <;> obtain rfl := Option.some.inj h <;> exact ⟨rfl, rfl, rfl, rfl⟩
    obtain ⟨hthreads, hnet, hstreams, hflag⟩ := hst
    exact ⟨.returned,
      { threads := hthreads
        off := fun _ hoff _ => off_congr hnet hstreams hflag hoff
        passes := fun _ hp => absurd hp (by simp [OutputThread.fences])
        demotes := fun _ => .inr fun _ => rfl }⟩

lemma armChecked_effect (request : ArmRequest)
    (h : st.advance N i answers (.armChecked request) = some st') :
    ∃ thread', AdvanceEffect answers st i (.armChecked request) st' thread' := by
  simp only [advance] at h
  split_ifs at h with hprotocol htarget
  · cases h
    exact ⟨.raised _, .of_quiet rfl rfl rfl (fun _ h => h) id fun _ => rfl⟩
  · cases h
    exact ⟨.raised _, .of_quiet rfl rfl rfl (fun _ h => h) id fun _ => rfl⟩
  · cases h
    refine ⟨.armCommanded request.armed, .of_switch rfl ?_ id fun _ => rfl⟩
    rintro (_ | _ | _) hoff hswitch
    · by_contra harmed
      have harmed : request.armed = true := by simpa [OutputNode.Off] using harmed
      refine hswitch (if_pos ⟨harmed, ?_, fun htext => htarget ⟨harmed, htext⟩⟩)
      by_contra hno
      exact hprotocol ⟨harmed, hno⟩
    · exact hoff
    · exact hoff

lemma armCommanded_effect (armed : Bool)
    (h : st.advance N i answers (.armCommanded armed) = some st') :
    ∃ thread', AdvanceEffect answers st i (.armCommanded armed) st' thread' := by
  cases h
  refine ⟨.returned, .of_switch rfl ?_ id fun _ => rfl⟩
  rintro (_ | _ | _) hoff hswitch
  · exact hoff
  · exact hoff
  · cases armed with
    | true => exact absurd rfl hswitch
    | false => rfl

lemma audioChecked_effect (stream : AudioStream)
    (h : st.advance N i answers (.audioChecked stream) = some st') :
    ∃ thread', AdvanceEffect answers st i (.audioChecked stream) st' thread' := by
  have hothers : ∀ other ∈ st.streams.filter (· ≠ stream), other ∈ st.streams :=
    fun _ hmem => (List.mem_filter.mp hmem).1
  simp only [advance] at h
  split at h
  · cases h
    exact ⟨.raised _, .of_quiet rfl rfl rfl (fun _ h => h) id fun _ => rfl⟩
  · rename_i hcheck
    split_ifs at h with hrunning <;> cases h
    · refine ⟨.audioStarted stream, .of_switch rfl ?_ id fun _ => rfl⟩
      rintro (_ | direction | _) hoff hswitch
      · exact hoff
      · intro other hmem hdirection
        simp only [goto, startStream, if_pos hrunning, List.mem_append, List.mem_singleton] at hmem
        rcases hmem with hmem | rfl
        · exact hoff other (hothers other hmem) hdirection
        · refine hswitch ?_
          simp [OutputThread.switchesOn, hcheck, hrunning, hdirection, Except.isOk, Except.toBool]
      · exact hoff
    · refine ⟨.returned, .of_quiet rfl rfl rfl ?_ id fun _ => rfl⟩
      simpa [leaveAudio, goto, startStream, hrunning] using fun other hmem _ => hmem

/-- **What a step of a call can do.** -/
lemma advance_effect (h : st.advance N i answers thread = some st') :
    ∃ thread', AdvanceEffect answers st i thread st' thread' := by
  cases thread with
  | armRequested request =>
    simp only [advance] at h
    split_ifs at h <;> obtain rfl := Option.some.inj h <;>
      exact ⟨_, .of_quiet rfl rfl rfl (fun _ h => h) id fun _ => rfl⟩
  | armChecked request => exact armChecked_effect request h
  | armCommanded armed => exact armCommanded_effect (N := N) armed h
  | audioRequested call =>
    simp only [advance, Option.ite_none_right_eq_some, Option.some.injEq] at h
    obtain ⟨-, rfl⟩ := h
    exact ⟨.audioEntered call, .of_quiet rfl rfl rfl (fun _ h => h) id fun _ => rfl⟩
  | audioEntered call =>
    cases h
    exact enterAudio_effect call
  | audioChecked stream => exact audioChecked_effect stream h
  | audioStarted stream =>
    simp only [advance] at h
    split_ifs at h <;> cases h
    · refine ⟨.raised _, .of_quiet rfl rfl rfl ?_ id fun _ => rfl⟩
      exact fun _ h => (List.mem_filter.mp h).1
    · exact ⟨.returned, .of_quiet rfl rfl rfl (fun _ h => h) id fun _ => rfl⟩
  | roleRequested request =>
    cases h
    exact requestRole_effect request
  | promotionGranted leaseEpoch =>
    have hprimary : ∀ t : ReplicationTracker, t.role = .primary → t.role = .standby → False :=
      fun t hp hs => by simp [hp] at hs
    cases leaseEpoch <;> cases h
    · refine ⟨.returned, .of_quiet rfl rfl rfl (fun _ h => h) ?_ fun _ => rfl⟩
      exact fun h => (hprimary _ (role_setRole _ _) h).elim
    · refine ⟨.returned, .of_quiet rfl rfl rfl (fun _ h => h) ?_ fun _ => rfl⟩
      exact fun h => (hprimary _ rfl h).elim
  | tickRequested =>
    simp only [advance, Option.ite_none_right_eq_some, Option.some.injEq] at h
    obtain ⟨-, rfl⟩ := h
    exact ⟨.tickAcquired _ _, .of_quiet rfl rfl rfl (fun _ h => h) id fun _ => rfl⟩
  | tickAcquired leaseValid leaseEpoch =>
    cases h
    exact decideTick_effect leaseValid leaseEpoch
  | demoting origin phase => exact fence_effect origin phase h
  | returned => simp [advance] at h
  | raised reason => simp [advance] at h

/-! ## A standby is silent -/

/-- Every output that a demotion has passed is off. -/
def FencedOff (st : OutputNode) : Prop := ∀ output, st.Fenced output → st.Off output

/-- An output that is fenced after a step of a call was fenced before, or the step switched it
off. -/
lemma fenced_of_advance (he : AdvanceEffect answers st i thread st' thread')
    (hi : st.threads[i]? = some thread) (h : st'.Fenced output) :
    st.Fenced output ∨ st'.Off output := by
  have hmem : thread ∈ st.threads := List.mem_of_getElem? hi
  rcases h with hstandby | hany
  · rcases he.demotes hstandby with hrole | hpassed
    · exact .inl (.inl hrole)
    · exact .inl (.inr (List.any_eq_true.mpr ⟨thread, hmem, hpassed output⟩))
  · obtain ⟨other, hother, hfences⟩ := List.any_eq_true.mp hany
    rw [he.threads] at hother
    rcases List.mem_or_eq_of_mem_set hother with hold | rfl
    · exact .inl (.inr (List.any_eq_true.mpr ⟨other, hold, hfences⟩))
    · rcases he.passes output hfences with hpassed | hoff
      · exact .inl (.inr (List.any_eq_true.mpr ⟨thread, hmem, hpassed⟩))
      · exact .inr hoff

/-- **The step lemma.** A step that spares what is fenced leaves it off. -/
lemma fencedOff_step {a : OutputAction} (hinv : FencedOff st) (hok : SparesFenced st a)
    (hs : N.step st a = some st') : FencedOff st' := by
  cases a with
  | elapse ms =>
    cases hs
    exact fun output h => off_congr rfl rfl rfl (hinv output h)
  | call c =>
    cases hs
    have hentry : ∀ output, OutputThread.fences output c.entry = false := by
      intro output
      cases c <;> rfl
    intro output h
    refine off_congr rfl rfl rfl (hinv output ?_)
    simpa [OutputNode.Fenced, hentry] using h
  | advance i answers =>
    simp only [OutputSetup.step, Option.bind_eq_some_iff] at hs
    obtain ⟨thread, hi, hadv⟩ := hs
    obtain ⟨thread', he⟩ := advance_effect hadv
    intro output h
    rcases fenced_of_advance he hi h with hbefore | hoff
    · refine he.off output (hinv output hbefore) fun hswitch => ?_
      exact hok output (by simpa [hi] using hswitch) hbefore
    · exact hoff
  | scanStops i stream =>
    simp only [OutputSetup.step, Option.ite_none_right_eq_some, Option.some.injEq] at hs
    obtain ⟨-, rfl⟩ := hs
    intro output h
    have hoff := hinv output h
    cases output with
    | audio d => exact fun other hmem => hoff other (List.mem_filter.mp hmem).1
    | _ => exact hoff

/-- **A standby is silent.** In every run in which no call switches on an output that a demotion
has already passed, a standby transmits no lighting, runs no physical audio stream, and has
`_lighting_armed` cleared. -/
theorem standby_silent {now : Int} {replication : ReplicationTracker}
    {witness : WitnessQuorumClient} {as : List OutputAction}
    (h : Reaches N.step SparesFenced (.start now replication witness) as st)
    (hstandby : st.replication.role = .standby) : st.Silent := by
  have hstart : FencedOff (.start now replication witness) := by
    rintro (_ | _ | _) _
    · rfl
    · exact fun stream hmem => absurd hmem (by simp [OutputNode.start])
    · rfl
  have hinv := h.invariant hstart fun _ _ _ hinv hok hs => fencedOff_step hinv hok hs
  exact OutputNode.silent_of_off fun output => hinv output (.inl hstandby)

/-! ## Runs of a small node -/

/-- A node without witnesses, and one with a single witness. -/
def soloOutputs : OutputSetup where
  witness := { urls := [], clusterId := "show" }

def witnessedOutputs : OutputSetup where
  witness := { urls := ["w1"], clusterId := "show" }

/-- A primary whose lease, if it needs one, runs until time 5000, at time 1000. -/
def outputPrimary : OutputNode :=
  .start 1000 { nodeId := "a", role := .primary } { leaseEpoch := 1, leaseExpiresAt := 5000 }

def lightingTarget : Answers := { target := "10.0.0.2" }

/-- Call `i` takes `n` steps with nothing to learn from outside. -/
def advanceTimes (n i : ℕ) : List OutputAction := List.replicate n (.advance i {})

/-- Lighting is armed and an audio input started, and then the node is demoted. -/
def orderlyDemotion : List OutputAction :=
  [.call (.armLightingNetwork ⟨true, true⟩), .advance 0 {}, .advance 0 lightingTarget,
    .advance 0 {}, .call (.audio (.activate ⟨.input, 0⟩ true none))] ++ advanceTimes 4 1 ++
    [.call (.setNodeRole { role := .standby })] ++ advanceTimes 8 2

theorem standby_silent_orderlyDemotion :
    ∃ st, Reaches soloOutputs.step SparesFenced outputPrimary orderlyDemotion st ∧
      st.replication.role = .standby ∧ st.Silent := by
  have hrun : (run (fun st a => if SparesFenced st a then soloOutputs.step st a else none)
      outputPrimary orderlyDemotion).any (fun st => st.replication.role = .standby) = true := by
    decide +kernel
  obtain ⟨st, hst, hrole⟩ := (Option.any_eq_true _ _).mp hrun
  have hstandby := of_decide_eq_true hrole
  exact ⟨st, reaches_of_run hst, hstandby, standby_silent (reaches_of_run hst) hstandby⟩

/-- The authority for arming is tested, the node is demoted, and then the command is sent. -/
def armAcrossDemotion : List OutputAction :=
  [.call (.armLightingNetwork ⟨true, true⟩), .advance 0 {},
    .call (.setNodeRole { role := .standby })] ++ advanceTimes 8 1 ++
    [.advance 0 lightingTarget, .advance 0 {}]

def armAcrossTick : List OutputAction :=
  [.call (.armLightingNetwork ⟨true, true⟩), .advance 0 {}, .elapse 4000, .call .witnessTick] ++
    advanceTimes 9 1 ++ [.advance 0 lightingTarget, .advance 0 {}]

/-- An audio input is activated after the demotion has left the audio lock and before it changes
the role. -/
def activateDuringDemotion : List OutputAction :=
  [.call (.setNodeRole { role := .standby })] ++ advanceTimes 6 0 ++
    [.call (.audio (.activate ⟨.input, 0⟩ true none))] ++ advanceTimes 4 1 ++ advanceTimes 2 0

lemma not_silent_of_run {N : OutputSetup} {as : List OutputAction}
    (hrun : (run N.step outputPrimary as).any (fun st =>
      decide (st.replication.role = .standby) && !decide st.Silent) = true) :
    ∃ st, Reaches N.step Always outputPrimary as st ∧ st.replication.role = .standby ∧
      ¬ st.Silent := by
  obtain ⟨st, hst, hloud⟩ := (Option.any_eq_true _ _).mp hrun
  simp only [Bool.and_eq_true, decide_eq_true_eq, Bool.not_eq_true', decide_eq_false_iff_not]
    at hloud
  exact ⟨st, reaches_always_of_run hst, hloud⟩

/-- **A demotion can be overtaken.** After each of these runs a standby drives a physical
output. -/
theorem demotion_overtaken :
    (∃ st, Reaches soloOutputs.step Always outputPrimary armAcrossDemotion st ∧
      st.replication.role = .standby ∧ ¬ st.Silent) ∧
    (∃ st, Reaches witnessedOutputs.step Always outputPrimary armAcrossTick st ∧
      st.replication.role = .standby ∧ ¬ st.Silent) ∧
    ∃ st, Reaches soloOutputs.step Always outputPrimary activateDuringDemotion st ∧
      st.replication.role = .standby ∧ ¬ st.Silent :=
  ⟨not_silent_of_run (by decide +kernel), not_silent_of_run (by decide +kernel),
    not_silent_of_run (by decide +kernel)⟩

end StageForge
