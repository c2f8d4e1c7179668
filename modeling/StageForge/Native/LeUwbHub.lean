import StageForge.Native.ClockDiscipline

/-!
# The hub for LE Audio and UWB nodes

`LeUwbHub` coordinates the wireless nodes of a stage. A node gives evidence over two links, ranging and
clock observations over UWB and transport timing over LE, and `plan` decides whether every required node
has what it takes, and how long a lead the slowest one needs.
-/

namespace StageForge

inductive LeUwbNodeRole
  | performerInput
  | monitorOutput
  | stageOutput
  | lighting
  | control
  deriving DecidableEq

inductive LeUwbSyncState
  | unconfigured
  | awaitingUwb
  | awaitingLe
  | locked
  | holdover
  | blocked
  deriving DecidableEq

structure LeUwbHubPolicy (S : RoundedFloats) where
  targetPresentationLeadNs : UInt64
  maxEndToEndNs : UInt64
  freshObservationNs : UInt64
  holdoverNs : UInt64
  maxClockUncertaintyNs : UInt64
  maxJitterNs : UInt64
  maxRangeUncertaintyMm : S.Double
  maxDriftPpm : S.Double
  requireAuthenticatedObservations : Bool

structure LeUwbNodeDescriptor where
  nodeId : UInt64
  leStreamId : UInt32
  role : LeUwbNodeRole
  presentationDelayNs : UInt64
  required : Bool
  deriving DecidableEq

structure LeUwbNodeStatus (S : RoundedFloats) where
  descriptor : LeUwbNodeDescriptor
  state : LeUwbSyncState
  authorityEpoch : UInt64
  uwbSequence : UInt64
  leSequence : UInt64
  leEventCounter : UInt64
  lastUwbHubNs : UInt64
  lastLeHubNs : UInt64
  transportLatencyNs : UInt64
  jitterNs : UInt64
  clockUncertaintyNs : UInt64
  distanceMm : S.Double
  rangeUncertaintyMm : S.Double
  driftPpm : S.Double
  clockOffsetNs : ℤ
  rejectedObservations : UInt64
  authenticated : Bool

structure LeUwbSyncPlan where
  generation : UInt64
  authorityEpoch : UInt64
  targetHubNs : UInt64
  targetShowNs : UInt64
  presentationLeadNs : UInt64
  configuredNodes : UInt32
  requiredNodes : UInt32
  readyNodes : UInt32
  holdoverNodes : UInt32
  blockedNodes : UInt32
  ready : Bool
  physicalOutputsArmed : Bool
  deriving DecidableEq

def LeUwbSyncPlan.empty : LeUwbSyncPlan := ⟨0, 0, 0, 0, 0, 0, 0, 0, 0, 0, false, false⟩

/-- `LeUwbHub::Node`. -/
structure LeUwbNode (S : RoundedFloats) where
  used : Bool
  status : LeUwbNodeStatus S
  discipline : ClockDiscipline S
  uwbAuthenticated : Bool
  leAuthenticated : Bool

structure LeUwbHub (S : RoundedFloats) where
  nodes : List (LeUwbNode S)
  policy : LeUwbHubPolicy S
  epoch : UInt64
  generation : UInt64
  lastPlan : LeUwbSyncPlan

variable {S : RoundedFloats}

def LeUwbHubPolicy.default : LeUwbHubPolicy S where
  targetPresentationLeadNs := 10000000
  maxEndToEndNs := 30000000
  freshObservationNs := 100000000
  holdoverNs := 500000000
  maxClockUncertaintyNs := 250000
  maxJitterNs := 500000
  maxRangeUncertaintyMm := S.double.literal 300
  maxDriftPpm := S.double.literal 250
  requireAuthenticatedObservations := true

def LeUwbNodeStatus.cleared (descriptor : LeUwbNodeDescriptor) (rejected : UInt64) :
    LeUwbNodeStatus S where
  descriptor
  state := .unconfigured
  authorityEpoch := 0
  uwbSequence := 0
  leSequence := 0
  leEventCounter := 0
  lastUwbHubNs := 0
  lastLeHubNs := 0
  transportLatencyNs := 0
  jitterNs := 0
  clockUncertaintyNs := 0
  distanceMm := S.double.literal 0
  rangeUncertaintyMm := S.double.literal 0
  driftPpm := S.double.literal 0
  clockOffsetNs := 0
  rejectedObservations := rejected
  authenticated := false

namespace LeUwbNode

def free : LeUwbNode S where
  used := false
  status := .cleared ⟨0, 0, .performerInput, 0, true⟩ 0
  discipline := .new 1000000000
  uwbAuthenticated := false
  leAuthenticated := false

def resetEvidence (node : LeUwbNode S) : LeUwbNode S := { node with
    status := .cleared node.status.descriptor node.status.rejectedObservations
    discipline := node.discipline.reset
    uwbAuthenticated := false
    leAuthenticated := false }

def isNode (id : UInt64) (node : LeUwbNode S) : Bool :=
  node.used && node.status.descriptor.nodeId = id

def reject (node : LeUwbNode S) : LeUwbNode S :=
  { node with status.rejectedObservations := node.status.rejectedObservations + 1 }

end LeUwbNode

namespace LeUwbHub

def new (maxNodes : ℕ) : LeUwbHub S where
  nodes := List.replicate maxNodes .free
  policy := .default
  epoch := 0
  generation := 0
  lastPlan := .empty

def saturatingAdd (a b : UInt64) : UInt64 :=
  if UInt64.ofNat (2 ^ 64 - 1) - a < b then UInt64.ofNat (2 ^ 64 - 1) else a + b

variable (hub : LeUwbHub S)

def configure (authorityEpoch : UInt64) (policy : LeUwbHubPolicy S) : LeUwbHub S × Bool :=
  if authorityEpoch = 0 ∨ policy.targetPresentationLeadNs = 0 ∨
      policy.maxEndToEndNs < policy.targetPresentationLeadNs ∨ policy.freshObservationNs = 0 ∨
      policy.holdoverNs < policy.freshObservationNs ∨ policy.maxClockUncertaintyNs = 0 ∨
      policy.maxJitterNs = 0 ∨ S.double.finite policy.maxRangeUncertaintyMm = false ∨
      S.double.less policy.maxRangeUncertaintyMm (S.double.literal 0) = true ∨
      S.double.finite policy.maxDriftPpm = false ∨
      S.double.less policy.maxDriftPpm (S.double.literal 0) = true then (hub, false)
  else if hub.epoch ≠ 0 ∧ authorityEpoch < hub.epoch then (hub, false)
  else
    ({ nodes := hub.nodes.map fun node =>
          if node.used then
            { node.resetEvidence with
              status := { node.resetEvidence.status with authorityEpoch } }
          else node
       policy
       epoch := authorityEpoch
       generation := 0
       lastPlan := .empty }, true)

def registerNode (descriptor : LeUwbNodeDescriptor) : LeUwbHub S × Bool :=
  if hub.epoch = 0 ∨ descriptor.nodeId = 0 ∨ descriptor.leStreamId = 0 ∨
      hub.policy.maxEndToEndNs < descriptor.presentationDelayNs then (hub, false)
  else
    let register (node : LeUwbNode S) : LeUwbNode S := { node.resetEvidence with
        used := true
        status := { node.resetEvidence.status with
          descriptor, authorityEpoch := hub.epoch, state := .awaitingUwb }
        discipline := node.resetEvidence.discipline.setHoldoverTimeout hub.policy.holdoverNs }
    if hub.nodes.any (LeUwbNode.isNode descriptor.nodeId) then
      ({ hub with nodes :=
          hub.nodes.modify (hub.nodes.findIdx (LeUwbNode.isNode descriptor.nodeId)) register }, true)
    else if hub.nodes.any fun node => !node.used then
      ({ hub with nodes :=
          hub.nodes.modify (hub.nodes.findIdx fun node => !node.used) register }, true)
    else (hub, false)

def update (id : UInt64) (change : LeUwbNode S → LeUwbNode S) : LeUwbHub S :=
  { hub with nodes := hub.nodes.modify (hub.nodes.findIdx (LeUwbNode.isNode id)) change }

def observeUwb (nodeId sequence authorityEpoch hubTimeNs nodeTimeNs : UInt64)
    (distanceMm rangeUncertaintyMm : S.Double) (clockUncertaintyNs : UInt64)
    (authenticated : Bool) : LeUwbHub S × Bool :=
  match hub.nodes.find? (LeUwbNode.isNode nodeId) with
  | none => (hub, false)
  | some node =>
    if sequence = 0 ∨ sequence ≤ node.status.uwbSequence ∨ authorityEpoch ≠ hub.epoch ∨
        hubTimeNs = 0 ∨ nodeTimeNs = 0 ∨ S.double.finite distanceMm = false ∨
        S.double.less distanceMm (S.double.literal 0) = true ∨
        S.double.finite rangeUncertaintyMm = false ∨
        S.double.less rangeUncertaintyMm (S.double.literal 0) = true ∨
        S.double.less hub.policy.maxRangeUncertaintyMm rangeUncertaintyMm = true ∨
        hub.policy.maxClockUncertaintyNs < clockUncertaintyNs ∨
        (hub.policy.requireAuthenticatedObservations = true ∧ authenticated = false) then
      (hub.update nodeId LeUwbNode.reject, false)
    else
      -- the hub's timestamp, less the time the signal was on its way
      let propagationNs := UInt64.ofNat
        (S.llround (S.double.div distanceMm (S.double.literal 299.792458))).toNat
      let correctedHubNs := if propagationNs < hubTimeNs then hubTimeNs - propagationNs else hubTimeNs
      (hub.update nodeId fun node =>
        let (discipline, clock) :=
          (node.discipline.observe correctedHubNs nodeTimeNs).snapshot correctedHubNs
        { node with
          discipline
          uwbAuthenticated := authenticated
          status := { node.status with
            uwbSequence := sequence
            lastUwbHubNs := hubTimeNs
            distanceMm, rangeUncertaintyMm, clockUncertaintyNs
            driftPpm := clock.driftPpm
            clockOffsetNs := clock.offsetNs
            authenticated := authenticated && node.leAuthenticated
            state := if node.status.leSequence = 0 then .awaitingLe else .locked } }, true)

def observeLe (nodeId sequence authorityEpoch eventCounter hubTimeNs transportLatencyNs
    jitterNs : UInt64) (authenticated : Bool) : LeUwbHub S × Bool :=
  match hub.nodes.find? (LeUwbNode.isNode nodeId) with
  | none => (hub, false)
  | some node =>
    if sequence = 0 ∨ sequence ≤ node.status.leSequence ∨ authorityEpoch ≠ hub.epoch ∨
        eventCounter ≤ node.status.leEventCounter ∨ hubTimeNs = 0 ∨
        hub.policy.maxJitterNs < jitterNs ∨ hub.policy.maxEndToEndNs < transportLatencyNs ∨
        (hub.policy.requireAuthenticatedObservations = true ∧ authenticated = false) then
      (hub.update nodeId LeUwbNode.reject, false)
    else
      (hub.update nodeId fun node =>
        { node with
          leAuthenticated := authenticated
          status := { node.status with
            leSequence := sequence
            leEventCounter := eventCounter
            lastLeHubNs := hubTimeNs
            transportLatencyNs, jitterNs
            authenticated := node.uwbAuthenticated && authenticated
            state := if node.status.uwbSequence = 0 then .awaitingUwb else .locked } }, true)

/-! ## The plan -/

def nodeLead (node : LeUwbNode S) : UInt64 :=
  saturatingAdd node.status.descriptor.presentationDelayNs
    (saturatingAdd node.status.transportLatencyNs node.status.jitterNs)

def projectedUncertainty (node : LeUwbNode S) (hubNowNs : UInt64) : S.Double :=
  S.double.add (S.ofInt node.status.clockUncertaintyNs.toNat) (S.double.div
      (S.double.mul (S.ofInt (hubNowNs - node.status.lastUwbHubNs).toNat)
        (S.double.abs node.discipline.driftPpm))
      (S.double.literal 1000000))

/-- `evaluate`, with the lead so far: the node after it, the lead, and whether the node is ready. -/
def evaluate (policy : LeUwbHubPolicy S) (epoch : UInt64) (node : LeUwbNode S)
    (hubNowNs requiredLead : UInt64) : LeUwbNode S × UInt64 × Bool :=
  let status := node.status
  if status.uwbSequence = 0 ∨ status.leSequence = 0 ∨ status.authorityEpoch ≠ epoch ∨
      (policy.requireAuthenticatedObservations = true ∧ status.authenticated = false) ∨
      hubNowNs < status.lastUwbHubNs ∨ hubNowNs < status.lastLeHubNs then
    ({ node with status.state := .blocked }, requiredLead, false)
  else
    let uwbAge := hubNowNs - status.lastUwbHubNs
    let leAge := hubNowNs - status.lastLeHubNs
    let (discipline, clock) := node.discipline.snapshot hubNowNs
    let status := { status with driftPpm := clock.driftPpm, clockOffsetNs := clock.offsetNs }
    if policy.holdoverNs < uwbAge ∨ policy.freshObservationNs < leAge ∨
        S.double.less (S.ofInt policy.maxClockUncertaintyNs.toNat)
          (projectedUncertainty node hubNowNs) = true ∨
        S.double.less policy.maxDriftPpm (S.double.abs clock.driftPpm) = true ∨
        policy.maxJitterNs < status.jitterNs ∨
        S.double.less policy.maxRangeUncertaintyMm status.rangeUncertaintyMm = true then
      ({ node with discipline, status := { status with state := .blocked } }, requiredLead, false)
    else
      ({ node with discipline, status := { status with
            state := if policy.freshObservationNs < uwbAge then .holdover else .locked } },
        max requiredLead (nodeLead node), nodeLead node ≤ policy.maxEndToEndNs)

/-- The local variables of `plan`, with the nodes it has been through. -/
structure Planning (S : RoundedFloats) where
  nodes : List (LeUwbNode S)
  result : LeUwbSyncPlan
  requiredLead : UInt64
  allRequiredReady : Bool

def planNode (hubNowNs : UInt64) (p : Planning S) (node : LeUwbNode S) : Planning S :=
  if node.used = false then { p with nodes := p.nodes ++ [node] }
  else
    let required := node.status.descriptor.required
    let (after, requiredLead, nodeReady) :=
      evaluate hub.policy hub.epoch node hubNowNs p.requiredLead
    let result := { p.result with
      configuredNodes := p.result.configuredNodes + 1
      requiredNodes := if required then p.result.requiredNodes + 1 else p.result.requiredNodes }
    if nodeReady = true then
      { p with
        nodes := p.nodes ++ [after]
        requiredLead
        result := { result with
          readyNodes := result.readyNodes + 1
          holdoverNodes :=
            if after.status.state = .holdover then result.holdoverNodes + 1
            else result.holdoverNodes } }
    else
      { nodes := p.nodes ++ [after]
        requiredLead
        result := { result with blockedNodes := result.blockedNodes + 1 }
        allRequiredReady := if required then false else p.allRequiredReady }

def planNodes (hubNowNs authorityEpoch : UInt64) : Planning S :=
  hub.nodes.foldl (hub.planNode hubNowNs)
    { nodes := []
      result := { LeUwbSyncPlan.empty with
        generation := hub.generation + 1, authorityEpoch := hub.epoch }
      requiredLead := hub.policy.targetPresentationLeadNs
      allRequiredReady := hub.epoch ≠ 0 ∧ authorityEpoch = hub.epoch ∧ hubNowNs ≠ 0 }

def plan (hubNowNs showNowNs authorityEpoch : UInt64) : LeUwbHub S × LeUwbSyncPlan :=
  let p := hub.planNodes hubNowNs authorityEpoch
  let ready := if p.result.requiredNodes = 0 ∨ hub.policy.maxEndToEndNs < p.requiredLead then false
    else p.allRequiredReady
  let result := { p.result with
    presentationLeadNs := p.requiredLead
    targetHubNs := saturatingAdd hubNowNs p.requiredLead
    targetShowNs := saturatingAdd showNowNs p.requiredLead
    ready
    physicalOutputsArmed := false }
  ({ hub with nodes := p.nodes, generation := hub.generation + 1, lastPlan := result }, result)

/-! ## What a node needs -/

/-- The evidence `evaluate` asks for. -/
structure Evidence (policy : LeUwbHubPolicy S) (epoch hubNowNs : UInt64) (node : LeUwbNode S) :
    Prop where
  uwbSequence : node.status.uwbSequence ≠ 0
  leSequence : node.status.leSequence ≠ 0
  authorityEpoch : node.status.authorityEpoch = epoch
  authenticated : policy.requireAuthenticatedObservations = true → node.status.authenticated = true
  uwbPast : node.status.lastUwbHubNs ≤ hubNowNs
  lePast : node.status.lastLeHubNs ≤ hubNowNs
  uwbAge : hubNowNs - node.status.lastUwbHubNs ≤ policy.holdoverNs
  leAge : hubNowNs - node.status.lastLeHubNs ≤ policy.freshObservationNs
  clock : S.double.less (S.ofInt policy.maxClockUncertaintyNs.toNat)
    (projectedUncertainty node hubNowNs) = false
  drift : S.double.less policy.maxDriftPpm (S.double.abs node.discipline.driftPpm) = false
  jitter : node.status.jitterNs ≤ policy.maxJitterNs
  range : S.double.less policy.maxRangeUncertaintyMm node.status.rangeUncertaintyMm = false

/-- A node with the evidence adds its lead, and is ready if that is within the limit; any other node
adds nothing and is not ready. -/
lemma evaluate_cases (policy : LeUwbHubPolicy S) (epoch : UInt64) (node : LeUwbNode S)
    (hubNowNs requiredLead : UInt64) :
    (Evidence policy epoch hubNowNs node ∧
      (evaluate policy epoch node hubNowNs requiredLead).2 =
        (max requiredLead (nodeLead node), decide (nodeLead node ≤ policy.maxEndToEndNs))) ∨
    (¬ Evidence policy epoch hubNowNs node ∧
      (evaluate policy epoch node hubNowNs requiredLead).2 = (requiredLead, false)) := by
  rw [evaluate]
  simp only
  split
  · rename_i hmissing
    refine .inr ⟨fun h => ?_, rfl⟩
    rcases hmissing with huwb | hle | hepoch | hauthenticated | huwbPast | hlePast
    · exact h.uwbSequence huwb
    · exact h.leSequence hle
    · exact hepoch h.authorityEpoch
    · rw [h.authenticated hauthenticated.1] at hauthenticated
      exact Bool.noConfusion hauthenticated.2
    · exact UInt64.not_lt.mpr h.uwbPast huwbPast
    · exact UInt64.not_lt.mpr h.lePast hlePast
  · rename_i hpresent
    push Not at hpresent
    rw [ClockDiscipline.driftPpm_snapshot]
    split
    · rename_i hstale
      refine .inr ⟨fun h => ?_, rfl⟩
      rcases hstale with huwbAge | hleAge | hclock | hdrift | hjitter | hrange
      · exact UInt64.not_lt.mpr h.uwbAge huwbAge
      · exact UInt64.not_lt.mpr h.leAge hleAge
      · exact Bool.false_ne_true (h.clock.symm.trans hclock)
      · exact Bool.false_ne_true (h.drift.symm.trans hdrift)
      · exact UInt64.not_lt.mpr h.jitter hjitter
      · exact Bool.false_ne_true (h.range.symm.trans hrange)
    · rename_i hgood
      push Not at hgood
      refine .inl ⟨?_, rfl⟩
      exact
        { uwbSequence := hpresent.1
          leSequence := hpresent.2.1
          authorityEpoch := hpresent.2.2.1
          authenticated := fun hpolicy =>
            Bool.eq_true_of_not_eq_false (hpresent.2.2.2.1 hpolicy)
          uwbPast := UInt64.not_lt.mp hpresent.2.2.2.2.1
          lePast := UInt64.not_lt.mp hpresent.2.2.2.2.2
          uwbAge := UInt64.not_lt.mp hgood.1
          leAge := UInt64.not_lt.mp hgood.2.1
          clock := Bool.eq_false_of_not_eq_true hgood.2.2.1
          drift := Bool.eq_false_of_not_eq_true hgood.2.2.2.1
          jitter := UInt64.not_lt.mp hgood.2.2.2.2.1
          range := Bool.eq_false_of_not_eq_true hgood.2.2.2.2.2 }

/-! ## The verdict -/

def isRequired (node : LeUwbNode S) : Bool := node.used && node.status.descriptor.required

/-- A required node has the evidence, and a lead within the limit. -/
def Satisfied (policy : LeUwbHubPolicy S) (epoch hubNowNs : UInt64) (node : LeUwbNode S) : Prop :=
  isRequired node = true →
    Evidence policy epoch hubNowNs node ∧ nodeLead node ≤ policy.maxEndToEndNs

def LeadWithin (policy : LeUwbHubPolicy S) (epoch hubNowNs bound : UInt64) (node : LeUwbNode S) :
    Prop :=
  node.used = true → Evidence policy epoch hubNowNs node → nodeLead node ≤ bound

lemma max_le_iff {a b bound : UInt64} : max a b ≤ bound ↔ a ≤ bound ∧ b ≤ bound := by
  have hmax : max a b = if a ≤ b then b else a := rfl
  rw [hmax]
  split
  · rename_i hle
    exact ⟨fun h => ⟨UInt64.le_trans hle h, h⟩, fun h => h.2⟩
  · rename_i hlt
    have hle : b ≤ a := UInt64.le_of_lt (UInt64.not_le.mp hlt)
    exact ⟨fun h => ⟨h, UInt64.le_trans hle h⟩, fun h => h.1⟩

lemma planNode_required (hubNowNs : UInt64) (p : Planning S) (node : LeUwbNode S) :
    (hub.planNode hubNowNs p node).result.requiredNodes =
      p.result.requiredNodes + if isRequired node = true then 1 else 0 := by
  rw [planNode, isRequired]
  cases hused : node.used with
  | false => simp
  | true => cases hrequired : node.status.descriptor.required <;> simp <;> split <;> rfl

lemma planNode_ready (hubNowNs : UInt64) (p : Planning S) (node : LeUwbNode S) :
    (hub.planNode hubNowNs p node).allRequiredReady = true ↔
      p.allRequiredReady = true ∧ Satisfied hub.policy hub.epoch hubNowNs node := by
  rw [planNode, Satisfied, isRequired]
  cases hused : node.used with
  | false => simp
  | true =>
    rcases evaluate_cases hub.policy hub.epoch node hubNowNs p.requiredLead with
      ⟨hevidence, hvalue⟩ | ⟨hevidence, hvalue⟩
    · by_cases hlead : nodeLead node ≤ hub.policy.maxEndToEndNs
      · simp [hvalue, hevidence, hlead]
      · cases hrequired : node.status.descriptor.required <;>
          simp [hvalue, hevidence, hlead]
    · cases hrequired : node.status.descriptor.required <;> simp [hvalue, hevidence]

lemma planNode_lead (hubNowNs : UInt64) (p : Planning S) (node : LeUwbNode S) (bound : UInt64) :
    (hub.planNode hubNowNs p node).requiredLead ≤ bound ↔
      p.requiredLead ≤ bound ∧ LeadWithin hub.policy hub.epoch hubNowNs bound node := by
  rw [planNode, LeadWithin]
  cases hused : node.used with
  | false => simp
  | true =>
    rcases evaluate_cases hub.policy hub.epoch node hubNowNs p.requiredLead with
      ⟨hevidence, hvalue⟩ | ⟨hevidence, hvalue⟩
    · by_cases hlead : nodeLead node ≤ hub.policy.maxEndToEndNs
      · simp [hvalue, hevidence, hlead, max_le_iff]
      · simp [hvalue, hevidence, hlead, max_le_iff]
    · simp [hvalue, hevidence]

lemma foldl_planNode (hubNowNs : UInt64) : ∀ (nodes : List (LeUwbNode S)) (p : Planning S),
    let after := nodes.foldl (hub.planNode hubNowNs) p
    after.result.requiredNodes = p.result.requiredNodes + UInt32.ofNat (nodes.countP isRequired) ∧
      (after.allRequiredReady = true ↔ p.allRequiredReady = true ∧
        ∀ node ∈ nodes, Satisfied hub.policy hub.epoch hubNowNs node) ∧
      ∀ bound, after.requiredLead ≤ bound ↔ p.requiredLead ≤ bound ∧
        ∀ node ∈ nodes, LeadWithin hub.policy hub.epoch hubNowNs bound node
  | [], p => by simp
  | node :: nodes, p => by
    obtain ⟨hrequired, hready, hlead⟩ :=
      foldl_planNode hubNowNs nodes (hub.planNode hubNowNs p node)
    refine ⟨?_, ?_, fun bound => ?_⟩
    · rw [List.foldl_cons, hrequired, planNode_required, List.countP_cons, UInt32.add_assoc,
        Nat.add_comm, UInt32.ofNat_add]
      split <;> rfl
    · rw [List.foldl_cons, hready, planNode_ready, List.forall_mem_cons, and_assoc]
    · rw [List.foldl_cons, hlead, planNode_lead, List.forall_mem_cons, and_assoc]

/-- **The verdict of a plan.** -/
theorem plan_ready_iff (hubNowNs showNowNs authorityEpoch : UInt64) :
    (hub.plan hubNowNs showNowNs authorityEpoch).2.ready = true ↔
      (hub.epoch ≠ 0 ∧ authorityEpoch = hub.epoch ∧ hubNowNs ≠ 0) ∧
      UInt32.ofNat (hub.nodes.countP isRequired) ≠ 0 ∧
      (∀ node ∈ hub.nodes, Satisfied hub.policy hub.epoch hubNowNs node) ∧
      hub.policy.targetPresentationLeadNs ≤ hub.policy.maxEndToEndNs ∧
      ∀ node ∈ hub.nodes,
        LeadWithin hub.policy hub.epoch hubNowNs hub.policy.maxEndToEndNs node := by
  obtain ⟨hrequired, hready, hlead⟩ := hub.foldl_planNode hubNowNs hub.nodes
    { nodes := []
      result := { LeUwbSyncPlan.empty with
        generation := hub.generation + 1, authorityEpoch := hub.epoch }
      requiredLead := hub.policy.targetPresentationLeadNs
      allRequiredReady := hub.epoch ≠ 0 ∧ authorityEpoch = hub.epoch ∧ hubNowNs ≠ 0 }
  have hlead := hlead hub.policy.maxEndToEndNs
  rw [decide_eq_true_eq] at hready
  rw [plan, planNodes]
  split
  · rename_i hblocked
    rw [hrequired] at hblocked
    refine ⟨fun h => absurd h Bool.false_ne_true, fun ⟨_, hsome, _, hwithin⟩ => ?_⟩
    rcases hblocked with hnone | hover
    · exact absurd ((UInt32.zero_add _).symm.trans hnone) hsome
    · exact absurd hover (UInt64.not_lt.mpr (hlead.mpr hwithin))
  · rename_i hopen
    push Not at hopen
    rw [hready]
    rw [hrequired] at hopen
    have hsome : UInt32.ofNat (hub.nodes.countP isRequired) ≠ 0 := fun hnone =>
      hopen.1 ((UInt32.zero_add _).trans hnone)
    have hwithin := hlead.mp (UInt64.not_lt.mp hopen.2)
    exact ⟨fun h => ⟨h.1, hsome, h.2, hwithin⟩, fun h => ⟨h.1, h.2.2.1⟩⟩

lemma leadWithin_plan (hubNowNs showNowNs authorityEpoch : UInt64) :
    ∀ node ∈ hub.nodes, LeadWithin hub.policy hub.epoch hubNowNs
      (hub.plan hubNowNs showNowNs authorityEpoch).2.presentationLeadNs node := by
  obtain ⟨_, _, hlead⟩ := hub.foldl_planNode hubNowNs hub.nodes
    { nodes := []
      result := { LeUwbSyncPlan.empty with
        generation := hub.generation + 1, authorityEpoch := hub.epoch }
      requiredLead := hub.policy.targetPresentationLeadNs
      allRequiredReady := hub.epoch ≠ 0 ∧ authorityEpoch = hub.epoch ∧ hubNowNs ≠ 0 }
  exact ((hlead _).mp (UInt64.le_refl _)).2

lemma presentationLead_le (hubNowNs showNowNs authorityEpoch : UInt64)
    (hready : (hub.plan hubNowNs showNowNs authorityEpoch).2.ready = true) :
    (hub.plan hubNowNs showNowNs authorityEpoch).2.presentationLeadNs ≤ hub.policy.maxEndToEndNs := by
  simp only [plan] at hready ⊢
  split at hready
  · cases hready
  · rename_i hopen
    push Not at hopen
    exact UInt64.not_lt.mp hopen.2

/-! ## Optional nodes -/

/-- The hub as if no node but the required ones had been registered. -/
def withoutOptional : LeUwbHub S :=
  { hub with nodes := hub.nodes.map fun node => { node with used := isRequired node } }

lemma isRequired_kept (node : LeUwbNode S) :
    isRequired { node with used := isRequired node } = isRequired node := by
  cases hused : node.used <;> cases hrequired : node.status.descriptor.required <;>
    simp [isRequired, hused, hrequired]

lemma withoutOptional_ready_iff (hubNowNs showNowNs authorityEpoch : UInt64) :
    (hub.withoutOptional.plan hubNowNs showNowNs authorityEpoch).2.ready = true ↔
      (hub.epoch ≠ 0 ∧ authorityEpoch = hub.epoch ∧ hubNowNs ≠ 0) ∧
      UInt32.ofNat (hub.nodes.countP isRequired) ≠ 0 ∧
      (∀ node ∈ hub.nodes, Satisfied hub.policy hub.epoch hubNowNs node) ∧
      hub.policy.targetPresentationLeadNs ≤ hub.policy.maxEndToEndNs := by
  have hcount : hub.withoutOptional.nodes.countP isRequired = hub.nodes.countP isRequired := by
    rw [withoutOptional, List.countP_map]
    exact List.countP_congr fun node _ => by rw [Function.comp_apply, isRequired_kept]
  have hevidence : ∀ node : LeUwbNode S, ∀ used : Bool,
      Evidence hub.policy hub.epoch hubNowNs { node with used } →
        Evidence hub.policy hub.epoch hubNowNs node :=
    fun _ _ h => ⟨h.1, h.2, h.3, h.4, h.5, h.6, h.7, h.8, h.9, h.10, h.11, h.12⟩
  have hsatisfied : (∀ node ∈ hub.withoutOptional.nodes,
      Satisfied hub.policy hub.epoch hubNowNs node) ↔
        ∀ node ∈ hub.nodes, Satisfied hub.policy hub.epoch hubNowNs node := by
    rw [withoutOptional, List.forall_mem_map]
    refine forall₂_congr fun node _ => ?_
    rw [Satisfied, Satisfied, isRequired_kept]
    refine imp_congr_right fun _ => and_congr_left fun _ => ?_
    exact ⟨hevidence node _, hevidence { node with used := isRequired node } node.used⟩
  rw [plan_ready_iff, hcount]
  refine and_congr_right fun _ => and_congr_right fun _ => ?_
  constructor
  · exact fun ⟨hall, hlead, _⟩ => ⟨hsatisfied.mp hall, hlead⟩
  · rintro ⟨hall, hlead⟩
    refine ⟨hsatisfied.mpr hall, hlead, ?_⟩
    -- a node that is left is required, and its lead was within the limit
    intro node hnode hused _
    obtain ⟨before, hbefore, rfl⟩ := List.mem_map.mp hnode
    exact (hall before hbefore hused).2

/-- **Optional nodes cannot block the rest.** As long as no optional node with the evidence has a lead
beyond the limit, the plan is ready exactly when it would be without the optional nodes. A plan that
is ready has every required node with its evidence, the UWB part no older than the holdover and the LE
part fresh, within a lead that is itself within the limit. -/
theorem optional_nodes_cannot_block (hubNowNs showNowNs authorityEpoch : UInt64) :
    ((∀ node ∈ hub.nodes, isRequired node = false →
        LeadWithin hub.policy hub.epoch hubNowNs hub.policy.maxEndToEndNs node) →
      (hub.plan hubNowNs showNowNs authorityEpoch).2.ready =
        (hub.withoutOptional.plan hubNowNs showNowNs authorityEpoch).2.ready) ∧
    ((hub.plan hubNowNs showNowNs authorityEpoch).2.ready = true →
      (hub.plan hubNowNs showNowNs authorityEpoch).2.presentationLeadNs ≤ hub.policy.maxEndToEndNs ∧
        authorityEpoch = hub.epoch ∧
        ∀ node ∈ hub.nodes, isRequired node = true → Evidence hub.policy hub.epoch hubNowNs node ∧
          nodeLead node ≤ (hub.plan hubNowNs showNowNs authorityEpoch).2.presentationLeadNs) := by
  constructor
  · intro hoptional
    rw [Bool.eq_iff_iff, plan_ready_iff, withoutOptional_ready_iff]
    refine and_congr_right fun _ => and_congr_right fun _ => and_congr_right fun hall =>
      and_iff_left_of_imp fun _ => ?_
    intro node hnode hused hevidence
    by_cases hrequired : isRequired node = true
    · exact (hall node hnode hrequired).2
    · exact hoptional node hnode (Bool.eq_false_of_not_eq_true hrequired) hused hevidence
  · intro hready
    obtain ⟨hepoch, _, hall, _⟩ := (hub.plan_ready_iff hubNowNs showNowNs authorityEpoch).mp hready
    refine ⟨hub.presentationLead_le hubNowNs showNowNs authorityEpoch hready, hepoch.2.1, ?_⟩
    intro node hnode hrequired
    obtain ⟨hevidence, _⟩ := hall node hnode hrequired
    have hused : node.used = true := (Bool.and_eq_true _ _ ▸ hrequired).1
    exact ⟨hevidence, hub.leadWithin_plan hubNowNs showNowNs authorityEpoch node hnode hused hevidence⟩

/-- A performer that is required and a light that is not, both observed at one second. The light's LE
transport takes `latency`, after a presentation delay of 20 ms. -/
def exampleHub (latency : UInt64) : LeUwbHub .rationals :=
  let hub := ((new 4).configure 7 .default).1
  let hub := (hub.registerNode ⟨11, 101, .performerInput, 2000000, true⟩).1
  let hub := (hub.registerNode ⟨13, 103, .lighting, 20000000, false⟩).1
  let hub := (hub.observeUwb 11 1 7 1000000000 1000100000 (8000 : ℚ) (50 : ℚ) 40000 true).1
  let hub := (hub.observeLe 11 1 7 1 1000000000 3000000 100000 true).1
  let hub := (hub.observeUwb 13 1 7 1000000000 1000100000 (8000 : ℚ) (50 : ℚ) 40000 true).1
  (hub.observeLe 13 1 7 1 1000000000 latency 100000 true).1

theorem optional_nodes_cannot_block_light :
    ((exampleHub 3000000).plan 1001000000 5000000000 7).2.ready = true ∧
    ∀ node ∈ (exampleHub 3000000).nodes, isRequired node = true →
      nodeLead node ≤ ((exampleHub 3000000).plan 1001000000 5000000000 7).2.presentationLeadNs := by
  have hready : ((exampleHub 3000000).plan 1001000000 5000000000 7).2.ready = true := by
    decide +kernel
  exact ⟨hready, fun node hnode hrequired =>
    (((optional_nodes_cannot_block (exampleHub 3000000) 1001000000 5000000000 7).2 hready).2.2
      node hnode hrequired).2⟩

/-- **An optional node blocks.** A light that takes 20 ms on its way, after a delay of 20 ms, needs a
lead beyond the limit of 30 ms: the plan is not ready, and without the light it is. Besides, a plan is
ready on UWB evidence of 150 ms, past the 100 ms of a fresh observation. -/
theorem optional_node_blocks :
    (((exampleHub 20000000).plan 1001000000 5000000000 7).2.ready = false ∧
      ((exampleHub 20000000).withoutOptional.plan 1001000000 5000000000 7).2.ready = true) ∧
    ((((exampleHub 3000000).observeLe 11 2 7 2 1150000000 3000000 100000 true).1.plan
        1150000000 5000000000 7).2.ready = true ∧
      (((exampleHub 3000000).observeLe 11 2 7 2 1150000000 3000000 100000 true).1.nodes.any
        fun node => isRequired node &&
          ((LeUwbHubPolicy.default (S := .rationals)).freshObservationNs <
            1150000000 - node.status.lastUwbHubNs)) = true) := by
  decide +kernel

end LeUwbHub

end StageForge
