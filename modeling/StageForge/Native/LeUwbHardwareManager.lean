import StageForge.Native.LeUwbHub
import StageForge.Native.UwbFrames

/-!
# The hardware manager

`LeUwbHardwareManager::poll` takes the timing frames that the LE sockets have received, computes the latency of
each and its jitter against the one before, and gives them to the hub.
-/

namespace StageForge

open Bytes

structure LeIsoTimingObservation where
  nodeId : UInt64
  sequence : UInt64
  authorityEpoch : UInt64
  eventCounter : UInt64
  nodeTransmitNs : UInt64
  authenticated : Bool
  deriving DecidableEq

def parseLeIsoTimingFrame (frame : ByteString) : LeIsoTimingObservation where
  nodeId := getU64 (bytesAt frame 8 8)
  sequence := getU64 (bytesAt frame 16 8)
  authorityEpoch := getU64 (bytesAt frame 24 8)
  eventCounter := getU64 (bytesAt frame 32 8)
  nodeTransmitNs := getU64 (bytesAt frame 40 8)
  authenticated := (frame.getD 48 0) &&& 1 ≠ 0

def decodeLeIsoTimingFrame (frame : ByteString) : Option LeIsoTimingObservation :=
  let parsed := parseLeIsoTimingFrame frame
  if frame.length = 56 ∧ frame.take 4 = [0x53, 0x46, 0x4c, 0x45] ∧ frame.getD 4 0 = 1 ∧ frame.getD 5 0 = 1 ∧
      ofLittleEndian (bytesAt frame 6 2) = 56 ∧
      ofLittleEndian (bytesAt frame 52 4) = (hardwareCrc32 (frame.take 52)).toNat ∧
      parsed.nodeId ≠ 0 ∧ parsed.sequence ≠ 0 ∧ parsed.authorityEpoch ≠ 0 ∧ parsed.eventCounter ≠ 0 ∧
      parsed.nodeTransmitNs ≠ 0 then some parsed
  else none

def subtractSigned (value : UInt64) (offset : ℤ) : UInt64 :=
  let amount := UInt64.ofNat offset.natAbs
  if 0 ≤ offset then if value < amount then 0 else value - amount
  else LeUwbHub.saturatingAdd value amount

structure LeSlot where
  previousLatency : UInt64 := 0
  hasLatency : Bool := false

def LeSlot.jitter (slot : LeSlot) (latency : UInt64) : UInt64 := if slot.hasLatency = true then
    if slot.previousLatency < latency then latency - slot.previousLatency else slot.previousLatency - latency
  else 0

/-- What the socket of a slot has received. -/
structure LeFrame where
  nodeId : UInt64
  payload : ByteString
  receivedNs : UInt64

/-- The manager with its hub, and the slots by their node ids. -/
structure LeUwbHardwareManager (S : RoundedFloats) where
  hub : LeUwbHub S
  slots : UInt64 → Option LeSlot
  acceptedLe : UInt64 := 0
  rejectedLe : UInt64 := 0

variable {S : RoundedFloats}

namespace LeUwbHardwareManager

/-- The observation of a frame and its latency, if the manager does not reject it. -/
def timing? (m : LeUwbHardwareManager S) (f : LeFrame) : Option (LeIsoTimingObservation × UInt64) :=
  (decodeLeIsoTimingFrame f.payload).bind fun o =>
    if o.nodeId ≠ f.nodeId then none
    else (m.hub.nodes.find? (LeUwbNode.isNode f.nodeId)).bind fun node =>
      let transmittedHubNs := subtractSigned o.nodeTransmitNs node.status.clockOffsetNs
      if f.receivedNs = 0 ∨ f.receivedNs < transmittedHubNs then none
      else some (o, f.receivedNs - transmittedHubNs)

/-- `poll`: what is done with a frame, and whether it is accepted. -/
def receive (m : LeUwbHardwareManager S) (f : LeFrame) : LeUwbHardwareManager S × Bool :=
  match m.slots f.nodeId with
  | none => (m, false)
  | some slot =>
    match m.timing? f with
    | none => ({ m with rejectedLe := m.rejectedLe + 1 }, false)
    | some (o, latency) =>
      let (hub, accepted) := m.hub.observeLe o.nodeId o.sequence o.authorityEpoch o.eventCounter
        f.receivedNs latency (slot.jitter latency) o.authenticated
      ({ hub
         slots := Function.update m.slots f.nodeId (some ⟨latency, true⟩)
         acceptedLe := if accepted = true then m.acceptedLe + 1 else m.acceptedLe
         rejectedLe := if accepted = true then m.rejectedLe else m.rejectedLe + 1 }, accepted)

end LeUwbHardwareManager

/-! ## What remains of the hub without its counters -/

def LeUwbNode.bare (node : LeUwbNode S) : LeUwbNode S :=
  { node with status.rejectedObservations := 0 }

namespace LeUwbHub

def bare (hub : LeUwbHub S) : LeUwbHub S := { hub with nodes := hub.nodes.map LeUwbNode.bare }

/-- The hub refuses the observation, whatever its jitter is. -/
def RefusesLe (hub : LeUwbHub S) (f : LeFrame) (o : LeIsoTimingObservation) (latency : UInt64) : Prop :=
  ∀ node ∈ hub.nodes.find? (LeUwbNode.isNode o.nodeId),
    o.sequence = 0 ∨ o.sequence ≤ node.status.leSequence ∨ o.authorityEpoch ≠ hub.epoch ∨
      o.eventCounter ≤ node.status.leEventCounter ∨ f.receivedNs = 0 ∨ hub.policy.maxEndToEndNs < latency ∨
      (hub.policy.requireAuthenticatedObservations = true ∧ o.authenticated = false)

instance (hub : LeUwbHub S) (f : LeFrame) (o : LeIsoTimingObservation) (latency : UInt64) :
    Decidable (hub.RefusesLe f o latency) :=
  inferInstanceAs (Decidable (∀ node ∈ hub.nodes.find? (LeUwbNode.isNode o.nodeId), _))

variable {hub : LeUwbHub S} {id : UInt64} {change : LeUwbNode S → LeUwbNode S}

lemma find?_bare (hub : LeUwbHub S) (id : UInt64) : hub.bare.nodes.find? (LeUwbNode.isNode id) =
    (hub.nodes.find? (LeUwbNode.isNode id)).map LeUwbNode.bare := by
  rw [bare, List.find?_map]
  rfl

lemma bare_update (hchange : ∀ node : LeUwbNode S, (change node.bare).bare = (change node).bare) :
    (hub.bare.update id change).bare = (hub.update id change).bare := by
  have hindex : (hub.nodes.map LeUwbNode.bare).findIdx (LeUwbNode.isNode id) =
      hub.nodes.findIdx (LeUwbNode.isNode id) := by
    rw [List.findIdx_map]
    rfl
  simp only [bare, update, hindex, LeUwbHub.mk.injEq, and_true]
  refine List.ext_getElem? fun j => ?_
  simp only [List.getElem?_map, List.getElem?_modify, Option.map_eq_map, Option.map_map]
  congr 1
  funext node
  dsimp only [Function.comp_apply]
  split
  · exact hchange node
  · rfl

/-- What the hub says to an observation: whether it accepts it, and the hub after it. -/
def verdict (hub : LeUwbHub S) (f : LeFrame) (o : LeIsoTimingObservation) (latency jitter : UInt64) :
    LeUwbHub S × Bool :=
  hub.observeLe o.nodeId o.sequence o.authorityEpoch o.eventCounter f.receivedNs latency jitter o.authenticated

variable {f : LeFrame} {o : LeIsoTimingObservation} {latency jitter jitter' : UInt64}

def recordLe (f : LeFrame) (o : LeIsoTimingObservation) (latency jitter : UInt64) (node : LeUwbNode S) :
    LeUwbNode S :=
  { node with
    leAuthenticated := o.authenticated
    status := { node.status with
      leSequence := o.sequence
      leEventCounter := o.eventCounter
      lastLeHubNs := f.receivedNs
      transportLatencyNs := latency
      jitterNs := jitter
      authenticated := node.uwbAuthenticated && o.authenticated
      state := if node.status.uwbSequence = 0 then .awaitingUwb else .locked } }

lemma verdict_eq : hub.verdict f o latency jitter =
    if hub.RefusesLe f o latency ∨ hub.policy.maxJitterNs < jitter then
      (hub.update o.nodeId LeUwbNode.reject, false)
    else (hub.update o.nodeId (recordLe f o latency jitter), true) := by
  unfold verdict observeLe
  cases hfind : hub.nodes.find? (LeUwbNode.isNode o.nodeId) with
  | none =>
    rw [if_pos (.inl (by simp [RefusesLe, hfind]))]
    refine Prod.ext (congrArg (fun nodes => { hub with nodes }) (List.ext_getElem? fun j => ?_).symm) rfl
    rw [List.getElem?_modify, Option.map_eq_map]
    split
    · next hj => rw [← hj, ← List.find?_eq_getElem?_findIdx, hfind, Option.map_none]
    · exact Option.map_id'
  | some node =>
    refine if_congr ?_ rfl rfl
    unfold RefusesLe
    simp only [hfind, Option.mem_def, Option.some.injEq, forall_eq']
    tauto

def Alike (v w : LeUwbHub S × Bool) : Prop := v.2 = w.2 ∧ v.1.bare = w.1.bare

lemma verdict_bare : Alike (hub.bare.verdict f o latency jitter) (hub.verdict f o latency jitter) := by
  have hrefuses : hub.bare.RefusesLe f o latency ↔ hub.RefusesLe f o latency := by
    simp only [RefusesLe, find?_bare, Option.mem_map, forall_exists_index, and_imp,
      forall_apply_eq_imp_iff₂]
    rfl
  rw [verdict_eq, verdict_eq]
  by_cases hcond : hub.RefusesLe f o latency ∨ hub.policy.maxJitterNs < jitter
  · have hbare : hub.bare.RefusesLe f o latency ∨ hub.bare.policy.maxJitterNs < jitter :=
      hcond.imp_left hrefuses.mpr
    rw [if_pos hcond, if_pos hbare]
    exact ⟨rfl, bare_update fun _ => rfl⟩
  · have hbare : ¬(hub.bare.RefusesLe f o latency ∨ hub.bare.policy.maxJitterNs < jitter) :=
      fun hbare => hcond (hbare.imp_left hrefuses.mp)
    rw [if_neg hcond, if_neg hbare]
    exact ⟨rfl, bare_update fun _ => rfl⟩

lemma bare_verdict_of_rejected (h : (hub.verdict f o latency jitter).2 = false) :
    (hub.verdict f o latency jitter).1.bare = hub.bare := by
  rw [verdict_eq] at h ⊢
  split at h
  · next hrefused =>
    rw [if_pos hrefused]
    simp only [bare, update, LeUwbHub.mk.injEq, and_true]
    refine List.ext_getElem? fun j => ?_
    simp only [List.getElem?_map, List.getElem?_modify, Option.map_eq_map, Option.map_map]
    congr 1
    funext node
    dsimp only [Function.comp_apply]
    split <;> rfl
  · cases h

/-- **Two jitters are told apart** by the hub exactly if one of them is within the limit, and nothing else is wrong
with the observation. -/
lemma verdict_alike_iff : Alike (hub.verdict f o latency jitter) (hub.verdict f o latency jitter') ↔
    jitter = jitter' ∨ hub.RefusesLe f o latency ∨
      (hub.policy.maxJitterNs < jitter ∧ hub.policy.maxJitterNs < jitter') := by
  rw [verdict_eq, verdict_eq]
  by_cases hrefuses : hub.RefusesLe f o latency
  · simp [hrefuses, Alike]
  by_cases hj : hub.policy.maxJitterNs < jitter <;> by_cases hj' : hub.policy.maxJitterNs < jitter'
  · simp [hj, hj', Alike]
  · rw [if_pos (.inr hj), if_neg (by simp [hrefuses, hj'])]
    refine iff_of_false (fun h => Bool.false_ne_true h.1) ?_
    rintro (rfl | h | h)
    · exact hj' hj
    · exact hrefuses h
    · exact hj' h.2
  · rw [if_neg (by simp [hrefuses, hj]), if_pos (.inr hj')]
    refine iff_of_false (fun h => Bool.false_ne_true h.1.symm) ?_
    rintro (rfl | h | h)
    · exact hj hj'
    · exact hrefuses h
    · exact hj h.1
  · rw [if_neg (by simp [hrefuses, hj]), if_neg (by simp [hrefuses, hj'])]
    constructor
    · rintro ⟨-, hbare⟩
      refine .inl ?_
      -- the node is there, or the hub would refuse the observation
      obtain ⟨node, hnode⟩ : ∃ node, hub.nodes.find? (LeUwbNode.isNode o.nodeId) = some node := by
        cases hfind : hub.nodes.find? (LeUwbNode.isNode o.nodeId) with
        | none => exact absurd (fun _ h => nomatch hfind.symm.trans h) hrefuses
        | some node => exact ⟨node, rfl⟩
      rw [List.find?_eq_getElem?_findIdx] at hnode
      have hjitter := congrArg (fun after : LeUwbHub S =>
        (after.nodes[hub.nodes.findIdx (LeUwbNode.isNode o.nodeId)]?).map (·.status.jitterNs)) hbare
      simpa [bare, update, List.getElem?_modify, hnode, recordLe, LeUwbNode.bare] using hjitter
    · rintro (rfl | h | h)
      · exact ⟨rfl, rfl⟩
      · exact absurd h hrefuses
      · exact absurd h.1 hj

end LeUwbHub

namespace LeUwbHardwareManager

open LeUwbHub

variable {m m' : LeUwbHardwareManager S} {f g : LeFrame} {slot heard : LeSlot} {id : UInt64}

/-- What is seen of the frames: which are accepted, and the hub after each. -/
def trace (m : LeUwbHardwareManager S) : List LeFrame → List (Bool × LeUwbHub S)
  | [] => []
  | f :: frames => ((m.receive f).2, (m.receive f).1.hub.bare) :: trace (m.receive f).1 frames

/-- The slot after a frame: the latency, if the frame has got so far. -/
def heardBy (m : LeUwbHardwareManager S) (slot : LeSlot) (f : LeFrame) : LeSlot :=
  (m.timing? f).elim slot fun timing => ⟨timing.2, true⟩

/-- The hub cannot tell the two slots of a node apart by the frames: the first of them whose latency is recorded
has the same jitter against either, or is refused with either. -/
def Untold (id : UInt64) (slot heard : LeSlot) : LeUwbHardwareManager S → List LeFrame → Prop
  | _, [] => True
  | m, f :: frames =>
    match if f.nodeId = id then m.timing? f else none with
    | none => Untold id slot heard (m.receive f).1 frames
    | some (o, latency) =>
      slot.jitter latency = heard.jitter latency ∨ m.hub.RefusesLe f o latency ∨
        (m.hub.policy.maxJitterNs < slot.jitter latency ∧ m.hub.policy.maxJitterNs < heard.jitter latency)

def withSlot (m : LeUwbHardwareManager S) (id : UInt64) (slot : LeSlot) : LeUwbHardwareManager S :=
  { m with slots := Function.update m.slots id (some slot) }

def Same (m m' : LeUwbHardwareManager S) : Prop := m.slots = m'.slots ∧ m.hub.bare = m'.hub.bare

lemma timing?_bare (h : m.hub.bare = m'.hub.bare) : m.timing? f = m'.timing? f := by
  have hnode : (m.hub.nodes.find? (LeUwbNode.isNode f.nodeId)).map (fun node => node.status.clockOffsetNs) =
      (m'.hub.nodes.find? (LeUwbNode.isNode f.nodeId)).map fun node => node.status.clockOffsetNs := by
    have hfind := congrArg (fun hub : LeUwbHub S =>
      (hub.nodes.find? (LeUwbNode.isNode f.nodeId)).map fun node => node.status.clockOffsetNs) h
    simp only [find?_bare, Option.map_map] at hfind
    exact hfind
  unfold timing?
  congr 1
  funext o
  split_ifs
  · rfl
  · cases hfind : m.hub.nodes.find? (LeUwbNode.isNode f.nodeId) <;>
      cases hfind' : m'.hub.nodes.find? (LeUwbNode.isNode f.nodeId) <;>
      simp_all

lemma verdict_alike_of_bare {hub hub' : LeUwbHub S} (h : hub.bare = hub'.bare) {o : LeIsoTimingObservation}
    {latency jitter : UInt64} : Alike (hub.verdict f o latency jitter) (hub'.verdict f o latency jitter) := by
  have hbare : Alike (hub.bare.verdict f o latency jitter) (hub.verdict f o latency jitter) := verdict_bare
  rw [h] at hbare
  exact ⟨hbare.1.symm.trans verdict_bare.1, hbare.2.symm.trans verdict_bare.2⟩

lemma receive_of_none (hslot : m.slots f.nodeId = none ∨ m.timing? f = none) :
    (m.receive f).2 = false ∧ (m.receive f).1.slots = m.slots ∧ (m.receive f).1.hub = m.hub := by
  unfold receive
  split
  · exact ⟨rfl, rfl, rfl⟩
  · next hsome =>
    rw [hslot.resolve_left (by simp [hsome])]
    exact ⟨rfl, rfl, rfl⟩

lemma receive_of_some (hslot : m.slots f.nodeId = some slot) {o : LeIsoTimingObservation} {latency : UInt64}
    (htiming : m.timing? f = some (o, latency)) :
    (m.receive f).2 = (m.hub.verdict f o latency (slot.jitter latency)).2 ∧
      (m.receive f).1.slots = Function.update m.slots f.nodeId (some ⟨latency, true⟩) ∧
      (m.receive f).1.hub = (m.hub.verdict f o latency (slot.jitter latency)).1 := by
  unfold receive
  rw [hslot, htiming]
  exact ⟨rfl, rfl, rfl⟩

/-- **Counters have no part in what is seen.** -/
lemma Same.receive (h : Same m m') : (m.receive f).2 = (m'.receive f).2 ∧
    Same (m.receive f).1 (m'.receive f).1 := by
  have htimings := timing?_bare (f := f) h.2
  cases hslot : m.slots f.nodeId with
  | none =>
    obtain ⟨hflag, hslots, hhub⟩ := receive_of_none (.inl hslot)
    obtain ⟨hflag', hslots', hhub'⟩ := receive_of_none (m := m') (.inl (h.1 ▸ hslot))
    exact ⟨hflag.trans hflag'.symm, by rw [hslots, hslots', h.1], by rw [hhub, hhub', h.2]⟩
  | some slot =>
    cases htiming : m.timing? f with
    | none =>
      obtain ⟨hflag, hslots, hhub⟩ := receive_of_none (.inr htiming)
      obtain ⟨hflag', hslots', hhub'⟩ := receive_of_none (m := m') (.inr (htimings ▸ htiming))
      exact ⟨hflag.trans hflag'.symm, by rw [hslots, hslots', h.1], by rw [hhub, hhub', h.2]⟩
    | some timing =>
      obtain ⟨hflag, hslots, hhub⟩ := receive_of_some hslot htiming
      obtain ⟨hflag', hslots', hhub'⟩ := receive_of_some (m := m') (h.1 ▸ hslot) (htimings ▸ htiming)
      obtain ⟨hsame, hbare⟩ : Alike (m.hub.verdict f timing.1 timing.2 (slot.jitter timing.2))
        (m'.hub.verdict f timing.1 timing.2 (slot.jitter timing.2)) := verdict_alike_of_bare h.2
      exact ⟨hflag.trans (hsame.trans hflag'.symm), by rw [hslots, hslots', h.1],
        by rw [hhub, hhub', hbare]⟩

lemma Same.trace (h : Same m m') (frames : List LeFrame) : m.trace frames = m'.trace frames := by
  induction frames generalizing m m' with
  | nil => rfl
  | cons f frames ih =>
    obtain ⟨hflag, hsame⟩ := h.receive (f := f)
    rw [LeUwbHardwareManager.trace, LeUwbHardwareManager.trace, hflag, hsame.2, ih hsame]

/-- **What a rejected frame leaves**: its latency in the slot, if it has got so far. -/
lemma same_of_rejected (hslot : m.slots f.nodeId = some slot) (hrejected : (m.receive f).2 = false) :
    Same (m.receive f).1 (m.withSlot f.nodeId (m.heardBy slot f)) := by
  unfold heardBy
  cases htiming : m.timing? f with
  | none =>
    obtain ⟨-, hslots, hhub⟩ := receive_of_none (.inr htiming)
    refine ⟨?_, congrArg bare hhub⟩
    rw [hslots, Option.elim_none, withSlot, ← hslot, Function.update_eq_self]
  | some timing =>
    obtain ⟨hflag, hslots, hhub⟩ := receive_of_some hslot htiming
    exact ⟨hslots, (congrArg bare hhub).trans (bare_verdict_of_rejected (hflag.symm.trans hrejected))⟩

lemma receive_withSlot (hslot : m.slots id = some slot)
    (hother : (if f.nodeId = id then m.timing? f else none) = none) :
    ((m.withSlot id heard).receive f).2 = (m.receive f).2 ∧
      Same ((m.withSlot id heard).receive f).1 ((m.receive f).1.withSlot id heard) ∧
      (m.receive f).1.slots id = some slot := by
  by_cases hnode : f.nodeId = id
  · rw [if_pos hnode] at hother
    obtain ⟨hflag, hslots, hhub⟩ := receive_of_none (.inr hother)
    obtain ⟨hflag', hslots', hhub'⟩ := receive_of_none (m := m.withSlot id heard) (f := f) (.inr hother)
    refine ⟨hflag'.trans hflag.symm, ⟨?_, ?_⟩, by rw [hslots, hslot]⟩
    · rw [hslots', withSlot, withSlot, hslots]
    · rw [hhub', withSlot, withSlot, hhub]
  have hsame : (m.withSlot id heard).slots f.nodeId = m.slots f.nodeId := Function.update_of_ne hnode _ _
  have hkept : ∀ {x : Option LeSlot}, Function.update m.slots f.nodeId x id = some slot := fun {x} => by
    rw [Function.update_of_ne (Ne.symm hnode), hslot]
  cases htiming : if (m.slots f.nodeId).isSome then m.timing? f else none with
  | none =>
    have hnone : m.slots f.nodeId = none ∨ m.timing? f = none := by
      cases hs : m.slots f.nodeId with
      | none => exact .inl rfl
      | some _ => exact .inr (by simpa [hs] using htiming)
    obtain ⟨hflag, hslots, hhub⟩ := receive_of_none hnone
    obtain ⟨hflag', hslots', hhub'⟩ := receive_of_none (m := m.withSlot id heard) (f := f) (hsame ▸ hnone)
    refine ⟨hflag'.trans hflag.symm, ⟨?_, ?_⟩, by rw [hslots, hslot]⟩
    · rw [hslots', withSlot, withSlot, hslots]
    · rw [hhub', withSlot, withSlot, hhub]
  | some timing =>
    obtain ⟨hsome, htiming⟩ := Option.ite_none_right_eq_some.mp htiming
    obtain ⟨other, hs⟩ := Option.isSome_iff_exists.mp hsome
    obtain ⟨hflag, hslots, hhub⟩ := receive_of_some hs htiming
    obtain ⟨hflag', hslots', hhub'⟩ :=
      receive_of_some (m := m.withSlot id heard) (hsame.trans hs) htiming
    refine ⟨hflag'.trans hflag.symm, ⟨?_, ?_⟩, by rw [hslots, hkept]⟩
    · rw [hslots', withSlot, withSlot, hslots]
      exact (Function.update_comm hnode _ _ _).symm
    · rw [hhub', withSlot, withSlot, hhub]

/-- **The run lemma.** At the first frame whose latency is recorded the hub may tell the slots apart; after it
they are the same. -/
lemma trace_withSlot_iff (frames : List LeFrame) : ∀ {m : LeUwbHardwareManager S}, m.slots id = some slot →
    ((m.withSlot id heard).trace frames = m.trace frames ↔ Untold id slot heard m frames) := by
  induction frames with
  | nil => exact fun _ => iff_of_true rfl trivial
  | cons f frames ih =>
    intro m hslot
    rw [trace, trace, List.cons.injEq, Untold]
    cases hrecorded : if f.nodeId = id then m.timing? f else none with
    | none =>
      obtain ⟨hflag, hsame, hkept⟩ := @receive_withSlot S m f slot heard id hslot hrecorded
      rw [hsame.trace, ih hkept]
      exact and_iff_right (Prod.ext hflag hsame.2)
    | some timing =>
      obtain ⟨rfl, htiming⟩ := Option.ite_none_right_eq_some.mp hrecorded
      obtain ⟨o, latency⟩ := timing
      obtain ⟨hflag, hslots, hhub⟩ := receive_of_some hslot htiming
      obtain ⟨hflag', hslots', hhub'⟩ := receive_of_some (m := m.withSlot f.nodeId heard)
        (Function.update_self _ _ _) htiming
      rw [Prod.mk.injEq, hflag, hflag', hhub, hhub']
      refine Iff.trans ?_ verdict_alike_iff
      constructor
      · rintro ⟨⟨hsame, hbare⟩, -⟩
        exact ⟨hsame.symm, hbare.symm⟩
      · rintro ⟨hsame, hbare⟩
        refine ⟨⟨hsame.symm, hbare.symm⟩, Same.trace ⟨?_, ?_⟩ frames⟩
        · rw [hslots', hslots, withSlot, Function.update_idem]
        · rw [hhub', hhub]
          exact hbare.symm

/-- **A rejected frame leaves no trace** exactly if the hub cannot tell the two slots apart. -/
theorem rejection_unnoticed_iff (hslot : m.slots f.nodeId = some slot) (hrejected : (m.receive f).2 = false)
    (frames : List LeFrame) : (m.receive f).1.trace frames = m.trace frames ↔
      Untold f.nodeId slot (m.heardBy slot f) m frames := by
  rw [(same_of_rejected hslot hrejected).trace frames]
  exact trace_withSlot_iff frames hslot

/-! ## An example -/

def encodeLeIsoTimingFrame (o : LeIsoTimingObservation) : ByteString :=
  let body := [0x53, 0x46, 0x4c, 0x45, 1, 1] ++ littleEndian 2 56 ++ putU64 o.nodeId ++ putU64 o.sequence ++
    putU64 o.authorityEpoch ++ putU64 o.eventCounter ++ putU64 o.nodeTransmitNs ++
    [if o.authenticated then 1 else 0, 0, 0, 0]
  body ++ littleEndian 4 (hardwareCrc32 body).toNat

/-- A frame of node 11 that has been sent at 1.1 s. -/
def exampleFrame (sequence receivedNs : UInt64) (authenticated : Bool) : LeFrame :=
  ⟨11, encodeLeIsoTimingFrame ⟨11, sequence, 7, sequence, 1100000000, authenticated⟩, receivedNs⟩

/-- The manager after frame 2 of the node, which took 3.1 ms. -/
def exampleManager : LeUwbHardwareManager .rationals :=
  (LeUwbHardwareManager.receive ⟨exampleHub 3000000, fun _ => some {}, 0, 0⟩
    (exampleFrame 2 1103000000 true)).1

/-- **A forged frame rejects the next.** An unauthenticated frame that took 1 ms longer is rejected; frame 3,
which took as long as frame 2, is accepted without it and rejected after it. -/
theorem forgery_rejects_next :
    (exampleManager.receive (exampleFrame 3 1104000000 false)).2 = false ∧
      (exampleManager.receive (exampleFrame 3 1103000000 true)).2 = true ∧
      ((exampleManager.receive (exampleFrame 3 1104000000 false)).1.receive
        (exampleFrame 3 1103000000 true)).2 = false := by
  decide +kernel

theorem rejection_unnoticed_iff_example : ∃ f slot, exampleManager.slots f.nodeId = some slot ∧
    ¬Untold f.nodeId slot (exampleManager.heardBy slot f) exampleManager [exampleFrame 3 1103000000 true] := by
  obtain ⟨f, hf⟩ : ∃ f, f = exampleFrame 3 1104000000 false := ⟨_, rfl⟩
  obtain ⟨slot, hslot⟩ : ∃ slot, exampleManager.slots f.nodeId = some slot := by
    rw [hf]
    exact Option.isSome_iff_exists.mp (by decide +kernel)
  refine ⟨f, slot, hslot, fun huntold => ?_⟩
  have hrejected : (exampleManager.receive f).2 = false := by
    rw [hf]
    decide +kernel
  have htrace := congrArg (List.map Prod.fst)
    ((rejection_unnoticed_iff hslot hrejected [exampleFrame 3 1103000000 true]).mpr huntold)
  rw [hf] at htrace
  exact absurd htrace (by decide +kernel)

end LeUwbHardwareManager

end StageForge
