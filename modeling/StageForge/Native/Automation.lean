import StageForge.Library.OutputTraces
import StageForge.Native.ShowEvents

/-!
# Automation and the endpoints it drives

`CoreAutomationState` keeps, for each parameter that automation has reached, an owner and a ramp.
`CoreParameterRegistry` hands the value of the ramp at a show time to the endpoint registered for the
parameter.
-/

namespace StageForge

/-! ## The automation of the parameters -/

inductive AutomationApplyStatus
  | applied
  | ownerConflict
  | capacity
  | invalid
  | notFound
  deriving DecidableEq

structure AutomationApplyResult where
  status : AutomationApplyStatus
  revision : UInt64
  ownerId : UInt64
  deriving DecidableEq

structure AutomationParameterSnapshot (S : NativeFloats) where
  registered : Bool
  ramping : Bool
  targetId : UInt64
  parameterId : UInt64
  ownerId : UInt64
  revision : UInt64
  lastEventId : UInt64
  rampStartShowNs : UInt64
  rampEndShowNs : UInt64
  startValue : S.Single
  targetValue : S.Single
  currentValue : S.Single
  updates : UInt64

structure PublishedState (S : NativeFloats) where
  ownerId : UInt64
  revision : UInt64
  lastEventId : UInt64
  rampStartShowNs : UInt64
  rampEndShowNs : UInt64
  startValue : S.Single
  targetValue : S.Single
  updates : UInt64

/-- The state of an entry that was made just now. -/
def PublishedState.initial (S : NativeFloats) : PublishedState S where
  ownerId := 0
  revision := 0
  lastEventId := 0
  rampStartShowNs := 0
  rampEndShowNs := 0
  startValue := S.single.literal 0
  targetValue := S.single.literal 0
  updates := 0

structure AutomationEntry (S : NativeFloats) where
  targetId : UInt64
  parameterId : UInt64
  state : PublishedState S

def automationValueAt {S : NativeFloats} (state : AutomationParameterSnapshot S)
    (showTimeNs : UInt64) : S.Single :=
  if state.registered = false then S.single.literal 0
  else if state.rampEndShowNs ≤ state.rampStartShowNs ∨ state.rampEndShowNs ≤ showTimeNs then
    state.targetValue
  else if showTimeNs ≤ state.rampStartShowNs then state.startValue
  else
    let elapsed := S.ofInt (showTimeNs - state.rampStartShowNs).toNat
    let duration := S.ofInt (state.rampEndShowNs - state.rampStartShowNs).toNat
    let t := if S.double.less (S.double.literal 0) duration then S.double.div elapsed duration
      else S.double.literal 1
    S.toSingle (S.double.add (S.toDouble state.startValue)
      (S.double.mul (S.double.sub (S.toDouble state.targetValue) (S.toDouble state.startValue)) t))

/-- `CoreAutomationState`, with the entries that are registered. -/
structure CoreAutomationState (S : NativeFloats) where
  entries : List (AutomationEntry S)
  revision : UInt64
  registered : UInt64
  applied : UInt64
  ownerConflicts : UInt64
  capacityRejections : UInt64
  invalid : UInt64
  ownerReleases : UInt64

namespace AutomationEntry

variable {S : NativeFloats} (entry : AutomationEntry S)

def isFor (targetId parameterId : UInt64) : Bool :=
  decide (entry.targetId = targetId) && decide (entry.parameterId = parameterId)

def read : AutomationParameterSnapshot S where
  registered := true
  ramping := decide (entry.state.rampEndShowNs > entry.state.rampStartShowNs)
  targetId := entry.targetId
  parameterId := entry.parameterId
  ownerId := entry.state.ownerId
  revision := entry.state.revision
  lastEventId := entry.state.lastEventId
  rampStartShowNs := entry.state.rampStartShowNs
  rampEndShowNs := entry.state.rampEndShowNs
  startValue := entry.state.startValue
  targetValue := entry.state.targetValue
  currentValue := entry.state.targetValue
  updates := entry.state.updates

def publish (snapshot : AutomationParameterSnapshot S) : AutomationEntry S :=
  { entry with
    state :=
      { ownerId := snapshot.ownerId
        revision := snapshot.revision
        lastEventId := snapshot.lastEventId
        rampStartShowNs := snapshot.rampStartShowNs
        rampEndShowNs := snapshot.rampEndShowNs
        startValue := snapshot.startValue
        targetValue := snapshot.targetValue
        updates := snapshot.updates } }

end AutomationEntry

namespace CoreAutomationState

variable {S : NativeFloats}

def empty (S : NativeFloats) : CoreAutomationState S where
  entries := []
  revision := 0
  registered := 0
  applied := 0
  ownerConflicts := 0
  capacityRejections := 0
  invalid := 0
  ownerReleases := 0

variable (maxParameters : ℕ) (a : CoreAutomationState S)

def find (targetId parameterId : UInt64) : Option (AutomationEntry S) :=
  a.entries.find? fun entry => entry.isFor targetId parameterId

/-- The first entry of a parameter, in the place where it stands, is changed. -/
def publishIn (snapshot : AutomationParameterSnapshot S) :
    List (AutomationEntry S) → List (AutomationEntry S)
  | [] => []
  | entry :: rest =>
    if entry.isFor snapshot.targetId snapshot.parameterId then entry.publish snapshot :: rest
    else entry :: publishIn snapshot rest

def publish (snapshot : AutomationParameterSnapshot S) : CoreAutomationState S :=
  { a with entries := publishIn snapshot a.entries }

/-- The entry `create` makes. -/
def blankEntry (targetId parameterId : UInt64) : AutomationEntry S :=
  ⟨targetId, parameterId, .initial S⟩

def create (targetId parameterId : UInt64) : Option (CoreAutomationState S × AutomationEntry S) :=
  if a.entries.length < maxParameters then
    some ({ a with
      entries := a.entries ++ [blankEntry targetId parameterId]
      registered := a.registered + 1 }, blankEntry targetId parameterId)
  else none

/-- The entry of a parameter, made when there is none. -/
def findOrCreate (targetId parameterId : UInt64) :
    Option (CoreAutomationState S × AutomationEntry S) :=
  match a.find targetId parameterId with
  | some entry => some (a, entry)
  | none => a.create maxParameters targetId parameterId

def refuseInvalid : CoreAutomationState S × AutomationApplyResult :=
  ({ a with invalid := a.invalid + 1 }, ⟨.invalid, a.revision, 0⟩)

def refuseOwner (current : AutomationParameterSnapshot S) :
    CoreAutomationState S × AutomationApplyResult :=
  ({ a with ownerConflicts := a.ownerConflicts + 1 },
    ⟨.ownerConflict, current.revision, current.ownerId⟩)

/-- `current` gets the next revision and is published. -/
def accept (current : AutomationParameterSnapshot S) : CoreAutomationState S :=
  { a.publish { current with revision := a.revision + 1, updates := current.updates + 1 } with
    revision := a.revision + 1
    applied := a.applied + 1 }

/-- The part of `apply` for an event that gives up the parameter. -/
def applyRelease (event : ShowEvent S) (current : AutomationParameterSnapshot S) :
    CoreAutomationState S × AutomationApplyResult :=
  if event.ownerId = 0 ∨ current.ownerId = 0 ∨ current.ownerId ≠ event.ownerId then
    a.refuseOwner current
  else
    let current := { current with ownerId := 0, lastEventId := event.eventId }
    ({ a.accept current with ownerReleases := a.ownerReleases + 1 }, ⟨.applied, a.revision + 1, 0⟩)

/-- The part of `apply` for any other event. -/
def applyValue (event : ShowEvent S) (value : S.Single) (durationMs : UInt32)
    (current : AutomationParameterSnapshot S) : CoreAutomationState S × AutomationApplyResult :=
  if current.ownerId ≠ 0 ∧ current.ownerId ≠ event.ownerId then a.refuseOwner current
  else
    let ownerId := if current.ownerId = 0 ∧ event.ownerId ≠ 0 then event.ownerId
      else current.ownerId
    let startValue := automationValueAt { current with ownerId } event.showTimeNs
    let durationNs := durationMs.toUInt64 * 1000000
    let current := { current with
      ownerId
      startValue := if durationNs = 0 then value else startValue
      targetValue := value
      rampStartShowNs := event.showTimeNs
      rampEndShowNs := event.showTimeNs + durationNs
      ramping := decide (durationNs ≠ 0)
      currentValue := if durationNs = 0 then value else startValue
      lastEventId := event.eventId }
    (a.accept current, ⟨.applied, a.revision + 1, ownerId⟩)

def apply (event : ShowEvent S) : CoreAutomationState S × AutomationApplyResult :=
  match event.payload with
  | .automation targetId parameterId value durationMs =>
    if event.isValid = false ∨ S.single.finite value = false then a.refuseInvalid
    else match a.findOrCreate maxParameters targetId parameterId with
      | none =>
        ({ a with capacityRejections := a.capacityRejections + 1 }, ⟨.capacity, a.revision, 0⟩)
      | some (a, entry) =>
        if event.flags &&& showEventAutomationReleaseOwner ≠ 0 then
          a.applyRelease event entry.read
        else a.applyValue event value durationMs entry.read
  | _ => a.refuseInvalid

def seed (targetId parameterId : UInt64) (value : S.Single) : CoreAutomationState S × Bool :=
  if targetId = 0 ∨ parameterId = 0 ∨ S.single.finite value = false then (a, false)
  else match a.findOrCreate maxParameters targetId parameterId with
    | none => (a, false)
    | some (a, entry) =>
      let current := entry.read
      if current.updates ≠ 0 ∨ current.lastEventId ≠ 0 then (a, false)
      else
        (a.publish { current with
          startValue := value
          targetValue := value
          currentValue := value
          rampStartShowNs := 0
          rampEndShowNs := 0
          ramping := false }, true)

def snapshot (targetId parameterId showTimeNs : UInt64) : Option (AutomationParameterSnapshot S) :=
  (a.find targetId parameterId).map fun entry =>
    { entry.read with
      currentValue := automationValueAt entry.read showTimeNs
      ramping := decide (entry.state.rampEndShowNs > entry.state.rampStartShowNs) &&
        decide (showTimeNs < entry.state.rampEndShowNs) }

end CoreAutomationState

/-! ## The endpoints -/

structure CoreParameterDescriptor (S : NativeFloats) where
  targetId : UInt64
  parameterId : UInt64
  minimum : S.Single
  maximum : S.Single
  defaultValue : S.Single
  realtimeSafe : Bool

structure ParameterEndpoint (S : NativeFloats) where
  descriptor : CoreParameterDescriptor S
  lastApplied : S.Single
  applications : UInt64
  automationRevision : UInt64

structure HandedValue (S : NativeFloats) where
  targetId : UInt64
  parameterId : UInt64
  value : S.Single

/-- `CoreParameterRegistry`, with the entries that are registered. -/
structure CoreParameterRegistry (S : NativeFloats) where
  entries : List (ParameterEndpoint S)
  registered : UInt64
  applications : UInt64
  rejected : UInt64
  clamps : UInt64

namespace CoreParameterDescriptor

variable {S : NativeFloats} (descriptor : CoreParameterDescriptor S)

def clamp (value : S.Single) : S.Single :=
  if S.single.less value descriptor.minimum then descriptor.minimum
  else if S.single.less descriptor.maximum value then descriptor.maximum
  else value

/-- What `clamp` adds to its count. -/
def clampCount (value : S.Single) : UInt64 :=
  if S.single.equal (descriptor.clamp value) value then 0 else 1

def handed (value : S.Single) : HandedValue S :=
  ⟨descriptor.targetId, descriptor.parameterId, value⟩

end CoreParameterDescriptor

namespace CoreParameterRegistry

variable {S : NativeFloats}

def empty (S : NativeFloats) : CoreParameterRegistry S where
  entries := []
  registered := 0
  applications := 0
  rejected := 0
  clamps := 0

variable (capacity : ℕ) (r : CoreParameterRegistry S)

def find (targetId parameterId : UInt64) : Option (ParameterEndpoint S) :=
  r.entries.find? fun entry =>
    decide (entry.descriptor.targetId = targetId) &&
      decide (entry.descriptor.parameterId = parameterId)

/-- `register_endpoint`, with whether there is a function to apply. -/
def registerEndpoint (descriptor : CoreParameterDescriptor S) (hasApply : Bool) :
    CoreParameterRegistry S × List (HandedValue S) :=
  if descriptor.targetId = 0 ∨ descriptor.parameterId = 0 ∨ hasApply = false ∨
      S.single.finite descriptor.minimum = false ∨ S.single.finite descriptor.maximum = false ∨
      S.single.less descriptor.maximum descriptor.minimum ∨
      S.single.finite descriptor.defaultValue = false then
    ({ r with rejected := r.rejected + 1 }, [])
  else if (r.find descriptor.targetId descriptor.parameterId).isSome then
    ({ r with rejected := r.rejected + 1 }, [])
  else if r.entries.length < capacity then
    let initial := descriptor.clamp descriptor.defaultValue
    ({ r with
      entries := r.entries ++ [⟨descriptor, initial, 1, 0⟩]
      clamps := r.clamps + descriptor.clampCount descriptor.defaultValue
      registered := r.registered + 1
      applications := r.applications + 1 }, [descriptor.handed initial])
  else ({ r with rejected := r.rejected + 1 }, [])

/-- The snapshot the loop of `apply_class` takes for an entry it does not pass over. -/
def due (automation : CoreAutomationState S) (showNs : UInt64) (realtime : Bool)
    (entry : ParameterEndpoint S) : Option (AutomationParameterSnapshot S) :=
  if entry.descriptor.realtimeSafe ≠ realtime then none
  else automation.snapshot entry.descriptor.targetId entry.descriptor.parameterId showNs

/-- The endpoint has been handed this value already. -/
def upToDate (entry : ParameterEndpoint S) (state : AutomationParameterSnapshot S)
    (value : S.Single) : Bool :=
  let difference := S.single.abs (S.single.sub entry.lastApplied value)
  let epsilon := S.single.literal (1 / 10000000)
  decide (entry.automationRevision = state.revision) && !state.ramping &&
    (S.single.less difference epsilon || S.single.equal difference epsilon)

/-- The loop of `apply_class` over the entries still to come; `r` has those before. -/
def applyEntries (automation : CoreAutomationState S) (showNs : UInt64) (realtime : Bool) :
    List (ParameterEndpoint S) → CoreParameterRegistry S →
      CoreParameterRegistry S × List (HandedValue S)
  | [], r => (r, [])
  | entry :: rest, r =>
    match due automation showNs realtime entry with
    | none =>
      applyEntries automation showNs realtime rest { r with entries := r.entries ++ [entry] }
    | some state =>
      let value := entry.descriptor.clamp state.currentValue
      let clamps := r.clamps + entry.descriptor.clampCount state.currentValue
      if upToDate entry state value then
        applyEntries automation showNs realtime rest
          { r with entries := r.entries ++ [entry], clamps }
      else
        let entry := { entry with
          lastApplied := value
          automationRevision := state.revision
          applications := entry.applications + 1 }
        let (r, handed) := applyEntries automation showNs realtime rest { r with
            entries := r.entries ++ [entry]
            applications := r.applications + 1
            clamps }
        (r, entry.descriptor.handed value :: handed)

/-- `apply_class`: `apply_realtime` and `apply_control`. -/
def applyClass (automation : CoreAutomationState S) (showNs : UInt64) (realtime : Bool) :
    CoreParameterRegistry S × List (HandedValue S) :=
  applyEntries automation showNs realtime r.entries { r with entries := [] }

end CoreParameterRegistry

/-! ## Both together -/

structure ParameterSystem (S : NativeFloats) where
  automation : CoreAutomationState S
  registry : CoreParameterRegistry S

inductive ParameterCall (S : NativeFloats)
  | registerEndpoint (descriptor : CoreParameterDescriptor S) (hasApply : Bool)
  | seed (targetId parameterId : UInt64) (value : S.Single)
  | apply (event : ShowEvent S)
  | applyRealtime (showNs : UInt64)
  | applyControl (showNs : UInt64)

namespace ParameterSystem

variable {S : NativeFloats}

def empty (S : NativeFloats) : ParameterSystem S := ⟨.empty S, .empty S⟩

/-- One call, with the values the endpoints are handed in it. -/
def step (maxParameters capacity : ℕ) (s : ParameterSystem S) :
    ParameterCall S → ParameterSystem S × List (HandedValue S)
  | .registerEndpoint descriptor hasApply =>
    let (registry, handed) := s.registry.registerEndpoint capacity descriptor hasApply
    ({ s with registry }, handed)
  | .seed targetId parameterId value =>
    ({ s with automation := (s.automation.seed maxParameters targetId parameterId value).1 }, [])
  | .apply event => ({ s with automation := (s.automation.apply maxParameters event).1 }, [])
  | .applyRealtime showNs =>
    let (registry, handed) := s.registry.applyClass s.automation showNs true
    ({ s with registry }, handed)
  | .applyControl showNs =>
    let (registry, handed) := s.registry.applyClass s.automation showNs false
    ({ s with registry }, handed)

end ParameterSystem

/-! ## What the endpoints can tell apart -/

namespace CoreAutomationState

variable {S : NativeFloats} {maxParameters : ℕ} {a b c : CoreAutomationState S}

/-- The two differ in nothing but counts that no call reads. -/
structure Alike (a b : CoreAutomationState S) : Prop where
  entries : a.entries = b.entries
  revision : a.revision = b.revision

lemma Alike.find_eq (h : Alike a b) (targetId parameterId : UInt64) :
    a.find targetId parameterId = b.find targetId parameterId := by
  rw [find, find, h.entries]

lemma Alike.snapshot_eq (h : Alike a b) (targetId parameterId showTimeNs : UInt64) :
    a.snapshot targetId parameterId showTimeNs = b.snapshot targetId parameterId showTimeNs := by
  rw [snapshot, snapshot, h.find_eq]

lemma Alike.accept (h : Alike a b) (current : AutomationParameterSnapshot S) :
    Alike (a.accept current) (b.accept current) where
  entries := by
    simp only [CoreAutomationState.accept, publish]
    rw [h.entries, h.revision]
  revision := by
    simp only [CoreAutomationState.accept]
    rw [h.revision]

lemma Alike.publish (h : Alike a b) (current : AutomationParameterSnapshot S) :
    Alike (a.publish current) (b.publish current) where
  entries := by
    simp only [CoreAutomationState.publish]
    rw [h.entries]
  revision := h.revision

variable (maxParameters) in
lemma Alike.findOrCreate (h : Alike a b) (targetId parameterId : UInt64) :
    (a.findOrCreate maxParameters targetId parameterId = none ∧
      b.findOrCreate maxParameters targetId parameterId = none) ∨
    ∃ a₁ b₁ entry, a.findOrCreate maxParameters targetId parameterId = some (a₁, entry) ∧
      b.findOrCreate maxParameters targetId parameterId = some (b₁, entry) ∧ Alike a₁ b₁ := by
  have hfind := h.find_eq targetId parameterId
  cases hentry : b.find targetId parameterId with
  | some entry =>
    rw [hentry] at hfind
    refine .inr ⟨a, b, entry, ?_, ?_, h⟩
    · simp only [CoreAutomationState.findOrCreate, hfind]
    · simp only [CoreAutomationState.findOrCreate, hentry]
  | none =>
    rw [hentry] at hfind
    simp only [CoreAutomationState.findOrCreate, hfind, hentry, create, h.entries]
    by_cases hroom : b.entries.length < maxParameters
    · exact .inr ⟨_, _, _, if_pos hroom, if_pos hroom, ⟨rfl, h.revision⟩⟩
    · exact .inl ⟨if_neg hroom, if_neg hroom⟩

lemma Alike.applyRelease (h : Alike a b) (event : ShowEvent S)
    (current : AutomationParameterSnapshot S) :
    Alike (a.applyRelease event current).1 (b.applyRelease event current).1 := by
  simp only [CoreAutomationState.applyRelease]
  split
  · exact ⟨h.entries, h.revision⟩
  · have haccept := h.accept { current with ownerId := 0, lastEventId := event.eventId }
    exact ⟨haccept.entries, haccept.revision⟩

lemma Alike.applyValue (h : Alike a b) (event : ShowEvent S) (value : S.Single)
    (durationMs : UInt32) (current : AutomationParameterSnapshot S) :
    Alike (a.applyValue event value durationMs current).1
      (b.applyValue event value durationMs current).1 := by
  simp only [CoreAutomationState.applyValue]
  split
  · exact ⟨h.entries, h.revision⟩
  · exact h.accept _

theorem Alike.apply (h : Alike a b) (event : ShowEvent S) :
    Alike (a.apply maxParameters event).1 (b.apply maxParameters event).1 := by
  have hinvalid : Alike a.refuseInvalid.1 b.refuseInvalid.1 := ⟨h.entries, h.revision⟩
  unfold CoreAutomationState.apply
  cases event.payload with
  | automation targetId parameterId value durationMs =>
    simp only
    split
    · exact hinvalid
    · rcases h.findOrCreate maxParameters targetId parameterId with
        ⟨ha, hb⟩ | ⟨a₁, b₁, entry, ha, hb, halike⟩
      · rw [ha, hb]
        exact ⟨h.entries, h.revision⟩
      · rw [ha, hb]
        simp only
        split
        · exact halike.applyRelease event entry.read
        · exact halike.applyValue event value durationMs entry.read
  | _ => exact hinvalid

theorem Alike.seed (h : Alike a b) (targetId parameterId : UInt64) (value : S.Single) :
    Alike (a.seed maxParameters targetId parameterId value).1
      (b.seed maxParameters targetId parameterId value).1 := by
  unfold CoreAutomationState.seed
  split
  · exact h
  · rcases h.findOrCreate maxParameters targetId parameterId with
      ⟨ha, hb⟩ | ⟨a₁, b₁, entry, ha, hb, halike⟩
    · rw [ha, hb]
      exact h
    · rw [ha, hb]
      simp only
      split
      · exact halike
      · exact halike.publish _

open CoreParameterRegistry

lemma Alike.applyEntries_eq (h : Alike a b) (showNs : UInt64) (realtime : Bool)
    (rest : List (ParameterEndpoint S)) (r : CoreParameterRegistry S) :
    applyEntries a showNs realtime rest r = applyEntries b showNs realtime rest r := by
  induction rest generalizing r with
  | nil => rfl
  | cons entry rest ih =>
    have hdue : due a showNs realtime entry = due b showNs realtime entry := by
      simp only [due, h.snapshot_eq]
    simp only [applyEntries, hdue, ih]

/-! ## Events that are refused -/

variable (maxParameters a) in
/-- The event gives up a parameter that has no entry, and there is room for one. -/
def makesBlankEntry (event : ShowEvent S) : Bool := match event.payload with
  | .automation targetId parameterId value _ =>
    event.isValid && S.single.finite value &&
      decide (event.flags &&& showEventAutomationReleaseOwner ≠ 0) &&
      (a.find targetId parameterId).isNone && decide (a.entries.length < maxParameters)
  | _ => false

lemma findOrCreate_cases {targetId parameterId : UInt64} {entry : AutomationEntry S}
    (h : a.findOrCreate maxParameters targetId parameterId = some (c, entry)) :
    (c = a ∧ a.find targetId parameterId = some entry) ∨
    (a.find targetId parameterId = none ∧ a.entries.length < maxParameters ∧
      entry = blankEntry targetId parameterId) := by
  unfold findOrCreate at h
  cases hfind : a.find targetId parameterId with
  | some found =>
    rw [hfind] at h
    simp only [Option.some.injEq, Prod.mk.injEq] at h
    exact .inl ⟨h.1.symm, congrArg some h.2⟩
  | none =>
    rw [hfind] at h
    simp only [create] at h
    split at h
    · rename_i hroom
      simp only [Option.some.injEq, Prod.mk.injEq] at h
      exact .inr ⟨rfl, hroom, h.2.symm⟩
    · cases h

variable {event : ShowEvent S}

lemma applyRelease_refused {current : AutomationParameterSnapshot S}
    (h : (a.applyRelease event current).2.status ≠ .applied) :
    Alike (a.applyRelease event current).1 a := by
  unfold applyRelease at h ⊢
  split
  · exact ⟨rfl, rfl⟩
  · rename_i howner
    exact absurd (by rw [if_neg howner]) h

lemma applyValue_refused {value : S.Single} {durationMs : UInt32}
    {current : AutomationParameterSnapshot S}
    (h : (a.applyValue event value durationMs current).2.status ≠ .applied) :
    Alike (a.applyValue event value durationMs current).1 a ∧ current.ownerId ≠ 0 := by
  unfold applyValue at h ⊢
  split
  · rename_i howner
    exact ⟨⟨rfl, rfl⟩, howner.1⟩
  · rename_i howner
    exact absurd (by rw [if_neg howner]) h

/-- **What is left of a refused event**: counts, unless it makes a blank entry. -/
theorem apply_refused (hrefused : (a.apply maxParameters event).2.status ≠ .applied)
    (hblank : a.makesBlankEntry maxParameters event = false) :
    Alike (a.apply maxParameters event).1 a := by
  unfold apply at hrefused ⊢
  unfold makesBlankEntry at hblank
  cases hpayload : event.payload with
  | automation targetId parameterId value durationMs =>
    simp only [hpayload] at hrefused hblank ⊢
    by_cases hinvalid : event.isValid = false ∨ S.single.finite value = false
    · rw [if_pos hinvalid]
      exact ⟨rfl, rfl⟩
    rw [if_neg hinvalid] at hrefused ⊢
    cases hentry : a.findOrCreate maxParameters targetId parameterId with
    | none => exact ⟨rfl, rfl⟩
    | some made =>
      obtain ⟨c, entry⟩ := made
      simp only [hentry] at hrefused ⊢
      rcases findOrCreate_cases hentry with ⟨hc, -⟩ | ⟨hnone, hroom, hentry⟩
      · subst hc
        split at hrefused
        · rename_i hflag
          rw [if_pos hflag]
          exact applyRelease_refused hrefused
        · rename_i hflag
          rw [if_neg hflag]
          exact (applyValue_refused hrefused).1
      · -- the entry is new: a release would make a blank entry, a value has no owner to meet
        subst hentry
        split at hrefused
        · rename_i hflag
          simp only [not_or, Bool.not_eq_false] at hinvalid
          simp [hinvalid.1, hinvalid.2, hflag, hnone, hroom] at hblank
        · exact absurd rfl (applyValue_refused hrefused).2
  | _ => exact ⟨rfl, rfl⟩

end CoreAutomationState

namespace ParameterSystem

variable {S : NativeFloats} {maxParameters capacity : ℕ}

/-- The registries are the same, and no call reads what differs in the automation. -/
structure Alike (s t : ParameterSystem S) : Prop where
  automation : s.automation.Alike t.automation
  registry : s.registry = t.registry

theorem alike_unnoticed : OutputTraces.Unnoticed (step (S := S) maxParameters capacity) Alike where
  output := by
    intro s t call h
    cases call with
    | registerEndpoint descriptor hasApply => simp only [step, h.registry]
    | seed targetId parameterId value => rfl
    | apply event => rfl
    | applyRealtime showNs =>
      simp only [step, CoreParameterRegistry.applyClass, h.registry, h.automation.applyEntries_eq]
    | applyControl showNs =>
      simp only [step, CoreParameterRegistry.applyClass, h.registry, h.automation.applyEntries_eq]
  next := by
    intro s t call h
    cases call with
    | registerEndpoint descriptor hasApply =>
      exact ⟨h.automation, by simp only [step, h.registry]⟩
    | seed targetId parameterId value =>
      exact ⟨h.automation.seed targetId parameterId value, h.registry⟩
    | apply event => exact ⟨h.automation.apply event, h.registry⟩
    | applyRealtime showNs =>
      refine ⟨h.automation, ?_⟩
      simp only [step, CoreParameterRegistry.applyClass, h.registry, h.automation.applyEntries_eq]
    | applyControl showNs =>
      refine ⟨h.automation, ?_⟩
      simp only [step, CoreParameterRegistry.applyClass, h.registry, h.automation.applyEntries_eq]

/-- The state a run of calls leads to from the start. -/
def reached (maxParameters capacity : ℕ) (calls : List (ParameterCall S)) : ParameterSystem S :=
  OutputTraces.after (step maxParameters capacity) (empty S) calls

/-- Each value an endpoint is handed in a run from the start, in order. -/
def handed (maxParameters capacity : ℕ) (calls : List (ParameterCall S)) : List (HandedValue S) :=
  OutputTraces.trace (step maxParameters capacity) (empty S) calls

/-- **A refused event can be left out of any run**, unless it makes a blank entry. -/
theorem refused_unnoticed (before later : List (ParameterCall S)) (event : ShowEvent S)
    (hrefused : ((reached maxParameters capacity before).automation.apply
      maxParameters event).2.status ≠ .applied)
    (hblank : (reached maxParameters capacity before).automation.makesBlankEntry
      maxParameters event = false) :
    handed maxParameters capacity (before ++ .apply event :: later) =
      handed maxParameters capacity (before ++ later) := by
  have hsame : Alike (step maxParameters capacity (reached maxParameters capacity before)
      (.apply event)).1 (reached maxParameters capacity before) :=
    ⟨CoreAutomationState.apply_refused hrefused hblank, rfl⟩
  exact alike_unnoticed.trace_without rfl hsame later

def exactValue (h : HandedValue .rationals) : ℚ := h.value

def fader : CoreParameterDescriptor .rationals where
  targetId := 1
  parameterId := 1
  minimum := (0 : ℚ)
  maximum := (1 : ℚ)
  defaultValue := (1 : ℚ)
  realtimeSafe := false

def faderEvent (eventId ownerId : UInt64) (flags : UInt16) (value : ℚ) : ShowEvent .rationals :=
  { ShowEvent.blank .rationals with
    eventId
    ownerId
    flags
    payload := .automation 1 1 value 0 }

theorem refused_unnoticed_fader :
    handed 256 256 ([.registerEndpoint fader true, .apply (faderEvent 1 5 0 (1 / 2))] ++
        .apply (faderEvent 2 6 0 0) :: [.applyControl 0]) =
      handed 256 256 ([.registerEndpoint fader true, .apply (faderEvent 1 5 0 (1 / 2))] ++
        [.applyControl 0]) :=
  refused_unnoticed _ _ _ (by decide +kernel) (by decide +kernel)

/-- **A release that is refused takes the fader to zero.** Nothing had been written to the fader, so
the release finds no entry and makes one before it is refused; the next `apply_control` hands its
value, zero, where it would have left the fader alone. -/
theorem refused_release_noticed :
    ¬ ∀ (before later : List (ParameterCall .rationals)) (event : ShowEvent .rationals),
      ((reached 256 256 before).automation.apply 256 event).2.status ≠ .applied →
        handed 256 256 (before ++ .apply event :: later) = handed 256 256 (before ++ later) := by
  intro hclaim
  have hsame := hclaim [.registerEndpoint fader true] [.applyControl 0] (faderEvent 1 5 8 0)
    (by decide +kernel)
  have hvalues : (handed 256 256 ([.registerEndpoint fader true] ++
      .apply (faderEvent 1 5 8 0) :: [.applyControl 0])).map exactValue = [1, 0] := by
    decide +kernel
  have hwithout : (handed 256 256 ([.registerEndpoint fader true] ++
      [.applyControl 0])).map exactValue = [1] := by
    decide +kernel
  rw [hsame, hwithout] at hvalues
  exact absurd (congrArg List.length hvalues) (by decide)

end ParameterSystem

end StageForge
