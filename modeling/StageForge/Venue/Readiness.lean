import StageForge.Interop.Participants

/-!
# Whether a venue can run a show

A venue has capabilities of its own, devices and people. The plan for a show resolves each requirement
against all of them, then looks for a provider of the capability that was chosen, and checks the times of
that provider.
-/

namespace StageForge

open Python

/-! ## Profiles -/

inductive DeviceStatus
  | expected
  | online
  | offline
  | degraded
  | unknown
  deriving DecidableEq

def DeviceStatus.text : DeviceStatus → String
  | .expected => "expected"
  | .online => "online"
  | .offline => "offline"
  | .degraded => "degraded"
  | .unknown => "unknown"

def DeviceStatus.ofText? : String → Option DeviceStatus :=
  named? [.expected, .online, .offline, .degraded, .unknown] text

structure Latency where
  fixedMs : Number
  jitterMs : Number
  lookaheadMs : Number
  timestamped : Bool
  deriving DecidableEq

structure VenueDevice where
  id : String
  name : String
  status : DeviceStatus
  capabilities : List String
  latency : Latency
  matchIds : List String
  optional : Bool
  discoveredId : Value
  discovered : Option Bool
  unexpected : Bool
  deriving DecidableEq

structure VenueHuman where
  id : String
  name : String
  available : Bool
  capabilities : List String
  authority : List String
  deriving DecidableEq

structure VenueProfile where
  id : String
  capabilities : List String
  devices : List VenueDevice
  humans : List VenueHuman
  adapters : List Entries
  patch : Entries
  apiVersions : Value
  schemaVersions : Value
  preservesUnknown : Bool
  offlineCapable : Bool

def VenueDevice.available (d : VenueDevice) : Bool := d.status = .online ∨ d.status = .expected

section

variable (C : Conversions)

/-- What a reader of version 1 says against a profile. -/
def inspectVenueProfile (raw : Entries) : Except Error Unit := do
  let documentType := C.str (raw.get "documentType" (.str "org.upp.venue-profile"))
  let incoming ← orDefault 1 ((C.int (raw.get "schemaVersion" (.int 1))).map (max 1))
  let minimum ← orDefault incoming
    ((C.int (raw.get "minimumReaderSchemaVersion" (.int 1))).map (max 1))
  if documentType ≠ "org.upp.venue-profile" then
    .error (.valueError ("unsupported venue document type: " ++ documentType))
  else if 1 < minimum then
    .error (.valueError ("venue profile requires schema reader " ++ toString minimum ++
      ", this core supports 1"))
  else .ok ()

/-- `_float(value, 0.0, 0.0)`. -/
def floatFromZero (value : Value) : Except Error Number :=
  (orDefault (.finite 0) (C.float value)).map (Number.atLeast 0)

def normalizeLatency (data : Value) : Except Error Latency := do
  let raw : Entries := data.entries
  return {
    fixedMs := ← floatFromZero C (raw.get "fixedMs" .none)
    jitterMs := ← floatFromZero C (raw.get "jitterMs" .none)
    lookaheadMs := ← floatFromZero C (raw.get "lookaheadMs" .none)
    timestamped := (raw.get "timestamped" (.bool false)).truthy }

/-- `str(raw.get(key) or fallback).strip()[:n] or fallback`. -/
def nameAt (raw : Entries) (key : String) (n : ℕ) (fallback : String) : String :=
  textOrDefault (clip n (strip (C.str ((raw.get key .none).orElse (.str fallback))))) fallback

def normalizeDevice (raw : Entries) (index : ℕ) : Except Error VenueDevice := do
  let id := nameAt C raw "id" 128 ("device-" ++ toString index)
  let latency ← normalizeLatency C (raw.get "latency" .none)
  return {
    id
    name := nameAt C raw "name" 160 id
    status := (DeviceStatus.ofText? (lower (strip
      (C.str (raw.get "status" (.str "expected")))))).getD .unknown
    capabilities := capabilitySet C (itemsOf (raw.get "capabilities" .none))
    latency
    matchIds := capabilitySet C (itemsOf ((raw.get "matchIds" .none).orElse (raw.get "aliases" .none)))
    optional := (raw.get "optional" (.bool false)).truthy
    discoveredId := raw.get "discoveredId" .none
    discovered := none
    unexpected := false }

def normalizeHuman (raw : Entries) (index : ℕ) : VenueHuman :=
  let id := nameAt C raw "id" 128 ("human-" ++ toString index)
  { id
    name := nameAt C raw "name" 160 id
    available := (raw.get "available" (.bool true)).truthy
    capabilities := capabilitySet C (itemsOf (raw.get "capabilities" .none))
    authority := capabilitySet C (itemsOf (raw.get "authority" .none)) }

/-- The objects among the items, each with its place. -/
def numberedObjects (items : List Value) : List (Entries × ℕ) :=
  items.zipIdx.filterMap fun (item, index) => match item with
    | .dict raw => some (raw, index)
    | _ => none

/-- `normalize_patch`, of one mapping. -/
def normalizeMapping : Value → Value
  | .dict item =>
    let target := clip 160 (strip (C.str (Entries.get item "target" (.str ""))))
    .dict (if target = "" then item else setItem "target" (.str target) item)
  | value => value

def normalizeVenueProfile (raw : Entries) : Except Error VenueProfile := do
  let deviceItems ← ((raw.get "devices" .none).orElse (.list [])).iterate
  let devices ← (numberedObjects deviceItems).mapM fun (item, index) => normalizeDevice C item index
  let humanItems ← ((raw.get "humans" .none).orElse (.list [])).iterate
  let _ ← C.int ((raw.get "schemaVersion" (.int 1)).orElse (.int 1))
  let _ ← C.int ((raw.get "minimumReaderSchemaVersion" (.int 1)).orElse (.int 1))
  let _ ← normalizeLatency C (raw.get "clock" .none)
  return {
    id := textOrDefault (clip 128 (strip (C.str (raw.get "id" (.str "venue"))))) "venue"
    capabilities := capabilitySet C (itemsOf (raw.get "capabilities" .none))
    devices
    humans := (numberedObjects humanItems).map fun (item, index) => normalizeHuman C item index
    adapters := objectsIn (itemsOf (raw.get "adapters" .none))
    patch := (raw.get "patch" .none).entries.map fun (key, item) => (key, normalizeMapping C item)
    apiVersions := raw.get "apiVersions" .none
    schemaVersions := raw.get "schemaVersions" .none
    preservesUnknown := (raw.get "preservesUnknown" (.bool true)).truthy
    offlineCapable := (raw.get "offlineCapable" (.bool true)).truthy }

/-- The profile that is given, if this reader can read it. -/
def readVenueProfile : Value → Except Error VenueProfile
  | .dict raw => do
    inspectVenueProfile C raw
    normalizeVenueProfile C raw
  | _ => .error (.valueError "venue profile must be an object")

/-! ## Discovery -/

/-- A device of the profile and what was discovered: the one that it is, by its id or an alias, is taken
out. The latency that was discovered is complete, so nothing is left of the one in the profile. -/
def mergeDevice (item : VenueDevice) (found : List VenueDevice) : VenueDevice × List VenueDevice :=
  match (item.id :: item.matchIds).findSome? fun name => found.find? fun d => d.id = name with
  | none =>
    ({ item with
        status := if item.available then .offline else item.status
        discovered := some false }, found)
  | some actual =>
    ({ actual with
        id := item.id
        discoveredId := .str actual.id
        capabilities := sortOn id (item.capabilities ++ actual.capabilities).dedup
        discovered := some true }, found.filter fun d => d.id ≠ actual.id)

/-- All devices of the profile, one after the other; what is left was not expected. -/
def mergeDevices : List VenueDevice → List VenueDevice → List VenueDevice
  | [], found => found.map fun d => { d with discovered := some true, unexpected := true }
  | item :: items, found =>
    (mergeDevice item found).1 :: mergeDevices items (mergeDevice item found).2

/-- `merge_discovered_devices`; without evidence the profile stands as it is. -/
def mergeDiscoveredDevices (profile : VenueProfile) (discovered : Value) :
    Except Error (List VenueDevice) := do
  let expected := lastPerKey VenueDevice.id profile.devices
  if discovered = .none then
    return sortOn VenueDevice.id (expected.map fun d => { d with discovered := none })
  else
    let items ← (discovered.orElse (.list [])).iterate
    let found ← (numberedObjects items).mapM fun (item, index) => normalizeDevice C item index
    return sortOn VenueDevice.id (mergeDevices expected (lastPerKey VenueDevice.id found))

/-! ## Providers and times -/

/-- `venue_participant`: the venue itself, the devices and the people that are there. -/
def venueParticipant (profile : VenueProfile) (devices : List VenueDevice) :
    Except Error Participant :=
  let capabilities := sortOn id (profile.capabilities ++
    (devices.filter VenueDevice.available).flatMap VenueDevice.capabilities ++
    (profile.humans.filter VenueHuman.available).flatMap VenueHuman.capabilities).dedup
  normalizeParticipant C (.dict
    [("id", .str profile.id), ("apiVersions", profile.apiVersions.orElse (.list [.int 1])),
      ("schemaVersions", profile.schemaVersions.orElse (.dict [(showStateSchema, .list [.int 1])])),
      ("capabilities", .list (capabilities.map .str)),
      ("adapters", .list (profile.adapters.map .dict)),
      ("preservesUnknown", .bool profile.preservesUnknown),
      ("offlineCapable", .bool profile.offlineCapable)])

inductive Provider
  | device (device : VenueDevice)
  | human (human : VenueHuman)
  deriving DecidableEq

/-- `_find_provider`: the first device that is there, else the first human. -/
def findProvider (capability : String) (devices : List VenueDevice) (humans : List VenueHuman) :
    Option Provider :=
  ((devices.find? fun d => capability ∈ d.capabilities ∧ d.available).map .device).or
    ((humans.find? fun h => capability ∈ h.capabilities ∧ h.available).map .human)

structure TimingLimits where
  maxLatencyMs : Number
  maxJitterMs : Number
  timestamped : Bool
  deriving DecidableEq

inductive TimingStatus
  | notSpecified
  | humanOrUnknown
  | unavailable
  | blocked
  | compatible
  deriving DecidableEq

inductive TimingProblem
  | latency (actual limit : Number)
  | jitter (actual limit : Number)
  | timestamp
  deriving DecidableEq

structure Timing where
  status : TimingStatus
  limits : Option TimingLimits
  problems : List TimingProblem
  deriving DecidableEq

/-- `limit and x > limit`: a limit of 0 is none. -/
def overLimit (x limit : Number) : Bool := match limit, x with
  | .finite limit, .finite q => limit ≠ 0 ∧ limit < q
  | .finite limit, .inf => limit ≠ 0
  | _, _ => false

/-- The times of a requirement, if it states any. -/
def timingLimits (requirement : Entries) : Except Error (Option TimingLimits) :=
  match (requirement.get "timing" .none).entries with
  | [] => .ok none
  | timing => do
    return some {
      maxLatencyMs := ← floatFromZero C (Entries.get timing "maxLatencyMs" .none)
      maxJitterMs := ← floatFromZero C (Entries.get timing "maxJitterMs" .none)
      timestamped := (Entries.get timing "timestamped" (.bool false)).truthy }

/-- What is wrong with the latency of a device. -/
def timingProblems (limits : TimingLimits) (latency : Latency) : List TimingProblem :=
  (if overLimit latency.fixedMs limits.maxLatencyMs then
    [.latency latency.fixedMs limits.maxLatencyMs] else []) ++
  (if overLimit latency.jitterMs limits.maxJitterMs then
    [.jitter latency.jitterMs limits.maxJitterMs] else []) ++
  (if limits.timestamped && !latency.timestamped then [.timestamp] else [])

def timingAssessment (limits : Option TimingLimits) (provider : Option Provider) : Timing :=
  match limits, provider with
  | none, _ => ⟨.notSpecified, none, []⟩
  | some limits, none => ⟨.unavailable, some limits, []⟩
  | some limits, some (.human _) => ⟨.humanOrUnknown, some limits, []⟩
  | some limits, some (.device d) =>
    let problems := timingProblems limits d.latency
    ⟨if problems = [] then .compatible else .blocked, some limits, problems⟩

/-! ## `venue_compatibility_plan` -/

inductive Readiness
  | blocked
  | needsPatch
  | ready
  deriving DecidableEq

inductive VenueBlocker
  | requirement (id : String)
  | timing (id : String) (problems : List TimingProblem)
  deriving DecidableEq

structure PlanItem where
  id : String
  required : Bool
  decision : Option Decision
  provider : Option Provider
  timing : Timing
  patch : Option Value
  deriving DecidableEq

structure VenuePlan where
  profile : VenueProfile
  devices : List VenueDevice
  execution : Resolution
  devicePlan : List PlanItem

def planItem (profile : VenueProfile) (devices : List VenueDevice) (decisions : List Decision)
    (requirement : Value) : Except Error PlanItem := do
  let raw ← objectOf requirement
  let limits ← timingLimits C raw
  let id := requirementName C raw
  let decision := decisions.reverse.find? fun d => d.id = id
  let capability := (decision.map fun d => (d.choice.map CapabilityChoice.capability).getD d.preferred).getD ""
  let provider := if capability = "" then none else findProvider capability devices profile.humans
  return {
    id
    required := (raw.get "required" (.bool true)).truthy
    decision
    provider
    timing := timingAssessment limits provider
    patch := (profile.patch.lookup (C.str ((raw.get "patchKey" .none).orElse (.str id)))).filter
      (· ≠ .none) }

def venueCompatibilityPlan (profileData : Value) (requirements : List Value) (discovered : Value) :
    Except Error VenuePlan := do
  let profile ← readVenueProfile C profileData
  let devices ← mergeDiscoveredDevices C profile discovered
  let participant ← venueParticipant C profile devices
  let execution ← resolveRequirements C participant.document requirements
  let devicePlan ← requirements.mapM (planItem C profile devices execution.decisions)
  return { profile, devices, execution, devicePlan }

end

namespace VenuePlan

variable (plan : VenuePlan)

def blockers : List VenueBlocker :=
  (plan.execution.decisions.filter Decision.blocked).map (fun d => .requirement d.id) ++
    (plan.devicePlan.filter fun item => item.timing.status = .blocked ∧ item.required).map
      fun item => .timing item.id item.timing.problems

def patched (preferred : String) : Bool :=
  ["audio.", "lighting.", "midi."].any fun start => start.toList.isPrefixOf preferred.toList

def unmappedRequired : List String := (plan.devicePlan.filter fun item =>
    item.decision.any (fun d => d.required && patched d.preferred) ∧ item.provider.isSome ∧
      item.patch.isNone).map PlanItem.id

def readiness : Readiness := if plan.blockers ≠ [] then .blocked
  else if plan.unmappedRequired ≠ [] then .needsPatch
  else .ready

/-- How good the plan is, by the lowest score; `none` if it is blocked. -/
def grade : Option Quality := if plan.blockers ≠ [] then none
  else if 100 ≤ plan.execution.minimumQualityScore then some .direct
  else if 95 ≤ plan.execution.minimumQualityScore then some .equivalent
  else if 80 ≤ plan.execution.minimumQualityScore then some .acceptable
  else some .degraded

def humanAssisted : ℕ := plan.devicePlan.countP fun item => item.provider matches some (.human _)

end VenuePlan

/-! ## Where capabilities come from -/

variable {C : Conversions}

def Stripped (texts : List String) : Prop := ∀ text ∈ texts, strip text = text

lemma stripped_capabilitySet (values : List Value) : Stripped (capabilitySet C values) := by
  intro text htext
  obtain ⟨-, value, -, rfl⟩ := mem_capabilitySet.mp htext
  exact strip_strip _

lemma normalizeDevice_stripped {raw : Entries} {index : ℕ} {d : VenueDevice}
    (h : normalizeDevice C raw index = .ok d) : Stripped d.capabilities := by
  obtain ⟨latency, -, h⟩ := bind_eq_ok.mp h
  obtain rfl := Except.ok.inj h
  exact stripped_capabilitySet _

variable {devices : List VenueDevice}

lemma normalizeDevices_stripped {items : List (Entries × ℕ)}
    (h : items.mapM (fun (item, index) => normalizeDevice C item index) = .ok devices) :
    ∀ d ∈ devices, Stripped d.capabilities := by
  intro d hd
  obtain ⟨⟨item, index⟩, -, hitem⟩ := (mem_of_mapM_eq_ok h).2 d hd
  exact normalizeDevice_stripped hitem

lemma mergeDevice_stripped {item : VenueDevice} {found : List VenueDevice}
    (hitem : Stripped item.capabilities) (hfound : ∀ d ∈ found, Stripped d.capabilities) :
    Stripped (mergeDevice item found).1.capabilities ∧
      ∀ d ∈ (mergeDevice item found).2, Stripped d.capabilities := by
  unfold mergeDevice
  split
  · exact ⟨hitem, hfound⟩
  · rename_i actual hactual
    obtain ⟨name, -, hactual⟩ := List.exists_of_findSome?_eq_some hactual
    have hmem := List.mem_of_find?_eq_some hactual
    refine ⟨fun text htext => ?_, fun d hd => hfound d (List.mem_of_mem_filter hd)⟩
    rw [mem_sortOn, List.mem_dedup, List.mem_append] at htext
    rcases htext with htext | htext
    · exact hitem text htext
    · exact hfound actual hmem text htext

lemma mergeDevices_stripped : ∀ {items found : List VenueDevice},
    (∀ d ∈ items, Stripped d.capabilities) → (∀ d ∈ found, Stripped d.capabilities) →
      ∀ d ∈ mergeDevices items found, Stripped d.capabilities
  | [], found, _, hfound => List.forall_mem_map.mpr hfound
  | item :: items, found, hitems, hfound => by
    rw [List.forall_mem_cons] at hitems
    obtain ⟨hfirst, hrest⟩ := mergeDevice_stripped hitems.1 hfound
    exact List.forall_mem_cons.mpr ⟨hfirst, mergeDevices_stripped hitems.2 hrest⟩

variable {profile : VenueProfile}

lemma readVenueProfile_stripped {data : Value}
    (h : readVenueProfile C data = .ok profile) :
    Stripped profile.capabilities ∧ (∀ d ∈ profile.devices, Stripped d.capabilities) ∧
      ∀ human ∈ profile.humans, Stripped human.capabilities := by
  unfold readVenueProfile at h
  split at h
  · rename_i raw
    obtain ⟨-, -, h⟩ := bind_eq_ok.mp h
    obtain ⟨deviceItems, -, h⟩ := bind_eq_ok.mp h
    obtain ⟨devices, hdevices, h⟩ := bind_eq_ok.mp h
    obtain ⟨humanItems, -, h⟩ := bind_eq_ok.mp h
    obtain ⟨-, -, h⟩ := bind_eq_ok.mp h
    obtain ⟨-, -, h⟩ := bind_eq_ok.mp h
    obtain ⟨-, -, h⟩ := bind_eq_ok.mp h
    obtain rfl := Except.ok.inj h
    refine ⟨stripped_capabilitySet _, normalizeDevices_stripped hdevices, ?_⟩
    exact List.forall_mem_map.mpr fun _ _ => stripped_capabilitySet _
  · cases h

lemma mergeDiscoveredDevices_stripped {discovered : Value}
    (hprofile : ∀ d ∈ profile.devices, Stripped d.capabilities)
    (h : mergeDiscoveredDevices C profile discovered = .ok devices) :
    ∀ d ∈ devices, Stripped d.capabilities := by
  have hexpected : ∀ d ∈ lastPerKey VenueDevice.id profile.devices, Stripped d.capabilities :=
    fun d hd => hprofile d (mem_of_mem_lastPerKey hd)
  unfold mergeDiscoveredDevices at h
  dsimp only at h
  split_ifs at h
  · cases h
    intro d hd
    obtain ⟨d', hd', rfl⟩ := List.mem_map.mp (mem_sortOn.mp hd)
    exact hexpected d' hd'
  · obtain ⟨items, -, h⟩ := bind_eq_ok.mp h
    obtain ⟨found, hfound, h⟩ := bind_eq_ok.mp h
    cases h
    have hfound := normalizeDevices_stripped hfound
    intro d hd
    exact mergeDevices_stripped hexpected (fun d hd => hfound d (mem_of_mem_lastPerKey hd)) d
      (mem_sortOn.mp hd)

lemma venueParticipant_capabilities
    {venue p : Participant} (hvenue : venueParticipant C profile devices = .ok venue)
    (hp : normalizeParticipant C venue.document = .ok p) (hprofile : Stripped profile.capabilities)
    (hdevices : ∀ d ∈ devices, Stripped d.capabilities)
    (hhumans : ∀ h ∈ profile.humans, Stripped h.capabilities) {capability : String}
    (h : capability ∈ p.capabilities) :
    capability ≠ "" ∧ (capability ∈ profile.capabilities ∨
      (∃ d ∈ devices, d.available = true ∧ capability ∈ d.capabilities) ∨
      ∃ human ∈ profile.humans, human.available = true ∧ capability ∈ human.capabilities) := by
  rw [capabilities_of_normalize hp (by rfl), mem_capabilitySet] at h
  obtain ⟨hne, value, hvalue, rfl⟩ := h
  obtain ⟨read, hread, rfl⟩ := List.mem_map.mp hvalue
  rw [capabilities_of_normalize hvenue (by rfl), mem_capabilitySet] at hread
  obtain ⟨-, listed, hlisted, rfl⟩ := hread
  obtain ⟨text, htext, rfl⟩ := List.mem_map.mp hlisted
  simp only [Conversions.str_str, strip_strip] at hne ⊢
  simp only [mem_sortOn, List.mem_dedup, List.mem_append, List.mem_flatMap, List.mem_filter] at htext
  refine ⟨hne, ?_⟩
  rcases htext with (htext | ⟨d, ⟨hd, havailable⟩, htext⟩) | ⟨human, ⟨hh, havailable⟩, htext⟩
  · rw [hprofile text htext]
    exact Or.inl htext
  · rw [hdevices d hd text htext]
    exact Or.inr (Or.inl ⟨d, hd, havailable, htext⟩)
  · rw [hhumans human hh text htext]
    exact Or.inr (Or.inr ⟨human, hh, havailable, htext⟩)

/-! ## What runs in a venue that is ready -/

structure TimingLimits.MetBy (limits : TimingLimits) (latency : Latency) : Prop where
  fixed : overLimit latency.fixedMs limits.maxLatencyMs = false
  jitter : overLimit latency.jitterMs limits.maxJitterMs = false
  timestamped : limits.timestamped = true → latency.timestamped = true

lemma metBy_of_timingProblems {limits : TimingLimits} {latency : Latency}
    (h : timingProblems limits latency = []) : limits.MetBy latency := by
  rw [timingProblems, List.append_eq_nil_iff, List.append_eq_nil_iff] at h
  obtain ⟨⟨hfixed, hjitter⟩, htimestamped⟩ := h
  refine ⟨?_, ?_, fun hneeded => ?_⟩
  · by_contra hover
    rw [if_pos (Bool.eq_true_of_not_eq_false hover)] at hfixed
    cases hfixed
  · by_contra hover
    rw [if_pos (Bool.eq_true_of_not_eq_false hover)] at hjitter
    cases hjitter
  · by_contra hmissing
    rw [hneeded, Bool.eq_false_of_not_eq_true hmissing] at htimestamped
    cases htimestamped

section

variable {capability : String} {devices : List VenueDevice} {humans : List VenueHuman}

lemma findProvider_device {d : VenueDevice}
    (h : findProvider capability devices humans = some (.device d)) :
    d ∈ devices ∧ d.available = true ∧ capability ∈ d.capabilities := by
  rw [findProvider, Option.or_eq_some_iff] at h
  rcases h with h | ⟨-, h⟩
  · obtain ⟨_, hd', heq⟩ := Option.map_eq_some_iff.mp h
    rw [Provider.device.inj heq] at hd'
    have hfound : capability ∈ d.capabilities ∧ d.available = true := by
      simpa using List.find?_some hd'
    exact ⟨List.mem_of_find?_eq_some hd', hfound.2, hfound.1⟩
  · obtain ⟨_, -, heq⟩ := Option.map_eq_some_iff.mp h
    cases heq

lemma findProvider_human {human : VenueHuman}
    (h : findProvider capability devices humans = some (.human human)) :
    human ∈ humans ∧ human.available = true ∧ capability ∈ human.capabilities := by
  rw [findProvider, Option.or_eq_some_iff] at h
  rcases h with h | ⟨-, h⟩
  · obtain ⟨_, -, heq⟩ := Option.map_eq_some_iff.mp h
    cases heq
  · obtain ⟨_, hfind, heq⟩ := Option.map_eq_some_iff.mp h
    rw [Provider.human.inj heq] at hfind
    have hfound : capability ∈ human.capabilities ∧ human.available = true := by
      simpa using List.find?_some hfind
    exact ⟨List.mem_of_find?_eq_some hfind, hfound.2, hfound.1⟩

lemma findProvider_none (h : findProvider capability devices humans = none) :
    (∀ d ∈ devices, d.available = true → capability ∉ d.capabilities) ∧
      ∀ human ∈ humans, human.available = true → capability ∉ human.capabilities := by
  rw [findProvider, Option.or_eq_none_iff, Option.map_eq_none_iff, Option.map_eq_none_iff,
    List.find?_eq_none, List.find?_eq_none] at h
  refine ⟨fun d hd havailable hmem => h.1 d hd ?_, fun human hh havailable hmem => h.2 human hh ?_⟩
  · exact decide_eq_true ⟨hmem, havailable⟩
  · exact decide_eq_true ⟨hmem, havailable⟩

end

/-- The requirement can run as the plan says: with a device that is there and in time, with a human who is
there, who is not held to times but named as such, or by the venue itself where neither has what it takes. -/
def CanRun (C : Conversions) (plan : VenuePlan) (raw : Entries) (item : PlanItem) : Prop :=
  ∃ choice limits, item.decision.bind Decision.choice = some choice ∧
    timingLimits C raw = .ok limits ∧
    match item.provider with
    | some (.device d) =>
      d ∈ plan.devices ∧ d.available = true ∧ choice.capability ∈ d.capabilities ∧
        ∀ stated ∈ limits, stated.MetBy d.latency
    | some (.human h) =>
      h ∈ plan.profile.humans ∧ h.available = true ∧ choice.capability ∈ h.capabilities ∧
        (limits.isSome → item.timing.status = .humanOrUnknown)
    | none =>
      choice.capability ∈ plan.profile.capabilities ∧
        (∀ d ∈ plan.devices, d.available = true → choice.capability ∉ d.capabilities) ∧
        ∀ h ∈ plan.profile.humans, h.available = true → choice.capability ∉ h.capabilities

/-- Each requirement has a name of its own, without white space around it. -/
structure RequirementsNamed (C : Conversions) (requirements : List Value) : Prop where
  distinct : ((objectsIn requirements).map (requirementName C)).Nodup
  stripped : Stripped ((objectsIn requirements).map (requirementName C))


section

variable {profileData discovered : Value} {requirements : List Value} {plan : VenuePlan}
  {raw : Entries}

lemma VenuePlan.blockers_of_ready (h : plan.readiness = .ready) : plan.blockers = [] := by
  unfold readiness at h
  split_ifs at h with hblocked
  exact not_not.mp hblocked

lemma VenuePlan.not_blocked (h : plan.readiness = .ready) :
    (∀ d ∈ plan.execution.decisions, d.blocked = false) ∧
      ∀ item ∈ plan.devicePlan, item.required = true → item.timing.status ≠ .blocked := by
  have hnone := VenuePlan.blockers_of_ready h
  rw [blockers, List.append_eq_nil_iff, List.map_eq_nil_iff, List.map_eq_nil_iff,
    List.filter_eq_nil_iff, List.filter_eq_nil_iff] at hnone
  refine ⟨fun d hd => Bool.eq_false_of_not_eq_true (hnone.1 d hd), fun item hitem hrequired hstatus => ?_⟩
  exact hnone.2 item hitem (decide_eq_true ⟨hstatus, hrequired⟩)

lemma find?_decision {p : Participant} (hnamed : RequirementsNamed C requirements)
    (hraw : raw ∈ objectsIn requirements) :
    ((objectsIn requirements).map (resolveRequirement C p)).reverse.find?
      (fun d => d.id = requirementName C raw) = some (resolveRequirement C p raw) := by
  have hid : ∀ raw' ∈ objectsIn requirements,
      (resolveRequirement C p raw').id = requirementName C raw' :=
    fun raw' hraw' => hnamed.stripped _ (List.mem_map_of_mem hraw')
  cases hfind : ((objectsIn requirements).map (resolveRequirement C p)).reverse.find?
      (fun d => d.id = requirementName C raw) with
  | none =>
    have hnone := List.find?_eq_none.mp hfind (resolveRequirement C p raw)
      (List.mem_reverse.mpr (List.mem_map_of_mem hraw))
    exact absurd (decide_eq_true (hid raw hraw)) hnone
  | some d =>
    have hname : d.id = requirementName C raw := by simpa using List.find?_some hfind
    obtain ⟨raw', hraw', rfl⟩ :=
      List.mem_map.mp (List.mem_reverse.mp (List.mem_of_find?_eq_some hfind))
    rw [hid raw' hraw'] at hname
    rw [List.inj_on_of_nodup_map hnamed.distinct hraw' hraw hname]

variable {choice : CapabilityChoice}

lemma choice_from_venue {profile : VenueProfile} {devices : List VenueDevice}
    {venue p : Participant}
    (hprofile : readVenueProfile C profileData = .ok profile)
    (hdevices : mergeDiscoveredDevices C profile discovered = .ok devices)
    (hvenue : venueParticipant C profile devices = .ok venue)
    (hp : normalizeParticipant C venue.document = .ok p)
    (hchoice : (resolveRequirement C p raw).choice = some choice) :
    choice.capability ≠ "" ∧ (choice.capability ∈ profile.capabilities ∨
      (∃ d ∈ devices, d.available = true ∧ choice.capability ∈ d.capabilities) ∨
      ∃ human ∈ profile.humans, human.available = true ∧ choice.capability ∈ human.capabilities) := by
  obtain ⟨hcapabilities, hlisted, hhumans⟩ := readVenueProfile_stripped hprofile
  exact venueParticipant_capabilities hvenue hp hcapabilities
    (mergeDiscoveredDevices_stripped hlisted hdevices) hhumans (mem_capabilities_of_choice hchoice)

lemma planItem_of_choice {profile : VenueProfile} {devices : List VenueDevice}
    {decisions : List Decision} {item : PlanItem} {decision : Decision}
    (h : planItem C profile devices decisions (.dict raw) = .ok item)
    (hfind : decisions.reverse.find? (fun d => d.id = requirementName C raw) = some decision)
    (hchoice : decision.choice = some choice) (hne : choice.capability ≠ "") :
    item.id = requirementName C raw ∧ item.required = (raw.get "required" (.bool true)).truthy ∧
      item.decision = some decision ∧
      item.provider = findProvider choice.capability devices profile.humans ∧
      ∃ limits, timingLimits C raw = .ok limits ∧
        item.timing = timingAssessment limits item.provider := by
  obtain ⟨_, hobject, h⟩ := bind_eq_ok.mp h
  cases hobject
  obtain ⟨limits, hlimits, h⟩ := bind_eq_ok.mp h
  dsimp only at h
  have hcapability : ((some decision).map fun d =>
      (d.choice.map CapabilityChoice.capability).getD d.preferred).getD "" = choice.capability := by
    rw [Option.map_some, Option.getD_some, hchoice, Option.map_some, Option.getD_some]
  rw [hfind, hcapability, if_neg hne] at h
  cases h
  exact ⟨rfl, rfl, rfl, rfl, limits, hlimits, rfl⟩

lemma canRun_of_choice {item : PlanItem} {decision : Decision}
    {limits : Option TimingLimits} (hdecision : item.decision = some decision)
    (hchoice : decision.choice = some choice) (hlimits : timingLimits C raw = .ok limits)
    (hprovider : item.provider = findProvider choice.capability plan.devices plan.profile.humans)
    (htiming : item.timing = timingAssessment limits item.provider)
    (hintime : item.timing.status ≠ .blocked)
    (hfrom : choice.capability ∈ plan.profile.capabilities ∨
      (∃ d ∈ plan.devices, d.available = true ∧ choice.capability ∈ d.capabilities) ∨
      ∃ human ∈ plan.profile.humans,
        human.available = true ∧ choice.capability ∈ human.capabilities) :
    CanRun C plan raw item := by
  refine ⟨choice, limits, by rw [hdecision, Option.bind_some, hchoice], hlimits, ?_⟩
  split
  · rename_i d hd
    obtain ⟨hmem, havailable, hcapability⟩ := findProvider_device (hprovider ▸ hd)
    refine ⟨hmem, havailable, hcapability, fun stated hstated => ?_⟩
    obtain rfl := Option.mem_def.mp hstated
    refine metBy_of_timingProblems (not_not.mp fun hproblems => hintime ?_)
    rw [htiming, hd, timingAssessment, if_neg hproblems]
  · rename_i human hhuman
    obtain ⟨hmem, havailable, hcapability⟩ := findProvider_human (hprovider ▸ hhuman)
    refine ⟨hmem, havailable, hcapability, fun hstated => ?_⟩
    obtain ⟨stated, rfl⟩ := Option.isSome_iff_exists.mp hstated
    rw [htiming, hhuman, timingAssessment]
  · rename_i hnone
    obtain ⟨hdevices, hhumans⟩ := findProvider_none (hprovider ▸ hnone)
    refine ⟨?_, hdevices, hhumans⟩
    rcases hfrom with hvenue | ⟨d, hd, havailable, hmem⟩ | ⟨human, hh, havailable, hmem⟩
    · exact hvenue
    · exact absurd hmem (hdevices d hd havailable)
    · exact absurd hmem (hhumans human hh havailable)

/-- **In a plan that is ready, what is required can run.** -/
theorem ready_venue_runs
    (hplan : venueCompatibilityPlan C profileData requirements discovered = .ok plan)
    (hready : plan.readiness = .ready) (hnamed : RequirementsNamed C requirements)
    (hraw : .dict raw ∈ requirements) (hrequired : (raw.get "required" (.bool true)).truthy = true) :
    ∃ item ∈ plan.devicePlan, item.id = requirementName C raw ∧ CanRun C plan raw item := by
  obtain ⟨hdecisions, hitems⟩ := VenuePlan.not_blocked hready
  obtain ⟨profile, hprofile, hplan⟩ := bind_eq_ok.mp hplan
  obtain ⟨devices, hdevices, hplan⟩ := bind_eq_ok.mp hplan
  obtain ⟨venue, hvenue, hplan⟩ := bind_eq_ok.mp hplan
  obtain ⟨execution, hexecution, hplan⟩ := bind_eq_ok.mp hplan
  obtain ⟨devicePlan, hdevicePlan, hplan⟩ := bind_eq_ok.mp hplan
  cases hplan
  obtain ⟨p, hp, hexecution⟩ := bind_eq_ok.mp hexecution
  cases hexecution
  dsimp only at hdecisions hitems hdevicePlan
  have hobject : raw ∈ objectsIn requirements := List.mem_filterMap.mpr ⟨_, hraw, rfl⟩
  obtain ⟨choice, hchoice⟩ : ∃ choice, (resolveRequirement C p raw).choice = some choice := by
    have hchosen := hdecisions _ (List.mem_map_of_mem hobject)
    rw [Decision.blocked, Bool.and_eq_false_iff] at hchosen
    rcases hchosen with hoptional | hsome
    · exact absurd hoptional (ne_false_of_eq_true hrequired)
    · exact Option.isSome_iff_exists.mp (by simpa using hsome)
  obtain ⟨hne, hfrom⟩ := choice_from_venue hprofile hdevices hvenue hp hchoice
  obtain ⟨item, hitem, hcall⟩ := (mem_of_mapM_eq_ok hdevicePlan).1 _ hraw
  obtain ⟨hid, hreq, hdecision, hprovider, limits, hlimits, htiming⟩ :=
    planItem_of_choice hcall (find?_decision hnamed hobject) hchoice hne
  exact ⟨item, hitem, hid, canRun_of_choice hdecision hchoice hlimits hprovider htiming
    (hitems item hitem (hreq.trans hrequired)) hfrom⟩

/-- A venue with a transport of its own and an output in time. -/
def clubProfile : Value :=
  .dict [("id", .str "club"), ("capabilities", .list [.str "audio.transport"]),
    ("devices", .list [.dict [("id", .str "audio-a"), ("capabilities", .list [.str "audio.output"]),
      ("latency", .dict [("fixedMs", .int 6)])]]),
    ("patch", .dict [("output", .dict [("target", .str "audio-a:out-1")])])]

def outputRequirement : Entries := [("id", .str "output"), ("preferred", .str "audio.output"),
    ("timing", .dict [("maxLatencyMs", .int 20)])]

def transportRequirement : Entries :=
  [("id", .str "transport"), ("preferred", .str "audio.transport")]

theorem ready_venue_runs_output : ∃ plan,
    venueCompatibilityPlan plainConversions clubProfile [.dict outputRequirement] .none = .ok plan ∧
      plan.readiness = .ready ∧
      ∃ item ∈ plan.devicePlan, item.id = requirementName plainConversions outputRequirement ∧
        CanRun plainConversions plan outputRequirement item := by
  have hready : (venueCompatibilityPlan plainConversions clubProfile [.dict outputRequirement]
      .none).map VenuePlan.readiness = .ok .ready := by
    decide +kernel
  obtain ⟨plan, hplan, hready⟩ := map_eq_ok.mp hready
  have hnamed : RequirementsNamed plainConversions [.dict outputRequirement] :=
    ⟨by decide +kernel, by unfold Stripped; decide +kernel⟩
  exact ⟨plan, hplan, hready,
    ready_venue_runs hplan hready hnamed List.mem_cons_self (by decide +kernel)⟩

theorem ready_without_provider : ∃ plan,
    venueCompatibilityPlan plainConversions clubProfile [.dict transportRequirement] .none =
        .ok plan ∧
      plan.readiness = .ready ∧
      ∃ item ∈ plan.devicePlan, item.required = true ∧ item.provider = none := by
  have hready : (venueCompatibilityPlan plainConversions clubProfile [.dict transportRequirement]
      .none).map (fun plan => (plan.readiness, plan.devicePlan.map fun item =>
        (item.required, item.provider))) = .ok (.ready, [(true, none)]) := by
    decide +kernel
  obtain ⟨plan, hplan, heq⟩ := map_eq_ok.mp hready
  obtain ⟨hready, hitems⟩ := Prod.mk.inj heq
  have hmem : (true, (none : Option Provider)) ∈ plan.devicePlan.map fun item =>
      (item.required, item.provider) := by
    rw [hitems]
    exact List.mem_cons_self
  obtain ⟨item, hitem, heq⟩ := List.mem_map.mp hmem
  obtain ⟨hrequired, hprovider⟩ := Prod.mk.inj heq
  exact ⟨plan, hplan, hready, item, hitem, hrequired, hprovider⟩

end

end StageForge
