import StageForge.Library.PythonList
import StageForge.Show.Technology

/-!
# Participants and what they can do

A participant says which versions it speaks, which capabilities it has and needs, and which adapters turn
one capability into another. A requirement of the show is resolved against one participant.
-/

namespace StageForge

open Python

/-! ## Quality -/

inductive Quality
  | direct
  | equivalent
  | acceptable
  | degraded
  | unavailable
  deriving DecidableEq

def Quality.text : Quality → String
  | .direct => "direct"
  | .equivalent => "equivalent"
  | .acceptable => "acceptable"
  | .degraded => "degraded"
  | .unavailable => "unavailable"

/-- `QUALITY_ORDER`. -/
def Quality.score : Quality → ℕ
  | .direct => 100
  | .equivalent => 95
  | .acceptable => 80
  | .degraded => 60
  | .unavailable => 0

def Quality.ofText? : String → Option Quality :=
  named? [.direct, .equivalent, .acceptable, .degraded, .unavailable] text

/-! ## Participants -/

structure CapabilityAdapter where
  source : String
  target : String
  quality : Quality
  extra : Entries
  deriving DecidableEq

structure Participant where
  id : String
  apiVersions : List Int
  schemaVersions : List (String × List Int)
  capabilities : List String
  requiredCapabilities : List String
  adapters : List CapabilityAdapter
  preservesUnknown : Bool
  offlineCapable : Bool
  extra : Entries
  deriving DecidableEq

def adapterKeys : List String := ["from", "to", "quality", "qualityScore", "explicit"]

def participantKeys : List String :=
  ["id", "apiVersions", "schemaVersions", "capabilities", "requiredCapabilities", "adapters",
    "preservesUnknown", "offlineCapable"]

def CapabilityAdapter.document (a : CapabilityAdapter) : Value :=
  .dict ([("from", .str a.source), ("to", .str a.target), ("quality", .str a.quality.text),
    ("qualityScore", .int a.quality.score), ("explicit", .bool true)] ++ a.extra)

def Participant.document (p : Participant) : Value :=
  .dict ([("id", .str p.id), ("apiVersions", .list (p.apiVersions.map .int)),
    ("schemaVersions", .dict (p.schemaVersions.map fun (name, versions) =>
      (name, .list (versions.map .int)))),
    ("capabilities", .list (p.capabilities.map .str)),
    ("requiredCapabilities", .list (p.requiredCapabilities.map .str)),
    ("adapters", .list (p.adapters.map CapabilityAdapter.document)),
    ("preservesUnknown", .bool p.preservesUnknown), ("offlineCapable", .bool p.offlineCapable)] ++
    p.extra)

def showStateSchema : String := "org.upp.show-state"

def objectsIn (values : List Value) : List Entries := values.filterMap fun value => match value with
    | .dict entries => some entries
    | _ => none

/-- The items of a list; any other value counts as an empty one. -/
def itemsOf : Value → List Value
  | .list items => items
  | _ => []

section

variable (C : Conversions)

/-- `sorted({…})`, of texts without the white space around them. -/
def capabilitySet (values : List Value) : List String :=
  sortOn id ((values.map fun value => strip (C.str value)).filter (· ≠ "")).dedup

def normalizeVersions : Value → Except Error (List Int)
  | .list values => do
    let parsed ← values.mapM fun value => orDefault none ((C.int value).map some)
    return sortOn id (parsed.reduceOption.filter (0 ≤ ·)).dedup
  | _ => .ok []

/-- `_normalize_adapters`. -/
def normalizeAdapter (raw : Entries) : Option CapabilityAdapter :=
  let source := strip (C.str (raw.get "from" (.str "")))
  let target := strip (C.str (raw.get "to" (.str "")))
  if source = "" ∨ target = "" then none
  else
    let quality := lower (strip (C.str (raw.get "quality" (.str "acceptable"))))
    some
      { source
        target
        quality := (Quality.ofText? quality).getD .acceptable
        extra := unwritten adapterKeys raw }

/-- The schema versions of a participant: those that are versions, and one of the show state. -/
def normalizeSchemas (value : Value) : Except Error (List (String × List Int)) := do
  let read ← value.entries.mapM fun (name, versions) => do
    return (name, ← normalizeVersions C versions)
  let schemas := read.filter fun schema => schema.2 ≠ []
  return if (schemas.lookup showStateSchema).isSome then schemas
    else schemas ++ [(showStateSchema, [1])]

def normalizeParticipant (data : Value) : Except Error Participant := do
  let raw ← dictCopy (data.orElse (.dict []))
  let apiVersions ← normalizeVersions C (raw.get "apiVersions" .none)
  let schemaVersions ← normalizeSchemas C (raw.get "schemaVersions" .none)
  let capabilities ← ((raw.get "capabilities" .none).orElse (.list [])).iterate
  let requiredCapabilities ← ((raw.get "requiredCapabilities" .none).orElse (.list [])).iterate
  return {
    id := textOrDefault (clip 128 (strip (C.str (raw.get "id" (.str "participant"))))) "participant"
    apiVersions := if apiVersions = [] then [1] else apiVersions
    schemaVersions
    capabilities := capabilitySet C capabilities
    requiredCapabilities := capabilitySet C requiredCapabilities
    adapters := (objectsIn (itemsOf (raw.get "adapters" .none))).filterMap (normalizeAdapter C)
    preservesUnknown := (raw.get "preservesUnknown" (.bool true)).truthy
    offlineCapable := (raw.get "offlineCapable" (.bool true)).truthy
    extra := unwritten participantKeys raw }

/-! ## `resolve_requirements` -/

inductive ChoiceMode
  | direct
  | adapter (adapter : CapabilityAdapter)
  | fallback
  deriving DecidableEq

structure CapabilityChoice where
  capability : String
  mode : ChoiceMode
  quality : Quality
  deriving DecidableEq

/-- What is decided of a requirement; without a choice it is blocked, or left out if it is optional. -/
structure Decision where
  id : String
  preferred : String
  required : Bool
  choice : Option CapabilityChoice
  deriving DecidableEq

def Decision.blocked (d : Decision) : Bool := d.required && d.choice.isNone

/-- `str(raw.get("id") or raw.get("preferred") or "requirement")`. -/
def requirementName (raw : Entries) : String :=
  C.str (((raw.get "id" .none).orElse (raw.get "preferred" .none)).orElse (.str "requirement"))

/-- The first adapter from or to what is preferred, the other end of which there is. -/
def adapterChoice (p : Participant) (preferred : String) : Option CapabilityChoice :=
  p.adapters.findSome? fun a =>
    if a.target = preferred ∧ a.source ∈ p.capabilities then some ⟨a.source, .adapter a, a.quality⟩
    else if a.source = preferred ∧ a.target ∈ p.capabilities then
      some ⟨a.target, .adapter a, a.quality⟩
    else none

/-- The first of the declared alternatives that there is. -/
def fallbackChoice (p : Participant) (alternatives : List Entries) : Option CapabilityChoice :=
  alternatives.findSome? fun alternative =>
    let capability := strip (C.str (alternative.get "capability" (.str "")))
    if capability ∈ p.capabilities then
      let quality := lower (C.str (alternative.get "quality" (.str "degraded")))
      some ⟨capability, .fallback, (Quality.ofText? quality).getD .degraded⟩
    else none

def resolveRequirement (p : Participant) (raw : Entries) : Decision :=
  let preferred := strip (C.str (raw.get "preferred" (.str "")))
  let direct : Option CapabilityChoice :=
    if preferred ≠ "" ∧ preferred ∈ p.capabilities then some ⟨preferred, .direct, .direct⟩ else none
  let adapted := if preferred ≠ "" then adapterChoice p preferred else none
  { id := strip (requirementName C raw)
    preferred
    required := (raw.get "required" (.bool true)).truthy
    choice := (direct.or adapted).or
      (fallbackChoice C p (objectsIn (itemsOf (raw.get "alternatives" .none)))) }

structure Resolution where
  minimumQualityScore : ℕ
  decisions : List Decision
  participant : Participant

/-- The lowest score of what is required; a blocked requirement scores 0. -/
def minimumScore (decisions : List Decision) : ℕ := decisions.foldl (fun score d =>
    if d.required then
      match d.choice with
      | some choice => min score choice.quality.score
      | none => 0
    else score) 100

/-- `resolve_requirements`; a requirement that is no object is passed over. -/
def resolveRequirements (participantData : Value) (requirements : List Value) :
    Except Error Resolution := do
  let participant ← normalizeParticipant C participantData
  let decisions := (objectsIn requirements).map (resolveRequirement C participant)
  return { minimumQualityScore := minimumScore decisions, decisions, participant }

end

/-! ## What is chosen -/

variable {C : Conversions} {p : Participant} {raw : Entries} {choice : CapabilityChoice}

lemma adapterChoice_mem {preferred : String} (h : adapterChoice p preferred = some choice) :
    choice.capability ∈ p.capabilities := by
  obtain ⟨a, -, h⟩ := List.exists_of_findSome?_eq_some h
  split_ifs at h with hsource htarget
  · cases h
    exact hsource.2
  · cases h
    exact htarget.2

lemma fallbackChoice_mem {alternatives : List Entries}
    (h : fallbackChoice C p alternatives = some choice) : choice.capability ∈ p.capabilities := by
  obtain ⟨alternative, -, h⟩ := List.exists_of_findSome?_eq_some h
  dsimp only at h
  split_ifs at h with hmem
  cases h
  exact hmem

/-- **What is chosen for a requirement is a capability of the participant.** -/
theorem mem_capabilities_of_choice (h : (resolveRequirement C p raw).choice = some choice) :
    choice.capability ∈ p.capabilities := by
  unfold resolveRequirement at h
  rw [Option.or_eq_some_iff, Option.or_eq_some_iff] at h
  rcases h with (hdirect | ⟨-, hadapted⟩) | ⟨-, hfallback⟩
  · split_ifs at hdirect with hmem
    cases hdirect
    exact hmem.2
  · split_ifs at hadapted
    exact adapterChoice_mem hadapted
  · exact fallbackChoice_mem hfallback

lemma mem_capabilitySet {values : List Value} {capability : String} :
    capability ∈ capabilitySet C values ↔
      capability ≠ "" ∧ ∃ value ∈ values, strip (C.str value) = capability := by
  simp only [capabilitySet, mem_sortOn, List.mem_dedup, List.mem_filter, List.mem_map,
    decide_eq_true_eq, and_comm]

lemma capabilities_of_normalize {entries : Entries} {texts : List String}
    (h : normalizeParticipant C (.dict entries) = .ok p)
    (hlisted : entries.get "capabilities" .none = .list (texts.map .str)) :
    p.capabilities = capabilitySet C (texts.map .str) := by
  obtain ⟨raw, hraw, h⟩ := bind_eq_ok.mp h
  obtain ⟨apiVersions, -, h⟩ := bind_eq_ok.mp h
  obtain ⟨schemaVersions, -, h⟩ := bind_eq_ok.mp h
  obtain ⟨capabilities, hcapabilities, h⟩ := bind_eq_ok.mp h
  obtain ⟨required, -, h⟩ := bind_eq_ok.mp h
  obtain rfl := Except.ok.inj h
  rw [orElse_dict] at hraw
  obtain rfl := Except.ok.inj hraw
  rw [hlisted, orElse_list] at hcapabilities
  obtain rfl := Except.ok.inj hcapabilities
  rfl

end StageForge
