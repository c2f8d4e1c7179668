import StageForge.Interop.Participants

/-!
# What two participants agree on

The report compares the versions and the capabilities of two participants. An adapter of either of them
lets a capability of the one stand for a capability of the other. `compatibilityReport` is the plan of two participants,
with what is in its way.
-/

namespace StageForge

open Python

/-! ## The report -/

inductive TranslationDirection
  | localToRemote
  | remoteToLocal
  deriving DecidableEq

structure Translation where
  adapter : CapabilityAdapter
  direction : TranslationDirection
  deriving DecidableEq

structure SchemaMatch where
  name : String
  selected : Option Int
  common : List Int
  localVersions : List Int
  remoteVersions : List Int
  deriving DecidableEq

inductive CompatibilityGrade
  | direct
  | equivalent
  | acceptable
  | degraded
  | partialPreserved
  | blocked
  deriving DecidableEq

/-- What `compatibility_report` returns. -/
structure CompatibilityPlan where
  grade : CompatibilityGrade
  commonApiVersions : List Int
  schemas : List SchemaMatch
  directCapabilities : List String
  translations : List Translation
  localOnlyPreserved : List String
  remoteOnlyPreserved : List String
  missingForLocal : List String
  missingForRemote : List String
  blockers : List String
  localParticipant : Participant
  remoteParticipant : Participant
  deriving DecidableEq

namespace CompatibilityPlan

variable (plan : CompatibilityPlan)

def compatible : Bool := plan.blockers.isEmpty

def selectedApiVersion : Option Int := plan.commonApiVersions.getLast?

end CompatibilityPlan

/-- `sorted(set(xs) & set(ys))`. -/
def commonVersions (xs ys : List Int) : List Int := sortOn id (xs.filter (· ∈ ys)).dedup

/-- `sorted(set(capabilities) - set(covered))`. -/
def capabilitiesBut (capabilities covered : List String) : List String :=
  sortOn id (capabilities.filter (· ∉ covered)).dedup

namespace Participant

/-- `participant["schemaVersions"].get(name, [])`. -/
def schema (p : Participant) (name : String) : List Int := (p.schemaVersions.lookup name).getD []

def translation (here there : Participant) (a : CapabilityAdapter) : Option Translation :=
  if a.source ∈ here.capabilities ∧ a.target ∈ there.capabilities then some ⟨a, .localToRemote⟩
  else if a.source ∈ there.capabilities ∧ a.target ∈ here.capabilities then some ⟨a, .remoteToLocal⟩
  else none

def schemaMatch (here there : Participant) (name : String) : SchemaMatch :=
  let common := commonVersions (here.schema name) (there.schema name)
  { name
    selected := common.getLast?
    common
    localVersions := here.schema name
    remoteVersions := there.schema name }

end Participant

/-- The capability of the local participant that takes part in a translation. -/
def Translation.here (t : Translation) : String := match t.direction with
  | .localToRemote => t.adapter.source
  | .remoteToLocal => t.adapter.target

/-- The capability of the remote participant that takes part in a translation. -/
def Translation.there (t : Translation) : String := match t.direction with
  | .localToRemote => t.adapter.target
  | .remoteToLocal => t.adapter.source

def compatibilityGrade (translations : List Translation) (onlyOne : Bool) : CompatibilityGrade :=
  match (translations.map fun t => t.adapter.quality.score).min? with
  | some lowest => if 95 ≤ lowest then .equivalent else if 80 ≤ lowest then .acceptable else .degraded
  | none => if onlyOne then .partialPreserved else .direct

/-- `compatibility_report`, of participants in normal form. -/
def comparedParticipants (here there : Participant) : CompatibilityPlan :=
  let common := commonVersions here.apiVersions there.apiVersions
  let schemas := (sortOn id (here.schemaVersions.map Prod.fst ++ there.schemaVersions.map Prod.fst).dedup).map
    (here.schemaMatch there)
  let translations := (here.adapters ++ there.adapters).filterMap (here.translation there)
  let missingForLocal := capabilitiesBut here.requiredCapabilities
    (there.capabilities ++ translations.map Translation.here)
  let missingForRemote := capabilitiesBut there.requiredCapabilities
    (here.capabilities ++ translations.map Translation.there)
  let localOnly := capabilitiesBut here.capabilities
    (there.capabilities ++ translations.map Translation.here)
  let remoteOnly := capabilitiesBut there.capabilities
    (here.capabilities ++ translations.map Translation.there)
  let blockers := (if common = [] then ["no common API version"] else []) ++
    (if commonVersions (here.schema showStateSchema) (there.schema showStateSchema) = [] then
      ["no common show-state schema version"] else []) ++
    (if missingForLocal ≠ [] then
      ["remote lacks local required capabilities: " ++ ", ".intercalate missingForLocal] else []) ++
    (if missingForRemote ≠ [] then
      ["local lacks remote required capabilities: " ++ ", ".intercalate missingForRemote] else []) ++
    (if (localOnly ≠ [] ∨ remoteOnly ≠ []) ∧ ¬ (here.preservesUnknown && there.preservesUnknown) then
      ["unknown capability preservation is not supported by both participants"] else [])
  { grade := if blockers ≠ [] then .blocked
      else compatibilityGrade translations (localOnly ≠ [] ∨ remoteOnly ≠ [])
    commonApiVersions := common
    schemas
    directCapabilities := sortOn id (here.capabilities.filter (· ∈ there.capabilities)).dedup
    translations
    localOnlyPreserved := localOnly
    remoteOnlyPreserved := remoteOnly
    missingForLocal
    missingForRemote
    blockers
    localParticipant := here
    remoteParticipant := there }

def compatibilityReport (C : Conversions) (localData remoteData : Value) :
    Except Error CompatibilityPlan := do
  let here ← normalizeParticipant C localData
  let there ← normalizeParticipant C remoteData
  return comparedParticipants here there

end StageForge
