import StageForge.Library.KeyedLists
import StageForge.Show.TechnologyEvidence

/-!
# The maturity of a technology extension

How far an extension has come is computed from its implementations, its evidence and the policy, whose
demands grow with the ecosystem.
-/

namespace StageForge

open Python

/-! ## What is read -/

/-- An implementation, of a normalised extension. -/
structure Implementation where
  id : String
  independentGroup : String
  conformancePass : Bool
  interopPeers : List String

/-- What an evaluation reads of a normalised extension. -/
structure TechnologyFacts where
  id : String
  maturity : String
  requestedCore : Bool
  mandatoryCore : Bool
  deprecated : Bool
  replacementId : String
  migrationBridge : Bool
  adoptionRecordRef : String
  publicSpec : Bool
  conformanceTests : Bool
  interoperabilityEvidence : Bool
  fallbackDefined : Bool
  backwardCompatible : Bool
  unknownPreservationTested : Bool
  vendorLocked : Bool
  cloudLocked : Bool
  aiLocked : Bool
  implementations : List Implementation

/-- What an evaluation reads of a normalised policy; the last two depend on the scale. -/
structure MaturityPolicy where
  requirePublicSpecForCandidate : Bool
  requireConformanceForStandard : Bool
  requireInteropForStandard : Bool
  requireFallbackForStandard : Bool
  requireUnknownPreservationForStandard : Bool
  forbidMandatoryVendorDependency : Bool
  forbidMandatoryCloudDependency : Bool
  forbidMandatoryAiDependency : Bool
  emergingStandardGroups : Int
  standardGroups : Int
  coreGroups : Int

def scaleTier (ecosystemParticipants : Int) : String :=
  if 200 ≤ ecosystemParticipants then "infrastructure"
  else if 50 ≤ ecosystemParticipants then "large"
  else if 10 ≤ ecosystemParticipants then "growing"
  else "emerging"

section

variable (C : Conversions)

def listItems : Value → List Value
  | .list items => items
  | _ => []

def Implementation.read (value : Value) : Implementation := let item := objectOr value
  { id := C.str (item.get "id" (.str ""))
    independentGroup := C.str (item.get "independentGroup" (.str ""))
    conformancePass := (item.get "conformancePass" .none).truthy
    interopPeers := (listItems (item.get "interopPeers" .none)).map C.str }

def TechnologyFacts.read (item : Entries) : TechnologyFacts :=
  let flag := fun key => (item.get key .none).truthy
  let text := fun key => C.str (item.get key (.str ""))
  let dependencies := objectOr (item.get "dependencies" .none)
  { id := text "id"
    maturity := text "maturity"
    requestedCore := flag "requestedCore"
    mandatoryCore := flag "mandatoryCore"
    deprecated := flag "deprecated"
    replacementId := text "replacementId"
    migrationBridge := flag "migrationBridge"
    adoptionRecordRef := text "adoptionRecordRef"
    publicSpec := flag "publicSpec"
    conformanceTests := flag "conformanceTests"
    interoperabilityEvidence := flag "interoperabilityEvidence"
    fallbackDefined := flag "fallbackDefined"
    backwardCompatible := flag "backwardCompatible"
    unknownPreservationTested := flag "unknownPreservationTested"
    vendorLocked := (dependencies.get "mandatoryVendor" .none).truthy
    cloudLocked := (dependencies.get "cloudRequired" .none).truthy
    aiLocked := (dependencies.get "aiRequired" .none).truthy
    implementations := (listItems (item.get "implementations" .none)).map (Implementation.read C) }

def thresholds (policy : Entries) (tier : String) : Except Error (Int × Int) := do
  let tier := if (policy.get "scaleSafeguards" (.bool true)).truthy then tier else "emerging"
  let standard ← C.int (policy.get (tier ++ "StandardGroups") .none)
  let core ← C.int (policy.get (tier ++ "CoreGroups") .none)
  return (standard, core)

def maturityPolicy (value : Value) (tier : String) : Except Error MaturityPolicy := do
  let policy ← normalizeTechnologyPolicy C value
  let required ← thresholds C policy tier
  let emerging ← C.int (policy.get "emergingStandardGroups" .none)
  let switch := fun key => (policy.get key .none).truthy
  return {
    requirePublicSpecForCandidate := switch "requirePublicSpecForCandidate"
    requireConformanceForStandard := switch "requireConformanceForStandard"
    requireInteropForStandard := switch "requireInteropForStandard"
    requireFallbackForStandard := switch "requireFallbackForStandard"
    requireUnknownPreservationForStandard := switch "requireUnknownPreservationForStandard"
    forbidMandatoryVendorDependency := switch "forbidMandatoryVendorDependency"
    forbidMandatoryCloudDependency := switch "forbidMandatoryCloudDependency"
    forbidMandatoryAiDependency := switch "forbidMandatoryAiDependency"
    emergingStandardGroups := emerging
    standardGroups := required.1
    coreGroups := required.2 }

end

/-! ## What is computed -/

namespace Implementation

/-- `impl["independentGroup"] or impl["id"]`. -/
def group (x : Implementation) : String := if x.independentGroup = "" then x.id else x.independentGroup

/-- `impl_by_id`: the last one of an id. -/
def byId (items : List Implementation) (id : String) : Option Implementation :=
  items.reverse.find? fun x => x.id = id

/-- `tuple(sorted((a, b)))`. -/
def pairOf (a b : String) : String × String := if a ≤ b then (a, b) else (b, a)

/-- The pairs that one implementation adds to `interop_pairs`. -/
def pairsOf (items : List Implementation) (x : Implementation) : List (String × String) :=
  x.interopPeers.filterMap fun peer =>
    match byId items peer with
    | none => none
    | some y => if peer = x.id ∨ x.group = y.group then none else some (pairOf x.id peer)

end Implementation

def blockersOf (checks : List (Bool × String)) : List String :=
  (checks.filter fun check => check.1).map fun check => check.2

/-- An extension under a policy, at a scale. -/
structure TechnologyCase where
  policy : MaturityPolicy
  facts : TechnologyFacts
  tier : String

structure TechnologyAssessment where
  id : String
  declaredMaturity : String
  highestEligibleMaturity : String
  declaredMaturityValid : Bool
  maturityBlockers : List String
  currentScaleStandardReady : Bool
  scaleRevalidationNeeded : Bool
  grandfatheredStandard : Bool
  adoptionRecordRef : Option String
  scaleRevalidationBlockers : List String
  coreEligible : Bool
  coreBlockers : List String
  mandatoryCore : Bool
  deprecated : Bool
  replacementId : Option String
  deprecationSafe : Bool
  deprecationBlockers : List String
  scaleTier : String
  standardIndependentGroupsRequired : Int
  coreIndependentGroupsRequired : Int
  implementationCount : ℕ
  independentGroupCount : ℕ
  conformingIndependentGroupCount : ℕ
  interopPairCount : ℕ
  vendorLocked : Bool
  cloudLocked : Bool
  aiLocked : Bool

namespace TechnologyCase

variable (c : TechnologyCase)

def groups : Finset String :=
  ((c.facts.implementations.filter fun x => x.id ≠ "").map Implementation.group).toFinset

def conformingGroups : Finset String :=
  ((c.facts.implementations.filter fun x => x.id ≠ "" ∧ x.conformancePass).map
    Implementation.group).toFinset

def interopPairs : Finset (String × String) :=
  (c.facts.implementations.flatMap (Implementation.pairsOf c.facts.implementations)).toFinset

def communityReady : Bool := 2 ≤ c.groups.card

def communityBlockers : List String := blockersOf [(!c.communityReady,
      "community maturity requires at least two independent implementation groups")]

def candidateBlockers : List String := blockersOf
    [(c.policy.requirePublicSpecForCandidate && !c.facts.publicSpec,
      "candidate maturity requires a public specification"),
     (decide (c.groups.card < 2), "candidate maturity requires independent implementations")]

def candidateReady : Bool := c.candidateBlockers.isEmpty

def baseStandardBlockers : List String := blockersOf
    [(decide ((c.groups.card : Int) < c.policy.emergingStandardGroups),
      "standard maturity requires at least " ++ toString c.policy.emergingStandardGroups ++
        " independent groups"),
     (c.policy.requirePublicSpecForCandidate && !c.facts.publicSpec, "public specification missing"),
     (c.policy.requireConformanceForStandard && (!c.facts.conformanceTests ||
        decide ((c.conformingGroups.card : Int) < c.policy.emergingStandardGroups)),
      "public conformance evidence is insufficient"),
     (c.policy.requireInteropForStandard && (!c.facts.interoperabilityEvidence ||
        decide (c.interopPairs = ∅)),
      "independent interoperability evidence missing"),
     (c.policy.requireFallbackForStandard && (!c.facts.fallbackDefined || !c.facts.backwardCompatible),
      "fallback/backward-compatibility behavior missing"),
     (c.policy.requireUnknownPreservationForStandard && !c.facts.unknownPreservationTested,
      "unknown-extension preservation has not been tested"),
     (c.policy.forbidMandatoryVendorDependency && c.facts.vendorLocked,
      "mandatory vendor dependency is incompatible with open standard status"),
     (c.policy.forbidMandatoryCloudDependency && c.facts.cloudLocked,
      "mandatory cloud dependency is incompatible with open standard status"),
     (c.policy.forbidMandatoryAiDependency && c.facts.aiLocked,
      "mandatory AI dependency is incompatible with open standard status")]

def standardBlockers : List String := c.baseStandardBlockers ++ blockersOf
    [(decide ((c.groups.card : Int) < c.policy.standardGroups),
      "current " ++ c.tier ++ "-scale promotion/revalidation expects " ++
        toString c.policy.standardGroups ++ " independent groups"),
     (c.policy.requireConformanceForStandard &&
        decide ((c.conformingGroups.card : Int) < c.policy.standardGroups),
      "current-scale conformance evidence is not broad enough")]

def baseStandardReady : Bool := c.baseStandardBlockers.isEmpty

def standardReady : Bool := c.standardBlockers.isEmpty

def grandfatheredStandard : Bool :=
  decide (c.facts.maturity = "standard") && decide (c.facts.adoptionRecordRef ≠ "") &&
    c.baseStandardReady && !c.standardReady

def coreBlockers : List String := (if c.standardReady then [] else c.standardBlockers) ++ blockersOf
    [(decide ((c.groups.card : Int) < c.policy.coreGroups),
      "mandatory core promotion requires " ++ toString c.policy.coreGroups ++
        " independent groups at " ++ c.tier ++ " scale"),
     (!c.facts.requestedCore, "extension has not requested mandatory-core review")]

def coreEligible : Bool := c.coreBlockers.isEmpty

def deprecationBlockers : List String := if c.facts.deprecated ∧ c.facts.maturity = "standard" then
    blockersOf [(decide (c.facts.replacementId = ""),
        "deprecated standard must identify a replacement or explicitly remain terminal"),
       (decide (c.facts.replacementId ≠ "") && !c.facts.migrationBridge,
        "standard replacement lacks a migration/compatibility bridge")]
  else []

def highest : String := if c.standardReady then "standard"
  else if c.candidateReady then "candidate"
  else if c.communityReady then "community"
  else "experimental"

def maturityValid : Bool := if c.facts.maturity = "experimental" then true
  else if c.facts.maturity = "community" then c.communityReady
  else if c.facts.maturity = "candidate" then c.candidateReady
  else c.standardReady || c.grandfatheredStandard

def maturityBlockers : List String := if c.maturityValid then []
  else if c.facts.maturity = "community" then c.communityBlockers
  else if c.facts.maturity = "candidate" then c.candidateBlockers
  else if c.baseStandardReady ∧ c.facts.adoptionRecordRef = "" then
    c.standardBlockers ++ ["no adoption record is available for grandfathered Standard recognition"]
  else c.baseStandardBlockers

/-- What `evaluate_technology_extension` returns. -/
def assessment : TechnologyAssessment where
  id := c.facts.id
  declaredMaturity := c.facts.maturity
  highestEligibleMaturity := c.highest
  declaredMaturityValid := c.maturityValid
  maturityBlockers := c.maturityBlockers
  currentScaleStandardReady := c.standardReady
  scaleRevalidationNeeded := c.grandfatheredStandard
  grandfatheredStandard := c.grandfatheredStandard
  adoptionRecordRef := if c.facts.adoptionRecordRef = "" then none else some c.facts.adoptionRecordRef
  scaleRevalidationBlockers := if c.grandfatheredStandard then c.standardBlockers else []
  coreEligible := c.coreEligible
  coreBlockers := c.coreBlockers
  mandatoryCore := c.facts.mandatoryCore
  deprecated := c.facts.deprecated
  replacementId := if c.facts.replacementId = "" then none else some c.facts.replacementId
  deprecationSafe := c.deprecationBlockers.isEmpty
  deprecationBlockers := c.deprecationBlockers
  scaleTier := c.tier
  standardIndependentGroupsRequired := c.policy.standardGroups
  coreIndependentGroupsRequired := c.policy.coreGroups
  implementationCount := c.facts.implementations.length
  independentGroupCount := c.groups.card
  conformingIndependentGroupCount := c.conformingGroups.card
  interopPairCount := c.interopPairs.card
  vendorLocked := c.facts.vendorLocked
  cloudLocked := c.facts.cloudLocked
  aiLocked := c.facts.aiLocked

end TechnologyCase

section

variable (C : Conversions)

/-- What `evaluate_technology_extension` reads. -/
def technologyCase (extension : Entries) (policy : Value) (ecosystemParticipants : Int) :
    Except Error TechnologyCase := do
  let policy ← maturityPolicy C policy (scaleTier ecosystemParticipants)
  let item ← normalizeTechnologyExtension C extension
  return { policy, facts := .read C item, tier := scaleTier ecosystemParticipants }

def evaluateTechnologyExtension (extension : Entries) (policy : Value) (ecosystemParticipants : Int) :
    Except Error TechnologyAssessment :=
  (technologyCase C extension policy ecosystemParticipants).map TechnologyCase.assessment

end

/-! ## What a level needs -/

lemma blockersOf_isEmpty {checks : List (Bool × String)} :
    (blockersOf checks).isEmpty ↔ ∀ check ∈ checks, check.1 = false := by
  rw [blockersOf, List.isEmpty_iff, List.map_eq_nil_iff, List.filter_eq_nil_iff]
  simp only [Bool.not_eq_true]

lemma isEmpty_append_iff {xs ys : List String} : (xs ++ ys).isEmpty ↔ xs.isEmpty ∧ ys.isEmpty := by
  rw [List.isEmpty_iff, List.append_eq_nil_iff, List.isEmpty_iff, List.isEmpty_iff]

/-- What an extension needs to be a standard, where a number of groups is asked for. -/
structure Standard (c : TechnologyCase) (required : Int) : Prop where
  groups : required ≤ c.groups.card
  publicSpec : c.policy.requirePublicSpecForCandidate → c.facts.publicSpec
  conformance : c.policy.requireConformanceForStandard →
    c.facts.conformanceTests ∧ required ≤ c.conformingGroups.card
  interop : c.policy.requireInteropForStandard →
    c.facts.interoperabilityEvidence ∧ c.interopPairs.Nonempty
  fallback : c.policy.requireFallbackForStandard →
    c.facts.fallbackDefined ∧ c.facts.backwardCompatible
  unknownPreservation : c.policy.requireUnknownPreservationForStandard →
    c.facts.unknownPreservationTested
  vendor : c.policy.forbidMandatoryVendorDependency → c.facts.vendorLocked = false
  cloud : c.policy.forbidMandatoryCloudDependency → c.facts.cloudLocked = false
  ai : c.policy.forbidMandatoryAiDependency → c.facts.aiLocked = false

namespace TechnologyCase

variable {c d : TechnologyCase}

lemma communityReady_iff : c.communityReady ↔ 2 ≤ c.groups.card := decide_eq_true_iff

lemma candidateReady_iff : c.candidateReady ↔
    (c.policy.requirePublicSpecForCandidate → c.facts.publicSpec) ∧ 2 ≤ c.groups.card := by
  rw [candidateReady, candidateBlockers, blockersOf_isEmpty]
  simp [Nat.lt_iff_add_one_le]

lemma baseStandardReady_iff : c.baseStandardReady ↔ Standard c c.policy.emergingStandardGroups := by
  rw [baseStandardReady, baseStandardBlockers, blockersOf_isEmpty]
  simp only [List.forall_mem_cons, List.not_mem_nil, IsEmpty.forall_iff, implies_true, and_true,
    decide_eq_false_iff_not, not_lt, Bool.and_eq_false_imp, Bool.or_eq_false_iff, Bool.not_eq_false',
    ← Finset.nonempty_iff_ne_empty, ← ne_eq]
  constructor
  · rintro ⟨hgroups, hspec, hconformance, hinterop, hfallback, hunknown, hvendor, hcloud, hai⟩
    exact ⟨hgroups, hspec, hconformance, hinterop, hfallback, hunknown, hvendor, hcloud, hai⟩
  · rintro ⟨hgroups, hspec, hconformance, hinterop, hfallback, hunknown, hvendor, hcloud, hai⟩
    exact ⟨hgroups, hspec, hconformance, hinterop, hfallback, hunknown, hvendor, hcloud, hai⟩

lemma standardReady_iff : c.standardReady ↔ c.baseStandardReady ∧
    c.policy.standardGroups ≤ c.groups.card ∧ (c.policy.requireConformanceForStandard →
      c.policy.standardGroups ≤ c.conformingGroups.card) := by
  rw [standardReady, standardBlockers, isEmpty_append_iff, blockersOf_isEmpty]
  simp [baseStandardReady]

lemma standardReady_of_coreEligible (h : c.coreEligible) : c.standardReady := by
  rw [coreEligible, coreBlockers, isEmpty_append_iff] at h
  by_contra hstandard
  obtain ⟨hblockers, -⟩ := h
  rw [if_neg hstandard] at hblockers
  exact hstandard hblockers

lemma communityReady_of_candidateReady (h : c.candidateReady) : c.communityReady :=
  communityReady_iff.mpr (candidateReady_iff.mp h).2

lemma two_le_groups_of_interop (hids : ∀ x ∈ c.facts.implementations, x.id ≠ "")
    (h : c.interopPairs.Nonempty) : 2 ≤ c.groups.card := by
  obtain ⟨pair, hpair⟩ := h
  obtain ⟨x, hx, hpair⟩ := List.mem_flatMap.mp (List.mem_toFinset.mp hpair)
  obtain ⟨peer, -, hpeer⟩ := List.mem_filterMap.mp hpair
  cases hy : Implementation.byId c.facts.implementations peer with
  | none =>
    rw [hy] at hpeer
    cases hpeer
  | some y =>
    rw [hy] at hpeer
    dsimp only at hpeer
    split_ifs at hpeer with hsame
    have hymem : y ∈ c.facts.implementations := List.mem_reverse.mp (List.mem_of_find?_eq_some hy)
    have hmem : ∀ z ∈ c.facts.implementations, z.group ∈ c.groups := fun z hz =>
      List.mem_toFinset.mpr (List.mem_map_of_mem
        (List.mem_filter.mpr ⟨hz, decide_eq_true (hids z hz)⟩))
    exact Finset.one_lt_card.mpr ⟨x.group, hmem x hx, y.group, hmem y hymem,
      fun hgroup => hsame (Or.inr hgroup)⟩

lemma candidateReady_of_standardReady (hids : ∀ x ∈ c.facts.implementations, x.id ≠ "")
    (hemerging : 1 ≤ c.policy.emergingStandardGroups) (hgroups : 1 ≤ c.policy.standardGroups)
    (h : c.standardReady) : c.candidateReady ∨
      c.policy.emergingStandardGroups = 1 ∧ c.policy.standardGroups = 1 ∧
        c.policy.requireInteropForStandard = false ∧ c.groups.card = 1 := by
  obtain ⟨hbase, hscale, -⟩ := standardReady_iff.mp h
  have hstandard := baseStandardReady_iff.mp hbase
  have hbaseGroups := hstandard.groups
  by_cases htwo : 2 ≤ c.groups.card
  · exact Or.inl (candidateReady_iff.mpr ⟨hstandard.publicSpec, htwo⟩)
  · refine Or.inr ⟨by omega, by omega, ?_, by omega⟩
    refine Bool.eq_false_iff.mpr fun hinterop => htwo ?_
    exact two_le_groups_of_interop hids (hstandard.interop hinterop).2

end TechnologyCase

/-! ## Evidence only helps -/

namespace Implementation

/-- The same implementation, with more evidence. -/
structure Improves (x y : Implementation) : Prop where
  id : y.id = x.id
  group : y.group = x.group
  conformance : x.conformancePass → y.conformancePass
  peers : x.interopPeers ⊆ y.interopPeers

lemma Improves.refl (x : Implementation) : x.Improves x := ⟨rfl, rfl, fun h => h, List.Subset.refl _⟩

lemma byId_iff {items : List Implementation} (hnodup : (items.map Implementation.id).Nodup)
    {id : String} {x : Implementation} : byId items id = some x ↔ x ∈ items ∧ x.id = id := by
  have hreverse : (items.reverse.map Implementation.id).Nodup := by
    rw [List.map_reverse, List.nodup_reverse]
    exact hnodup
  rw [byId, find?_key_iff hreverse, List.mem_reverse]

end Implementation

/-- Every implementation is still there, with no less evidence. -/
def ImplementationsImprove (items better : List Implementation) : Prop :=
  ∀ x ∈ items, ∃ y ∈ better, x.Improves y

structure TechnologyFacts.Improves (x y : TechnologyFacts) : Prop where
  maturity : y.maturity = x.maturity
  adoptionRecordRef : y.adoptionRecordRef = x.adoptionRecordRef
  publicSpec : x.publicSpec → y.publicSpec
  conformanceTests : x.conformanceTests → y.conformanceTests
  interoperabilityEvidence : x.interoperabilityEvidence → y.interoperabilityEvidence
  fallbackDefined : x.fallbackDefined → y.fallbackDefined
  backwardCompatible : x.backwardCompatible → y.backwardCompatible
  unknownPreservationTested : x.unknownPreservationTested → y.unknownPreservationTested
  vendorLocked : y.vendorLocked = x.vendorLocked
  cloudLocked : y.cloudLocked = x.cloudLocked
  aiLocked : y.aiLocked = x.aiLocked
  implementations : ImplementationsImprove x.implementations y.implementations

/-- The same policy and scale, and more evidence. -/
structure TechnologyCase.Improves (c d : TechnologyCase) : Prop where
  policy : d.policy = c.policy
  facts : c.facts.Improves d.facts
  nodup : (c.facts.implementations.map Implementation.id).Nodup
  nodup' : (d.facts.implementations.map Implementation.id).Nodup

namespace TechnologyCase

variable {c d : TechnologyCase}

lemma Improves.groups_subset (h : c.Improves d) : c.groups ⊆ d.groups := by
  intro group hgroup
  obtain ⟨x, hx, rfl⟩ := List.mem_map.mp (List.mem_toFinset.mp hgroup)
  obtain ⟨hmem, hid⟩ := List.mem_filter.mp hx
  obtain ⟨y, hy, himproves⟩ := h.facts.implementations x hmem
  refine List.mem_toFinset.mpr (List.mem_map.mpr ⟨y, List.mem_filter.mpr ⟨hy, ?_⟩, himproves.group⟩)
  rw [himproves.id]
  exact hid

lemma Improves.conformingGroups_subset (h : c.Improves d) :
    c.conformingGroups ⊆ d.conformingGroups := by
  intro group hgroup
  obtain ⟨x, hx, rfl⟩ := List.mem_map.mp (List.mem_toFinset.mp hgroup)
  obtain ⟨hmem, hconforms⟩ := List.mem_filter.mp hx
  obtain ⟨hid, hpass⟩ := of_decide_eq_true hconforms
  obtain ⟨y, hy, himproves⟩ := h.facts.implementations x hmem
  refine List.mem_toFinset.mpr (List.mem_map.mpr ⟨y, List.mem_filter.mpr ⟨hy, ?_⟩, himproves.group⟩)
  rw [himproves.id]
  exact decide_eq_true ⟨hid, himproves.conformance hpass⟩

lemma Improves.interopPairs_subset (h : c.Improves d) : c.interopPairs ⊆ d.interopPairs := by
  intro pair hpair
  obtain ⟨x, hx, hpair⟩ := List.mem_flatMap.mp (List.mem_toFinset.mp hpair)
  obtain ⟨peer, hpeer, hpair⟩ := List.mem_filterMap.mp hpair
  obtain ⟨x', hx', himproves⟩ := h.facts.implementations x hx
  refine List.mem_toFinset.mpr (List.mem_flatMap.mpr ⟨x', hx', List.mem_filterMap.mpr
    ⟨peer, himproves.peers hpeer, ?_⟩⟩)
  cases hy : Implementation.byId c.facts.implementations peer with
  | none =>
    rw [hy] at hpair
    cases hpair
  | some y =>
    -- The peer is still there, and still of its group.
    obtain ⟨hymem, hyid⟩ := (Implementation.byId_iff h.nodup).mp hy
    obtain ⟨y', hy', himproves'⟩ := h.facts.implementations y hymem
    have hfound : Implementation.byId d.facts.implementations peer = some y' :=
      (Implementation.byId_iff h.nodup').mpr ⟨hy', himproves'.id.trans hyid⟩
    rw [hy] at hpair
    rw [hfound]
    dsimp only at hpair ⊢
    rw [himproves.id, himproves.group, himproves'.group]
    exact hpair

lemma Improves.communityReady (h : c.Improves d) (hready : c.communityReady) : d.communityReady :=
  communityReady_iff.mpr
    ((communityReady_iff.mp hready).trans (Finset.card_le_card h.groups_subset))

lemma Improves.candidateReady (h : c.Improves d) (hready : c.candidateReady) : d.candidateReady := by
  obtain ⟨hspec, hgroups⟩ := candidateReady_iff.mp hready
  refine candidateReady_iff.mpr ⟨?_, hgroups.trans (Finset.card_le_card h.groups_subset)⟩
  rw [h.policy]
  exact fun hrequired => h.facts.publicSpec (hspec hrequired)

lemma Improves.baseStandardReady (h : c.Improves d) (hready : c.baseStandardReady) :
    d.baseStandardReady := by
  have hstandard := baseStandardReady_iff.mp hready
  have hgroups := Finset.card_le_card h.groups_subset
  have hconforming := Finset.card_le_card h.conformingGroups_subset
  refine baseStandardReady_iff.mpr ?_
  constructor <;> rw [h.policy]
  case groups => exact hstandard.groups.trans (by exact_mod_cast hgroups)
  case publicSpec => exact fun hrequired => h.facts.publicSpec (hstandard.publicSpec hrequired)
  case conformance =>
    intro hrequired
    obtain ⟨htests, hcard⟩ := hstandard.conformance hrequired
    exact ⟨h.facts.conformanceTests htests, hcard.trans (by exact_mod_cast hconforming)⟩
  case interop =>
    intro hrequired
    obtain ⟨hevidence, hpairs⟩ := hstandard.interop hrequired
    exact ⟨h.facts.interoperabilityEvidence hevidence, hpairs.mono h.interopPairs_subset⟩
  case fallback =>
    intro hrequired
    obtain ⟨hfallback, hbackward⟩ := hstandard.fallback hrequired
    exact ⟨h.facts.fallbackDefined hfallback, h.facts.backwardCompatible hbackward⟩
  case unknownPreservation =>
    exact fun hrequired => h.facts.unknownPreservationTested (hstandard.unknownPreservation hrequired)
  case vendor => exact fun hforbidden => h.facts.vendorLocked.trans (hstandard.vendor hforbidden)
  case cloud => exact fun hforbidden => h.facts.cloudLocked.trans (hstandard.cloud hforbidden)
  case ai => exact fun hforbidden => h.facts.aiLocked.trans (hstandard.ai hforbidden)

lemma Improves.standardReady (h : c.Improves d) (hready : c.standardReady) : d.standardReady := by
  obtain ⟨hbase, hgroups, hconforming⟩ := standardReady_iff.mp hready
  have hmore := Finset.card_le_card h.groups_subset
  have hmore' := Finset.card_le_card h.conformingGroups_subset
  refine standardReady_iff.mpr ⟨h.baseStandardReady hbase, ?_, ?_⟩ <;> rw [h.policy]
  · exact hgroups.trans (by exact_mod_cast hmore)
  · exact fun hrequired => (hconforming hrequired).trans (by exact_mod_cast hmore')

lemma recognised_iff : (c.standardReady || c.grandfatheredStandard) = true ↔
    c.standardReady ∨ (c.facts.maturity = "standard" ∧ c.facts.adoptionRecordRef ≠ "") ∧
      c.baseStandardReady := by
  rw [Bool.or_eq_true, grandfatheredStandard]
  simp only [Bool.and_eq_true, decide_eq_true_eq, Bool.not_eq_true']
  constructor
  · rintro (hready | ⟨⟨hrecord, hbase⟩, -⟩)
    · exact Or.inl hready
    · exact Or.inr ⟨hrecord, hbase⟩
  · rintro (hready | ⟨hrecord, hbase⟩)
    · exact Or.inl hready
    · cases hnow : c.standardReady with
      | true => exact Or.inl rfl
      | false => exact Or.inr ⟨⟨hrecord, hbase⟩, rfl⟩

lemma standardValid_iff (h : c.facts.maturity = "standard") : c.maturityValid ↔
    c.standardReady ∨ c.facts.adoptionRecordRef ≠ "" ∧ c.baseStandardReady := by
  have hvalid : c.maturityValid = (c.standardReady || c.grandfatheredStandard) := by
    unfold maturityValid
    rw [h]
    rfl
  rw [hvalid, recognised_iff]
  simp only [h, true_and]

lemma Improves.maturityValid (h : c.Improves d) (hvalid : c.maturityValid) : d.maturityValid := by
  unfold TechnologyCase.maturityValid at hvalid ⊢
  rw [h.facts.maturity]
  split_ifs at hvalid ⊢ with hexperimental hcommunity hcandidate
  · rfl
  · exact h.communityReady hvalid
  · exact h.candidateReady hvalid
  · rw [recognised_iff] at hvalid ⊢
    rw [h.facts.maturity, h.facts.adoptionRecordRef]
    exact hvalid.imp h.standardReady fun hrecord => ⟨hrecord.1, h.baseStandardReady hrecord.2⟩

lemma idxOf_highest : maturities.idxOf c.highest =
    if c.standardReady then 3 else if c.candidateReady then 2 else if c.communityReady then 1 else 0 := by
  unfold highest
  split_ifs <;> decide +kernel

lemma Improves.highest (h : c.Improves d) :
    maturities.idxOf c.highest ≤ maturities.idxOf d.highest := by
  rw [idxOf_highest, idxOf_highest]
  have hstandard := h.standardReady
  have hcandidate := h.candidateReady
  have hcommunity := h.communityReady
  split_ifs <;> grind

end TechnologyCase

/-! ## Policies -/

section

variable {C : Conversions} {key : String} {raw policy policy' : Entries}

/-- The policy has a count that can be asked for. -/
def CountAt (policy : Entries) (key : String) : Prop :=
  ∃ n : Int, policy.lookup key = some (.int n) ∧ 1 ≤ n

lemma lookup_normalizeCount {other : String} (hother : key ≠ other)
    (h : normalizeCount C raw policy other = .ok policy') :
    policy'.lookup key = policy.lookup key := by
  unfold normalizeCount at h
  cases hraw : raw.lookup other with
  | none =>
    rw [hraw] at h
    cases h
    rfl
  | some value =>
    rw [hraw] at h
    obtain ⟨n, -, h⟩ := bind_eq_ok.mp h
    cases h
    rw [lookup_setItem, if_neg hother]

lemma countAt_normalizeCount {other : String} (hcount : CountAt policy key)
    (h : normalizeCount C raw policy other = .ok policy') : CountAt policy' key := by
  by_cases hkey : key = other
  · subst hkey
    unfold normalizeCount at h
    cases hraw : raw.lookup key with
    | none =>
      rw [hraw] at h
      cases h
      exact hcount
    | some value =>
      rw [hraw] at h
      obtain ⟨n, -, h⟩ := bind_eq_ok.mp h
      cases h
      exact ⟨max 1 (min 64 n), by rw [lookup_setItem, if_pos rfl], le_max_left _ _⟩
  · obtain ⟨n, hn, hpos⟩ := hcount
    exact ⟨n, (lookup_normalizeCount hkey h).trans hn, hpos⟩

lemma countAt_foldlM {keys : List String} (h : keys.foldlM (normalizeCount C raw) policy = .ok policy')
    (hcount : CountAt policy key ∨ key ∈ keys ∧ raw.lookup key ≠ none) : CountAt policy' key := by
  induction keys generalizing policy with
  | nil =>
    cases h
    exact hcount.resolve_right fun hmem => List.not_mem_nil hmem.1
  | cons other keys ih =>
    obtain ⟨next, hnext, h⟩ := bind_eq_ok.mp h
    refine ih h ?_
    rcases hcount with hcount | ⟨hmem, hraw⟩
    · exact Or.inl (countAt_normalizeCount hcount hnext)
    · by_cases hkey : key = other
      · subst hkey
        obtain ⟨value, hvalue⟩ := Option.ne_none_iff_exists'.mp hraw
        rw [normalizeCount, hvalue] at hnext
        obtain ⟨n, -, hnext⟩ := bind_eq_ok.mp hnext
        cases hnext
        exact Or.inl ⟨max 1 (min 64 n), by rw [lookup_setItem, if_pos rfl], le_max_left _ _⟩
      · exact Or.inr ⟨(List.mem_cons.mp hmem).resolve_left hkey, hraw⟩

lemma lookup_foldl_switches {keys : List String} (hkey : key ∉ keys) :
    (keys.foldl (normalizeSwitch raw) policy).lookup key = policy.lookup key := by
  induction keys generalizing policy with
  | nil => rfl
  | cons other keys ih =>
    rw [List.mem_cons, not_or] at hkey
    rw [List.foldl_cons, ih hkey.2]
    unfold normalizeSwitch
    cases raw.lookup other with
    | none => rfl
    | some value => rw [lookup_setItem, if_neg hkey.1]

variable {value : Value}

/-- **The counts of a normalised policy are positive.** -/
lemma countAt_of_normalize (h : normalizeTechnologyPolicy C value = .ok policy)
    (hkey : key ∈ technologyCounts.map Prod.fst) : CountAt policy key := by
  refine countAt_foldlM h ?_
  by_cases hraw : value.entries.lookup key = none
  · have hswitch : ∀ k ∈ technologyCounts.map Prod.fst, k ∉ technologySwitches := by decide +kernel
    have hdefault : ∀ count ∈ technologyCounts,
        defaultTechnologyPolicy.lookup count.1 = some (.int count.2) ∧ 1 ≤ count.2 := by
      decide +kernel
    obtain ⟨count, hmem, hcount⟩ := List.mem_map.mp hkey
    obtain ⟨hn, hpos⟩ := hdefault count hmem
    rw [hcount] at hn
    refine Or.inl ⟨count.2, ?_, hpos⟩
    have hnone : key ∉ value.entries.map Prod.fst := by
      rw [List.lookup_eq_none_iff] at hraw
      rintro hmem
      obtain ⟨entry, hentry, rfl⟩ := List.mem_map.mp hmem
      simpa using hraw entry hentry
    rw [lookup_foldl_switches (hswitch key hkey), lookup_update_of_notMem hnone, hn]
  · exact Or.inr ⟨hkey, hraw⟩

lemma scaleTier_mem (n : Int) :
    scaleTier n ∈ ["infrastructure", "large", "growing", "emerging"] := by
  unfold scaleTier
  split_ifs <;> decide

lemma int_get_of_countAt (h : CountAt policy key) {n : Int}
    (hn : C.int (policy.get key .none) = .ok n) : 1 ≤ n := by
  obtain ⟨m, hm, hpos⟩ := h
  rw [Entries.get, hm] at hn
  obtain rfl : m = n := Except.ok.inj hn
  exact hpos

lemma groups_pos {n : Int} {p : MaturityPolicy}
    (h : maturityPolicy C value (scaleTier n) = .ok p) :
    1 ≤ p.emergingStandardGroups ∧ 1 ≤ p.standardGroups := by
  obtain ⟨policy, hpolicy, h⟩ := bind_eq_ok.mp h
  obtain ⟨required, hrequired, h⟩ := bind_eq_ok.mp h
  obtain ⟨emerging, hemerging, h⟩ := bind_eq_ok.mp h
  cases h
  obtain ⟨standard, hstandard, hrequired⟩ := bind_eq_ok.mp hrequired
  obtain ⟨core, -, hrequired⟩ := bind_eq_ok.mp hrequired
  cases hrequired
  have hkeys : ∀ tier ∈ ["infrastructure", "large", "growing", "emerging"],
      tier ++ "StandardGroups" ∈ technologyCounts.map Prod.fst := by decide +kernel
  refine ⟨int_get_of_countAt (countAt_of_normalize hpolicy ?_) hemerging,
    int_get_of_countAt (countAt_of_normalize hpolicy ?_) hstandard⟩
  · decide +kernel
  · refine hkeys _ ?_
    split_ifs
    · exact scaleTier_mem n
    · decide

lemma maturityPolicy_tier {tier tier' : String} {p q : MaturityPolicy}
    (hp : maturityPolicy C value tier = .ok p) (hq : maturityPolicy C value tier' = .ok q) :
    q = { p with standardGroups := q.standardGroups, coreGroups := q.coreGroups } := by
  obtain ⟨policy, hpolicy, hp⟩ := bind_eq_ok.mp hp
  obtain ⟨required, -, hp⟩ := bind_eq_ok.mp hp
  obtain ⟨emerging, hemerging, hp⟩ := bind_eq_ok.mp hp
  obtain ⟨policy', hpolicy', hq⟩ := bind_eq_ok.mp hq
  obtain ⟨required', -, hq⟩ := bind_eq_ok.mp hq
  obtain ⟨emerging', hemerging', hq⟩ := bind_eq_ok.mp hq
  obtain rfl := Except.ok.inj (hpolicy.symm.trans hpolicy')
  obtain rfl := Except.ok.inj (hemerging.symm.trans hemerging')
  cases hp
  cases hq
  rfl

end

/-! ## Edits of an extension -/

section

variable {C : Conversions}

inductive ImplementationEdit (raw : Entries) : Entries → Prop
  | conformancePass : ImplementationEdit raw (setItem "conformancePass" (.bool true) raw)
  | interopPeers {peers more : List Value}
      (h : ((raw.get "interopPeers" .none).orElse (.list [])).iterate = .ok peers)
      (hmore : peers ⊆ more) : ImplementationEdit raw (setItem "interopPeers" (.list more) raw)

/-- The flags of an extension that count for its maturity. -/
def evidenceFlags : List String :=
  ["publicSpec", "conformanceTests", "interoperabilityEvidence", "fallbackDefined",
    "backwardCompatible", "unknownPreservationTested"]

inductive EvidenceEdit (raw : Entries) : Entries → Prop
  | flag {key : String} (h : key ∈ evidenceFlags) : EvidenceEdit raw (setItem key (.bool true) raw)
  | append {values : List Value} (implementation : Entries)
      (h : ((raw.get "implementations" .none).orElse (.list [])).iterate = .ok values) :
      EvidenceEdit raw (setItem "implementations" (.list (values ++ [.dict implementation])) raw)
  | implementation {before after : List Value} {x y : Entries}
      (h : ((raw.get "implementations" .none).orElse (.list [])).iterate =
        .ok (before ++ .dict x :: after)) (hedit : ImplementationEdit x y) :
      EvidenceEdit raw (setItem "implementations" (.list (before ++ .dict y :: after)) raw)

variable {raw item : Entries}

lemma read_of_normalize (h : normalizeImplementation C raw = .ok item) :
    ∃ peers, ((raw.get "interopPeers" .none).orElse (.list [])).iterate = .ok peers ∧
      Implementation.read C (.dict item) =
        { id := clippedText C 128 (raw.get "id" (.str ""))
          independentGroup :=
            if clippedText C 128 (raw.get "independentGroup" (raw.get "organization"
                (.str (clippedText C 128 (raw.get "id" (.str "")))))) = "" then
              clippedText C 128 (raw.get "id" (.str ""))
            else clippedText C 128 (raw.get "independentGroup" (raw.get "organization"
              (.str (clippedText C 128 (raw.get "id" (.str ""))))))
          conformancePass := optionalBool (raw.get "conformancePass" .none) false
          interopPeers := sortedTexts C 128 peers } := by
  obtain ⟨peers, hpeers, hitem⟩ := normalizeImplementation_eq_ok.mp h
  have hkeys : ((implementationFields C raw peers).map Prod.fst).Nodup := by
    rw [implementationFields_keys]
    decide
  have hget : ∀ entry ∈ implementationFields C raw peers, ∀ fallback,
      item.get entry.1 fallback = entry.2 := by
    intro entry hentry fallback
    rw [hitem]
    exact get_update hkeys hentry fallback
  simp only [implementationFields, List.forall_mem_cons] at hget
  obtain ⟨hid, -, hgroup, hpass, -, hpeersRead, -⟩ := hget
  have hobject : objectOr (.dict item) = item := rfl
  have hpeersText : (listItems (.list ((sortedTexts C 128 peers).map .str))).map C.str =
      sortedTexts C 128 peers := by
    rw [listItems, List.map_map]
    exact List.map_id _
  refine ⟨peers, hpeers, ?_⟩
  rw [Implementation.read, hobject, hid, hgroup, hpass, hpeersRead, hpeersText, Conversions.str_str,
    Conversions.str_str, Value.truthy]

lemma ImplementationEdit.improves {x y item item' : Entries} (hedit : ImplementationEdit x y)
    (h : normalizeImplementation C x = .ok item) (h' : normalizeImplementation C y = .ok item') :
    (Implementation.read C (.dict item)).Improves (Implementation.read C (.dict item')) := by
  obtain ⟨peers, hpeers, hread⟩ := read_of_normalize h
  obtain ⟨peers', hpeers', hread'⟩ := read_of_normalize h'
  rw [hread, hread']
  cases hedit with
  | conformancePass =>
    simp only [Entries.get_setItem, String.reduceEq, if_false, if_true] at hpeers' ⊢
    obtain rfl := Except.ok.inj (hpeers.symm.trans hpeers')
    exact ⟨rfl, rfl, fun _ => optionalBool_bool true false, List.Subset.refl _⟩
  | interopPeers hold hmore =>
    simp only [Entries.get_setItem, String.reduceEq, if_false, if_true, orElse_list] at hpeers' ⊢
    obtain rfl := Except.ok.inj (hold.symm.trans hpeers)
    cases hpeers'
    refine ⟨rfl, rfl, fun hpass => hpass, fun t ht => ?_⟩
    obtain ⟨v, hv, hkept⟩ := mem_sortedTexts.mp ht
    exact mem_sortedTexts.mpr ⟨v, hmore hv, hkept⟩

lemma ImplementationsImprove.refl (items : List Implementation) : ImplementationsImprove items items :=
  fun x hx => ⟨x, hx, Implementation.Improves.refl x⟩

lemma ImplementationsImprove.cons {x y : Implementation} {items better : List Implementation}
    (hfirst : x.Improves y) (hrest : ImplementationsImprove items better) :
    ImplementationsImprove (x :: items) (y :: better) := by
  intro z hz
  rcases List.mem_cons.mp hz with rfl | hz
  · exact ⟨y, List.mem_cons_self, hfirst⟩
  · obtain ⟨w, hw, himproves⟩ := hrest z hz
    exact ⟨w, List.mem_cons_of_mem _ hw, himproves⟩

def PassedOver (C : Conversions) (raw : Entries) (seen : List String) : Prop :=
  clippedText C 128 (raw.get "id" (.str "")) = "" ∨ clippedText C 128 (raw.get "id" (.str "")) ∈ seen

variable {seen : List String}

lemma normalizeImplementations_dict {raw : Entries} {rest items : List Value}
    (h : normalizeImplementations C (.dict raw :: rest) seen = .ok items) :
    ∃ item, normalizeImplementation C raw = .ok item ∧
      (PassedOver C raw seen ∧ normalizeImplementations C rest seen = .ok items ∨
        ¬ PassedOver C raw seen ∧ ∃ others, normalizeImplementations C rest
          (clippedText C 128 (raw.get "id" (.str "")) :: seen) = .ok others ∧
            items = .dict item :: others) := by
  obtain ⟨item, hitem, h⟩ := bind_eq_ok.mp h
  dsimp only at h
  rw [get_id_of_normalize hitem, Conversions.str_str] at h
  refine ⟨item, hitem, ?_⟩
  unfold PassedOver
  generalize clippedText C 128 (raw.get "id" (.str "")) = id at h ⊢
  split_ifs at h with hpassed
  · exact Or.inl ⟨hpassed, h⟩
  · obtain ⟨others, hothers, h⟩ := bind_eq_ok.mp h
    exact Or.inr ⟨hpassed, others, hothers, (Except.ok.inj h).symm⟩

lemma improve_cons {v : Value} {rest rest' items items' : List Value}
    (hrest : ∀ {seen items items'}, normalizeImplementations C rest seen = .ok items →
      normalizeImplementations C rest' seen = .ok items' →
        ImplementationsImprove (items.map (Implementation.read C))
          (items'.map (Implementation.read C)))
    (h : normalizeImplementations C (v :: rest) seen = .ok items)
    (h' : normalizeImplementations C (v :: rest') seen = .ok items') :
    ImplementationsImprove (items.map (Implementation.read C))
      (items'.map (Implementation.read C)) := by
  cases v with
  | dict raw =>
    obtain ⟨item, hitem, h⟩ := normalizeImplementations_dict h
    obtain ⟨item', hitem', h'⟩ := normalizeImplementations_dict h'
    obtain rfl := Except.ok.inj (hitem.symm.trans hitem')
    rcases h with ⟨hpassed, h⟩ | ⟨hkept, others, hothers, rfl⟩
    · exact hrest h (h'.resolve_right fun hkept => hkept.1 hpassed).2
    · obtain ⟨-, others', hothers', rfl⟩ := h'.resolve_left fun hpassed => hkept hpassed.1
      exact .cons (.refl _) (hrest hothers hothers')
  | _ => exact hrest h h'

lemma improve_append {values : List Value} (implementation : Entries)
    {items items' : List Value} (h : normalizeImplementations C values seen = .ok items)
    (h' : normalizeImplementations C (values ++ [.dict implementation]) seen = .ok items') :
    ImplementationsImprove (items.map (Implementation.read C))
      (items'.map (Implementation.read C)) := by
  induction values generalizing seen items items' with
  | nil =>
    cases h
    exact fun x hx => absurd hx List.not_mem_nil
  | cons v values ih => exact improve_cons ih h h'

lemma improve_edit {before after : List Value} {x y : Entries} (hedit : ImplementationEdit x y)
    {items items' : List Value}
    (h : normalizeImplementations C (before ++ .dict x :: after) seen = .ok items)
    (h' : normalizeImplementations C (before ++ .dict y :: after) seen = .ok items') :
    ImplementationsImprove (items.map (Implementation.read C))
      (items'.map (Implementation.read C)) := by
  induction before generalizing seen items items' with
  | nil =>
    obtain ⟨item, hitem, h⟩ := normalizeImplementations_dict h
    obtain ⟨item', hitem', h'⟩ := normalizeImplementations_dict h'
    -- The edit leaves the id alone, so both are kept or none is.
    have hid : y.get "id" (.str "") = x.get "id" (.str "") := by
      cases hedit <;> rw [Entries.get_setItem, if_neg (by decide)]
    rw [PassedOver, hid, ← PassedOver] at h'
    rcases h with ⟨hpassed, h⟩ | ⟨hkept, others, hothers, rfl⟩
    · have hsame := (h'.resolve_right fun hkept => hkept.1 hpassed).2
      obtain rfl := Except.ok.inj (h.symm.trans hsame)
      exact .refl _
    · obtain ⟨-, others', hothers', rfl⟩ := h'.resolve_left fun hpassed => hkept hpassed.1
      obtain rfl := Except.ok.inj (hothers.symm.trans hothers')
      exact .cons (hedit.improves hitem hitem') (.refl _)
  | cons v before ih => exact improve_cons ih h h'

def TechnologyFacts.ofRaw (C : Conversions) (raw : Entries) (implementations : List Value) :
    TechnologyFacts :=
  let switch := fun key => optionalBool (raw.get key .none) false
  let dependency := objectOr (raw.get "dependencies" .none)
  { id := clippedText C 160 (raw.get "id" (.str ""))
    maturity := lower (strip (C.str (raw.get "maturity" (.str "experimental"))))
    requestedCore := switch "requestedCore"
    mandatoryCore := switch "mandatoryCore"
    deprecated := switch "deprecated"
    replacementId := clippedText C 160 (raw.get "replacementId" (.str ""))
    migrationBridge := switch "migrationBridge"
    adoptionRecordRef := clippedText C 256 (raw.get "adoptionRecordRef" (.str ""))
    publicSpec := switch "publicSpec"
    conformanceTests := switch "conformanceTests"
    interoperabilityEvidence := switch "interoperabilityEvidence"
    fallbackDefined := switch "fallbackDefined"
    backwardCompatible := optionalBool (raw.get "backwardCompatible" .none) true
    unknownPreservationTested := switch "unknownPreservationTested"
    vendorLocked := clippedText C 128 (dependency.get "mandatoryVendor" (.str "")) ≠ ""
    cloudLocked := optionalBool (dependency.get "cloudRequired" .none) false
    aiLocked := optionalBool (dependency.get "aiRequired" .none) false
    implementations := implementations.map (Implementation.read C) }

lemma facts_of_normalize (h : normalizeTechnologyExtension C raw = .ok item) :
    ∃ values implementations,
      ((raw.get "implementations" .none).orElse (.list [])).iterate = .ok values ∧
      normalizeImplementations C values [] = .ok implementations ∧
      TechnologyFacts.read C item = TechnologyFacts.ofRaw C raw implementations := by
  obtain ⟨implementations, deployments, hreads, hitem⟩ := normalizeTechnologyExtension_eq_ok.mp h
  obtain ⟨values, hvalues, himplementations⟩ := hreads.implementations
  refine ⟨values, implementations, hvalues, himplementations, ?_⟩
  have hget := get_extension hitem
  simp only [extensionFields, List.forall_mem_cons] at hget
  obtain ⟨hid, -, hmaturity, hrequested, hmandatory, hdeprecated, hreplacement, hbridge, hadoption,
    hspec, htests, hinterop, hfallback, hbackward, hunknown, -, hdependencies, himplementationsRead,
    -⟩ := hget
  have hkeys : ((dependencyFields C (objectOr (raw.get "dependencies" .none))).map
      Prod.fst).Nodup := by
    rw [dependencyFields_keys]
    decide
  have hlocks : ∀ entry ∈ dependencyFields C (objectOr (raw.get "dependencies" .none)),
      ∀ fallback, Entries.get (objectOr (.dict (update (objectOr (raw.get "dependencies" .none))
        (dependencyFields C (objectOr (raw.get "dependencies" .none)))))) entry.1 fallback =
          entry.2 := fun entry hentry fallback => get_update hkeys hentry fallback
  simp only [dependencyFields, List.forall_mem_cons] at hlocks
  obtain ⟨hvendor, hcloud, hai, -⟩ := hlocks
  unfold TechnologyFacts.read TechnologyFacts.ofRaw
  dsimp only
  rw [hid, hmaturity, hrequested, hmandatory, hdeprecated, hreplacement, hbridge,
    hadoption, hspec, htests, hinterop, hfallback, hbackward, hunknown, hdependencies,
    himplementationsRead, dependencyFields, hvendor, hcloud, hai]
  simp only [Conversions.str_str, Value.truthy, listItems]

lemma ids_of_normalize (h : normalizeTechnologyExtension C raw = .ok item) :
    NewIds [] ((TechnologyFacts.read C item).implementations.map Implementation.id) := by
  obtain ⟨values, implementations, -, himplementations, hfacts⟩ := facts_of_normalize h
  obtain ⟨kept, rfl, hkept⟩ := normalizeImplementations_kept himplementations
  have hids := newIds_kept hkept
  rw [hfacts]
  unfold TechnologyFacts.ofRaw
  rw [List.map_map, List.map_map]
  exact hids

lemma EvidenceEdit.improves {raw raw' item item' : Entries} (hedit : EvidenceEdit raw raw')
    (h : normalizeTechnologyExtension C raw = .ok item)
    (h' : normalizeTechnologyExtension C raw' = .ok item') :
    (TechnologyFacts.read C item).Improves (TechnologyFacts.read C item') := by
  obtain ⟨values, implementations, hvalues, himplementations, hfacts⟩ := facts_of_normalize h
  obtain ⟨values', implementations', hvalues', himplementations', hfacts'⟩ := facts_of_normalize h'
  rw [hfacts, hfacts']
  cases hedit with
  | flag hkey =>
    simp only [evidenceFlags, List.mem_cons, List.not_mem_nil, or_false] at hkey
    rcases hkey with rfl | rfl | rfl | rfl | rfl | rfl <;>
      simp only [Entries.get_setItem, String.reduceEq, if_false] at hvalues' <;>
      obtain rfl := Except.ok.inj (hvalues.symm.trans hvalues') <;>
      obtain rfl := Except.ok.inj (himplementations.symm.trans himplementations') <;>
      constructor <;>
      simp only [TechnologyFacts.ofRaw, Entries.get_setItem, String.reduceEq, if_false, if_true,
        optionalBool_bool, imp_self, implies_true] <;>
      exact .refl _
  | append implementation hold =>
    obtain rfl := Except.ok.inj (hold.symm.trans hvalues)
    simp only [Entries.get_setItem, if_true, orElse_list] at hvalues'
    cases hvalues'
    constructor <;>
      simp only [TechnologyFacts.ofRaw, Entries.get_setItem, String.reduceEq, if_false, imp_self]
    exact improve_append implementation himplementations himplementations'
  | implementation hold hedit =>
    obtain rfl := Except.ok.inj (hold.symm.trans hvalues)
    simp only [Entries.get_setItem, if_true, orElse_list] at hvalues'
    cases hvalues'
    constructor <;>
      simp only [TechnologyFacts.ofRaw, Entries.get_setItem, String.reduceEq, if_false, imp_self]
    exact improve_edit hedit himplementations himplementations'

end

/-! ## The ladder -/

section

variable {C : Conversions} {raw : Entries} {policy : Value} {participants : Int} {c : TechnologyCase}

lemma technologyCase_eq_ok : technologyCase C raw policy participants = .ok c ↔
    ∃ p item, maturityPolicy C policy (scaleTier participants) = .ok p ∧
      normalizeTechnologyExtension C raw = .ok item ∧
      c = { policy := p, facts := .read C item, tier := scaleTier participants } := by
  constructor
  · intro h
    obtain ⟨p, hp, h⟩ := bind_eq_ok.mp h
    obtain ⟨item, hitem, h⟩ := bind_eq_ok.mp h
    exact ⟨p, item, hp, hitem, (Except.ok.inj h).symm⟩
  · rintro ⟨p, item, hp, hitem, rfl⟩
    exact bind_eq_ok.mpr ⟨p, hp, bind_eq_ok.mpr ⟨item, hitem, rfl⟩⟩

/-- With one group enough for a standard, one implementation is one that is no candidate. -/
def OneGroupStandard (c : TechnologyCase) : Prop :=
  c.policy.emergingStandardGroups = 1 ∧ c.policy.standardGroups = 1 ∧
    c.policy.requireInteropForStandard = false ∧ c.groups.card = 1

lemma candidate_of_standard (h : technologyCase C raw policy participants = .ok c)
    (hready : c.standardReady) : c.candidateReady ∨ OneGroupStandard c := by
  obtain ⟨p, item, hp, hitem, rfl⟩ := technologyCase_eq_ok.mp h
  obtain ⟨hemerging, hgroups⟩ := groups_pos hp
  refine TechnologyCase.candidateReady_of_standardReady (fun x hx => ?_) hemerging hgroups hready
  exact ((ids_of_normalize hitem).fresh x.id (List.mem_map_of_mem hx)).1

lemma improves_of_edit {raw' : Entries} {d : TechnologyCase}
    (h : technologyCase C raw policy participants = .ok c) (hedit : EvidenceEdit raw raw')
    (h' : technologyCase C raw' policy participants = .ok d) : c.Improves d := by
  obtain ⟨p, item, hp, hitem, rfl⟩ := technologyCase_eq_ok.mp h
  obtain ⟨p', item', hp', hitem', rfl⟩ := technologyCase_eq_ok.mp h'
  obtain rfl := Except.ok.inj (hp.symm.trans hp')
  exact ⟨rfl, hedit.improves hitem hitem', (ids_of_normalize hitem).nodup,
    (ids_of_normalize hitem').nodup⟩

lemma baseStandardReady_scale {participants' : Int} {d : TechnologyCase}
    (h : technologyCase C raw policy participants = .ok c)
    (h' : technologyCase C raw policy participants' = .ok d) :
    d.facts = c.facts ∧ (c.baseStandardReady → d.baseStandardReady) := by
  obtain ⟨p, item, hp, hitem, rfl⟩ := technologyCase_eq_ok.mp h
  obtain ⟨p', item', hp', hitem', rfl⟩ := technologyCase_eq_ok.mp h'
  obtain rfl := Except.ok.inj (hitem.symm.trans hitem')
  rw [maturityPolicy_tier hp hp']
  refine ⟨rfl, fun hready => ?_⟩
  have hstandard := TechnologyCase.baseStandardReady_iff.mp hready
  exact TechnologyCase.baseStandardReady_iff.mpr ⟨hstandard.groups, hstandard.publicSpec,
    hstandard.conformance, hstandard.interop, hstandard.fallback, hstandard.unknownPreservation,
    hstandard.vendor, hstandard.cloud, hstandard.ai⟩

/-- **The maturity ladder**: a level needs what the levels below it do, unless one group is enough for a
standard; more evidence lowers no level and invalidates none; a standard that is on record is one at every
scale. -/
theorem technologyCase_ladder (h : technologyCase C raw policy participants = .ok c) :
    (c.coreEligible → c.standardReady) ∧
      (c.standardReady → c.candidateReady ∧ c.communityReady ∨ OneGroupStandard c) ∧
      (c.candidateReady → c.communityReady) ∧
      (∀ raw' d, EvidenceEdit raw raw' → technologyCase C raw' policy participants = .ok d →
        maturities.idxOf c.assessment.highestEligibleMaturity ≤
            maturities.idxOf d.assessment.highestEligibleMaturity ∧
          (c.assessment.declaredMaturityValid → d.assessment.declaredMaturityValid)) ∧
      ∀ participants' d, technologyCase C raw policy participants' = .ok d →
        c.facts.maturity = "standard" → c.facts.adoptionRecordRef ≠ "" →
          c.assessment.declaredMaturityValid → d.assessment.declaredMaturityValid := by
  refine ⟨TechnologyCase.standardReady_of_coreEligible, fun hready => ?_,
    TechnologyCase.communityReady_of_candidateReady, fun raw' d hedit h' => ?_,
    fun participants' d h' hmaturity hrecord hvalid => ?_⟩
  · exact (candidate_of_standard h hready).imp_left fun hcandidate =>
      ⟨hcandidate, TechnologyCase.communityReady_of_candidateReady hcandidate⟩
  · have himproves := improves_of_edit h hedit h'
    exact ⟨himproves.highest, himproves.maturityValid⟩
  · obtain ⟨hfacts, hbase⟩ := baseStandardReady_scale h h'
    have hready : c.baseStandardReady :=
      ((TechnologyCase.standardValid_iff hmaturity).mp hvalid).elim
        (fun hready => (TechnologyCase.standardReady_iff.mp hready).1) And.right
    rw [← hfacts] at hmaturity hrecord
    exact (TechnologyCase.standardValid_iff hmaturity).mpr (Or.inr ⟨hrecord, hbase hready⟩)

end

def soloExtension : Entries :=
  [("id", .str "a.b"), ("implementations", .list [.dict [("id", .str "x")]])]

def soloPolicy : Value :=
  .dict [("requirePublicSpecForCandidate", .bool false), ("requireConformanceForStandard", .bool false),
    ("requireInteropForStandard", .bool false), ("requireFallbackForStandard", .bool false),
    ("requireUnknownPreservationForStandard", .bool false), ("emergingStandardGroups", .int 1)]

theorem not_technologyCase_ladder :
    (technologyCase plainConversions soloExtension soloPolicy 0).toOption.map
        (fun c => (c.standardReady, c.candidateReady, c.communityReady)) =
      some (true, false, false) := by
  decide +kernel

theorem technologyCase_ladder_solo :
    ∃ c, technologyCase plainConversions soloExtension soloPolicy 0 = .ok c ∧
      (c.standardReady → c.candidateReady ∧ c.communityReady ∨ OneGroupStandard c) := by
  have hread : (technologyCase plainConversions soloExtension soloPolicy 0).toOption.isSome := by
    decide +kernel
  cases h : technologyCase plainConversions soloExtension soloPolicy 0 with
  | error e =>
    rw [h] at hread
    cases hread
  | ok c => exact ⟨c, rfl, (technologyCase_ladder h).2.1⟩

end StageForge
