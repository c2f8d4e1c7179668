import Mathlib.Data.List.Sort
import StageForge.Library.PythonValue

/-!
# Technology policy and extensions

The normalisers of `backend/technology.py`. Policies, extensions and implementations are objects
that keep the fields this core does not know, so they stay objects here: a known field is set on a
copy of what came in.
-/

namespace StageForge

open Python

abbrev Entries := List (String × Value)

/-- `entries.get(key, fallback)`. -/
def Entries.get (entries : Entries) (key : String) (fallback : Value) : Value :=
  (entries.lookup key).getD fallback

@[simp] lemma Entries.get_cons (entry : String × Value) (entries : Entries) (key : String)
    (fallback : Value) :
    Entries.get (entry :: entries) key fallback =
      if key = entry.1 then entry.2 else Entries.get entries key fallback := by
  unfold Entries.get
  rw [List.lookup_cons]
  by_cases h : key = entry.1
  · simp [h]
  · simp [h, beq_false_of_ne h]

@[simp] lemma Entries.get_nil (key : String) (fallback : Value) :
    Entries.get [] key fallback = fallback := rfl

lemma Entries.get_setItem (entries : Entries) (key k : String) (v fallback : Value) :
    Entries.get (setItem key v entries) k fallback = if k = key then v else entries.get k fallback := by
  unfold Entries.get
  rw [lookup_setItem]
  split_ifs <;> rfl

/-- The object that a value is; another value has no `get`. -/
def objectOf : Value → Except Error Entries
  | .dict entries => .ok entries
  | _ => .error .attributeError

/-- `dict(value)`: of an object, or of pairs. A pair whose key is no text has no place in a document. -/
def dictCopy : Value → Except Error Entries
  | .dict entries => .ok entries
  | .list items =>
    items.foldlM (fun entries item => do
      match ← item.iterate with
      | [.str key, value] => .ok (setItem key value entries)
      | [_, _] => .error .typeError
      | _ => .error (.valueError "dictionary update sequence element has a wrong length")) []
  | .str _ => .error (.valueError "dictionary update sequence element has a wrong length")
  | _ => .error .typeError

/-! ## Policy -/

/-- The switches of the policy, all of them on by default. -/
def technologySwitches : List String :=
  ["preserveUnknownCapabilities", "allowUnregisteredExperimentalNamespaces",
    "allowNoAiParticipant", "requirePublicSpecForCandidate", "requireConformanceForStandard",
    "requireInteropForStandard", "requireFallbackForStandard",
    "requireUnknownPreservationForStandard", "forbidMandatoryVendorDependency",
    "forbidMandatoryCloudDependency", "forbidMandatoryAiDependency", "scaleSafeguards"]

/-- The counts of the policy, with their defaults. -/
def technologyCounts : List (String × Int) :=
  [("emergingStandardGroups", 2), ("emergingCoreGroups", 3), ("growingStandardGroups", 3),
    ("growingCoreGroups", 4), ("largeStandardGroups", 4), ("largeCoreGroups", 5),
    ("infrastructureStandardGroups", 5), ("infrastructureCoreGroups", 7),
    ("maxMandatoryCoreExtensions", 24)]

def defaultTechnologyPolicy : Entries :=
  technologySwitches.map (·, .bool true) ++ technologyCounts.map fun c => (c.1, .int c.2)

variable (C : Conversions)

/-- One switch of the policy: `policy[key] = bool(raw[key])`. -/
def normalizeSwitch (raw policy : Entries) (key : String) : Entries := match raw.lookup key with
  | some value => setItem key (.bool value.truthy) policy
  | none => policy

def normalizeCount (raw policy : Entries) (key : String) : Except Error Entries :=
  match raw.lookup key with
  | some value => do
    let n ← C.int value
    return setItem key (.int (max 1 (min 64 n))) policy
  | none => .ok policy

def normalizeTechnologyPolicy (value : Value) : Except Error Entries := let raw := value.entries
  let policy := technologySwitches.foldl (normalizeSwitch raw) (update defaultTechnologyPolicy raw)
  (technologyCounts.map (·.1)).foldlM (normalizeCount C raw) policy

/-! ## Extensions -/

/-- `_bool`. -/
def optionalBool (value : Value) (fallback : Bool) : Bool :=
  if value = .none then fallback else value.truthy

/-- `_int`. -/
def boundedOr (value : Value) (low high fallback : Int) : Except Error Int :=
  orDefault fallback ((C.int value).map fun n => max low (min high n))

/-- `str(value).strip()[:n]`. -/
def clippedText (n : ℕ) (value : Value) : String := clip n (strip (C.str value))

/-- The entries of a value that should be an object: `{}` for what is none. -/
def objectOr (value : Value) : Entries := value.entries

/-- `sorted({str(x).strip()[:n] for x in values if str(x).strip()})`. -/
def sortedTexts (n : ℕ) (values : List Value) : List String :=
  (((values.filter fun v => strip (C.str v) ≠ "").map (clippedText C n)).dedup).insertionSort (· ≤ ·)

def normalizeImplementation (value : Entries) : Except Error Entries := do
  let id := clippedText C 128 (value.get "id" (.str ""))
  let group := clippedText C 128 (value.get "independentGroup" (value.get "organization" (.str id)))
  let peers ← ((value.get "interopPeers" .none).orElse (.list [])).iterate
  return update value [("id", .str id),
      ("organization", .str (clippedText C 128 (value.get "organization" (.str "")))),
      ("independentGroup", .str (if group = "" then id else group)),
      ("conformancePass", .bool (optionalBool (value.get "conformancePass" .none) false)),
      ("openSource", .bool (optionalBool (value.get "openSource" .none) false)),
      ("interopPeers", .list ((sortedTexts C 128 peers).map .str))]

/-- The implementations of an extension: objects with an id that has not been seen. -/
def normalizeImplementations : List Value → List String → Except Error (List Value)
  | [], _ => .ok []
  | .dict raw :: rest, seen => do
    let implementation ← normalizeImplementation C raw
    let id := C.str (implementation.get "id" (.str ""))
    if id = "" ∨ id ∈ seen then normalizeImplementations rest seen
    else
      let others ← normalizeImplementations rest (id :: seen)
      return .dict implementation :: others
  | _ :: rest, seen => normalizeImplementations rest seen

/-- `MATURITY`. -/
def maturities : List String := ["experimental", "community", "candidate", "standard"]

def normalizeTechnologyExtension (value : Entries) : Except Error Entries := do
  let id := clippedText C 160 (value.get "id" (.str ""))
  if id = "" ∨ '.' ∉ id.toList then
    throw (.valueError "technology extension id must be a namespaced identifier")
  let maturity := lower (strip (C.str (value.get "maturity" (.str "experimental"))))
  if maturity ∉ maturities then
    throw (.valueError ("technology maturity must be one of ('experimental', 'community', " ++
      "'candidate', 'standard')"))
  let dependency := objectOr (value.get "dependencies" .none)
  let implementations ← ((value.get "implementations" .none).orElse (.list [])).iterate
  let implementations ← normalizeImplementations C implementations []
  let switch := fun key => (key, Value.bool (optionalBool (value.get key .none) false))
  let deployments ← boundedOr C (value.get "productionDeployments" .none) 0 1000000 0
  return update value [("id", .str id),
      ("description", .str (clippedText C 512 (value.get "description" (.str "")))),
      ("maturity", .str maturity), switch "requestedCore", switch "mandatoryCore",
      switch "deprecated",
      ("replacementId", .str (clippedText C 160 (value.get "replacementId" (.str "")))),
      switch "migrationBridge",
      ("adoptionRecordRef", .str (clippedText C 256 (value.get "adoptionRecordRef" (.str "")))),
      switch "publicSpec", switch "conformanceTests", switch "interoperabilityEvidence",
      switch "fallbackDefined",
      ("backwardCompatible", .bool (optionalBool (value.get "backwardCompatible" .none) true)),
      switch "unknownPreservationTested", ("productionDeployments", .int deployments),
      ("dependencies", .dict (update dependency
        [("mandatoryVendor", .str (clippedText C 128 (dependency.get "mandatoryVendor" (.str "")))),
          ("cloudRequired", .bool (optionalBool (dependency.get "cloudRequired" .none) false)),
          ("aiRequired", .bool (optionalBool (dependency.get "aiRequired" .none) false))])),
      ("implementations", .list implementations)]

/-- The loop of `normalize_technology_extensions`: objects whose id has not been seen. -/
def normalizeExtensionsFrom : List Value → List String → Except Error (List Entries)
  | [], _ => .ok []
  | .dict raw :: rest, seen => do
    let item ← normalizeTechnologyExtension C raw
    let id := C.str (item.get "id" (.str ""))
    if id ∈ seen then normalizeExtensionsFrom rest seen
    else
      let others ← normalizeExtensionsFrom rest (id :: seen)
      return item :: others
  | _ :: rest, seen => normalizeExtensionsFrom rest seen

def normalizeTechnologyExtensions (values : Value) : Except Error (List Entries) := do
  let values ← (values.orElse (.list [])).iterate
  normalizeExtensionsFrom C values []

end StageForge
