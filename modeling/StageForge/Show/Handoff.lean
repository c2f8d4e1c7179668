import Mathlib.Data.Fintype.Pi
import StageForge.Show.Technology

/-!
# Handoff policy, redundant live inputs and deterministic sources

The normalisers of `backend/handoff.py`. What they return is typed: bounded numbers are values of
their interval, and a mode or kind is one of those the program knows. `toValue` and `toEntries` are
the objects the program keeps.
-/

namespace StageForge

open Python

/-! ## Intervals -/

instance slotNeZero : NeZero (4 : ℕ) := ⟨by decide⟩

lemma le_output : (0 : Int) ≤ 15 := by decide

lemma le_bufferFrames : (16 : Int) ≤ 8192 := by decide

lemma le_participants : (1 : Int) ≤ 1000000 := by decide

lemma le_gain : (0 : ℚ) ≤ 4 := by norm_num

lemma le_percent : (0 : ℚ) ≤ 100 := by norm_num

lemma le_correction : (0 : ℚ) ≤ 10000 := by norm_num

lemma le_ceiling : (-24 : ℚ) ≤ 0 := by norm_num

lemma le_tempo : (30 : ℚ) ≤ 300 := by norm_num

lemma le_sampleRate : (8000 : ℚ) ≤ 768000 := by norm_num

lemma ceiling_mem : (-1 : ℚ) ∈ Set.Icc (-24) 0 := by norm_num

lemma bufferFrames_mem : (256 : Int) ∈ Set.Icc 16 8192 := by decide

lemma universe_mem : (1 : Int) ∈ Set.Icc 1 63984 := by decide

/-! ## Slots -/

/-- `0 <= n < 4`, the slot that `n` is. -/
def slotOf (n : Int) : Option (Fin 4) :=
  if h : 0 ≤ n ∧ n < 4 then some ⟨n.toNat, by omega⟩ else none

/-- The slot an object names; none if it is no integer or out of range. -/
def namedSlot (C : Conversions) (raw : Entries) : Except Error (Option (Fin 4)) :=
  (orDefault (-1) (C.int (raw.get "slot" (.int (-1))))).map slotOf

/-! ## Policy -/

structure HandoffPolicy where
  maxReplicaAgeMs : Set.Icc (100 : Int) 60000
  maxLocalLagMs : Set.Icc (0 : ℚ) 5000
  requiredPrebufferMs : Set.Icc (0 : ℚ) 10000
  executionStatusFreshMs : Set.Icc (100 : Int) 60000
  requireProgramCursor : Bool
  requireDuplicatedLiveInputs : Bool
  requireDeclaredDeterministicSources : Bool
  allowAuthorityTransferWhenProgramNotReady : Bool
  deriving DecidableEq

namespace HandoffPolicy

/-- `DEFAULT_HANDOFF_POLICY`. -/
def default : HandoffPolicy where
  maxReplicaAgeMs := ⟨2500, by decide⟩
  maxLocalLagMs := ⟨20, by norm_num⟩
  requiredPrebufferMs := ⟨250, by norm_num⟩
  executionStatusFreshMs := ⟨2000, by decide⟩
  requireProgramCursor := true
  requireDuplicatedLiveInputs := true
  requireDeclaredDeterministicSources := true
  allowAuthorityTransferWhenProgramNotReady := true

def toEntries (policy : HandoffPolicy) : Entries :=
  [("maxReplicaAgeMs", .int policy.maxReplicaAgeMs),
    ("maxLocalLagMs", .float (.finite policy.maxLocalLagMs)),
    ("requiredPrebufferMs", .float (.finite policy.requiredPrebufferMs)),
    ("executionStatusFreshMs", .int policy.executionStatusFreshMs),
    ("requireProgramCursor", .bool policy.requireProgramCursor),
    ("requireDuplicatedLiveInputs", .bool policy.requireDuplicatedLiveInputs),
    ("requireDeclaredDeterministicSources", .bool policy.requireDeclaredDeterministicSources),
    ("allowAuthorityTransferWhenProgramNotReady",
      .bool policy.allowAuthorityTransferWhenProgramNotReady)]

end HandoffPolicy

variable (C : Conversions)

def normalizePolicy (value : Value) : Except Error HandoffPolicy := do
  let raw : Entries := value.entries
  let field := fun key => raw.get key ((HandoffPolicy.default.toEntries.lookup key).getD .none)
  return {
    maxReplicaAgeMs := ← C.intIn 100 60000 (by decide) (field "maxReplicaAgeMs")
    maxLocalLagMs := ← C.floatIn 0 5000 (by norm_num) (field "maxLocalLagMs")
    requiredPrebufferMs := ← C.floatIn 0 10000 le_correction (field "requiredPrebufferMs")
    executionStatusFreshMs := ← C.intIn 100 60000 (by decide) (field "executionStatusFreshMs")
    requireProgramCursor := (field "requireProgramCursor").truthy
    requireDuplicatedLiveInputs := (field "requireDuplicatedLiveInputs").truthy
    requireDeclaredDeterministicSources := (field "requireDeclaredDeterministicSources").truthy
    allowAuthorityTransferWhenProgramNotReady :=
      (field "allowAuthorityTransferWhenProgramNotReady").truthy }

/-! ## Live inputs -/

/-- `LIVE_REDUNDANCY_MODES`. -/
inductive LiveRedundancy
  | none
  | split
  | network
  deriving DecidableEq

namespace LiveRedundancy

def text : LiveRedundancy → String
  | .none => "none"
  | .split => "split"
  | .network => "network"

/-- The mode a text names, `none` if it names no mode. -/
def ofText (s : String) : LiveRedundancy :=
  if s = "split" then .split else if s = "network" then .network else .none

end LiveRedundancy

structure LiveInput where
  mode : LiveRedundancy
  ready : Bool
  sourceId : String
  latencyMs : Set.Icc (0 : ℚ) 5000
  deriving DecidableEq

def defaultLiveInputRedundancy : Fin 4 → LiveInput := fun _ =>
  { mode := .none, ready := false, sourceId := "", latencyMs := ⟨0, by norm_num⟩ }

def LiveInput.toEntries (slot : Fin 4) (input : LiveInput) : Entries :=
  [("slot", .int slot.val), ("mode", .str input.mode.text), ("ready", .bool input.ready),
    ("sourceId", .str input.sourceId), ("latencyMs", .float (.finite input.latencyMs))]

def liveInputsValue (inputs : Fin 4 → LiveInput) : Value :=
  .list ((List.finRange 4).map fun slot => .dict ((inputs slot).toEntries slot))

def normalizeLiveInput (raw : Entries) : Except Error LiveInput := do
  let mode := LiveRedundancy.ofText (lower (strip (C.str (raw.get "mode" (.str "none")))))
  let sourceId := clippedText C 96 (raw.get "sourceId" (.str ""))
  let latencyMs ← orDefault ⟨0, by norm_num⟩
    (C.floatIn 0 5000 (by norm_num) (raw.get "latencyMs" (.float (.finite 0))))
  let ready := (raw.get "ready" (.bool false)).truthy && decide (mode ≠ .none) &&
    decide (sourceId ≠ "")
  return { mode, ready, sourceId, latencyMs }

/-- One round of the loop of `normalize_live_inputs`. -/
def placeLiveInput (inputs : Fin 4 → LiveInput) : Value → Except Error (Fin 4 → LiveInput)
  | .dict raw => do
    match ← namedSlot C raw with
    | some slot => return Function.update inputs slot (← normalizeLiveInput C raw)
    | none => return inputs
  | _ => .ok inputs

def normalizeLiveInputs : Value → Except Error (Fin 4 → LiveInput)
  | .list items => items.foldlM (placeLiveInput C) defaultLiveInputRedundancy
  | _ => .ok defaultLiveInputRedundancy

/-! ## Deterministic sources -/

/-- `SOURCE_KINDS`. -/
inductive SourceKind
  | track
  | plugin
  | sequence
  | generator
  | other
  deriving DecidableEq

namespace SourceKind

def text : SourceKind → String
  | .track => "track"
  | .plugin => "plugin"
  | .sequence => "sequence"
  | .generator => "generator"
  | .other => "other"

/-- The kind a text names, `other` if it names no kind. -/
def ofText (s : String) : SourceKind := if s = "track" then .track else if s = "plugin" then .plugin
  else if s = "sequence" then .sequence else if s = "generator" then .generator else .other

end SourceKind

/-- A source that a standby can render by itself. -/
structure DeterministicSource where
  id : String
  kind : SourceKind
  required : Bool
  shadowCapable : Bool
  localAssetReady : Bool
  contentHash : String
  deriving DecidableEq

def DeterministicSource.toValue (source : DeterministicSource) : Value :=
  .dict [("id", .str source.id), ("kind", .str source.kind.text),
    ("required", .bool source.required), ("shadowCapable", .bool source.shadowCapable),
    ("localAssetReady", .bool source.localAssetReady), ("contentHash", .str source.contentHash)]

def deterministicSource (raw : Entries) : DeterministicSource where
  id := clippedText C 96 (raw.get "id" (.str ""))
  kind := SourceKind.ofText (lower (strip (C.str (raw.get "kind" (.str "other")))))
  required := (raw.get "required" (.bool true)).truthy
  shadowCapable := (raw.get "shadowCapable" (.bool false)).truthy
  localAssetReady := (raw.get "localAssetReady" (.bool false)).truthy
  contentHash := clippedText C 128 (raw.get "contentHash" (.str ""))

/-- The loop of `normalize_deterministic_sources`: objects whose id has not been seen. -/
def deterministicSourcesFrom : List Value → List String → List DeterministicSource
  | [], _ => []
  | .dict raw :: rest, seen =>
    let source := deterministicSource C raw
    if source.id = "" ∨ source.id ∈ seen then deterministicSourcesFrom rest seen
    else source :: deterministicSourcesFrom rest (source.id :: seen)
  | _ :: rest, seen => deterministicSourcesFrom rest seen

def normalizeDeterministicSources : Value → List DeterministicSource
  | .list items => deterministicSourcesFrom C (items.take 32) []
  | _ => []

/-! ## What the program keeps is normal -/

end StageForge
