import StageForge.Show.Handoff

/-!
# Evaluating a handoff

`evaluate_handoff` of `backend/handoff.py`: whether a standby may take over authority, and whether it
can take over the program.
-/

namespace StageForge

open Python

/-- The conversions of Python, and its digits. -/
structure HandoffSetup where
  conversions : Conversions
  /-- `c.isdigit()`. -/
  isDigit : Char → Bool

structure HandoffFacts where
  role : String
  replicaAgeMs : Option ℤ
  sourceProgramCursorNs : ℤ
  handoffTargetShowNs : ℤ
  localShowNs : Option ℤ
  activeLiveInputSlots : List ℤ
  sourceOutputsActive : Bool
  transportRunning : Bool
  deriving DecidableEq

/-! ## Reports -/

namespace HandoffSetup

variable (S : HandoffSetup)

def reports (execution : Value) (key : String) : Except Error (List Entries) := do
  let items ← ((Entries.get execution.entries key .none).orElse (.list [])).iterate
  return (items.filter Value.isDict).map Value.entries

def shadowReports (execution : Value) : Except Error (List (String × Entries)) := do
  return (← reports execution "shadowSources").map fun item =>
    (S.conversions.str (Entries.get item "sourceId" (.str "")), item)

/-- `str(value).lstrip("-").isdigit()`. -/
def digits (value : Value) : Bool :=
  let rest := (S.conversions.str value).toList.dropWhile fun c => c = '-'
  !rest.isEmpty && rest.all S.isDigit

def liveReports (execution : Value) : Except Error (List (ℤ × Entries)) := do
  let items ← reports execution "liveInputs"
  (items.filter fun item => S.digits (Entries.get item "slot" (.str ""))).mapM fun item => do
    return (← S.conversions.int (Entries.get item "slot" (.int (-1))), item)

/-- `reports.get(key) or {}`, where the last report with the key counts. -/
def reportFor {κ : Type} [DecidableEq κ] (reports : List (κ × Entries)) (key : κ) : Entries :=
  ((reports.reverse.find? fun report => report.1 = key).map Prod.snd).getD []

/-- `int(report.get("ageMs", fresh_ms + 1)) <= fresh_ms`. -/
def fresh (freshMs : ℤ) (report : Entries) : Except Error Bool := do
  return decide ((← S.conversions.int (Entries.get report "ageMs" (.int (freshMs + 1)))) ≤ freshMs)

/-- The report says that what it reports is executed, and healthy. -/
def executed (report : Entries) : Bool :=
  (Entries.get report "healthy" .none).truthy && (Entries.get report "executionVerified" .none).truthy

end HandoffSetup

/-! ## Live inputs -/

/-- What is decided about an active slot. -/
structure LiveStatus where
  slot : Fin 4
  config : LiveInput
  duplicatedReady : Bool
  executionReady : Bool
  executionAgeMs : Value
  executionVerified : Bool
  observedFrames : Value
  sequence : Value
  discontinuities : Value
  deriving DecidableEq

def LiveInput.duplicated (config : LiveInput) : Bool := config.ready && decide (config.mode ≠ .none)

namespace HandoffSetup

variable (S : HandoffSetup)

/-- Whether the feed of a slot runs on the standby. -/
def liveExecutionReady (freshMs : ℤ) (config : LiveInput) (report : Entries) : Except Error Bool :=
  if config.duplicated && executed report then do
    return (← S.fresh freshMs report) &&
      decide (S.conversions.str (Entries.get report "sourceId" (.str "")) = config.sourceId)
  else return false

def liveStatus (freshMs : ℤ) (slot : Fin 4) (config : LiveInput) (report : Entries) :
    Except Error LiveStatus := do
  return {
    slot := slot
    config := config
    duplicatedReady := config.duplicated
    executionReady := ← S.liveExecutionReady freshMs config report
    executionAgeMs := Entries.get report "ageMs" .none
    executionVerified := (Entries.get report "executionVerified" .none).truthy
    observedFrames := Entries.get report "observedFrames" .none
    sequence := Entries.get report "sequence" .none
    discontinuities := Entries.get report "discontinuities" .none }

/-- `active_slots`: the slots among the numbers, in order. -/
def activeSlots (facts : HandoffFacts) : List (Fin 4) :=
  (List.finRange 4).filter fun slot => decide ((slot.val : ℤ) ∈ facts.activeLiveInputSlots)

end HandoffSetup

/-! ## Deterministic sources -/

/-- What is decided about a required source. -/
structure SourceStatus where
  source : DeterministicSource
  shadowRenderReady : Bool
  executionReady : Bool
  executionAgeMs : Value
  bufferedUntilShowNs : Value
  executionVerified : Bool
  renderedFrames : Value
  discontinuities : Value
  deriving DecidableEq

/-- The source can be rendered in the shadow, by declaration. -/
def DeterministicSource.declared (source : DeterministicSource) : Bool :=
  source.shadowCapable && source.localAssetReady

namespace HandoffSetup

variable (S : HandoffSetup)

def prebufferNs (policy : HandoffPolicy) : ℤ := ⌊policy.requiredPrebufferMs.val * 1000000⌋

/-- No hash is declared, or the report has the one that is. -/
def hashOk (source : DeterministicSource) (report : Entries) : Bool :=
  decide (source.contentHash = "") ||
    decide (S.conversions.str (Entries.get report "contentHash" (.str "")) = source.contentHash)

/-- Whether the shadow of a source is rendered far enough. -/
def sourceExecutionReady (facts : HandoffFacts) (policy : HandoffPolicy)
    (source : DeterministicSource) (report : Entries) : Except Error Bool := do
  let fresh ← S.fresh policy.executionStatusFreshMs report
  if source.declared && executed report && fresh && S.hashOk source report then
    return decide (facts.handoffTargetShowNs + prebufferNs policy ≤
      (← S.conversions.int (Entries.get report "bufferedUntilShowNs" (.int 0))))
  else return false

def sourceStatus (facts : HandoffFacts) (policy : HandoffPolicy) (source : DeterministicSource)
    (report : Entries) : Except Error SourceStatus := do
  return {
    source := source
    shadowRenderReady := source.declared
    executionReady := ← S.sourceExecutionReady facts policy source report
    executionAgeMs := Entries.get report "ageMs" .none
    bufferedUntilShowNs := Entries.get report "bufferedUntilShowNs" .none
    executionVerified := (Entries.get report "executionVerified" .none).truthy
    renderedFrames := Entries.get report "renderedFrames" .none
    discontinuities := Entries.get report "discontinuities" .none }

end HandoffSetup

/-! ## The decision -/

inductive HandoffMode
  | liveInputStateWarm
  | deterministicPrebufferEligible
  | stateWarm
  deriving DecidableEq

inductive HandoffAction
  | waitForAuthorityReadiness
  | programTakeoverReadyLiveFeeds
  | programTakeoverReady
  | authorityTransferReady
  | authorityTransferReadyLiveFeeds
  | startShadowPrebuffer
  | authorityTransferOnly
  | hold
  deriving DecidableEq

structure HandoffDecision where
  mode : HandoffMode
  policy : HandoffPolicy
  authorityReady : Bool
  programLogicReady : Bool
  executionReady : Bool
  readyForAuthorityTransfer : Bool
  readyForProgramTakeover : Bool
  deterministicPrebufferEligible : Bool
  shadowRenderReady : Bool
  prebufferReady : Bool
  recommendedAction : HandoffAction
  authorityBlockers : List String
  programBlockers : List String
  reasons : List String
  liveInputs : List LiveStatus
  missingLiveInputSlots : List (Fin 4)
  missingLiveInputExecutionSlots : List (Fin 4)
  deterministicSources : List SourceStatus
  unreadyDeterministicSourceIds : List String
  unreadyDeterministicExecutionSourceIds : List String
  localLagMs : Option ℚ
  deriving DecidableEq

namespace HandoffFacts

variable (facts : HandoffFacts) (policy : HandoffPolicy)

/-- `local_lag_ms`: none if the clock of the standby or the target is not known. -/
def localLagMs : Option ℚ := if 0 < facts.handoffTargetShowNs then
    facts.localShowNs.map fun (shown : ℤ) =>
      ((facts.handoffTargetShowNs - shown : ℤ) : ℚ) / 1000000
  else none

def authorityBlockers : List String :=
  (if facts.role ≠ "standby" then ["node is not standby"] else []) ++ match facts.replicaAgeMs with
    | none => ["no replica heartbeat received"]
    | some age =>
      if policy.maxReplicaAgeMs ≤ age then
        ["replica heartbeat exceeds handoff policy age"]
      else []

def clockBlockers : List String :=
  (if facts.sourceOutputsActive = true ∧ policy.requireProgramCursor = true ∧
      facts.sourceProgramCursorNs ≤ 0 then
    ["source program cursor is unavailable"] else []) ++
  (if ∃ lag ∈ facts.localLagMs, policy.maxLocalLagMs < lag then
    ["standby show clock trails handoff target beyond policy"] else [])

/-- The mode, where there are active slots or not. -/
def mode (slots : List (Fin 4)) : HandoffMode := if slots ≠ [] then .liveInputStateWarm
  else if facts.sourceOutputsActive = true ∧ facts.transportRunning = true then
    .deterministicPrebufferEligible
  else .stateWarm

end HandoffFacts

def modeBlockers (policy : HandoffPolicy) (missingLive : List (Fin 4))
    (required : List DeterministicSource) (unready : List String) : HandoffMode → List String
  | .liveInputStateWarm =>
    if policy.requireDuplicatedLiveInputs = true ∧ missingLive ≠ [] then
      ["active live inputs lack duplicated standby feeds"] else []
  | .deterministicPrebufferEligible =>
    (if policy.requireDeclaredDeterministicSources = true ∧ required = [] then
      ["deterministic program sources are not declared"] else []) ++
    (if unready ≠ [] then ["deterministic sources are not shadow-render ready"] else [])
  | .stateWarm => []

def modeExecuted (missingLiveExecution : List (Fin 4)) (required : List DeterministicSource)
    (unreadyExecution : List String) : HandoffMode → Bool
  | .liveInputStateWarm => decide (missingLiveExecution = [])
  | .deterministicPrebufferEligible => decide (required ≠ []) && decide (unreadyExecution = [])
  | .stateWarm => true

def recommendedAction (mode : HandoffMode) (authority logic execution transfer : Bool) :
    HandoffAction :=
  if authority = false then .waitForAuthorityReadiness
  else if execution = true ∧ mode = .liveInputStateWarm then .programTakeoverReadyLiveFeeds
  else if execution = true ∧ mode = .deterministicPrebufferEligible then .programTakeoverReady
  else if logic = true then
    match mode with
    | .stateWarm => .authorityTransferReady
    | .liveInputStateWarm => .authorityTransferReadyLiveFeeds
    | .deterministicPrebufferEligible => .startShadowPrebuffer
  else if transfer = true then .authorityTransferOnly
  else .hold

namespace HandoffSetup

/-- The last lines of `evaluate_handoff`, which no report enters any more. -/
def decision (facts : HandoffFacts) (policy : HandoffPolicy) (live : List LiveStatus)
    (required : List DeterministicSource) (sources : List SourceStatus) : HandoffDecision :=
  let missingLive := (live.filter fun status => status.duplicatedReady = false).map LiveStatus.slot
  let missingLiveExecution :=
    (live.filter fun status => status.executionReady = false).map LiveStatus.slot
  let unready := (sources.filter fun status => status.shadowRenderReady = false).map fun status =>
    status.source.id
  let unreadyExecution := (sources.filter fun status => status.executionReady = false).map
    fun status => status.source.id
  let mode := facts.mode (live.map LiveStatus.slot)
  let authorityBlockers := facts.authorityBlockers policy
  let programBlockers :=
    facts.clockBlockers policy ++ modeBlockers policy missingLive required unready mode
  let authority := authorityBlockers.isEmpty
  let logic := programBlockers.isEmpty
  let execution := logic && modeExecuted missingLiveExecution required unreadyExecution mode
  let transfer := authority && (policy.allowAuthorityTransferWhenProgramNotReady || logic)
  { mode := mode
    policy := policy
    authorityReady := authority
    programLogicReady := logic
    executionReady := execution
    readyForAuthorityTransfer := transfer
    readyForProgramTakeover := authority && execution
    deterministicPrebufferEligible := mode == .deterministicPrebufferEligible
    shadowRenderReady :=
      (mode == .deterministicPrebufferEligible) && !required.isEmpty && unready.isEmpty
    prebufferReady := (mode == .deterministicPrebufferEligible) && execution
    recommendedAction := recommendedAction mode authority logic execution transfer
    authorityBlockers := authorityBlockers
    programBlockers := programBlockers
    reasons := authorityBlockers ++ programBlockers
    liveInputs := live
    missingLiveInputSlots := missingLive
    missingLiveInputExecutionSlots := missingLiveExecution
    deterministicSources := sources
    unreadyDeterministicSourceIds := unready
    unreadyDeterministicExecutionSourceIds := unreadyExecution
    localLagMs := facts.localLagMs.map fun lag => Python.round lag 3 }

def evaluateHandoff (S : HandoffSetup) (facts : HandoffFacts)
    (policy liveInputs deterministicSources execution : Value) : Except Error HandoffDecision := do
  let policy ← normalizePolicy S.conversions policy
  let inputs ← normalizeLiveInputs S.conversions liveInputs
  let required := (normalizeDeterministicSources S.conversions deterministicSources).filter
    DeterministicSource.required
  let shadowReports ← S.shadowReports execution
  let liveReports ← S.liveReports execution
  let live ← (activeSlots facts).mapM fun slot =>
    S.liveStatus policy.executionStatusFreshMs slot (inputs slot)
      (reportFor liveReports (slot.val : ℤ))
  let sources ← required.mapM fun source =>
    S.sourceStatus facts policy source (reportFor shadowReports source.id)
  return decision facts policy live required sources

end HandoffSetup

end StageForge
