import Mathlib.Data.String.Basic
import StageForge.Library.Table
import StageForge.Show.Technology

/-!
# The venue adaptation manager

`VenueAdaptationManager` of `backend/adaptation.py`. A plan for a venue is proposed as a transaction,
validated against the plan and the requirements as they are then, committed at once, at the next bar
or at a cue, and rolled back. The layer that a commit makes active carries the mappings of its
transaction and a number, which is that of the layer before it plus 1.
-/

namespace StageForge

open Python

/-- The conversions and fingerprints of Python. -/
structure AdaptationSetup where
  conversions : Conversions
  /-- `fingerprint`. -/
  fingerprint : Value → String

/-! ## Records -/

inductive AdaptationStatus
  | proposed
  | validated
  | pendingCommit
  | committed
  | rolledBack
  deriving DecidableEq

inductive CommitMode
  | immediate
  | nextBar
  | cue
  deriving DecidableEq

structure CommitRequest where
  mode : CommitMode
  requestedBy : String
  requestedShowSeconds : Number
  targetShowSeconds : Option ℚ := none
  cueId : Option String := none
  deriving DecidableEq

inductive CommitBoundary
  | immediate
  | bar (targetShowSeconds : Option ℚ) (actualShowSeconds : Number)
  | cue (cueId : String) (sequence : ℕ)
  deriving DecidableEq

structure PatchLayer where
  patchRevision : ℤ
  transactionId : String
  venueId : String
  venueName : String
  activatedAt : String
  activatedShowSeconds : Number
  grade : String
  mappings : Entries
  departments : Value
  discoveryMode : String
  deriving DecidableEq

structure AdaptationValidation where
  valid : Bool
  blockers : List Value
  deriving DecidableEq

structure AdaptationReceipt where
  approvedBy : List String
  transactionId : String
  venueId : String
  boundary : CommitBoundary
  previousPatchRevision : Option ℤ
  newPatchRevision : ℤ
  committedAt : String
  deriving DecidableEq

inductive AdaptationRollback
  | cancelled (requestedBy : String) (showSeconds : Number)
  | restored (requestedBy : String) (showSeconds : Number) (transactionId venueName : Option String)
  deriving DecidableEq

structure AdaptationTransaction where
  transactionId : String
  status : AdaptationStatus := .proposed
  minimumReaderSchemaVersion : ℤ := 1
  venueId : String
  venueName : String
  discoveryMode : String
  requirementsHash : String
  planHash : String
  grade : String
  mappings : Entries
  departments : Value
  validation : AdaptationValidation
  commit : Option CommitRequest := none
  commitBoundary : Option CommitBoundary := none
  receipt : Option AdaptationReceipt := none
  rollback : Option AdaptationRollback := none
  previousShowVenue : Option String
  previousActiveTransactionId : Option String
  previousActive : Option PatchLayer := none
  deriving DecidableEq

structure LastCue where
  cueId : String
  sequence : ℕ
  showSeconds : Number
  triggeredAt : String
  deriving DecidableEq

structure VenueAdaptationManager where
  revision : ℤ := 1
  active : Option PatchLayer := none
  transactions : Table AdaptationTransaction.transactionId := Table.empty
  cueSequence : ℕ := 0
  lastCue : Option LastCue := none
  deriving DecidableEq

/-! ## Proposals -/

namespace AdaptationSetup

variable (S : AdaptationSetup)

/-- `d.get(key)`. -/
def field (d : Entries) (key : String) : Value := (d.lookup key).getD .none

def objectField (d : Entries) (key : String) : Option Entries := match d.lookup key with
  | some (.dict entries) => some entries
  | _ => none

/-- `by_req`: the requirements under their ids, the last of several with one id. -/
def requirementsById (requirements : List Value) : Except Error Entries :=
  requirements.foldlM (fun byId item => do
    let id ← item.get "id" .none
    return setItem (S.conversions.str id) item byId) []

/-- What an entry of the device plan maps, and to what; none if it has no provider and no patch. -/
def proposedMapping (byId item : Entries) : Except Error (Option (String × Value)) := do
  let requirementId := S.conversions.str ((item.lookup "id").getD (.str ""))
  let requirement := (byId.lookup requirementId).getD (.dict [])
  let decision := (objectField item "decision").getD []
  let provider := objectField item "provider"
  let patch := (objectField item "patch").filter fun patch => patch ≠ []
  let patchKey := S.conversions.str ((← requirement.get "patchKey" .none).orElse (.str requirementId))
  let qualityScore ← S.conversions.int
    (((decision.lookup "qualityScore").getD (.int 0)).orElse (.int 0))
  let proposed : Entries :=
    [("patchKey", .str patchKey), ("target", (patch.map fun patch => field patch "target").getD .none),
      ("patch", (patch.map Value.dict).getD .none), ("provider", (provider.map Value.dict).getD .none),
      ("capability", (field decision "capability").orElse (field decision "preferred")),
      ("resolution", .str (S.conversions.str ((decision.lookup "status").getD (.str "blocked")))),
      ("quality", field decision "quality"), ("qualityScore", .int qualityScore),
      ("timing", (field item "timing").orElse (.dict []))]
  return if (provider.filter fun provider => provider ≠ []).isSome ∨ patch.isSome then
    some (patchKey, .dict proposed)
  else none

/-- The mappings of `_transaction_changes`. -/
def transactionMappings (plan : Entries) (requirements : List Value) : Except Error Entries := do
  let byId ← S.requirementsById requirements
  let items ← ((plan.lookup "devicePlan").getD (.list [])).iterate
  items.foldlM (fun mappings item =>
    match item with
    | .dict item => do
      match ← S.proposedMapping byId item with
      | some (key, mapping) => return setItem key mapping mappings
      | none => return mappings
    | _ => return mappings) []

def requirementsFingerprint (requirements : List Value) : String :=
  S.fingerprint (.list requirements)

def planFingerprint (plan : Entries) : String := S.fingerprint (.dict
    (["venue", "grade", "readiness", "devicePlan", "blockers", "unmappedRequired",
      "discoveryWarnings"].map fun key => (key, field plan key)))

/-- `plan.get(key) or []`, which is gone through. -/
def planItems (plan : Entries) (key : String) : Except Error (List Value) :=
  ((field plan key).orElse (.list [])).iterate

/-- The requirements without a patch, as blockers. -/
def unmappedBlockers (plan : Entries) : Except Error (List Value) := do
  return (← planItems plan "unmappedRequired").map fun item =>
    .str ("required venue patch unresolved: " ++ S.conversions.str item)

def buildTransaction (id : String) (plan : Entries) (requirements : List Value)
    (useLocalDiscovery : Bool) (previousShowVenue previousActiveTransactionId : Option String) :
    Except Error AdaptationTransaction := do
  let venue := (objectField plan "venue").getD []
  let mappings ← S.transactionMappings plan requirements
  let blockers := (← planItems plan "blockers") ++ (← S.unmappedBlockers plan)
  return {
    transactionId := id
    venueId := S.conversions.str ((venue.lookup "id").getD (.str "venue"))
    venueName := S.conversions.str
      (((field venue "name").orElse (field venue "id")).orElse (.str "Venue"))
    discoveryMode := if useLocalDiscovery then "live" else "profile"
    requirementsHash := S.requirementsFingerprint requirements
    planHash := S.planFingerprint plan
    grade := S.conversions.str ((plan.lookup "grade").getD (.str "blocked"))
    mappings := mappings
    departments := (field plan "departments").orElse (.list [])
    validation := { valid := false, blockers := blockers }
    previousShowVenue := previousShowVenue
    previousActiveTransactionId := previousActiveTransactionId }

end AdaptationSetup

/-! ## The manager -/

/-- `round(x, 6)`. -/
def roundSeconds : Number → Number
  | .finite q => .finite (Python.round q 6)
  | x => x

/-- The start of the next bar, in seconds of the show. -/
def nextBar (showSeconds bpm : Number) : Except Error ℚ :=
  match Number.atLeast 1 bpm, Number.atLeast 0 showSeconds with
  | .finite bpm, .finite current =>
    let bar := 60 / bpm * 4
    let target := ⌊current / bar + 1⌋ * bar
    .ok (Python.round (if target ≤ current + 1 / 10 ^ 9 then target + bar else target) 9)
  | .finite _, _ => .error .overflowError
  | _, _ => .error .zeroDivisionError

def assertReaderSafe (tx : AdaptationTransaction) : Except Error Unit :=
  if 1 < max 1 tx.minimumReaderSchemaVersion then
    .error (.valueError ("venue adaptation document requires schema reader " ++
      toString (max 1 tx.minimumReaderSchemaVersion) ++ ", this core supports 1"))
  else .ok ()

namespace VenueAdaptationManager

variable (S : AdaptationSetup) (m : VenueAdaptationManager)

def checkRevision (expected : Option ℤ) : Except Error Unit := match expected with
  | none => .ok ()
  | some expected =>
    if expected ≠ m.revision then
      .error (.runtimeError ("venue adaptation revision conflict: expected " ++
        toString expected ++ ", current " ++ toString m.revision))
    else .ok ()

def touch : VenueAdaptationManager := { m with revision := m.revision + 1 }

def store (tx : AdaptationTransaction) : VenueAdaptationManager :=
  { m with transactions := m.transactions.put tx }

/-- The checks that each operation on a transaction begins with. -/
def access (id : String) (expected : Option ℤ) : Except Error AdaptationTransaction := do
  m.checkRevision expected
  match m.transactions.find? id with
  | none => .error (.keyError id)
  | some tx =>
    assertReaderSafe tx
    return tx

/-- `propose`, with the id that is drawn. -/
def propose (id : String) (plan : Entries) (requirements : List Value) (useLocalDiscovery : Bool)
    (showVenue : String) (expected : Option ℤ) :
    VenueAdaptationManager × Except Error AdaptationTransaction :=
  let venue := clip 160 (strip showVenue)
  match S.buildTransaction id plan requirements useLocalDiscovery
      (if venue = "" then none else some venue) (m.active.map PatchLayer.transactionId) with
  | .error e => (m, .error e)
  | .ok tx =>
    match m.checkRevision expected with
    | .error e => (m, .error e)
    | .ok () => ((m.store tx).touch, .ok tx)

/-- The blockers that `validate` finds. -/
def findBlockers (tx : AdaptationTransaction) (plan : Entries) (requirements : List Value) :
    Except Error (List Value) := do
  let own := (← AdaptationSetup.planItems plan "blockers").map fun item =>
    Value.str (S.conversions.str item)
  let unmapped ← S.unmappedBlockers plan
  return (match tx.status with
      | .committed => [.str "transaction already committed"]
      | .rolledBack => [.str "transaction already rolled-back"]
      | _ => []) ++
    (if S.requirementsFingerprint requirements ≠ tx.requirementsHash then
      [.str "show requirements changed since proposal"] else []) ++
    (if S.planFingerprint plan ≠ tx.planHash then
      [.str "venue compatibility plan changed since proposal"] else []) ++
    own ++ unmapped

/-- `sorted(set(texts))`. -/
def sortedTexts (texts : List Value) : List Value := ((texts.filterMap fun
      | .str text => some text
      | _ => none).dedup.insertionSort (· ≤ ·)).map Value.str

def validate (id : String) (plan : Entries) (requirements : List Value) (expected : Option ℤ) :
    VenueAdaptationManager × Except Error AdaptationTransaction :=
  match m.access id expected with
  | .error e => (m, .error e)
  | .ok tx =>
    match findBlockers S tx plan requirements with
    | .error e => (m, .error e)
    | .ok blockers =>
      let valid := decide (blockers = []) && (AdaptationSetup.field plan "compatible").truthy &&
        decide (AdaptationSetup.field plan "readiness" = .str "ready")
      let tx' : AdaptationTransaction := { tx with
          validation := { valid := valid, blockers := sortedTexts blockers }
          status := if valid then .validated else .proposed }
      ((m.store tx').touch, .ok tx')

def nextLayer (tx : AdaptationTransaction) (showSeconds : Number) (now : String) : PatchLayer where
  patchRevision := (m.active.map PatchLayer.patchRevision).getD 0 + 1
  transactionId := tx.transactionId
  venueId := tx.venueId
  venueName := tx.venueName
  activatedAt := now
  activatedShowSeconds := roundSeconds showSeconds
  grade := tx.grade
  mappings := tx.mappings
  departments := tx.departments
  discoveryMode := tx.discoveryMode

def committedTransaction (tx : AdaptationTransaction) (boundary : CommitBoundary) (now : String) :
    AdaptationTransaction :=
  let requestedBy := (tx.commit.map CommitRequest.requestedBy).getD ""
  { tx with
    status := .committed
    commitBoundary := some boundary
    previousActive := m.active
    receipt := some
      { approvedBy := if requestedBy = "" then [] else [requestedBy]
        transactionId := tx.transactionId
        venueId := tx.venueId
        boundary := boundary
        previousPatchRevision := m.active.map PatchLayer.patchRevision
        newPatchRevision := (m.active.map PatchLayer.patchRevision).getD 0 + 1
        committedAt := now } }

/-- `_commit_locked`: the layer of the transaction becomes active. -/
def commitLocked (tx : AdaptationTransaction) (showSeconds : Number) (boundary : CommitBoundary)
    (now : String) : VenueAdaptationManager × AdaptationTransaction :=
  let tx' := m.committedTransaction tx boundary now
  (({ m with active := some (m.nextLayer tx showSeconds now) }.store tx').touch, tx')

/-- `str(mode or 'immediate').strip().lower()`. -/
def readMode (mode : String) : Except Error CommitMode :=
  match lower (strip (if mode = "" then "immediate" else mode)) with
  | "immediate" => .ok .immediate
  | "next-bar" => .ok .nextBar
  | "cue" => .ok .cue
  | _ => .error (.valueError "commit mode must be immediate, next-bar, or cue")

/-- Another transaction that waits for its commit. -/
def pendingOther (id : String) : Option AdaptationTransaction :=
  m.transactions.rows.find? fun tx => tx.status = .pendingCommit ∧ tx.transactionId ≠ id

/-- What is asked of `schedule_commit`. -/
structure ScheduleArguments where
  id : String
  mode : String
  showSeconds : Number
  bpm : Number
  cueId : String
  requestedBy : String
  expected : Option ℤ

/-- The request that `schedule_commit` stores. -/
def buildRequest (mode : CommitMode) (a : ScheduleArguments) : Except Error CommitRequest := do
  let request : CommitRequest :=
    { mode := mode, requestedBy := clip 128 a.requestedBy, requestedShowSeconds := a.showSeconds }
  match mode with
  | .immediate => return request
  | .nextBar => return { request with targetShowSeconds := some (← nextBar a.showSeconds a.bpm) }
  | .cue =>
    let cue := clip 128 (strip a.cueId)
    if cue = "" then .error (.valueError "cue commit requires cueId")
    else return { request with cueId := some cue }

/-- The checks of `schedule_commit`, with the transaction and the request; no request if the
transaction is committed. -/
def admitCommit (a : ScheduleArguments) :
    Except Error (AdaptationTransaction × Option CommitRequest) := do
  let mode ← readMode a.mode
  let tx ← m.access a.id a.expected
  if tx.validation.valid = false then
    .error (.valueError "transaction must validate before commit")
  else if tx.status = .committed then
    return (tx, none)
  else
    match m.pendingOther a.id with
    | some other =>
      .error (.valueError ("another venue adaptation commit is already pending: " ++
        other.transactionId))
    | none => return (tx, some (← buildRequest mode a))

def scheduleCommit (a : ScheduleArguments) (now : String) :
    VenueAdaptationManager × Except Error AdaptationTransaction :=
  match m.admitCommit a with
  | .error e => (m, .error e)
  | .ok (tx, none) => (m, .ok tx)
  | .ok (tx, some request) =>
    let tx' : AdaptationTransaction := { tx with
        commit := some request
        status := if request.mode = .immediate then .validated else .pendingCommit }
    let m' := (m.store tx').touch
    if request.mode = .immediate then
      let result := m'.commitLocked tx' a.showSeconds .immediate now
      (result.1, .ok result.2)
    else (m', .ok tx')

def commitAll (boundary : AdaptationTransaction → CommitBoundary) (showSeconds : Number)
    (now : String) : List AdaptationTransaction → VenueAdaptationManager →
      VenueAdaptationManager × List AdaptationTransaction
  | [], m => (m, [])
  | tx :: due, m =>
    let result := m.commitLocked tx showSeconds (boundary tx) now
    let rest := commitAll boundary showSeconds now due result.1
    (rest.1, result.2 :: rest.2)

/-- `q <= x` of floats. -/
def reached (q : ℚ) : Number → Bool
  | .finite x => q ≤ x
  | .inf => true
  | _ => false

/-- The bar at which the transaction is to be committed; one at second 0 is none. -/
def barTarget (tx : AdaptationTransaction) : Option ℚ :=
  (tx.commit.bind CommitRequest.targetShowSeconds).filter fun target => target ≠ 0

def BarReached (showSeconds : Number) (tx : AdaptationTransaction) : Prop := match barTarget tx with
  | some target => reached target showSeconds = true
  | none => showSeconds = .inf

instance (showSeconds : Number) (tx : AdaptationTransaction) :
    Decidable (BarReached showSeconds tx) := by
  unfold BarReached
  split <;> infer_instance

/-- The transactions that wait for a bar which has begun. -/
def dueAtBar (showSeconds : Number) : List AdaptationTransaction :=
  (m.transactions.rows.filter fun tx =>
    tx.status = .pendingCommit ∧ tx.commit.map CommitRequest.mode = some .nextBar ∧
      BarReached showSeconds tx).insertionSort
    fun tx tx' => (barTarget tx).getD 0 ≤ (barTarget tx').getD 0

def tick (showSeconds : Number) (now : String) :
    VenueAdaptationManager × List AdaptationTransaction :=
  commitAll (fun tx => .bar (tx.commit.bind CommitRequest.targetShowSeconds)
    (roundSeconds showSeconds)) showSeconds now (m.dueAtBar showSeconds) m

def dueAtCue (cueId : String) : List AdaptationTransaction := m.transactions.rows.filter fun tx =>
    tx.status = .pendingCommit ∧ tx.commit.map CommitRequest.mode = some .cue ∧
      tx.commit.bind CommitRequest.cueId = some cueId

def triggerCue (cueId : String) (showSeconds : Number) (expected : Option ℤ) (now : String) :
    VenueAdaptationManager × Except Error (List AdaptationTransaction) :=
  let cueId := clip 128 (strip cueId)
  if cueId = "" then (m, .error (.valueError "cueId required"))
  else
    match m.checkRevision expected with
    | .error e => (m, .error e)
    | .ok () =>
      let sequence := m.cueSequence + 1
      let m' : VenueAdaptationManager :=
        { m with
          cueSequence := sequence
          lastCue := some
            { cueId := cueId
              sequence := sequence
              showSeconds := roundSeconds showSeconds
              triggeredAt := now } }
      match m'.dueAtCue cueId with
      | [] => (m'.touch, .ok [])
      | due =>
        let result := commitAll (fun _ => .cue cueId sequence) showSeconds now due m'
        (result.1, .ok result.2)

def rollback (id : String) (showSeconds : Number) (requestedBy : String) (expected : Option ℤ) :
    VenueAdaptationManager × Except Error AdaptationTransaction :=
  match m.access id expected with
  | .error e => (m, .error e)
  | .ok tx =>
    if tx.status = .pendingCommit then
      let tx' : AdaptationTransaction := { tx with
          status := .rolledBack
          rollback := some (.cancelled (clip 128 requestedBy) (roundSeconds showSeconds)) }
      ((m.store tx').touch, .ok tx')
    else if tx.status ≠ .committed then
      (m, .error (.valueError "only committed or pending transactions can be rolled back"))
    else if m.active.map PatchLayer.transactionId ≠ some id then
      (m, .error (.valueError "transaction is not the currently active venue patch layer"))
    else
      let venueName := (tx.previousActive.map PatchLayer.venueName).filter fun name => name ≠ ""
      let tx' : AdaptationTransaction := { tx with
          status := .rolledBack
          rollback := some (.restored (clip 128 requestedBy) (roundSeconds showSeconds)
            (tx.previousActive.map PatchLayer.transactionId)
            (venueName.or tx.previousShowVenue)) }
      (({ m with active := tx.previousActive }.store tx').touch, .ok tx')

end VenueAdaptationManager

end StageForge
