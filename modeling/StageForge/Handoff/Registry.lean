import StageForge.Library.Table
import StageForge.Show.Handoff

/-!
# Evidence of execution on a standby

`HandoffExecutionRegistry` of `backend/handoff.py`. What renders a source in the shadow, or feeds a
live input twice, reports so; the registry keeps one piece of evidence for each source and for each
slot, and merges reports of adjacent blocks into it.
-/

namespace StageForge

open Python

/-! ## Reports -/

/-- What is passed to `report_shadow`. -/
structure ShadowReport where
  sourceId : String
  bufferedUntilShowNs : ℤ
  contentHash : String := ""
  healthy : Bool := true
  startShowNs : Option ℤ := none
  renderedFrames : ℤ := 0
  deriving DecidableEq

/-- A stretch of the show that has been rendered. -/
structure ShadowBlock where
  start : ℕ
  bufferedUntil : ℕ
  frames : ℕ
  deriving DecidableEq

namespace ShadowReport

def source (r : ShadowReport) : String := clip 96 (strip r.sourceId)

def hash (r : ShadowReport) : String := clip 128 (strip r.contentHash)

def block (r : ShadowReport) : Option ShadowBlock := (r.startShowNs.map fun start =>
    { start := start.toNat
      bufferedUntil := r.bufferedUntilShowNs.toNat
      frames := r.renderedFrames.toNat : ShadowBlock }).filter fun block =>
        block.start < block.bufferedUntil ∧ 0 < block.frames ∧ r.healthy = true

end ShadowReport

structure ShadowEvidence where
  sourceId : String
  contiguousFromShowNs : Option ℕ
  bufferedUntilShowNs : ℕ
  contentHash : String
  healthy : Bool
  renderedFrames : ℕ
  discontinuities : ℕ
  executionVerified : Bool
  reportedAt : ℚ
  deriving DecidableEq

/-- The block that verified evidence stands for. -/
def ShadowEvidence.block (e : ShadowEvidence) : Option ShadowBlock := if e.executionVerified then
    e.contiguousFromShowNs.map fun start =>
      { start := start, bufferedUntil := e.bufferedUntilShowNs, frames := e.renderedFrames }
  else none

namespace ShadowReport

/-- What is kept of a report that is not merged. -/
def alone (r : ShadowReport) (discontinuities : ℕ) (now : ℚ) : ShadowEvidence where
  sourceId := r.source
  contiguousFromShowNs := r.block.map ShadowBlock.start
  bufferedUntilShowNs := r.bufferedUntilShowNs.toNat
  contentHash := r.hash
  healthy := r.healthy
  renderedFrames := r.renderedFrames.toNat
  discontinuities := discontinuities
  executionVerified := r.block.isSome
  reportedAt := now

def Extends (previous block : ShadowBlock) : Prop := block.start = previous.bufferedUntil

def Within (previous block : ShadowBlock) : Prop :=
  previous.start ≤ block.start ∧ block.bufferedUntil ≤ previous.bufferedUntil

instance (previous block : ShadowBlock) : Decidable (Extends previous block) :=
  inferInstanceAs (Decidable (_ = _))

instance (previous block : ShadowBlock) : Decidable (Within previous block) :=
  inferInstanceAs (Decidable (_ ∧ _))

/-- What is kept after a report, beside what was kept before. -/
def evidence (r : ShadowReport) (previous : Option ShadowEvidence) (now : ℚ) : ShadowEvidence :=
  let discontinuities := (previous.map ShadowEvidence.discontinuities).getD 0
  let kept := r.alone discontinuities now
  match previous.bind ShadowEvidence.block, r.block with
  | some before, some block =>
    if Extends before block then
      { kept with
        contiguousFromShowNs := some before.start
        renderedFrames := block.frames + before.frames }
    else if Within before block then
      { kept with
        contiguousFromShowNs := some before.start
        bufferedUntilShowNs := before.bufferedUntil
        renderedFrames := block.frames + before.frames }
    else
      { kept with discontinuities := discontinuities + 1, executionVerified := false }
  | _, _ => kept

end ShadowReport

/-- What is passed to `report_live`. -/
structure LiveReport where
  slot : ℤ
  sourceId : String
  healthy : Bool := true
  latencyMs : Number := .finite 0
  firstShowNs : Option ℤ := none
  lastShowNs : Option ℤ := none
  frames : ℤ := 0
  sequence : Option ℤ := none
  deriving DecidableEq

/-- A stretch of the show that has been fed. -/
structure LiveBlock where
  first : ℕ
  last : ℕ
  frames : ℕ
  sequence : ℕ
  deriving DecidableEq

namespace LiveReport

def source (r : LiveReport) : String := clip 96 (strip r.sourceId)

def block (r : LiveReport) : Option LiveBlock :=
  match r.firstShowNs, r.lastShowNs, r.sequence with
  | some first, some last, some sequence =>
    if r.healthy = true ∧ first.toNat < last.toNat ∧ 0 < r.frames.toNat then
      some
        { first := first.toNat
          last := last.toNat
          frames := r.frames.toNat
          sequence := sequence.toNat }
    else none
  | _, _, _ => none

end LiveReport

structure LiveEvidence where
  slot : Fin 4
  sourceId : String
  healthy : Bool
  latencyMs : ℚ
  firstShowNs : Option ℕ
  lastShowNs : Option ℕ
  observedFrames : ℕ
  sequence : Option ℕ
  discontinuities : ℕ
  executionVerified : Bool
  reportedAt : ℚ
  deriving DecidableEq

/-- The block that verified evidence stands for. -/
def LiveEvidence.block (e : LiveEvidence) : Option LiveBlock :=
  match e.firstShowNs, e.lastShowNs, e.sequence with
  | some first, some last, some sequence =>
    if e.executionVerified then
      some { first := first, last := last, frames := e.observedFrames, sequence := sequence }
    else none
  | _, _, _ => none

namespace LiveReport

/-- What is kept of a report that is not merged. -/
def alone (r : LiveReport) (slot : Fin 4) (discontinuities : ℕ) (now : ℚ) : LiveEvidence where
  slot := slot
  sourceId := r.source
  healthy := r.healthy
  latencyMs := r.latencyMs.clamp 0 5000
  firstShowNs := r.firstShowNs.map Int.toNat
  lastShowNs := r.lastShowNs.map Int.toNat
  observedFrames := r.frames.toNat
  sequence := r.sequence.map Int.toNat
  discontinuities := discontinuities
  executionVerified := r.block.isSome
  reportedAt := now

/-- The report is taken for the one before, again. -/
def Repeats (previous block : LiveBlock) : Prop :=
  block.sequence = previous.sequence ∧ previous.first ≤ block.first ∧ block.last ≤ previous.last

def Follows (previous block : LiveBlock) : Prop :=
  block.sequence = previous.sequence + 1 ∧ block.first = previous.last

instance (previous block : LiveBlock) : Decidable (Repeats previous block) :=
  inferInstanceAs (Decidable (_ ∧ _))

instance (previous block : LiveBlock) : Decidable (Follows previous block) :=
  inferInstanceAs (Decidable (_ ∧ _))

/-- What is kept after a report, beside what was kept before. -/
def evidence (r : LiveReport) (slot : Fin 4) (previous : Option LiveEvidence) (now : ℚ) :
    LiveEvidence :=
  let discontinuities := (previous.map LiveEvidence.discontinuities).getD 0
  let kept := r.alone slot discontinuities now
  match previous.bind LiveEvidence.block, r.block with
  | some before, some block =>
    if Repeats before block then
      { kept with
        firstShowNs := some before.first
        lastShowNs := some before.last
        observedFrames := block.frames + before.frames }
    else if Follows before block then
      { kept with
        firstShowNs := some before.first
        observedFrames := block.frames + before.frames }
    else
      { kept with discontinuities := discontinuities + 1, executionVerified := false }
  | _, _ => kept

end LiveReport

/-! ## The registry -/

structure HandoffExecutionRegistry where
  shadow : Table ShadowEvidence.sourceId := Table.empty
  live : Table LiveEvidence.slot := Table.empty
  deriving DecidableEq

namespace HandoffExecutionRegistry

variable (g : HandoffExecutionRegistry)

def reportShadow (r : ShadowReport) (now : ℚ) : Except Error HandoffExecutionRegistry :=
  if r.source = "" then .error (.valueError "shadow source id required")
  else .ok { g with shadow := g.shadow.put (r.evidence (g.shadow.find? r.source) now) }

def reportLive (r : LiveReport) (now : ℚ) : Except Error HandoffExecutionRegistry :=
  match slotOf r.slot with
  | none => .error (.valueError "live input slot must be 0..3")
  | some slot =>
    if r.source = "" then .error (.valueError "live feed source id required")
    else .ok { g with live := g.live.put (r.evidence slot (g.live.find? slot) now) }

def clear (_ : HandoffExecutionRegistry) : HandoffExecutionRegistry := {}

/-- `int(max(0.0, now - reported_at) * 1000)`. -/
def ageMs (now reportedAt : ℚ) : ℤ := ⌊max 0 (now - reportedAt) * 1000⌋

/-- `None` or a number. -/
def optionalValue (n : Option ℕ) : Value := (n.map fun n => Value.int n).getD .none

def shadowRow (now : ℚ) (e : ShadowEvidence) : Entries :=
  [("sourceId", .str e.sourceId), ("contiguousFromShowNs", optionalValue e.contiguousFromShowNs),
    ("bufferedUntilShowNs", .int e.bufferedUntilShowNs), ("contentHash", .str e.contentHash),
    ("healthy", .bool e.healthy), ("renderedFrames", .int e.renderedFrames),
    ("discontinuities", .int e.discontinuities), ("executionVerified", .bool e.executionVerified),
    ("evidenceType", .str (if e.executionVerified then "rendered-block" else "reported-horizon")),
    ("ageMs", .int (ageMs now e.reportedAt))]

def liveRow (now : ℚ) (e : LiveEvidence) : Entries :=
  [("slot", .int e.slot.val), ("sourceId", .str e.sourceId), ("healthy", .bool e.healthy),
    ("latencyMs", .float (.finite e.latencyMs)), ("firstShowNs", optionalValue e.firstShowNs),
    ("lastShowNs", optionalValue e.lastShowNs), ("observedFrames", .int e.observedFrames),
    ("sequence", optionalValue e.sequence), ("discontinuities", .int e.discontinuities),
    ("executionVerified", .bool e.executionVerified),
    ("evidenceType", .str
      (if e.executionVerified then "duplicated-feed-block" else "feed-health-report")),
    ("ageMs", .int (ageMs now e.reportedAt))]

def sortedShadow : List ShadowEvidence :=
  g.shadow.rows.insertionSort fun e e' => e.sourceId ≤ e'.sourceId

def sortedLive : List LiveEvidence := g.live.rows.insertionSort fun e e' => e.slot ≤ e'.slot

def snapshot (now : ℚ) : Value :=
  .dict [("shadowSources", .list (g.sortedShadow.map fun e => .dict (shadowRow now e))),
    ("liveInputs", .list (g.sortedLive.map fun e => .dict (liveRow now e)))]

end HandoffExecutionRegistry

end StageForge
