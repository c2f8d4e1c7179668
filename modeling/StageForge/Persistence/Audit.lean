import StageForge.Persistence.Log

/-!
# The authorization audit

The decisions on authorizations are one hash-linked log that is spread over files: numbered segments,
which are never written again, an active file, and a retention anchor that stands for the segments
that were dropped. An append first rotates an active file that is too large: the file becomes a
segment, the anchor is replaced, and the segments it now stands for are unlinked.
-/

namespace StageForge

open Python

attribute [local instance (high)] ByteArray.instDecidableEq

/-! ## Files -/

structure RetentionAnchor where
  previousHead : String
  nextSequence : ℕ
  prunedSegments : ℕ
  prunedRecords : ℕ
  deriving DecidableEq

structure AuditDisk where
  retention : Option ByteArray
  /-- The segments with their numbers, in order. -/
  segments : List (ℕ × ByteArray)
  sorted : segments.Pairwise fun a b => a.1 < b.1
  active : Option ByteArray

inductive FsStep
  /-- `os.replace` of the active file by a segment. -/
  | moveActive (sequence : ℕ)
  /-- `_atomic_write_json` of the anchor. -/
  | replaceAnchor (anchor : RetentionAnchor)
  | unlink (sequence : ℕ)
  /-- A line that is written to the end of the active file. -/
  | appendLine (line : List Char)

namespace RetentionAnchor

def initial : RetentionAnchor :=
  { previousHead := zeroHash, nextSequence := 1, prunedSegments := 0, prunedRecords := 0 }

def value (a : RetentionAnchor) : Value :=
  .dict [("version", .int 1), ("previousHead", .str a.previousHead),
    ("nextSequence", .int a.nextSequence), ("prunedSegments", .int a.prunedSegments),
    ("prunedRecords", .int a.prunedRecords)]

/-- `isinstance(value, int)`, which truth values are too. -/
def intOf : Value → Option Int
  | .int n => some n
  | .bool b => some (if b then 1 else 0)
  | _ => none

def keys : List String :=
  ["version", "previousHead", "nextSequence", "prunedSegments", "prunedRecords"]

/-- The anchor of a document, if it passes every check. -/
def ofValue (v : Value) : Option RetentionAnchor := let present := v.entries.map Prod.fst
  if (v.isDict && present.all (· ∈ keys) && keys.all (· ∈ present) &&
      (v.get? "version").any (Value.same (.int 1))) = true then
    match v.get? "previousHead", (v.get? "nextSequence").bind intOf,
      (v.get? "prunedSegments").bind intOf, (v.get? "prunedRecords").bind intOf with
    | some (.str head), some next, some segments, some records =>
      if IsDigest head ∧ 1 ≤ next ∧ 0 ≤ segments ∧ 0 ≤ records then
        some ⟨head, next.toNat, segments.toNat, records.toNat⟩
      else none
    | _, _, _, _ => none
  else none

lemma value_canon (a : RetentionAnchor) : a.value.canon =
      .dict [("nextSequence", .int a.nextSequence), ("previousHead", .str a.previousHead),
        ("prunedRecords", .int a.prunedRecords), ("prunedSegments", .int a.prunedSegments),
        ("version", .int 1)] := by
  have h₁ : "prunedSegments" ≤ "prunedRecords" ↔ False := by decide +kernel
  have h₂ : "nextSequence" ≤ "prunedRecords" := by decide +kernel
  have h₃ : "previousHead" ≤ "nextSequence" ↔ False := by decide +kernel
  have h₄ : "previousHead" ≤ "prunedRecords" := by decide +kernel
  have h₅ : "version" ≤ "nextSequence" ↔ False := by decide +kernel
  have h₆ : "version" ≤ "previousHead" ↔ False := by decide +kernel
  have h₇ : "version" ≤ "prunedRecords" ↔ False := by decide +kernel
  have h₈ : "version" ≤ "prunedSegments" ↔ False := by decide +kernel
  simp [RetentionAnchor.value, Value.canon, Value.canonEntries, List.insertionSort,
    List.orderedInsert, h₁, h₂, h₃, h₄, h₅, h₆, h₇, h₈]

def Valid (a : RetentionAnchor) : Prop := IsDigest a.previousHead ∧ 1 ≤ a.nextSequence

lemma ofValue_canon {a : RetentionAnchor} (h : a.Valid) :
    RetentionAnchor.ofValue a.value.canon = some a := by
  have hchecks : IsDigest a.previousHead ∧ (1 : Int) ≤ a.nextSequence ∧
      (0 : Int) ≤ a.prunedSegments ∧ (0 : Int) ≤ a.prunedRecords :=
    ⟨h.1, by exact_mod_cast h.2, Int.natCast_nonneg _, Int.natCast_nonneg _⟩
  rw [RetentionAnchor.value_canon]
  have hdict : ∀ n s r g : Value, (let v : Value := .dict [("nextSequence", n), ("previousHead", s),
      ("prunedRecords", r), ("prunedSegments", g), ("version", .int 1)]
      (v.isDict && (v.entries.map Prod.fst).all (· ∈ RetentionAnchor.keys) &&
        RetentionAnchor.keys.all (· ∈ v.entries.map Prod.fst) &&
        (v.get? "version").any (Value.same (.int 1))) = true) := by
    intro n s r g
    rfl
  rw [RetentionAnchor.ofValue, if_pos (hdict _ _ _ _)]
  exact if_pos hchecks

end RetentionAnchor

namespace AuditDisk

variable (d : AuditDisk)

def empty : AuditDisk := { retention := none, segments := [], sorted := .nil, active := none }

/-- The segments that an anchor does not stand for. -/
def live (next : ℕ) : List (ℕ × ByteArray) := d.segments.filter fun s => next ≤ s.1

/-- The segments that it stands for, and that are there yet. -/
def stale (next : ℕ) : List (ℕ × ByteArray) := d.segments.filter fun s => s.1 < next

def activeBytes : ℕ := (d.active.getD ByteArray.empty).size

/-- A segment with its number, in place of the one that has it. -/
def putSegment (sequence : ℕ) (bytes : ByteArray) : List (ℕ × ByteArray) :=
  d.segments.filter (fun s => s.1 < sequence) ++
    (sequence, bytes) :: d.segments.filter fun s => sequence < s.1

lemma sorted_putSegment (sequence : ℕ) (bytes : ByteArray) :
    (d.putSegment sequence bytes).Pairwise fun a b => a.1 < b.1 := by
  rw [putSegment, List.pairwise_append, List.pairwise_cons]
  refine ⟨d.sorted.filter _, ⟨?_, d.sorted.filter _⟩, ?_⟩
  · intro s hs
    exact of_decide_eq_true (List.mem_filter.mp hs).2
  · intro s hs t ht
    have hbelow := of_decide_eq_true (List.mem_filter.mp hs).2
    rcases List.mem_cons.mp ht with rfl | ht
    · exact hbelow
    · have habove := of_decide_eq_true (List.mem_filter.mp ht).2
      omega

end AuditDisk

/-! ## Operations -/

/-- How large the active file may grow, and how many segments are kept. -/
structure AuditSettings where
  rotateBytes : ℕ
  retainSegments : ℕ

/-- Whether some more bytes make the active file too large. -/
def AuditSettings.Rotates (settings : AuditSettings) (activeBytes bytes : ℕ) : Prop :=
  activeBytes ≠ 0 ∧ settings.rotateBytes < activeBytes + bytes

instance (settings : AuditSettings) (activeBytes bytes : ℕ) :
    Decidable (settings.Rotates activeBytes bytes) := by
  unfold AuditSettings.Rotates
  infer_instance

/-- The report of a scan that finds nothing wrong. -/
structure AuditReport where
  records : ℕ
  totalRecords : ℕ
  head : String
  retainedSegments : ℕ
  activeRecords : ℕ
  activeBytes : ℕ
  retainedBytes : ℕ
  rotateBytes : ℕ
  retainSegments : ℕ
  retentionAnchor : String
  nextSequence : ℕ
  prunedSegments : ℕ
  prunedRecords : ℕ
  stalePrunedFiles : ℕ

/-- `_authorization_state`: what the repository knows about the files, and how it saw them. -/
structure AuditState where
  head : String
  activeInitial : String
  activeRecords : ℕ
  activeBytes : ℕ
  nextSequence : ℕ
  activeSignature : Option ByteArray
  retentionSignature : Option ByteArray
  segmentSignatures : List (ℕ × ByteArray)

/-- `_authorization_state_matches_disk`. -/
def AuditState.matchesDisk (state : AuditState) (d : AuditDisk) : Bool :=
  state.activeSignature = d.active && state.retentionSignature = d.retention &&
    state.segmentSignatures = d.segments

inductive ScanFailure
  | segmentGap (records : ℕ) (head : String) (expectedSequence actualSequence : ℕ)
  /-- A segment, or the active file, that is not accepted, after some records before it. -/
  | invalid (segment : Option ℕ) (records : ℕ) (result : LogSetup.VerifyReport)
  | raised (error : String)

/-- What a call does: its steps, what the repository knows afterwards, and what it returns. -/
structure AuditRun (α : Type) where
  steps : List FsStep
  cache : Option AuditState
  result : Except String α

structure SegmentScan where
  previous : String
  expectedSequence : ℕ
  records : ℕ
  retainedSegments : ℕ
  stalePrunedFiles : ℕ

namespace LogSetup

variable (S : LogSetup)

def retentionAnchor (file : Option ByteArray) : Except String RetentionAnchor := match file with
  | none => .ok .initial
  | some bytes =>
    match ((decode bytes).bind (loads S.reader)).bind RetentionAnchor.ofValue with
    | some anchor => .ok anchor
    | none => .error "authorization audit retention anchor unavailable or invalid"

/-- What `_atomic_write_json` writes. -/
def anchorBytes (anchor : RetentionAnchor) : ByteArray :=
  encode (text S.floats anchor.value.canon ++ ['\n'])

def apply (d : AuditDisk) : FsStep → AuditDisk
  | .moveActive sequence =>
    match d.active with
    | none => d
    | some bytes =>
      { d with
        segments := d.putSegment sequence bytes
        sorted := d.sorted_putSegment sequence bytes
        active := none }
  | .replaceAnchor anchor => { d with retention := some (S.anchorBytes anchor) }
  | .unlink sequence =>
    { d with
      segments := d.segments.filter fun s => s.1 ≠ sequence
      sorted := d.sorted.filter _ }
  | .appendLine line =>
    { d with active := some (d.active.getD ByteArray.empty ++ encode line) }

def applyAll (d : AuditDisk) (steps : List FsStep) : AuditDisk := steps.foldl S.apply d

lemma applyAll_cons (d : AuditDisk) (step : FsStep) (steps : List FsStep) :
    S.applyAll d (step :: steps) = S.applyAll (S.apply d step) steps := rfl

lemma applyAll_append (d : AuditDisk) (steps more : List FsStep) :
    S.applyAll d (steps ++ more) = S.applyAll (S.applyAll d steps) more := List.foldl_append

def scanSegments (scan : SegmentScan) : List (ℕ × ByteArray) → Except ScanFailure SegmentScan
  | [] => .ok scan
  | (sequence, bytes) :: rest =>
    if sequence < scan.expectedSequence then
      scanSegments { scan with stalePrunedFiles := scan.stalePrunedFiles + 1 } rest
    else if sequence ≠ scan.expectedSequence then
      .error (.segmentGap scan.records scan.previous scan.expectedSequence sequence)
    else
      match S.verifyHashLinked (some bytes) scan.previous with
      | .ok records head =>
        scanSegments { scan with
            previous := head
            expectedSequence := scan.expectedSequence + 1
            records := scan.records + records
            retainedSegments := scan.retainedSegments + 1 }
          rest
      | result => .error (.invalid (some sequence) scan.records result)

/-- `_scan_authorization_audit`. -/
def scan (settings : AuditSettings) (d : AuditDisk) :
    Except ScanFailure (AuditReport × AuditState) :=
  match S.retentionAnchor d.retention with
  | .error error => .error (.raised error)
  | .ok anchor =>
    match S.scanSegments ⟨anchor.previousHead, anchor.nextSequence, 0, 0, 0⟩ d.segments with
    | .error failure => .error failure
    | .ok segments =>
      match S.verifyHashLinked d.active segments.previous with
      | .ok activeRecords head =>
        .ok (
          { records := segments.records + activeRecords
            totalRecords := segments.records + activeRecords + anchor.prunedRecords
            head
            retainedSegments := segments.retainedSegments
            activeRecords
            activeBytes := d.activeBytes
            retainedBytes := d.activeBytes +
              ((d.live anchor.nextSequence).map fun s => s.2.size).sum
            rotateBytes := settings.rotateBytes
            retainSegments := settings.retainSegments
            retentionAnchor := anchor.previousHead
            nextSequence := anchor.nextSequence
            prunedSegments := anchor.prunedSegments
            prunedRecords := anchor.prunedRecords
            stalePrunedFiles := segments.stalePrunedFiles },
          { head
            activeInitial := segments.previous
            activeRecords
            activeBytes := d.activeBytes
            nextSequence := segments.expectedSequence
            activeSignature := d.active
            retentionSignature := d.retention
            segmentSignatures := d.segments })
      | result => .error (.invalid none segments.records result)

/-- `_ensure_authorization_state`. -/
def ensure (settings : AuditSettings) (cache : Option AuditState) (d : AuditDisk) :
    Except String AuditState :=
  match cache with
  | none =>
    match S.scan settings d with
    | .ok (_, state) => .ok state
    | .error _ => .error "authorization audit verification failed before append"
  | some state =>
    if state.matchesDisk d then .ok state
    else .error "authorization audit changed outside repository"

/-- The segments that pruning drops: the hash of the last one, the number after it, and how many
records they have. -/
def pruneSegments (previous : String) (nextSequence records : ℕ) :
    List (ℕ × ByteArray) → Except String (String × ℕ × ℕ)
  | [] => .ok (previous, nextSequence, records)
  | (sequence, bytes) :: rest =>
    if sequence ≠ nextSequence then .error "authorization audit segment gap during retention"
    else
      match S.verifyHashLinked (some bytes) previous with
      | .ok more head => pruneSegments head (sequence + 1) (records + more) rest
      | _ => .error "authorization audit segment invalid during retention"

/-- `_prune_authorization_segments`: the steps it takes. -/
def prune (settings : AuditSettings) (d : AuditDisk) : Except String (List FsStep) :=
  match S.retentionAnchor d.retention with
  | .error error => .error error
  | .ok anchor =>
    let segments := d.live anchor.nextSequence
    let stale := d.stale anchor.nextSequence
    if segments.length ≤ settings.retainSegments then .ok (stale.map fun s => .unlink s.1)
    else
      let toDelete := segments.take (segments.length - settings.retainSegments)
      match S.pruneSegments anchor.previousHead anchor.nextSequence 0 toDelete with
      | .error error => .error error
      | .ok (previousHead, nextSequence, records) =>
        .ok (.replaceAnchor
            { previousHead, nextSequence
              prunedSegments := anchor.prunedSegments + toDelete.length
              prunedRecords := anchor.prunedRecords + records } ::
          (stale ++ toDelete).map fun s => .unlink s.1)

/-- `_rotate_authorization_audit`. -/
def rotate (settings : AuditSettings) (cache : Option AuditState) (d : AuditDisk) : AuditRun Unit :=
  match S.ensure settings cache d with
  | .error error => ⟨[], cache, .error error⟩
  | .ok state =>
    if d.active = none ∨ state.activeBytes = 0 then ⟨[], some state, .ok ()⟩
    else if (d.segments.any fun s => s.1 = state.nextSequence) = true then
      ⟨[], some state, .error "authorization audit rotation target already exists"⟩
    else
      let move := .moveActive state.nextSequence
      let moved := S.apply d move
      match S.prune settings moved with
      | .error error => ⟨[move], none, .error error⟩
      | .ok steps =>
        match S.scan settings (S.applyAll moved steps) with
        | .ok (_, refreshed) => ⟨move :: steps, some refreshed, .ok ()⟩
        | .error _ =>
          ⟨move :: steps, none, .error "authorization audit verification failed after rotation"⟩

/-- The end of an append: the line of the record goes to the active file. -/
def writeRecord (d : AuditDisk) (state : AuditState) (event : LogEvent) : AuditRun Value :=
  let line := S.encoded state.head event.value
  { steps := [.appendLine line]
    cache := some { state with
        head := S.recordHash state.head event.value
        activeRecords := state.activeRecords + 1
        activeBytes := state.activeBytes + (encode line).size
        activeSignature := (S.apply d (.appendLine line)).active }
    result := .ok (S.record state.head event.value) }

def appendAuthorizationAudit (settings : AuditSettings) (cache : Option AuditState)
    (d : AuditDisk) (event : LogEvent) : AuditRun Value :=
  if 8192 < (S.canonical event.value).size then
    ⟨[], cache, .error "authorization audit event exceeds 8 KiB bound"⟩
  else
    match S.ensure settings cache d with
    | .error error => ⟨[], cache, .error error⟩
    | .ok state =>
      let bytes := (encode (S.encoded state.head event.value)).size
      if settings.Rotates state.activeBytes bytes then
        let rotation := S.rotate settings (some state) d
        let rotated := S.applyAll d rotation.steps
        match rotation.result with
        | .error error => ⟨rotation.steps, rotation.cache, .error error⟩
        | .ok () =>
          match S.ensure settings rotation.cache rotated with
          | .error error => ⟨rotation.steps, rotation.cache, .error error⟩
          | .ok state =>
            let write := S.writeRecord rotated state event
            { write with steps := rotation.steps ++ write.steps }
      else S.writeRecord d state event

end LogSetup

end StageForge
