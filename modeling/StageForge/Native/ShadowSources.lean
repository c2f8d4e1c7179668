import Mathlib.Data.UInt
import StageForge.Library.TransitionSystem

/-!
# Shadow sources and their evidence

A standby node renders its sources ahead of show time. `CoreShadowPrebuffer` keeps what it has verified
of each source's blocks, `CoreShadowRenderPlanner` what has been reported to it, and both refuse evidence
that was made for another generation, revision or content. `invalidate_revision` takes away the
evidence of the sources of other revisions, but not the identity it is compared with.
-/

namespace StageForge

open TransitionSystem

structure CoreShadowPrebufferStatus where
  sourceId : UInt64
  generation : UInt64
  showRevision : UInt64
  contentHash : UInt64
  contiguousFromShowNs : UInt64
  bufferedUntilShowNs : UInt64
  renderedFrames : UInt64
  renderedBlocks : UInt64
  discontinuities : UInt64
  healthy : Bool
  deriving DecidableEq

structure CoreShadowSource where
  id : UInt64
  showRevision : UInt64
  contentHash : UInt64
  generation : UInt64
  bufferedUntilShowNs : UInt64
  required : Bool
  capable : Bool
  assetReady : Bool
  healthy : Bool
  deriving DecidableEq

structure CoreShadowPlanStatus where
  targetShowNs : UInt64
  requiredUntilShowNs : UInt64
  sources : UInt16
  readySources : UInt16
  blockedSources : UInt16
  ready : Bool
  deriving DecidableEq

/-- What a source is identified by, besides its id. -/
structure ShadowIdentity where
  generation : UInt64
  showRevision : UInt64
  contentHash : UInt64
  deriving DecidableEq

/-- Replace the first element that meets a test. -/
def modifyFirst {α : Type*} (test : α → Bool) (change : α → α) (as : List α) : List α :=
  as.modify (as.findIdx test) change

/-! ## The prebuffer -/

namespace CoreShadowPrebufferStatus

def empty : CoreShadowPrebufferStatus := ⟨0, 0, 0, 0, 0, 0, 0, 0, 0, false⟩

def identity (slot : CoreShadowPrebufferStatus) : ShadowIdentity :=
  ⟨slot.generation, slot.showRevision, slot.contentHash⟩

def isSource (id : UInt64) (slot : CoreShadowPrebufferStatus) : Bool := slot.sourceId = id

/-- `configure`, on the slot it has found. -/
def configure (id : UInt64) (identity : ShadowIdentity) (slot : CoreShadowPrebufferStatus) :
    CoreShadowPrebufferStatus :=
  if slot.sourceId ≠ id ∨ slot.identity ≠ identity then
    { empty with
      sourceId := id
      generation := identity.generation
      showRevision := identity.showRevision
      contentHash := identity.contentHash }
  else slot

/-- `ingest_block`, on the slot it has found, with its answer. -/
def ingest (identity : ShadowIdentity) (startShowNs endShowNs : UInt64) (frames : UInt32)
    (healthy : Bool) (slot : CoreShadowPrebufferStatus) : CoreShadowPrebufferStatus × Bool :=
  let count (slot : CoreShadowPrebufferStatus) : CoreShadowPrebufferStatus × Bool := ({ slot with
        renderedFrames := slot.renderedFrames + frames.toUInt64
        renderedBlocks := slot.renderedBlocks + 1
        healthy }, true)
  if slot.identity ≠ identity ∨ endShowNs ≤ startShowNs ∨ frames = 0 then (slot, false)
  else if slot.renderedBlocks = 0 then
    count { slot with contiguousFromShowNs := startShowNs, bufferedUntilShowNs := endShowNs }
  else if startShowNs = slot.bufferedUntilShowNs then
    count { slot with bufferedUntilShowNs := endShowNs }
  else if slot.contiguousFromShowNs ≤ startShowNs ∧ endShowNs ≤ slot.bufferedUntilShowNs then
    count slot
  else ({ slot with discontinuities := slot.discontinuities + 1, healthy := false }, false)

def invalidate (revision : UInt64) (slot : CoreShadowPrebufferStatus) : CoreShadowPrebufferStatus :=
  if slot.sourceId ≠ 0 ∧ slot.showRevision ≠ revision then
    { slot with healthy := false, contiguousFromShowNs := 0, bufferedUntilShowNs := 0 }
  else slot

end CoreShadowPrebufferStatus

namespace CoreShadowPrebuffer

open CoreShadowPrebufferStatus

def configure (slots : List CoreShadowPrebufferStatus) (id : UInt64) (identity : ShadowIdentity) :
    List CoreShadowPrebufferStatus × Bool :=
  if id = 0 then (slots, false)
  else if slots.any (isSource id) then
    (modifyFirst (isSource id) (CoreShadowPrebufferStatus.configure id identity) slots, true)
  else if slots.any (isSource 0) then
    (modifyFirst (isSource 0) (CoreShadowPrebufferStatus.configure id identity) slots, true)
  else (slots, false)

def ingestBlock (slots : List CoreShadowPrebufferStatus) (id : UInt64) (identity : ShadowIdentity)
    (startShowNs endShowNs : UInt64) (frames : UInt32) (healthy : Bool) :
    List CoreShadowPrebufferStatus × Bool :=
  let ingest := ingest identity startShowNs endShowNs frames healthy
  match slots.find? (isSource id) with
  | none => (slots, false)
  | some slot => (modifyFirst (isSource id) (fun slot => (ingest slot).1) slots, (ingest slot).2)

def invalidateRevision (slots : List CoreShadowPrebufferStatus) (revision : UInt64) :
    List CoreShadowPrebufferStatus :=
  slots.map (invalidate revision)

end CoreShadowPrebuffer

/-! ## The planner -/

namespace CoreShadowSource

def empty : CoreShadowSource := ⟨0, 0, 0, 0, 0, true, false, false, false⟩

def identity (source : CoreShadowSource) : ShadowIdentity :=
  ⟨source.generation, source.showRevision, source.contentHash⟩

/-- `report`, on the source it has found, with its answer. -/
def report (identity : ShadowIdentity) (untilShowNs : UInt64) (healthy : Bool)
    (source : CoreShadowSource) : CoreShadowSource × Bool :=
  if source.identity ≠ identity then (source, false)
  else ({ source with bufferedUntilShowNs := untilShowNs, healthy }, true)

def invalidate (revision : UInt64) (source : CoreShadowSource) : CoreShadowSource :=
  if source.id ≠ 0 ∧ source.showRevision ≠ revision then
    { source with healthy := false, bufferedUntilShowNs := 0 }
  else source

def counts (source : CoreShadowSource) : Bool := source.id ≠ 0 && source.required

def isReady (requiredUntilShowNs : UInt64) (source : CoreShadowSource) : Bool :=
  source.capable && source.assetReady && source.healthy &&
    requiredUntilShowNs ≤ source.bufferedUntilShowNs

end CoreShadowSource

namespace CoreShadowRenderPlanner

open CoreShadowSource

def declareSource (sources : List CoreShadowSource) (source : CoreShadowSource) :
    List CoreShadowSource × Bool :=
  let takes (x : CoreShadowSource) : Bool := x.id = source.id ∨ x.id = 0
  if source.id = 0 then (sources, false)
  else (modifyFirst takes (fun _ => source) sources, sources.any takes)

def report (sources : List CoreShadowSource) (id : UInt64) (identity : ShadowIdentity)
    (untilShowNs : UInt64) (healthy : Bool) : List CoreShadowSource × Bool :=
  let report := CoreShadowSource.report identity untilShowNs healthy
  match sources.find? fun x => x.id = id with
  | none => (sources, false)
  | some source =>
    (modifyFirst (fun x => x.id = id) (fun x => (report x).1) sources, (report source).2)

def invalidateRevision (sources : List CoreShadowSource) (revision : UInt64) :
    List CoreShadowSource :=
  sources.map (invalidate revision)

/-- The body of the loop of `plan`. -/
def planSource (status : CoreShadowPlanStatus) (source : CoreShadowSource) : CoreShadowPlanStatus :=
  if source.counts = true then
    if source.isReady status.requiredUntilShowNs = true then
      { status with sources := status.sources + 1, readySources := status.readySources + 1 }
    else { status with sources := status.sources + 1, blockedSources := status.blockedSources + 1 }
  else status

def plan (sources : List CoreShadowSource) (target prebufferNs : UInt64) : CoreShadowPlanStatus :=
  let status := sources.foldl planSource ⟨target, target + prebufferNs, 0, 0, 0, false⟩
  { status with ready := 0 < status.sources ∧ status.blockedSources = 0 }

end CoreShadowRenderPlanner

/-! ## Runs -/

structure ShadowRun where
  slots : List CoreShadowPrebufferStatus
  sources : List CoreShadowSource
  /-- The sources, with their revisions, that the prebuffer has invalidated and that have not been
  configured since. -/
  invalidSlots : List (UInt64 × UInt64)
  /-- Those that the planner has invalidated and that have not been declared since. -/
  invalidSources : List (UInt64 × UInt64)
  deriving DecidableEq

inductive ShadowCall
  | configure (id : UInt64) (identity : ShadowIdentity)
  | ingestBlock (id : UInt64) (identity : ShadowIdentity) (startShowNs endShowNs : UInt64)
      (frames : UInt32) (healthy : Bool)
  | invalidatePrebuffer (revision : UInt64)
  | declareSource (source : CoreShadowSource)
  | report (id : UInt64) (identity : ShadowIdentity) (untilShowNs : UInt64) (healthy : Bool)
  | invalidatePlanner (revision : UInt64)
  deriving DecidableEq

namespace ShadowRun

def initial (capacity : ℕ) : ShadowRun :=
  ⟨List.replicate capacity .empty, List.replicate capacity .empty, [], []⟩

def step (r : ShadowRun) : ShadowCall → Option ShadowRun
  | .configure id identity => some { r with
      slots := (CoreShadowPrebuffer.configure r.slots id identity).1
      invalidSlots := r.invalidSlots.filter fun source => source.1 ≠ id }
  | .ingestBlock id identity start finish frames healthy => some { r with
      slots := (CoreShadowPrebuffer.ingestBlock r.slots id identity start finish frames healthy).1 }
  | .invalidatePrebuffer revision => some { r with
      slots := CoreShadowPrebuffer.invalidateRevision r.slots revision
      invalidSlots := r.invalidSlots ++ (r.slots.filter fun slot =>
        slot.sourceId ≠ 0 ∧ slot.showRevision ≠ revision).map fun slot =>
          (slot.sourceId, slot.showRevision) }
  | .declareSource source => some { r with
      sources := (CoreShadowRenderPlanner.declareSource r.sources source).1
      invalidSources := r.invalidSources.filter fun other => other.1 ≠ source.id }
  | .report id identity untilShowNs healthy => some { r with
      sources := (CoreShadowRenderPlanner.report r.sources id identity untilShowNs healthy).1 }
  | .invalidatePlanner revision => some { r with
      sources := CoreShadowRenderPlanner.invalidateRevision r.sources revision
      invalidSources := r.invalidSources ++ (r.sources.filter fun source =>
        source.id ≠ 0 ∧ source.showRevision ≠ revision).map fun source =>
          (source.id, source.showRevision) }

/-- No evidence for an invalidated source under the identity it had: no block that would open a window
or go on from its empty one, and no report but of nothing. -/
def spares (r : ShadowRun) : ShadowCall → Bool
  | .ingestBlock id identity start finish frames _ => r.slots.all fun slot =>
    !(slot.sourceId = id && (slot.sourceId, slot.showRevision) ∈ r.invalidSlots &&
      slot.identity = identity && start < finish && frames ≠ 0 &&
      (slot.renderedBlocks = 0 || start = 0))
  | .report id identity untilShowNs healthy => r.sources.all fun source =>
    !(source.id = id && (source.id, source.showRevision) ∈ r.invalidSources &&
      source.identity = identity && (untilShowNs ≠ 0 || healthy))
  | _ => true

/-! ## What stays invalid -/

/-- Nothing of a slot can be mistaken for evidence. -/
def SlotVoid (slot : CoreShadowPrebufferStatus) : Prop :=
  slot.healthy = false ∧ slot.contiguousFromShowNs = 0 ∧ slot.bufferedUntilShowNs = 0

def SourceVoid (source : CoreShadowSource) : Prop :=
  source.healthy = false ∧ source.bufferedUntilShowNs = 0

structure StaysInvalid (capacity : ℕ) (r : ShadowRun) : Prop where
  slots : ∀ slot ∈ r.slots, (slot.sourceId, slot.showRevision) ∈ r.invalidSlots → SlotVoid slot
  sources : ∀ source ∈ r.sources,
    (source.id, source.showRevision) ∈ r.invalidSources → SourceVoid source
  length : r.sources.length = capacity

lemma mem_modifyFirst {α : Type*} {test : α → Bool} {change : α → α} {as : List α} {x : α}
    (h : x ∈ modifyFirst test change as) : x ∈ as ∨ ∃ y ∈ as, test y = true ∧ x = change y := by
  obtain ⟨index, hindex, hget⟩ := List.mem_iff_getElem.mp h
  have hlt : index < as.length := by
    rw [modifyFirst, List.length_modify] at hindex
    exact hindex
  simp only [modifyFirst] at hget
  rw [List.getElem_modify] at hget
  split at hget
  · rename_i hfirst
    subst hfirst
    exact .inr ⟨_, List.getElem_mem hlt, List.findIdx_getElem, hget.symm⟩
  · exact .inl (hget ▸ List.getElem_mem hlt)

@[simp] lemma length_modifyFirst {α : Type*} (test : α → Bool) (change : α → α) (as : List α) :
    (modifyFirst test change as).length = as.length := by
  rw [modifyFirst, List.length_modify]

variable {capacity : ℕ} {r after : ShadowRun}

lemma StaysInvalid.configure (h : StaysInvalid capacity r) (id : UInt64) (identity : ShadowIdentity)
    (hstep : step r (.configure id identity) = some after) : StaysInvalid capacity after := by
  cases hstep
  refine ⟨fun slot hslot hinvalid => ?_, h.sources, h.length⟩
  simp only [List.mem_filter, decide_eq_true_eq] at hinvalid
  -- the slot that has been configured has the id, and the id is no longer invalid
  have hchanged : ∀ before : CoreShadowPrebufferStatus,
      (before.configure id identity).sourceId = id := by
    intro before
    rw [CoreShadowPrebufferStatus.configure]
    split
    · rfl
    · rename_i hsame
      push Not at hsame
      exact hsame.1
  have hkept : slot ∈ r.slots ∨ slot.sourceId = id := by
    rw [CoreShadowPrebuffer.configure] at hslot
    split at hslot
    · exact .inl hslot
    · split at hslot
      · rcases mem_modifyFirst hslot with hold | ⟨before, _, _, rfl⟩
        · exact .inl hold
        · exact .inr (hchanged before)
      · split at hslot
        · rcases mem_modifyFirst hslot with hold | ⟨before, _, _, rfl⟩
          · exact .inl hold
          · exact .inr (hchanged before)
        · exact .inl hslot
  exact h.slots slot (hkept.resolve_right hinvalid.2) hinvalid.1

variable {identity : ShadowIdentity} {healthy : Bool}

lemma ingest_void {slot : CoreShadowPrebufferStatus} (hvoid : SlotVoid slot)
    {start finish : UInt64} {frames : UInt32}
    (hspared : slot.identity = identity → start < finish → frames ≠ 0 →
      slot.renderedBlocks ≠ 0 ∧ start ≠ 0) :
    SlotVoid (slot.ingest identity start finish frames healthy).1 := by
  rw [CoreShadowPrebufferStatus.ingest]
  split
  · exact hvoid
  · rename_i hchecks
    push Not at hchecks
    have hlt : start < finish := UInt64.not_le.mp hchecks.2.1
    obtain ⟨hblocks, hstart⟩ := hspared hchecks.1 hlt hchecks.2.2
    rw [if_neg hblocks, if_neg (by rw [hvoid.2.2]; exact hstart), if_neg]
    · exact ⟨rfl, hvoid.2.1, hvoid.2.2⟩
    · rintro ⟨_, hwithin⟩
      rw [hvoid.2.2] at hwithin
      exact UInt64.not_lt.mpr hwithin (UInt64.lt_of_le_of_lt UInt64.zero_le hlt)

lemma identity_ingest (slot : CoreShadowPrebufferStatus) (identity : ShadowIdentity)
    (start finish : UInt64) (frames : UInt32) (healthy : Bool) :
    (slot.ingest identity start finish frames healthy).1.sourceId = slot.sourceId ∧
      (slot.ingest identity start finish frames healthy).1.showRevision = slot.showRevision := by
  rw [CoreShadowPrebufferStatus.ingest]
  repeat' split
  all_goals exact ⟨rfl, rfl⟩

lemma StaysInvalid.ingestBlock (h : StaysInvalid capacity r) {id : UInt64}
    {start finish : UInt64} {frames : UInt32}
    (hspares : spares r (.ingestBlock id identity start finish frames healthy) = true)
    (hstep : step r (.ingestBlock id identity start finish frames healthy) = some after) :
    StaysInvalid capacity after := by
  cases hstep
  refine ⟨fun slot hslot hinvalid => ?_, h.sources, h.length⟩
  simp only [CoreShadowPrebuffer.ingestBlock] at hslot
  split at hslot
  · exact h.slots slot hslot hinvalid
  · rcases mem_modifyFirst hslot with hold | ⟨before, hbefore, hid, rfl⟩
    · exact h.slots slot hold hinvalid
    · obtain ⟨hsource, hrevision⟩ := identity_ingest before identity start finish frames healthy
      rw [hsource, hrevision] at hinvalid
      refine ingest_void (h.slots before hbefore hinvalid) fun hidentity hlt hframes => ?_
      have hspared := List.all_eq_true.mp hspares before hbefore
      have hid : before.sourceId = id := of_decide_eq_true hid
      simp only [hid, hid ▸ hinvalid, hidentity, hlt, hframes, decide_true, ne_eq,
        not_false_eq_true, Bool.true_and, Bool.not_or, Bool.and_eq_true, Bool.not_eq_true',
        decide_eq_false_iff_not] at hspared
      exact hspared

lemma StaysInvalid.invalidatePrebuffer (h : StaysInvalid capacity r) (revision : UInt64)
    (hstep : step r (.invalidatePrebuffer revision) = some after) : StaysInvalid capacity after := by
  cases hstep
  refine ⟨fun slot hslot hinvalid => ?_, h.sources, h.length⟩
  obtain ⟨before, hbefore, rfl⟩ := List.mem_map.mp hslot
  by_cases htaken : before.sourceId ≠ 0 ∧ before.showRevision ≠ revision
  · rw [CoreShadowPrebufferStatus.invalidate, if_pos htaken]
    exact ⟨rfl, rfl, rfl⟩
  · rw [CoreShadowPrebufferStatus.invalidate, if_neg htaken] at hinvalid ⊢
    rcases List.mem_append.mp hinvalid with hold | hnew
    · exact h.slots before hbefore hold
    · obtain ⟨other, hother, hsame⟩ := List.mem_map.mp hnew
      have hother := of_decide_eq_true (List.mem_filter.mp hother).2
      rw [Prod.mk.injEq] at hsame
      rw [hsame.1, hsame.2] at hother
      exact absurd hother htaken

open CoreShadowRenderPlanner

lemma StaysInvalid.declareSource (h : StaysInvalid capacity r) (source : CoreShadowSource)
    (hstep : step r (.declareSource source) = some after) : StaysInvalid capacity after := by
  cases hstep
  have hkept : ∀ other ∈ (declareSource r.sources source).1,
      other ∈ r.sources ∨ other = source := by
    intro other hother
    simp only [declareSource] at hother
    split at hother
    · exact .inl hother
    · exact (mem_modifyFirst hother).imp_right fun ⟨_, _, _, hnew⟩ => hnew
  refine ⟨h.slots, fun other hother hinvalid => ?_, ?_⟩
  · simp only [List.mem_filter, decide_eq_true_eq] at hinvalid
    rcases hkept other hother with hold | rfl
    · exact h.sources other hold hinvalid.1
    · exact absurd rfl hinvalid.2
  · simp only [declareSource]
    split
    · exact h.length
    · exact (length_modifyFirst _ _ _).trans h.length

lemma StaysInvalid.report (h : StaysInvalid capacity r) {id : UInt64} {untilShowNs : UInt64}
    (hspares : spares r (.report id identity untilShowNs healthy) = true)
    (hstep : step r (.report id identity untilShowNs healthy) = some after) :
    StaysInvalid capacity after := by
  cases hstep
  refine ⟨h.slots, fun source hsource hinvalid => ?_, ?_⟩
  · simp only [report] at hsource
    split at hsource
    · exact h.sources source hsource hinvalid
    · rcases mem_modifyFirst hsource with hold | ⟨before, hbefore, hid, rfl⟩
      · exact h.sources source hold hinvalid
      · have hspared := List.all_eq_true.mp hspares before hbefore
        have hid : before.id = id := of_decide_eq_true hid
        rw [CoreShadowSource.report] at hinvalid ⊢
        split
        · rename_i hother
          rw [if_pos hother] at hinvalid
          exact h.sources before hbefore hinvalid
        · rename_i hsame
          rw [if_neg hsame] at hinvalid
          push Not at hsame
          simp only [hid, hid ▸ hinvalid, hsame, decide_true, Bool.true_and, Bool.not_or,
            Bool.and_eq_true, Bool.not_eq_true', decide_eq_false_iff_not, not_not] at hspared
          exact ⟨hspared.2, hspared.1⟩
  · simp only [report]
    split
    · exact h.length
    · exact (length_modifyFirst _ _ _).trans h.length

lemma StaysInvalid.invalidatePlanner (h : StaysInvalid capacity r) (revision : UInt64)
    (hstep : step r (.invalidatePlanner revision) = some after) : StaysInvalid capacity after := by
  cases hstep
  refine ⟨h.slots, fun source hsource hinvalid => ?_, (List.length_map _).trans h.length⟩
  obtain ⟨before, hbefore, rfl⟩ := List.mem_map.mp hsource
  by_cases htaken : before.id ≠ 0 ∧ before.showRevision ≠ revision
  · rw [CoreShadowSource.invalidate, if_pos htaken]
    exact ⟨rfl, rfl⟩
  · rw [CoreShadowSource.invalidate, if_neg htaken] at hinvalid ⊢
    rcases List.mem_append.mp hinvalid with hold | hnew
    · exact h.sources before hbefore hold
    · obtain ⟨other, hother, hsame⟩ := List.mem_map.mp hnew
      have hother := of_decide_eq_true (List.mem_filter.mp hother).2
      rw [Prod.mk.injEq] at hsame
      rw [hsame.1, hsame.2] at hother
      exact absurd hother htaken

theorem StaysInvalid.of_step (h : StaysInvalid capacity r) {call : ShadowCall}
    (hspares : spares r call = true) (hstep : step r call = some after) :
    StaysInvalid capacity after := by
  cases call with
  | configure id identity => exact h.configure id identity hstep
  | ingestBlock id identity start finish frames healthy => exact h.ingestBlock hspares hstep
  | invalidatePrebuffer revision => exact h.invalidatePrebuffer revision hstep
  | declareSource source => exact h.declareSource source hstep
  | report id identity untilShowNs healthy => exact h.report hspares hstep
  | invalidatePlanner revision => exact h.invalidatePlanner revision hstep

/-! ## The plan -/

lemma foldl_planSource : ∀ (sources : List CoreShadowSource) (status : CoreShadowPlanStatus),
    let after := sources.foldl planSource status
    after.requiredUntilShowNs = status.requiredUntilShowNs ∧
      after.blockedSources = status.blockedSources + UInt16.ofNat (sources.countP fun source =>
        source.counts && !source.isReady status.requiredUntilShowNs)
  | [], status => by simp
  | source :: sources, status => by
    obtain ⟨huntil, hblocked⟩ := foldl_planSource sources (planSource status source)
    have hone : (planSource status source).requiredUntilShowNs = status.requiredUntilShowNs ∧
        (planSource status source).blockedSources = status.blockedSources +
            if (source.counts && !source.isReady status.requiredUntilShowNs) = true then 1
            else 0 := by
      rw [planSource]
      cases source.counts <;> cases source.isReady status.requiredUntilShowNs <;> simp
    rw [hone.1] at huntil hblocked
    rw [hone.2] at hblocked
    refine ⟨huntil, ?_⟩
    rw [List.foldl_cons, hblocked, List.countP_cons, UInt16.add_assoc, Nat.add_comm,
      UInt16.ofNat_add]
    split <;> rfl

lemma isReady_of_plan {sources : List CoreShadowSource} (hlength : sources.length < 2 ^ 16)
    {target prebufferNs : UInt64}
    (h : (plan sources target prebufferNs).ready = true) :
    ∀ source ∈ sources, source.counts = true → source.isReady (target + prebufferNs) = true := by
  obtain ⟨_, hblocked⟩ := foldl_planSource sources ⟨target, target + prebufferNs, 0, 0, 0, false⟩
  have hnone := (of_decide_eq_true h).2
  rw [hblocked, UInt16.zero_add] at hnone
  have hlt : (sources.countP fun source =>
      source.counts && !source.isReady (target + prebufferNs)) < 2 ^ 16 :=
    Nat.lt_of_le_of_lt List.countP_le_length hlength
  have hzero := congrArg UInt16.toNat hnone
  rw [UInt16.toNat_ofNat_of_lt' hlt, UInt16.toNat_zero, List.countP_eq_zero] at hzero
  intro source hsource hcounts
  refine Bool.eq_true_of_not_eq_false fun hblocked => hzero source hsource ?_
  rw [hcounts, hblocked]
  rfl

/-- **Invalidated sources stay invalid.** In every run of calls that bring no evidence for an
invalidated source under its old identity, such a source is not healthy, has an empty window and does
not count as ready; and a plan that is ready, of two times whose sum does not wrap, has every source
it requires buffered up to that sum. -/
theorem invalidated_stay_invalid {capacity : ℕ} (hcapacity : capacity < 2 ^ 16)
    {calls : List ShadowCall} {r : ShadowRun}
    (h : Reaches step (fun r call => spares r call = true) (initial capacity) calls r) :
    (∀ slot ∈ r.slots, (slot.sourceId, slot.showRevision) ∈ r.invalidSlots →
      slot.healthy = false ∧ slot.contiguousFromShowNs = 0 ∧ slot.bufferedUntilShowNs = 0) ∧
    (∀ source ∈ r.sources, (source.id, source.showRevision) ∈ r.invalidSources →
      source.healthy = false ∧ source.bufferedUntilShowNs = 0 ∧
        ∀ requiredUntilShowNs, source.isReady requiredUntilShowNs = false) ∧
    ∀ target prebufferNs : UInt64, target.toNat + prebufferNs.toNat < 2 ^ 64 →
      (CoreShadowRenderPlanner.plan r.sources target prebufferNs).ready = true →
      ∀ source ∈ r.sources, source.id ≠ 0 → source.required = true →
        target.toNat + prebufferNs.toNat ≤ source.bufferedUntilShowNs.toNat := by
  have hinitial : StaysInvalid capacity (initial capacity) :=
    ⟨fun _ _ hnone => absurd hnone List.not_mem_nil, fun _ _ hnone => absurd hnone List.not_mem_nil,
      List.length_replicate⟩
  have hr := h.invariant hinitial fun _ _ _ ht hspares hstep => ht.of_step hspares hstep
  refine ⟨hr.slots, fun source hsource hinvalid => ?_, ?_⟩
  · obtain ⟨hhealthy, huntil⟩ := hr.sources source hsource hinvalid
    refine ⟨hhealthy, huntil, fun requiredUntilShowNs => ?_⟩
    rw [CoreShadowSource.isReady, hhealthy, Bool.and_false, Bool.false_and]
  · intro target prebufferNs hfits hready source hsource hid hrequired
    have hcounts : source.counts = true := by
      rw [CoreShadowSource.counts, hrequired, Bool.and_true]
      exact decide_eq_true hid
    have hsource := isReady_of_plan (by rw [hr.length]; exact hcapacity) hready source hsource hcounts
    rw [CoreShadowSource.isReady, Bool.and_eq_true, decide_eq_true_eq, UInt64.le_iff_toNat_le,
      UInt64.toNat_add, Nat.mod_eq_of_lt hfits] at hsource
    exact hsource.2

theorem invalidated_stay_invalid_example :
    ∃ r, Reaches step (fun r call => spares r call = true) (initial 64)
        [.configure 1 ⟨3, 5, 77⟩, .ingestBlock 1 ⟨3, 5, 77⟩ 1000 2000 48 true,
          .declareSource ⟨1, 5, 77, 3, 0, true, true, true, false⟩, .report 1 ⟨3, 5, 77⟩ 2000 true,
          .invalidatePrebuffer 6, .invalidatePlanner 6,
          .ingestBlock 1 ⟨3, 5, 77⟩ 2000 3000 48 true] r ∧
      ∀ slot ∈ r.slots, slot.sourceId = 1 → slot.healthy = false := by
  have hrun : (run (fun r call => if spares r call = true then step r call else none) (initial 64)
      [.configure 1 ⟨3, 5, 77⟩, .ingestBlock 1 ⟨3, 5, 77⟩ 1000 2000 48 true,
        .declareSource ⟨1, 5, 77, 3, 0, true, true, true, false⟩, .report 1 ⟨3, 5, 77⟩ 2000 true,
        .invalidatePrebuffer 6, .invalidatePlanner 6,
        .ingestBlock 1 ⟨3, 5, 77⟩ 2000 3000 48 true]).any (fun r => r.slots.all fun slot =>
          slot.sourceId = 1 → (slot.sourceId, slot.showRevision) ∈ r.invalidSlots) = true := by
    decide +kernel
  obtain ⟨r, hr, hinvalid⟩ := (Option.any_eq_true _ _).mp hrun
  refine ⟨r, reaches_of_run hr, fun slot hslot hid => ?_⟩
  have hmem := of_decide_eq_true (List.all_eq_true.mp hinvalid slot hslot) hid
  exact ((invalidated_stay_invalid (by decide) (reaches_of_run hr)).1 slot hslot hmem).1

/-- **Invalidated sources revive.** The first block of a source that has been configured only, and the
next report of any source, are taken after the invalidation as before; and a target at the top of the
range, with a prebuffer of 2 ns, is planned as 1 ns. -/
theorem invalidated_revive : (∃ r, Reaches step Always (initial 64)
        [.configure 1 ⟨3, 5, 77⟩, .invalidatePrebuffer 6,
          .ingestBlock 1 ⟨3, 5, 77⟩ 1000 2000 48 true] r ∧
      r.slots.any (fun slot => (slot.sourceId, slot.showRevision) ∈ r.invalidSlots &&
        slot.healthy && slot.contiguousFromShowNs < slot.bufferedUntilShowNs) = true) ∧
    (∃ r, Reaches step Always (initial 64)
        [.declareSource ⟨1, 5, 77, 3, 0, true, true, true, false⟩, .invalidatePlanner 6,
          .report 1 ⟨3, 5, 77⟩ 5000 true] r ∧
      r.sources.any (fun source => (source.id, source.showRevision) ∈ r.invalidSources &&
        source.isReady 4000) = true) ∧
    (∃ r, Reaches step Always (initial 64)
        [.declareSource ⟨1, 5, 77, 3, 0, true, true, true, false⟩,
          .report 1 ⟨3, 5, 77⟩ 5000 true] r ∧
      (CoreShadowRenderPlanner.plan r.sources (UInt64.ofNat (2 ^ 64 - 1)) 2).ready = true ∧
      r.sources.any (fun source => source.counts &&
        source.bufferedUntilShowNs.toNat < 2 ^ 64 - 1 + 2) = true) := by
  have hblock : (run step (initial 64) [.configure 1 ⟨3, 5, 77⟩, .invalidatePrebuffer 6,
      .ingestBlock 1 ⟨3, 5, 77⟩ 1000 2000 48 true]).any (fun r => r.slots.any (fun slot =>
        (slot.sourceId, slot.showRevision) ∈ r.invalidSlots && slot.healthy &&
          slot.contiguousFromShowNs < slot.bufferedUntilShowNs) = true) = true := by
    decide +kernel
  have hreport : (run step (initial 64)
      [.declareSource ⟨1, 5, 77, 3, 0, true, true, true, false⟩, .invalidatePlanner 6,
        .report 1 ⟨3, 5, 77⟩ 5000 true]).any (fun r => r.sources.any (fun source =>
          (source.id, source.showRevision) ∈ r.invalidSources && source.isReady 4000) = true) =
        true := by decide +kernel
  have hwrap : (run step (initial 64) [.declareSource ⟨1, 5, 77, 3, 0, true, true, true, false⟩,
        .report 1 ⟨3, 5, 77⟩ 5000 true]).any (fun r =>
          (CoreShadowRenderPlanner.plan r.sources (UInt64.ofNat (2 ^ 64 - 1)) 2).ready = true ∧
          r.sources.any (fun source => source.counts &&
            source.bufferedUntilShowNs.toNat < 2 ^ 64 - 1 + 2) = true) = true := by
    decide +kernel
  exact ⟨reaches_always_of_any hblock, reaches_always_of_any hreport, reaches_always_of_any hwrap⟩

end ShadowRun

end StageForge
