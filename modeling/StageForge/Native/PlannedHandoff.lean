import Mathlib.Data.List.Chain
import Mathlib.Data.UInt
import StageForge.Library.TransitionSystem

/-!
# Planned handoff of authority

`CorePlannedHandoff` is the control-plane transaction for a planned transfer of authority: prepared by
the source, acknowledged by the target, committed at a show time under the witness's epoch. The class
checks the boundary and the fencing facts of one transaction; each `prepare` overwrites the record of
the one before.
-/

namespace StageForge

open TransitionSystem

inductive CorePlannedHandoffState
  | idle
  | prepared
  | targetReady
  | committed
  | aborted
  deriving DecidableEq

structure CorePlannedHandoffStatus where
  transactionId : UInt64
  sourceEpoch : UInt64
  targetEpoch : UInt64
  targetShowNs : UInt64
  prepares : UInt64
  commits : UInt64
  aborts : UInt64
  conflicts : UInt64
  state : CorePlannedHandoffState
  allowDegradedProgram : Bool
  programReady : Bool
  authorityCommitted : Bool
  physicalOutputsArmed : Bool
  deriving DecidableEq

namespace CorePlannedHandoff

def initial : CorePlannedHandoffStatus where
  transactionId := 0
  sourceEpoch := 0
  targetEpoch := 0
  targetShowNs := 0
  prepares := 0
  commits := 0
  aborts := 0
  conflicts := 0
  state := .idle
  allowDegradedProgram := false
  programReady := false
  authorityCommitted := false
  physicalOutputsArmed := false

variable (status : CorePlannedHandoffStatus)

def active : Bool := status.state = .prepared ∨ status.state = .targetReady

def refuse : CorePlannedHandoffStatus × Bool :=
  ({ status with conflicts := status.conflicts + 1 }, false)

def prepare (transactionId sourceEpoch targetEpoch targetShowNs : UInt64)
    (allowDegradedProgram : Bool) : CorePlannedHandoffStatus × Bool :=
  if transactionId = 0 ∨ sourceEpoch = 0 ∨ targetEpoch ≤ sourceEpoch ∨ targetShowNs = 0 ∨
      active status = true then refuse status
  else
    ({ transactionId, sourceEpoch, targetEpoch, targetShowNs
       prepares := status.prepares + 1
       commits := status.commits
       aborts := status.aborts
       conflicts := status.conflicts
       state := .prepared
       allowDegradedProgram
       programReady := false
       authorityCommitted := false
       physicalOutputsArmed := false }, true)

def acknowledgeTarget (transactionId : UInt64) (programReady : Bool) :
    CorePlannedHandoffStatus × Bool :=
  if status.state ≠ .prepared ∨ status.transactionId ≠ transactionId ∨
      (programReady = false ∧ status.allowDegradedProgram = false) then refuse status
  else ({ status with programReady, state := .targetReady }, true)

def commit (transactionId observedSourceEpoch witnessEpoch currentShowNs : UInt64) :
    CorePlannedHandoffStatus × Bool :=
  if status.state ≠ .targetReady ∨ status.transactionId ≠ transactionId ∨
      observedSourceEpoch ≠ status.sourceEpoch ∨ witnessEpoch ≠ status.targetEpoch ∨
      currentShowNs < status.targetShowNs then refuse status
  else
    ({ status with
        state := .committed
        authorityCommitted := true
        physicalOutputsArmed := false
        commits := status.commits + 1 }, true)

def abort (transactionId : UInt64) : CorePlannedHandoffStatus × Bool :=
  if active status = false ∨ status.transactionId ≠ transactionId then refuse status
  else
    ({ status with
        state := .aborted
        authorityCommitted := false
        physicalOutputsArmed := false
        aborts := status.aborts + 1 }, true)

end CorePlannedHandoff

/-! ## Runs -/

inductive PlannedHandoffCall
  | prepare (transactionId sourceEpoch targetEpoch targetShowNs : UInt64) (allowDegraded : Bool)
  | acknowledgeTarget (transactionId : UInt64) (programReady : Bool)
  | commit (transactionId observedSourceEpoch witnessEpoch currentShowNs : UInt64)
  | abort (transactionId : UInt64)
  deriving DecidableEq

structure PlannedHandoffRun where
  status : CorePlannedHandoffStatus
  /-- The calls that succeeded, the latest first. -/
  calls : List PlannedHandoffCall
  deriving DecidableEq

namespace PlannedHandoffRun

open CorePlannedHandoff

def initial : PlannedHandoffRun := ⟨CorePlannedHandoff.initial, []⟩

def perform (status : CorePlannedHandoffStatus) :
    PlannedHandoffCall → CorePlannedHandoffStatus × Bool
  | .prepare id source target showNs degraded => prepare status id source target showNs degraded
  | .acknowledgeTarget id ready => acknowledgeTarget status id ready
  | .commit id source witness now => commit status id source witness now
  | .abort id => abort status id

def step (r : PlannedHandoffRun) (call : PlannedHandoffCall) : Option PlannedHandoffRun :=
  let (status, answer) := perform r.status call
  some ⟨status, if answer then call :: r.calls else r.calls⟩

/-- The epochs of the commits, where from and where to, the latest first. -/
def commitEpochs : List PlannedHandoffCall → List (UInt64 × UInt64)
  | [] => []
  | .commit _ source witness _ :: older => (source, witness) :: commitEpochs older
  | .prepare .. :: older => commitEpochs older
  | .acknowledgeTarget .. :: older => commitEpochs older
  | .abort _ :: older => commitEpochs older

/-- The calls before a commit end in the prepare and the acknowledgement it needs. -/
def FoundedOn (older : List PlannedHandoffCall) : PlannedHandoffCall → Prop
  | .commit id source witness now =>
    ∃ ready showNs degraded before,
      older = .acknowledgeTarget id ready :: .prepare id source witness showNs degraded :: before ∧
      source < witness ∧ showNs ≤ now ∧ (ready = true ∨ degraded = true)
  | _ => True

/-- Every commit of a run is founded on what came before it. -/
def Founded (calls : List PlannedHandoffCall) : Prop :=
  ∀ newer call older, calls = newer ++ call :: older → FoundedOn older call

/-! ## The record and the calls -/

/-- What the record says of a transaction under way. -/
def Records (status : CorePlannedHandoffStatus) (calls : List PlannedHandoffCall) : Prop :=
  match status.state with
  | .prepared =>
    status.sourceEpoch < status.targetEpoch ∧ ∃ before,
      calls = .prepare status.transactionId status.sourceEpoch status.targetEpoch
        status.targetShowNs status.allowDegradedProgram :: before
  | .targetReady =>
    status.sourceEpoch < status.targetEpoch ∧
    (status.programReady = true ∨ status.allowDegradedProgram = true) ∧ ∃ before,
      calls = .acknowledgeTarget status.transactionId status.programReady ::
        .prepare status.transactionId status.sourceEpoch status.targetEpoch
          status.targetShowNs status.allowDegradedProgram :: before
  | _ => True

structure Accounted (r : PlannedHandoffRun) : Prop where
  records : Records r.status r.calls
  founded : Founded r.calls

variable {call : PlannedHandoffCall} {calls : List PlannedHandoffCall}

lemma Founded.cons
    (h : Founded calls) (hcall : FoundedOn calls call) : Founded (call :: calls) := by
  intro newer other older hcalls
  cases newer with
  | nil =>
    rw [List.nil_append, List.cons.injEq] at hcalls
    rw [← hcalls.1, ← hcalls.2]
    exact hcall
  | cons first newer =>
    rw [List.cons_append, List.cons.injEq] at hcalls
    exact h newer other older hcalls.2

variable {r : PlannedHandoffRun}

lemma Accounted.refused (h : Accounted r) : Accounted ⟨(refuse r.status).1, r.calls⟩ :=
  ⟨h.records, h.founded⟩

variable {after : PlannedHandoffRun}

lemma Accounted.prepare (h : Accounted r) (id source target showNs : UInt64) (degraded : Bool)
    (hstep : step r (.prepare id source target showNs degraded) = some after) :
    Accounted after := by
  simp only [step, perform, CorePlannedHandoff.prepare] at hstep
  split at hstep
  · cases hstep
    exact h.refused
  · rename_i hchecks
    cases hstep
    push Not at hchecks
    exact ⟨⟨UInt64.not_le.mp hchecks.2.2.1, r.calls, rfl⟩, h.founded.cons trivial⟩

lemma Accounted.acknowledge (h : Accounted r) (id : UInt64) (ready : Bool)
    (hstep : step r (.acknowledgeTarget id ready) = some after) :
    Accounted after := by
  simp only [step, perform, acknowledgeTarget] at hstep
  split at hstep
  · cases hstep
    exact h.refused
  · rename_i hchecks
    cases hstep
    push Not at hchecks
    obtain ⟨hstate, hid, hready⟩ := hchecks
    obtain ⟨hepochs, before, hcalls⟩ : _ ∧ ∃ before, _ := by
      simpa only [Records, hstate] using h.records
    refine ⟨⟨hepochs, ?_, before, by rw [hcalls, hid]; rfl⟩, h.founded.cons trivial⟩
    cases ready with
    | true => exact .inl rfl
    | false => exact .inr (Bool.eq_true_of_not_eq_false (hready rfl))

lemma Accounted.commit (h : Accounted r) (id source witness now : UInt64)
    (hstep : step r (.commit id source witness now) = some after) :
    Accounted after := by
  simp only [step, perform, CorePlannedHandoff.commit] at hstep
  split at hstep
  · cases hstep
    exact h.refused
  · rename_i hchecks
    cases hstep
    push Not at hchecks
    obtain ⟨hstate, hid, hsource, hwitness, hshow⟩ := hchecks
    obtain ⟨hepochs, hready, before, hcalls⟩ : _ ∧ _ ∧ ∃ before, _ := by
      simpa only [Records, hstate] using h.records
    rw [← hsource, ← hwitness, hid] at hcalls
    rw [← hsource, ← hwitness] at hepochs
    exact ⟨trivial,
      h.founded.cons ⟨_, _, _, before, hcalls, hepochs, UInt64.not_lt.mp hshow, hready⟩⟩

lemma Accounted.abort (h : Accounted r) (id : UInt64)
    (hstep : step r (.abort id) = some after) : Accounted after := by
  simp only [step, perform, CorePlannedHandoff.abort] at hstep
  split at hstep
  · cases hstep
    exact h.refused
  · cases hstep
    exact ⟨trivial, h.founded.cons trivial⟩

theorem Accounted.of_step (h : Accounted r)
    (hstep : step r call = some after) : Accounted after := by
  cases call with
  | prepare id source target showNs degraded => exact h.prepare id source target showNs degraded hstep
  | acknowledgeTarget id ready => exact h.acknowledge id ready hstep
  | commit id source witness now => exact h.commit id source witness now hstep
  | abort id => exact h.abort id hstep

theorem accounted_of_reaches (h : Reaches step Always initial calls r) : Accounted r := by
  have hinitial : Accounted initial := by
    refine ⟨trivial, ?_⟩
    intro newer call older hcalls
    exact absurd hcalls.symm (List.append_ne_nil_of_right_ne_nil _ (List.cons_ne_nil _ _))
  exact h.invariant hinitial fun _ _ _ ht _ hstep => ht.of_step hstep

/-! ## Epochs over a run -/

lemma Founded.of_cons (h : Founded (call :: calls)) : Founded calls :=
  fun newer other older hcalls => h (call :: newer) other older (by rw [hcalls, List.cons_append])

lemma Founded.epochs_rise : ∀ {calls : List PlannedHandoffCall}, Founded calls →
    ∀ epochs ∈ commitEpochs calls, epochs.1 < epochs.2
  | [], _ => by simp [commitEpochs]
  | .prepare .. :: _, h => h.of_cons.epochs_rise
  | .acknowledgeTarget .. :: _, h => h.of_cons.epochs_rise
  | .abort _ :: _, h => h.of_cons.epochs_rise
  | .commit _ _ _ _ :: _, h => by
    intro epochs hmem
    rw [commitEpochs, List.mem_cons] at hmem
    rcases hmem with rfl | hmem
    · obtain ⟨_, _, _, _, _, hrise, _⟩ := h [] _ _ rfl
      exact hrise
    · exact h.of_cons.epochs_rise epochs hmem

/-- Where each handoff starts from an epoch at least as high as the last one has led to, the epochs
increase over the whole run. -/
lemma epochs_increase {epochs : List (UInt64 × UInt64)} (hrise : ∀ e ∈ epochs, e.1 < e.2)
    (hchain : epochs.IsChain fun later earlier => earlier.2 ≤ later.1) :
    (epochs.map Prod.snd).Pairwise (· > ·) := by
  have hpairs : (epochs.map Prod.snd).IsChain (· > ·) := by
    rw [List.isChain_map]
    refine hchain.imp_of_mem_imp ?_
    intro later earlier hlater _ hle
    exact UInt64.lt_of_le_of_lt hle (hrise later hlater)
  exact hpairs.pairwise

lemma Founded.prepared_between {calls newer middle older : List PlannedHandoffCall}
    (h : Founded calls) {id source witness now id₀ source₀ witness₀ now₀ : UInt64}
    (hcalls : calls = newer ++
      .commit id source witness now :: (middle ++ .commit id₀ source₀ witness₀ now₀ :: older)) :
    ∃ showNs degraded, .prepare id source witness showNs degraded ∈ middle := by
  obtain ⟨ready, showNs, degraded, before, hbefore, _⟩ := h newer _ _ hcalls
  match middle with
  | [] => simp at hbefore
  | [_] => simp at hbefore
  | _ :: second :: rest =>
    simp only [List.cons_append, List.cons.injEq] at hbefore
    refine ⟨showNs, degraded, ?_⟩
    rw [← hbefore.2.1]
    exact List.mem_cons_of_mem _ List.mem_cons_self

/-- **Commits are founded.** In every run of the class a commit follows on a prepare and an
acknowledgement of its transaction, at or after the prepared show time and with both epochs as they
were prepared; no prepare is committed twice; and the epochs increase from commit to commit where each
handoff starts from an epoch that is no older than the last one committed. -/
theorem commits_are_founded {calls : List PlannedHandoffCall} {r : PlannedHandoffRun}
    (h : Reaches step Always initial calls r) :
    Founded r.calls ∧
    (∀ newer middle older id source witness now id₀ source₀ witness₀ now₀, r.calls = newer ++
        .commit id source witness now :: (middle ++ .commit id₀ source₀ witness₀ now₀ :: older) →
      ∃ showNs degraded, .prepare id source witness showNs degraded ∈ middle) ∧
    ((commitEpochs r.calls).IsChain (fun later earlier => earlier.2 ≤ later.1) →
      ((commitEpochs r.calls).map Prod.snd).Pairwise (· > ·)) := by
  have hfounded : Founded r.calls := (accounted_of_reaches h).founded
  refine ⟨hfounded, ?_, epochs_increase hfounded.epochs_rise⟩
  intro newer middle older id source witness now id₀ source₀ witness₀ now₀ hcalls
  exact hfounded.prepared_between hcalls

theorem commits_are_founded_example : ∃ r, Reaches step Always initial
        [.prepare 42 7 8 10000 false, .acknowledgeTarget 42 true, .commit 42 7 8 10000,
          .prepare 50 8 9 20000 true, .acknowledgeTarget 50 false, .commit 50 8 9 20000] r ∧
      commitEpochs r.calls = [(8, 9), (7, 8)] ∧
      ((commitEpochs r.calls).map Prod.snd).Pairwise (· > ·) := by
  have hrun : (run step initial
      [.prepare 42 7 8 10000 false, .acknowledgeTarget 42 true, .commit 42 7 8 10000,
        .prepare 50 8 9 20000 true, .acknowledgeTarget 50 false, .commit 50 8 9 20000]).any
      (fun r => commitEpochs r.calls = [(8, 9), (7, 8)]) = true := by decide +kernel
  obtain ⟨r, hr, hepochs⟩ := reaches_always_of_any hrun
  refine ⟨r, hr, hepochs, (commits_are_founded hr).2.2 ?_⟩
  rw [hepochs]
  decide

/-- **Committed epochs may fall.** A second transaction, prepared with epochs below the first one's,
is committed like any other. -/
theorem committed_epochs_fall : ∃ r, Reaches step Always initial
        [.prepare 1 5 6 10 false, .acknowledgeTarget 1 true, .commit 1 5 6 10,
          .prepare 2 1 2 20 false, .acknowledgeTarget 2 true, .commit 2 1 2 20] r ∧
      commitEpochs r.calls = [(1, 2), (5, 6)] := by
  have hrun : (run step initial
      [.prepare 1 5 6 10 false, .acknowledgeTarget 1 true, .commit 1 5 6 10,
        .prepare 2 1 2 20 false, .acknowledgeTarget 2 true, .commit 2 1 2 20]).any
      (fun r => commitEpochs r.calls = [(1, 2), (5, 6)]) = true := by decide +kernel
  exact reaches_always_of_any hrun

end PlannedHandoffRun

end StageForge
