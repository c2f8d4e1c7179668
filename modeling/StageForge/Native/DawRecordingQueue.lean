import Mathlib
import StageForge.Library.TransitionSystem

/-!
# The recording queue of a track

`DawRecordingQueue` of `native/daw_recording_queue.hpp`, for one track: a submitting thread that never waits
and a control thread that arms, disarms and pops. A gate of two bits says whether the track is armed and
whether a submit is under way; a disarm closes the gate and waits for the submit that is inside.
-/

namespace StageForge

open TransitionSystem

structure RecordingBlock (α : Type) where
  generation : ℕ
  sequence : ℕ
  frames : ℕ
  /-- The frame of the show and the samples. -/
  payload : α
  deriving DecidableEq

/-- `State`: the counters, the ring and the two bits of the gate. -/
structure RecordingTrack (α : Type) where
  blocks : ℕ → RecordingBlock α
  write : ℕ := 0
  read : ℕ := 0
  lastSequence : ℕ := 0
  generation : ℕ := 0
  submitted : ℕ := 0
  written : ℕ := 0
  dropped : ℕ := 0
  stale : ℕ := 0
  sequenceGaps : ℕ := 0
  armed : Bool := false
  writing : Bool := false

/-- A block, and what the gate was when it came in. -/
structure BlockAdmission (α : Type) where
  block : RecordingBlock α
  generation : ℕ
  armed : Bool

inductive SubmitStep (α : Type)
  | idle
  | enter (block : RecordingBlock α)
  | countStale
  | checkGeneration (e : BlockAdmission α)
  /-- The block has another generation. -/
  | countOld
  | loadWrite (e : BlockAdmission α)
  | loadRead (e : BlockAdmission α) (w : ℕ)
  | countDropped
  | copy (e : BlockAdmission α) (w : ℕ)
  | publish (e : BlockAdmission α) (w : ℕ)
  | countSubmitted
  | release

/-- Where the control thread stands; `rearm` says that a disarm is the first part of an arm. -/
inductive ControlStep (α : Type)
  | idle
  | close (rearm : Bool)
  | spin (rearm : Bool)
  | loadWrite
  | storeRead (w : ℕ)
  | clearSequence
  | nextGeneration
  | openGate
  | popRead
  | popWrite (r : ℕ)
  | popCopy (r : ℕ)
  | popGap (r : ℕ) (block : RecordingBlock α)
  | popSequence (r : ℕ) (block : RecordingBlock α)
  | popStore (r : ℕ) (block : RecordingBlock α)
  | popCount

structure RecordingEra (α : Type) where
  generation : ℕ
  admissions : List (BlockAdmission α) := []
  popped : List (RecordingBlock α) := []
  /-- What the next arm finds in the queue. -/
  dropped : List (RecordingBlock α) := []

def RecordingEra.admitted {α : Type} (era : RecordingEra α) : List (RecordingBlock α) :=
  era.admissions.map BlockAdmission.block

structure RecordingSystem (α : Type) where
  track : RecordingTrack α
  submitter : SubmitStep α := .idle
  control : ControlStep α := .idle
  /-- The eras that an arm has ended. -/
  ended : List (RecordingEra α) := []
  era : RecordingEra α := { generation := 0 }
  /-- The blocks of all calls of `submit`, in order. -/
  calls : List (RecordingBlock α) := []

/-- A call of one of the threads, or its next step. -/
inductive RecordingAction (α : Type)
  | submit (block : RecordingBlock α)
  | submitter
  | arm (acknowledged : Bool)
  | disarm
  | pop
  | control

variable {α : Type}

section

variable (capacity blockFrames : ℕ)

def RecordingTrack.queued (t : RecordingTrack α) : List (RecordingBlock α) :=
  (List.range (t.write - t.read)).map fun i => t.blocks ((t.read + i) % capacity)

/-- The next step of `submit`. -/
def submitStep (s : RecordingSystem α) : Option (RecordingSystem α) := let t := s.track
  match s.submitter with
  | .idle => none
  | .enter block =>
    if t.armed = true ∧ t.writing = false then
      some { s with
        track := { t with writing := true }
        submitter := .checkGeneration ⟨block, t.generation, t.armed⟩ }
    else some { s with submitter := .countStale }
  | .countStale => some { s with track := { t with stale := t.stale + 1 }, submitter := .idle }
  | .checkGeneration e =>
    if e.block.generation ≠ t.generation then some { s with submitter := .countOld }
    else some { s with submitter := .loadWrite e }
  | .countOld => some { s with track := { t with stale := t.stale + 1 }, submitter := .release }
  | .loadWrite e => some { s with submitter := .loadRead e t.write }
  | .loadRead e w =>
    if capacity ≤ w - t.read then some { s with submitter := .countDropped }
    else some { s with submitter := .copy e w }
  | .countDropped => some { s with track := { t with dropped := t.dropped + 1 }, submitter := .release }
  | .copy e w =>
    some { s with
      track := { t with blocks := Function.update t.blocks (w % capacity) e.block }
      submitter := .publish e w }
  | .publish e w =>
    some { s with
      track := { t with write := w + 1 }
      submitter := .countSubmitted
      era := { s.era with admissions := s.era.admissions ++ [e] } }
  | .countSubmitted => some { s with track := { t with submitted := t.submitted + 1 }, submitter := .release }
  | .release => some { s with track := { t with writing := false }, submitter := .idle }

/-- The next step of `arm`, `disarm` or `pop`. -/
def controlStep (s : RecordingSystem α) : Option (RecordingSystem α) := let t := s.track
  match s.control with
  | .idle => none
  | .close rearm => some { s with track := { t with armed := false }, control := .spin rearm }
  | .spin rearm =>
    if t.writing = true then some s
    else some { s with control := if rearm then .loadWrite else .idle }
  | .loadWrite => some { s with control := .storeRead t.write }
  | .storeRead w =>
    some { s with
      track := { t with read := w }
      control := .clearSequence
      ended := s.ended ++ [{ s.era with dropped := t.queued capacity }]
      era := { generation := t.generation + 1 } }
  | .clearSequence => some { s with track := { t with lastSequence := 0 }, control := .nextGeneration }
  | .nextGeneration => some { s with track := { t with generation := t.generation + 1 }, control := .openGate }
  | .openGate => some { s with track := { t with armed := true, writing := false }, control := .idle }
  | .popRead => some { s with control := .popWrite t.read }
  | .popWrite r => some { s with control := if r = t.write then .idle else .popCopy r }
  | .popCopy r => some { s with control := .popGap r (t.blocks (r % capacity)) }
  | .popGap r block =>
    some { s with
      track := { t with
        sequenceGaps := t.sequenceGaps +
          if t.lastSequence ≠ 0 ∧ block.sequence ≠ t.lastSequence + 1 then 1 else 0 }
      control := .popSequence r block }
  | .popSequence r block =>
    some { s with track := { t with lastSequence := block.sequence }, control := .popStore r block }
  | .popStore r block =>
    some { s with
      track := { t with read := r + 1 }
      control := .popCount
      era := { s.era with popped := s.era.popped ++ [block] } }
  | .popCount => some { s with track := { t with written := t.written + 1 }, control := .idle }

def recordingStep (s : RecordingSystem α) : RecordingAction α → Option (RecordingSystem α)
  | .submit block =>
    match s.submitter with
    | .idle =>
      if block.frames = 0 ∨ blockFrames < block.frames then some { s with calls := s.calls ++ [block] }
      else some { s with submitter := .enter block, calls := s.calls ++ [block] }
    | _ => none
  | .submitter => submitStep capacity s
  | .arm acknowledged =>
    match s.control with
    | .idle => if acknowledged then some { s with control := .close true } else some s
    | _ => none
  | .disarm =>
    match s.control with
    | .idle => some { s with control := .close false }
    | _ => none
  | .pop =>
    match s.control with
    | .idle => some { s with control := .popRead }
    | _ => none
  | .control => controlStep capacity s

end

/-! ## What holds between any two steps -/

def SubmitStep.Inside : SubmitStep α → Prop
  | .idle | .enter _ | .countStale => False
  | _ => True

/-- An arm has closed the gate and found nobody inside. -/
def ControlStep.Alone : ControlStep α → Prop
  | .loadWrite | .storeRead _ | .clearSequence | .nextGeneration | .openGate => True
  | _ => False

def ControlStep.Closed : ControlStep α → Prop
  | .spin _ => True
  | c => c.Alone

/-- The queue has been emptied for the next era. -/
def ControlStep.Emptied : ControlStep α → Prop
  | .clearSequence | .nextGeneration | .openGate => True
  | _ => False

/-- How far the generation of the era is ahead of that of the track. -/
def ControlStep.ahead : ControlStep α → ℕ
  | .clearSequence | .nextGeneration => 1
  | _ => 0

section

variable (capacity : ℕ)

/-- An admission was let in by an open gate, and has the generation of the track. -/
def BlockAdmission.Current (e : BlockAdmission α) (t : RecordingTrack α) : Prop :=
  e.armed = true ∧ e.generation = t.generation

def SubmitStep.Knows (t : RecordingTrack α) : SubmitStep α → Prop
  | .checkGeneration e => e.Current t
  | .loadWrite e => e.Current t ∧ e.block.generation = e.generation
  | .loadRead e w => e.Current t ∧ e.block.generation = e.generation ∧ w = t.write
  | .copy e w =>
    e.Current t ∧ e.block.generation = e.generation ∧ w = t.write ∧ t.write - t.read < capacity
  | .publish e w =>
    e.Current t ∧ e.block.generation = e.generation ∧ w = t.write ∧ t.write - t.read < capacity ∧
      t.blocks (t.write % capacity) = e.block
  | _ => True

def SubmitStep.pending : SubmitStep α → List (RecordingBlock α)
  | .enter block => [block]
  | .checkGeneration e | .loadWrite e | .loadRead e _ | .copy e _ | .publish e _ => [e.block]
  | _ => []

def ControlStep.Knows (t : RecordingTrack α) : ControlStep α → Prop
  | .storeRead w => w = t.write
  | .popWrite r => r = t.read
  | .popCopy r => r = t.read ∧ t.read < t.write
  | .popGap r block | .popSequence r block | .popStore r block =>
    r = t.read ∧ t.read < t.write ∧ block = t.blocks (t.read % capacity)
  | _ => True

structure RecordingEra.Ended (era : RecordingEra α) : Prop where
  admitted : era.admitted = era.popped ++ era.dropped
  armed : ∀ e ∈ era.admissions, e.armed = true ∧ e.generation = era.generation ∧
    e.block.generation = era.generation

structure RecordingSystem.Inv (s : RecordingSystem α) : Prop where
  read_le : s.track.read ≤ s.track.write
  size_le : s.track.write - s.track.read ≤ capacity
  writing : s.track.writing = true ↔ s.submitter.Inside
  knows : s.submitter.Knows capacity s.track
  control : s.control.Knows capacity s.track
  closed : s.control.Closed → s.track.armed = false
  alone : s.control.Alone → s.track.writing = false
  emptied : s.control.Emptied → s.track.read = s.track.write
  generation : s.era.generation = s.track.generation + s.control.ahead
  admitted : s.era.admitted = s.era.popped ++ s.track.queued capacity
  armed : ∀ e ∈ s.era.admissions, e.armed = true ∧ e.generation = s.era.generation ∧
    e.block.generation = s.era.generation
  ended : ∀ era ∈ s.ended, era.Ended
  increasing : (s.ended.map RecordingEra.generation ++ [s.era.generation]).Pairwise (· < ·)
  order : (s.ended.flatMap RecordingEra.admitted ++ s.era.admitted ++ s.submitter.pending).Sublist s.calls

end

/-! ## The ring -/

section

variable {capacity : ℕ} {t : RecordingTrack α} {block : RecordingBlock α}

lemma cell_ne {i : ℕ} (hsize : t.write - t.read < capacity) (hi : i < t.write - t.read) :
    (t.read + i) % capacity ≠ t.write % capacity := by
  intro heq
  have hdvd := (Nat.modEq_iff_dvd' (by omega : t.read + i ≤ t.write)).mp heq
  have hle := Nat.le_of_dvd (by omega) hdvd
  omega

lemma head_cell_ne (hsize : t.write - t.read < capacity) (hlt : t.read < t.write) :
    t.read % capacity ≠ t.write % capacity := by
  have hne := cell_ne (i := 0) hsize (by omega)
  rwa [Nat.add_zero] at hne

lemma queued_copy (hsize : t.write - t.read < capacity) : RecordingTrack.queued capacity
        { t with blocks := Function.update t.blocks (t.write % capacity) block } = t.queued capacity := by
  refine List.map_congr_left fun i hi => ?_
  exact Function.update_of_ne (cell_ne hsize (List.mem_range.mp hi)) _ _

lemma queued_publish (hle : t.read ≤ t.write) :
    RecordingTrack.queued capacity { t with write := t.write + 1 } =
      t.queued capacity ++ [t.blocks (t.write % capacity)] := by
  unfold RecordingTrack.queued
  rw [show t.write + 1 - t.read = (t.write - t.read) + 1 by omega, List.range_succ, List.map_append,
    List.map_singleton, Nat.add_sub_cancel' hle]

lemma queued_pop (hlt : t.read < t.write) : t.queued capacity =
      t.blocks (t.read % capacity) :: RecordingTrack.queued capacity { t with read := t.read + 1 } := by
  unfold RecordingTrack.queued
  rw [show t.write - t.read = (t.write - (t.read + 1)) + 1 by omega, List.range_succ_eq_map, List.map_cons,
    List.map_map, Nat.add_zero]
  refine congrArg _ (List.map_congr_left fun i _ => ?_)
  rw [Function.comp_apply, Nat.succ_eq_add_one, show t.read + (i + 1) = t.read + 1 + i by omega]

lemma queued_of_empty (h : t.read = t.write) : t.queued capacity = [] := by
  unfold RecordingTrack.queued
  rw [h, Nat.sub_self]
  rfl

end

/-! ## Steps -/

section

variable {capacity blockFrames : ℕ} {s s' : RecordingSystem α} {action : RecordingAction α}

lemma knows_of_outside {submitter : SubmitStep α} (h : ¬submitter.Inside) (t : RecordingTrack α) :
    submitter.Knows capacity t := by
  cases submitter with
  | idle => trivial
  | enter block => trivial
  | countStale => trivial
  | _ => exact absurd trivial h

lemma RecordingSystem.Inv.outside (h : s.Inv capacity) (halone : s.control.Alone) : ¬s.submitter.Inside := by
  intro hinside
  have hwriting := h.writing.mpr hinside
  rw [h.alone halone] at hwriting
  cases hwriting

variable {c : ControlStep α}

lemma alone_of_emptied (h : c.Emptied) : c.Alone := by
  cases c <;> first | exact h | trivial

lemma closed_of_alone (h : c.Alone) : c.Closed := by
  cases c <;> first | exact h | trivial

lemma RecordingSystem.Inv.not_alone (h : s.Inv capacity) (hinside : s.submitter.Inside) :
    ¬s.control.Alone := fun halone => h.outside halone hinside

lemma control_knows_copy {t : RecordingTrack α} {block : RecordingBlock α}
    (h : c.Knows capacity t) (hsize : t.write - t.read < capacity) :
    c.Knows capacity { t with blocks := Function.update t.blocks (t.write % capacity) block } := by
  have hcell : t.read < t.write →
      Function.update t.blocks (t.write % capacity) block (t.read % capacity) = t.blocks (t.read % capacity) :=
    fun hlt => Function.update_of_ne (head_cell_ne hsize hlt) _ _
  cases c with
  | popGap r b => exact ⟨h.1, h.2.1, h.2.2.trans (hcell h.2.1).symm⟩
  | popSequence r b => exact ⟨h.1, h.2.1, h.2.2.trans (hcell h.2.1).symm⟩
  | popStore r b => exact ⟨h.1, h.2.1, h.2.2.trans (hcell h.2.1).symm⟩
  | _ => exact h

lemma control_knows_publish {t : RecordingTrack α} (h : c.Knows capacity t)
    (halone : ¬c.Alone) : c.Knows capacity { t with write := t.write + 1 } := by
  cases c with
  | storeRead w => exact absurd trivial halone
  | popCopy r => exact ⟨h.1, h.2.trans (Nat.lt_succ_self _)⟩
  | popGap r b => exact ⟨h.1, h.2.1.trans (Nat.lt_succ_self _), h.2.2⟩
  | popSequence r b => exact ⟨h.1, h.2.1.trans (Nat.lt_succ_self _), h.2.2⟩
  | popStore r b => exact ⟨h.1, h.2.1.trans (Nat.lt_succ_self _), h.2.2⟩
  | _ => exact h

lemma forget_pending {admitted pending calls : List (RecordingBlock α)}
    (h : (admitted ++ pending).Sublist calls) : (admitted ++ []).Sublist calls := by
  rw [List.append_nil]
  exact (List.sublist_append_left _ _).trans h

/-- **A step of the submitting thread keeps the invariant.** One case for each place it stands at. -/
lemma inv_submitStep (h : s.Inv capacity) (hstep : submitStep capacity s = some s') : s'.Inv capacity := by
  have hwriting := h.writing
  have hknows := h.knows
  have horder := h.order
  unfold submitStep at hstep
  cases hat : s.submitter with
  | idle =>
    rw [hat] at hstep
    cases hstep
  | enter block =>
    rw [hat] at hstep hwriting horder
    dsimp only at hstep
    split at hstep
    · next hopen =>
        cases hstep
        refine { h with writing := ⟨fun _ => trivial, fun _ => rfl⟩, knows := ⟨hopen.1, rfl⟩, alone := ?_, order := horder }
        intro halone
        have hclosed := h.closed (closed_of_alone halone)
        rw [hopen.1] at hclosed
        cases hclosed
    · cases hstep
      exact { h with writing := hwriting, knows := trivial, order := forget_pending horder }
  | countStale =>
    rw [hat] at hstep hwriting horder
    cases hstep
    exact { h with writing := hwriting, knows := trivial, order := horder }
  | checkGeneration e =>
    rw [hat] at hstep hwriting horder hknows
    dsimp only at hstep
    split at hstep
    · cases hstep
      exact { h with writing := hwriting, knows := trivial, order := forget_pending horder }
    · next heq =>
        cases hstep
        exact { h with
          writing := hwriting
          knows := ⟨hknows, (not_not.mp heq).trans hknows.2.symm⟩
          order := horder }
  | countOld =>
    rw [hat] at hstep hwriting horder
    cases hstep
    exact { h with writing := hwriting, knows := trivial, order := horder }
  | loadWrite e =>
    rw [hat] at hstep hwriting horder hknows
    cases hstep
    exact { h with writing := hwriting, knows := ⟨hknows.1, hknows.2, rfl⟩, order := horder }
  | loadRead e w =>
    rw [hat] at hstep hwriting horder hknows
    dsimp only at hstep
    split at hstep
    · cases hstep
      exact { h with writing := hwriting, knows := trivial, order := forget_pending horder }
    · next hroom =>
        cases hstep
        obtain ⟨hcurrent, hgeneration, rfl⟩ := hknows
        exact { h with
          writing := hwriting
          knows := ⟨hcurrent, hgeneration, rfl, not_le.mp hroom⟩
          order := horder }
  | countDropped =>
    rw [hat] at hstep hwriting horder
    cases hstep
    exact { h with writing := hwriting, knows := trivial, order := horder }
  | copy e w =>
    rw [hat] at hstep hwriting horder hknows
    cases hstep
    obtain ⟨hcurrent, hgeneration, rfl, hsize⟩ := hknows
    exact { h with
      writing := hwriting
      knows := ⟨hcurrent, hgeneration, rfl, hsize, Function.update_self _ _ _⟩
      control := control_knows_copy h.control hsize
      admitted := h.admitted.trans (congrArg (s.era.popped ++ ·) (queued_copy hsize).symm)
      order := horder }
  | publish e w =>
    rw [hat] at hstep hwriting horder hknows
    cases hstep
    obtain ⟨hcurrent, hgeneration, rfl, hsize, hcell⟩ := hknows
    have halone : ¬s.control.Alone := h.not_alone (by rw [hat]; trivial)
    have hahead : s.control.ahead = 0 := by
      cases hc : s.control <;> rw [hc] at halone <;> first | rfl | exact absurd trivial halone
    have hera : s.era.generation = s.track.generation := by rw [h.generation, hahead, Nat.add_zero]
    refine { h with
      read_le := h.read_le.trans (Nat.le_succ _)
      size_le := ?_
      writing := hwriting
      knows := trivial
      control := control_knows_publish h.control halone
      emptied := fun hempty => absurd (alone_of_emptied hempty) halone
      admitted := ?_
      armed := ?_
      order := ?_ }
    · change s.track.write + 1 - s.track.read ≤ capacity
      omega
    · change (s.era.admissions ++ [e]).map BlockAdmission.block = _
      rw [queued_publish h.read_le, hcell, List.map_append, ← List.append_assoc]
      exact congrArg (· ++ [e.block]) h.admitted
    · intro e' he'
      rcases List.mem_append.mp he' with hold | hnew
      · exact h.armed e' hold
      · rw [List.mem_singleton.mp hnew]
        refine ⟨hcurrent.1, hcurrent.2.trans hera.symm, ?_⟩
        exact (hgeneration.trans hcurrent.2).trans hera.symm
    · change ((s.ended.flatMap RecordingEra.admitted ++ (s.era.admissions ++ [e]).map BlockAdmission.block) ++
        []).Sublist s.calls
      rw [List.append_nil, List.map_append, ← List.append_assoc]
      exact horder
  | countSubmitted =>
    rw [hat] at hstep hwriting horder
    cases hstep
    exact { h with writing := hwriting, knows := trivial, order := horder }
  | release =>
    rw [hat] at hstep hwriting horder
    cases hstep
    exact { h with
      writing := iff_of_false (by simp) id
      knows := trivial
      alone := fun _ => rfl
      order := horder }

lemma knows_congr {c : SubmitStep α} {t t' : RecordingTrack α} (h : c.Knows capacity t)
    (hblocks : t'.blocks = t.blocks) (hwrite : t'.write = t.write) (hread : t.read ≤ t'.read)
    (hgeneration : t'.generation = t.generation) : c.Knows capacity t' := by
  have hcurrent {e : BlockAdmission α} (he : e.Current t) : e.Current t' := ⟨he.1, he.2.trans hgeneration.symm⟩
  cases c with
  | checkGeneration e => exact hcurrent h
  | loadWrite e => exact ⟨hcurrent h.1, h.2⟩
  | loadRead e w => exact ⟨hcurrent h.1, h.2.1, h.2.2.trans hwrite.symm⟩
  | copy e w =>
    refine ⟨hcurrent h.1, h.2.1, h.2.2.1.trans hwrite.symm, ?_⟩
    have hsize := h.2.2.2
    omega
  | publish e w =>
    refine ⟨hcurrent h.1, h.2.1, h.2.2.1.trans hwrite.symm, ?_, ?_⟩
    · have hsize := h.2.2.2.1
      omega
    · rw [hblocks, hwrite]
      exact h.2.2.2.2
  | _ => trivial

/-- Away from a closed gate the control thread only counts. -/
lemma RecordingSystem.Inv.counts {lastSequence sequenceGaps written : ℕ} {c₀ : ControlStep α}
    (h : s.Inv capacity) (hat : s.control = c₀) (hahead : c₀.ahead = 0) (hopen : ¬c.Closed) (hknows : c.Knows capacity s.track) :
    RecordingSystem.Inv capacity { s with
      track := { s.track with
        lastSequence := lastSequence
        sequenceGaps := sequenceGaps
        written := written }
      control := c } :=
  have hopenAhead : c.ahead = 0 := by cases c <;> first | rfl | exact absurd trivial hopen
  { h with
    knows := knows_congr h.knows rfl rfl (le_refl _) rfl
    control := by cases c <;> exact hknows
    closed := fun hclosed => absurd hclosed hopen
    alone := fun halone => absurd (closed_of_alone halone) hopen
    emptied := fun hempty => absurd (closed_of_alone (alone_of_emptied hempty)) hopen
    generation := by rw [h.generation, hat, hahead, hopenAhead] }

/-- **A step of the control thread keeps the invariant.** One case for each place it stands at. -/
lemma inv_controlStep (h : s.Inv capacity) (hstep : controlStep capacity s = some s') : s'.Inv capacity := by
  have hcontrol := h.control
  have hclosed := h.closed
  have halone := h.alone
  have hemptied := h.emptied
  have hgeneration := h.generation
  unfold controlStep at hstep
  cases hat : s.control with
  | idle =>
    rw [hat] at hstep
    cases hstep
  | close rearm =>
    rw [hat] at hstep hgeneration
    cases hstep
    exact { h with
      knows := knows_congr h.knows rfl rfl (le_refl _) rfl
      control := trivial
      closed := fun _ => rfl
      alone := False.elim
      emptied := False.elim
      generation := hgeneration }
  | spin rearm =>
    rw [hat] at hstep hclosed hgeneration
    dsimp only at hstep
    split at hstep
    · cases hstep
      exact h
    · next hidle =>
        have hfree : s.track.writing = false := by simpa using hidle
        cases hstep
        cases rearm with
        | true =>
          exact { h with
            control := trivial
            closed := fun _ => hclosed trivial
            alone := fun _ => hfree
            emptied := False.elim
            generation := hgeneration }
        | false => exact h.counts hat rfl id trivial
  | loadWrite =>
    rw [hat] at hstep hclosed halone hgeneration
    cases hstep
    exact { h with
      control := rfl
      closed := fun _ => hclosed trivial
      alone := fun _ => halone trivial
      emptied := False.elim
      generation := hgeneration }
  | storeRead w =>
    have houtside : ¬s.submitter.Inside := h.outside (by rw [hat]; trivial)
    rw [hat] at hstep hcontrol hclosed halone hgeneration
    cases hstep
    obtain rfl : w = s.track.write := hcontrol
    have hera : s.era.generation = s.track.generation := hgeneration
    refine { h with
      read_le := le_refl _
      size_le := ?_
      knows := knows_of_outside houtside _
      control := trivial
      closed := fun _ => hclosed trivial
      alone := fun _ => halone trivial
      emptied := fun _ => rfl
      generation := rfl
      admitted := ?_
      armed := fun e he => absurd he List.not_mem_nil
      ended := ?_
      increasing := ?_
      order := ?_ }
    · rw [Nat.sub_self]
      exact Nat.zero_le _
    · exact (queued_of_empty rfl).symm
    · intro era hera'
      rcases List.mem_append.mp hera' with hold | hnew
      · exact h.ended era hold
      · rw [List.mem_singleton.mp hnew]
        exact ⟨h.admitted, h.armed⟩
    · have hincreasing := h.increasing
      change ((s.ended ++ [{ s.era with dropped := s.track.queued capacity }]).map RecordingEra.generation ++
        [s.track.generation + 1]).Pairwise (· < ·)
      rw [List.map_append, List.map_singleton, List.pairwise_append]
      refine ⟨hincreasing, List.pairwise_singleton _ _, fun g hg g' hg' => ?_⟩
      rw [List.mem_singleton.mp hg']
      rcases List.mem_append.mp hg with hold | hlast
      · have hlt := (List.pairwise_append.mp hincreasing).2.2 g hold _ (List.mem_singleton_self _)
        omega
      · rw [List.mem_singleton.mp hlast]
        change s.era.generation < _
        omega
    · change ((s.ended ++ [{ s.era with dropped := s.track.queued capacity }]).flatMap RecordingEra.admitted ++
        [] ++ s.submitter.pending).Sublist s.calls
      rw [List.flatMap_append, List.flatMap_singleton, List.append_nil]
      exact h.order
  | clearSequence =>
    have houtside : ¬s.submitter.Inside := h.outside (by rw [hat]; trivial)
    rw [hat] at hstep hclosed halone hemptied hgeneration
    cases hstep
    exact { h with
      knows := knows_of_outside houtside _
      control := trivial
      closed := fun _ => hclosed trivial
      alone := fun _ => halone trivial
      emptied := fun _ => hemptied trivial
      generation := hgeneration }
  | nextGeneration =>
    have houtside : ¬s.submitter.Inside := h.outside (by rw [hat]; trivial)
    rw [hat] at hstep hclosed halone hemptied hgeneration
    cases hstep
    exact { h with
      knows := knows_of_outside houtside _
      control := trivial
      closed := fun _ => hclosed trivial
      alone := fun _ => halone trivial
      emptied := fun _ => hemptied trivial
      generation := hgeneration }
  | openGate =>
    have houtside : ¬s.submitter.Inside := h.outside (by rw [hat]; trivial)
    rw [hat] at hstep hgeneration
    cases hstep
    exact { h with
      writing := iff_of_false (by simp) houtside
      knows := knows_of_outside houtside _
      control := trivial
      closed := False.elim
      alone := False.elim
      emptied := False.elim
      generation := hgeneration }
  | popRead =>
    rw [hat] at hstep
    cases hstep
    exact h.counts hat rfl id rfl
  | popWrite r =>
    rw [hat] at hstep hcontrol
    cases hstep
    obtain rfl : r = s.track.read := hcontrol
    by_cases hempty : s.track.read = s.track.write
    · rw [if_pos hempty]
      exact h.counts hat rfl id trivial
    · rw [if_neg hempty]
      exact h.counts hat rfl id ⟨rfl, lt_of_le_of_ne h.read_le hempty⟩
  | popCopy r =>
    rw [hat] at hstep hcontrol
    cases hstep
    obtain ⟨rfl, hlt⟩ := hcontrol
    exact h.counts hat rfl id ⟨rfl, hlt, rfl⟩
  | popGap r block =>
    rw [hat] at hstep hcontrol
    cases hstep
    exact h.counts hat rfl id hcontrol
  | popSequence r block =>
    rw [hat] at hstep hcontrol
    cases hstep
    exact h.counts hat rfl id hcontrol
  | popStore r block =>
    rw [hat] at hstep hcontrol hgeneration
    cases hstep
    obtain ⟨rfl, hlt, rfl⟩ := hcontrol
    refine { h with
      read_le := hlt
      size_le := ?_
      knows := ?_
      control := trivial
      closed := False.elim
      alone := False.elim
      emptied := False.elim
      generation := hgeneration
      admitted := ?_ }
    · have hsize := h.size_le
      change s.track.write - (s.track.read + 1) ≤ capacity
      omega
    · exact knows_congr h.knows rfl rfl (Nat.le_succ _) rfl
    · have hadmitted := h.admitted
      rw [queued_pop hlt] at hadmitted
      change s.era.admitted = (s.era.popped ++ [_]) ++ _
      rw [hadmitted, List.append_assoc]
      rfl
  | popCount =>
    rw [hat] at hstep
    cases hstep
    exact h.counts hat rfl id trivial

lemma recording_inv_step (h : s.Inv capacity) (hstep : recordingStep capacity blockFrames s action = some s') :
    s'.Inv capacity := by
  have hwriting := h.writing
  have horder := h.order
  unfold recordingStep at hstep
  cases action with
  | submitter => exact inv_submitStep h hstep
  | control => exact inv_controlStep h hstep
  | submit block =>
    cases hat : s.submitter with
    | idle =>
      rw [hat] at hstep hwriting horder
      dsimp only at hstep
      have hcalls : (s.ended.flatMap RecordingEra.admitted ++ s.era.admitted ++ [block]).Sublist
          (s.calls ++ [block]) := (by simpa [SubmitStep.pending] using horder : List.Sublist _ _).append_right _
      split at hstep
      · cases hstep
        exact { h with
          writing := hwriting
          knows := trivial
          order := horder.trans (List.sublist_append_left _ _) }
      · cases hstep
        exact { h with writing := hwriting, knows := trivial, order := hcalls }
    | _ =>
      rw [hat] at hstep
      cases hstep
  | arm acknowledged =>
    cases hat : s.control with
    | idle =>
      rw [hat] at hstep
      dsimp only at hstep
      split at hstep
      · cases hstep
        exact h.counts hat rfl id trivial
      · cases hstep
        exact h
    | _ =>
      rw [hat] at hstep
      cases hstep
  | disarm =>
    cases hat : s.control with
    | idle =>
      rw [hat] at hstep
      cases hstep
      exact h.counts hat rfl id trivial
    | _ =>
      rw [hat] at hstep
      cases hstep
  | pop =>
    cases hat : s.control with
    | idle =>
      rw [hat] at hstep
      cases hstep
      exact h.counts hat rfl id trivial
    | _ =>
      rw [hat] at hstep
      cases hstep

end

/-! ## Runs -/

section

variable {capacity blockFrames : ℕ} {s s' : RecordingSystem α} {actions : List (RecordingAction α)}

def RecordingSystem.start (blank : RecordingBlock α) : RecordingSystem α := { track := { blocks := fun _ => blank } }

lemma recording_inv_start (blank : RecordingBlock α) : (RecordingSystem.start blank).Inv capacity where
  read_le := le_refl _
  size_le := Nat.zero_le _
  writing := iff_of_false (by simp [RecordingSystem.start]) id
  knows := trivial
  control := trivial
  closed _ := rfl
  alone _ := rfl
  emptied _ := rfl
  generation := rfl
  admitted := rfl
  armed _ he := absurd he List.not_mem_nil
  ended _ he := absurd he List.not_mem_nil
  increasing := List.pairwise_singleton _ _
  order := List.Sublist.refl _

/-- The block of a call of `submit`. -/
def RecordingAction.submitted : RecordingAction α → Option (RecordingBlock α)
  | .submit block => some block
  | _ => none

lemma calls_step {action : RecordingAction α} (hstep : recordingStep capacity blockFrames s action = some s') :
    s'.calls = s.calls ++ action.submitted.toList := by
  unfold recordingStep at hstep
  cases action with
  | submit block =>
    dsimp only at hstep
    split at hstep
    · split at hstep <;> (obtain rfl := Option.some.inj hstep; rfl)
    · cases hstep
  | submitter =>
    unfold submitStep at hstep
    dsimp only at hstep
    split at hstep
    case h_1 => cases hstep
    all_goals first
      | (obtain rfl := Option.some.inj hstep; exact (List.append_nil _).symm)
      | (split at hstep <;> (obtain rfl := Option.some.inj hstep; exact (List.append_nil _).symm))
  | arm acknowledged =>
    dsimp only at hstep
    split at hstep
    · split at hstep <;> (obtain rfl := Option.some.inj hstep; exact (List.append_nil _).symm)
    · cases hstep
  | disarm =>
    dsimp only at hstep
    split at hstep
    · cases hstep
      exact (List.append_nil _).symm
    · cases hstep
  | pop =>
    dsimp only at hstep
    split at hstep
    · cases hstep
      exact (List.append_nil _).symm
    · cases hstep
  | control =>
    unfold controlStep at hstep
    dsimp only at hstep
    split at hstep
    case h_1 => cases hstep
    all_goals first
      | (obtain rfl := Option.some.inj hstep; exact (List.append_nil _).symm)
      | (split at hstep <;> (obtain rfl := Option.some.inj hstep; exact (List.append_nil _).symm))

lemma calls_eq {blank : RecordingBlock α}
    (h : Reaches (recordingStep capacity blockFrames) Always (RecordingSystem.start blank) actions s) :
    s.calls = actions.filterMap RecordingAction.submitted := by
  induction h with
  | refl => rfl
  | snoc _ _ hstep ih =>
    rw [calls_step hstep, ih, List.filterMap_append]
    congr 1

/-- **The recording gate.** In every state that the steps of the two threads can lead to: what is popped in
an era was admitted in it, first come first popped, by an open gate and under the generation of the era, and
all of it unless the next arm found some of it still queued; the generations of the eras rise; the blocks
admitted are some of those submitted, each once and in the order of submission; and after an arm no block of
another generation is in the queue. -/
theorem recording_gate (blank : RecordingBlock α)
    (h : Reaches (recordingStep capacity blockFrames) Always (RecordingSystem.start blank) actions s) :
    (∀ era ∈ s.ended, era.admitted = era.popped ++ era.dropped) ∧
    s.era.admitted = s.era.popped ++ s.track.queued capacity ∧
    (∀ era ∈ s.ended ++ [s.era], ∀ e ∈ era.admissions,
      e.armed = true ∧ e.generation = era.generation ∧ e.block.generation = era.generation) ∧
    (s.ended.map RecordingEra.generation ++ [s.era.generation]).Pairwise (· < ·) ∧
    (s.ended.flatMap RecordingEra.admitted ++ s.era.admitted).Sublist
      (actions.filterMap RecordingAction.submitted) ∧
    ∀ block ∈ s.track.queued capacity, block.generation = s.track.generation := by
  have hinv : s.Inv capacity :=
    h.invariant (recording_inv_start blank) fun _ _ _ hi _ hstep => recording_inv_step hi hstep
  refine ⟨fun era hera => (hinv.ended era hera).admitted, hinv.admitted, fun era hera e he => ?_,
    hinv.increasing, ?_, fun block hblock => ?_⟩
  · rcases List.mem_append.mp hera with hold | hnew
    · exact (hinv.ended era hold).armed e he
    · rw [List.mem_singleton.mp hnew] at he ⊢
      exact hinv.armed e he
  · rw [← calls_eq h]
    exact (List.sublist_append_left _ _).trans hinv.order
  · have hahead : s.control.ahead = 0 := by
      -- while the era is ahead of the track, the queue is empty
      by_contra hne
      have hemptied : s.control.Emptied := by
        cases hc : s.control <;> rw [hc] at hne <;> trivial
      rw [queued_of_empty (hinv.emptied hemptied)] at hblock
      exact absurd hblock List.not_mem_nil
    have hmem : block ∈ s.era.admitted := by
      rw [hinv.admitted]
      exact List.mem_append_right _ hblock
    obtain ⟨e, he, rfl⟩ := List.mem_map.mp hmem
    rw [(hinv.armed e he).2.2, hinv.generation, hahead, Nat.add_zero]

def takeBlock : RecordingBlock Unit := ⟨1, 1, 64, ()⟩

/-- An arm, a submit that is admitted, and another arm before anything is popped. -/
def rearmed : List (RecordingAction Unit) :=
  .arm true :: List.replicate 7 .control ++ .submit takeBlock :: List.replicate 8 .submitter ++
    .arm true :: List.replicate 7 .control

theorem admitted_not_popped :
    ∃ s, Reaches (recordingStep 64 256) Always (RecordingSystem.start takeBlock) rearmed s ∧
      ∃ era ∈ s.ended, era.admitted = [takeBlock] ∧ era.popped = [] := by
  refine reaches_always_of_any (P := fun s : RecordingSystem Unit =>
    ∃ era ∈ s.ended, era.admitted = [takeBlock] ∧ era.popped = []) ?_
  decide

theorem recording_gate_rearmed :
    ∃ s, Reaches (recordingStep 64 256) Always (RecordingSystem.start takeBlock) rearmed s ∧
      (s.ended.map RecordingEra.generation ++ [s.era.generation]).Pairwise (· < ·) := by
  obtain ⟨s, hs, -⟩ : ∃ s, Reaches (recordingStep 64 256) Always (RecordingSystem.start takeBlock) rearmed s ∧
      s.track.armed = true :=
    reaches_always_of_any (P := fun s : RecordingSystem Unit => s.track.armed = true) (by decide)
  exact ⟨s, hs, (recording_gate takeBlock hs).2.2.2.1⟩

end

end StageForge
