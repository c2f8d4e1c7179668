import Mathlib.Data.Prod.Lex
import Mathlib.Algebra.Order.Group.Int

/-!
# The replication tracker

`ReplicationTracker` of `backend/replication.py`: the node's role and authority epoch, the counter
of exported envelopes, and the position of the last applied one.
-/

namespace StageForge

universe u

inductive NodeRole
  | primary
  | standby
  deriving DecidableEq

/-- The ordering metadata of a replication envelope and the snapshot it carries. -/
structure Envelope (Snapshot : Type u) where
  sourceNodeId : String
  epoch : Int
  sequence : Int
  revision : Int
  snapshot : Snapshot
  deriving DecidableEq

namespace Envelope

variable {Snapshot : Type u}

/-- What makes two deliveries the same envelope. -/
def identity (envelope : Envelope Snapshot) : String × Int × Int :=
  (envelope.sourceNodeId, envelope.epoch, envelope.sequence)

/-- Where an exporter's envelope stands among its exports. -/
def stamp (envelope : Envelope Snapshot) : Int ×ₗ Int := toLex (envelope.epoch, envelope.sequence)

/-- What `mark_applied` takes down of an envelope: its source, epoch, sequence and revision. -/
def mark (envelope : Envelope Snapshot) : String × Int × Int × Int :=
  (envelope.sourceNodeId, envelope.epoch, envelope.sequence, envelope.revision)

/-- Which state an envelope carries: later epochs first, then later revisions. -/
def position (envelope : Envelope Snapshot) : Int ×ₗ Int :=
  toLex (envelope.epoch, envelope.revision)

end Envelope

/-- The decision of `can_apply`. -/
structure ReplicationDecision where
  accepted : Bool
  reason : String
  deriving DecidableEq

/-- The fields of `ReplicationTracker`. The time of the last application only feeds the age in its
status and is left out. -/
structure ReplicationTracker where
  nodeId : String
  role : NodeRole
  epoch : Int := 1
  exportSequence : Int := 0
  sourceNodeId : String := ""
  appliedEpoch : Int := 0
  appliedSequence : Int := 0
  appliedRevision : Int := 0
  deriving DecidableEq

namespace ReplicationTracker

variable {Snapshot : Type u}

/-! ## Authority -/

def isPrimary (t : ReplicationTracker) : Bool := decide (t.role = .primary)

def setRole (t : ReplicationTracker) (role : NodeRole) : ReplicationTracker :=
  if role ≠ t.role then { t with epoch := t.epoch + 1, role := role, exportSequence := 0 } else t

def promoteWithEpoch (t : ReplicationTracker) (epoch : Int) : ReplicationTracker :=
  { t with role := .primary, epoch := max (t.epoch + 1) (max 1 epoch), exportSequence := 0 }

def adoptEpoch (t : ReplicationTracker) (epoch : Int) : ReplicationTracker :=
  if t.epoch < max 1 epoch then { t with epoch := max 1 epoch, exportSequence := 0 } else t

/-! ## Export -/

/-- `export`. -/
def «export» (t : ReplicationTracker) (revision : Int) (snapshot : Snapshot) :
    Except String (Envelope Snapshot × ReplicationTracker) :=
  if t.role ≠ .primary then
    .error "only the primary node can export authoritative replication state"
  else
    .ok ({ sourceNodeId := t.nodeId
           epoch := t.epoch
           sequence := t.exportSequence + 1
           revision := revision
           snapshot := snapshot }, { t with exportSequence := t.exportSequence + 1 })

/-! ## Apply -/

/-- The sequence test: the envelope is of the applied epoch, from the source of the last applied
envelope, and not beyond its sequence. -/
abbrev StaleSequence (t : ReplicationTracker) (envelope : Envelope Snapshot) : Prop :=
  envelope.epoch = t.appliedEpoch ∧ envelope.sourceNodeId = t.sourceNodeId ∧
    envelope.sequence ≤ t.appliedSequence

/-- The revision test: the envelope is of the applied epoch and behind a revision that is not
zero. -/
abbrev RevisionBackwards (t : ReplicationTracker) (envelope : Envelope Snapshot) : Prop :=
  envelope.epoch = t.appliedEpoch ∧ t.appliedRevision ≠ 0 ∧ envelope.revision < t.appliedRevision

def canApply (t : ReplicationTracker) (envelope : Envelope Snapshot) : ReplicationDecision :=
  if t.role ≠ .standby then
    ⟨false, "replica apply is only allowed while node role is standby"⟩
  else if envelope.epoch < t.appliedEpoch then ⟨false, "stale replication epoch"⟩
  else if t.StaleSequence envelope then ⟨false, "stale or duplicate replication sequence"⟩
  else if t.RevisionBackwards envelope then ⟨false, "replication revision moved backwards"⟩
  else ⟨true, "ok"⟩

def markApplied (t : ReplicationTracker) (envelope : Envelope Snapshot) : ReplicationTracker :=
  { t with
    sourceNodeId := envelope.sourceNodeId
    appliedEpoch := envelope.epoch
    appliedSequence := envelope.sequence
    appliedRevision := envelope.revision
    epoch := max t.epoch envelope.epoch }

/-- What the tracker knows of the last applied envelope. -/
def appliedMark (t : ReplicationTracker) : String × Int × Int × Int :=
  (t.sourceNodeId, t.appliedEpoch, t.appliedSequence, t.appliedRevision)

def position (t : ReplicationTracker) : Int ×ₗ Int := toLex (t.appliedEpoch, t.appliedRevision)

/-- The authority epoch with the number of exports under it. -/
def stamp (t : ReplicationTracker) : Int ×ₗ Int := toLex (t.epoch, t.exportSequence)

/-! ## Lemmas -/

section

variable (t : ReplicationTracker) (envelope : Envelope Snapshot)

/-- **When an envelope is accepted.** -/
theorem canApply_accepted_iff : (t.canApply envelope).accepted = true ↔
      t.role = .standby ∧ t.appliedEpoch ≤ envelope.epoch ∧ ¬ t.StaleSequence envelope ∧
        ¬ t.RevisionBackwards envelope := by
  unfold canApply
  by_cases hr : t.role ≠ .standby
  · rw [if_pos hr]
    exact ⟨fun h => absurd h (by decide), fun h => absurd h.1 hr⟩
  rw [if_neg hr]
  by_cases he : envelope.epoch < t.appliedEpoch
  · rw [if_pos he]
    exact ⟨fun h => absurd h (by simp), fun h => absurd h.2.1 (not_le.mpr he)⟩
  rw [if_neg he]
  by_cases hs : t.StaleSequence envelope
  · rw [if_pos hs]
    exact ⟨fun h => absurd h (by simp), fun h => absurd hs h.2.2.1⟩
  rw [if_neg hs]
  by_cases hb : t.RevisionBackwards envelope
  · rw [if_pos hb]
    exact ⟨fun h => absurd h (by simp), fun h => absurd hb h.2.2.2⟩
  · rw [if_neg hb]
    exact ⟨fun _ => ⟨not_not.mp hr, not_lt.mp he, hs, hb⟩, fun _ => rfl⟩

@[simp] lemma role_markApplied : (t.markApplied envelope).role = t.role := rfl

@[simp] lemma position_markApplied : (t.markApplied envelope).position = envelope.position := rfl

@[simp] lemma appliedMark_setRole (role : NodeRole) :
    (t.setRole role).appliedMark = t.appliedMark := by
  unfold setRole
  split <;> rfl

@[simp] lemma appliedMark_promoteWithEpoch (epoch : Int) :
    (t.promoteWithEpoch epoch).appliedMark = t.appliedMark := rfl

@[simp] lemma appliedMark_adoptEpoch (epoch : Int) :
    (t.adoptEpoch epoch).appliedMark = t.appliedMark := by
  unfold adoptEpoch
  split <;> rfl

lemma epoch_le_setRole (role : NodeRole) : t.epoch ≤ (t.setRole role).epoch := by
  unfold setRole
  split
  · simp
  · exact le_refl _

lemma epoch_lt_promoteWithEpoch (epoch : Int) : t.epoch < (t.promoteWithEpoch epoch).epoch := by
  simp only [promoteWithEpoch]
  omega

lemma epoch_le_adoptEpoch (epoch : Int) : t.epoch ≤ (t.adoptEpoch epoch).epoch := by
  unfold adoptEpoch
  split
  · rename_i h
    exact h.le
  · exact le_refl _

lemma epoch_le_markApplied : t.epoch ≤ (t.markApplied envelope).epoch := le_max_left _ _

lemma stamp_le_setRole (role : NodeRole) : t.stamp ≤ (t.setRole role).stamp := by
  unfold setRole
  split
  · exact Prod.Lex.toLex_le_toLex.mpr (Or.inl (by simp))
  · exact le_refl _

lemma stamp_le_promoteWithEpoch (epoch : Int) : t.stamp ≤ (t.promoteWithEpoch epoch).stamp :=
  Prod.Lex.toLex_le_toLex.mpr (Or.inl (t.epoch_lt_promoteWithEpoch epoch))

lemma stamp_le_adoptEpoch (epoch : Int) : t.stamp ≤ (t.adoptEpoch epoch).stamp := by
  unfold adoptEpoch
  split
  · rename_i h
    exact Prod.Lex.toLex_le_toLex.mpr (Or.inl h)
  · exact le_refl _

lemma stamp_le_markApplied : t.stamp ≤ (t.markApplied envelope).stamp := by
  refine Prod.Lex.toLex_le_toLex.mpr ?_
  rcases (t.epoch_le_markApplied envelope).lt_or_eq with h | h
  · exact Or.inl h
  · exact Or.inr ⟨h, le_refl _⟩

lemma export_ok {t : ReplicationTracker} {revision : Int} {snapshot : Snapshot}
    {envelope : Envelope Snapshot} {t' : ReplicationTracker}
    (h : t.export revision snapshot = .ok (envelope, t')) :
    t.stamp < envelope.stamp ∧ envelope.stamp = t'.stamp ∧ t.epoch = t'.epoch := by
  unfold «export» at h
  split at h
  · cases h
  · simp only [Except.ok.injEq, Prod.mk.injEq] at h
    obtain ⟨rfl, rfl⟩ := h
    refine ⟨Prod.Lex.toLex_lt_toLex.mpr (Or.inr ⟨rfl, ?_⟩), rfl, rfl⟩
    simp

end

end ReplicationTracker

end StageForge
