import Mathlib.Data.List.Infix
import Mathlib.Data.List.Nodup
import StageForge.Replication.Tracker

/-!
# Orders kept by the replication tracker

Three laws about whole runs of one tracker. The last two say exactly when the law holds, as a
condition on each delivery.
-/

namespace StageForge

universe u

variable {Snapshot : Type u}

/-! ## Runs of a tracker -/

inductive TrackerCall (Snapshot : Type u)
  | setRole (role : NodeRole)
  | promoteWithEpoch (epoch : Int)
  | adoptEpoch (epoch : Int)
  | «export» (revision : Int) (snapshot : Snapshot)
  | canApply (envelope : Envelope Snapshot)
  | markApplied (envelope : Envelope Snapshot)
  deriving DecidableEq

namespace ReplicationTracker

/-- The tracker after a call; a refused export changes nothing. -/
def perform (t : ReplicationTracker) : TrackerCall Snapshot → ReplicationTracker
  | .setRole role => t.setRole role
  | .promoteWithEpoch epoch => t.promoteWithEpoch epoch
  | .adoptEpoch epoch => t.adoptEpoch epoch
  | .export revision snapshot =>
    match t.export revision snapshot with
    | .ok (_, t') => t'
    | .error _ => t
  | .canApply _ => t
  | .markApplied envelope => t.markApplied envelope

def exported (t : ReplicationTracker) : TrackerCall Snapshot → Option (Envelope Snapshot)
  | .export revision snapshot =>
    match t.export revision snapshot with
    | .ok (envelope, _) => some envelope
    | .error _ => none
  | _ => none

def after (t : ReplicationTracker) (calls : List (TrackerCall Snapshot)) : ReplicationTracker :=
  calls.foldl perform t

def exports (t : ReplicationTracker) : List (TrackerCall Snapshot) → List (Envelope Snapshot)
  | [] => []
  | call :: rest => (t.exported call).toList ++ (t.perform call).exports rest

lemma epoch_le_perform (t : ReplicationTracker) (call : TrackerCall Snapshot) :
    t.epoch ≤ (t.perform call).epoch := by
  cases call with
  | setRole role => exact t.epoch_le_setRole role
  | promoteWithEpoch epoch => exact (t.epoch_lt_promoteWithEpoch epoch).le
  | adoptEpoch epoch => exact t.epoch_le_adoptEpoch epoch
  | «export» revision snapshot =>
    simp only [perform]
    split
    · rename_i h
      exact (export_ok h).2.2.le
    · exact le_refl _
  | canApply envelope => exact le_refl _
  | markApplied envelope => exact t.epoch_le_markApplied envelope

lemma epoch_le_after (t : ReplicationTracker) (calls : List (TrackerCall Snapshot)) :
    t.epoch ≤ (t.after calls).epoch := by
  induction calls generalizing t with
  | nil => exact le_refl _
  | cons call rest ih => exact (t.epoch_le_perform call).trans (ih (t.perform call))

/-! ## Exported envelopes -/

lemma stamp_le_perform (t : ReplicationTracker) (call : TrackerCall Snapshot) :
    t.stamp ≤ (t.perform call).stamp := by
  cases call with
  | setRole role => exact t.stamp_le_setRole role
  | promoteWithEpoch epoch => exact t.stamp_le_promoteWithEpoch epoch
  | adoptEpoch epoch => exact t.stamp_le_adoptEpoch epoch
  | «export» revision snapshot =>
    simp only [perform]
    split
    · rename_i h
      obtain ⟨hlt, heq, -⟩ := export_ok h
      exact (hlt.trans_eq heq).le
    · exact le_refl _
  | canApply envelope => exact le_refl _
  | markApplied envelope => exact t.stamp_le_markApplied envelope

lemma exported_stamp {t : ReplicationTracker} {call : TrackerCall Snapshot}
    {envelope : Envelope Snapshot} (h : t.exported call = some envelope) :
    t.stamp < envelope.stamp ∧ envelope.stamp = (t.perform call).stamp := by
  cases call with
  | «export» revision snapshot =>
    simp only [exported] at h
    split at h
    · rename_i envelope' t' hok
      simp only [Option.some.injEq] at h
      subst h
      obtain ⟨hlt, heq, -⟩ := export_ok hok
      exact ⟨hlt, by simp only [perform, hok, heq]⟩
    · cases h
  | setRole role => exact absurd h (by simp [exported])
  | promoteWithEpoch epoch => exact absurd h (by simp [exported])
  | adoptEpoch epoch => exact absurd h (by simp [exported])
  | canApply envelope => exact absurd h (by simp [exported])
  | markApplied envelope => exact absurd h (by simp [exported])

lemma stamp_lt_of_mem_exports {t : ReplicationTracker} {calls : List (TrackerCall Snapshot)}
    {envelope : Envelope Snapshot} (h : envelope ∈ t.exports calls) :
    t.stamp < envelope.stamp := by
  induction calls generalizing t with
  | nil => exact absurd h (by simp [exports])
  | cons call rest ih =>
    simp only [exports, List.mem_append, Option.mem_toList] at h
    rcases h with h | h
    · exact (exported_stamp h).1
    · exact (t.stamp_le_perform call).trans_lt (ih h)

/-- **Exported envelopes are totally ordered.** In every run of a tracker the (epoch, sequence)
pairs of the exports increase strictly in lexicographic order, and none is repeated. -/
theorem exports_ordered (t : ReplicationTracker) (calls : List (TrackerCall Snapshot)) :
    (t.exports calls).Pairwise (fun earlier later => earlier.stamp < later.stamp) ∧
      ((t.exports calls).map Envelope.stamp).Nodup := by
  have hordered : ∀ t : ReplicationTracker,
      (t.exports calls).Pairwise fun earlier later => earlier.stamp < later.stamp := by
    induction calls with
    | nil => exact fun _ => List.Pairwise.nil
    | cons call rest ih =>
      intro t
      simp only [exports]
      refine List.pairwise_append.mpr ⟨?_, ih (t.perform call), ?_⟩
      · cases t.exported call <;> simp
      · intro earlier hearlier later hlater
        rw [Option.mem_toList] at hearlier
        exact (exported_stamp hearlier).2.trans_lt (stamp_lt_of_mem_exports hlater)
  refine ⟨hordered t, ?_⟩
  rw [List.Nodup, List.pairwise_map]
  exact (hordered t).imp fun h => ne_of_lt h

/-! ## Authority fencing -/

/-- In this run, from this tracker on, `can_apply` accepts no envelope of an epoch below one that
the node had at any earlier moment of the run. -/
def FencesAuthority (t : ReplicationTracker) (calls : List (TrackerCall Snapshot)) : Prop :=
  ∀ early late envelope, early ++ late ++ [.canApply envelope] <+: calls →
    ((t.after (early ++ late)).canApply envelope).accepted = true →
      (t.after early).epoch ≤ envelope.epoch

/-- An envelope that the tests keep out if its epoch is below the node's own: the node is no
standby, or the epoch is not below its own, or it is below the last *applied* epoch, or it equals
that one and fails the sequence or the revision test. -/
def OfferFenced (t : ReplicationTracker) (envelope : Envelope Snapshot) : Prop :=
  t.role = .primary ∨ t.epoch ≤ envelope.epoch ∨ envelope.epoch < t.appliedEpoch ∨
    t.StaleSequence envelope ∨ t.RevisionBackwards envelope

lemma offerFenced_iff (t : ReplicationTracker) (envelope : Envelope Snapshot) :
    t.OfferFenced envelope ↔
      ((t.canApply envelope).accepted = true → t.epoch ≤ envelope.epoch) := by
  rw [canApply_accepted_iff, OfferFenced]
  constructor
  · rintro (h | h | h | h | h) ⟨hrole, hepoch, hseq, hrev⟩
    · exact absurd (h.symm.trans hrole) (by decide)
    · exact h
    · exact absurd h (not_lt.mpr hepoch)
    · exact absurd h hseq
    · exact absurd h hrev
  · intro h
    by_cases hrole : t.role = .standby
    · by_cases hepoch : t.appliedEpoch ≤ envelope.epoch
      · by_cases hseq : t.StaleSequence envelope
        · exact Or.inr (Or.inr (Or.inr (Or.inl hseq)))
        · by_cases hrev : t.RevisionBackwards envelope
          · exact Or.inr (Or.inr (Or.inr (Or.inr hrev)))
          · exact Or.inr (Or.inl (h ⟨hrole, hepoch, hseq, hrev⟩))
      · exact Or.inr (Or.inr (Or.inl (not_le.mp hepoch)))
    · refine Or.inl ?_
      cases hr : t.role with
      | primary => rfl
      | standby => exact absurd hr hrole

/-- **Authority fencing of replica apply.** A run fences old authorities exactly if every
envelope it offers to `can_apply` is fenced at that moment. -/
theorem fences_authority_iff (t : ReplicationTracker) (calls : List (TrackerCall Snapshot)) :
    t.FencesAuthority calls ↔ ∀ before envelope, before ++ [.canApply envelope] <+: calls →
        (t.after before).OfferFenced envelope := by
  constructor
  · intro h before envelope hpre
    rw [offerFenced_iff]
    intro haccepted
    exact h before [] envelope (by simpa using hpre) (by simpa using haccepted)
  · intro h early late envelope hpre haccepted
    have hoffer := (offerFenced_iff _ _).mp (h (early ++ late) envelope hpre) haccepted
    have hmono := (t.after early).epoch_le_after late
    rw [after, List.foldl_append] at hoffer
    exact hmono.trans hoffer

/-- A node that was promoted at epoch 7 and demoted accepts the state of an authority of epoch 3:
it had never applied a replica. -/
theorem demoted_primary_accepts_old_authority :
    ¬ FencesAuthority { nodeId := "b", role := .standby } [.promoteWithEpoch 7, .setRole .standby,
        .canApply { sourceNodeId := "a", epoch := 3, sequence := 1, revision := 5, snapshot := () }]
    := by
  intro h
  have hbelow := h [.promoteWithEpoch 7] [.setRole .standby]
    { sourceNodeId := "a", epoch := 3, sequence := 1, revision := 5, snapshot := () }
    (List.prefix_refl _) (by decide)
  exact absurd hbelow (by decide)

/-! ## Deliveries to a standby -/

/-- A delivered envelope is marked as applied exactly if `can_apply` accepts it. -/
def deliver (t : ReplicationTracker) (envelope : Envelope Snapshot) : ReplicationTracker :=
  if (t.canApply envelope).accepted then t.markApplied envelope else t

/-- The tracker after a sequence of deliveries. -/
def delivered (t : ReplicationTracker) (envelopes : List (Envelope Snapshot)) :
    ReplicationTracker :=
  envelopes.foldl deliver t

/-- The envelopes of a sequence of deliveries that are applied, in order. -/
def applied (t : ReplicationTracker) : List (Envelope Snapshot) → List (Envelope Snapshot)
  | [] => []
  | envelope :: rest =>
    if (t.canApply envelope).accepted then envelope :: (t.markApplied envelope).applied rest
    else t.applied rest

/-- No envelope is applied twice, and the applied (epoch, revision) pair never decreases. -/
structure AppliesInOrder (t : ReplicationTracker) (envelopes : List (Envelope Snapshot)) :
    Prop where
  once : ((t.applied envelopes).map Envelope.identity).Nodup
  forward : ∀ before envelope, before ++ [envelope] <+: envelopes →
    (t.delivered before).position ≤ (t.delivered (before ++ [envelope])).position

/-- **The condition on one delivery**, in terms of the tracker and of what was applied before. An
envelope of the applied epoch that was applied before must fail the sequence or the revision test;
and one with a negative revision must fail the sequence test while the applied revision is zero,
which switches the revision test off. -/
structure DeliveredInOrder (t : ReplicationTracker) (before : List (Envelope Snapshot))
    (envelope : Envelope Snapshot) : Prop where
  repeated : envelope.identity ∈ before.map Envelope.identity → envelope.epoch = t.appliedEpoch →
    t.StaleSequence envelope ∨ t.RevisionBackwards envelope
  negative : envelope.epoch = t.appliedEpoch → t.appliedRevision = 0 → envelope.revision < 0 →
    t.StaleSequence envelope

section

variable {t : ReplicationTracker} {envelope : Envelope Snapshot}
  {envelopes before : List (Envelope Snapshot)}

@[simp] lemma delivered_nil : t.delivered ([] : List (Envelope Snapshot)) = t := rfl

lemma delivered_snoc :
    t.delivered (envelopes ++ [envelope]) = (t.delivered envelopes).deliver envelope := by
  simp [delivered]

lemma applied_snoc : t.applied (envelopes ++ [envelope]) = t.applied envelopes ++
    if ((t.delivered envelopes).canApply envelope).accepted then [envelope] else [] := by
  induction envelopes generalizing t with
  | nil =>
    simp only [List.nil_append, applied, delivered_nil]
    rfl
  | cons first rest ih =>
    simp only [List.cons_append, applied, delivered, List.foldl_cons, deliver]
    by_cases h : (t.canApply first).accepted = true
    · simp only [h, if_true, List.cons_append]
      rw [ih]
      rfl
    · simp only [h, if_false, Bool.false_eq_true]
      rw [ih]
      rfl

lemma role_delivered : (t.delivered envelopes).role = t.role := by
  induction envelopes using List.reverseRecOn with
  | nil => rfl
  | append_singleton rest last ih =>
    rw [delivered_snoc, deliver]
    split
    · rw [role_markApplied, ih]
    · exact ih

lemma epoch_le_of_mem_applied (h : envelope ∈ t.applied envelopes) :
    envelope.epoch ≤ (t.delivered envelopes).appliedEpoch := by
  induction envelopes using List.reverseRecOn with
  | nil => exact absurd h (by simp [applied])
  | append_singleton rest last ih =>
    rw [applied_snoc, List.mem_append] at h
    rw [delivered_snoc, deliver]
    by_cases haccepted : ((t.delivered rest).canApply last).accepted = true
    · simp only [haccepted, if_true, List.mem_singleton] at h ⊢
      rcases h with h | rfl
      · exact (ih h).trans ((canApply_accepted_iff _ _).mp haccepted).2.1
      · exact le_refl _
    · simp only [haccepted, Bool.false_eq_true, if_false, List.not_mem_nil, or_false] at h ⊢
      exact ih h

lemma epoch_le_of_identity_mem
    (h : envelope.identity ∈ (t.applied envelopes).map Envelope.identity) :
    envelope.epoch ≤ (t.delivered envelopes).appliedEpoch := by
  obtain ⟨same, hmem, heq⟩ := List.mem_map.mp h
  have hepoch : same.epoch = envelope.epoch := by
    simp only [Envelope.identity, Prod.mk.injEq] at heq
    exact heq.2.1
  rw [← hepoch]
  exact epoch_le_of_mem_applied hmem

/-- **One delivery.** Under the condition an accepted envelope is new and not behind. -/
lemma DeliveredInOrder.accepted
    (h : (t.delivered before).DeliveredInOrder (t.applied before) envelope)
    (haccepted : ((t.delivered before).canApply envelope).accepted = true) :
    envelope.identity ∉ (t.applied before).map Envelope.identity ∧
      (t.delivered before).position ≤ envelope.position := by
  obtain ⟨-, hepoch, hseq, hrev⟩ := (canApply_accepted_iff _ _).mp haccepted
  constructor
  · intro hmem
    have hsame : envelope.epoch = (t.delivered before).appliedEpoch :=
      le_antisymm (epoch_le_of_identity_mem hmem) hepoch
    rcases h.repeated hmem hsame with hbad | hbad
    · exact hseq hbad
    · exact hrev hbad
  · refine Prod.Lex.toLex_le_toLex.mpr ?_
    rcases hepoch.lt_or_eq with hlt | hsame
    · exact Or.inl hlt
    · refine Or.inr ⟨hsame, ?_⟩
      by_contra hback
      rw [not_le] at hback
      by_cases hzero : (t.delivered before).appliedRevision = 0
      · exact hseq (h.negative hsame.symm hzero (by simpa [hzero] using hback))
      · exact hrev ⟨hsame.symm, hzero, hback⟩

lemma applied_mono (h : before <+: envelopes) : t.applied before <+: t.applied envelopes := by
  obtain ⟨rest, rfl⟩ := h
  induction rest using List.reverseRecOn with
  | nil => simp
  | append_singleton rest last ih =>
    rw [← List.append_assoc, applied_snoc]
    exact ih.trans (List.prefix_append _ _)

lemma AppliesInOrder.deliveredInOrder (h : t.AppliesInOrder envelopes) (hrole : t.role = .standby)
    (hpre : before ++ [envelope] <+: envelopes) :
    (t.delivered before).DeliveredInOrder (t.applied before) envelope := by
  have hstandby : (t.delivered before).role = .standby := role_delivered.trans hrole
  constructor
  · intro hmem hsame
    by_contra hpass
    rw [not_or] at hpass
    have haccepted : ((t.delivered before).canApply envelope).accepted = true :=
      (canApply_accepted_iff _ _).mpr ⟨hstandby, hsame.symm.le, hpass.1, hpass.2⟩
    have honce := ((applied_mono hpre).sublist.map Envelope.identity).nodup h.once
    rw [applied_snoc, if_pos haccepted, List.map_append] at honce
    exact (List.nodup_append'.mp honce).2.2 hmem (by simp)
  · intro hsame hzero hnegative
    by_contra hpass
    have haccepted : ((t.delivered before).canApply envelope).accepted = true :=
      (canApply_accepted_iff _ _).mpr ⟨hstandby, hsame.symm.le, hpass, fun hback => hback.2.1 hzero⟩
    have hforward := h.forward before envelope hpre
    rw [delivered_snoc, deliver, if_pos haccepted, position_markApplied] at hforward
    rcases Prod.Lex.toLex_le_toLex.mp hforward with hlt | ⟨-, hle⟩
    · exact absurd hsame hlt.ne'
    · simp only [hzero] at hle
      omega

end

/-- **No envelope is applied twice and none moves the state back** exactly if every delivery meets
the condition. -/
theorem applied_in_order_iff (t : ReplicationTracker) (envelopes : List (Envelope Snapshot))
    (hrole : t.role = .standby) :
    t.AppliesInOrder envelopes ↔ ∀ before envelope, before ++ [envelope] <+: envelopes →
        (t.delivered before).DeliveredInOrder (t.applied before) envelope := by
  refine ⟨fun h before envelope hpre => h.deliveredInOrder hrole hpre, fun h => ⟨?_, ?_⟩⟩
  · induction envelopes using List.reverseRecOn with
    | nil => simp [applied]
    | append_singleton rest last ih =>
      have hrest := ih fun before envelope hpre =>
        h before envelope (hpre.trans (List.prefix_append _ _))
      rw [applied_snoc]
      split
      · rename_i haccepted
        have hnew := ((h rest last (List.prefix_refl _)).accepted haccepted).1
        rw [List.map_append]
        exact List.Nodup.append hrest (by simp) (by simpa using hnew)
      · simpa using hrest
  · intro before envelope hpre
    rw [delivered_snoc, deliver]
    split
    · rename_i haccepted
      exact ((h before envelope hpre).accepted haccepted).2
    · exact le_refl _

def handedOverDeliveries : List (Envelope Unit) :=
  [{ sourceNodeId := "a", epoch := 1, sequence := 1, revision := 5, snapshot := () },
    { sourceNodeId := "b", epoch := 2, sequence := 1, revision := 5, snapshot := () },
    { sourceNodeId := "a", epoch := 1, sequence := 1, revision := 5, snapshot := () }]

theorem applied_in_order_after_handover :
    AppliesInOrder { nodeId := "c", role := .standby } handedOverDeliveries := by
  refine (applied_in_order_iff _ handedOverDeliveries rfl).mpr fun before envelope hpre => ?_
  obtain ⟨rest, hrest⟩ := hpre
  rcases before with _ | ⟨first, _ | ⟨second, _ | ⟨third, more⟩⟩⟩
  · simp only [handedOverDeliveries, List.nil_append, List.cons_append, List.cons.injEq] at hrest
    obtain ⟨rfl, -⟩ := hrest
    exact ⟨by decide, by decide⟩
  · simp only [handedOverDeliveries, List.nil_append, List.cons_append, List.cons.injEq] at hrest
    obtain ⟨rfl, rfl, -⟩ := hrest
    exact ⟨by decide, by decide⟩
  · simp only [handedOverDeliveries, List.nil_append, List.cons_append, List.cons.injEq] at hrest
    obtain ⟨rfl, rfl, rfl, -⟩ := hrest
    exact ⟨by decide, by decide⟩
  · have hlength := congrArg List.length hrest
    simp [handedOverDeliveries] at hlength

/-- Two sources in one epoch: `a`'s envelope, `b`'s, and `a`'s again. -/
def alternatingDeliveries : List (Envelope Unit) :=
  [{ sourceNodeId := "a", epoch := 1, sequence := 1, revision := 5, snapshot := () },
    { sourceNodeId := "b", epoch := 1, sequence := 1, revision := 5, snapshot := () },
    { sourceNodeId := "a", epoch := 1, sequence := 1, revision := 5, snapshot := () }]

/-- **A duplicate is applied twice.** The sequence of `a` is forgotten as soon as `b`'s envelope is
applied. -/
theorem duplicate_applied_after_other_source :
    ¬ AppliesInOrder { nodeId := "c", role := .standby } alternatingDeliveries :=
  fun h => absurd h.once (by decide)

end ReplicationTracker

end StageForge
