import StageForge.Runtime.Authority

/-!
# Replicas are applied one after the other

`apply_replica` asks `can_apply` before it waits for the mutation lock, and does not ask again. By
the time it replaces the show, another replica of a later epoch may have been applied, or the node
may have become primary; and an exception between replacing the show and marking the envelope
leaves the two apart (`replica_applied_out_of_order`).
-/

namespace StageForge

open TransitionSystem

variable {σ Snapshot Result : Type} {N : NodeSetup σ Snapshot Result}
  {rt rt' : Runtime σ Snapshot Result} {a : RuntimeAction σ Snapshot Result}
  {initial : σ} {mark : String × Int × Int × Int}

/-! ## The law -/

def latestState (initial : σ) : List (Application σ Snapshot) → σ
  | [] => initial
  | application :: _ => application.result

/-- The tracker's record of the newest application. -/
def latestMark (mark : String × Int × Int × Int) :
    List (Application σ Snapshot) → String × Int × Int × Int
  | [] => mark
  | application :: _ => application.envelope.mark

/-- The show, the saved snapshot and the tracker agree on these applications, and each of them was
accepted. -/
structure Agreed (initial : σ) (mark : String × Int × Int × Int)
    (applications : List (Application σ Snapshot)) (rt : Runtime σ Snapshot Result) : Prop where
  state : rt.state = latestState initial applications
  saved : rt.saved = latestState initial applications
  accepted : rt.history.accepted = applications.map (·.envelope)
  applied : rt.replication.appliedMark = latestMark mark applications

/-- **Replicas are applied serially.** No application goes back behind an earlier one, each found
the node a standby and left the state it restored; and whenever no call is inside its locked
section, also after one that raised, the show and the saved snapshot are those of the newest
application, which is the greatest one accepted, and the tracker's fields are its own. -/
structure AppliedSerially (N : NodeSetup σ Snapshot Result) (initial : σ)
    (mark : String × Int × Int × Int) (rt : Runtime σ Snapshot Result) : Prop where
  forward : rt.history.applications.Pairwise fun later earlier =>
    earlier.envelope.position ≤ later.envelope.position
  standby : ∀ application ∈ rt.history.applications, application.role = .standby
  restored : ∀ application ∈ rt.history.applications,
    ∃ before, application.result = N.api.restore before application.envelope.snapshot
  agreed : rt.mutationLock = none → Agreed initial mark rt.history.applications rt
  greatest : rt.mutationLock = none → ∀ application rest,
    rt.history.applications = application :: rest →
      ∀ envelope ∈ rt.history.accepted, envelope.position ≤ application.envelope.position

/-! ## The condition -/

/-- The action is not one by which the node itself changes the show. -/
def RuntimeAction.replicaOnly : RuntimeAction σ Snapshot Result → Bool
  | .callMutate .. => false
  | .callPump _ => false
  | .loopPass => false
  | _ => true

/-- The action raises after the show was replaced. -/
def RuntimeAction.failsLate : RuntimeAction σ Snapshot Result → Bool
  | .save _ fails => fails
  | .mark _ fails => fails
  | _ => false

/-- The envelope with which the action is about to replace the show. -/
def RuntimeAction.restores (rt : Runtime σ Snapshot Result) :
    RuntimeAction σ Snapshot Result → Option (Envelope Snapshot)
  | .run i _ =>
    match rt.threads[i]? with
    | some (.running (.apply envelope)) => some envelope
    | _ => none
  | _ => none

/-- **The condition on runs.** -/
def ReplicaGuarded (N : NodeSetup σ Snapshot Result) (rt : Runtime σ Snapshot Result)
    (a : RuntimeAction σ Snapshot Result) : Prop :=
  a.replicaOnly = true ∧ a.failsLate = false ∧ ∀ envelope ∈ a.restores rt,
      N.api.revision rt.state ≤ N.api.snapshotRevision envelope.snapshot →
        rt.replication.role = .standby ∧ rt.replication.appliedEpoch ≤ envelope.epoch

instance (N : NodeSetup σ Snapshot Result) (rt : Runtime σ Snapshot Result)
    (a : RuntimeAction σ Snapshot Result) : Decidable (ReplicaGuarded N rt a) :=
  inferInstanceAs (Decidable (_ ∧ _ ∧ ∀ envelope ∈ a.restores rt, _ → _ ∧ _ ≤ envelope.epoch))

/-! ## The invariant -/

/-- The call is a replica's, with an envelope whose revision is that of its snapshot, or is over. -/
def Thread.ReplicaOf (N : NodeSetup σ Snapshot Result) : Thread σ Snapshot Result → Prop
  | .applyVerified envelope => envelope.revision = N.api.snapshotRevision envelope.snapshot
  | .waiting (.apply envelope) => envelope.revision = N.api.snapshotRevision envelope.snapshot
  | .running (.apply envelope) => envelope.revision = N.api.snapshotRevision envelope.snapshot
  | .applyRestored envelope => envelope.revision = N.api.snapshotRevision envelope.snapshot
  | .applySaved envelope => envelope.revision = N.api.snapshotRevision envelope.snapshot
  | .returned => True
  | .raised _ => True
  | _ => False

/-- The call has replaced the show and not yet marked its envelope. -/
def Thread.midSection : Thread σ Snapshot Result → Bool
  | .applyRestored _ => true
  | .applySaved _ => true
  | _ => false

/-- What the locked section is in the middle of. -/
inductive Phase (initial : σ) (mark : String × Int × Int × Int) (rt : Runtime σ Snapshot Result) :
    Prop
  | settled : (∀ thread ∈ rt.threads, thread.midSection = false) →
      Agreed initial mark rt.history.applications rt → Phase initial mark rt
  | restored (i : ℕ) (application : Application σ Snapshot) (rest : List (Application σ Snapshot)) :
      rt.threads[i]? = some (.applyRestored application.envelope) →
      rt.history.applications = application :: rest → rt.state = application.result →
      rt.saved = latestState initial rest → rt.history.accepted = rest.map (·.envelope) →
      rt.replication.appliedMark = latestMark mark rest → Phase initial mark rt
  | saved (i : ℕ) (application : Application σ Snapshot) (rest : List (Application σ Snapshot)) :
      rt.threads[i]? = some (.applySaved application.envelope) →
      rt.history.applications = application :: rest → rt.state = application.result →
      rt.saved = application.result → rt.history.accepted = rest.map (·.envelope) →
      rt.replication.appliedMark = latestMark mark rest → Phase initial mark rt

/-- **The invariant.** -/
structure ReplicaInv (N : NodeSetup σ Snapshot Result) (initial : σ)
    (mark : String × Int × Int × Int) (rt : Runtime σ Snapshot Result) : Prop where
  owned : LockOwned rt
  threads : ∀ thread ∈ rt.threads, thread.ReplicaOf N
  forward : rt.history.applications.Pairwise fun later earlier =>
    earlier.envelope.position ≤ later.envelope.position
  standby : ∀ application ∈ rt.history.applications, application.role = .standby
  genuine : ∀ application ∈ rt.history.applications,
    application.envelope.revision = N.api.snapshotRevision application.envelope.snapshot ∧
      ∃ before, application.result = N.api.restore before application.envelope.snapshot
  phase : Phase initial mark rt

lemma Thread.holdsLock_of_midSection {thread : Thread σ Snapshot Result}
    (h : thread.midSection = true) : thread.holdsLock = true := by
  cases thread with
  | applyRestored => rfl
  | applySaved => rfl
  | _ => exact absurd h (by simp [Thread.midSection])

lemma ReplicaInv.appliedSerially (h : ReplicaInv N initial mark rt) :
    AppliedSerially N initial mark rt := by
  have hagreed : rt.mutationLock = none → Agreed initial mark rt.history.applications rt := by
    intro hfree
    cases h.phase with
    | settled _ hagreed => exact hagreed
    | restored i application rest hi =>
      rw [h.owned i _ hi rfl] at hfree
      cases hfree
    | saved i application rest hi =>
      rw [h.owned i _ hi rfl] at hfree
      cases hfree
  refine ⟨h.forward, h.standby, fun app happ => (h.genuine app happ).2, hagreed, ?_⟩
  intro hfree application rest happs envelope hmem
  rw [(hagreed hfree).accepted, happs, List.map_cons, List.mem_cons] at hmem
  have hforward := h.forward
  rw [happs] at hforward
  rcases hmem with rfl | hmem
  · exact le_refl _
  · obtain ⟨earlier, hearlier, rfl⟩ := List.mem_map.mp hmem
    exact (List.pairwise_cons.mp hforward).1 earlier hearlier

/-! ## Steps outside the section -/

/-- The show, the saved snapshot and the record of applications stay as they are. -/
structure SameReplica (rt rt' : Runtime σ Snapshot Result) : Prop where
  state : rt'.state = rt.state
  saved : rt'.saved = rt.saved
  applications : rt'.history.applications = rt.history.applications
  accepted : rt'.history.accepted = rt.history.accepted
  applied : rt'.replication.appliedMark = rt.replication.appliedMark

/-- The calls in the middle of the section stay where they are. -/
def MidKept (rt rt' : Runtime σ Snapshot Result) : Prop :=
  ∀ (j : ℕ) (t : Thread σ Snapshot Result), t.midSection = true →
    (rt'.threads[j]? = some t ↔ rt.threads[j]? = some t)

section

variable {i : ℕ} {thread thread' : Thread σ Snapshot Result}

lemma midKept_same (h : rt'.threads = rt.threads) : MidKept rt rt' := fun j t _ => by rw [h]

lemma midKept_spawn (hnew : thread.midSection = false) : MidKept rt (rt.spawn thread) := by
  intro j t ht
  constructor
  · intro hj
    rcases Runtime.getElem?_spawn hj with ⟨-, rfl⟩ | hold
    · rw [hnew] at ht
      cases ht
    · exact hold
  · intro hj
    have hlt := (List.getElem?_eq_some_iff.mp hj).1
    simp only [Runtime.spawn]
    rwa [List.getElem?_append_left hlt]

lemma midKept_set (hthreads : rt'.threads = rt.threads.set i thread')
    (hi : rt.threads[i]? = some thread) (hold : thread.midSection = false)
    (hnew : thread'.midSection = false) : MidKept rt rt' := by
  intro j t ht
  rw [hthreads]
  constructor
  · intro hj
    rcases rt.getElem?_setThread hj with ⟨-, rfl⟩ | ⟨-, hsame⟩
    · rw [hnew] at ht
      cases ht
    · exact hsame
  · intro hj
    by_cases hji : i = j
    · subst hji
      rw [hi, Option.some.injEq] at hj
      rw [← hj, hold] at ht
      cases ht
    · rwa [List.getElem?_set_ne hji]

lemma replicaOf_set (thread' : Thread σ Snapshot Result)
    (h : ∀ thread ∈ rt.threads, thread.ReplicaOf N)
    (hthreads : rt'.threads = rt.threads.set i thread') (hnew : thread'.ReplicaOf N) :
    ∀ thread ∈ rt'.threads, thread.ReplicaOf N := by
  intro t ht
  rw [hthreads] at ht
  rcases List.mem_or_eq_of_mem_set ht with hold | rfl
  · exact h t hold
  · exact hnew

lemma Phase.frame (h : Phase initial mark rt) (hsame : SameReplica rt rt') (hmid : MidKept rt rt') :
    Phase initial mark rt' := by
  cases h with
  | settled hnone hagreed =>
    refine .settled (fun t ht => ?_) ⟨?_, ?_, ?_, ?_⟩
    · by_contra hin
      rw [Bool.not_eq_false] at hin
      obtain ⟨j, hj⟩ := List.mem_iff_getElem?.mp ht
      have hold := hnone t (List.mem_of_getElem? ((hmid j t hin).mp hj))
      rw [hin] at hold
      cases hold
    · rw [hsame.state, hsame.applications]; exact hagreed.state
    · rw [hsame.saved, hsame.applications]; exact hagreed.saved
    · rw [hsame.accepted, hsame.applications]; exact hagreed.accepted
    · rw [hsame.applied, hsame.applications]; exact hagreed.applied
  | restored i application rest hi happs hstate hsaved haccepted happlied =>
    refine .restored i application rest ((hmid i _ rfl).mpr hi) ?_ ?_ ?_ ?_ ?_
    · rw [hsame.applications]; exact happs
    · rw [hsame.state]; exact hstate
    · rw [hsame.saved]; exact hsaved
    · rw [hsame.accepted]; exact haccepted
    · rw [hsame.applied]; exact happlied
  | saved i application rest hi happs hstate hsaved haccepted happlied =>
    refine .saved i application rest ((hmid i _ rfl).mpr hi) ?_ ?_ ?_ ?_ ?_
    · rw [hsame.applications]; exact happs
    · rw [hsame.state]; exact hstate
    · rw [hsame.saved]; exact hsaved
    · rw [hsame.accepted]; exact haccepted
    · rw [hsame.applied]; exact happlied

lemma ReplicaInv.frame (h : ReplicaInv N initial mark rt) (howned : LockOwned rt')
    (hthreads : ∀ thread ∈ rt'.threads, thread.ReplicaOf N) (hsame : SameReplica rt rt')
    (hmid : MidKept rt rt') : ReplicaInv N initial mark rt' := by
  refine ⟨howned, hthreads, ?_, ?_, ?_, h.phase.frame hsame hmid⟩
  · rw [hsame.applications]; exact h.forward
  · rw [hsame.applications]; exact h.standby
  · rw [hsame.applications]; exact h.genuine

lemma ReplicaInv.spawn (h : ReplicaInv N initial mark rt) (howned : LockOwned (rt.spawn thread))
    (hnew : thread.ReplicaOf N) (hout : thread.midSection = false) :
    ReplicaInv N initial mark (rt.spawn thread) := by
  refine h.frame howned (fun t ht => ?_) ⟨rfl, rfl, rfl, rfl, rfl⟩ (midKept_spawn hout)
  rcases Runtime.mem_spawn ht with hold | rfl
  · exact h.threads t hold
  · exact hnew

lemma ReplicaInv.set (thread' : Thread σ Snapshot Result) (h : ReplicaInv N initial mark rt)
    (howned : LockOwned rt')
    (hi : rt.threads[i]? = some thread) (hthreads : rt'.threads = rt.threads.set i thread')
    (hold : thread.midSection = false) (hout : thread'.midSection = false)
    (hnew : thread'.ReplicaOf N) (hsame : SameReplica rt rt') : ReplicaInv N initial mark rt' :=
  h.frame howned (replicaOf_set _ h.threads hthreads hnew) hsame (midKept_set hthreads hi hold hout)

lemma ReplicaInv.authority (h : ReplicaInv N initial mark rt) (howned : LockOwned rt')
    (hstep : rt.AuthorityStep rt') : ReplicaInv N initial mark rt' := by
  refine h.frame howned ?_ ⟨?_, ?_, ?_, ?_, hstep.applied⟩ (midKept_same hstep.threads)
  · rw [hstep.threads]
    exact h.threads
  all_goals rw [hstep.rest]

end

/-! ## Steps of the section -/

section

variable {i : ℕ} {thread : Thread σ Snapshot Result} {envelope : Envelope Snapshot}

lemma ReplicaInv.agreed_of_entered (h : ReplicaInv N initial mark rt)
    (hi : rt.threads[i]? = some thread) (hlock : thread.holdsLock = true)
    (hout : thread.midSection = false) : Agreed initial mark rt.history.applications rt := by
  cases h.phase with
  | settled _ hagreed => exact hagreed
  | restored j application rest hj =>
    rw [h.owned.unique_thread hi hj hlock rfl] at hout
    exact absurd hout (by simp [Thread.midSection])
  | saved j application rest hj =>
    rw [h.owned.unique_thread hi hj hlock rfl] at hout
    exact absurd hout (by simp [Thread.midSection])

/-- When everything is settled, an envelope that is not behind the applied epoch nor behind the
revision of the show is not behind the newest application. -/
lemma ReplicaInv.position_le (h : ReplicaInv N initial mark rt)
    (hagreed : Agreed initial mark rt.history.applications rt)
    (hepoch : rt.replication.appliedEpoch ≤ envelope.epoch)
    (hrevision : N.api.revision rt.state ≤ envelope.revision) :
    ∀ application ∈ rt.history.applications, application.envelope.position ≤ envelope.position := by
  have hforward := h.forward
  have hgenuine := h.genuine
  obtain ⟨hstate, -, -, happlied⟩ := hagreed
  generalize rt.history.applications = applications at hforward hgenuine hstate happlied
  cases applications with
  | nil => simp
  | cons newest rest =>
    obtain ⟨hrev, before, hresult⟩ := hgenuine newest List.mem_cons_self
    have hepochs : newest.envelope.epoch = rt.replication.appliedEpoch :=
      (congrArg (fun m => m.2.1) happlied).symm
    have hshow : N.api.revision rt.state = max 1 newest.envelope.revision := by
      rw [hstate, hrev]
      simp only [latestState]
      rw [hresult, N.api.revision_restore]
    have hnewest : newest.envelope.position ≤ envelope.position := by
      refine Prod.Lex.toLex_le_toLex.mpr ?_
      rcases lt_or_eq_of_le (hepochs.trans_le hepoch) with hlt | heq
      · exact Or.inl hlt
      · refine Or.inr ⟨heq, ?_⟩
        rw [hshow] at hrevision
        exact (le_max_right _ _).trans hrevision
    intro application hmem
    rcases List.mem_cons.mp hmem with rfl | hmem
    · exact hnewest
    · exact ((List.pairwise_cons.mp hforward).1 application hmem).trans hnewest

lemma ReplicaInv.restore (h : ReplicaInv N initial mark rt)
    (hi : rt.threads[i]? = some (.running (.apply envelope)))
    (hrole : rt.replication.role = .standby)
    (hepoch : rt.replication.appliedEpoch ≤ envelope.epoch)
    (hrevision : N.api.revision rt.state ≤ N.api.snapshotRevision envelope.snapshot)
    (hthreads : rt'.threads = rt.threads.set i (.applyRestored envelope))
    (hstate : rt'.state = N.api.restore rt.state envelope.snapshot) (hsaved : rt'.saved = rt.saved)
    (happs : rt'.history.applications =
      ⟨envelope, rt.replication.role, N.api.restore rt.state envelope.snapshot⟩ ::
        rt.history.applications)
    (haccepted : rt'.history.accepted = rt.history.accepted)
    (happlied : rt'.replication.appliedMark = rt.replication.appliedMark)
    (howned : LockOwned rt') : ReplicaInv N initial mark rt' := by
  have hagreed := h.agreed_of_entered hi rfl rfl
  have hgenuine : envelope.revision = N.api.snapshotRevision envelope.snapshot :=
    h.threads _ (List.mem_of_getElem? hi)
  have hlt := (List.getElem?_eq_some_iff.mp hi).1
  refine ⟨howned, replicaOf_set _ h.threads hthreads hgenuine, ?_, ?_, ?_, ?_⟩
  · rw [happs]
    exact List.pairwise_cons.mpr
      ⟨h.position_le hagreed hepoch (hgenuine.symm ▸ hrevision), h.forward⟩
  · rw [happs]
    exact List.forall_mem_cons.mpr ⟨hrole, h.standby⟩
  · rw [happs]
    exact List.forall_mem_cons.mpr ⟨⟨hgenuine, rt.state, rfl⟩, h.genuine⟩
  · refine .restored i _ _ ?_ happs hstate ?_ ?_ ?_
    · rw [hthreads, List.getElem?_set_self hlt]
    · rw [hsaved, hagreed.saved]
    · rw [haccepted, hagreed.accepted]
    · rw [happlied, hagreed.applied]

lemma ReplicaInv.saving (h : ReplicaInv N initial mark rt)
    (hi : rt.threads[i]? = some (.applyRestored envelope))
    (howned : LockOwned (rt.saveBody i envelope)) :
    ReplicaInv N initial mark (rt.saveBody i envelope) := by
  have hlt := (List.getElem?_eq_some_iff.mp hi).1
  have hgenuine : envelope.revision = N.api.snapshotRevision envelope.snapshot :=
    h.threads _ (List.mem_of_getElem? hi)
  refine ⟨howned, replicaOf_set (.applySaved envelope) h.threads rfl hgenuine, h.forward,
    h.standby, h.genuine, ?_⟩
  cases h.phase with
  | settled hnone _ =>
    exact absurd (hnone _ (List.mem_of_getElem? hi)) (by simp [Thread.midSection])
  | restored j application rest hj happs hstate _ haccepted happlied =>
    have henvelope := h.owned.unique_thread hi hj rfl rfl
    rw [Thread.applyRestored.injEq] at henvelope
    subst henvelope
    exact .saved i application rest (List.getElem?_set_self hlt) happs hstate hstate haccepted
      happlied
  | saved j application rest hj =>
    exact absurd (h.owned.unique_thread hi hj rfl rfl) (by simp)

lemma ReplicaInv.marked (h : ReplicaInv N initial mark rt)
    (hi : rt.threads[i]? = some (.applySaved envelope))
    (howned : LockOwned (rt.markBody i envelope)) :
    ReplicaInv N initial mark (rt.markBody i envelope) := by
  refine ⟨howned, replicaOf_set _ h.threads rfl trivial, h.forward, h.standby, h.genuine, ?_⟩
  cases h.phase with
  | settled hnone _ =>
    exact absurd (hnone _ (List.mem_of_getElem? hi)) (by simp [Thread.midSection])
  | restored j application rest hj =>
    exact absurd (h.owned.unique_thread hi hj rfl rfl) (by simp)
  | saved j application rest hj happs hstate hsaved haccepted happlied =>
    have henvelope := h.owned.unique_thread hi hj rfl rfl
    rw [Thread.applySaved.injEq] at henvelope
    subst henvelope
    refine .settled (fun thread hmem => ?_) ?_
    · -- this call was the only one in the section
      by_contra hin
      rw [Bool.not_eq_false] at hin
      obtain ⟨k, hk⟩ := List.mem_iff_getElem?.mp hmem
      rcases rt.getElem?_setThread hk with ⟨-, rfl⟩ | ⟨hne, hold⟩
      · exact absurd hin (by simp [Thread.midSection])
      · exact hne (h.owned.unique hold hi (Thread.holdsLock_of_midSection hin) rfl)
    · have happs' : (rt.markBody i application.envelope).history.applications
          = application :: rest := happs
      rw [happs']
      refine ⟨hstate, hsaved, ?_, rfl⟩
      simp only [Runtime.markBody, haccepted, List.map_cons]

/-- **The step lemma.** -/
theorem replicaInv_step (h : ReplicaInv N initial mark rt) (hok : ReplicaGuarded N rt a)
    (hs : N.step rt a = some rt') : ReplicaInv N initial mark rt' := by
  have howned := lockOwned_step h.owned hs
  obtain ⟨honly, hlate, hguard⟩ := hok
  have hreplica : ∀ {j : ℕ} {t : Thread σ Snapshot Result}, rt.threads[j]? = some t →
      t.ReplicaOf N := fun hj => h.threads _ (List.mem_of_getElem? hj)
  cases effect_of_step hs with
  | tick ms => exact h.frame howned h.threads ⟨rfl, rfl, rfl, rfl, rfl⟩ (midKept_same rfl)
  | role request eligible grant =>
    exact h.authority howned (rt.authorityStep_setNodeRole request eligible grant)
  | witness eligible grant =>
    exact h.authority howned (rt.authorityStep_witnessTick eligible grant)
  | admitted => exact absurd honly (by simp [RuntimeAction.replicaOnly])
  | notAdmitted => exact absurd honly (by simp [RuntimeAction.replicaOnly])
  | hit hi => exact absurd (hreplica hi) (by simp [Thread.ReplicaOf])
  | missed hi => exact absurd (hreplica hi) (by simp [Thread.ReplicaOf])
  | pump => exact absurd honly (by simp [RuntimeAction.replicaOnly])
  | loopPass => exact absurd honly (by simp [RuntimeAction.replicaOnly])
  | loopSkip => exact h
  | loopPump actions hi => exact absurd (hreplica hi) (by simp [Thread.ReplicaOf])
  | loopDue actions hi => exact absurd (hreplica hi) (by simp [Thread.ReplicaOf])
  | verified envelope authentic hrev => exact h.spawn howned hrev rfl
  | rejected envelope authentic reason => exact h.spawn howned trivial rfl
  | @accepted i envelope hi =>
    have hgenuine : envelope.revision = N.api.snapshotRevision envelope.snapshot := hreplica hi
    exact h.set (.waiting (.apply envelope)) howned hi rfl rfl rfl hgenuine
      ⟨rfl, rfl, rfl, rfl, rfl⟩
  | refused reason hi => exact h.set _ howned hi rfl rfl rfl trivial ⟨rfl, rfl, rfl, rfl, rfl⟩
  | @locked i job hi =>
    refine h.set _ howned hi rfl rfl rfl ?_ ⟨rfl, rfl, rfl, rfl, rfl⟩
    cases job with
    | apply envelope =>
      have hgenuine : envelope.revision = N.api.snapshotRevision envelope.snapshot := hreplica hi
      exact hgenuine
    | _ => exact absurd (hreplica hi) (by simp [Thread.ReplicaOf])
  | mutate persistFails hi => exact absurd (hreplica hi) (by simp [Thread.ReplicaOf])
  | midi persistFails hi => exact absurd (hreplica hi) (by simp [Thread.ReplicaOf])
  | @restore i envelope persistFails hi =>
    rcases rt.restoreBody_cases (N := N) i envelope with ⟨reason, heq⟩ | ⟨hrevision, heq⟩
    · rw [heq] at howned ⊢
      exact h.set (.raised reason) howned hi rfl rfl rfl trivial ⟨rfl, rfl, rfl, rfl, rfl⟩
    · have hrestores : envelope ∈
          (RuntimeAction.run i persistFails : RuntimeAction σ Snapshot Result).restores rt := by
        simp [RuntimeAction.restores, hi]
      obtain ⟨hrole, hepoch⟩ := hguard envelope hrestores hrevision
      rw [heq] at howned ⊢
      exact h.restore hi hrole hepoch hrevision rfl rfl rfl rfl rfl rfl howned
  | saved hi => exact h.saving hi howned
  | notSaved => exact absurd hlate (by simp [RuntimeAction.failsLate])
  | marked hi => exact h.marked hi howned
  | notMarked => exact absurd hlate (by simp [RuntimeAction.failsLate])

end

/-- **Replicas are applied serially.** In every run in which each replica that replaces the show
finds the node still a standby and no later epoch applied, and nothing raises after the show was
replaced. -/
theorem replicas_applied_serially {now : Int} {replication : ReplicationTracker}
    {witness : WitnessQuorumClient} {state : σ} {as : List (RuntimeAction σ Snapshot Result)}
    (h : Reaches N.step (ReplicaGuarded N) (.start now replication witness state) as rt) :
    AppliedSerially N state replication.appliedMark rt := by
  have hstart : ReplicaInv N state replication.appliedMark
      (.start now replication witness state : Runtime σ Snapshot Result) := by
    refine ⟨?_, ?_, .nil, ?_, ?_, .settled ?_ ⟨rfl, rfl, rfl, rfl⟩⟩ <;>
      simp [Runtime.start, LockOwned]
  exact (h.invariant hstart fun _ _ _ hinv hok hs => replicaInv_step hinv hok hs).appliedSerially

/-! ## An overtaken replica, a promotion and a full disk -/

/-- The standby `b`, with its show at revision 1. -/
def replicaStandby : Runtime Int Int Int := .start 1000 { nodeId := "b", role := .standby } {} 1

/-- An envelope of the node `a` whose snapshot has this revision. -/
def replicaEnvelope (epoch sequence revision : Int) : Envelope Int :=
  { sourceNodeId := "a", epoch := epoch, sequence := sequence, revision := revision,
    snapshot := revision }

/-- Two replicas are checked before either is applied, and the node is promoted at the end. -/
def overlappingReplicas : List (RuntimeAction Int Int Int) :=
  [.callApply (replicaEnvelope 1 1 5) true, .callApply (replicaEnvelope 1 2 6) true, .checkApply 0,
    .checkApply 1, .lock 0, .run 0 false, .save 0 false, .mark 0 false, .lock 1, .run 1 false,
    .save 1 false, .mark 1 false, .setNodeRole { role := .primary, forceAuthorityOverride := true }
      false none]

theorem replicas_applied_serially_overlappingReplicas :
    ∃ rt, Reaches witnessedNode.step (ReplicaGuarded witnessedNode) replicaStandby
        overlappingReplicas rt ∧
      (rt.state = 6 ∧ rt.saved = 6 ∧ rt.history.accepted.length = 2) ∧
      AppliedSerially witnessedNode 1 ("", 0, 0, 0) rt := by
  have hrun : (run (fun rt a => if ReplicaGuarded witnessedNode rt a
      then witnessedNode.step rt a else none) replicaStandby overlappingReplicas).any (fun rt =>
        rt.state = 6 ∧ rt.saved = 6 ∧ rt.history.accepted.length = 2) = true := by
    decide +kernel
  obtain ⟨rt, hrt, hresult⟩ := (Option.any_eq_true _ _).mp hrun
  exact ⟨rt, reaches_of_run hrt, of_decide_eq_true hresult,
    replicas_applied_serially (reaches_of_run hrt)⟩

/-- The replica of an earlier epoch waits for the lock while that of a later epoch, with an earlier
revision, is applied. -/
def overtakenReplica : List (RuntimeAction Int Int Int) :=
  [.callApply (replicaEnvelope 1 1 10) true, .callApply (replicaEnvelope 2 1 5) true, .checkApply 0,
    .checkApply 1, .lock 1, .run 1 false, .save 1 false, .mark 1 false, .lock 0, .run 0 false,
    .save 0 false, .mark 0 false]

/-- The node is promoted while a replica waits for the lock. -/
def promotedMeanwhile : List (RuntimeAction Int Int Int) :=
  [.callApply (replicaEnvelope 1 1 10) true, .checkApply 0,
    .setNodeRole { role := .primary, forceAuthorityOverride := true } false none, .lock 0,
    .run 0 false, .save 0 false, .mark 0 false]

/-- The disk is full when the replica saves the snapshot. -/
def unsavedReplica : List (RuntimeAction Int Int Int) :=
  [.callApply (replicaEnvelope 1 1 10) true, .checkApply 0, .lock 0, .run 0 false, .save 0 true]

lemma not_appliedSerially_of_run {as : List (RuntimeAction Int Int Int)}
    (hrun : (run witnessedNode.step replicaStandby as).any (fun rt =>
      rt.history.applications.map (·.envelope.epoch) = [1, 2] ∨
        (∃ application ∈ rt.history.applications, application.role = .primary) ∨
        (rt.mutationLock = none ∧ rt.state ≠ rt.saved)) = true) :
    ∃ rt, Reaches witnessedNode.step Always replicaStandby as rt ∧
      ¬ AppliedSerially witnessedNode 1 ("", 0, 0, 0) rt := by
  obtain ⟨rt, hrt, hbroken⟩ := (Option.any_eq_true _ _).mp hrun
  refine ⟨rt, reaches_always_of_run hrt, fun hserial => ?_⟩
  rcases of_decide_eq_true hbroken with hepochs | ⟨application, hmem, hrole⟩ | ⟨hfree, hne⟩
  · have hpairs : (rt.history.applications.map (·.envelope.epoch)).Pairwise
        fun later earlier => earlier ≤ later := by
      refine List.pairwise_map.mpr (hserial.forward.imp fun hle => ?_)
      rcases Prod.Lex.toLex_le_toLex.mp hle with hlt | ⟨heq, -⟩
      · exact le_of_lt hlt
      · exact le_of_eq heq
    rw [hepochs] at hpairs
    exact absurd hpairs (by decide)
  · rw [hserial.standby application hmem] at hrole
    exact absurd hrole (by decide)
  · exact hne ((hserial.agreed hfree).state.trans (hserial.agreed hfree).saved.symm)

/-- **Replicas are not always applied serially**: an older one overwrites a newer one, one is
applied on a primary, and one that raises leaves the show ahead of the saved snapshot. -/
theorem replica_applied_out_of_order :
    (∃ rt, Reaches witnessedNode.step Always replicaStandby overtakenReplica rt ∧
      ¬ AppliedSerially witnessedNode 1 ("", 0, 0, 0) rt) ∧
    (∃ rt, Reaches witnessedNode.step Always replicaStandby promotedMeanwhile rt ∧
      ¬ AppliedSerially witnessedNode 1 ("", 0, 0, 0) rt) ∧
    ∃ rt, Reaches witnessedNode.step Always replicaStandby unsavedReplica rt ∧
      ¬ AppliedSerially witnessedNode 1 ("", 0, 0, 0) rt :=
  ⟨not_appliedSerially_of_run (by decide +kernel), not_appliedSerially_of_run (by decide +kernel),
    not_appliedSerially_of_run (by decide +kernel)⟩

end StageForge
