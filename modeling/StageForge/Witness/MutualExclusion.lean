import StageForge.Witness.GrantInvariant

/-!
# Mutual exclusion of quorum leases

No two nodes are ever valid together, as long as no witness takes a lease away from a node that
relies on it.
-/

namespace StageForge

open TransitionSystem Quorum

structure ClusterInv (D : Deployment) (st : ClusterState) : Prop where
  network : NetworkInv D st.net
  clients : ∀ n, ClientInv D st.net n (st.clients n)

/-- The request that an action makes a witness serve. -/
def Action.delivered (st : ClusterState) : Action → Option Request
  | .deliver i => st.net.requests[i]?
  | _ => none

/-- **The condition on runs.** Whenever a witness moves a lease by a transfer, the source is
settled: it has not come back and relies on a lease again. -/
def TransfersSettled (st : ClusterState) (a : Action) : Prop :=
  ∀ r ∈ a.delivered st, ∀ p ∈ r.payload.transfer?,
    (st.net.lease r.url p.clusterId).Moves p.sourceNodeId p.targetNodeId p.sourceEpoch
        p.targetEpoch p.transactionId st.net.now →
      (st.clients p.sourceNodeId).Settled st.net.now

instance (st : ClusterState) (a : Action) : Decidable (TransfersSettled st a) :=
  inferInstanceAs (Decidable (∀ r ∈ a.delivered st, ∀ p ∈ r.payload.transfer?, _ → _))

/-! ## Runs -/

section

variable {D : Deployment}

lemma inv_start (D : Deployment) (now : ℕ) : ClusterInv D (.start now) := by
  refine ⟨⟨?_, ?_, ?_, ?_⟩, fun n => .idle rfl fun _ hlive => ?_⟩
  · simp [ClusterState.start, Network.start]
  · simp [ClusterState.start, Network.start]
  · simp [ClusterState.start, Network.start]
  · simp [ClusterState.start, Network.start]
  · simp only [ClusterState.start, Network.start] at hlive
    omega

/-- **The step lemma.** -/
theorem inv_step {st st' : ClusterState} {a : Action} (h : ClusterInv D st)
    (hok : TransfersSettled st a) (hs : D.step st a = some st') : ClusterInv D st' := by
  rcases Deployment.step_cases hs with ⟨ms, rfl, rfl⟩ | ⟨n, event, client, rfl, hc, rfl⟩ |
    ⟨n, call, request, rfl, hr, rfl⟩ | ⟨i, request, rfl, hi, rfl⟩
  · exact ⟨h.network.tick ms, fun n => (h.clients n).tick ms⟩
  · refine ⟨h.network, fun m => ?_⟩
    by_cases hm : m = n
    · subst hm
      simpa using (h.clients m).handle h.network hc
    · simpa [ClusterState.setClient_ne st _ hm] using h.clients m
  · obtain ⟨-, url, rest, -, hreq⟩ := Deployment.nextRequest_eq_some hr
    refine ⟨by rw [hreq]; exact h.network.send url _, fun m => ?_⟩
    by_cases hm : m = n
    · subst hm
      simpa using (h.clients m).ask h.network hr
    · simpa [ClusterState.setClient_ne st _ hm] using (h.clients m).send request
  · have hmem : request ∈ st.net.requests := List.mem_of_getElem? hi
    refine ⟨h.network.serve hmem, fun n => (h.clients n).serve h.network hmem ?_⟩
    intro p hp hmoves heq
    rw [← heq]
    exact hok request hi p hp hmoves

/-- **The run lemma.** -/
theorem inv_reaches {now : ℕ} {as : List Action} {st : ClusterState}
    (h : Reaches D.step TransfersSettled (.start now) as st) : ClusterInv D st :=
  h.invariant (inv_start D now) fun _ _ _ hinv hok hs => inv_step hinv hok hs

/-- At this instant no two nodes of one cluster are both valid, whatever their safety margins. -/
def MutuallyExclusive (D : Deployment) (st : ClusterState) : Prop :=
  ∀ a b, a ≠ b → (D.config a).clusterId = (D.config b).clusterId → ∀ marginA marginB,
    ¬ ((st.clients a).valid (D.config a) st.net.now marginA = true ∧
      (st.clients b).valid (D.config b) st.net.now marginB = true)

lemma ClusterInv.mutuallyExclusive {st : ClusterState} (h : ClusterInv D st) :
    MutuallyExclusive D st := by
  rintro a b hne hcluster marginA marginB ⟨hvalidA, hvalidB⟩
  obtain ⟨hfreeA, hliveA⟩ := WitnessQuorumClient.running_of_valid hvalidA
  obtain ⟨hfreeB, hliveB⟩ := WitnessQuorumClient.running_of_valid hvalidB
  have hquorumA := (h.clients a).cached hfreeA hliveA
  have hquorumB := (h.clients b).cached hfreeB hliveB
  obtain ⟨url, -, ⟨eA, hA⟩, ⟨eB, hB⟩⟩ := hquorumA.inter (D.majority a b) hquorumB
  have hholder := hB.holder
  rw [← hcluster, hA.holder] at hholder
  exact hne hholder

end

/-! ## A hand-over that goes well, and one that does not -/

/-- Three witnesses, and every node configured alike. -/
def threeWitnesses : Deployment where
  witnesses := ["w1", "w2", "w3"]
  witnesses_nodup := by decide
  config := fun _ => { urls := ["w1", "w2", "w3"], clusterId := "show", fencePath := true }
  urls_perm := fun _ => .refl _
  majority := fun _ _ => by decide
  fenceDigest := fun _ => String.ofList (List.replicate 64 'f')

/-- Node `n` asks a witness and hears its answer: request `i`, response `j`. -/
def answered (n : String) (i j : ℕ) : List Action := [.ask n, .deliver i, .client n (.hear j)]

/-- Node `n` asks a witness and gives up waiting. -/
def unanswered (n : String) : List Action := [.ask n, .client n (.noAnswer "timed out")]

/-- `A` acquires, hands over to `B` at all three witnesses, and `B` acquires. -/
def plannedHandoff : List Action :=
  [.client "A" .beginAcquire] ++ answered "A" 0 0 ++ answered "A" 1 1 ++ answered "A" 2 2 ++
  [.client "A" .finish, .client "A" (.beginTransfer "B" 1 2 7)] ++
  answered "A" 3 3 ++ answered "A" 4 4 ++ answered "A" 5 5 ++
  [.client "A" .finish, .client "B" .beginAcquire] ++
  answered "B" 6 6 ++ answered "B" 7 7 ++ answered "B" 8 8 ++ [.client "B" .finish]

/-- `A` hands over to `B`, but the transfer request to `w3` stays on the wire. `A` recovers with
the witnesses `w1` and `w2`; the lease they gave to `B` runs out; `A` acquires `w1` and renews `w3`,
whose record it never lost. Then the old request reaches `w3`, and `B` acquires `w2` and `w3`. -/
def lateTransfer : List Action :=
  [.client "A" .beginAcquire] ++ answered "A" 0 0 ++ answered "A" 1 1 ++ answered "A" 2 2 ++
  [.client "A" .finish, .client "A" (.beginTransfer "B" 1 2 7)] ++
  answered "A" 3 3 ++ answered "A" 4 4 ++ unanswered "A" ++
  [.client "A" .finish, .client "A" (.beginRecover "return")] ++
  answered "A" 6 5 ++ answered "A" 7 6 ++ unanswered "A" ++
  [.client "A" .finish, .tick 3000, .client "A" .beginAcquire] ++
  answered "A" 9 7 ++ unanswered "A" ++ answered "A" 11 8 ++
  [.client "A" .finish, .deliver 5, .client "B" .beginAcquire] ++
  answered "B" 12 10 ++ answered "B" 13 11 ++ answered "B" 14 12 ++ [.client "B" .finish]

end StageForge
