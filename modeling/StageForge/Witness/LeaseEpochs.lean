import StageForge.Witness.MutualExclusion

/-!
# Lease epochs across owners

Whether the epoch that a client reports for its quorum lease fences off every earlier owner.
-/

namespace StageForge

open TransitionSystem Quorum

/-! ## The condition -/

/-- The action does not start a transfer or a recovery. -/
def Action.acquireOnly : Action → Bool
  | .client _ (.beginTransfer ..) => false
  | .client _ (.beginRecover _) => false
  | _ => true

/-- The live grants whose epoch reaches `epoch`. -/
def grantsFrom (epoch : Int) (grants : List WitnessResult) : List WitnessResult :=
  grants.filter fun r => epoch ≤ r.epoch

/-- The grants that an action turns into a quorum lease, with the node that does so. -/
def Action.completed (D : Deployment) (st : ClusterState) :
    Action → Option (String × List WitnessResult)
  | .client n event =>
    (st.completes D n event).map fun results =>
      (n, WitnessQuorumClient.liveGrants n st.net.now results)
  | _ => none

/-- **The condition on runs.** When an acquisition completes a quorum, each epoch in the selected
quorum is reached by so many of the live grants that every other quorum meets them. -/
def EpochsAnchored (D : Deployment) (st : ClusterState) (a : Action) : Prop :=
  ∀ done ∈ a.completed D st,
    ∀ r ∈ WitnessQuorumClient.selectedGrants (D.config done.1).quorumSize done.2, ∀ m,
      D.witnesses.length < (grantsFrom r.epoch done.2).length + (D.config m).quorumSize

/-! ## Anchored epochs -/

/-- In every quorum there is a witness whose record of node `n`'s cluster is beyond `epoch`, or has
reached it and still belongs to `n`. -/
def Anchored (D : Deployment) (net : Network) (n : String) (epoch : Int) : Prop :=
  epoch ≤ 0 ∨ ∃ k, (∀ m, D.witnesses.length < k + (D.config m).quorumSize) ∧
    BackedBy D.witnesses k fun url =>
      epoch < (net.lease url (D.config n).clusterId).epoch ∨
        (epoch ≤ (net.lease url (D.config n).clusterId).epoch ∧
          (net.lease url (D.config n).clusterId).holderNodeId = n)

section

variable {D : Deployment} {net net' : Network} {n m : String} {e : Int}

/-- Records move on: no epoch falls, and a new holder has a new epoch. -/
def Advances (net net' : Network) : Prop :=
  ∀ url c, (net.lease url c).epoch ≤ (net'.lease url c).epoch ∧
    ((net.lease url c).holderNodeId ≠ (net'.lease url c).holderNodeId →
      (net.lease url c).epoch < (net'.lease url c).epoch)

lemma advances_of_same (h : ∀ url c, net'.lease url c = net.lease url c) : Advances net net' :=
  fun url c => by simp [h url c]

lemma advances_serve (net : Network) (r : Request) : Advances net (net.serve r) := by
  intro url c
  rcases net.serve_lease r url c with h | ⟨-, call, -, h⟩
  · simp [h]
  · exact ⟨h.epoch_le, h.epoch_lt⟩

lemma Anchored.advance (hadv : Advances net net') (h : Anchored D net n e) :
    Anchored D net' n e := by
  rcases h with h | ⟨k, hk, hback⟩
  · exact Or.inl h
  · refine Or.inr ⟨k, hk, hback.imp fun url _ hurl => ?_⟩
    obtain ⟨hle, hlt⟩ := hadv url (D.config n).clusterId
    rcases hurl with hurl | ⟨hurl, hholder⟩
    · exact Or.inl (lt_of_lt_of_le hurl hle)
    · by_cases hsame : (net'.lease url (D.config n).clusterId).holderNodeId = n
      · exact Or.inr ⟨le_trans hurl hle, hsame⟩
      · refine Or.inl (lt_of_le_of_lt hurl (hlt fun heq => hsame ?_))
        rw [← heq, hholder]

/-- **Fencing.** A quorum that vouches for another node of the cluster includes a witness beyond
every anchored epoch. -/
lemma Anchored.lt_of_quorum {x top : Int} (h : Anchored D net n e) (hne : m ≠ n)
    (hcluster : (D.config m).clusterId = (D.config n).clusterId) (htop : 1 ≤ top)
    (hquorum : BackedBy D.witnesses (D.config m).quorumSize fun url =>
      ∃ epoch ≤ top, Holds D net m url x epoch) : e < top := by
  rcases h with h | ⟨k, hk, hback⟩
  · omega
  · obtain ⟨url, -, hanchor, epoch, hle, hholds⟩ := hback.inter (hk m) hquorum
    have hepoch := hholds.epoch_eq
    have hholder := hholds.holder
    rw [hcluster] at hepoch hholder
    rcases hanchor with hlt | ⟨-, hsame⟩
    · omega
    · exact absurd (hholder.symm.trans hsame) hne

end

/-! ## The reported epoch -/

section

variable {D : Deployment} {net : Network} {n : String} {client client' : WitnessQuorumClient}

open WitnessQuorumClient

variable {st : ClusterState} {event : ClientEvent}

lemma completes_eq_some {results : List WitnessResult}
    (h : st.completes D n event = some results) :
    event = .finish ∧ ∃ call, (st.clients n).call = some call ∧ call.operation = .acquire ∧
      call.remaining = [] ∧ call.results = results ∧
      WitnessQuorumClient.QuorumReached (D.config n).quorumSize
        (liveGrants n st.net.now results) := by
  unfold ClusterState.completes at h
  split at h
  · rename_i call hc
    simp only [Option.ite_none_right_eq_some, Option.some.injEq] at h
    obtain ⟨⟨hop, hrem, hq⟩, rfl⟩ := h
    exact ⟨rfl, call, hc, hop, hrem, rfl, hq⟩
  · exact absurd h (by simp)

lemma handle_completes {results : List WitnessResult}
    (h : st.completes D n event = some results)
    (hs : D.handle st.net n (st.clients n) event = some client') :
    client'.leaseEpoch = max (st.clients n).leaseEpoch (highestEpoch (selectedGrants
        (D.config n).quorumSize (liveGrants n st.net.now results))) := by
  obtain ⟨rfl, call, hc, hop, hrem, rfl, hq⟩ := completes_eq_some h
  simp only [Deployment.handle, hc, hrem, if_true, Option.some.injEq] at hs
  subst hs
  simp only [finishCall, hop, finishAcquire, if_pos hq]

lemma handle_not_completes
    (h : st.completes D n event = none)
    (hs : D.handle st.net n (st.clients n) event = some client') :
    client'.leaseEpoch = (st.clients n).leaseEpoch ∨ client'.leaseEpoch = 0 := by
  cases event with
  | beginAcquire =>
    simp only [Deployment.handle, Option.ite_none_right_eq_some, Option.some.injEq] at hs
    obtain ⟨-, rfl⟩ := hs
    unfold beginAcquire
    split <;> exact Or.inl rfl
  | beginTransfer target se te tx =>
    simp only [Deployment.handle, Option.ite_none_right_eq_some, Option.some.injEq] at hs
    obtain ⟨-, rfl⟩ := hs
    unfold beginTransfer
    split
    · split <;> exact Or.inl rfl
    · exact Or.inl rfl
  | beginRecover recoveryId =>
    simp only [Deployment.handle, Option.ite_none_right_eq_some, Option.some.injEq] at hs
    obtain ⟨-, rfl⟩ := hs
    unfold beginRecover
    split
    · exact Or.inl rfl
    · split <;> exact Or.inl rfl
  | hear j =>
    simp only [Deployment.handle] at hs
    split at hs
    · simp only [Option.ite_none_right_eq_some, Option.some.injEq] at hs
      obtain ⟨-, rfl⟩ := hs
      exact Or.inl rfl
    · exact absurd hs (by simp)
  | noAnswer error =>
    simp only [Deployment.handle] at hs
    split at hs
    · split at hs
      · simp only [Option.some.injEq] at hs
        subst hs
        exact Or.inl rfl
      · exact absurd hs (by simp)
    · exact absurd hs (by simp)
  | finish =>
    simp only [Deployment.handle] at hs
    split at hs
    · rename_i call hc
      simp only [Option.ite_none_right_eq_some, Option.some.injEq] at hs
      obtain ⟨hrem, rfl⟩ := hs
      unfold finishCall
      cases hop : call.operation with
      | acquire =>
        simp only [finishAcquire]
        split
        · rename_i hq
          simp [ClusterState.completes, hc, hop, hrem] at h
          exact absurd (h hq.1) (by have := hq.2; omega)
        · exact Or.inl rfl
      | transfer payload => exact Or.inl rfl
      | recover payload =>
        simp only [finishRecover]
        split
        · exact Or.inl rfl
        · exact Or.inr rfl
    · exact absurd hs (by simp)
  | abandon =>
    simp only [Deployment.handle, Option.some.injEq] at hs
    subst hs
    exact Or.inl rfl
  | restart =>
    simp only [Deployment.handle, Option.some.injEq] at hs
    subst hs
    exact Or.inr rfl

end

/-! ## Runs -/

section

variable {D : Deployment}

/-- Every lease epoch reported so far, and every one a client still remembers, is anchored; and the
reports of different owners of one cluster are in strict order, newest first. -/
structure EpochInv (D : Deployment) (st : ClusterState) : Prop where
  remembered : ∀ n, Anchored D st.net n (st.clients n).leaseEpoch
  reported : ∀ report ∈ st.reports, Anchored D st.net report.nodeId report.leaseEpoch
  ordered : st.reports.Pairwise fun later earlier =>
    later.nodeId ≠ earlier.nodeId →
      (D.config later.nodeId).clusterId = (D.config earlier.nodeId).clusterId →
        earlier.leaseEpoch < later.leaseEpoch

lemma epochInv_start (D : Deployment) (now : ℕ) : EpochInv D (.start now) := by
  refine ⟨fun n => Or.inl (le_refl _), ?_, List.Pairwise.nil⟩
  simp [ClusterState.start]

variable {st : ClusterState}

lemma EpochInv.advance {net : Network} (h : EpochInv D st)
    (hadv : Advances st.net net) : EpochInv D { st with net := net } :=
  ⟨fun n => (h.remembered n).advance hadv, fun r hr => (h.reported r hr).advance hadv, h.ordered⟩

variable {n : String}

lemma EpochInv.setClient {client : WitnessQuorumClient}
    (h : EpochInv D st) (hclient : Anchored D st.net n client.leaseEpoch) :
    EpochInv D (st.setClient n client) := by
  refine ⟨fun m => ?_, h.reported, h.ordered⟩
  by_cases hm : m = n
  · subst hm
    simpa using hclient
  · simpa [ClusterState.setClient_ne st _ hm] using h.remembered m

/-- **The epoch of a completed quorum.** It is anchored, and beyond every anchored epoch of the
other nodes of the cluster. -/
lemma quorum_epoch {event : ClientEvent}
    {results : List WitnessResult} (hinv : ClusterInv D st)
    (hdone : st.completes D n event = some results)
    (hok : EpochsAnchored D st (.client n event)) :
    let top := WitnessQuorumClient.highestEpoch (WitnessQuorumClient.selectedGrants
      (D.config n).quorumSize (WitnessQuorumClient.liveGrants n st.net.now results))
    Anchored D st.net n top ∧ ∀ m e, n ≠ m →
      (D.config n).clusterId = (D.config m).clusterId → Anchored D st.net m e → e < top := by
  intro top
  obtain ⟨rfl, call, hc, hop, hrem, rfl, hq⟩ := completes_eq_some hdone
  have hclient := hinv.clients n
  set live := WitnessQuorumClient.liveGrants n st.net.now call.results with hlive
  set selected := WitnessQuorumClient.selectedGrants (D.config n).quorumSize live with hsel
  have hne : selected ≠ [] := by
    intro hnil
    have hlen := WitnessQuorumClient.length_selectedGrants hq.1
    rw [← hsel, hnil] at hlen
    exact absurd hq.2 (by simp [← hlen])
  obtain ⟨r, hr, hrtop⟩ := WitnessQuorumClient.exists_highestEpoch hne
  constructor
  · -- the grants that reach the highest epoch are the anchor
    refine Or.inr ⟨(grantsFrom r.epoch live).length, ?_, ?_⟩
    · exact hok (n, live) (by simp [Action.completed, hdone, hlive]) r hr
    · have hback := hclient.backed_of_grants (grantsFrom r.epoch live) hc hop hrem
        (fun r' hr' => List.mem_of_mem_filter hr')
        ((hclient.nodup_liveGrants hc hrem).sublist (List.filter_sublist.map _))
      refine hback.imp fun url _ hurl => ?_
      obtain ⟨r', hr', hholds⟩ := hurl
      have hreach : r.epoch ≤ r'.epoch := by
        simpa using (List.mem_filter.mp hr').2
      refine Or.inr ⟨?_, hholds.holder⟩
      rw [hholds.epoch_eq]
      exact le_trans (le_of_eq hrtop.symm) hreach
  · intro m e hnm hcluster hanchor
    have hquorum := hclient.quorum_of_finish hc hop hrem hq
    refine hanchor.lt_of_quorum hnm hcluster ?_ hquorum
    obtain ⟨hmem, hgranted, -, hrlive⟩ :=
      WitnessQuorumClient.mem_liveGrants.mp (WitnessQuorumClient.mem_of_mem_selectedGrants hr)
    have hpos := (hclient.results call hc hop r hmem hgranted hrlive).epoch_pos
    exact le_trans hpos (le_of_eq hrtop)

/-- **The step lemma.** -/
theorem epochInv_step {st st' : ClusterState} {a : Action} (hinv : ClusterInv D st)
    (h : EpochInv D st) (hok : EpochsAnchored D st a) (hs : D.step st a = some st') :
    EpochInv D st' := by
  rcases Deployment.step_cases hs with ⟨ms, rfl, rfl⟩ | ⟨n, event, client, rfl, hc, rfl⟩ |
    ⟨n, call, request, rfl, hr, rfl⟩ | ⟨i, request, rfl, -, rfl⟩
  · exact h.advance (advances_of_same (by simp))
  · cases hdone : st.completes D n event with
    | none =>
      have hclient : Anchored D st.net n client.leaseEpoch := by
        rcases handle_not_completes hdone hc with heq | heq
        · rw [heq]; exact h.remembered n
        · rw [heq]; exact Or.inl (le_refl _)
      exact h.setClient hclient
    | some results =>
      obtain ⟨htop, hbeyond⟩ := quorum_epoch hinv hdone hok
      have hepoch := handle_completes hdone hc
      have hclient : Anchored D st.net n client.leaseEpoch := by
        rw [hepoch]
        rcases le_total (WitnessQuorumClient.highestEpoch (WitnessQuorumClient.selectedGrants
          (D.config n).quorumSize (WitnessQuorumClient.liveGrants n st.net.now results)))
          (st.clients n).leaseEpoch with hle | hle
        · rw [max_eq_left hle]; exact h.remembered n
        · rw [max_eq_right hle]; exact htop
      have hset := h.setClient hclient
      refine ⟨hset.remembered, ?_, ?_⟩
      · intro report hreport
        simp only [Option.isSome_some, if_true, List.cons_append, List.nil_append,
          List.mem_cons] at hreport
        rcases hreport with rfl | hreport
        · exact hclient
        · exact h.reported report hreport
      · simp only [Option.isSome_some, if_true, List.cons_append, List.nil_append]
        refine List.pairwise_cons.mpr ⟨fun earlier hearlier hne hcluster => ?_, h.ordered⟩
        have hlt := hbeyond _ _ hne hcluster (h.reported earlier hearlier)
        simp only [hepoch]
        exact lt_of_lt_of_le hlt (le_max_right _ _)
  · have hset : EpochInv D (st.setClient n
        { st.clients n with call := some { call with outstanding := some request } }) :=
      h.setClient (h.remembered n)
    exact hset.advance (advances_of_same (by simp))
  · exact h.advance (advances_serve st.net request)

/-! ### Runs of acquisitions -/

/-- Nobody ever asked for anything but an acquisition. -/
structure TransferFree (st : ClusterState) : Prop where
  requests : ∀ r ∈ st.net.requests, r.payload.transfer? = none
  calls : ∀ n call, (st.clients n).call = some call → call.operation = .acquire

lemma handle_acquireOnly {net : Network} {client client' : WitnessQuorumClient}
    {event : ClientEvent} (hok : (Action.client n event).acquireOnly = true)
    (hs : D.handle net n client event = some client')
    (h : ∀ call, client.call = some call → call.operation = .acquire) :
    ∀ call, client'.call = some call → call.operation = .acquire := by
  intro call' hcall'
  cases event with
  | beginAcquire =>
    simp only [Deployment.handle, Option.ite_none_right_eq_some, Option.some.injEq] at hs
    obtain ⟨-, rfl⟩ := hs
    unfold WitnessQuorumClient.beginAcquire at hcall'
    split at hcall'
    · exact h call' hcall'
    · simp only [Option.some.injEq] at hcall'
      rw [← hcall']
  | beginTransfer target se te tx => exact absurd hok (by simp [Action.acquireOnly])
  | beginRecover recoveryId => exact absurd hok (by simp [Action.acquireOnly])
  | hear j =>
    simp only [Deployment.handle] at hs
    split at hs
    · rename_i call response hc hj
      simp only [Option.ite_none_right_eq_some, Option.some.injEq] at hs
      obtain ⟨-, rfl⟩ := hs
      simp only [Option.some.injEq] at hcall'
      rw [← hcall']
      exact h call hc
    · exact absurd hs (by simp)
  | noAnswer error =>
    simp only [Deployment.handle] at hs
    split at hs
    · rename_i call hc
      split at hs
      · simp only [Option.some.injEq] at hs
        subst hs
        simp only [Option.some.injEq] at hcall'
        rw [← hcall']
        exact h call hc
      · exact absurd hs (by simp)
    · exact absurd hs (by simp)
  | finish =>
    simp only [Deployment.handle] at hs
    split at hs
    · rename_i call hc
      simp only [Option.ite_none_right_eq_some, Option.some.injEq] at hs
      obtain ⟨-, rfl⟩ := hs
      have hidle : (client.finishCall (D.config n) n net.now call).call = none := by
        simp only [WitnessQuorumClient.finishCall, h call hc, WitnessQuorumClient.finishAcquire]
        split <;> rfl
      simp [hidle] at hcall'
    · exact absurd hs (by simp)
  | abandon =>
    simp only [Deployment.handle, Option.some.injEq] at hs
    subst hs
    simp at hcall'
  | restart =>
    simp only [Deployment.handle, Option.some.injEq] at hs
    subst hs
    simp [WitnessQuorumClient.restart] at hcall'

lemma transferFree_step {st st' : ClusterState} {a : Action} (h : TransferFree st)
    (hok : a.acquireOnly = true) (hs : D.step st a = some st') : TransferFree st' := by
  rcases Deployment.step_cases hs with ⟨ms, rfl, rfl⟩ | ⟨n, event, client, rfl, hc, rfl⟩ |
    ⟨n, call, request, rfl, hr, rfl⟩ | ⟨i, request, rfl, -, rfl⟩
  · exact ⟨h.requests, h.calls⟩
  · refine ⟨h.requests, fun m => ?_⟩
    by_cases hm : m = n
    · subst hm
      simpa using handle_acquireOnly hok hc (h.calls m)
    · simpa [ClusterState.setClient_ne st _ hm] using h.calls m
  · obtain ⟨hc, url, rest, -, rfl⟩ := Deployment.nextRequest_eq_some hr
    refine ⟨?_, fun m => ?_⟩
    · intro r hr'
      simp only [Network.send, List.mem_append, List.mem_singleton] at hr'
      rcases hr' with hr' | rfl
      · exact h.requests r hr'
      · simp [Network.fresh, h.calls n call hc, WitnessQuorumClient.payload, Payload.transfer?]
    · by_cases hm : m = n
      · subst hm
        intro call' hcall'
        simp only [ClusterState.setClient_self, Option.some.injEq] at hcall'
        rw [← hcall']
        exact h.calls m call hc
      · simpa [ClusterState.setClient_ne st _ hm] using h.calls m
  · exact ⟨by simpa using h.requests, h.calls⟩

lemma TransferFree.settled (h : TransferFree st) (a : Action) :
    TransfersSettled st a := by
  intro r hr p hp
  cases a with
  | deliver i =>
    have hmem : r ∈ st.net.requests := List.mem_of_getElem? hr
    rw [h.requests r hmem] at hp
    exact absurd hp (by simp)
  | tick ms => exact absurd hr (by simp [Action.delivered])
  | client n event => exact absurd hr (by simp [Action.delivered])
  | ask n => exact absurd hr (by simp [Action.delivered])

/-- **The run lemma**, with transfers as well. -/
theorem epochInv_reaches {now : ℕ} {as : List Action}
    (h : Reaches D.step (fun st a => TransfersSettled st a ∧ EpochsAnchored D st a)
      (.start now) as st) : EpochInv D st := by
  have hinv := h.assuming (I := ClusterInv D) (inv_start D now)
    fun _ _ _ hinv hok hs => inv_step hinv hok.1 hs
  exact hinv.invariant (epochInv_start D now)
    fun _ _ _ hepoch hok hs => epochInv_step hok.2 hepoch hok.1.2 hs

/-- Of any two reports of different nodes of one cluster, the later one is the larger one. -/
def EpochsFence (D : Deployment) (st : ClusterState) : Prop :=
  st.reports.Pairwise fun later earlier =>
    later.nodeId ≠ earlier.nodeId →
      (D.config later.nodeId).clusterId = (D.config earlier.nodeId).clusterId →
        earlier.leaseEpoch < later.leaseEpoch

end

/-! ## Owners that take turns, and a witness that runs ahead -/

lemma quorumSize_threeWitnesses (n : String) : (threeWitnesses.config n).quorumSize = 2 := by
  simp [threeWitnesses, ClientConfig.quorumSize]

/-- The condition for three witnesses, as a decidable one: every quorum is two of them. -/
def AnchoredOfThree (st : ClusterState) (a : Action) : Prop :=
  a.acquireOnly = true ∧ ∀ done ∈ a.completed threeWitnesses st,
    ∀ r ∈ WitnessQuorumClient.selectedGrants 2 done.2, 3 < (grantsFrom r.epoch done.2).length + 2

instance (st : ClusterState) (a : Action) : Decidable (AnchoredOfThree st a) :=
  inferInstanceAs (Decidable (_ ∧ ∀ done ∈ a.completed threeWitnesses st, _))

/-- `A` acquires all three witnesses; its lease runs out; `B` acquires all three. -/
def takeover : List Action :=
  [.client "A" .beginAcquire] ++ answered "A" 0 0 ++ answered "A" 1 1 ++ answered "A" 2 2 ++
  [.client "A" .finish, .tick 3000, .client "B" .beginAcquire] ++
  answered "B" 3 3 ++ answered "B" 4 4 ++ answered "B" 5 5 ++ [.client "B" .finish]

/-- `A` and `B` take turns at the witness `w1` alone, so its record is ahead of the others; then
`A` acquires `w1` and `w2`, its lease runs out, and `B` acquires `w2` and `w3`. -/
def divergedWitness : List Action :=
  [.client "A" .beginAcquire] ++ answered "A" 0 0 ++ unanswered "A" ++ unanswered "A" ++
  [.client "A" .finish, .tick 3000, .client "B" .beginAcquire] ++
  answered "B" 3 1 ++ unanswered "B" ++ unanswered "B" ++
  [.client "B" .finish, .tick 3000, .client "A" .beginAcquire] ++
  answered "A" 6 2 ++ answered "A" 7 3 ++ unanswered "A" ++
  [.client "A" .finish, .tick 3000, .client "B" .beginAcquire] ++
  unanswered "B" ++ answered "B" 10 4 ++ answered "B" 11 5 ++ [.client "B" .finish]

end StageForge
