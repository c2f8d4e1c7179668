import StageForge.Library.Quorum
import StageForge.Witness.Cluster

/-!
# What a grant means

The invariant behind the quorum lease. It follows a grant from the witness's record to the
client's cache: a response on the wire that the client is waiting for, a result of the acquisition
under way, and the cached lease all mean that the record still names this node, for at least as
long (`Holds`).
-/

namespace StageForge

open Quorum

/-! ## What a grant means -/

/-- The witness at `url` vouches for node `n`: its record names `n` at this epoch, and will until
`expires` at least. The last bound makes a late renewal harmless: it can only extend the record. -/
structure Holds (D : Deployment) (net : Network) (n url : String) (expires epoch : Int) : Prop where
  named : n ≠ ""
  holder : (net.lease url (D.config n).clusterId).holderNodeId = n
  until_expiry : expires ≤ (net.lease url (D.config n).clusterId).expiresAtUnixMs
  within_ttl : expires ≤ net.now + (D.config n).ttlMs
  epoch_eq : (net.lease url (D.config n).clusterId).epoch = epoch
  epoch_pos : 1 ≤ epoch

/-- A granted result that is still running is backed by its witness. -/
def Sound (D : Deployment) (net : Network) (n : String) (result : WitnessResult) : Prop :=
  result.granted = true → net.now < result.expiresAtUnixMs →
    Holds D net n result.url result.expiresAtUnixMs result.epoch

/-- What holds of the client of node `n`. -/
structure ClientInv (D : Deployment) (net : Network) (n : String) (client : WitnessQuorumClient) :
    Prop where
  cached : client.acquisitionSuspended = false → net.now < client.leaseExpiresAt →
    BackedBy D.witnesses (D.config n).quorumSize
      fun url => ∃ epoch, Holds D net n url client.leaseExpiresAt epoch
  free : client.Acquiring → client.acquisitionSuspended = false
  asked : ∀ call, client.call = some call →
    call.results.map (·.url) ++ call.remaining = (D.config n).urls
  waiting : ∀ call r, client.call = some call → call.outstanding = some r →
    r ∈ net.requests ∧ call.remaining.head? = some r.url ∧
      r.payload = WitnessQuorumClient.payload (D.config n) n call.operation
  results : ∀ call, client.call = some call → call.operation = .acquire →
    ∀ result ∈ call.results, Sound D net n result
  answers : ∀ call r, client.call = some call → call.operation = .acquire →
    call.outstanding = some r → ∀ response ∈ net.responses, response.request = r →
      Sound D net n (readAnswer (D.config n) n r.url r.payload response.answer)

structure NetworkInv (D : Deployment) (net : Network) : Prop where
  now_nonneg : 0 ≤ net.now
  sent : ∀ r ∈ net.requests, r.nonce < net.requests.length
  answered : ∀ response ∈ net.responses, response.request ∈ net.requests
  ttl : ∀ r ∈ net.requests, ∀ p, r.payload = .acquire p → p.ttlMs = (D.config p.nodeId).ttlMs

/-! ## Frame lemmas -/

section

variable {D : Deployment} {net net' : Network} {n url : String} {x y e : Int}

lemma Holds.shorten (h : Holds D net n url x e) (hy : y ≤ x) : Holds D net n url y e := { h with
    until_expiry := le_trans hy h.until_expiry
    within_ttl := le_trans hy h.within_ttl }

lemma Holds.frame (h : Holds D net n url x e) (hnow : net.now ≤ net'.now)
    (hlease : ∀ url c, net'.lease url c = net.lease url c) : Holds D net' n url x e where
  named := h.named
  holder := by rw [hlease]; exact h.holder
  until_expiry := by rw [hlease]; exact h.until_expiry
  within_ttl := le_trans h.within_ttl (by omega)
  epoch_eq := by rw [hlease]; exact h.epoch_eq
  epoch_pos := h.epoch_pos

/-- **A step of the store keeps what it must.** Nobody else can acquire a lease that is running,
the node's own renewal extends it at the same epoch, and a transfer away from the node is
excluded. -/
lemma Holds.serve {r : Request} (hinv : NetworkInv D net) (hr : r ∈ net.requests)
    (hmove : ∀ p ∈ r.payload.transfer?,
      (net.lease r.url p.clusterId).Moves p.sourceNodeId p.targetNodeId p.sourceEpoch
        p.targetEpoch p.transactionId net.now → p.sourceNodeId ≠ n)
    (hlive : net.now < x) (h : Holds D net n url x e) : Holds D (net.serve r) n url x e := by
  have hnow : (net.serve r).now = net.now := net.now_serve r
  rcases net.serve_lease r url (D.config n).clusterId with hsame | ⟨hurl, call, hcall, hstep⟩
  · refine ⟨h.named, ?_, ?_, ?_, ?_, h.epoch_pos⟩
    · rw [hsame]; exact h.holder
    · rw [hsame]; exact h.until_expiry
    · rw [hnow]; exact h.within_ttl
    · rw [hsame]; exact h.epoch_eq
  · generalize hl : (net.serve r).lease url (D.config n).clusterId = l' at hstep
    cases hstep with
    | keep =>
      refine ⟨h.named, ?_, ?_, ?_, ?_, h.epoch_pos⟩
      · rw [hl]; exact h.holder
      · rw [hl]; exact h.until_expiry
      · rw [hnow]; exact h.within_ttl
      · rw [hl]; exact h.epoch_eq
    | @acquired _ m ttlMs hfree =>
      -- the lease is running, so only its holder gets past the refusal
      have hm : n = m := by
        by_contra hne
        refine hfree ⟨by rw [h.holder]; exact h.named, by rw [h.holder]; exact hne, ?_⟩
        exact lt_of_lt_of_le hlive h.until_expiry
      have httl : ttlMs = (D.config n).ttlMs := by
        cases hp : r.payload with
        | acquire p =>
          rw [hp] at hcall
          simp only [Payload.storeCall, Option.some.injEq, StoreCall.acquire.injEq] at hcall
          rw [hm, ← hcall.2.1, ← hcall.2.2]
          exact hinv.ttl r hr p hp
        | transfer p => simp [hp, Payload.storeCall] at hcall
        | recover p => simp [hp, Payload.storeCall] at hcall
      have hepoch : 1 ≤ (net.lease url (D.config n).clusterId).epoch := by
        rw [h.epoch_eq]; exact h.epoch_pos
      refine ⟨h.named, ?_, ?_, ?_, ?_, h.epoch_pos⟩
      · rw [hl]; exact hm.symm
      · rw [hl, httl]
        simpa [Lease.acquired] using h.within_ttl
      · rw [hnow]; exact h.within_ttl
      · rw [hl]
        simp only [Lease.acquired]
        rw [Lease.acquiredEpoch_of_holder (h.holder.trans hm) hepoch, h.epoch_eq]
    | @moved _ s t se te tx ttlMs hm =>
      -- the source of a transfer that goes through is the holder, which is `n`
      exfalso
      cases hp : r.payload with
      | acquire p => simp [hp, Payload.storeCall] at hcall
      | transfer p =>
        rw [hp] at hcall
        simp only [Payload.storeCall, Option.some.injEq, StoreCall.transfer.injEq] at hcall
        obtain ⟨hc, rfl, rfl, rfl, rfl, rfl, -⟩ := hcall
        refine hmove p (by simp [hp, Payload.transfer?]) ?_ (hm.2.1.symm.trans h.holder)
        rw [hc, ← hurl]
        exact hm
      | recover p => simp [hp, Payload.storeCall] at hcall

end

/-! ## The network under a client -/

section

variable {D : Deployment} {net net' : Network} {n : String} {client : WitnessQuorumClient}

lemma ClientInv.frame (h : ClientInv D net n client) (hnow : net.now ≤ net'.now)
    (hreq : net.requests ⊆ net'.requests)
    (hholds : ¬ client.Settled net.now → ∀ url x e, net'.now < x → Holds D net n url x e →
      Holds D net' n url x e)
    (hnew : ∀ call r, client.call = some call → call.operation = .acquire →
      call.outstanding = some r → ∀ response ∈ net'.responses, response ∉ net.responses →
        response.request = r →
          Sound D net' n (readAnswer (D.config n) n r.url r.payload response.answer)) :
    ClientInv D net' n client := by
  have hsound : client.Acquiring → ∀ result, Sound D net n result → Sound D net' n result := by
    intro hacq result hs hg hlive
    have hrelies : ¬ client.Settled net.now := by
      rintro (hsusp | ⟨hno, -⟩)
      · simp [h.free hacq] at hsusp
      · exact hno hacq
    exact hholds hrelies _ _ _ hlive (hs hg (lt_of_le_of_lt hnow hlive))
  refine ⟨?_, h.free, h.asked, ?_, ?_, ?_⟩
  · intro hsusp hlive
    have hrelies : ¬ client.Settled net.now := by
      rintro (hs | ⟨-, hle⟩)
      · simp [hsusp] at hs
      · omega
    refine (h.cached hsusp (lt_of_le_of_lt hnow hlive)).imp fun url _ hurl => ?_
    obtain ⟨e, he⟩ := hurl
    exact ⟨e, hholds hrelies _ _ _ hlive he⟩
  · intro call r hc hr
    obtain ⟨hmem, hrest⟩ := h.waiting call r hc hr
    exact ⟨hreq hmem, hrest⟩
  · intro call hc hop result hres
    exact hsound (by simp [hc, hop]) result (h.results call hc hop result hres)
  · intro call r hc hop hr response hresp heq
    by_cases hold : response ∈ net.responses
    · exact hsound (by simp [hc, hop]) _ (h.answers call r hc hop hr response hold heq)
    · exact hnew call r hc hop hr response hresp hold heq

/-- **The witness keeps its word.** The answer to an acquire request is sound the moment it is
given: the record that the witness wrote is the one it reports. -/
lemma sound_of_serve {r : Request} {answer : Answer} {store : WitnessLeaseStore}
    (hp : r.payload = WitnessQuorumClient.payload (D.config n) n .acquire)
    (hs : (net.stores r.url).serve net.now r.payload = some (answer, store)) :
    Sound D (net.serve r) n (readAnswer (D.config n) n r.url r.payload answer) := by
  have hnet : (net.serve r).lease r.url (D.config n).clusterId
      = store.lease (D.config n).clusterId := by
    simp [Network.serve, Network.lease, hs]
  rw [hp] at hs ⊢
  simp only [WitnessQuorumClient.payload] at hs ⊢
  obtain ⟨hverify, hans⟩ := WitnessLeaseStore.serve_acquire hs
  intro hg _
  obtain ⟨reply, hreply, hgranted, -, -, hpos, heq⟩ := readAnswer_acquire_granted hg
  rw [heq]
  rw [hreply] at hans
  have hstore := WitnessLeaseStore.serve_store hs
  simp only [Payload.storeCall, reduceCtorEq, false_and, Option.some.injEq, exists_eq_left',
    WitnessLeaseStore.exec, false_or] at hstore
  simp only [Answer.lease.injEq] at hans
  rcases (net.stores r.url).acquire_cases (D.config n).clusterId n (D.config n).ttlMs net.now with
    ⟨-, hno, -⟩ | ⟨-, hr, hput⟩
  · rw [hans, hno] at hgranted
    exact absurd hgranted (by simp)
  · rw [hput] at hstore
    rw [hans, hr] at hpos ⊢
    rw [hstore, WitnessLeaseStore.lease_put_self] at hnet
    refine ⟨(verifyRequest_ok hverify).1, ?_, ?_, ?_, ?_, hpos⟩
    · rw [hnet]; rfl
    · rw [hnet]; simp [Lease.acquired]
    · simp
    · rw [hnet]; rfl

lemma ClientInv.tick (h : ClientInv D net n client) (ms : ℕ) :
    ClientInv D (net.tick ms) n client := by
  have hnow : net.now ≤ (net.tick ms).now := by rw [Network.now_tick]; omega
  refine h.frame hnow (by simp) ?_ ?_
  · intro _ url x e _ hh
    exact hh.frame hnow (by simp)
  · intro call r _ _ _ response hresp hnot
    exact absurd hresp hnot

lemma ClientInv.send (h : ClientInv D net n client) (r : Request) :
    ClientInv D (net.send r) n client := by
  refine h.frame (by simp) (by simp [Network.send]) ?_ ?_
  · intro _ url x e _ hh
    exact hh.frame (by simp) (by simp)
  · intro call r' _ _ _ response hresp hnot
    exact absurd hresp hnot

/-- **Serving any request leaves a client's grants in place**, if it does not move a lease away
from a client that relies on it. -/
lemma ClientInv.serve {r : Request} (hinv : NetworkInv D net) (hr : r ∈ net.requests)
    (hmove : ∀ p ∈ r.payload.transfer?,
      (net.lease r.url p.clusterId).Moves p.sourceNodeId p.targetNodeId p.sourceEpoch
        p.targetEpoch p.transactionId net.now → p.sourceNodeId = n → client.Settled net.now)
    (h : ClientInv D net n client) : ClientInv D (net.serve r) n client := by
  refine h.frame (by simp) (by simp) ?_ ?_
  · intro hrelies url x e hlive hh
    refine hh.serve hinv hr (fun p hp hm heq => hrelies (hmove p hp hm heq)) (by simpa using hlive)
  · intro call r' hc hop hout response hresp hnot heq
    obtain ⟨-, -, hpay⟩ := h.waiting call r' hc hout
    rcases net.serve_cases r with hsame | ⟨answer, store, hs, hserve⟩
    · rw [hsame] at hresp
      exact absurd hresp hnot
    · have hnew : response = ⟨r, answer⟩ := by
        rw [hserve] at hresp
        simpa [hnot] using hresp
      subst hnew
      simp only at heq
      subst heq
      rw [hop] at hpay
      exact sound_of_serve hpay hs

lemma NetworkInv.tick (h : NetworkInv D net) (ms : ℕ) : NetworkInv D (net.tick ms) :=
  ⟨by have := h.now_nonneg; simp; omega, h.sent, h.answered, h.ttl⟩

lemma NetworkInv.send (h : NetworkInv D net) (url : String) (op : Operation) :
    NetworkInv D (net.send (net.fresh url (WitnessQuorumClient.payload (D.config n) n op))) := by
  refine ⟨h.now_nonneg, ?_, ?_, ?_⟩
  · intro r hr
    simp only [Network.send, List.mem_append, List.mem_singleton, List.length_append,
      List.length_singleton] at hr ⊢
    rcases hr with hr | rfl
    · have := h.sent r hr
      omega
    · simp [Network.fresh]
  · intro response hresp
    exact List.mem_append_left _ (h.answered response hresp)
  · intro r hr p hp
    simp only [Network.send, List.mem_append, List.mem_singleton] at hr
    rcases hr with hr | rfl
    · exact h.ttl r hr p hp
    · cases op with
      | acquire =>
        simp only [Network.fresh, WitnessQuorumClient.payload, Payload.acquire.injEq] at hp
        subst hp
        rfl
      | transfer q => simp [Network.fresh, WitnessQuorumClient.payload] at hp
      | recover q => simp [Network.fresh, WitnessQuorumClient.payload] at hp

lemma NetworkInv.serve {r : Request} (h : NetworkInv D net) (hr : r ∈ net.requests) :
    NetworkInv D (net.serve r) := by
  refine ⟨by simpa using h.now_nonneg, by simpa using h.sent, ?_, by simpa using h.ttl⟩
  intro response hresp
  rw [Network.requests_serve]
  rcases net.serve_cases r with hsame | ⟨answer, store, -, hserve⟩
  · rw [hsame] at hresp
    exact h.answered response hresp
  · rw [hserve] at hresp
    simp only [List.mem_append, List.mem_singleton] at hresp
    rcases hresp with hresp | rfl
    · exact h.answered response hresp
    · exact hr

end

/-! ## The quorum of a finished acquisition -/

section

variable {D : Deployment} {net : Network} {n : String} {client : WitnessQuorumClient}

variable {call : PendingCall}

lemma ClientInv.results_urls (h : ClientInv D net n client)
    (hc : client.call = some call) (hdone : call.remaining = []) :
    (call.results.map (·.url)).Perm D.witnesses := by
  have hasked := h.asked call hc
  rw [hdone, List.append_nil] at hasked
  rw [hasked]
  exact D.urls_perm n

open WitnessQuorumClient

lemma ClientInv.backed_of_grants (grants : List WitnessResult)
    (h : ClientInv D net n client) (hc : client.call = some call)
    (hop : call.operation = .acquire) (hdone : call.remaining = [])
    (hsub : ∀ r ∈ grants, r ∈ liveGrants n net.now call.results)
    (hnodup : (grants.map (·.url)).Nodup) :
    BackedBy D.witnesses grants.length fun url =>
      ∃ r ∈ grants, Holds D net n url r.expiresAtUnixMs r.epoch := by
  refine ⟨grants.map (·.url), hnodup, ?_, by simp, ?_⟩
  · intro url hurl
    obtain ⟨r, hr, rfl⟩ := List.mem_map.mp hurl
    have hmem := (mem_liveGrants.mp (hsub r hr)).1
    exact (h.results_urls hc hdone).subset (List.mem_map_of_mem hmem)
  · intro url hurl
    obtain ⟨r, hr, rfl⟩ := List.mem_map.mp hurl
    obtain ⟨hmem, hgranted, -, hlive⟩ := mem_liveGrants.mp (hsub r hr)
    exact ⟨r, hr, h.results call hc hop r hmem hgranted hlive⟩

lemma ClientInv.nodup_liveGrants (h : ClientInv D net n client)
    (hc : client.call = some call) (hdone : call.remaining = []) :
    ((liveGrants n net.now call.results).map (·.url)).Nodup :=
  ((h.results_urls hc hdone).nodup_iff.mpr D.witnesses_nodup).sublist (List.filter_sublist.map _)

/-- **A finished acquisition has its quorum.** The witnesses of the selected grants vouch for the
node until the cached expiry, each at an epoch that the reported one reaches. -/
lemma ClientInv.quorum_of_finish (h : ClientInv D net n client)
    (hc : client.call = some call) (hop : call.operation = .acquire) (hdone : call.remaining = [])
    (hq : WitnessQuorumClient.QuorumReached (D.config n).quorumSize
      (liveGrants n net.now call.results)) :
    BackedBy D.witnesses (D.config n).quorumSize fun url =>
      ∃ epoch ≤ highestEpoch (selectedGrants
          (D.config n).quorumSize (liveGrants n net.now call.results)),
        Holds D net n url (earliestExpiry (selectedGrants
          (D.config n).quorumSize (liveGrants n net.now call.results)))
          epoch := by
  have hback := h.backed_of_grants (selectedGrants (D.config n).quorumSize
      (liveGrants n net.now call.results)) hc hop hdone
    (fun r hr => mem_of_mem_selectedGrants hr)
    (nodup_urls_selectedGrants (h.nodup_liveGrants hc hdone))
  rw [length_selectedGrants hq.1] at hback
  refine hback.imp fun url _ hurl => ?_
  obtain ⟨r, hr, hh⟩ := hurl
  exact ⟨r.epoch, le_highestEpoch hr, hh.shorten (earliestExpiry_le hr)⟩

end

/-! ## The steps of a client -/

section

variable {D : Deployment} {net : Network} {n : String} {client client' : WitnessQuorumClient}

lemma ClientInv.idle (hcall : client.call = none)
    (hcached : client.acquisitionSuspended = false → net.now < client.leaseExpiresAt →
      BackedBy D.witnesses (D.config n).quorumSize
        fun url => ∃ epoch, Holds D net n url client.leaseExpiresAt epoch) :
    ClientInv D net n client := by
  refine ⟨hcached, ?_, ?_, ?_, ?_, ?_⟩ <;> simp [hcall]

lemma ClientInv.begun {op : Operation}
    (hcall : client.call = some { operation := op, remaining := (D.config n).urls })
    (hfree : op = .acquire → client.acquisitionSuspended = false)
    (hcached : client.acquisitionSuspended = false → net.now < client.leaseExpiresAt →
      BackedBy D.witnesses (D.config n).quorumSize
        fun url => ∃ epoch, Holds D net n url client.leaseExpiresAt epoch) :
    ClientInv D net n client := by
  refine ⟨hcached, ?_, ?_, ?_, ?_, ?_⟩
  · intro hacq
    exact hfree (by simpa [hcall] using hacq)
  · intro call hc
    rw [hcall, Option.some.injEq] at hc
    subst hc
    rfl
  · intro call r hc hr
    rw [hcall, Option.some.injEq] at hc
    subst hc
    simp at hr
  · intro call hc _ result hres
    rw [hcall, Option.some.injEq] at hc
    subst hc
    simp at hres
  · intro call r hc _ hr
    rw [hcall, Option.some.injEq] at hc
    subst hc
    simp at hr

lemma ClientInv.record {call : PendingCall} {result : WitnessResult}
    (h : ClientInv D net n client) (hc : client.call = some call)
    (hturn : call.remaining.head? = some result.url)
    (hsound : call.operation = .acquire → Sound D net n result) :
    ClientInv D net n { client with call := some (call.record result) } := by
  refine ⟨h.cached, ?_, ?_, ?_, ?_, ?_⟩
  · intro hacq
    refine h.free ?_
    simpa [hc, PendingCall.record] using hacq
  · intro call' hc'
    simp only [Option.some.injEq] at hc'
    subst hc'
    have hasked := h.asked call hc
    cases hrem : call.remaining with
    | nil => simp [hrem] at hturn
    | cons url rest =>
      simp only [hrem, List.head?_cons, Option.some.injEq] at hturn
      rw [← hasked, hrem]
      simp [PendingCall.record, hrem, ← hturn]
  · intro call' r hc' hr
    simp only [Option.some.injEq] at hc'
    subst hc'
    simp [PendingCall.record] at hr
  · intro call' hc' hop res hres
    simp only [Option.some.injEq] at hc'
    subst hc'
    simp only [PendingCall.record, List.mem_append, List.mem_singleton] at hres hop
    rcases hres with hres | rfl
    · exact h.results call hc hop res hres
    · exact hsound hop
  · intro call' r hc' _ hr
    simp only [Option.some.injEq] at hc'
    subst hc'
    simp [PendingCall.record] at hr

open WitnessQuorumClient

/-- **Every event of a client keeps its invariant.** -/
theorem ClientInv.handle {event : ClientEvent} (hinv : NetworkInv D net)
    (h : ClientInv D net n client) (hs : D.handle net n client event = some client') :
    ClientInv D net n client' := by
  cases event with
  | beginAcquire =>
    simp only [Deployment.handle, Option.ite_none_right_eq_some, Option.some.injEq] at hs
    obtain ⟨hidle, rfl⟩ := hs
    unfold beginAcquire
    split
    · exact h
    · rename_i hfree
      exact .begun rfl (fun _ => by simpa using hfree) h.cached
  | beginTransfer target se te tx =>
    simp only [Deployment.handle, Option.ite_none_right_eq_some, Option.some.injEq] at hs
    obtain ⟨hidle, rfl⟩ := hs
    unfold beginTransfer
    split
    · split
      · exact .idle hidle (by simp)
      · exact .begun rfl (by simp) (by simp)
    · exact .begun rfl (by simp) (by simp)
  | beginRecover recoveryId =>
    simp only [Deployment.handle, Option.ite_none_right_eq_some, Option.some.injEq] at hs
    obtain ⟨hidle, rfl⟩ := hs
    unfold beginRecover
    split
    · exact h
    · split
      · exact .begun rfl (by simp) h.cached
      · exact h
  | hear j =>
    simp only [Deployment.handle] at hs
    split at hs
    · rename_i call response hc hj
      split at hs
      · rename_i hout
        simp only [Option.some.injEq] at hs
        subst hs
        obtain ⟨-, hturn, -⟩ := h.waiting call _ hc hout
        have hresp : response ∈ net.responses := List.mem_of_getElem? hj
        refine h.record hc ?_ fun hop => h.answers call _ hc hop hout response hresp rfl
        rw [hturn, readAnswer_url]
      · exact absurd hs (by simp)
    · exact absurd hs (by simp)
  | noAnswer error =>
    simp only [Deployment.handle] at hs
    split at hs
    · rename_i call hc
      split at hs
      · rename_i url rest hrem
        simp only [Option.some.injEq] at hs
        subst hs
        exact h.record hc (by simp [hrem, failed]) fun _ hg => by simp [failed] at hg
      · exact absurd hs (by simp)
    · exact absurd hs (by simp)
  | finish =>
    simp only [Deployment.handle] at hs
    split at hs
    · rename_i call hc
      simp only [Option.ite_none_right_eq_some, Option.some.injEq] at hs
      obtain ⟨hdone, rfl⟩ := hs
      unfold finishCall
      cases hop : call.operation with
      | acquire =>
        simp only [finishAcquire]
        split
        · rename_i hq
          refine .idle rfl fun _ _ => ?_
          refine (h.quorum_of_finish hc hop hdone hq).imp fun url _ hurl => ?_
          obtain ⟨e, -, hh⟩ := hurl
          exact ⟨e, hh⟩
        · exact .idle rfl h.cached
      | transfer payload => exact .idle rfl h.cached
      | recover payload =>
        simp only [finishRecover]
        split
        · exact .idle rfl h.cached
        · refine .idle rfl fun _ hlive => ?_
          have hnow := hinv.now_nonneg
          simp only at hlive
          omega
    · exact absurd hs (by simp)
  | abandon =>
    simp only [Deployment.handle, Option.some.injEq] at hs
    subst hs
    exact .idle rfl h.cached
  | restart =>
    simp only [Deployment.handle, Option.some.injEq] at hs
    subst hs
    refine .idle rfl fun _ hlive => ?_
    have hnow := hinv.now_nonneg
    simp only [restart] at hlive
    omega

lemma ClientInv.ask {call : PendingCall} {request : Request} (hinv : NetworkInv D net)
    (h : ClientInv D net n client) (hr : D.nextRequest net n client = some (call, request)) :
    ClientInv D (net.send request) n
      { client with call := some { call with outstanding := some request } } := by
  obtain ⟨hc, url, rest, hrem, rfl⟩ := Deployment.nextRequest_eq_some hr
  have h' := h.send (net.fresh url (payload (D.config n) n call.operation))
  refine ⟨h'.cached, ?_, ?_, ?_, ?_, ?_⟩
  · intro hacq
    exact h.free (by simpa [hc] using hacq)
  · intro call' hc'
    simp only [Option.some.injEq] at hc'
    subst hc'
    exact h.asked call hc
  · intro call' r hc' hr'
    simp only [Option.some.injEq] at hc'
    subst hc'
    simp only [Option.some.injEq] at hr'
    subst hr'
    simp [Network.send, Network.fresh, hrem]
  · intro call' hc' hop
    simp only [Option.some.injEq] at hc'
    subst hc'
    exact h'.results call hc hop
  · intro call' r hc' _ hr' response hresp heq
    simp only [Option.some.injEq] at hc'
    subst hc'
    simp only [Option.some.injEq] at hr'
    subst hr'
    have hold := hinv.sent _ (hinv.answered response hresp)
    rw [heq] at hold
    exact absurd hold (lt_irrefl _)

end

end StageForge
