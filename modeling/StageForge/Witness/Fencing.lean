import StageForge.Witness.LeaseStore

/-!
# What one witness guarantees over whole runs

A `WitnessHost` is a store together with its clock; a run is a list of calls, each with the time that
has passed since the call before it, so the clock never goes back.
-/

namespace StageForge

/-! ## Runs of one witness -/

structure WitnessHost where
  store : WitnessLeaseStore
  clock : Int

namespace WitnessHost

/-- Carry out a call `elapsed` milliseconds after the one before it. -/
def call (host : WitnessHost) (elapsed : ℕ) (c : StoreCall) : LeaseReply × WitnessHost :=
  let now := host.clock + elapsed
  let answer := host.store.exec now c
  (answer.1, ⟨answer.2, now⟩)

def calls (host : WitnessHost) (cs : List (ℕ × StoreCall)) : WitnessHost :=
  cs.foldl (fun h c => (h.call c.1 c.2).2) host

def fresh (clock : Int) : WitnessHost := ⟨.empty, clock⟩

end WitnessHost

/-! ## Proper records

An epoch below one would be raised by a plain renewal. No run writes one.
-/

/-- Every record a store holds has an epoch of at least one. -/
def WitnessLeaseStore.Proper (store : WitnessLeaseStore) : Prop :=
  ∀ c l, store.leases c = some l → 1 ≤ l.epoch

lemma WitnessLeaseStore.proper_empty : WitnessLeaseStore.empty.Proper := by
  intro c l h
  simp [empty] at h

variable {store : WitnessLeaseStore}

lemma WitnessLeaseStore.Proper.one_le_or_none (h : store.Proper)
    (c : String) : 1 ≤ (store.lease c).epoch ∨ store.leases c = none := by
  cases hl : store.leases c with
  | none => exact Or.inr rfl
  | some l =>
    left
    simpa [lease, hl] using h c l hl

lemma WitnessLeaseStore.Proper.epoch_nonneg (h : store.Proper)
    (c : String) : 0 ≤ (store.lease c).epoch := by
  rcases h.one_le_or_none c with h1 | h1
  · omega
  · simp [lease, h1]

variable {c : String}

lemma WitnessLeaseStore.Proper.put (h : store.Proper)
    {l : Lease} (hl : 1 ≤ l.epoch) : (store.put c l).Proper := by
  intro c' l' h'
  by_cases hc : c' = c
  · subst hc
    rw [leases_put_self, Option.some.injEq] at h'
    exact h' ▸ hl
  · rw [leases_put_ne store l hc] at h'
    exact h c' l' h'

lemma WitnessLeaseStore.Proper.exec (h : store.Proper) (now : Int)
    (call : StoreCall) : (store.exec now call).2.Proper := by
  cases call with
  | acquire c n ttlMs =>
    rcases store.acquire_cases c n ttlMs now with ⟨-, -, hs⟩ | ⟨-, -, hs⟩
    · simpa only [WitnessLeaseStore.exec, hs] using h
    · simp only [WitnessLeaseStore.exec, hs]
      exact h.put ((store.lease c).one_le_acquiredEpoch n)
  | transfer c s t se te tx ttlMs =>
    rcases store.transfer_cases c s t se te tx ttlMs now with
      ⟨-, -, -, hs⟩ | ⟨-, -, -, hs⟩ | ⟨hm, -, -, hs⟩
    · simpa only [WitnessLeaseStore.exec, hs] using h
    · simpa only [WitnessLeaseStore.exec, hs] using h
    · simp only [WitnessLeaseStore.exec, hs]
      refine h.put ?_
      have h0 := h.epoch_nonneg c
      obtain ⟨-, -, he, -, ht⟩ := hm
      simp only [transferredLease]
      omega

lemma WitnessHost.proper_calls (clock : Int) (cs : List (ℕ × StoreCall)) :
    ((WitnessHost.fresh clock).calls cs).store.Proper := by
  have h0 : (WitnessHost.fresh clock).store.Proper := WitnessLeaseStore.proper_empty
  generalize WitnessHost.fresh clock = host at h0
  induction cs generalizing host with
  | nil => exact h0
  | cons c cs ih => exact ih _ (h0.exec _ _)

/-! ## The fencing law -/

/-- The calls that raise the epoch of cluster `c` and leave its holder: a holder that transfers
its live lease to itself, and an acquisition under the empty node id of a cluster that has no
lease. `verify_transfer_request` refuses the first, `verify_request` the second. -/
inductive RaisesAlone (before : WitnessLeaseStore) (now : Int) (c : String) : StoreCall → Prop
  | selfTransfer {s : String} {se te tx : Int} (ttlMs : Int) :
      (before.lease c).Moves s s se te tx now →
      RaisesAlone before now c (.transfer c s s se te tx ttlMs)
  | emptyNode (ttlMs : Int) :
      before.leases c = none → RaisesAlone before now c (.acquire c "" ttlMs)

/-- **The fencing law** for one call, answered `reply` at time `now`, and the record of cluster
`c` before and after it. -/
structure Fenced (now : Int) (call : StoreCall) (reply : LeaseReply) (c : String)
    (before after : WitnessLeaseStore) : Prop where
  /-- The stored epoch never decreases. -/
  epoch_le : (before.lease c).epoch ≤ (after.lease c).epoch
  /-- It increases exactly when the holder changes, the two degenerate calls apart. -/
  epoch_lt_iff : (before.lease c).epoch < (after.lease c).epoch ↔
    (before.lease c).holderNodeId ≠ (after.lease c).holderNodeId ∨ RaisesAlone before now c call
  /-- A call that is not granted changes nothing. -/
  denied : reply.granted = false → after.leases c = before.leases c
  /-- A live lease changes hands only by a transfer granted to its exact holder and epoch. -/
  live : now < (before.lease c).expiresAtUnixMs → (before.lease c).holderNodeId ≠ "" →
    (before.lease c).holderNodeId ≠ (after.lease c).holderNodeId →
    reply.granted = true ∧ ∃ target tx ttlMs,
      call = .transfer c (before.lease c).holderNodeId target (before.lease c).epoch
        ((before.lease c).epoch + 1) tx ttlMs

variable {now : Int} {call : StoreCall}

lemma Lease.Step.raisesAlone
    {l' : Lease} (hp : store.Proper)
    (h : Lease.Step now c call (store.lease c) l') (hlt : (store.lease c).epoch < l'.epoch)
    (heq : (store.lease c).holderNodeId = l'.holderNodeId) : RaisesAlone store now c call := by
  generalize hl : store.lease c = l at h hlt heq
  cases h with
  | keep => exact absurd hlt (lt_irrefl _)
  | @acquired l n ttlMs hfree =>
    rcases hp.one_le_or_none c with h1 | h1
    · rw [hl] at h1
      have hkeep : (l.acquired n ttlMs now).epoch = l.epoch := Lease.acquiredEpoch_of_holder heq h1
      rw [hkeep] at hlt
      exact absurd hlt (lt_irrefl _)
    · have hempty : l = {} := by rw [← hl, WitnessLeaseStore.lease, h1]; rfl
      have hn : n = "" := by
        rw [hempty] at heq
        exact heq.symm
      subst hn
      exact .emptyNode ttlMs h1
  | @moved l s t se te tx ttlMs hm =>
    have hst : s = t := hm.2.1.symm.trans heq
    subst hst
    exact .selfTransfer ttlMs (hl ▸ hm)

lemma RaisesAlone.epoch_lt
    (h : RaisesAlone store now c call) :
    (store.lease c).epoch < ((store.exec now call).2.lease c).epoch := by
  cases h with
  | @selfTransfer s se te tx ttlMs hm =>
    rcases store.transfer_cases c s s se te tx ttlMs now with
      ⟨hr, -⟩ | ⟨-, hno, -⟩ | ⟨-, -, -, hs⟩
    · exact absurd hr hm.1
    · exact absurd hm hno
    · obtain ⟨-, -, he, -, ht⟩ := hm
      simp only [WitnessLeaseStore.exec, hs, WitnessLeaseStore.lease_put_self, transferredLease]
      omega
  | emptyNode ttlMs hnone =>
    have hl : store.lease c = {} := by rw [WitnessLeaseStore.lease, hnone]; rfl
    rcases store.acquire_cases c "" ttlMs now with ⟨hheld, -⟩ | ⟨-, -, hs⟩
    · rw [hl] at hheld
      exact absurd rfl hheld.1
    · simp only [WitnessLeaseStore.exec, hs, WitnessLeaseStore.lease_put_self, hl]
      exact Lease.one_le_acquiredEpoch _ _

lemma Lease.Step.live {l l' : Lease}
    (h : Lease.Step now c call l l') (hlive : now < l.expiresAtUnixMs)
    (hholder : l.holderNodeId ≠ "")
    (hne : l.holderNodeId ≠ l'.holderNodeId) :
    ∃ target tx ttlMs, call = .transfer c l.holderNodeId target l.epoch (l.epoch + 1) tx ttlMs := by
  cases h with
  | keep => exact absurd rfl hne
  | acquired ttlMs hfree => exact absurd ⟨hholder, hne, hlive⟩ hfree
  | @moved l s t se te tx ttlMs hm =>
    obtain ⟨-, hs, he, -, ht⟩ := hm
    refine ⟨t, tx, ttlMs, ?_⟩
    rw [hs, he, ht]

lemma WitnessLeaseStore.Proper.fenced (hp : store.Proper) (now : Int)
    (call : StoreCall) (c : String) :
    Fenced now call (store.exec now call).1 c store (store.exec now call).2 := by
  have hstep := store.exec_step now call c
  have hdenied : (store.exec now call).1.granted = false →
      (store.exec now call).2.leases c = store.leases c :=
    fun h => by rw [WitnessLeaseStore.exec_denied h]
  refine ⟨hstep.epoch_le, ⟨fun hlt => ?_, fun h => ?_⟩, hdenied, fun hlive hholder hne => ?_⟩
  · by_cases heq : (store.lease c).holderNodeId = ((store.exec now call).2.lease c).holderNodeId
    · exact Or.inr (hstep.raisesAlone hp hlt heq)
    · exact Or.inl heq
  · rcases h with hne | halone
    · exact hstep.epoch_lt hne
    · exact halone.epoch_lt
  · refine ⟨?_, hstep.live hlive hholder hne⟩
    by_contra hg
    rw [Bool.not_eq_true] at hg
    exact hne (by rw [WitnessLeaseStore.exec_denied hg])

lemma WitnessHost.epoch_le_calls (host : WitnessHost) (cs : List (ℕ × StoreCall)) (c : String) :
    (host.store.lease c).epoch ≤ ((host.calls cs).store.lease c).epoch := by
  induction cs generalizing host with
  | nil => exact le_refl _
  | cons d cs ih =>
    have hstep := host.store.exec_step (host.clock + d.1) d.2 c
    exact hstep.epoch_le.trans (ih (host.call d.1 d.2).2)

/-- **Single-witness fencing.** In every run of a witness, from its first call on, every call
obeys the fencing law for every cluster, and over any later calls the stored epoch never
decreases. -/
theorem single_witness_fencing (clock : Int) (before : List (ℕ × StoreCall)) (elapsed : ℕ)
    (call : StoreCall) (later : List (ℕ × StoreCall)) (c : String) :
    let host := (WitnessHost.fresh clock).calls before
    let answer := host.call elapsed call
    Fenced answer.2.clock call answer.1 c host.store answer.2.store ∧
      (host.store.lease c).epoch ≤ ((host.calls later).store.lease c).epoch :=
  ⟨(WitnessHost.proper_calls clock before).fenced _ call c, WitnessHost.epoch_le_calls _ later c⟩

/-- Without the exceptions the law fails. A holder that transfers to itself raises the epoch, and
so does the first acquisition under the empty node id; and a live lease of the empty node id is
taken over by a plain `acquire`. -/
theorem fencing_exceptions_needed :
    (∃ (before : List (ℕ × StoreCall)) (call : StoreCall),
      let host := (WitnessHost.fresh 1000).calls before
      let after := (host.call 0 call).2.store
      (host.store.lease "show").epoch < (after.lease "show").epoch ∧
        (host.store.lease "show").holderNodeId = (after.lease "show").holderNodeId) ∧
    (∃ call : StoreCall,
      let host := WitnessHost.fresh 1000
      let after := (host.call 0 call).2.store
      (host.store.lease "show").epoch < (after.lease "show").epoch ∧
        (host.store.lease "show").holderNodeId = (after.lease "show").holderNodeId) ∧
    (∃ (before : List (ℕ × StoreCall)) (node : String),
      let host := (WitnessHost.fresh 1000).calls before
      let after := (host.call 0 (.acquire "show" node 3000)).2.store
      host.clock < (host.store.lease "show").expiresAtUnixMs ∧
        (host.store.lease "show").holderNodeId ≠ (after.lease "show").holderNodeId) := by
  refine ⟨⟨[(0, .acquire "show" "node-a" 3000)],
    .transfer "show" "node-a" "node-a" 1 2 7 3000, ?_⟩,
    ⟨.acquire "show" "" 3000, ?_⟩, ⟨[(0, .acquire "show" "" 3000)], "node-b", ?_⟩⟩ <;> decide

/-! ## Abandoned leases -/

/-- Nobody holds the cluster for more than a minute ahead. -/
def Lease.Lapses (l : Lease) (now : Int) : Prop := l.holderNodeId ≠ "" → l.expiresAtUnixMs ≤ now + 60000

lemma Lease.Step.lapses {l l' : Lease} (h : Lease.Step now c call l l') (hl : l.Lapses now) :
    l'.Lapses now := by
  cases h with
  | keep => exact hl
  | acquired ttlMs =>
    intro _
    simp only [Lease.acquired, clampTtl]
    omega
  | moved ttlMs =>
    intro _
    simp only [transferredLease, clampTtl]
    omega

lemma WitnessHost.lapses_calls {host : WitnessHost} (h : (host.store.lease c).Lapses host.clock)
    (cs : List (ℕ × StoreCall)) : ((host.calls cs).store.lease c).Lapses (host.calls cs).clock := by
  induction cs generalizing host with
  | nil => exact h
  | cons d cs ih =>
    refine ih ((host.store.exec_step (host.clock + d.1) d.2 c).lapses fun hholder => ?_)
    have hle := h hholder
    omega

/-- **No lease outlives its holder.** A cluster whose record has not changed for a minute is granted
to any node, under a new epoch if it was not its own. -/
theorem abandoned_lease_granted (clock : Int) (before later : List (ℕ × StoreCall)) (elapsed : ℕ)
    (c n : String) (ttlMs : Int) :
    let last := (WitnessHost.fresh clock).calls before
    let host := last.calls later
    let reply := (host.call elapsed (.acquire c n ttlMs)).1
    host.store.lease c = last.store.lease c → last.clock + 60000 ≤ host.clock + elapsed →
      reply.granted = true ∧ reply.holderNodeId = some n ∧ (host.store.lease c).epoch ≤ reply.epoch ∧
        ((host.store.lease c).holderNodeId ≠ n → (host.store.lease c).epoch < reply.epoch) := by
  intro last host reply hsame hminute
  have hlapses : (last.store.lease c).Lapses last.clock :=
    WitnessHost.lapses_calls (fun h => absurd rfl h) before
  rcases host.store.acquire_cases c n ttlMs (host.clock + elapsed) with ⟨hheld, -⟩ | ⟨-, hreply, -⟩
  · have hle := hlapses (hsame ▸ hheld.1)
    have hlive := hheld.2.2
    rw [hsame] at hlive
    omega
  · have hreply' : reply = _ := hreply
    rw [hreply']
    exact ⟨rfl, rfl, Lease.le_acquiredEpoch _ _, Lease.lt_acquiredEpoch⟩

theorem abandoned_lease_granted_busy :
    let last := (WitnessHost.fresh 1000).calls [(0, .acquire "show" "a" 90000)]
    let host := last.calls [(50000, .acquire "show" "b" 3000)]
    (host.call 10000 (.acquire "show" "b" 3000)).1.granted = true :=
  (abandoned_lease_granted 1000 [(0, .acquire "show" "a" 90000)] [(50000, .acquire "show" "b" 3000)]
    10000 "show" "b" 3000 (by decide) (by decide)).1

/-! ## Repeated transfers and recovery -/

/-- Carry out calls, each at its own clock value. -/
def WitnessLeaseStore.execAll (store : WitnessLeaseStore) :
    List (Int × StoreCall) → WitnessLeaseStore
  | [] => store
  | (now, call) :: rest => (store.exec now call).2.execAll rest

/-- The call is an acquisition of cluster `c` by `target`. -/
def StoreCall.AcquiresFor (c target : String) (call : StoreCall) : Prop :=
  ∃ ttlMs, call = .acquire c target ttlMs

/-- The calls after a transfer that leave the target in possession: the target's own acquisitions
and renewals, and calls that are answered with a refusal. -/
def Undisturbed (c target : String) : WitnessLeaseStore → List (Int × StoreCall) → Prop
  | _, [] => True
  | store, (now, call) :: rest =>
    (call.AcquiresFor c target ∨ (store.exec now call).1.granted = false) ∧
      Undisturbed c target (store.exec now call).2 rest

/-- A granted transfer leaves a record that shows it, whether it moved the lease or was itself a
repetition. -/
lemma WitnessLeaseStore.replays_of_transfer_granted
    {c source target : String} {sourceEpoch targetEpoch tx ttlMs now : Int}
    (h : (store.transfer c source target sourceEpoch targetEpoch tx ttlMs now).1.granted = true) :
    ((store.transfer c source target sourceEpoch targetEpoch tx ttlMs now).2.lease c).Replays
      source target targetEpoch tx := by
  rcases store.transfer_cases c source target sourceEpoch targetEpoch tx ttlMs now with
    ⟨hr, -, -, hs⟩ | ⟨-, -, hg, -⟩ | ⟨-, -, -, hs⟩
  · rw [hs]
    exact hr
  · rw [hg] at h
    exact absurd h (by decide)
  · rw [hs, lease_put_self]
    exact ⟨rfl, rfl, rfl, rfl⟩

/-- While the target holds the record, its own acquisition is granted and writes the record
afresh. -/
lemma WitnessLeaseStore.lease_exec_acquire_holder {c target : String}
    (hh : (store.lease c).holderNodeId = target) (ttlMs now : Int) :
    (store.exec now (.acquire c target ttlMs)).2.lease c
      = (store.lease c).acquired target ttlMs now := by
  rcases store.acquire_cases c target ttlMs now with ⟨hheld, -⟩ | ⟨-, -, hs⟩
  · exact absurd hh hheld.2.1
  · simp only [exec, hs, lease_put_self]

/-- What an undisturbed stretch does to the target's record: nothing if the target made no
acquisition, and otherwise both facts of the transfer are gone. -/
lemma Undisturbed.lease_execAll {c target : String} : ∀ {later : List (Int × StoreCall)}
    {store : WitnessLeaseStore}, (store.lease c).holderNodeId = target →
    Undisturbed c target store later → ((∀ call ∈ later, ¬ call.2.AcquiresFor c target) →
        (store.execAll later).lease c = store.lease c) ∧
      ((∃ call ∈ later, call.2.AcquiresFor c target) ∨
          ((store.lease c).lastTransferTransactionId = 0 ∧
            (store.lease c).lastTransferSourceNodeId = "") →
        ((store.execAll later).lease c).lastTransferTransactionId = 0 ∧
          ((store.execAll later).lease c).lastTransferSourceNodeId = "")
  | [], store, _, _ => by
    refine ⟨fun _ => rfl, fun h => ?_⟩
    rcases h with ⟨call, hmem, -⟩ | h
    · exact absurd hmem (by simp)
    · exact h
  | (now, call) :: rest, store, hh, ⟨hcall, hrest⟩ => by
    simp only [WitnessLeaseStore.execAll]
    by_cases hacq : call.AcquiresFor c target
    · obtain ⟨ttlMs, rfl⟩ := hacq
      have hl := WitnessLeaseStore.lease_exec_acquire_holder hh ttlMs now
      have hh' : ((store.exec now (.acquire c target ttlMs)).2.lease c).holderNodeId = target := by
        rw [hl]
        rfl
      refine ⟨fun hno => ?_, fun _ => ?_⟩
      · exact absurd ⟨ttlMs, rfl⟩ (hno _ List.mem_cons_self)
      · refine (lease_execAll hh' hrest).2 (Or.inr ?_)
        rw [hl]
        exact ⟨rfl, rfl⟩
    · have hs := WitnessLeaseStore.exec_denied (hcall.resolve_left hacq)
      rw [hs] at hrest ⊢
      obtain ⟨ih₁, ih₂⟩ := lease_execAll hh hrest
      refine ⟨fun hno => ih₁ fun d hd => hno d (List.mem_cons_of_mem _ hd), fun h => ih₂ ?_⟩
      rcases h with ⟨d, hd, hdacq⟩ | h
      · rcases List.mem_cons.mp hd with rfl | hd
        · exact absurd hdacq hacq
        · exact Or.inl ⟨d, hd, hdacq⟩
      · exact Or.inr h

lemma WitnessLeaseStore.transfer_idempotent_iff (store : WitnessLeaseStore)
    (c source target : String) (sourceEpoch targetEpoch tx ttlMs now : Int) :
    ((store.transfer c source target sourceEpoch targetEpoch tx ttlMs now).1.granted = true ∧
      (store.transfer c source target sourceEpoch targetEpoch tx ttlMs now).1.idempotent
        = some true) ↔
      (store.lease c).Replays source target targetEpoch tx := by
  rcases store.transfer_cases c source target sourceEpoch targetEpoch tx ttlMs now with
    ⟨hr, hg, hi, -⟩ | ⟨hr, -, hg, -⟩ | ⟨hm, -, hi, -⟩
  · exact ⟨fun _ => hr, fun _ => ⟨hg, hi⟩⟩
  · exact ⟨fun h => absurd (hg.symm.trans h.1) (by decide), fun h => absurd h hr⟩
  · exact ⟨fun h => absurd (hi.symm.trans h.2) (by decide), fun h => absurd h hm.1⟩

/-- **Which calls a transfer's repetition and its recovery survive.** After a granted transfer
and an undisturbed stretch that leaves the target in possession at the target epoch, the exact
repetition is answered as one and the source's recovery is authorised if and only if the target is
another node and has not acquired or renewed since (or the transfer carried the two values a
missing field is read as). -/
theorem transfer_repetition_iff (store : WitnessLeaseStore) (c source target : String)
    (sourceEpoch tx ttlMs now : Int) (later : List (Int × StoreCall)) (retryAt : Int)
    (recoveryId fenceDigest : String)
    (hgranted :
      (store.transfer c source target sourceEpoch (sourceEpoch + 1) tx ttlMs now).1.granted = true)
    (hlater : Undisturbed c target
      (store.transfer c source target sourceEpoch (sourceEpoch + 1) tx ttlMs now).2 later)
    (hheld : let final :=
        (store.transfer c source target sourceEpoch (sourceEpoch + 1) tx ttlMs now).2.execAll later
      (final.lease c).holderNodeId = target ∧ (final.lease c).epoch = sourceEpoch + 1) :
    let final :=
      (store.transfer c source target sourceEpoch (sourceEpoch + 1) tx ttlMs now).2.execAll later
    let retry := (final.transfer c source target sourceEpoch (sourceEpoch + 1) tx ttlMs retryAt).1
    let recovery := final.authorizeRecovery c source target sourceEpoch (sourceEpoch + 1) tx
      recoveryId fenceDigest retryAt
    ((retry.granted = true ∧ retry.idempotent = some true) ∧ recovery.authorized = true) ↔
      source ≠ target ∧
        ((∀ call ∈ later, ¬ call.2.AcquiresFor c target) ∨ (tx = 0 ∧ source = "")) := by
  intro final retry recovery
  obtain ⟨htx, hsrc, hholder, hepoch⟩ := WitnessLeaseStore.replays_of_transfer_granted hgranted
  obtain ⟨hsame, hdropped⟩ := hlater.lease_execAll hholder
  have hauth : recovery.authorized = true ↔
      source ≠ target ∧ (final.lease c).Replays source target (sourceEpoch + 1) tx := by
    rw [WitnessLeaseStore.authorizeRecovery_authorized]
    simp
  rw [WitnessLeaseStore.transfer_idempotent_iff, hauth]
  constructor
  · rintro ⟨⟨hftx, hfsrc, -, -⟩, hne, -⟩
    refine ⟨hne, ?_⟩
    by_cases hacq : ∀ call ∈ later, ¬ call.2.AcquiresFor c target
    · exact Or.inl hacq
    · push Not at hacq
      have hgone := hdropped (Or.inl hacq)
      exact Or.inr ⟨hftx.symm.trans hgone.1, hfsrc.symm.trans hgone.2⟩
  · rintro ⟨hne, hkept⟩
    have hreplays : (final.lease c).Replays source target (sourceEpoch + 1) tx := by
      rcases hkept with hno | ⟨rfl, rfl⟩
      · have hlease : final.lease c = _ := hsame hno
        rw [hlease]
        exact ⟨htx, hsrc, hholder, hepoch⟩
      · obtain ⟨h₁, h₂⟩ := hdropped (Or.inr ⟨htx, hsrc⟩)
        exact ⟨h₁, h₂, hheld.1, hheld.2⟩
    exact ⟨hreplays, hne, hreplays⟩

/-- A source that held the show at epoch 1 and moved it to its successor at time 1000. -/
def handedOver : WitnessLeaseStore :=
  ((WitnessLeaseStore.empty.acquire "show" "old" 3000 1000).2.transfer "show" "old" "new" 1 2 12
    3000 1000).2

theorem transfer_repetition_after_rival :
    let final := handedOver.execAll [(1500, .acquire "show" "rival" 3000)]
    ((final.transfer "show" "old" "new" 1 2 12 3000 2000).1.granted = true ∧
        (final.transfer "show" "old" "new" 1 2 12 3000 2000).1.idempotent = some true) ∧
      (final.authorizeRecovery "show" "old" "new" 1 2 12 "rejoin" "digest" 2000).authorized
        = true :=
  (transfer_repetition_iff (WitnessLeaseStore.empty.acquire "show" "old" 3000 1000).2
    "show" "old" "new" 1 12 3000 1000 [(1500, .acquire "show" "rival" 3000)] 2000 "rejoin" "digest"
    (by decide) ⟨Or.inr (by decide), trivial⟩ (by decide)).mpr
    ⟨by decide, Or.inl fun call hcall ⟨ttlMs, heq⟩ => by
      rw [List.mem_singleton] at hcall
      rw [hcall] at heq
      exact absurd heq (by simp)⟩

/-- One renewal by the target, and the source's repetition is refused and its recovery is not
authorised, although the target still holds the record at the target epoch. -/
theorem transfer_repetition_lost_by_renewal :
    let final := handedOver.execAll [(1500, .acquire "show" "new" 3000)]
    ((WitnessLeaseStore.empty.acquire "show" "old" 3000 1000).2.transfer "show" "old" "new" 1 2 12
        3000 1000).1.granted = true ∧
      Undisturbed "show" "new" handedOver [(1500, .acquire "show" "new" 3000)] ∧
      ((final.lease "show").holderNodeId = "new" ∧ (final.lease "show").epoch = 2) ∧
      (final.transfer "show" "old" "new" 1 2 12 3000 2000).1.granted = false ∧
      (final.authorizeRecovery "show" "old" "new" 1 2 12 "rejoin" "digest" 2000).authorized
        = false :=
  ⟨by decide, ⟨Or.inl ⟨3000, rfl⟩, trivial⟩, by decide, by decide, by decide⟩

end StageForge
