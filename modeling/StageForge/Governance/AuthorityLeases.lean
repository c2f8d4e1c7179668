import StageForge.Library.PythonList
import StageForge.Library.Table
import StageForge.Show.Technology

/-!
# Authority leases

`AuthorityLeaseRegistry` of `backend/authority_leases.py`: leases on patches, departments and resources that
run out, are replaced by a later grant for the same scope, are revoked, or end with a context.
-/

namespace StageForge

open Python

inductive ScopeKind
  | patch
  | department
  | resource
  deriving DecidableEq

inductive LeaseContext
  | venue
  | runtime
  deriving DecidableEq

def ScopeKind.text : ScopeKind → String
  | .patch => "patch"
  | .department => "department"
  | .resource => "resource"

def LeaseContext.text : LeaseContext → String
  | .venue => "venue"
  | .runtime => "runtime"

structure AuthorityLease where
  leaseId : String
  scopeKind : ScopeKind
  scope : String
  context : LeaseContext
  grantee : String
  grantedBy : Option String
  reason : Option String
  issuedAt : String
  ttlSeconds : ℚ
  revoked : Bool := false
  revokedAt : Option String := none
  revokedBy : Option String := none
  replacedBy : Option String := none
  expiresMono : ℚ
  deriving DecidableEq

def AuthorityLease.isActive (lease : AuthorityLease) (now : ℚ) : Bool :=
  !lease.revoked && now < lease.expiresMono

abbrev AuthorityLeaseRegistry := Table AuthorityLease.leaseId

structure LeaseAnswer where
  scopeKind : ScopeKind
  scope : String
  context : LeaseContext
  grantee : String
  grantedBy : String
  reason : String
  ttl : ℚ

section

variable (C : Conversions)

/-- `_clean`. -/
def cleanIdentifier (value : Value) (limit : ℕ) : Except Error String :=
  let text := clip limit (strip (C.str (value.orElse (.str ""))))
  if text.toList.any fun c => c.toNat < 32 || c.toNat = 127 then
    .error (.valueError "authority lease identifiers cannot contain control characters")
  else .ok text

/-- `max(1.0, min(43_200.0, ttl))`, which takes what is no number for the highest. -/
def clampLeaseTtl : Number → ℚ
  | .finite q => max 1 (min 43200 q)
  | .negInf => 1
  | .inf | .nan => 43200

/-- `float(data.get("ttlSeconds", 300.0))`. -/
def readTtl (value : Value) : Except Error ℚ := match C.float value with
  | .ok ttl => .ok (clampLeaseTtl ttl)
  | .error e => if e.isValueError then .error (.valueError "ttlSeconds must be numeric") else .error e

@[irreducible] def readContext (text : String) : Option LeaseContext :=
  named? [LeaseContext.venue, .runtime] LeaseContext.text (lower text)

/-- The checks of `grant`. -/
@[irreducible] def readGrant (data : Entries) : Except Error LeaseAnswer := do
  let scope ← cleanIdentifier C (data.get "scope" .none) 160
  let grantee ← cleanIdentifier C (data.get "grantee" .none) 160
  let grantedBy ← cleanIdentifier C (data.get "grantedBy" .none) 160
  let reason ← cleanIdentifier C (data.get "reason" .none) 320
  let kind ← cleanIdentifier C (data.get "scopeKind" (.str "department")) 24
  let context ← cleanIdentifier C (data.get "context" (.str "venue")) 24
  if scope = "" ∨ grantee = "" then .error (.valueError "authority lease requires scope and grantee")
  else
    match named? [ScopeKind.patch, .department, .resource] ScopeKind.text (lower kind) with
    | none => .error (.valueError "authority lease scopeKind must be patch, department, or resource")
    | some scopeKind =>
      match readContext context with
      | none => .error (.valueError "authority lease context must be venue or runtime")
      | some context => do
        let ttl ← readTtl C (data.get "ttlSeconds" (.float (.finite 300)))
        return { scopeKind, scope, context, grantee, grantedBy, reason, ttl }

namespace AuthorityLeaseRegistry

variable (r : AuthorityLeaseRegistry)

def mapLeases (f : AuthorityLease → AuthorityLease) (hf : ∀ lease, (f lease).leaseId = lease.leaseId) :
    AuthorityLeaseRegistry where
  rows := r.rows.map f
  nodup := by
    rw [List.map_map, show AuthorityLease.leaseId ∘ f = AuthorityLease.leaseId from funext hf]
    exact r.nodup

def replaced (now : ℚ) (stamp leaseId : String) (kind : ScopeKind) (scope : String)
    (lease : AuthorityLease) : AuthorityLease :=
  if lease.scopeKind = kind ∧ lease.scope = scope ∧ lease.isActive now = true then
    { lease with revoked := true, revokedAt := some stamp, replacedBy := some leaseId }
  else lease

def granted (now : ℚ) (stamp leaseId : String) (g : LeaseAnswer) : AuthorityLease where
  leaseId := leaseId
  scopeKind := g.scopeKind
  scope := g.scope
  context := g.context
  grantee := g.grantee
  grantedBy := if g.grantedBy = "" then none else some g.grantedBy
  reason := if g.reason = "" then none else some g.reason
  issuedAt := stamp
  ttlSeconds := g.ttl
  expiresMono := now + g.ttl

/-- `grant`; `leaseId` is the id that is drawn, and `stamp` what the wall clock says. -/
def grant (now : ℚ) (stamp leaseId : String) (data : Entries) :
    Except Error AuthorityLease × AuthorityLeaseRegistry :=
  match readGrant C data with
  | .error e => (.error e, r)
  | .ok g =>
    let lease := granted now stamp leaseId g
    (.ok lease, (r.mapLeases (replaced now stamp leaseId g.scopeKind g.scope) (by
      intro lease
      unfold replaced
      split <;> rfl)).put lease)

/-- `revoke`: the lease is revoked also where the name of who asks is refused. -/
def revoke (stamp leaseId : String) (requestedBy : Value) :
    Except Error AuthorityLease × AuthorityLeaseRegistry :=
  match r.find? leaseId with
  | none => (.error (.keyError leaseId), r)
  | some lease =>
    if lease.revoked then (.ok lease, r)
    else
      let revoked := { lease with revoked := true, revokedAt := some stamp }
      match cleanIdentifier C requestedBy 160 with
      | .error e => (.error e, r.put revoked)
      | .ok by' =>
        let signed := { revoked with revokedBy := if by' = "" then none else some by' }
        (.ok signed, r.put signed)

def leftContext (now : ℚ) (stamp : String) (context : LeaseContext) (lease : AuthorityLease) :
    AuthorityLease :=
  if lease.context = context ∧ lease.isActive now = true then
    { lease with revoked := true, revokedAt := some stamp, revokedBy := some "context-change" }
  else lease

def clearContext (now : ℚ) (stamp context : String) : Except Error ℕ × AuthorityLeaseRegistry :=
  match readContext (strip context) with
  | none => (.error (.valueError "authority lease context must be venue or runtime"), r)
  | some context =>
    (.ok (r.rows.countP fun lease => lease.context = context && lease.isActive now),
      r.mapLeases (leftContext now stamp context) (by
        intro lease
        unfold leftContext
        split <;> rfl))

/-- The active leases of `snapshot`, the latest first. -/
def active (now : ℚ) : List AuthorityLease :=
  (r.rows.mergeSort fun a b => decide (b.issuedAt ≤ a.issuedAt)).filter fun lease => lease.isActive now

/-- The grantee of the first active lease on a scope. -/
def holder (now : ℚ) (kind : ScopeKind) (scope : String) : Option String := if scope = "" then none
  else ((r.active now).find? fun lease => lease.scopeKind = kind ∧ lease.scope = scope).map
    AuthorityLease.grantee

def resolve (now : ℚ) (resource department : String) (fallback : Option String) :
    Except Error (Option String) := do
  let resource ← cleanIdentifier C (.str resource) 160
  let department ← cleanIdentifier C (.str department) 160
  return ((r.holder now .resource resource).or (r.holder now .department department)).or fallback

end AuthorityLeaseRegistry

end

/-! ## Runs -/

/-- A call of the registry, or the passage of time. -/
inductive LeaseEvent
  | grant (stamp leaseId : String) (data : Entries)
  | revoke (stamp leaseId : String) (requestedBy : Value)
  | clearContext (stamp context : String)
  | clear
  | pass (seconds : ℚ) (nonneg : 0 ≤ seconds)

def LeaseEvent.drawn : LeaseEvent → Option String
  | .grant _ leaseId _ => some leaseId
  | _ => none

structure LeaseState where
  registry : AuthorityLeaseRegistry := Table.empty
  now : ℚ

structure Holding where
  leaseId : String
  context : LeaseContext
  grantee : String
  expires : ℚ
  /-- It has been revoked, or its context or the registry has been cleared. -/
  ended : Bool := false

structure Authority where
  latest : ScopeKind → String → Option Holding := fun _ _ => none
  now : ℚ

section

variable (C : Conversions)

def LeaseState.next (s : LeaseState) : LeaseEvent → LeaseState
  | .grant stamp leaseId data => { s with registry := (s.registry.grant C s.now stamp leaseId data).2 }
  | .revoke stamp leaseId requestedBy => { s with registry := (s.registry.revoke C stamp leaseId requestedBy).2 }
  | .clearContext stamp context => { s with registry := (s.registry.clearContext s.now stamp context).2 }
  | .clear => { s with registry := Table.empty }
  | .pass seconds _ => { s with now := s.now + seconds }

def LeaseState.after (s : LeaseState) (events : List LeaseEvent) : LeaseState := events.foldl (next C) s

namespace Authority

variable (a : Authority)

def finish (p : Holding → Bool) : Authority :=
  { a with latest := fun kind scope =>
      (a.latest kind scope).map fun h => { h with ended := h.ended || p h } }

def next : LeaseEvent → Authority
  | .grant _ leaseId data =>
    match readGrant C data with
    | .error _ => a
    | .ok g =>
      { a with latest := fun kind scope =>
          if kind = g.scopeKind ∧ scope = g.scope then
            some { leaseId, context := g.context, grantee := g.grantee, expires := a.now + g.ttl }
          else a.latest kind scope }
  | .revoke _ leaseId _ => a.finish fun h => h.leaseId = leaseId
  | .clearContext _ context =>
    match readContext (strip context) with
    | none => a
    | some context => a.finish fun h => h.context = context
  | .clear => a.finish fun _ => true
  | .pass seconds _ => { a with now := a.now + seconds }

def after (a : Authority) (events : List LeaseEvent) : Authority := events.foldl (next C) a

/-- The grantee of the latest grant for a scope, if it has not ended and not run out. -/
def holder (kind : ScopeKind) (scope : String) : Option String := if scope = "" then none
  else (a.latest kind scope).bind fun h => if h.ended = false ∧ a.now < h.expires then some h.grantee else none

/-- The latest grant for the resource, else the one for the department, else the default. -/
def resolve (resource department : String) (fallback : Option String) : Except Error (Option String) := do
  let resource ← cleanIdentifier C (.str resource) 160
  let department ← cleanIdentifier C (.str department) 160
  return ((a.holder .resource resource).or (a.holder .department department)).or fallback

end Authority

end

def LeaseState.Active (s : LeaseState) (leaseId : String) : Prop :=
  ∃ lease ∈ s.registry.rows, lease.leaseId = leaseId ∧ lease.isActive s.now = true

/-! ## The active leases are the latest grants -/

section

open AuthorityLeaseRegistry

variable {C : Conversions} {s : LeaseState} {a : Authority} {r : AuthorityLeaseRegistry}
  {lease lease' : AuthorityLease} {now later : ℚ} {stamp leaseId : String} {kind : ScopeKind}
  {scope : String} {event : LeaseEvent} {events : List LeaseEvent}

def AuthorityLease.holding (lease : AuthorityLease) : Holding where
  leaseId := lease.leaseId
  context := lease.context
  grantee := lease.grantee
  expires := lease.expiresMono

/-- The active leases are those of the latest grants that have not ended. -/
structure Refines (s : LeaseState) (a : Authority) : Prop where
  now : a.now = s.now
  found : ∀ lease ∈ s.registry.rows, lease.isActive s.now = true →
    a.latest lease.scopeKind lease.scope = some lease.holding
  kept : ∀ kind scope h, a.latest kind scope = some h → h.ended = false → s.now < h.expires →
    ∃ lease ∈ s.registry.rows, lease.isActive s.now = true ∧ lease.scopeKind = kind ∧
      lease.scope = scope ∧ lease.holding = h

lemma isActive_iff : lease.isActive now = true ↔ lease.revoked = false ∧ now < lease.expiresMono := by
  rw [AuthorityLease.isActive, Bool.and_eq_true, Bool.not_eq_true', decide_eq_true_eq]

lemma isActive_of_later (hle : now ≤ later) (h : lease.isActive later = true) : lease.isActive now = true := by
  rw [isActive_iff] at h ⊢
  exact ⟨h.1, hle.trans_lt h.2⟩

lemma rows_mapLeases {f : AuthorityLease → AuthorityLease} {hf : ∀ lease, (f lease).leaseId = lease.leaseId} :
    (r.mapLeases f hf).rows = r.rows.map f := rfl

lemma replaced_active (h : (replaced now stamp leaseId kind scope lease).isActive now = true) :
    replaced now stamp leaseId kind scope lease = lease ∧
      ¬(lease.scopeKind = kind ∧ lease.scope = scope) := by
  unfold replaced at h ⊢
  split at h
  · simp [AuthorityLease.isActive] at h
  · next hnot =>
      rw [if_neg hnot]
      exact ⟨rfl, fun hsame => hnot ⟨hsame.1, hsame.2, h⟩⟩

lemma replaced_of_other (h : ¬(lease.scopeKind = kind ∧ lease.scope = scope)) :
    replaced now stamp leaseId kind scope lease = lease :=
  if_neg fun hsame => h ⟨hsame.1, hsame.2.1⟩

lemma refines_start (now : ℚ) : Refines { now } { now } where
  now := rfl
  found lease hlease := absurd hlease List.not_mem_nil
  kept kind scope h hlatest := by cases hlatest

variable {data : Entries}

open Table

lemma mem_grant {g : LeaseAnswer} (hread : readGrant C data = .ok g) (hfresh : leaseId ∉ r.keys) :
    lease ∈ (r.grant C now stamp leaseId data).2.rows ↔ lease = granted now stamp leaseId g ∨
      ∃ old ∈ r.rows, lease = replaced now stamp leaseId g.scopeKind g.scope old := by
  rw [grant, hread]
  rw [mem_put, rows_mapLeases, List.mem_map]
  refine or_congr Iff.rfl ⟨?_, ?_⟩
  · rintro ⟨-, old, hold, rfl⟩
    exact ⟨old, hold, rfl⟩
  · rintro ⟨old, hold, rfl⟩
    refine ⟨?_, old, hold, rfl⟩
    have hid : (replaced now stamp leaseId g.scopeKind g.scope old).leaseId = old.leaseId := by
      unfold replaced
      split <;> rfl
    rw [hid]
    intro heq
    have hsame : old.leaseId = leaseId := heq
    exact hfresh (hsame ▸ mem_keys_of_mem hold)

lemma clampLeaseTtl_pos (x : Number) : 0 < clampLeaseTtl x := by
  cases x with
  | finite q => exact one_pos.trans_le (le_max_left _ _)
  | _ => norm_num [clampLeaseTtl]

lemma ttl_pos {g : LeaseAnswer} (h : readGrant C data = .ok g) : 0 < g.ttl := by
  unfold readGrant at h
  obtain ⟨scope, -, h⟩ := bind_eq_ok.mp h
  obtain ⟨grantee, -, h⟩ := bind_eq_ok.mp h
  obtain ⟨grantedBy, -, h⟩ := bind_eq_ok.mp h
  obtain ⟨reason, -, h⟩ := bind_eq_ok.mp h
  obtain ⟨kind, -, h⟩ := bind_eq_ok.mp h
  obtain ⟨context, -, h⟩ := bind_eq_ok.mp h
  split at h
  · cases h
  · split at h
    · cases h
    · split at h
      · cases h
      · obtain ⟨ttl, httl, h⟩ := bind_eq_ok.mp h
        rw [← Except.ok.inj h]
        unfold readTtl at httl
        split at httl
        · rw [← Except.ok.inj httl]
          exact clampLeaseTtl_pos _
        · split at httl <;> cases httl

lemma Refines.grant (h : Refines s a) (hfresh : leaseId ∉ s.registry.keys) :
    Refines (s.next C (.grant stamp leaseId data)) (a.next C (.grant stamp leaseId data)) := by
  cases hread : readGrant C data with
  | error e =>
    have hs : s.next C (.grant stamp leaseId data) = s := by
      simp only [LeaseState.next, AuthorityLeaseRegistry.grant, hread]
    have ha : a.next C (.grant stamp leaseId data) = a := by simp only [Authority.next, hread]
    rw [hs, ha]
    exact h
  | ok g =>
    have hmem (lease : AuthorityLease) := @mem_grant C s.registry lease s.now stamp _ _ _ hread hfresh
    have ha : a.next C (.grant stamp leaseId data) =
        { a with latest := fun kind scope =>
            if kind = g.scopeKind ∧ scope = g.scope then
              some { leaseId, context := g.context, grantee := g.grantee, expires := a.now + g.ttl }
            else a.latest kind scope } := by
      simp only [Authority.next, hread]
    rw [ha]
    refine ⟨h.now, fun lease hlease hactive => ?_, fun kind scope holding hlatest hended hexpires => ?_⟩
    · rcases (hmem lease).mp hlease with rfl | ⟨old, hold, rfl⟩
      · dsimp only
        rw [if_pos ⟨rfl, rfl⟩, h.now]
        rfl
      · obtain ⟨heq, hother⟩ := replaced_active hactive
        rw [heq] at hactive ⊢
        dsimp only
        rw [if_neg hother]
        exact h.found old hold hactive
    · dsimp only at hlatest
      split at hlatest
      · next hsame =>
          refine ⟨granted s.now stamp leaseId g, (hmem _).mpr (Or.inl rfl), ?_, hsame.1.symm, hsame.2.symm, ?_⟩
          · exact isActive_iff.mpr ⟨rfl, lt_add_of_pos_right _ (ttl_pos hread)⟩
          · rw [← Option.some.inj hlatest, h.now]
            rfl
      · next hother =>
          obtain ⟨lease, hlease, hactive, hkind, hscope, hholding⟩ :=
            h.kept kind scope holding hlatest hended hexpires
          refine ⟨lease, (hmem lease).mpr (Or.inr ⟨lease, hlease, ?_⟩), hactive, hkind, hscope, hholding⟩
          exact (replaced_of_other fun hsame => hother
            ⟨hkind.symm.trans hsame.1, hscope.symm.trans hsame.2⟩).symm

/-- **Leases that meet a test end, and so do the grants.** The others stay as they are. -/
lemma Refines.finish (h : Refines s a) {r' : AuthorityLeaseRegistry} (p : Holding → Bool)
    (hold : ∀ lease ∈ r'.rows, lease.isActive s.now = true → lease ∈ s.registry.rows ∧ p lease.holding = false)
    (hnew : ∀ lease ∈ s.registry.rows, lease.isActive s.now = true → p lease.holding = false →
      lease ∈ r'.rows) : Refines { s with registry := r' } (a.finish p) where
  now := h.now
  found lease hlease hactive := by
    obtain ⟨hmem, hp⟩ := hold lease hlease hactive
    change (a.latest lease.scopeKind lease.scope).map _ = _
    rw [h.found lease hmem hactive, Option.map_some, hp]
    rfl
  kept kind scope holding hlatest hended hexpires := by
    obtain ⟨before, hbefore, rfl⟩ := Option.map_eq_some_iff.mp hlatest
    rw [Bool.or_eq_false_iff] at hended
    obtain ⟨lease, hlease, hactive, hkind, hscope, rfl⟩ := h.kept kind scope before hbefore hended.1 hexpires
    refine ⟨lease, hnew lease hlease hactive hended.2, hactive, hkind, hscope, ?_⟩
    rw [hended.2]
    rfl

lemma revoke_cases (r : AuthorityLeaseRegistry) (stamp leaseId : String) (requestedBy : Value) :
    (r.revoke C stamp leaseId requestedBy).2 = r ∧
        (∀ lease ∈ r.rows, lease.leaseId = leaseId → lease.revoked = true) ∨
      ∃ revoked, (r.revoke C stamp leaseId requestedBy).2 = r.put revoked ∧ revoked.leaseId = leaseId ∧
        revoked.revoked = true := by
  unfold revoke
  cases hfind : r.find? leaseId with
  | none =>
    refine Or.inl ⟨rfl, fun lease hlease hid => ?_⟩
    exact absurd (hid ▸ mem_keys_of_mem hlease) (find?_eq_none.mp hfind)
  | some found =>
    obtain ⟨hmem, hid⟩ := find?_eq_some.mp hfind
    dsimp only
    by_cases hrevoked : found.revoked = true
    · rw [if_pos hrevoked]
      refine Or.inl ⟨rfl, fun lease hlease hsame => ?_⟩
      rw [eq_of_mem hlease hmem (hsame.trans hid.symm)]
      exact hrevoked
    · rw [if_neg hrevoked]
      split
      · exact Or.inr ⟨_, rfl, hid, rfl⟩
      · exact Or.inr ⟨_, rfl, hid, rfl⟩

lemma Refines.revoke (h : Refines s a) {requestedBy : Value} :
    Refines (s.next C (.revoke stamp leaseId requestedBy)) (a.next C (.revoke stamp leaseId requestedBy)) := by
  rcases revoke_cases (C := C) s.registry stamp leaseId requestedBy with
    ⟨heq, hall⟩ | ⟨revoked, heq, hid, hrevoked⟩
  · refine h.finish _ (fun lease hlease hactive => ?_) fun lease hlease _ _ => ?_
    · rw [heq] at hlease
      refine ⟨hlease, decide_eq_false fun hsame => ?_⟩
      have hnot := (isActive_iff.mp hactive).1
      rw [hall lease hlease hsame] at hnot
      cases hnot
    · rw [heq]
      exact hlease
  · refine h.finish _ (fun lease hlease hactive => ?_) fun lease hlease _ hother => ?_
    · rw [heq, mem_put] at hlease
      rcases hlease with rfl | ⟨hne, hmem⟩
      · have hnot := (isActive_iff.mp hactive).1
        rw [hrevoked] at hnot
        cases hnot
      · exact ⟨hmem, decide_eq_false fun hsame => hne (hsame.trans hid.symm)⟩
    · rw [heq, mem_put]
      exact Or.inr ⟨fun hsame => of_decide_eq_false hother (hsame.trans hid), hlease⟩

lemma Refines.clearContext (h : Refines s a) {context : String} :
    Refines (s.next C (.clearContext stamp context)) (a.next C (.clearContext stamp context)) := by
  cases hname : readContext (strip context) with
  | none =>
    have hs : s.next C (.clearContext stamp context) = s := by
      simp only [LeaseState.next, AuthorityLeaseRegistry.clearContext, hname]
    have ha : a.next C (.clearContext stamp context) = a := by simp only [Authority.next, hname]
    rw [hs, ha]
    exact h
  | some named =>
    have hrows : (s.next C (.clearContext stamp context)).registry.rows =
        s.registry.rows.map (leftContext s.now stamp named) := by
      simp only [LeaseState.next, AuthorityLeaseRegistry.clearContext, hname, rows_mapLeases]
    have ha : a.next C (.clearContext stamp context) = a.finish fun h => h.context = named := by
      simp only [Authority.next, hname]
    rw [ha]
    change Refines { s with registry := (s.next C (.clearContext stamp context)).registry } _
    refine h.finish _ (fun lease hlease hactive => ?_) fun lease hlease hactive hother => ?_
    · rw [hrows] at hlease
      obtain ⟨old, hold, rfl⟩ := List.mem_map.mp hlease
      unfold leftContext at hactive ⊢
      split at hactive
      · simp [AuthorityLease.isActive] at hactive
      · next hnot =>
          rw [if_neg hnot]
          exact ⟨hold, decide_eq_false fun hsame => hnot ⟨hsame, hactive⟩⟩
    · rw [hrows]
      refine List.mem_map.mpr ⟨lease, hlease, if_neg fun hsame => ?_⟩
      exact of_decide_eq_false hother hsame.1

lemma Refines.clear (h : Refines s a) : Refines (s.next C .clear) (a.next C .clear) :=
  h.finish (fun _ => true) (fun _ hlease => absurd hlease List.not_mem_nil) fun _ _ _ hp => by cases hp

lemma Refines.pass (h : Refines s a) {seconds : ℚ} {nonneg : 0 ≤ seconds} :
    Refines (s.next C (.pass seconds nonneg)) (a.next C (.pass seconds nonneg)) where
  now := congrArg (· + seconds) h.now
  found lease hlease hactive :=
    h.found lease hlease (isActive_of_later (le_add_of_nonneg_right nonneg) hactive)
  kept kind scope holding hlatest hended hexpires := by
    have hbefore : s.now < holding.expires := (le_add_of_nonneg_right nonneg).trans_lt hexpires
    obtain ⟨lease, hlease, hactive, hkind, hscope, hholding⟩ :=
      h.kept kind scope holding hlatest hended hbefore
    refine ⟨lease, hlease, isActive_iff.mpr ⟨(isActive_iff.mp hactive).1, ?_⟩, hkind, hscope, hholding⟩
    rw [← hholding] at hexpires
    exact hexpires

/-- **A step of the registry is one of the authority.** -/
lemma Refines.next (h : Refines s a) (hfresh : ∀ leaseId, event.drawn = some leaseId → leaseId ∉ s.registry.keys) :
    Refines (s.next C event) (a.next C event) := by
  cases event with
  | grant stamp leaseId data => exact h.grant (hfresh leaseId rfl)
  | revoke stamp leaseId requestedBy => exact h.revoke
  | clearContext stamp context => exact h.clearContext
  | clear => exact h.clear
  | pass seconds nonneg => exact h.pass

/-! ## Whole runs -/

lemma keys_next (h : leaseId ∈ (s.next C event).registry.keys) :
    leaseId ∈ s.registry.keys ∨ event.drawn = some leaseId := by
  obtain ⟨lease, hlease, rfl⟩ := List.mem_map.mp h
  cases event with
  | grant stamp drawn data =>
    change lease ∈ (s.registry.grant C s.now stamp drawn data).2.rows at hlease
    unfold AuthorityLeaseRegistry.grant at hlease
    split at hlease
    · exact Or.inl (mem_keys_of_mem hlease)
    · rw [mem_put, rows_mapLeases, List.mem_map] at hlease
      rcases hlease with rfl | ⟨-, old, hold, rfl⟩
      · exact Or.inr rfl
      · refine Or.inl (List.mem_map.mpr ⟨old, hold, ?_⟩)
        unfold replaced
        split <;> rfl
  | revoke stamp revokedId requestedBy =>
    change lease ∈ (s.registry.revoke C stamp revokedId requestedBy).2.rows at hlease
    unfold AuthorityLeaseRegistry.revoke at hlease
    split at hlease
    · exact Or.inl (mem_keys_of_mem hlease)
    · next found hfind =>
        have hfound := (find?_eq_some.mp hfind).1
        split at hlease
        · exact Or.inl (mem_keys_of_mem hlease)
        · refine Or.inl ?_
          split at hlease
          all_goals
            rcases mem_put.mp hlease with rfl | ⟨-, hmem⟩
            · exact show found.leaseId ∈ s.registry.keys from mem_keys_of_mem hfound
            · exact mem_keys_of_mem hmem
  | clearContext stamp context =>
    change lease ∈ (s.registry.clearContext s.now stamp context).2.rows at hlease
    unfold AuthorityLeaseRegistry.clearContext at hlease
    split at hlease
    · exact Or.inl (mem_keys_of_mem hlease)
    · obtain ⟨old, hold, rfl⟩ := List.mem_map.mp hlease
      refine Or.inl (List.mem_map.mpr ⟨old, hold, ?_⟩)
      unfold leftContext
      split <;> rfl
  | clear => exact absurd hlease List.not_mem_nil
  | pass seconds nonneg => exact Or.inl h

/-- The ids that are drawn in a run are new and different. -/
structure Fresh (s : LeaseState) (events : List LeaseEvent) : Prop where
  nodup : (events.filterMap LeaseEvent.drawn).Nodup
  new : ∀ leaseId ∈ events.filterMap LeaseEvent.drawn, leaseId ∉ s.registry.keys

lemma Fresh.head (h : Fresh s (event :: events)) :
    ∀ leaseId, event.drawn = some leaseId → leaseId ∉ s.registry.keys := by
  intro leaseId hdrawn
  refine h.new leaseId ?_
  rw [List.filterMap_cons_some hdrawn]
  exact List.mem_cons_self

lemma Fresh.tail (h : Fresh s (event :: events)) : Fresh (s.next C event) events := by
  cases hdrawn : event.drawn with
  | none =>
    have hnodup := h.nodup
    have hnew := h.new
    rw [List.filterMap_cons_none hdrawn] at hnodup hnew
    refine ⟨hnodup, fun leaseId hmem hkey => ?_⟩
    rcases keys_next hkey with hold | hnow
    · exact hnew leaseId hmem hold
    · rw [hdrawn] at hnow
      cases hnow
  | some drawn =>
    have hnodup := h.nodup
    have hnew := h.new
    rw [List.filterMap_cons_some hdrawn] at hnodup hnew
    obtain ⟨hnot, hrest⟩ := List.nodup_cons.mp hnodup
    refine ⟨hrest, fun leaseId hmem hkey => ?_⟩
    rcases keys_next hkey with hold | hnow
    · exact hnew leaseId (List.mem_cons_of_mem _ hmem) hold
    · rw [hdrawn, Option.some.injEq] at hnow
      exact hnot (hnow ▸ hmem)

/-- **A run of the registry is one of the authority.** By induction on the run. -/
lemma Refines.after (h : Refines s a) (hfresh : Fresh s events) :
    Refines (s.after C events) (a.after C events) := by
  induction events generalizing s a with
  | nil => exact h
  | cons event events ih => exact ih (h.next hfresh.head) hfresh.tail

lemma Refines.exclusive (h : Refines s a) (hlease : lease ∈ s.registry.rows)
    (hlease' : lease' ∈ s.registry.rows) (hactive : lease.isActive s.now = true)
    (hactive' : lease'.isActive s.now = true) (hkind : lease.scopeKind = lease'.scopeKind)
    (hscope : lease.scope = lease'.scope) : lease = lease' := by
  have hfound := h.found lease hlease hactive
  rw [hkind, hscope, h.found lease' hlease' hactive'] at hfound
  exact (eq_of_mem hlease' hlease (congrArg Holding.leaseId (Option.some.inj hfound))).symm

lemma Refines.holder (h : Refines s a) (kind : ScopeKind) (scope : String) :
    s.registry.holder s.now kind scope = a.holder kind scope := by
  unfold AuthorityLeaseRegistry.holder Authority.holder
  split
  · rfl
  · have hmem (lease : AuthorityLease) :
        lease ∈ s.registry.active s.now ↔ lease ∈ s.registry.rows ∧ lease.isActive s.now = true := by
      rw [AuthorityLeaseRegistry.active, List.mem_filter, (List.mergeSort_perm _ _).mem_iff]
    cases hfind : (s.registry.active s.now).find? fun lease =>
        lease.scopeKind = kind ∧ lease.scope = scope with
    | some lease =>
      obtain ⟨hlease, hactive⟩ := (hmem lease).mp (List.mem_of_find?_eq_some hfind)
      obtain ⟨hkind, hscope⟩ : lease.scopeKind = kind ∧ lease.scope = scope := by
        simpa using List.find?_some hfind
      have hfound := h.found lease hlease hactive
      rw [hkind, hscope] at hfound
      rw [hfound, Option.map_some, Option.bind_some, h.now]
      exact (if_pos ⟨rfl, (isActive_iff.mp hactive).2⟩).symm
    | none =>
      rw [Option.map_none]
      cases hlatest : a.latest kind scope with
      | none => rfl
      | some holding =>
        rw [Option.bind_some, if_neg]
        rintro ⟨hended, hexpires⟩
        rw [h.now] at hexpires
        obtain ⟨lease, hlease, hactive, hkind, hscope, -⟩ :=
          h.kept kind scope holding hlatest hended hexpires
        have hnone := List.find?_eq_none.mp hfind lease ((hmem lease).mpr ⟨hlease, hactive⟩)
        exact hnone (decide_eq_true ⟨hkind, hscope⟩)

lemma Refines.resolve (h : Refines s a) (resource department : String) (fallback : Option String) :
    s.registry.resolve C s.now resource department fallback = a.resolve C resource department fallback := by
  unfold AuthorityLeaseRegistry.resolve Authority.resolve
  simp only [h.holder]

lemma active_of_next (hdrawn : event.drawn ≠ some leaseId) (h : (s.next C event).Active leaseId) :
    s.Active leaseId := by
  obtain ⟨lease, hlease, hid, hactive⟩ := h
  cases event with
  | grant stamp drawn data =>
    change lease ∈ (s.registry.grant C s.now stamp drawn data).2.rows at hlease
    unfold AuthorityLeaseRegistry.grant at hlease
    split at hlease
    · exact ⟨lease, hlease, hid, hactive⟩
    · rw [mem_put, rows_mapLeases, List.mem_map] at hlease
      rcases hlease with rfl | ⟨-, old, hold, rfl⟩
      · exact absurd (congrArg some hid) hdrawn
      · rw [(replaced_active hactive).1] at hid hactive
        exact ⟨old, hold, hid, hactive⟩
  | revoke stamp revokedId requestedBy =>
    rcases revoke_cases (C := C) s.registry stamp revokedId requestedBy with
      ⟨heq, -⟩ | ⟨revoked, heq, -, hrevoked⟩
    · change lease ∈ (s.registry.revoke C stamp revokedId requestedBy).2.rows at hlease
      rw [heq] at hlease
      exact ⟨lease, hlease, hid, hactive⟩
    · change lease ∈ (s.registry.revoke C stamp revokedId requestedBy).2.rows at hlease
      rw [heq, mem_put] at hlease
      rcases hlease with rfl | ⟨-, hmem⟩
      · have hnot := (isActive_iff.mp hactive).1
        rw [hrevoked] at hnot
        cases hnot
      · exact ⟨lease, hmem, hid, hactive⟩
  | clearContext stamp context =>
    change lease ∈ (s.registry.clearContext s.now stamp context).2.rows at hlease
    change lease.isActive s.now = true at hactive
    unfold AuthorityLeaseRegistry.clearContext at hlease
    split at hlease
    · exact ⟨lease, hlease, hid, hactive⟩
    · obtain ⟨old, hold, rfl⟩ := List.mem_map.mp hlease
      unfold leftContext at hid hactive
      split at hactive
      · simp [AuthorityLease.isActive] at hactive
      · next hnot =>
          rw [if_neg hnot] at hid
          exact ⟨old, hold, hid, hactive⟩
  | clear => exact absurd hlease List.not_mem_nil
  | pass seconds nonneg =>
    exact ⟨lease, hlease, hid, isActive_of_later (le_add_of_nonneg_right nonneg) hactive⟩

lemma active_of_after (hdrawn : leaseId ∉ events.filterMap LeaseEvent.drawn)
    (h : (s.after C events).Active leaseId) : s.Active leaseId := by
  induction events generalizing s with
  | nil => exact h
  | cons event events ih =>
    have hhead : event.drawn ≠ some leaseId := by
      intro heq
      rw [List.filterMap_cons_some heq] at hdrawn
      exact hdrawn List.mem_cons_self
    have htail : leaseId ∉ events.filterMap LeaseEvent.drawn := by
      intro hmem
      refine hdrawn (List.mem_filterMap.mpr ?_)
      obtain ⟨e, he, heq⟩ := List.mem_filterMap.mp hmem
      exact ⟨e, List.mem_cons_of_mem _ he, heq⟩
    exact active_of_next hhead (ih htail h)

end

section

variable (C : Conversions)

/-- **Leases are exclusive and never resurrected.** After every run from an empty registry in which no id is
drawn twice, one lease of a scope is active; the latest grant for the resource decides, if it is neither
expired nor ended, then the latest one for the department, then the default; and what was granted and is not
active at some time is never active after it. -/
theorem authority_leases_exclusive (start : ℚ) (before events : List LeaseEvent)
    (hfresh : ((before ++ events).filterMap LeaseEvent.drawn).Nodup) :
    let s := LeaseState.after C { now := start } (before ++ events)
    let a := Authority.after C { now := start } (before ++ events)
    (∀ lease ∈ s.registry.rows, ∀ lease' ∈ s.registry.rows, lease.isActive s.now = true →
      lease'.isActive s.now = true → lease.scopeKind = lease'.scopeKind → lease.scope = lease'.scope →
        lease = lease') ∧
    (∀ resource department fallback,
      s.registry.resolve C s.now resource department fallback = a.resolve C resource department fallback) ∧
    (∀ leaseId ∈ before.filterMap LeaseEvent.drawn,
      ¬(LeaseState.after C { now := start } before).Active leaseId → ¬s.Active leaseId) := by
  have hall : Fresh { now := start } (before ++ events) := ⟨hfresh, fun _ _ => List.not_mem_nil⟩
  have hrefines := (refines_start start).after (C := C) hall
  refine ⟨fun lease hlease lease' hlease' hactive hactive' hkind hscope =>
    hrefines.exclusive hlease hlease' hactive hactive' hkind hscope,
    fun resource department fallback => hrefines.resolve resource department fallback,
    fun leaseId hdrawn hnot hactive => hnot ?_⟩
  have hlater : leaseId ∉ events.filterMap LeaseEvent.drawn := by
    rw [List.filterMap_append] at hfresh
    exact fun hmem => (List.nodup_append.mp hfresh).2.2 leaseId hdrawn leaseId hmem rfl
  rw [LeaseState.after, List.foldl_append] at hactive
  exact active_of_after hlater hactive

def deskGrant : Entries := [("scope", .str "desk"), ("scopeKind", .str "resource"), ("grantee", .str "foh")]

theorem cleared_lease_is_not_resolved : (readGrant plainConversions deskGrant).toOption.map
        (fun g => (g.scopeKind, g.scope, g.grantee, g.ttl)) = some (.resource, "desk", "foh", 300) ∧
      (LeaseState.after plainConversions { now := 0 } [.grant "" "lease-1" deskGrant, .clear]).registry.resolve
        plainConversions 0 "desk" "" (some "nobody") = .ok (some "nobody") := by
  refine ⟨?_, ?_⟩
  · decide +kernel
  · decide +kernel

/-- A lease that is replaced, and time that passes. -/
def replacedDesk : List LeaseEvent :=
  [.grant "" "lease-1" deskGrant, .pass 1 zero_le_one, .grant "" "lease-2" deskGrant]

theorem authority_leases_exclusive_desk :
    ((replacedDesk ++ [LeaseEvent.clear]).filterMap LeaseEvent.drawn).Nodup ∧
      ∀ leaseId ∈ replacedDesk.filterMap LeaseEvent.drawn,
        ¬(LeaseState.after plainConversions { now := 0 } replacedDesk).Active leaseId →
          ¬(LeaseState.after plainConversions { now := 0 } (replacedDesk ++ [LeaseEvent.clear])).Active leaseId :=
  ⟨by decide, (authority_leases_exclusive plainConversions 0 replacedDesk [.clear] (by decide)).2.2⟩

end

end StageForge
