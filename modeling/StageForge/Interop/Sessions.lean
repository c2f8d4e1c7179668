import StageForge.Interop.Compatibility
import StageForge.Interop.ProfileProjection
import StageForge.Library.Table
import StageForge.Library.TransitionSystem
import StageForge.Replication.Authentication

/-!
# Sessions between participants

A session is negotiated from an authenticated offer, is consented to and is then activated. The calls
come one by one and in any order, each with the revisions that its caller sees.
-/

namespace StageForge

open Python TransitionSystem

/-! ## Sessions -/

inductive InteropState
  | offered
  | authenticated
  | negotiated
  | consented
  | active
  | expired
  deriving DecidableEq

structure InteropSession where
  sessionId : String
  state : InteropState
  reason : String
  transcriptSha256 : Value
  plan : CompatibilityPlan
  profileRevision : Int
  registryRevision : Int
  authorityEpoch : Int
  expiresAtUnixMs : Int
  consentDigestSha256 : Option String
  deriving DecidableEq

namespace InteropSession

variable (s : InteropSession)

def expire (reason : String) : InteropSession := { s with state := .expired, reason }

def consentTo (digest : String) : InteropSession :=
  { s with state := .consented, consentDigestSha256 := some digest, reason := "consented" }

def activate : InteropSession := { s with state := .active, reason := "active" }

end InteropSession

/-- `CapabilityRegistry.snapshot`, as far as a negotiation reads it. -/
structure RegistrySnapshot where
  revision : Int
  adapters : List Value

structure InteropSessionManager where
  localParticipantId : String
  sessions : Dict String InteropSession
  lastSeen : Dict (String × Int) Int

/-- What `authenticate_and_negotiate` is called with. -/
structure NegotiateCall where
  offer : Entries
  localData : Entries
  registry : RegistrySnapshot
  secret : String
  nowUnixMs : Int
  profileRevision : Int
  authorityEpoch : Int

/-- What `activate` is called with. -/
structure ActivateCall where
  nowUnixMs : Int
  profileRevision : Int
  registryRevision : Int
  authorityEpoch : Int

inductive InteropCall
  | negotiate (call : NegotiateCall)
  | consent (sessionId : String) (projection : Entries) (accepted : Bool)
  | activate (sessionId : String) (call : ActivateCall)
  | status (sessionId : String) (nowUnixMs : Option Int)

/-! ## Offers -/

namespace AuthenticationSetup

variable (S : AuthenticationSetup)

def keyFingerprint (secret : String) : String := "sha256:" ++ S.sha256 secret

/-- The payload of an offer: without its digest and without its signature. -/
def offerPayload (offer auth : Entries) : Entries :=
  setItem "authentication" (.dict (auth.filter fun entry => entry.1 ≠ "signature"))
    (offer.filter fun entry => entry.1 ≠ "transcriptSha256")

/-- What is said of an offer, or of what keeps it from being read. -/
def offerReport (offer : Entries) (expectedTarget secret : String)
    (nowUnixMs minimumProtocolVersion : Int) : Except Error (Bool × String) := do
  let auth ← dictCopy (← item offer "authentication")
  let signature := S.conversions.str (← item auth "signature")
  let transcript := S.sha256 (dumps S.floats (.dict (offerPayload offer auth)))
  let expected := S.hmac secret transcript
  let participant ← item offer "participant"
  let listed ← (← participant.get "apiVersions" (.list [])).iterate
  let versions ← listed.mapM S.conversions.int
  let sameTranscript ← compareDigest transcript (S.conversions.str (← item offer "transcriptSha256"))
  if sameTranscript = false then return (false, "transcript authentication failed")
  let signed ← compareDigest expected signature
  if signed = false then return (false, "transcript authentication failed")
  if Entries.get auth "keyFingerprint" .none ≠ .str (S.keyFingerprint secret) then
    return (false, "identity fingerprint mismatch")
  if S.conversions.str (← item offer "targetParticipantId") ≠ expectedTarget then
    return (false, "offer target mismatch")
  if nowUnixMs < (← S.conversions.int (← item offer "issuedAtUnixMs")) then
    return (false, "offer expired or not yet valid")
  if (← S.conversions.int (← item offer "expiresAtUnixMs")) < nowUnixMs then
    return (false, "offer expired or not yet valid")
  if (offer.get "nonce" .none).truthy = false then return (false, "invalid replay fence")
  if (← S.conversions.int (← item offer "authorityEpoch")) < 1 then
    return (false, "invalid replay fence")
  if (← S.conversions.int (← item offer "sequence")) < 1 then return (false, "invalid replay fence")
  if versions.all (· < minimumProtocolVersion) then return (false, "protocol downgrade detected")
  return (true, "ok")

def verifyAuthenticatedOffer (offer : Entries) (expectedTarget secret : String)
    (nowUnixMs minimumProtocolVersion : Int) : Except Error (Bool × String) :=
  match S.offerReport offer expectedTarget secret nowUnixMs minimumProtocolVersion with
  | .ok report => .ok report
  | .error e => if isMalformed e then .ok (false, "malformed authenticated offer") else .error e

/-- Who made an offer, in which epoch, and its number. -/
def offerFence (offer : Entries) : Except Error ((String × Int) × Int) := do
  let participant ← item offer "participant"
  let remoteId ← participant.get "id" (.str "remote")
  let epoch ← S.conversions.int (← item offer "authorityEpoch")
  let sequence ← S.conversions.int (← item offer "sequence")
  return ((S.conversions.str remoteId, epoch), sequence)

def negotiatedSession (localParticipantId : String) (call : NegotiateCall) (epoch : Int) :
    Except Error InteropSession := do
  let participant ← item call.offer "participant"
  let localOffer := setItem "adapters" (.list call.registry.adapters) call.localData
  let plan ← compatibilityReport S.conversions (.dict localOffer) participant
  let ours ← S.conversions.int (Entries.get localOffer "minimumSecureApiVersion" (.int 1))
  let theirs ← S.conversions.int (← participant.get "minimumSecureApiVersion" (.int 1))
  if plan.selectedApiVersion.any (· < max ours theirs) then
    .error (.valueError "protocol downgrade detected")
  else do
    let transcript ← item call.offer "transcriptSha256"
    let expires ← S.conversions.int (← item call.offer "expiresAtUnixMs")
    return {
      sessionId := clip 32 (S.sha256 (dumps S.floats
        (.dict [("transcript", transcript), ("local", .str localParticipantId)])))
      state := if plan.compatible then .negotiated else .expired
      reason := if plan.compatible then "ok" else "incompatible"
      transcriptSha256 := transcript
      plan
      profileRevision := call.profileRevision
      registryRevision := call.registry.revision
      authorityEpoch := epoch
      expiresAtUnixMs := expires
      consentDigestSha256 := none }

end AuthenticationSetup

/-! ## `InteroperabilitySessionManager` -/

namespace InteropSessionManager

def start (localParticipantId : String) : InteropSessionManager :=
  ⟨localParticipantId, Table.empty, Table.empty⟩

variable (S : AuthenticationSetup) (m : InteropSessionManager)

/-- The session is kept under its id, and a copy returned. -/
def keep (sessionId : String) (session : InteropSession) :
    InteropSessionManager × Except Error InteropSession :=
  ({ m with sessions := m.sessions.set sessionId session }, .ok session)

def authenticateAndNegotiate (call : NegotiateCall) :
    InteropSessionManager × Except Error InteropSession :=
  match S.verifyAuthenticatedOffer call.offer m.localParticipantId call.secret call.nowUnixMs 1 with
  | .error e => (m, .error e)
  | .ok (false, reason) => (m, .error (.valueError reason))
  | .ok (true, _) =>
    match S.offerFence call.offer with
    | .error e => (m, .error e)
    | .ok (fence, sequence) =>
      if fence.2 ≠ call.authorityEpoch then (m, .error (.valueError "authority epoch changed"))
      else if sequence ≤ (m.lastSeen.get? fence).getD 0 then
        (m, .error (.valueError "replayed interoperability offer"))
      else
        let m := { m with lastSeen := m.lastSeen.set fence sequence }
        match S.negotiatedSession m.localParticipantId call fence.2 with
        | .error e => (m, .error e)
        | .ok session => m.keep session.sessionId session

def consent (sessionId : String) (projection : Entries) (accepted : Bool) :
    InteropSessionManager × Except Error InteropSession :=
  match m.sessions.get? sessionId with
  | none => (m, .error (.valueError "session is not awaiting consent"))
  | some session =>
    if session.state ≠ .negotiated then
      (m, .error (.valueError "session is not awaiting consent"))
    else if accepted = false then
      m.keep sessionId (session.expire "user declined profile projection")
    else
      match AuthenticationSetup.item projection "projectionDigestSha256" with
      | .error e => (m, .error e)
      | .ok digest => m.keep sessionId (session.consentTo (S.conversions.str digest))

/-- What a session was negotiated with has changed. -/
def changed (session : InteropSession) (call : ActivateCall) : Bool :=
  session.expiresAtUnixMs < call.nowUnixMs || call.profileRevision ≠ session.profileRevision ||
    call.registryRevision ≠ session.registryRevision || call.authorityEpoch ≠ session.authorityEpoch

def activate (sessionId : String) (call : ActivateCall) :
    InteropSessionManager × Except Error InteropSession :=
  match m.sessions.get? sessionId with
  | none => (m, .error (.valueError "session is not consented"))
  | some session =>
    if session.state ≠ .consented then (m, .error (.valueError "session is not consented"))
    else if changed session call then
      m.keep sessionId (session.expire "negotiated inputs changed")
    else m.keep sessionId session.activate

def status (sessionId : String) (nowUnixMs : Option Int) :
    InteropSessionManager × Except Error InteropSession :=
  match m.sessions.get? sessionId with
  | none => (m, .error (.keyError sessionId))
  | some session =>
    if nowUnixMs.any (session.expiresAtUnixMs < ·) then
      m.keep sessionId (session.expire "session expired")
    else (m, .ok session)

def perform : InteropCall → InteropSessionManager × Except Error InteropSession
  | .negotiate call => m.authenticateAndNegotiate S call
  | .consent sessionId projection accepted => m.consent S sessionId projection accepted
  | .activate sessionId call => m.activate sessionId call
  | .status sessionId nowUnixMs => m.status sessionId nowUnixMs

end InteropSessionManager

/-- A manager, with the calls that have returned and what they returned. -/
structure LoggedManager where
  manager : InteropSessionManager
  log : List (InteropCall × InteropSession)

def LoggedManager.step (S : AuthenticationSetup) (st : LoggedManager) (call : InteropCall) :
    Option LoggedManager :=
  match st.manager.perform S call with
  | (manager, .ok session) => some ⟨manager, st.log ++ [(call, session)]⟩
  | (manager, .error _) => some ⟨manager, st.log⟩

/-! ## What a call does -/

namespace AuthenticationSetup

variable {S : AuthenticationSetup} {n : NegotiateCall} {s : InteropSession}

/-- The session is what the negotiation of compatible participants returned. -/
structure Negotiates (S : AuthenticationSetup) (n : NegotiateCall) (s : InteropSession) : Prop where
  state : s.state = .negotiated
  compatible : s.plan.compatible = true
  profileRevision : s.profileRevision = n.profileRevision
  registryRevision : s.registryRevision = n.registry.revision
  authorityEpoch : s.authorityEpoch = n.authorityEpoch
  expires : (item n.offer "expiresAtUnixMs" >>= S.conversions.int) = .ok s.expiresAtUnixMs

lemma negotiatedSession_spec {localParticipantId : String}
    (h : S.negotiatedSession localParticipantId n n.authorityEpoch = .ok s) :
    s.state = .expired ∨ (S.Negotiates n s ∧ s.reason = "ok" ∧ s.consentDigestSha256 = none) := by
  obtain ⟨participant, -, h⟩ := bind_eq_ok.mp h
  obtain ⟨plan, -, h⟩ := bind_eq_ok.mp h
  obtain ⟨ours, -, h⟩ := bind_eq_ok.mp h
  obtain ⟨asked, -, h⟩ := bind_eq_ok.mp h
  obtain ⟨theirs, -, h⟩ := bind_eq_ok.mp h
  split at h
  · cases h
  obtain ⟨transcript, -, h⟩ := bind_eq_ok.mp h
  obtain ⟨field, hfield, h⟩ := bind_eq_ok.mp h
  obtain ⟨expires, hexpires, h⟩ := bind_eq_ok.mp h
  cases h
  by_cases hcompatible : plan.compatible = true
  · refine .inr ⟨⟨if_pos hcompatible, hcompatible, rfl, rfl, rfl, ?_⟩, if_pos hcompatible, rfl⟩
    exact bind_eq_ok.mpr ⟨field, hfield, hexpires⟩
  · exact .inl (if_neg hcompatible)

end AuthenticationSetup

/-- What a call can do to a manager, and what it returns. -/
inductive InteropOutcome (S : AuthenticationSetup) (m : InteropSessionManager) :
    InteropCall → InteropSessionManager → Except Error InteropSession → Prop
  | refused (call : InteropCall) (lastSeen : Dict (String × Int) Int) (e : Error)
      (hlater : ∀ fence, (m.lastSeen.get? fence).getD 0 ≤ (lastSeen.get? fence).getD 0) :
      InteropOutcome S m call { m with lastSeen } (.error e)
  | negotiated (n : NegotiateCall) (fence : String × Int) (sequence : Int) (session : InteropSession)
      (hfence : S.offerFence n.offer = .ok (fence, sequence))
      (hnew : (m.lastSeen.get? fence).getD 0 < sequence)
      (hsession : S.negotiatedSession m.localParticipantId n n.authorityEpoch = .ok session) :
      InteropOutcome S m (.negotiate n) { m with
          lastSeen := m.lastSeen.set fence sequence
          sessions := m.sessions.set session.sessionId session } (.ok session)
  | ended (call : InteropCall) (hcall : ∀ n, call ≠ .negotiate n) (id : String)
      (session : InteropSession) (reason : String) (hsession : m.sessions.get? id = some session) :
      InteropOutcome S m call
        { m with sessions := m.sessions.set id (session.expire reason) } (.ok (session.expire reason))
  | consented (id : String) (projection : Entries) (session : InteropSession) (digest : Value)
      (hsession : m.sessions.get? id = some session) (hstate : session.state = .negotiated)
      (hdigest : AuthenticationSetup.item projection "projectionDigestSha256" = .ok digest) :
      InteropOutcome S m (.consent id projection true)
        { m with sessions := m.sessions.set id (session.consentTo (S.conversions.str digest)) }
        (.ok (session.consentTo (S.conversions.str digest)))
  | activated (id : String) (a : ActivateCall) (session : InteropSession)
      (hsession : m.sessions.get? id = some session) (hstate : session.state = .consented)
      (hsame : InteropSessionManager.changed session a = false) :
      InteropOutcome S m (.activate id a)
        { m with sessions := m.sessions.set id session.activate } (.ok session.activate)
  | read (id : String) (nowUnixMs : Option Int) (session : InteropSession) :
      InteropOutcome S m (.status id nowUnixMs) m (.ok session)

namespace InteropSessionManager

variable {S : AuthenticationSetup} {m : InteropSessionManager}

lemma refused (call : InteropCall) (e : Error) : InteropOutcome S m call m (.error e) :=
  .refused call m.lastSeen e fun _ => le_refl _

lemma lastSeen_set {fence : String × Int} {sequence : Int}
    (hnew : (m.lastSeen.get? fence).getD 0 < sequence) (other : String × Int) :
    (m.lastSeen.get? other).getD 0 ≤ ((m.lastSeen.set fence sequence).get? other).getD 0 := by
  rw [Dict.get?_set]
  split_ifs with heq
  · exact heq ▸ hnew.le
  · exact le_refl _

lemma negotiate_outcome (call : NegotiateCall) :
    InteropOutcome S m (.negotiate call) (m.authenticateAndNegotiate S call).1
      (m.authenticateAndNegotiate S call).2 := by
  unfold authenticateAndNegotiate
  split
  · exact refused _ _
  · exact refused _ _
  · split
    · exact refused _ _
    · rename_i fence sequence hfence
      split_ifs with hepoch hreplayed
      · exact refused _ _
      · exact refused _ _
      · rw [not_not] at hepoch
        rw [not_le] at hreplayed
        dsimp only
        split
        · exact .refused _ _ _ (lastSeen_set hreplayed)
        · rename_i session hsession
          rw [hepoch] at hsession
          exact .negotiated call fence sequence session hfence hreplayed hsession

lemma consent_outcome (id : String) (projection : Entries) (accepted : Bool) :
    InteropOutcome S m (.consent id projection accepted) (m.consent S id projection accepted).1
      (m.consent S id projection accepted).2 := by
  unfold consent
  split
  · exact refused _ _
  · rename_i session hsession
    split_ifs with hstate haccepted
    · exact refused _ _
    · exact .ended _ (fun _ heq => by cases heq) id session _ hsession
    · rw [not_not] at hstate
      obtain rfl := eq_true_of_ne_false haccepted
      split
      · exact refused _ _
      · rename_i digest hdigest
        exact .consented id projection session digest hsession hstate hdigest

lemma activate_outcome (id : String) (call : ActivateCall) :
    InteropOutcome S m (.activate id call) (m.activate id call).1 (m.activate id call).2 := by
  unfold activate
  split
  · exact refused _ _
  · rename_i session hsession
    split_ifs with hstate hchanged
    · exact refused _ _
    · exact .ended _ (fun _ heq => by cases heq) id session _ hsession
    · rw [not_not] at hstate
      exact .activated id call session hsession hstate (eq_false_of_ne_true hchanged)

lemma status_outcome (id : String) (nowUnixMs : Option Int) :
    InteropOutcome S m (.status id nowUnixMs) (m.status id nowUnixMs).1 (m.status id nowUnixMs).2 := by
  unfold status
  split
  · exact refused _ _
  · rename_i session hsession
    split_ifs with hexpired
    · exact .ended _ (fun _ heq => by cases heq) id session _ hsession
    · exact .read id nowUnixMs session

/-- **What one call does.** -/
lemma perform_outcome (call : InteropCall) :
    InteropOutcome S m call (m.perform S call).1 (m.perform S call).2 := by
  cases call with
  | negotiate call => exact negotiate_outcome call
  | consent id projection accepted => exact consent_outcome id projection accepted
  | activate id call => exact activate_outcome id call
  | status id nowUnixMs => exact status_outcome id nowUnixMs

end InteropSessionManager

/-! ## What the log says of a session -/

namespace InteropSession

variable (s : InteropSession)

def asNegotiated : InteropSession :=
  { s with state := .negotiated, reason := "ok", consentDigestSha256 := none }

def asConsented : InteropSession := { s with state := .consented, reason := "consented" }

end InteropSession

/-- Nothing has changed since the session was negotiated. -/
structure Activates (a : ActivateCall) (s : InteropSession) : Prop where
  expires : a.nowUnixMs ≤ s.expiresAtUnixMs
  profileRevision : a.profileRevision = s.profileRevision
  registryRevision : a.registryRevision = s.registryRevision
  authorityEpoch : a.authorityEpoch = s.authorityEpoch

/-- The projection is the one that was consented to, and of the revision that the session has. -/
structure Consents (S : AuthenticationSetup) (projection : Entries) (s : InteropSession) : Prop where
  digest : s.consentDigestSha256 = some (S.conversions.str (projection.get "projectionDigestSha256" .none))
  profileRevision : projection.get "profileRevision" .none = .int s.profileRevision

/-- The calls that made a session, in their order. -/
structure SessionAccounts (S : AuthenticationSetup) (log : List (InteropCall × InteropSession))
    (s : InteropSession) : Prop where
  negotiated : s.state = .negotiated → s = s.asNegotiated ∧
    ∃ n, S.Negotiates n s ∧ [(InteropCall.negotiate n, s)].Sublist log
  consented : s.state = .consented → s = s.asConsented ∧
    ∃ n p, S.Negotiates n s.asNegotiated ∧ Consents S p s ∧
      [(.negotiate n, s.asNegotiated), (.consent s.sessionId p true, s)].Sublist log
  active : s.state = .active →
    ∃ n p a, S.Negotiates n s.asNegotiated ∧ Consents S p s ∧ Activates a s ∧
      [(.negotiate n, s.asNegotiated), (.consent s.sessionId p true, s.asConsented),
        (.activate s.sessionId a, s)].Sublist log

namespace LoggedManager

variable (st : LoggedManager)

/-- The offers that were accepted, in their order. -/
def offers : List Entries := st.log.filterMap fun entry => match entry.1 with
    | .negotiate n => some n.offer
    | _ => none

def start (localParticipantId : String) : LoggedManager := ⟨.start localParticipantId, []⟩

end LoggedManager

/-- The same document, up to the order of keys. -/
def SameDocument (d e : Entries) : Prop := (Value.dict d).canon = (Value.dict e).canon

/-- No offer is accepted twice, and an active session was negotiated, consented to and activated. -/
structure SessionsSafe (S : AuthenticationSetup) (st : LoggedManager) : Prop where
  once : st.offers.Pairwise fun d e => ¬ SameDocument d e
  active : ∀ id s, st.manager.sessions.get? id = some s → s.state = .active →
    s.sessionId = id ∧ ∃ n p a, S.Negotiates n s.asNegotiated ∧ Consents S p s ∧ Activates a s ∧
      [(.negotiate n, s.asNegotiated), (.consent id p true, s.asConsented),
        (.activate id a, s)].Sublist st.log

def remoteId (S : AuthenticationSetup) (offer : Entries) : Except Error String := do
  let participant ← AuthenticationSetup.item offer "participant"
  return S.conversions.str (← participant.get "id" (.str "remote"))

/-- The condition on a call: what is consented to is a projection of the profile revision that the session
was negotiated with, and an offer that comes again names its participant in the same way. -/
def RevisionsAgree (S : AuthenticationSetup) (st : LoggedManager) : InteropCall → Prop
  | .negotiate n => ∀ offer ∈ st.offers, SameDocument offer n.offer →
      remoteId S offer = remoteId S n.offer
  | .consent id projection true => ∀ s ∈ st.manager.sessions.get? id,
      s.state = .negotiated → projection.get "profileRevision" .none = .int s.profileRevision
  | _ => True

/-! ## Runs -/

namespace AuthenticationSetup

variable {S : AuthenticationSetup} {d e : Entries} {fence fence' : String × Int} {sequence sequence' : Int}

lemma int_item_same {key : String} {v w : Value} (hsame : SameDocument d e) (hv : item d key = .ok v)
    (hw : item e key = .ok w) : S.conversions.int v = S.conversions.int w := by
  have hfield : (d.lookup key).map Value.canon = (e.lookup key).map Value.canon :=
    Value.get?_of_canon hsame key
  rw [item_eq_ok.mp hv, item_eq_ok.mp hw] at hfield
  rw [← S.conversions.int_canon v, Option.some.inj hfield, S.conversions.int_canon]

lemma offerFence_spec (h : S.offerFence d = .ok (fence, sequence)) :
    remoteId S d = .ok fence.1 ∧ (∃ v, item d "authorityEpoch" = .ok v ∧
      S.conversions.int v = .ok fence.2) ∧
      ∃ v, item d "sequence" = .ok v ∧ S.conversions.int v = .ok sequence := by
  obtain ⟨participant, hparticipant, h⟩ := bind_eq_ok.mp h
  obtain ⟨id, hid, h⟩ := bind_eq_ok.mp h
  obtain ⟨epochField, hepochField, h⟩ := bind_eq_ok.mp h
  obtain ⟨epoch, hepoch, h⟩ := bind_eq_ok.mp h
  obtain ⟨field, hfield, h⟩ := bind_eq_ok.mp h
  obtain ⟨number, hnumber, h⟩ := bind_eq_ok.mp h
  obtain ⟨rfl, rfl⟩ := Prod.mk.inj (Except.ok.inj h)
  refine ⟨?_, ⟨epochField, hepochField, hepoch⟩, field, hfield, hnumber⟩
  exact bind_eq_ok.mpr ⟨participant, hparticipant, bind_eq_ok.mpr ⟨id, hid, rfl⟩⟩

lemma offerFence_same (hsame : SameDocument d e) (hremote : remoteId S d = remoteId S e)
    (hd : S.offerFence d = .ok (fence, sequence)) (he : S.offerFence e = .ok (fence', sequence')) :
    fence = fence' ∧ sequence = sequence' := by
  obtain ⟨hid, ⟨v, hv, hepoch⟩, x, hx, hsequence⟩ := offerFence_spec hd
  obtain ⟨hid', ⟨w, hw, hepoch'⟩, y, hy, hsequence'⟩ := offerFence_spec he
  rw [hid, hid'] at hremote
  rw [int_item_same hsame hv hw, hepoch'] at hepoch
  rw [int_item_same hsame hx hy, hsequence'] at hsequence
  exact ⟨Prod.ext (Except.ok.inj hremote) (Except.ok.inj hepoch).symm,
    (Except.ok.inj hsequence).symm⟩

end AuthenticationSetup

section

variable {S : AuthenticationSetup} {log log' : List (InteropCall × InteropSession)}
  {st st' : LoggedManager} {m : InteropSessionManager} {s : InteropSession} {call : InteropCall}
  {localParticipantId : String}

lemma SessionAccounts.mono (hsub : log.Sublist log') (h : SessionAccounts S log s) : SessionAccounts S log' s where
  negotiated hstate := by
    obtain ⟨heq, n, hn, hlog⟩ := h.negotiated hstate
    exact ⟨heq, n, hn, hlog.trans hsub⟩
  consented hstate := by
    obtain ⟨heq, n, p, hn, hp, hlog⟩ := h.consented hstate
    exact ⟨heq, n, p, hn, hp, hlog.trans hsub⟩
  active hstate := by
    obtain ⟨n, p, a, hn, hp, ha, hlog⟩ := h.active hstate
    exact ⟨n, p, a, hn, hp, ha, hlog.trans hsub⟩

lemma accounts_of_expired (h : s.state = .expired) : SessionAccounts S log s where
  negotiated hstate := by cases h.symm.trans hstate
  consented hstate := by cases h.symm.trans hstate
  active hstate := by cases h.symm.trans hstate

lemma accounts_negotiated {n : NegotiateCall} (hn : S.Negotiates n s) (hreason : s.reason = "ok")
    (hdigest : s.consentDigestSha256 = none) : SessionAccounts S (log ++ [(.negotiate n, s)]) s where
  negotiated _ := by
    refine ⟨?_, n, hn, List.sublist_append_right _ _⟩
    unfold InteropSession.asNegotiated
    rw [← hn.state, ← hreason, ← hdigest]
  consented hstate := by cases hn.state.symm.trans hstate
  active hstate := by cases hn.state.symm.trans hstate

lemma accounts_consented {p : Entries} {digest : Value} (h : SessionAccounts S log s)
    (hstate : s.state = .negotiated)
    (hdigest : AuthenticationSetup.item p "projectionDigestSha256" = .ok digest)
    (hrevision : p.get "profileRevision" .none = .int s.profileRevision) :
    SessionAccounts S (log ++ [(.consent s.sessionId p true, s.consentTo (S.conversions.str digest))])
      (s.consentTo (S.conversions.str digest)) where
  negotiated h := by cases h
  consented _ := by
    obtain ⟨heq, n, hn, hlog⟩ := h.negotiated hstate
    have hsame : (s.consentTo (S.conversions.str digest)).asNegotiated = s := heq.symm
    refine ⟨rfl, n, p, hsame.symm ▸ hn, ⟨?_, hrevision⟩, ?_⟩
    · unfold Entries.get
      rw [AuthenticationSetup.item_eq_ok.mp hdigest]
      rfl
    · rw [hsame]
      exact hlog.append (List.Sublist.refl _)
  active h := by cases h

lemma accounts_activated {a : ActivateCall} (h : SessionAccounts S log s) (hstate : s.state = .consented)
    (hsame : InteropSessionManager.changed s a = false) :
    SessionAccounts S (log ++ [(.activate s.sessionId a, s.activate)]) s.activate where
  negotiated h := by cases h
  consented h := by cases h
  active _ := by
    obtain ⟨heq, n, p, hn, hp, hlog⟩ := h.consented hstate
    have hconsented : s.activate.asConsented = s := heq.symm
    refine ⟨n, p, a, hn, ⟨hp.digest, hp.profileRevision⟩, ?_, ?_⟩
    · simp only [InteropSessionManager.changed, Bool.or_eq_false_iff, decide_eq_false_iff_not,
        not_lt, ne_eq, not_not] at hsame
      exact ⟨hsame.1.1.1, hsame.1.1.2, hsame.1.2, hsame.2⟩
    · rw [hconsented]
      exact hlog.append (List.Sublist.refl _)

structure SessionInvariant (S : AuthenticationSetup) (st : LoggedManager) : Prop where
  ids : ∀ id s, st.manager.sessions.get? id = some s → s.sessionId = id
  accounts : ∀ id s, st.manager.sessions.get? id = some s → SessionAccounts S st.log s
  fences : ∀ offer ∈ st.offers, ∃ fence sequence, S.offerFence offer = .ok (fence, sequence) ∧
    sequence ≤ (st.manager.lastSeen.get? fence).getD 0
  once : st.offers.Pairwise fun d e => ¬ SameDocument d e

lemma sessionInvariant_start : SessionInvariant S (.start localParticipantId) where
  ids _ _ h := by cases h
  accounts _ _ h := by cases h
  fences _ h := by cases h
  once := List.Pairwise.nil

lemma sessions_set {m : Dict String InteropSession} {id : String} {P : String → InteropSession → Prop}
    (hold : ∀ other s, m.get? other = some s → P other s) (hnew : P id s) :
    ∀ other s', (m.set id s).get? other = some s' → P other s' := by
  intro other s' hfound
  rw [Dict.get?_set] at hfound
  split_ifs at hfound with heq
  · cases hfound
    exact heq ▸ hnew
  · exact hold other s' hfound

lemma once_snoc (hinv : SessionInvariant S st) {n : NegotiateCall} {fence : String × Int} {sequence : Int}
    (hremote : RevisionsAgree S st (.negotiate n))
    (hfence : S.offerFence n.offer = .ok (fence, sequence))
    (hnew : (st.manager.lastSeen.get? fence).getD 0 < sequence) :
    (st.offers ++ [n.offer]).Pairwise fun d e => ¬ SameDocument d e := by
  refine List.pairwise_append.mpr ⟨hinv.once, List.pairwise_singleton _ _, ?_⟩
  intro offer hoffer e he hsame
  obtain rfl := List.mem_singleton.mp he
  obtain ⟨fence', sequence', hfence', hle⟩ := hinv.fences offer hoffer
  obtain ⟨rfl, rfl⟩ := AuthenticationSetup.offerFence_same hsame (hremote offer hoffer hsame) hfence' hfence
  exact absurd hnew (not_lt.mpr hle)

lemma offers_append_negotiate {n : NegotiateCall} :
    LoggedManager.offers ⟨m, log ++ [(.negotiate n, s)]⟩ = LoggedManager.offers ⟨m, log⟩ ++ [n.offer] :=
  List.filterMap_append

lemma offers_append_other (h : ∀ n, call ≠ .negotiate n) :
    LoggedManager.offers ⟨m, log ++ [(call, s)]⟩ = LoggedManager.offers ⟨m, log⟩ := by
  unfold LoggedManager.offers
  rw [List.filterMap_append]
  cases call with
  | negotiate n => exact absurd rfl (h n)
  | _ => exact List.append_nil _

lemma sessionInvariant_replace (hinv : SessionInvariant S st) (hcall : ∀ n, call ≠ .negotiate n)
    {id : String} (hid : s.sessionId = id) (haccounts : SessionAccounts S (st.log ++ [(call, s)]) s) :
    SessionInvariant S ⟨{ st.manager with sessions := st.manager.sessions.set id s },
      st.log ++ [(call, s)]⟩ where
  ids := sessions_set hinv.ids hid
  accounts := sessions_set
    (fun other s' hfound => (hinv.accounts other s' hfound).mono (List.sublist_append_left _ _)) haccounts
  fences := by
    rw [offers_append_other hcall]
    exact hinv.fences
  once := by
    rw [offers_append_other hcall]
    exact hinv.once

/-- **What every call keeps.** -/
lemma sessionInvariant_step (hinv : SessionInvariant S st) (hok : RevisionsAgree S st call)
    (hstep : st.step S call = some st') : SessionInvariant S st' := by
  have hdoes := InteropSessionManager.perform_outcome (S := S) (m := st.manager) call
  unfold LoggedManager.step at hstep
  revert hstep hdoes
  obtain ⟨manager, result⟩ := st.manager.perform S call
  intro hstep hdoes
  cases hdoes with
  | refused _ lastSeen e hlater =>
    cases hstep
    refine ⟨hinv.ids, hinv.accounts, fun offer hoffer => ?_, hinv.once⟩
    obtain ⟨fence, sequence, hfence, hle⟩ := hinv.fences offer hoffer
    exact ⟨fence, sequence, hfence, hle.trans (hlater fence)⟩
  | negotiated n fence sequence session hfence hnew hsession =>
    cases hstep
    refine ⟨sessions_set hinv.ids rfl, sessions_set (fun other s' hfound =>
      (hinv.accounts other s' hfound).mono (List.sublist_append_left _ _)) ?_, ?_, ?_⟩
    · rcases AuthenticationSetup.negotiatedSession_spec hsession with hexpired | ⟨hn, hreason, hdigest⟩
      · exact accounts_of_expired hexpired
      · exact accounts_negotiated hn hreason hdigest
    · rw [offers_append_negotiate]
      intro offer hoffer
      rcases List.mem_append.mp hoffer with hoffer | hoffer
      · obtain ⟨fence', sequence', hfence', hle⟩ := hinv.fences offer hoffer
        exact ⟨fence', sequence', hfence', hle.trans (InteropSessionManager.lastSeen_set hnew fence')⟩
      · obtain rfl := List.mem_singleton.mp hoffer
        refine ⟨fence, sequence, hfence, ?_⟩
        rw [Dict.get?_set, if_pos rfl]
        exact le_refl _
    · rw [offers_append_negotiate]
      exact once_snoc hinv hok hfence hnew
  | ended _ hcall id session reason hsession =>
    cases hstep
    exact sessionInvariant_replace hinv hcall (hinv.ids id session hsession) (accounts_of_expired rfl)
  | consented id projection session digest hsession hstate hdigest =>
    cases hstep
    obtain rfl := hinv.ids id session hsession
    exact sessionInvariant_replace hinv (fun _ heq => by cases heq) rfl
      (accounts_consented (hinv.accounts _ session hsession) hstate hdigest (hok session hsession hstate))
  | activated id a session hsession hstate hsame =>
    cases hstep
    obtain rfl := hinv.ids id session hsession
    exact sessionInvariant_replace hinv (fun _ heq => by cases heq) rfl
      (accounts_activated (hinv.accounts _ session hsession) hstate hsame)
  | read id nowUnixMs session =>
    cases hstep
    have hoffers : LoggedManager.offers
        ⟨st.manager, st.log ++ [(InteropCall.status id nowUnixMs, session)]⟩ = st.offers :=
      offers_append_other fun _ heq => by cases heq
    refine ⟨hinv.ids, fun other s' hfound =>
      (hinv.accounts other s' hfound).mono (List.sublist_append_left _ _), ?_, ?_⟩
    · rw [hoffers]
      exact hinv.fences
    · rw [hoffers]
      exact hinv.once

lemma SessionInvariant.safe (hinv : SessionInvariant S st) : SessionsSafe S st where
  once := hinv.once
  active id s hfound hstate := by
    obtain rfl := hinv.ids id s hfound
    exact ⟨rfl, (hinv.accounts _ s hfound).active hstate⟩

end

/-- **Sessions are safe where projections are of the revision that was negotiated.** -/
theorem sessions_safe {S : AuthenticationSetup} {localParticipantId : String} {calls : List InteropCall}
    {st : LoggedManager} (hrun : Reaches (LoggedManager.step S) (RevisionsAgree S)
      (.start localParticipantId) calls st) : SessionsSafe S st := by
  refine (hrun.invariant sessionInvariant_start fun _ _ _ hinv hok hstep => ?_).safe
  exact sessionInvariant_step hinv hok hstep

/-! ## One session -/

/-- An offer of a participant that speaks version 1, before it is signed. -/
def unsignedOffer : Entries :=
  [("documentType", .str "org.upp.interoperability-offer"), ("schemaVersion", .int 1),
    ("participant", .dict [("id", .str "remote"), ("apiVersions", .list [.int 1])]),
    ("targetParticipantId", .str "local"), ("authorityEpoch", .int 7), ("sequence", .int 1),
    ("nonce", .str "00112233445566778899aabbccddeeff"), ("issuedAtUnixMs", .int 1000),
    ("expiresAtUnixMs", .int 2000),
    ("authentication", .dict [("scheme", .str "hmac-sha256"), ("keyFingerprint",
        .str "sha256:14cb91da5cabd3ab56557a07f0db4f6514ba6ac8fd9203c117a0e1f03022ec41")])]

def offerTranscript : String := "9662b9ea4a7d3890f7b337ee565a48709415ed4cd132534e4f1a3113a724b412"

def offerSignature : String := "110bb44551d51fff36e6c4988ca8d93697ce6dd381161d71833ee2e05848a6ff"

def signedOffer : Entries :=
  setItem "authentication" (.dict (((unsignedOffer.get "authentication" .none).entries) ++
    [("signature", .str offerSignature)])) unsignedOffer ++ [("transcriptSha256", .str offerTranscript)]

def sessionDigests (text : String) : String :=
  if text = "shared-test-key" then "14cb91da5cabd3ab56557a07f0db4f6514ba6ac8fd9203c117a0e1f03022ec41"
  else if text = "[]" then "4f53cda18c2baa0c0354bb5f9a3ecbe5ed12ab4d8e11ba873c2f11161202b945"
  else if text = dumps FloatText.fractions (.dict unsignedOffer) then offerTranscript
  else "4ca8a15cfbc9b160f31695d05d24c171873ee516e6c4b54bbe8e2995293bf44c"

def sessionSetup : AuthenticationSetup where
  conversions := plainConversions
  floats := FloatText.fractions
  sha256 := sessionDigests
  hmac _ _ := offerSignature

/-- A session is negotiated with revision 3 of a profile, and a projection of it is consented to. -/
def sessionCalls (projected : Int) : List InteropCall :=
  [.negotiate ⟨signedOffer, [("id", .str "local")], ⟨0, []⟩, "shared-test-key", 1000, 3, 7⟩,
    .consent "4ca8a15cfbc9b160f31695d05d24c171"
      (project FloatText.fractions sessionDigests ⟨"default", projected, []⟩).document.entries true,
    .activate "4ca8a15cfbc9b160f31695d05d24c171" ⟨1500, 3, 0, 7⟩]

def activeSession (st : LoggedManager) : Bool :=
  (st.manager.sessions.get? "4ca8a15cfbc9b160f31695d05d24c171").any fun s => s.state = .active

instance (d e : Entries) : Decidable (SameDocument d e) := by unfold SameDocument; infer_instance

instance (S : AuthenticationSetup) (st : LoggedManager) (call : InteropCall) :
    Decidable (RevisionsAgree S st call) := by
  unfold RevisionsAgree
  split <;> infer_instance

theorem sessions_safe_activated :
    ∃ st, Reaches (LoggedManager.step sessionSetup) (RevisionsAgree sessionSetup) (.start "local")
      (sessionCalls 3) st ∧ activeSession st = true ∧ SessionsSafe sessionSetup st := by
  have hrun : (run (fun st call => if RevisionsAgree sessionSetup st call then
      LoggedManager.step sessionSetup st call else none) (.start "local") (sessionCalls 3)).any
        activeSession = true := by decide +kernel
  obtain ⟨st, hst, hactive⟩ := (Option.any_eq_true _ _).mp hrun
  exact ⟨st, reaches_of_run hst, hactive, sessions_safe (reaches_of_run hst)⟩

/-- The consents of a run are to a projection of revision 2, and its sessions are of revision 3. -/
def consentsToStale (st : LoggedManager) : Bool :=
  st.log.all fun entry => entry.2.profileRevision = 3 && match entry.1 with
    | .consent _ projection _ => projection.get "profileRevision" .none = .int 2
    | _ => true

theorem stale_projection_active : ¬ ∀ calls st,
    Reaches (LoggedManager.step sessionSetup) Always (.start "local") calls st →
      SessionsSafe sessionSetup st := by
  intro h
  have hrun : (run (LoggedManager.step sessionSetup) (.start "local") (sessionCalls 2)).any
      (fun st => activeSession st && consentsToStale st) = true := by decide +kernel
  obtain ⟨st, hst, hboth⟩ := (Option.any_eq_true _ _).mp hrun
  obtain ⟨hactive, hstale⟩ := Bool.and_eq_true_iff.mp hboth
  obtain ⟨s, hfound, hstate⟩ := (Option.any_eq_true _ _).mp hactive
  obtain ⟨-, n, p, a, -, hp, -, hlog⟩ :=
    (h _ st (reaches_always_of_run hst)).active _ s hfound (of_decide_eq_true hstate)
  have hentry := List.all_eq_true.mp hstale _
    (hlog.subset (List.mem_cons_of_mem _ List.mem_cons_self))
  obtain ⟨hsession, hprojection⟩ := Bool.and_eq_true_iff.mp hentry
  have hrevision : s.profileRevision = 3 := of_decide_eq_true hsession
  have hprojected := (of_decide_eq_true hprojection).symm.trans hp.profileRevision
  rw [hrevision] at hprojected
  cases hprojected

end StageForge
