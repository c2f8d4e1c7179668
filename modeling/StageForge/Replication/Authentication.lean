import StageForge.Library.CanonicalJson
import StageForge.Replication.Tracker

/-!
# What a replica signature covers

`make_envelope` and `verify_envelope` of `backend/replication.py`, and what `apply_replica` of
`backend/runtime.py` takes from an envelope. The verifier builds a payload from the fields of the
document it reads, and compares its digest with the one that came along; `apply_replica` then reads
the document itself, with defaults of its own.

SHA-256 and HMAC are functions on texts.
-/

namespace StageForge

open Python

/-- The texts, digests and signatures of Python. -/
structure AuthenticationSetup where
  conversions : Conversions
  floats : FloatText
  sha256 : String → String
  /-- The secret, then the digest. -/
  hmac : String → String → String

/-! ## Keys -/

structure HmacKeySnapshot where
  activeKeyId : Option String := none
  keys : List (String × String) := []
  keyringMode : Bool := false

namespace HmacKeySnapshot

variable (keyset : HmacKeySnapshot)

def configured : Bool := !keyset.keys.isEmpty

def activeSecret : Except String String := match keyset.keys with
  | [] => .ok ""
  | (_, first) :: _ =>
    if keyset.keyringMode then
      match keyset.activeKeyId.bind fun keyId =>
          if keyId = "" then none else keyset.keys.lookup keyId with
      | some secret => .ok secret
      | none => .error "cluster keyring has no active key"
    else .ok first

/-- `_valid_key_id` of a text. -/
def validKeyId (keyId : String) : Bool := decide (1 ≤ keyId.length ∧ keyId.length ≤ 64) &&
    keyId.toList.all fun c => c.isAlphanum || c ∈ ['.', '_', '-']

def resolve (keyId : Value) : Except String String := if keyset.keyringMode then
    match keyId with
    | .str text =>
      if validKeyId text then
        match keyset.keys.lookup text with
        | some secret => .ok secret
        | none => .error "unknown cluster key identifier"
      else .error "cluster key identifier required"
    | _ => .error "cluster key identifier required"
  else if keyId ≠ .none ∧ keyId ≠ .str "" then .error "key identifiers require keyring mode"
  else keyset.activeSecret

/-- The secret an envelope is checked with; the empty one stands for no check. -/
def authSecret (envelope : List (String × Value)) : Except String String :=
  if keyset.configured then keyset.resolve ((envelope.lookup "keyId").getD .none) else .ok ""

end HmacKeySnapshot

/-! ## The payload -/

structure ReplicationPayload where
  protocolVersion : Int
  sourceNodeId : String
  epoch : Int
  sequence : Int
  revision : Int
  snapshot : Value
  executionTelemetry : Option (List (String × Value))
  keyId : Option String

def ReplicationPayload.document (p : ReplicationPayload) : List (String × Value) :=
  [("protocolVersion", .int p.protocolVersion), ("sourceNodeId", .str p.sourceNodeId),
    ("epoch", .int p.epoch), ("sequence", .int p.sequence), ("revision", .int p.revision),
    ("snapshot", p.snapshot)] ++
    (p.executionTelemetry.map fun telemetry => ("executionTelemetry", .dict telemetry)).toList ++
    (p.keyId.map fun keyId => ("keyId", .str keyId)).toList

namespace AuthenticationSetup

variable (S : AuthenticationSetup)

def digest (p : ReplicationPayload) : String := S.sha256 (dumps S.floats (.dict p.document))

/-- `make_envelope`, which fails if the revision of the snapshot is no integer. -/
def makeEnvelope (snapshot : List (String × Value)) (nodeId : String) (epoch sequence : Int)
    (secret : String) (executionTelemetry : Option (List (String × Value)))
    (keyId : Option String) : Except Error (List (String × Value)) := do
  let revision ← S.conversions.int ((snapshot.lookup "revision").getD (.int 0))
  let payload : ReplicationPayload :=
    { protocolVersion := if executionTelemetry.isSome then 2 else 1
      sourceNodeId := nodeId
      epoch := epoch
      sequence := sequence
      revision := revision
      snapshot := .dict snapshot
      executionTelemetry := executionTelemetry
      keyId := keyId }
  let signature := if secret = "" then "" else S.hmac secret (S.digest payload)
  return payload.document ++
    [("digestSha256", .str (S.digest payload)), ("hmacSha256", .str signature)]

/-! ## The verifier -/

/-- `envelope[key]`. -/
def item (envelope : List (String × Value)) (key : String) : Except Error Value :=
  match envelope.lookup key with
  | some value => .ok value
  | none => .error (.keyError key)

def telemetryField (envelope : List (String × Value)) : Value :=
  (envelope.lookup "executionTelemetry").getD (.dict [])

/-- The payload of a document, or nothing if its telemetry is no object. -/
def readPayload (envelope : List (String × Value)) : Except Error (Option ReplicationPayload) := do
  let protocolVersion ← S.conversions.int (← item envelope "protocolVersion")
  let sourceNodeId ← item envelope "sourceNodeId"
  let epoch ← S.conversions.int (← item envelope "epoch")
  let sequence ← S.conversions.int (← item envelope "sequence")
  let revision ← S.conversions.int (← item envelope "revision")
  let snapshot ← item envelope "snapshot"
  if 2 ≤ protocolVersion ∧ ¬ (telemetryField envelope).isDict then
    return none
  return some
    { protocolVersion := protocolVersion
      sourceNodeId := S.conversions.str sourceNodeId
      epoch := epoch
      sequence := sequence
      revision := revision
      snapshot := snapshot
      executionTelemetry :=
        if 2 ≤ protocolVersion then some (telemetryField envelope).entries else none
      keyId := (envelope.lookup "keyId").map S.conversions.str }

/-- What `except (KeyError, TypeError, ValueError)` catches. -/
def isMalformed : Error → Bool
  | .keyError _ | .typeError | .notANumber | .valueError _ => true
  | _ => false

/-- `hmac.compare_digest`, which takes ASCII texts only. -/
def compareDigest (expected supplied : String) : Except Error Bool :=
  if supplied.toList.all fun c => c.toNat < 128 then .ok (expected = supplied)
  else .error .typeError

def textField (envelope : List (String × Value)) (key : String) : String :=
  S.conversions.str ((envelope.lookup key).getD (.str ""))

def signed (envelope : List (String × Value)) (p : ReplicationPayload) (secret : String) :
    Except Error Bool :=
  if secret = "" then .ok true
  else if S.textField envelope "hmacSha256" = "" then .ok false
  else compareDigest (S.hmac secret (S.digest p)) (S.textField envelope "hmacSha256")

def snapshotRevision (snapshot : Value) : Except Error Int :=
  S.conversions.int ((snapshot.get? "revision").getD (.int (-1)))

def verifyEnvelope (keyset : HmacKeySnapshot) (envelope : List (String × Value)) :
    Except Error (Bool × String) :=
  match S.readPayload envelope with
  | .error e => if isMalformed e then .ok (false, "malformed replication envelope") else .error e
  | .ok none => .ok (false, "malformed execution telemetry")
  | .ok (some p) =>
    if p.protocolVersion ∉ [1, 2] ∨ p.snapshot.isDict = false then
      .ok (false, "unsupported replication envelope")
    else
      match compareDigest (S.digest p) (S.textField envelope "digestSha256") with
      | .error e => .error e
      | .ok false => .ok (false, "replication digest mismatch")
      | .ok true =>
        match keyset.authSecret envelope with
        | .error reason => .ok (false, reason)
        | .ok secret =>
          match S.signed envelope p secret with
          | .error e => .error e
          | .ok false => .ok (false, "replication authentication failed")
          | .ok true =>
            match S.snapshotRevision p.snapshot with
            | .error e => .error e
            | .ok revision =>
              if p.revision ≠ revision then
                .ok (false, "replication revision does not match snapshot")
              else .ok (true, "ok")

def Accepts (keyset : HmacKeySnapshot) (envelope : List (String × Value)) : Prop :=
  S.verifyEnvelope keyset envelope = .ok (true, "ok")

end AuthenticationSetup

/-! ## The consumer -/

/-- What `apply_replica` reads and writes of a standby: the tracker, the show state, the telemetry
of the source's execution, and the reports of `handoff_execution`. -/
structure ReplicaNode (σ : Type) where
  tracker : ReplicationTracker
  state : σ
  executionTelemetry : List (String × Value) := []
  handoffExecution : List Value := []

namespace AuthenticationSetup

variable (S : AuthenticationSetup) {σ : Type}

/-- `str(sourceNodeId or "")` and `int(epoch or 0)`, by which `apply_replica` sees a change of
authority. -/
def authority (envelope : List (String × Value)) : Except Error (String × Int) := do
  let source := (envelope.lookup "sourceNodeId").getD .none
  let epoch := (envelope.lookup "epoch").getD (.int 0)
  let epoch ← S.conversions.int (if epoch.truthy then epoch else .int 0)
  return (if source.truthy then S.conversions.str source else "", epoch)

/-- `envelope.get("executionTelemetry") or {}`, with `{}` for what is no object. -/
def storedTelemetry (envelope : List (String × Value)) : List (String × Value) :=
  ((envelope.lookup "executionTelemetry").getD .none).entries

/-- The ordering metadata as `can_apply` and `mark_applied` read it, with the snapshot. -/
def ordering (envelope : List (String × Value)) : Except Error (Envelope Value) := do
  let epoch ← S.conversions.int (← item envelope "epoch")
  let sequence ← S.conversions.int (← item envelope "sequence")
  let revision ← S.conversions.int (← item envelope "revision")
  let source ← item envelope "sourceNodeId"
  return {
    sourceNodeId := S.conversions.str source
    epoch := epoch
    sequence := sequence
    revision := revision
    snapshot := (envelope.lookup "snapshot").getD .none }

/-- `can_apply` of a document. -/
def canApplyDocument (tracker : ReplicationTracker) (envelope : List (String × Value)) :
    Except Error (Envelope Value) :=
  match S.ordering envelope with
  | .error e =>
    if tracker.role ≠ .standby then
      .error (.valueError "replica apply is only allowed while node role is standby")
    else if isMalformed e then .error (.valueError "malformed replication ordering metadata")
    else .error e
  | .ok ordered =>
    let decision := tracker.canApply ordered
    if decision.accepted then .ok ordered else .error (.valueError decision.reason)

/-- `apply_replica`, from the verifier to `mark_applied`. `restore` is `apply_replica_snapshot`. -/
def applyReplica (keyset : HmacKeySnapshot) (restore : σ → Value → Except Error σ)
    (envelope : List (String × Value)) (node : ReplicaNode σ) :
    ReplicaNode σ × Except Error Unit :=
  match S.verifyEnvelope keyset envelope with
  | .error e => (node, .error e)
  | .ok (false, reason) => (node, .error (.valueError reason))
  | .ok (true, _) =>
    match S.canApplyDocument node.tracker envelope with
    | .error e => (node, .error e)
    | .ok ordered =>
      match S.authority envelope with
      | .error e => (node, .error e)
      | .ok authority =>
        let cleared : ReplicaNode σ :=
          if authority = (node.tracker.sourceNodeId, node.tracker.appliedEpoch) then node
          else { node with handoffExecution := [] }
        match restore node.state ordered.snapshot with
        | .error e => (cleared, .error e)
        | .ok state =>
          ({ cleared with
            state := state
            executionTelemetry := storedTelemetry envelope
            tracker := node.tracker.markApplied ordered }, .ok ())

/-- The same node, up to the order of keys in the telemetry. -/
def SameNode (node node' : ReplicaNode σ) : Prop :=
  node'.tracker = node.tracker ∧ node'.state = node.state ∧
    (Value.dict node'.executionTelemetry).canon = (Value.dict node.executionTelemetry).canon ∧
    node'.handoffExecution = node.handoffExecution

/-- `apply_replica` treats both documents in the same way, on every standby and whatever the show
state makes of a snapshot, as long as it does not depend on the order of keys. -/
def SameTreatment (keyset : HmacKeySnapshot) (d e : List (String × Value)) : Prop :=
  ∀ (σ : Type) (restore : σ → Value → Except Error σ),
    (∀ s v w, v.canon = w.canon → restore s v = restore s w) → ∀ node : ReplicaNode σ,
      let r := S.applyReplica keyset restore d node
      let r' := S.applyReplica keyset restore e node
      SameNode r.1 r'.1 ∧ r.2 = r'.2

/-- Both documents read the same to the verifier. -/
def ReadsSame (d e : List (String × Value)) : Prop :=
  ∃ p q, S.readPayload d = .ok (some p) ∧ S.readPayload e = .ok (some q) ∧
    (Value.dict p.document).canon = (Value.dict q.document).canon

/-- The document `d` passes for `e` and is read differently after the verifier: it is of protocol
version 1 and has other telemetry, or one of the sources counts as empty and the other does not. -/
def Forges (keyset : HmacKeySnapshot) (d e : List (String × Value)) : Prop :=
  S.ReadsSame d e ∧ (keyset.authSecret d).isOk = true ∧
    (((∃ p, S.readPayload d = .ok (some p) ∧ p.protocolVersion < 2) ∧
        (Value.dict (storedTelemetry d)).canon ≠ (Value.dict (storedTelemetry e)).canon) ∨
      S.authority d ≠ S.authority e)

end AuthenticationSetup

namespace HmacKeySnapshot

lemma resolve_unique {keyset : HmacKeySnapshot} {C : Conversions} {d e : List (String × Value)}
    {s t : String} (htext : (d.lookup "keyId").map C.str = (e.lookup "keyId").map C.str)
    (hd : keyset.resolve ((d.lookup "keyId").getD .none) = .ok s)
    (he : keyset.resolve ((e.lookup "keyId").getD .none) = .ok t) : s = t := by
  unfold resolve at hd he
  by_cases hmode : keyset.keyringMode = true
  · rw [if_pos hmode] at hd he
    cases hkd : d.lookup "keyId" with
    | none => simp [hkd] at hd
    | some v =>
      cases hke : e.lookup "keyId" with
      | none => simp [hke] at he
      | some w =>
        rw [hkd] at hd htext
        rw [hke] at he htext
        cases v <;> simp at hd
        cases w <;> simp at he
        rename_i a b
        obtain rfl : a = b := by simpa [Conversions.str] using htext
        rw [hd] at he
        exact Except.ok.inj he
  · rw [if_neg hmode] at hd he
    split_ifs at hd he
    rw [hd] at he
    exact Except.ok.inj he

lemma authSecret_unique {keyset : HmacKeySnapshot} {C : Conversions}
    {d e : List (String × Value)} {s t : String}
    (htext : (d.lookup "keyId").map C.str = (e.lookup "keyId").map C.str)
    (hd : keyset.authSecret d = .ok s) (he : keyset.authSecret e = .ok t) : s = t := by
  unfold authSecret at hd he
  split_ifs at hd he
  · exact resolve_unique htext hd he
  · rw [← Except.ok.inj hd, ← Except.ok.inj he]

end HmacKeySnapshot

namespace AuthenticationSetup

variable {S : AuthenticationSetup} {keyset : HmacKeySnapshot} {d e : List (String × Value)}
  {p q : ReplicationPayload}

/-! ## What the verifier has read -/

lemma item_eq_ok {key : String} {v : Value} : item e key = .ok v ↔ e.lookup key = some v := by
  unfold item
  cases e.lookup key <;> simp

/-- What a payload says of the document that it was read from. -/
structure Reads (S : AuthenticationSetup) (e : List (String × Value)) (p : ReplicationPayload) :
    Prop where
  epoch : ∃ v, e.lookup "epoch" = some v ∧ S.conversions.int v = .ok p.epoch
  sequence : ∃ v, e.lookup "sequence" = some v ∧ S.conversions.int v = .ok p.sequence
  revision : ∃ v, e.lookup "revision" = some v ∧ S.conversions.int v = .ok p.revision
  sourceNodeId : ∃ v, e.lookup "sourceNodeId" = some v ∧ S.conversions.str v = p.sourceNodeId
  snapshot : e.lookup "snapshot" = some p.snapshot
  executionTelemetry : p.executionTelemetry =
    if 2 ≤ p.protocolVersion then some (telemetryField e).entries else none
  keyId : p.keyId = (e.lookup "keyId").map S.conversions.str

lemma reads_of_readPayload (h : S.readPayload e = .ok (some p)) : Reads S e p := by
  unfold readPayload at h
  simp only [bind_eq_ok, item_eq_ok] at h
  obtain ⟨vp, hvp, version, hversion, source, hsource, ve, hve, epoch, hepoch, vs, hvs, sequence,
    hsequence, vr, hvr, revision, hrevision, snapshot, hsnapshot, h⟩ := h
  split at h
  · exact absurd (Except.ok.inj h) (by simp)
  · obtain rfl := Option.some.inj (Except.ok.inj h)
    exact ⟨⟨ve, hve, hepoch⟩, ⟨vs, hvs, hsequence⟩, ⟨vr, hvr, hrevision⟩, ⟨source, hsource, rfl⟩,
      hsnapshot, rfl, rfl⟩

/-- Payloads that are the same objects, up to the order of keys. -/
structure SamePayload (p q : ReplicationPayload) : Prop where
  protocolVersion : p.protocolVersion = q.protocolVersion
  sourceNodeId : p.sourceNodeId = q.sourceNodeId
  epoch : p.epoch = q.epoch
  sequence : p.sequence = q.sequence
  revision : p.revision = q.revision
  snapshot : p.snapshot.canon = q.snapshot.canon
  executionTelemetry : (p.executionTelemetry.map fun t => (Value.dict t).canon) =
    q.executionTelemetry.map fun t => (Value.dict t).canon
  keyId : p.keyId = q.keyId

open ReplicationPayload

lemma lookup_document (p : ReplicationPayload) :
    p.document.lookup "executionTelemetry" = p.executionTelemetry.map .dict ∧
      p.document.lookup "keyId" = p.keyId.map .str := by
  unfold document
  cases p.executionTelemetry <;> cases p.keyId <;> exact ⟨rfl, rfl⟩

lemma samePayload_of_canon (h : (Value.dict p.document).canon = (Value.dict q.document).canon) :
    SamePayload p q := by
  have hfield := fun key => Value.lookup_of_canon h key
  constructor
  · simpa [document, List.lookup_cons, Value.canon] using hfield "protocolVersion"
  · simpa [document, List.lookup_cons, Value.canon] using hfield "sourceNodeId"
  · simpa [document, List.lookup_cons, Value.canon] using hfield "epoch"
  · simpa [document, List.lookup_cons, Value.canon] using hfield "sequence"
  · simpa [document, List.lookup_cons, Value.canon] using hfield "revision"
  · simpa [document, List.lookup_cons, Value.canon] using hfield "snapshot"
  · have h := hfield "executionTelemetry"
    rw [(lookup_document p).1, (lookup_document q).1] at h
    simpa [Option.map_map, Function.comp_def] using h
  · have h := hfield "keyId"
    rw [(lookup_document p).2, (lookup_document q).2] at h
    cases hp : p.keyId <;> cases hq : q.keyId <;> simp_all [Value.canon]

/-! ## Acceptance -/

/-- What the verifier requires of a document with this payload. -/
structure Verified (S : AuthenticationSetup) (keyset : HmacKeySnapshot)
    (e : List (String × Value)) (p : ReplicationPayload) : Prop where
  read : S.readPayload e = .ok (some p)
  version : p.protocolVersion ∈ ([1, 2] : List Int)
  isDict : p.snapshot.isDict = true
  digest : compareDigest (S.digest p) (S.textField e "digestSha256") = .ok true
  secret : ∃ secret, keyset.authSecret e = .ok secret ∧ S.signed e p secret = .ok true
  revision : S.snapshotRevision p.snapshot = .ok p.revision

/-- **What the verifier accepts.** -/
lemma accepts_iff : S.Accepts keyset e ↔ ∃ p, Verified S keyset e p := by
  unfold Accepts verifyEnvelope
  constructor
  · intro h
    split at h
    · split at h <;> simp at h
    · simp at h
    · rename_i p hread
      split at h
      · simp at h
      · rename_i hform
        split at h <;> try simp at h
        rename_i hdigest
        split at h <;> try simp at h
        rename_i secret hsecret
        split at h <;> try simp at h
        rename_i hsigned
        split at h <;> try simp at h
        rename_i revision hrevision
        obtain ⟨hversion, hdict⟩ := not_or.mp hform
        exact ⟨p, hread, not_not.mp hversion, by simpa using hdict, hdigest,
          ⟨secret, hsecret, hsigned⟩, by rw [hrevision, h]⟩
  · rintro ⟨p, hread, hversion, hdict, hdigest, ⟨secret, hsecret, hsigned⟩, hrevision⟩
    have hform : ¬ (p.protocolVersion ∉ ([1, 2] : List Int) ∨ p.snapshot.isDict = false) := by
      simp [hversion, hdict]
    simp only [hread, if_neg hform, hdigest, hsecret, hsigned, hrevision, ne_eq,
      not_true_eq_false, if_false]

/-- The documents agree on the fields of the signature. -/
def SameSignature (d e : List (String × Value)) : Prop :=
  d.lookup "digestSha256" = e.lookup "digestSha256" ∧ d.lookup "hmacSha256" = e.lookup "hmacSha256"

lemma verified_of_canon (he : Verified S keyset e q) (hsignature : SameSignature d e)
    (hd : S.readPayload d = .ok (some p))
    (hcanon : (Value.dict p.document).canon = (Value.dict q.document).canon)
    (hkey : (keyset.authSecret d).isOk = true) : Verified S keyset d p := by
  have hsame := samePayload_of_canon hcanon
  have hdigest : S.digest p = S.digest q := congrArg S.sha256 (dumps_of_canon hcanon)
  have htext : ∀ key, d.lookup key = e.lookup key → S.textField d key = S.textField e key :=
    fun key h => by rw [textField, textField, h]
  obtain ⟨t, ht, hsigned⟩ := he.secret
  have hsecret : keyset.authSecret d = .ok t := by
    cases hs : keyset.authSecret d with
    | error reason => simp [hs, Except.isOk, Except.toBool] at hkey
    | ok s =>
      have hids : (d.lookup "keyId").map S.conversions.str =
          (e.lookup "keyId").map S.conversions.str := by
        rw [← (reads_of_readPayload hd).keyId, ← (reads_of_readPayload he.read).keyId, hsame.keyId]
      rw [HmacKeySnapshot.authSecret_unique hids hs ht]
  refine ⟨hd, hsame.protocolVersion ▸ he.version, ?_, ?_, ⟨t, hsecret, ?_⟩, ?_⟩
  · rw [← Value.isDict_canon, hsame.snapshot, Value.isDict_canon, he.isDict]
  · rw [hdigest, htext _ hsignature.1, he.digest]
  · rw [signed, hdigest, htext _ hsignature.2]
    exact hsigned
  · have hrevision : S.snapshotRevision p.snapshot = S.snapshotRevision q.snapshot :=
      S.conversions.int_get?_of_canon hsame.snapshot "revision" (-1)
    rw [hrevision, he.revision, hsame.revision]

lemma canon_of_accepted (hcollisionFree : Function.Injective S.sha256)
    (he : Verified S keyset e q) (hd : Verified S keyset d p) (hsignature : SameSignature d e) :
    (Value.dict p.document).canon = (Value.dict q.document).canon := by
  have hmatch : ∀ {a b : String}, compareDigest a b = .ok true → a = b := by
    intro a b h
    unfold compareDigest at h
    split at h
    · simpa using h
    · simp at h
  have htext : S.textField d "digestSha256" = S.textField e "digestSha256" := by
    rw [textField, textField, hsignature.1]
  have hdigest : S.digest p = S.digest q := by
    rw [hmatch hd.digest, hmatch he.digest, htext]
  exact dumps_inj (hcollisionFree hdigest)

/-! ## Treatment -/

def ordered (p : ReplicationPayload) : Envelope Value where
  sourceNodeId := p.sourceNodeId
  epoch := p.epoch
  sequence := p.sequence
  revision := p.revision
  snapshot := p.snapshot

lemma Reads.ordering (h : Reads S e p) : S.ordering e = .ok (ordered p) := by
  obtain ⟨ve, hve, hepoch⟩ := h.epoch
  obtain ⟨vs, hvs, hsequence⟩ := h.sequence
  obtain ⟨vr, hvr, hrevision⟩ := h.revision
  obtain ⟨source, hsource, htext⟩ := h.sourceNodeId
  simp only [AuthenticationSetup.ordering, item, hve, hvs, hvr, hsource, h.snapshot, hepoch,
    hsequence, hrevision, htext, bind, Except.bind, pure, Except.pure, Option.getD_some]
  rfl

lemma int_orZero {C : Conversions} {v : Value} {n : Int} (h : C.int v = .ok n) :
    C.int (if v.truthy then v else .int 0) = .ok n := by
  cases htruthy : v.truthy with
  | true => simpa using h
  | false =>
    cases v with
    | none => simp [Conversions.int] at h
    | bool b =>
      simp only [Value.truthy] at htruthy
      simpa [htruthy, Conversions.int] using h
    | int m =>
      have hm : m = 0 := by simpa [Value.truthy] using htruthy
      simpa [hm] using h
    | float x =>
      cases x with
      | finite q =>
        have hq : q = 0 := by simpa [Value.truthy] using htruthy
        simpa [hq, Conversions.int] using h
      | _ => simp [Value.truthy] at htruthy
    | str s =>
      have hs : s = "" := by simpa [Value.truthy] using htruthy
      simp [hs, Conversions.int] at h
    | list items => simp [Conversions.int] at h
    | dict entries => simp [Conversions.int] at h

lemma Reads.authority (h : Reads S e p) : ∃ source, S.authority e = .ok (source, p.epoch) := by
  obtain ⟨v, hv, hepoch⟩ := h.epoch
  simp only [AuthenticationSetup.authority, hv, Option.getD_some, int_orZero hepoch]
  exact ⟨_, rfl⟩

section

variable {σ : Type} {restore : σ → Value → Except Error σ}

lemma applyReplica_of_verified (he : Verified S keyset e q) {authority : String × Int}
    (hauthority : S.authority e = .ok authority) (node : ReplicaNode σ) :
    S.applyReplica keyset restore e node = if (node.tracker.canApply (ordered q)).accepted then
        let cleared : ReplicaNode σ :=
          if authority = (node.tracker.sourceNodeId, node.tracker.appliedEpoch) then node
          else { node with handoffExecution := [] }
        match restore node.state q.snapshot with
        | .error e => (cleared, .error e)
        | .ok state =>
          ({ cleared with
            state := state
            executionTelemetry := storedTelemetry e
            tracker := node.tracker.markApplied (ordered q) }, .ok ())
      else (node, .error (.valueError (node.tracker.canApply (ordered q)).reason)) := by
  have haccepts : S.verifyEnvelope keyset e = .ok (true, "ok") := accepts_iff.mpr ⟨q, he⟩
  unfold applyReplica canApplyDocument
  rw [haccepts, (reads_of_readPayload he.read).ordering, hauthority]
  simp only
  split
  · rename_i hok
    split at hok <;> simp_all
  · rename_i hok
    split at hok
    · rename_i hdecision
      cases hok
      rw [if_pos hdecision]
      rfl
    · simp at hok

end

/-- Documents that read the same to the verifier, with the same telemetry and the same authority,
are treated in the same way. -/
lemma sameTreatment_of_canon (hd : Verified S keyset d p) (he : Verified S keyset e q)
    (hcanon : (Value.dict p.document).canon = (Value.dict q.document).canon)
    (htelemetry : (Value.dict (storedTelemetry d)).canon = (Value.dict (storedTelemetry e)).canon)
    (hauthority : S.authority d = S.authority e) : S.SameTreatment keyset d e := by
  intro σ restore horder node
  have hsame := samePayload_of_canon hcanon
  obtain ⟨source, hsource⟩ := (reads_of_readPayload he.read).authority
  rw [applyReplica_of_verified hd (hauthority.trans hsource), applyReplica_of_verified he hsource]
  have hordered : ordered p = { ordered q with snapshot := p.snapshot } := by
    simp only [ordered, hsame.sourceNodeId, hsame.epoch, hsame.sequence, hsame.revision]
  have hdecision : node.tracker.canApply (ordered p) = node.tracker.canApply (ordered q) := by
    rw [hordered]
    rfl
  have hmark : node.tracker.markApplied (ordered p) = node.tracker.markApplied (ordered q) := by
    rw [hordered]
    rfl
  rw [hdecision, hmark, horder node.state _ _ hsame.snapshot]
  split
  · cases restore node.state q.snapshot with
    | error e => exact ⟨⟨rfl, rfl, rfl, rfl⟩, rfl⟩
    | ok state => exact ⟨⟨rfl, rfl, htelemetry.symm, rfl⟩, rfl⟩
  · exact ⟨⟨rfl, rfl, rfl, rfl⟩, rfl⟩

/-- A standby that applies an envelope of the epoch after its own. -/
def freshStandby (epoch : Int) : ReplicaNode Unit where
  tracker := { nodeId := "standby", role := .standby, appliedEpoch := epoch - 1 }
  state := ()

/-- A standby that has applied the envelope before, from the source, and has a report. -/
def followingStandby (source : String) (epoch sequence : Int) : ReplicaNode Unit where
  tracker :=
    { nodeId := "standby"
      role := .standby
      sourceNodeId := source
      appliedEpoch := epoch
      appliedSequence := sequence - 1 }
  state := ()
  handoffExecution := [.dict []]

lemma telemetry_of_sameTreatment (hd : Verified S keyset d p) (he : Verified S keyset e q)
    (hsame : SamePayload p q) (h : S.SameTreatment keyset d e) :
    (Value.dict (storedTelemetry d)).canon = (Value.dict (storedTelemetry e)).canon := by
  obtain ⟨source, hsource⟩ := (reads_of_readPayload hd.read).authority
  obtain ⟨source', hsource'⟩ := (reads_of_readPayload he.read).authority
  have htreated := h Unit (fun _ _ => .ok ()) (fun _ _ _ _ => rfl) (freshStandby q.epoch)
  rw [applyReplica_of_verified hd hsource, applyReplica_of_verified he hsource'] at htreated
  have haccepted : ∀ r : ReplicationPayload, r.epoch = q.epoch →
      ((freshStandby q.epoch).tracker.canApply (ordered r)).accepted = true := by
    intro r hr
    refine (ReplicationTracker.canApply_accepted_iff _ _).mpr ⟨rfl, ?_, ?_, ?_⟩
    · simp [freshStandby, ordered, hr]
    · rintro ⟨hepoch, -⟩
      simp only [freshStandby, ordered, hr] at hepoch
      omega
    · rintro ⟨-, hrevision, -⟩
      exact hrevision rfl
  rw [if_pos (haccepted p hsame.epoch), if_pos (haccepted q rfl)] at htreated
  exact htreated.1.2.2.1.symm

lemma authority_of_sameTreatment (hd : Verified S keyset d p) (he : Verified S keyset e q)
    (hsame : SamePayload p q) (h : S.SameTreatment keyset d e) : S.authority d = S.authority e := by
  obtain ⟨source, hsource⟩ := (reads_of_readPayload hd.read).authority
  obtain ⟨source', hsource'⟩ := (reads_of_readPayload he.read).authority
  have htreated := h Unit (fun _ _ => .ok ()) (fun _ _ _ _ => rfl)
    (followingStandby source' q.epoch q.sequence)
  rw [applyReplica_of_verified hd hsource, applyReplica_of_verified he hsource'] at htreated
  have haccepted : ∀ r : ReplicationPayload, r.epoch = q.epoch → r.sequence = q.sequence →
      ((followingStandby source' q.epoch q.sequence).tracker.canApply (ordered r)).accepted =
        true := by
    intro r hr hs
    refine (ReplicationTracker.canApply_accepted_iff _ _).mpr ⟨rfl, ?_, ?_, ?_⟩
    · simp [followingStandby, ordered, hr]
    · rintro ⟨-, -, hsequence⟩
      simp only [followingStandby, ordered, hs] at hsequence
      omega
    · rintro ⟨-, hrevision, -⟩
      exact hrevision rfl
  rw [if_pos (haccepted p hsame.epoch hsame.sequence), if_pos (haccepted q rfl rfl)] at htreated
  have hreports := htreated.1.2.2.2
  rw [hsource, hsource', hsame.epoch]
  by_contra hne
  have hdiffers : source ≠ source' := fun heq => hne (by rw [heq])
  simp [followingStandby, hdiffers] at hreports

lemma telemetry_of_version (hd : Verified S keyset d p) (he : Verified S keyset e q)
    (hsame : SamePayload p q) (hversion : 2 ≤ p.protocolVersion) :
    (Value.dict (storedTelemetry d)).canon = (Value.dict (storedTelemetry e)).canon := by
  have hstored : ∀ f : List (String × Value), storedTelemetry f = (telemetryField f).entries := by
    intro f
    unfold storedTelemetry telemetryField
    cases f.lookup "executionTelemetry" <;> rfl
  have hd' := (reads_of_readPayload hd.read).executionTelemetry
  have he' := (reads_of_readPayload he.read).executionTelemetry
  have hpayload := hsame.executionTelemetry
  rw [hd', he', if_pos hversion, if_pos (hsame.protocolVersion ▸ hversion)] at hpayload
  rw [hstored, hstored]
  exact Option.some.inj hpayload

end AuthenticationSetup

open AuthenticationSetup in
/-- **Every replica field that is used is authenticated, but for two.** A document with the
signature fields of an accepted one is rejected or treated like it, exactly if it does not pass for
it with other telemetry under protocol version 1, or with a source that counts as empty where the
other does not. -/
theorem replica_fields_authenticated (S : AuthenticationSetup)
    (hcollisionFree : Function.Injective S.sha256) (keyset : HmacKeySnapshot)
    (d e : List (String × Value)) (he : S.Accepts keyset e) (hsignature : SameSignature d e) :
    (¬ S.Accepts keyset d ∨ S.SameTreatment keyset d e) ↔ ¬ S.Forges keyset d e := by
  obtain ⟨q, he⟩ := accepts_iff.mp he
  constructor
  · rintro htreated ⟨⟨p, q', hd, hq', hcanon⟩, hkey, hforged⟩
    obtain rfl : q' = q := by simpa [he.read] using hq'.symm
    have hd := verified_of_canon he hsignature hd hcanon hkey
    have hsame := samePayload_of_canon hcanon
    have htreated := htreated.resolve_left fun hno => hno (accepts_iff.mpr ⟨p, hd⟩)
    rcases hforged with ⟨-, htelemetry⟩ | hauthority
    · exact htelemetry (telemetry_of_sameTreatment hd he hsame htreated)
    · exact hauthority (authority_of_sameTreatment hd he hsame htreated)
  · intro hno
    by_cases haccepts : S.Accepts keyset d
    · obtain ⟨p, hd⟩ := accepts_iff.mp haccepts
      have hcanon := canon_of_accepted hcollisionFree he hd hsignature
      have hsame := samePayload_of_canon hcanon
      have hkey : (keyset.authSecret d).isOk = true := by
        obtain ⟨secret, hsecret, -⟩ := hd.secret
        rw [hsecret]
        rfl
      have hclean := not_or.mp fun hforged =>
        hno ⟨⟨p, q, hd.read, he.read, hcanon⟩, hkey, hforged⟩
      refine .inr (sameTreatment_of_canon hd he hcanon ?_ (not_not.mp hclean.2))
      by_cases hversion : 2 ≤ p.protocolVersion
      · exact telemetry_of_version hd he hsame hversion
      · by_contra htelemetry
        exact hclean.1 ⟨⟨p, hd.read, not_le.mp hversion⟩, htelemetry⟩
    · exact .inl haccepts

/-! ## A signed envelope -/

/-- The digest of one payload, and a signature under one secret. -/
def examplePayload : String :=
  "\x7b\"epoch\":1,\"protocolVersion\":1,\"revision\":5,\"sequence\":1,\"snapshot\":" ++
    "\x7b\"revision\":5\x7d,\"sourceNodeId\":\"stage-a\"\x7d"

def exampleDigest : String := "8249a93593ad50ec9c2b40171e92e791ef6d218fb33b83b620270580ac4b3c8c"

def exampleSignature : String := "e607568789aec61c3ae0d4a61f4fc6064312710b41c3de444b464d1ca5fb7a9a"

/-- The digests of other texts are marked texts. -/
def exampleAuthentication : AuthenticationSetup where
  conversions := ⟨fun _ => "None", fun _ => none, fun _ => none⟩
  floats := .fractions
  sha256 text := if text = examplePayload then exampleDigest else ":" ++ text
  hmac secret digest :=
    if secret = "stage-secret" ∧ digest = exampleDigest then exampleSignature else ""

lemma exampleAuthentication_collisionFree : Function.Injective exampleAuthentication.sha256 := by
  have hmark : ∀ text, exampleDigest ≠ ":" ++ text := by
    intro text h
    have hhead := congrArg (fun s : String => s.toList.head?) h
    simp [exampleDigest] at hhead
  intro a b h
  simp only [exampleAuthentication] at h
  split_ifs at h with ha hb hb
  · rw [ha, hb]
  · exact absurd h (hmark b)
  · exact absurd h.symm (hmark a)
  · have htail := congrArg String.toList h
    exact String.toList_inj.mp (by simpa [String.toList_append] using htail)

def exampleKeys : HmacKeySnapshot where
  keys := [("legacy", "stage-secret")]

/-- What `make_envelope` makes of a snapshot of revision 5 without telemetry. -/
def signedEnvelope : List (String × Value) :=
  [("protocolVersion", .int 1), ("sourceNodeId", .str "stage-a"), ("epoch", .int 1),
    ("sequence", .int 1), ("revision", .int 5), ("snapshot", .dict [("revision", .int 5)]),
    ("digestSha256", .str exampleDigest), ("hmacSha256", .str exampleSignature)]

def annotatedEnvelope : List (String × Value) := signedEnvelope ++ [("note", .str "encore")]

instance (S : AuthenticationSetup) (keyset : HmacKeySnapshot) (e : List (String × Value)) :
    Decidable (S.Accepts keyset e) := by
  unfold AuthenticationSetup.Accepts
  infer_instance

lemma signedEnvelope_accepted : exampleAuthentication.Accepts exampleKeys signedEnvelope := by
  decide +kernel

theorem replica_fields_authenticated_annotated :
    exampleAuthentication.Accepts exampleKeys signedEnvelope ∧
      AuthenticationSetup.SameSignature annotatedEnvelope signedEnvelope ∧
      (¬ exampleAuthentication.Accepts exampleKeys annotatedEnvelope ∨
        exampleAuthentication.SameTreatment exampleKeys annotatedEnvelope signedEnvelope) := by
  have hsignature : AuthenticationSetup.SameSignature annotatedEnvelope signedEnvelope := ⟨rfl, rfl⟩
  refine ⟨signedEnvelope_accepted, hsignature, (replica_fields_authenticated exampleAuthentication
    exampleAuthentication_collisionFree exampleKeys annotatedEnvelope signedEnvelope
    signedEnvelope_accepted hsignature).mpr ?_⟩
  rintro ⟨-, -, ⟨-, htelemetry⟩ | hauthority⟩
  · exact htelemetry rfl
  · exact hauthority rfl

def forgedEnvelope : List (String × Value) :=
  signedEnvelope ++ [("executionTelemetry", .dict [("transportRunning", .bool true)])]

/-- **Forged telemetry is accepted.** An envelope of protocol version 1 with telemetry added to it
is accepted under the key, and `apply_replica` stores the telemetry. -/
theorem telemetry_forged :
    exampleAuthentication.makeEnvelope [("revision", .int 5)] "stage-a" 1 1 "stage-secret" none
        none = .ok signedEnvelope ∧
      exampleKeys.configured = true ∧
      exampleAuthentication.Accepts exampleKeys signedEnvelope ∧
      AuthenticationSetup.SameSignature forgedEnvelope signedEnvelope ∧
      exampleAuthentication.Accepts exampleKeys forgedEnvelope ∧
      ¬ exampleAuthentication.SameTreatment exampleKeys forgedEnvelope signedEnvelope := by
  have hforged : exampleAuthentication.Accepts exampleKeys forgedEnvelope := by decide +kernel
  have hsignature : AuthenticationSetup.SameSignature forgedEnvelope signedEnvelope := ⟨rfl, rfl⟩
  refine ⟨by decide +kernel, rfl, signedEnvelope_accepted, hsignature, hforged, fun htreated => ?_⟩
  obtain ⟨p, hp⟩ := AuthenticationSetup.accepts_iff.mp hforged
  obtain ⟨q, hq⟩ := AuthenticationSetup.accepts_iff.mp signedEnvelope_accepted
  have hcanon := AuthenticationSetup.canon_of_accepted exampleAuthentication_collisionFree hq hp
    hsignature
  have hsame := AuthenticationSetup.samePayload_of_canon hcanon
  exact absurd (AuthenticationSetup.telemetry_of_sameTreatment hp hq hsame htreated)
    (by decide +kernel)

end StageForge
