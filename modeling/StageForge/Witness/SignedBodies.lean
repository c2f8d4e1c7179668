import StageForge.Handoff.OffersAndReceipts
import StageForge.Library.Json
import StageForge.Witness.Requests

/-!
# Signed requests and responses of a witness

The documents behind the typed requests: the payloads of `acquire`, `transfer` and `recover`, as the
client signs them (`_signed_body`), and as `verify_request`, `verify_transfer_request` and
`verify_recovery_request` read them; `sign_response` and `verify_response`; and what `do_POST` of
`backend/witness_server.py` does with a body.
-/

namespace StageForge

open Python

inductive WitnessOperation
  | acquire
  | transfer
  | recover
  deriving DecidableEq

def WitnessOperation.text : WitnessOperation → String
  | .acquire => "acquire"
  | .transfer => "transfer"
  | .recover => "recover"

/-! ## The client -/

/-- `name.strip()[:64] or fallback`. -/
def witnessName (fallback name : String) : String :=
  if clip 64 (strip name) = "" then fallback else clip 64 (strip name)

/-- What the constructor of the client keeps of its arguments. -/
structure WitnessClient where
  clusterId : String
  nodeId : String
  ttlMs : Int

def WitnessClient.of (clusterId nodeId : String) (ttlMs : Int) : WitnessClient :=
  ⟨witnessName "stageforge-local" clusterId, witnessName "node-local" nodeId, clampTtl ttlMs⟩

/-- Names and a duration within the bounds of a witness. -/
structure WitnessClient.Bounded (client : WitnessClient) : Prop where
  cluster : client.clusterId ≠ "" ∧ client.clusterId.length ≤ 64
  node : client.nodeId ≠ "" ∧ client.nodeId.length ≤ 64
  ttl : 500 ≤ client.ttlMs ∧ client.ttlMs ≤ 60000

lemma witnessName_bounded (fallback name : String) (h : fallback ≠ "" ∧ fallback.length ≤ 64) :
    witnessName fallback name ≠ "" ∧ (witnessName fallback name).length ≤ 64 := by
  unfold witnessName
  split_ifs with hempty
  · exact h
  · exact ⟨hempty, length_clip_le _ _⟩

lemma WitnessClient.of_bounded (clusterId nodeId : String) (ttlMs : Int) :
    (WitnessClient.of clusterId nodeId ttlMs).Bounded := by
  have hcluster := witnessName_bounded "stageforge-local" clusterId (by decide)
  have hnode := witnessName_bounded "node-local" nodeId (by decide)
  constructor <;> simp only [WitnessClient.of]
  · exact hcluster
  · exact hnode
  · unfold clampTtl
    omega

/-- The arguments of a client method; `recover` takes its facts from the fence, whose target may be any
value. -/
inductive ClientRequest
  | acquire
  | transfer (targetNodeId : String) (sourceEpoch targetEpoch transactionId : Int)
  | recover (targetNodeId : Value) (sourceEpoch targetEpoch transactionId : Int)
      (recoveryId fenceDigest : String)

namespace ClientRequest

def operation : ClientRequest → WitnessOperation
  | .acquire => .acquire
  | .transfer .. => .transfer
  | .recover .. => .recover

def payload (client : WitnessClient) (nonce : String) : ClientRequest → Entries
  | .acquire =>
    [("protocolVersion", .int 1), ("clusterId", .str client.clusterId), ("nodeId", .str client.nodeId),
      ("ttlMs", .int client.ttlMs), ("nonce", .str nonce)]
  | .transfer targetNodeId sourceEpoch targetEpoch transactionId =>
    [("protocolVersion", .int 1), ("clusterId", .str client.clusterId),
      ("sourceNodeId", .str client.nodeId), ("targetNodeId", .str targetNodeId),
      ("sourceEpoch", .int sourceEpoch), ("targetEpoch", .int targetEpoch),
      ("transactionId", .int transactionId), ("ttlMs", .int client.ttlMs), ("nonce", .str nonce)]
  | .recover targetNodeId sourceEpoch targetEpoch transactionId recoveryId fenceDigest =>
    [("protocolVersion", .int 1), ("clusterId", .str client.clusterId), ("nodeId", .str client.nodeId),
      ("sourceNodeId", .str client.nodeId), ("targetNodeId", targetNodeId),
      ("sourceEpoch", .int sourceEpoch), ("targetEpoch", .int targetEpoch),
      ("transactionId", .int transactionId), ("recoveryId", .str recoveryId),
      ("fenceDigest", .str fenceDigest), ("nonce", .str nonce)]

/-- `recover` raises for another recovery id, and its digest is a `hexdigest`. -/
def Built : ClientRequest → Prop
  | .recover _ _ _ _ recoveryId fenceDigest =>
    1 ≤ recoveryId.length ∧ recoveryId.length ≤ 128 ∧ fenceDigest.length = 64 ∧
      (fenceDigest.toList.all fun ch => ch ∈ "0123456789abcdef".toList) = true
  | _ => True

/-- The request hands the lease on from one epoch to the next, to another node. -/
def Fenced (nodeId : String) : ClientRequest → Prop
  | .acquire => True
  | .transfer targetNodeId sourceEpoch targetEpoch transactionId =>
    targetNodeId ≠ "" ∧ targetNodeId.length ≤ 64 ∧ nodeId ≠ targetNodeId ∧
      0 < sourceEpoch ∧ targetEpoch = sourceEpoch + 1 ∧ 0 < transactionId
  | .recover targetNodeId sourceEpoch targetEpoch transactionId _ _ =>
    (∃ name, targetNodeId = .str name ∧ nodeId ≠ name) ∧
      0 < sourceEpoch ∧ targetEpoch = sourceEpoch + 1 ∧ 0 < transactionId

end ClientRequest

def keyEntry (keyId : Option String) : Entries :=
  (keyId.map fun keyId => ("keyId", Value.str keyId)).toList

def Entries.without (d : Entries) (key : String) : Entries := d.filter fun entry => entry.1 ≠ key

namespace AuthenticationSetup

variable (S : AuthenticationSetup)

def signRequest (payload : Entries) (secret : String) : String :=
  S.hmac secret (dumps S.floats (.dict payload))

/-- `_signed_body`: the body, the secret and the key id. -/
def signedBody (payload : Entries) (auth : HmacKeySnapshot) :
    Except String (Entries × String × Option String) :=
  if auth.configured = false then .error "witness authentication required"
  else
    let keyId := if auth.keyringMode then auth.activeKeyId else none
    let body := payload ++ keyEntry keyId
    auth.activeSecret.map fun secret =>
      (body ++ [("hmacSha256", .str (S.signRequest body secret))], secret, keyId)

/-! ## The verifiers of a witness -/

/-- The signature of a payload that was read from the request. -/
def authenticate (payload request : Entries) (secret : String) :
    Except Error (Bool × String × Entries) := do
  let supplied := S.textField request "hmacSha256"
  if supplied = "" then return (false, "witness authentication failed", payload)
  if ← compareDigest (S.signRequest payload secret) supplied then return (true, "ok", payload)
  return (false, "witness authentication failed", payload)

/-- The checks of a payload, and then of its signature. -/
def verifyPayload (checks : Except String Unit) (payload request : Entries) (secret : String) :
    Except Error (Bool × String × Entries) :=
  match checks with
  | .error reason => .ok (false, reason, payload)
  | .ok () => S.authenticate payload request secret

def readAcquire (request : Entries) : Except Error (AcquirePayload × String) := do
  let protocolVersion ← S.conversions.int (← item request "protocolVersion")
  let clusterId ← item request "clusterId"
  let nodeId ← item request "nodeId"
  let ttlMs ← S.conversions.int (← item request "ttlMs")
  let nonce ← item request "nonce"
  return (⟨protocolVersion, S.conversions.str clusterId, S.conversions.str nodeId, ttlMs⟩,
    S.conversions.str nonce)

def verifyAcquireBody (request : Entries) (secret : String) : Except Error (Bool × String × Entries) :=
  match S.readAcquire request with
  | .error e => if isMalformed e then .ok (false, "malformed witness request", []) else .error e
  | .ok (p, nonce) =>
    S.verifyPayload (verifyRequest true p)
      ([("protocolVersion", .int p.protocolVersion), ("clusterId", .str p.clusterId),
        ("nodeId", .str p.nodeId), ("ttlMs", .int p.ttlMs), ("nonce", .str nonce)] ++
        keyEntry ((request.lookup "keyId").map S.conversions.str)) request secret

/-- `isinstance(value, str)`. -/
def stringField (request : Entries) (key : String) : Option String := match request.lookup key with
  | some (.str text) => some text
  | _ => none

/-- `isinstance(value, int) and not isinstance(value, bool)`. -/
def integerField (request : Entries) (key : String) : Option Int := match request.lookup key with
  | some (.int n) => some n
  | _ => none

def readTransfer (request : Entries) : Option (TransferPayload × String) := do
  let clusterId ← stringField request "clusterId"
  let sourceNodeId ← stringField request "sourceNodeId"
  let targetNodeId ← stringField request "targetNodeId"
  let nonce ← stringField request "nonce"
  let protocolVersion ← integerField request "protocolVersion"
  let sourceEpoch ← integerField request "sourceEpoch"
  let targetEpoch ← integerField request "targetEpoch"
  let transactionId ← integerField request "transactionId"
  let ttlMs ← integerField request "ttlMs"
  return (⟨protocolVersion, clusterId, sourceNodeId, targetNodeId, sourceEpoch, targetEpoch,
    transactionId, ttlMs⟩, nonce)

def verifyTransferBody (request : Entries) (secret : String) : Except Error (Bool × String × Entries) :=
  match readTransfer request with
  | none => .ok (false, "malformed witness transfer request", [])
  | some (p, nonce) =>
    S.verifyPayload (verifyTransferRequest true nonce.length p)
      ([("protocolVersion", .int p.protocolVersion), ("clusterId", .str p.clusterId),
        ("sourceNodeId", .str p.sourceNodeId), ("targetNodeId", .str p.targetNodeId),
        ("sourceEpoch", .int p.sourceEpoch), ("targetEpoch", .int p.targetEpoch),
        ("transactionId", .int p.transactionId), ("ttlMs", .int p.ttlMs), ("nonce", .str nonce)] ++
        keyEntry ((request.lookup "keyId").map S.conversions.str)) request secret

def readRecovery (request : Entries) : Option (RecoveryPayload × String) := do
  let clusterId ← stringField request "clusterId"
  let nodeId ← stringField request "nodeId"
  let sourceNodeId ← stringField request "sourceNodeId"
  let targetNodeId ← stringField request "targetNodeId"
  let recoveryId ← stringField request "recoveryId"
  let fenceDigest ← stringField request "fenceDigest"
  let nonce ← stringField request "nonce"
  let protocolVersion ← integerField request "protocolVersion"
  let sourceEpoch ← integerField request "sourceEpoch"
  let targetEpoch ← integerField request "targetEpoch"
  let transactionId ← integerField request "transactionId"
  return (⟨protocolVersion, clusterId, nodeId, sourceNodeId, targetNodeId, sourceEpoch, targetEpoch,
    transactionId, recoveryId, fenceDigest⟩, nonce)

def verifyRecoveryBody (request : Entries) (secret : String) : Except Error (Bool × String × Entries) :=
  match readRecovery request with
  | none => .ok (false, "malformed witness recovery request", [])
  | some (p, nonce) =>
    S.verifyPayload (verifyRecoveryRequest true nonce.length p)
      ([("protocolVersion", .int p.protocolVersion), ("sourceEpoch", .int p.sourceEpoch),
        ("targetEpoch", .int p.targetEpoch), ("transactionId", .int p.transactionId),
        ("clusterId", .str p.clusterId), ("nodeId", .str p.nodeId),
        ("sourceNodeId", .str p.sourceNodeId), ("targetNodeId", .str p.targetNodeId),
        ("recoveryId", .str p.recoveryId), ("fenceDigest", .str p.fenceDigest), ("nonce", .str nonce)] ++
        keyEntry ((request.lookup "keyId").map S.conversions.str)) request secret

def verifyBody : WitnessOperation → Entries → String → Except Error (Bool × String × Entries)
  | .acquire => S.verifyAcquireBody
  | .transfer => S.verifyTransferBody
  | .recover => S.verifyRecoveryBody

/-! ## Responses -/

/-- `WITNESS_ID or None`. -/
def configured (text : String) : Value := if text = "" then .none else .str text

/-- The answer of the store as the witness signs it, with its id and its failure domain. -/
def resultDocument (answer : Answer) (witnessId failureDomain : String) : Entries :=
  (match answer with
  | .lease r =>
    [("granted", .bool r.granted), ("clusterId", .str r.clusterId),
      ("holderNodeId", (r.holderNodeId.map Value.str).getD .none), ("epoch", .int r.epoch),
      ("expiresAtUnixMs", (r.expiresAtUnixMs.map Value.int).getD .none),
      ("serverUnixMs", .int r.serverUnixMs), ("reason", .str r.reason)] ++
      (r.idempotent.map fun idempotent => ("idempotent", Value.bool idempotent)).toList ++
      (r.transactionId.map fun transactionId => ("transactionId", Value.int transactionId)).toList
  | .recovery r =>
    [("authorized", .bool r.authorized), ("clusterId", .str r.clusterId), ("nodeId", .str r.nodeId),
      ("targetNodeId", .str r.targetNodeId), ("sourceEpoch", .int r.sourceEpoch),
      ("targetEpoch", .int r.targetEpoch), ("transactionId", .int r.transactionId),
      ("recoveryId", .str r.recoveryId), ("fenceDigest", .str r.fenceDigest),
      ("serverUnixMs", .int r.serverUnixMs), ("reason", .str r.reason)]) ++
  [("witnessId", configured witnessId), ("failureDomain", configured failureDomain)]

def responseSignature (payload : Entries) (secret : String) : String :=
  S.signRequest [("purpose", .str "org.upp.witness-response/1"), ("payload", .dict payload)] secret

def requestDigest (request : Entries) : String := S.digestOf (request.without "hmacSha256")

/-- What is signed of a response: the result, bound to its request. -/
def boundResult (result request : Entries) (operation : WitnessOperation) (keyId : Option String) :
    Entries :=
  update result ([("responseVersion", .int 1), ("operation", .str operation.text),
    ("requestDigest", .str (S.requestDigest request))] ++ keyEntry keyId)

def signResponse (result request : Entries) (operation : WitnessOperation) (secret : String)
    (keyId : Option String) : Except Error Entries :=
  if secret = "" then
    .error (.valueError "response signing requires a secret and valid operation")
  else
    let payload := S.boundResult result request operation keyId
    .ok (setItem "responseHmacSha256" (.str (S.responseSignature payload secret)) payload)

def verifyResponse (raw : Value) (request : Entries) (operation : WitnessOperation) (secret : String)
    (expectedKeyId : Option String) : Except Error Entries :=
  match raw with
  | .dict raw => do
    if secret = "" then throw (.valueError "witness response authentication required")
    let expected := S.responseSignature (Entries.without raw "responseHmacSha256") secret
    match raw.lookup "responseHmacSha256" with
    | some (.str signature) =>
      if !(← compareDigest expected signature) then
        throw (.valueError "witness response authentication failed")
    | _ => throw (.valueError "witness response authentication failed")
    if raw.lookup "responseVersion" ≠ some (.int 1) ∨
        raw.lookup "operation" ≠ some (.str operation.text) ∨
        raw.lookup "requestDigest" ≠ some (.str (S.requestDigest request)) ∨
        Entries.get raw "keyId" .none ≠ (expectedKeyId.map Value.str).getD .none then
      throw (.valueError "witness response request binding mismatch")
    return raw
  | _ => .error (.valueError "witness response authentication required")

/-- `do_POST` with a body that it has read, and with the result of the store: nothing is signed for a
body that is refused. -/
def respond (auth : HmacKeySnapshot) (operation : WitnessOperation) (result body : Entries) :
    Except Error (Option Entries) :=
  match auth.resolve (body.get "keyId" .none) with
  | .error _ => .ok none
  | .ok secret => do
    let (accepted, _, payload) ← S.verifyBody operation body secret
    if accepted then
      let keyId := if auth.keyringMode then (body.lookup "keyId").map S.conversions.str else none
      return some (← S.signResponse result payload operation secret keyId)
    return none

/-- The digests and signatures of a cluster: HMAC takes different keys or texts to different signatures. -/
structure IdealKeys : Prop extends S.HexDigests where
  hmac_inj : ∀ {secret secret' text text'}, S.hmac secret text = S.hmac secret' text' →
    secret = secret' ∧ text = text'
  hmac_ne : ∀ secret text, S.hmac secret text ≠ ""

variable {S} {answer : Answer} {witnessId failureDomain secret secret' : String} {keyId keyId' : Option String}
  {operation operation' : WitnessOperation} {request request' raw : Entries}

/-! ## What a response is good for -/

lemma without_setItem {key : String} {v : Value} {d : Entries} (h : key ∉ d.map Prod.fst) :
    Entries.without (setItem key v d) key = d := by
  have hself : d.filter (fun entry => decide (entry.1 ≠ key)) = d :=
    List.filter_eq_self.mpr fun entry hentry =>
      decide_eq_true fun heq => h (heq ▸ List.mem_map_of_mem hentry)
  rw [setItem_of_new h, Entries.without, List.filter_append, hself]
  simp

lemma key_inj : (keyId.map Value.str).getD .none = (keyId'.map Value.str).getD .none ↔ keyId = keyId' := by
  cases keyId <;> cases keyId' <;> simp

/-- A signed result says which request it is for, and nothing else of it is read under these keys. -/
lemma boundResult_fields (S : AuthenticationSetup) (answer : Answer) (witnessId failureDomain : String) (request : Entries)
    (operation : WitnessOperation) (keyId : Option String) :
    let payload := S.boundResult (resultDocument answer witnessId failureDomain) request operation keyId
    payload.lookup "responseVersion" = some (.int 1) ∧
      payload.lookup "operation" = some (.str operation.text) ∧
      payload.lookup "requestDigest" = some (.str (S.requestDigest request)) ∧
      payload.get "keyId" .none = (keyId.map Value.str).getD .none ∧
      "responseHmacSha256" ∉ payload.map Prod.fst := by
  cases answer with
  | lease r =>
    obtain ⟨granted, clusterId, holder, epoch, expires, server, idempotent, transactionId, reason⟩ := r
    cases idempotent <;> cases transactionId <;> cases keyId <;>
      exact ⟨rfl, rfl, rfl, rfl, by simp [boundResult, resultDocument, update, setItem, keyEntry]⟩
  | recovery r =>
    cases keyId <;>
      exact ⟨rfl, rfl, rfl, rfl, by simp [boundResult, resultDocument, update, setItem, keyEntry]⟩

lemma verifyResponse_signed (hideal : S.IdealKeys)
    (h : S.signResponse (resultDocument answer witnessId failureDomain) request operation secret keyId =
      .ok raw) (request' : Entries) (operation' : WitnessOperation) (secret' : String)
    (keyId' : Option String) :
    S.verifyResponse (.dict raw) request' operation' secret' keyId' =
      if secret' = "" then .error (.valueError "witness response authentication required")
      else if secret' ≠ secret then .error (.valueError "witness response authentication failed")
      else if operation ≠ operation' ∨ S.requestDigest request ≠ S.requestDigest request' ∨
          keyId ≠ keyId' then
        .error (.valueError "witness response request binding mismatch")
      else .ok raw := by
  obtain ⟨hversion, hoperation, hdigest, hkey, hnew⟩ :=
    boundResult_fields S answer witnessId failureDomain request operation keyId
  unfold signResponse at h
  split_ifs at h
  cases h
  generalize S.boundResult (resultDocument answer witnessId failureDomain) request operation keyId =
    payload at *
  have htext : operation.text = operation'.text ↔ operation = operation' := by
    cases operation <;> cases operation' <;> decide
  have hcompare : compareDigest (S.responseSignature payload secret')
      (S.responseSignature payload secret) = .ok (decide (secret' = secret)) := by
    refine (if_pos (hideal.hmac _ _)).trans ?_
    exact congrArg _ (decide_eq_decide.mpr ⟨fun heq => (hideal.hmac_inj heq).1, fun heq => heq ▸ rfl⟩)
  have hbinding : Entries.get (setItem "responseHmacSha256" (.str (S.responseSignature payload secret))
      payload) "keyId" .none = (keyId.map Value.str).getD .none := by
    rw [Entries.get_setItem, if_neg (by decide), hkey]
  unfold verifyResponse
  simp only [without_setItem hnew, lookup_setItem, hversion, hoperation, hdigest, hbinding, if_true,
    String.reduceEq, if_false, ne_eq, not_true_eq_false, false_or, Option.some.injEq, Value.str.injEq,
    htext, key_inj, hcompare]
  by_cases hempty : secret' = ""
  · simp only [hempty, if_true]
    rfl
  simp only [hempty, if_false, ok_bind]
  by_cases hsecret : secret' = secret
  · simp only [hsecret, decide_true, Bool.not_true, Bool.false_eq_true, if_false, not_true_eq_false]
    split_ifs <;> rfl
  · simp only [hsecret, decide_false, Bool.not_false, if_true, not_false_eq_true]
    rfl

/-! ## What a witness makes of a body -/

variable {client : WitnessClient} {nonce : String} {payload body : Entries}

/-- The body of a request, as `_signed_body` signs it. -/
def bodyOf (S : AuthenticationSetup) (payload : Entries) (secret : String) : Entries :=
  payload ++ [("hmacSha256", .str (S.signRequest payload secret))]

lemma signedBody_ok {auth : HmacKeySnapshot} (h : S.signedBody payload auth = .ok (body, secret, keyId)) :
    body = S.bodyOf (payload ++ keyEntry keyId) secret ∧ keyId ≠ some "" := by
  unfold signedBody at h
  by_cases hconfigured : auth.configured = false
  · rw [if_pos hconfigured] at h
    cases h
  rw [if_neg hconfigured] at h
  cases hsecret : auth.activeSecret with
  | error reason =>
    rw [hsecret] at h
    cases h
  | ok secret' =>
    rw [hsecret] at h
    cases h
    refine ⟨rfl, fun hempty => ?_⟩
    obtain ⟨active, keys, mode⟩ := auth
    cases mode with
    | false => cases hempty
    | true =>
      obtain rfl : active = some "" := hempty
      cases keys with
      | nil => exact hconfigured rfl
      | cons key keys => cases hsecret

lemma authenticate_body (hideal : S.IdealKeys) {read : Entries}
    (hnew : payload.lookup "hmacSha256" = none)
    (hsame : (Value.dict read).canon = (Value.dict payload).canon) :
    S.authenticate read (S.bodyOf payload secret) secret = .ok (true, "ok", read) := by
  have hsupplied : S.textField (S.bodyOf payload secret) "hmacSha256" = S.signRequest payload secret := by
    rw [textField, bodyOf, List.lookup_append, hnew]
    rfl
  have hsigned : S.signRequest read secret = S.signRequest payload secret :=
    congrArg (S.hmac secret) (dumps_of_canon hsame)
  have hcompare : compareDigest (S.signRequest payload secret) (S.signRequest payload secret) = .ok true :=
    compareDigest_self (hideal.hmac _ _)
  unfold authenticate
  simp only [hsupplied, hsigned, hcompare, ok_bind, if_true]
  exact if_neg (hideal.hmac_ne _ _)

structure ReadsBody (payload read : Entries) : Prop where
  same : (Value.dict read).canon = (Value.dict payload).canon
  unsigned : read.without "hmacSha256" = read

/-- A request is accepted if it fences, and then it is read as it was signed. -/
def Judges (S : AuthenticationSetup) (operation : WitnessOperation) (payload : Entries) (secret : String)
    (fenced : Prop) : Prop :=
  (fenced → ∃ read, ReadsBody payload read ∧
    S.verifyBody operation (S.bodyOf payload secret) secret = .ok (true, "ok", read)) ∧
  (¬fenced → ∃ reason read,
    S.verifyBody operation (S.bodyOf payload secret) secret = .ok (false, reason, read))

lemma judges_of_checks (hideal : S.IdealKeys) (checks : Except String Unit) (read : Entries) {fenced : Prop}
    (hverify : S.verifyBody operation (S.bodyOf payload secret) secret =
      S.verifyPayload checks read (S.bodyOf payload secret) secret)
    (hreads : ReadsBody payload read) (hnew : payload.lookup "hmacSha256" = none)
    (hchecks : checks = .ok () ↔ fenced) : Judges S operation payload secret fenced := by
  refine ⟨fun h => ⟨read, hreads, ?_⟩, fun h => ?_⟩
  · rw [hverify, hchecks.mpr h]
    exact authenticate_body hideal hnew hreads.same
  · cases checks with
    | ok _ => exact absurd (hchecks.mp rfl) h
    | error reason => exact ⟨reason, read, hverify⟩

lemma acquire_judged (hideal : S.IdealKeys) (h : client.Bounded) :
    Judges S .acquire (ClientRequest.acquire.payload client nonce ++ keyEntry keyId) secret True := by
  have hchecks : verifyRequest true ⟨1, client.clusterId, client.nodeId, client.ttlMs⟩ = .ok () := by
    simp [verifyRequest, h.cluster, h.node, h.ttl]
  refine judges_of_checks hideal (verifyRequest true ⟨1, client.clusterId, client.nodeId, client.ttlMs⟩)
    (ClientRequest.acquire.payload client nonce ++ keyEntry keyId) ?_ ⟨rfl, ?_⟩ ?_
    (iff_of_true hchecks trivial) <;> cases keyId <;> rfl

lemma transfer_judged (hideal : S.IdealKeys) (h : client.Bounded) (hnonce : nonce.length = 24)
    (target : String) (sourceEpoch targetEpoch transactionId : Int) :
    let request := ClientRequest.transfer target sourceEpoch targetEpoch transactionId
    Judges S .transfer (request.payload client nonce ++ keyEntry keyId) secret
      (request.Fenced client.nodeId) := by
  intro request
  refine judges_of_checks hideal (verifyTransferRequest true nonce.length ⟨1, client.clusterId,
    client.nodeId, target, sourceEpoch, targetEpoch, transactionId, client.ttlMs⟩)
    (request.payload client nonce ++ keyEntry keyId) ?_ ⟨rfl, ?_⟩ ?_ ?_
  · cases keyId <;> rfl
  · cases keyId <;> rfl
  · cases keyId <;> rfl
  · obtain ⟨⟨hcluster, hclusterLength⟩, ⟨hnode, hnodeLength⟩, httl⟩ := h
    simp only [verifyTransferRequest, hnonce, ne_eq, not_true_eq_false, hcluster, hnode, false_or,
      not_lt.mpr hclusterLength, not_lt.mpr hnodeLength, httl, and_self, request, ClientRequest.Fenced]
    split_ifs <;> simp_all <;> grind

lemma recover_judged (hideal : S.IdealKeys) (h : client.Bounded) (hnonce : nonce.length = 24)
    (target : Value) (sourceEpoch targetEpoch transactionId : Int) (recoveryId fenceDigest : String)
    (hbuilt : (ClientRequest.recover target sourceEpoch targetEpoch transactionId recoveryId
      fenceDigest).Built) :
    let request := ClientRequest.recover target sourceEpoch targetEpoch transactionId recoveryId fenceDigest
    Judges S .recover (request.payload client nonce ++ keyEntry keyId) secret
      (request.Fenced client.nodeId) := by
  intro request
  cases target with
  | str name =>
    refine judges_of_checks hideal (verifyRecoveryRequest true nonce.length ⟨1, client.clusterId,
      client.nodeId, client.nodeId, name, sourceEpoch, targetEpoch, transactionId, recoveryId, fenceDigest⟩)
      ([("protocolVersion", .int 1), ("sourceEpoch", .int sourceEpoch),
        ("targetEpoch", .int targetEpoch), ("transactionId", .int transactionId),
        ("clusterId", .str client.clusterId), ("nodeId", .str client.nodeId),
        ("sourceNodeId", .str client.nodeId), ("targetNodeId", .str name), ("recoveryId", .str recoveryId),
        ("fenceDigest", .str fenceDigest), ("nonce", .str nonce)] ++ keyEntry keyId) ?_ ⟨?_, ?_⟩ ?_ ?_
    · cases keyId <;> rfl
    · have hperm : (([("sourceEpoch", .int sourceEpoch), ("targetEpoch", .int targetEpoch),
          ("transactionId", .int transactionId)] : Entries) ++ ([("clusterId", .str client.clusterId),
          ("nodeId", .str client.nodeId), ("sourceNodeId", .str client.nodeId),
          ("targetNodeId", .str name)] : Entries)).Perm _ := List.perm_append_comm
      have hbody := (hperm.append_right (([("recoveryId", .str recoveryId),
        ("fenceDigest", .str fenceDigest), ("nonce", .str nonce)] : Entries) ++ keyEntry keyId)).cons
          ("protocolVersion", Value.int 1)
      refine Value.canon_of_perm hbody ?_
      cases keyId <;> simp [keyEntry]
    · cases keyId <;> rfl
    · cases keyId <;> rfl
    · obtain ⟨hid, hidLength, hdigest, hhex⟩ := hbuilt
      simp only [verifyRecoveryRequest, hnonce, ne_eq, not_true_eq_false, h.cluster.1, false_or,
        hid, hidLength, hdigest, hhex, and_self, request, ClientRequest.Fenced]
      split_ifs <;> simp_all
      grind
  | _ =>
    refine ⟨fun hfenced => ?_, fun _ => ⟨"malformed witness recovery request", [], ?_⟩⟩
    · obtain ⟨⟨name, hname, -⟩, -⟩ := hfenced
      cases hname
    · cases keyId <;> rfl

lemma request_judged (hideal : S.IdealKeys) (h : client.Bounded) (hnonce : nonce.length = 24)
    {request : ClientRequest} (hbuilt : request.Built) :
    Judges S request.operation (request.payload client nonce ++ keyEntry keyId) secret
      (request.Fenced client.nodeId) := by
  cases request with
  | acquire => exact acquire_judged hideal h
  | transfer target sourceEpoch targetEpoch transactionId => exact transfer_judged hideal h hnonce ..
  | recover target sourceEpoch targetEpoch transactionId recoveryId fenceDigest =>
    exact recover_judged hideal h hnonce _ _ _ _ _ _ hbuilt

/-- The key id that a witness signs with is that of the client. -/
lemma server_key {server : HmacKeySnapshot} {request : ClientRequest} (hempty : keyId ≠ some "")
    (hresolve : server.resolve ((S.bodyOf (request.payload client nonce ++ keyEntry keyId) secret).get
      "keyId" .none) = .ok secret') :
    (if server.keyringMode then ((S.bodyOf (request.payload client nonce ++ keyEntry keyId) secret).lookup
      "keyId").map S.conversions.str else none) = keyId := by
  have hlookup : (S.bodyOf (request.payload client nonce ++ keyEntry keyId) secret).lookup "keyId" =
      keyId.map Value.str := by
    cases request <;> cases keyId <;> rfl
  rw [Entries.get, hlookup] at hresolve
  rw [hlookup]
  unfold HmacKeySnapshot.resolve at hresolve
  cases hmode : server.keyringMode with
  | true =>
    rw [hmode, if_pos rfl] at hresolve
    rw [if_pos rfl]
    cases keyId with
    | none => cases hresolve
    | some key => rfl
  | false =>
    rw [hmode] at hresolve
    rw [if_neg Bool.false_ne_true] at hresolve ⊢
    cases keyId with
    | none => rfl
    | some key =>
      rw [if_pos ⟨by simp, by simpa using hempty⟩] at hresolve
      cases hresolve

end AuthenticationSetup

open AuthenticationSetup in
/-- **Witness requests and responses bind.** The body that a client method signs is accepted by the
witness if and only if it fences, and is read as it was signed; the witness that has the key answers it,
and the client takes the answer; and a response to another request or operation, or under another key,
is refused. -/
theorem witness_messages_bind {S : AuthenticationSetup} (hideal : S.IdealKeys) :
    (∀ (clusterId nodeId : String) (ttlMs : Int) (nonce : String) (request : ClientRequest)
        (auth : HmacKeySnapshot) (body : Entries) (secret : String) (keyId : Option String),
      nonce.length = 24 → request.Built → secret ≠ "" →
      S.signedBody (request.payload (.of clusterId nodeId ttlMs) nonce) auth = .ok (body, secret, keyId) →
      (request.Fenced (WitnessClient.of clusterId nodeId ttlMs).nodeId ↔
        ∃ payload, S.verifyBody request.operation body secret = .ok (true, "ok", payload)) ∧
      ∀ payload, S.verifyBody request.operation body secret = .ok (true, "ok", payload) →
        (Value.dict payload).canon = (Value.dict (body.without "hmacSha256")).canon ∧
        ∀ (server : HmacKeySnapshot) answer witnessId failureDomain,
          server.resolve (body.get "keyId" .none) = .ok secret →
          ∃ raw, S.respond server request.operation (resultDocument answer witnessId failureDomain) body =
              .ok (some raw) ∧
            S.verifyResponse (.dict raw) body request.operation secret keyId = .ok raw) ∧
    ∀ answer witnessId failureDomain (request : Entries) operation secret keyId raw,
      S.signResponse (resultDocument answer witnessId failureDomain) request operation secret keyId =
        .ok raw →
      ∀ (request' : Entries) operation' secret' keyId',
        (Value.dict (request.without "hmacSha256")).canon ≠
            (Value.dict (request'.without "hmacSha256")).canon ∨
          operation ≠ operation' ∨ secret ≠ secret' ∨ keyId ≠ keyId' →
        ∃ message, S.verifyResponse (.dict raw) request' operation' secret' keyId' =
          .error (.valueError message) := by
  refine ⟨fun clusterId nodeId ttlMs nonce request auth body secret keyId hnonce hbuilt hsecret hbody => ?_,
    fun answer witnessId failureDomain request operation secret keyId raw hsigned request' operation'
      secret' keyId' hdiffers => ?_⟩
  · obtain ⟨rfl, hempty⟩ := signedBody_ok hbody
    generalize hpayload : request.payload (.of clusterId nodeId ttlMs) nonce ++ keyEntry keyId = payload
    have hwithout : (S.bodyOf payload secret).without "hmacSha256" = payload := by
      subst hpayload
      cases request <;> cases keyId <;> rfl
    have hjudged : Judges S request.operation payload secret _ :=
      hpayload ▸ request_judged hideal (WitnessClient.of_bounded clusterId nodeId ttlMs) hnonce hbuilt
    have hfenced : ∀ read, S.verifyBody request.operation (S.bodyOf payload secret) secret =
        .ok (true, "ok", read) → request.Fenced (WitnessClient.of clusterId nodeId ttlMs).nodeId := by
      intro read hread
      by_contra hno
      obtain ⟨reason, read', hrefused⟩ := hjudged.2 hno
      rw [hrefused] at hread
      cases hread
    refine ⟨⟨fun h => ?_, fun ⟨read, hread⟩ => hfenced read hread⟩, fun read hread => ?_⟩
    · obtain ⟨read, -, hread⟩ := hjudged.1 h
      exact ⟨read, hread⟩
    · obtain ⟨read', ⟨hsame, hunsigned⟩, hread'⟩ := hjudged.1 (hfenced read hread)
      rw [hread'] at hread
      cases hread
      refine ⟨hsame.trans (by rw [hwithout]), fun server answer witnessId failureDomain hresolve => ?_⟩
      have hkey : (if server.keyringMode then ((S.bodyOf payload secret).lookup "keyId").map
          S.conversions.str else none) = keyId := by
        subst hpayload
        exact server_key hempty hresolve
      obtain ⟨raw, hsigned⟩ : ∃ raw, S.signResponse (resultDocument answer witnessId failureDomain) read
          request.operation secret keyId = .ok raw := ⟨_, if_neg hsecret⟩
      have hdigest : S.requestDigest read = S.requestDigest (S.bodyOf payload secret) := by
        rw [requestDigest, requestDigest, hunsigned, hwithout]
        exact congrArg S.sha256 (dumps_of_canon hsame)
      refine ⟨raw, ?_, ?_⟩
      · unfold respond
        rw [hresolve]
        simp only [hread', ok_bind, if_true, hkey, hsigned]
        rfl
      · rw [verifyResponse_signed hideal hsigned, if_neg hsecret, if_neg (not_not.mpr rfl), hdigest]
        simp
  · rw [verifyResponse_signed hideal hsigned]
    split_ifs with hempty hsecret hbinding
    · exact ⟨_, rfl⟩
    · exact ⟨_, rfl⟩
    · exact ⟨_, rfl⟩
    · simp only [not_or, not_not] at hsecret hbinding
      rcases hdiffers with hrequest | hoperation | hsecret' | hkey
      · exact absurd (digestOf_inj hideal.toHexDigests hbinding.2.1) hrequest
      · exact absurd hbinding.1 hoperation
      · exact absurd hsecret.symm hsecret'
      · exact absurd hbinding.2.2 hkey

/-! ## A node that hands over to itself -/

lemma idealSetup_keys : idealSetup.IdealKeys where
  toHexDigests := idealSetup_hex
  hmac_inj h := by
    obtain ⟨hsecret, htexts⟩ := List.cons.inj (tally_injective h)
    exact ⟨codes_injective hsecret, codes_injective (List.cons.inj htexts).1⟩
  hmac_ne secret text h := by
    have hlength := congrArg String.length h
    simp [idealSetup, tally] at hlength

/-- One key, without a key id. -/
def legacyKeys : HmacKeySnapshot where
  keys := [("legacy", "stage-secret")]

def tokenHex : String := "0123456789abcdef01234567"

def stageClient : WitnessClient := .of "" "stage-a" 3000

/-- The body of a request of the node. -/
def signedExample (request : ClientRequest) : Entries :=
  idealSetup.bodyOf (request.payload stageClient tokenHex) "stage-secret"

def grantedResult : Entries :=
  AuthenticationSetup.resultDocument (.lease ⟨true, "stageforge-local", some "stage-a", 1, some 8000, 5000,
    none, none, "granted"⟩) "witness-a" "rack-1"

/-- `transfer` signs a body that hands the lease to the node that has it; no witness accepts it. -/
theorem transfer_to_itself_refused :
    idealSetup.signedBody ((ClientRequest.transfer "stage-a" 3 4 7).payload stageClient tokenHex) legacyKeys =
        .ok (signedExample (.transfer "stage-a" 3 4 7), "stage-secret", none) ∧
      ¬∃ payload, idealSetup.verifyBody .transfer (signedExample (.transfer "stage-a" 3 4 7))
        "stage-secret" = .ok (true, "ok", payload) := by
  refine ⟨rfl, ?_⟩
  have hjudged : AuthenticationSetup.Judges idealSetup .transfer
      ((ClientRequest.transfer "stage-a" 3 4 7).payload stageClient tokenHex ++ keyEntry none)
      "stage-secret" _ := AuthenticationSetup.transfer_judged idealSetup_keys
        (WitnessClient.of_bounded "" "stage-a" 3000) (by decide) "stage-a" 3 4 7
  obtain ⟨reason, read, hrefused⟩ := hjudged.2 fun hfenced => hfenced.2.2.1 (by decide)
  rintro ⟨payload, hpayload⟩
  cases hrefused.symm.trans hpayload

/-- The lease is granted, and the answer to `acquire` is none to `recover`. -/
theorem witness_messages_bind_acquire :
    ∃ granted, idealSetup.respond legacyKeys .acquire grantedResult (signedExample .acquire) =
        .ok (some granted) ∧
      idealSetup.verifyResponse (.dict granted) (signedExample .acquire) .acquire "stage-secret" none =
        .ok granted ∧
      ∃ raw message, idealSetup.signResponse grantedResult (signedExample .acquire) .acquire "stage-secret"
          none = .ok raw ∧
        idealSetup.verifyResponse (.dict raw) (signedExample .acquire) .recover "stage-secret" none =
          .error (.valueError message) := by
  have hbody : idealSetup.signedBody (ClientRequest.acquire.payload stageClient tokenHex) legacyKeys =
      .ok (signedExample .acquire, "stage-secret", none) := rfl
  obtain ⟨hclient, hcross⟩ := witness_messages_bind idealSetup_keys
  obtain ⟨haccepts, hanswers⟩ :=
    hclient "" "stage-a" 3000 tokenHex .acquire legacyKeys _ _ _ (by decide) trivial (by decide) hbody
  obtain ⟨payload, hpayload⟩ := haccepts.mp trivial
  obtain ⟨granted, hgranted, hverified⟩ :=
    (hanswers payload hpayload).2 legacyKeys _ "witness-a" "rack-1" rfl
  have hsigned : idealSetup.signResponse grantedResult (signedExample .acquire) .acquire "stage-secret" none =
      .ok _ := if_neg (by decide)
  obtain ⟨message, hrefused⟩ := hcross _ _ _ _ _ _ _ _ hsigned (signedExample .acquire) .recover
    "stage-secret" none (.inr (.inl (by decide)))
  exact ⟨granted, hgranted, hverified, _, message, hsigned, hrefused⟩

end StageForge
