import StageForge.Library.PythonList
import StageForge.Replication.Authentication
import StageForge.Show.Technology

/-!
# Offers and readiness receipts

`make_offer`, `verify_offer`, `make_ready_receipt` and `verify_ready_receipt` of
`backend/planned_handoff.py`. A maker signs the digest of a payload of its own; a verifier reads a
payload from the document that came in, coerces each field, and compares the digest of what it has
read. Both pairs use the same secret.
-/

namespace StageForge

open Python

/-- The fields that an offer and a receipt have in common, besides the version of the protocol. -/
structure HandoffFields where
  transactionId : Int
  sourceNodeId : String
  targetNodeId : String
  sourceEpoch : Int
  targetEpoch : Int
  targetShowNs : Int
  issuedAtUnixNs : Int
  keyId : Option String

structure OfferPayload extends HandoffFields where
  protocolVersion : Int
  allowDegradedProgram : Bool

structure ReceiptPayload extends HandoffFields where
  protocolVersion : Int
  receiptType : String
  programReady : Bool

/-- The fields that a receipt shares with its offer. -/
def HandoffFields.fencing (p : HandoffFields) : Entries :=
  [("transactionId", .int p.transactionId), ("sourceNodeId", .str p.sourceNodeId),
    ("targetNodeId", .str p.targetNodeId), ("sourceEpoch", .int p.sourceEpoch),
    ("targetEpoch", .int p.targetEpoch), ("targetShowNs", .int p.targetShowNs)]

def HandoffFields.key (p : HandoffFields) : Entries :=
  (p.keyId.map fun keyId => ("keyId", Value.str keyId)).toList

def OfferPayload.document (p : OfferPayload) : Entries :=
  ("protocolVersion", .int p.protocolVersion) :: p.fencing ++
    [("allowDegradedProgram", .bool p.allowDegradedProgram),
      ("issuedAtUnixNs", .int p.issuedAtUnixNs)] ++ p.key

def ReceiptPayload.document (p : ReceiptPayload) : Entries :=
  ("protocolVersion", .int p.protocolVersion) :: ("receiptType", .str p.receiptType) :: p.fencing ++
    [("programReady", .bool p.programReady), ("issuedAtUnixNs", .int p.issuedAtUnixNs)] ++ p.key

/-- The arguments of `make_offer`, and the time it reads for `issuedAtUnixNs`. -/
structure OfferCall extends HandoffFields where
  allowDegradedProgram : Bool
  secret : String

def OfferCall.payload (call : OfferCall) : OfferPayload :=
  { call.toHandoffFields with protocolVersion := 1, allowDegradedProgram := call.allowDegradedProgram }

/-- The arguments of `make_ready_receipt`, and the time it reads. -/
structure ReceiptCall where
  offer : Entries
  programReady : Bool
  secret : String
  keyId : Option String
  timeNs : Int

inductive MakerCall
  | offer (call : OfferCall)
  | receipt (call : ReceiptCall)

/-- What both verifiers return for what they accept. -/
def handoffAccepted : Except Error (Bool × String) := .ok (true, "ok")

namespace AuthenticationSetup

variable (S : AuthenticationSetup)

/-! ## The makers -/

def digestOf (payload : Entries) : String := S.sha256 (dumps S.floats (.dict payload))

/-- `{**payload, "digestSha256": digest, "hmacSha256": signature}`. -/
def sign (secret : String) (payload : Entries) : Entries :=
  payload ++ [("digestSha256", .str (S.digestOf payload)),
    ("hmacSha256", .str (S.hmac secret (S.digestOf payload)))]

def makeOffer (call : OfferCall) : Except Error Entries := if call.secret = "" then
    .error (.runtimeError "planned handoff requires authenticated replication")
  else if call.transactionId ≤ 0 ∨ call.sourceNodeId = "" ∨ call.targetNodeId = "" then
    .error (.valueError "planned handoff identities are required")
  else if call.targetEpoch ≤ call.sourceEpoch ∨ call.targetShowNs ≤ 0 then
    .error (.valueError "planned handoff epoch or Show-Time boundary is invalid")
  else .ok (S.sign call.secret call.payload.document)

/-- The payload that `make_ready_receipt` builds from the offer. -/
def receiptPayload (call : ReceiptCall) : Except Error ReceiptPayload := do
  let transactionId ← S.conversions.int (← item call.offer "transactionId")
  let sourceNodeId ← item call.offer "sourceNodeId"
  let targetNodeId ← item call.offer "targetNodeId"
  let sourceEpoch ← S.conversions.int (← item call.offer "sourceEpoch")
  let targetEpoch ← S.conversions.int (← item call.offer "targetEpoch")
  let targetShowNs ← S.conversions.int (← item call.offer "targetShowNs")
  return {
    protocolVersion := 1
    receiptType := "target-ready"
    transactionId := transactionId
    sourceNodeId := S.conversions.str sourceNodeId
    targetNodeId := S.conversions.str targetNodeId
    sourceEpoch := sourceEpoch
    targetEpoch := targetEpoch
    targetShowNs := targetShowNs
    programReady := call.programReady
    issuedAtUnixNs := call.timeNs
    keyId := call.keyId }

def makeReadyReceipt (call : ReceiptCall) : Except Error Entries := if call.secret = "" then
    .error (.runtimeError "planned handoff requires authenticated replication")
  else (S.receiptPayload call).map fun p => S.sign call.secret p.document

/-! ## The verifiers -/

/-- The version and the common fields of a document: all are looked up before one is converted. -/
def readFields (document : Entries) : Except Error (Int × HandoffFields) := do
  let protocolVersion ← item document "protocolVersion"
  let transactionId ← item document "transactionId"
  let sourceNodeId ← item document "sourceNodeId"
  let targetNodeId ← item document "targetNodeId"
  let sourceEpoch ← item document "sourceEpoch"
  let targetEpoch ← item document "targetEpoch"
  let targetShowNs ← item document "targetShowNs"
  let issuedAtUnixNs ← item document "issuedAtUnixNs"
  let protocolVersion ← S.conversions.int protocolVersion
  let transactionId ← S.conversions.int transactionId
  let sourceEpoch ← S.conversions.int sourceEpoch
  let targetEpoch ← S.conversions.int targetEpoch
  let targetShowNs ← S.conversions.int targetShowNs
  let issuedAtUnixNs ← S.conversions.int issuedAtUnixNs
  return (protocolVersion, {
    transactionId := transactionId
    sourceNodeId := S.conversions.str sourceNodeId
    targetNodeId := S.conversions.str targetNodeId
    sourceEpoch := sourceEpoch
    targetEpoch := targetEpoch
    targetShowNs := targetShowNs
    issuedAtUnixNs := issuedAtUnixNs
    keyId := (document.lookup "keyId").map S.conversions.str })

def readOffer (offer : Entries) : Except Error OfferPayload := do
  let allowDegradedProgram ← item offer "allowDegradedProgram"
  let (protocolVersion, fields) ← S.readFields offer
  return { fields with
    protocolVersion := protocolVersion
    allowDegradedProgram := allowDegradedProgram.truthy }

def readReceipt (receipt : Entries) : Except Error ReceiptPayload := do
  let receiptType ← item receipt "receiptType"
  match ← item receipt "programReady" with
  | .bool programReady =>
    let (protocolVersion, fields) ← S.readFields receipt
    return { fields with
      protocolVersion := protocolVersion
      receiptType := S.conversions.str receiptType
      programReady := programReady }
  -- refused in the words that a conversion which fails is refused in
  | _ => throw .typeError

/-- The secret that a document is checked with. -/
def handoffSecret (secret : String) (keyset : Option HmacKeySnapshot) (document : Entries) :
    Except String String :=
  match keyset with
  | none => .ok secret
  | some keyset => keyset.resolve (document.get "keyId" .none)

/-- The last checks of both verifiers: the digest, the key and the signature. -/
def checkSignature (subject secret : String) (keyset : Option HmacKeySnapshot)
    (document payload : Entries) : Except Error (Bool × String) := do
  if ← compareDigest (S.digestOf payload) (S.textField document "digestSha256") then
    match handoffSecret secret keyset document with
    | .error reason => return (false, reason)
    | .ok secret =>
      if secret = "" then return (false, subject ++ " authentication failed")
      if ← compareDigest (S.hmac secret (S.digestOf payload)) (S.textField document "hmacSha256") then
        handoffAccepted
      else return (false, subject ++ " authentication failed")
  else return (false, subject ++ " digest mismatch")

def verifyOffer (secret : String) (keyset : Option HmacKeySnapshot) (expectedTargetNodeId : String)
    (offer : Entries) : Except Error (Bool × String) :=
  match S.readOffer offer with
  | .error e => if isMalformed e then .ok (false, "malformed planned handoff offer") else .error e
  | .ok p =>
    if p.protocolVersion ≠ 1 ∨ p.targetNodeId ≠ expectedTargetNodeId then
      .ok (false, "planned handoff target or protocol mismatch")
    else if p.transactionId ≤ 0 ∨ p.targetEpoch ≤ p.sourceEpoch ∨ p.targetShowNs ≤ 0 then
      .ok (false, "invalid planned handoff fencing facts")
    else S.checkSignature "planned handoff" secret keyset offer p.document

/-- Why the receipt is not one for this offer; fields and keys are compared as Python compares them. -/
def offerMismatch (receipt : Entries) (p : ReceiptPayload) (offer : Entries) :
    Except Error (Option String) := do
  if p.fencing.any fun (key, value) => !value.same (offer.get key .none) then
    return some "planned handoff readiness fencing mismatch"
  if !(receipt.get "keyId" .none).same (offer.get "keyId" .none) then
    return some "planned handoff readiness key mismatch"
  if p.issuedAtUnixNs < (← S.conversions.int (offer.get "issuedAtUnixNs" (.int 0))) then
    return some "planned handoff readiness predates offer"
  return none

def verifyReadyReceipt (secret : String) (keyset : Option HmacKeySnapshot)
    (expectedSourceNodeId : String) (offer receipt : Entries) : Except Error (Bool × String) :=
  match S.readReceipt receipt with
  | .error e =>
    if isMalformed e then .ok (false, "malformed planned handoff readiness receipt") else .error e
  | .ok p =>
    if p.protocolVersion ≠ 1 ∨ p.receiptType ≠ "target-ready" ∨
        p.sourceNodeId ≠ expectedSourceNodeId then
      .ok (false, "planned handoff readiness target or protocol mismatch")
    else do
      match ← S.offerMismatch receipt p offer with
      | some reason => return (false, reason)
      | none => S.checkSignature "planned handoff readiness" secret keyset receipt p.document

/-! ## What a signature stands for -/

/-- The maker that was called has signed the digest. -/
def Signs (secret digest : String) : MakerCall → Prop
  | .offer call => call.secret = secret ∧ (∃ made, S.makeOffer call = .ok made) ∧
      S.digestOf call.payload.document = digest
  | .receipt call => call.secret = secret ∧ ∃ p, S.receiptPayload call = .ok p ∧
      S.digestOf p.document = digest

/-- What the document carries as its signature has been made by a call of the log. -/
def SignedIn (log : List MakerCall) (document : Entries) : Prop :=
  ∀ secret digest, secret ≠ "" → S.textField document "hmacSha256" = S.hmac secret digest →
    ∃ call ∈ log, S.Signs secret digest call

/-- `hexdigest` returns ASCII texts, and SHA-256 is free of collisions. -/
structure HexDigests : Prop where
  injective : Function.Injective S.sha256
  sha256 : ∀ text, (S.sha256 text).toList.all (fun c => c.toNat < 128) = true
  hmac : ∀ secret digest, (S.hmac secret digest).toList.all (fun c => c.toNat < 128) = true

/-- The receipt with this payload is for the offer, which was not issued after it. -/
structure Answers (receipt : Entries) (p : ReceiptPayload) (offer : Entries) : Prop where
  fencing : ∀ field ∈ p.fencing, field.2.same (offer.get field.1 .none) = true
  keyId : (receipt.get "keyId" .none).same (offer.get "keyId" .none) = true
  issued : ∃ issued, S.conversions.int (offer.get "issuedAtUnixNs" (.int 0)) = .ok issued ∧
    issued ≤ p.issuedAtUnixNs

end AuthenticationSetup

/-! ## Payloads and documents -/

lemma offer_ne_receipt (p : OfferPayload) (q : ReceiptPayload) :
    (Value.dict p.document).canon ≠ (Value.dict q.document).canon := by
  intro h
  have htype := Value.lookup_of_canon h "receiptType"
  have hno : p.document.lookup "receiptType" = none := by
    unfold OfferPayload.document HandoffFields.key
    cases p.keyId <;> rfl
  rw [hno] at htype
  cases htype

namespace AuthenticationSetup

variable {S : AuthenticationSetup} {secret subject : String} {keyset : Option HmacKeySnapshot}
  {document payload : Entries}

lemma readFields_congr {d e : Entries} (h : ∀ key, d.lookup key = e.lookup key) :
    S.readFields d = S.readFields e := by
  simp only [readFields, item, h]

/-- What is read from two objects is the same, if the objects are and all they have is scalars. -/
lemma read_unique {α : Type} {read : Entries → Except Error α} {d e : Entries} {p q : α}
    (hcongr : (∀ key, d.lookup key = e.lookup key) → read d = read e) (hp : read d = .ok p)
    (hq : read e = .ok q) (hd : Value.canonEntries d = d) (he : Value.canonEntries e = e)
    (h : (Value.dict d).canon = (Value.dict e).canon) : p = q := by
  have hsame := hcongr fun key => by
    have hkey := Value.lookup_of_canon h key
    rwa [← Value.lookup_canonEntries, ← Value.lookup_canonEntries, hd, he] at hkey
  rw [hp, hq] at hsame
  exact Except.ok.inj hsame

variable (S) in
lemma readOffer_document (p : OfferPayload) :
    S.readOffer p.document = .ok p ∧ (∀ secret, S.readOffer (S.sign secret p.document) = .ok p) ∧
      Value.canonEntries p.document = p.document := by
  obtain ⟨⟨_, _, _, _, _, _, _, keyId⟩, _, _⟩ := p
  cases keyId <;> exact ⟨rfl, fun _ => rfl, rfl⟩

variable (S) in
lemma readReceipt_document (p : ReceiptPayload) :
    S.readReceipt p.document = .ok p ∧ (∀ secret, S.readReceipt (S.sign secret p.document) = .ok p) ∧
      Value.canonEntries p.document = p.document := by
  obtain ⟨⟨_, _, _, _, _, _, _, keyId⟩, _, _, _⟩ := p
  cases keyId <;> exact ⟨rfl, fun _ => rfl, rfl⟩

/-! ## What the verifiers accept -/

lemma compareDigest_true {a b : String} (h : compareDigest a b = .ok true) : a = b := by
  unfold compareDigest at h
  split at h
  · simpa using h
  · cases h

lemma compareDigest_self {a : String} (h : a.toList.all (fun c => c.toNat < 128) = true) :
    compareDigest a a = .ok true := by
  rw [compareDigest, if_pos h, decide_eq_true rfl]

lemma digestOf_inj (hhex : S.HexDigests) {d e : Entries} (h : S.digestOf d = S.digestOf e) :
    (Value.dict d).canon = (Value.dict e).canon :=
  dumps_inj (hhex.injective h)

lemma offer_of_digest (hhex : S.HexDigests) {p q : OfferPayload}
    (h : S.digestOf p.document = S.digestOf q.document) : p = q := by
  obtain ⟨hp, -, hpscalars⟩ := readOffer_document S p
  obtain ⟨hq, -, hqscalars⟩ := readOffer_document S q
  refine read_unique (fun h => ?_) hp hq hpscalars hqscalars (digestOf_inj hhex h)
  simp only [readOffer, item, h, readFields_congr h]

lemma receipt_of_digest (hhex : S.HexDigests) {p q : ReceiptPayload}
    (h : S.digestOf p.document = S.digestOf q.document) : p = q := by
  obtain ⟨hp, -, hpscalars⟩ := readReceipt_document S p
  obtain ⟨hq, -, hqscalars⟩ := readReceipt_document S q
  refine read_unique (fun h => ?_) hp hq hpscalars hqscalars (digestOf_inj hhex h)
  simp only [readReceipt, item, h, readFields_congr h]

lemma of_checkSignature (h : S.checkSignature subject secret keyset document payload = handoffAccepted) :
    S.digestOf payload = S.textField document "digestSha256" ∧
      ∃ key, handoffSecret secret keyset document = .ok key ∧ key ≠ "" ∧
        S.hmac key (S.digestOf payload) = S.textField document "hmacSha256" := by
  obtain ⟨digestOk, hdigest, h⟩ := bind_eq_ok.mp h
  cases digestOk with
  | false => cases h
  | true =>
    refine ⟨compareDigest_true hdigest, ?_⟩
    rw [if_pos rfl] at h
    split at h
    · cases h
    · rename_i key hkey
      split_ifs at h with hempty
      · cases h
      · obtain ⟨signatureOk, hsignature, h⟩ := bind_eq_ok.mp h
        cases signatureOk with
        | false => cases h
        | true => exact ⟨key, hkey, hempty, compareDigest_true hsignature⟩

lemma checkSignature_sign (hhex : S.HexDigests) {key : String} (hempty : key ≠ "")
    (hkey : handoffSecret secret keyset (S.sign key payload) = .ok key)
    (hdigest : payload.lookup "digestSha256" = none) (hsignature : payload.lookup "hmacSha256" = none) :
    S.checkSignature subject secret keyset (S.sign key payload) payload = handoffAccepted := by
  have hd : S.textField (S.sign key payload) "digestSha256" = S.digestOf payload := by
    rw [textField, sign, List.lookup_append, hdigest]
    rfl
  have hs : S.textField (S.sign key payload) "hmacSha256" = S.hmac key (S.digestOf payload) := by
    rw [textField, sign, List.lookup_append, hsignature]
    rfl
  have hsame : compareDigest (S.digestOf payload) (S.digestOf payload) = .ok true :=
    compareDigest_self (hhex.sha256 _)
  simp only [checkSignature, hd, hs, hkey, hsame, compareDigest_self (hhex.hmac _ _), ok_bind, if_true,
    if_neg hempty]

lemma offer_checked {target : String} (h : S.verifyOffer secret keyset target document = handoffAccepted) :
    ∃ p, S.readOffer document = .ok p ∧
      S.checkSignature "planned handoff" secret keyset document p.document = handoffAccepted := by
  unfold verifyOffer at h
  split at h
  · split_ifs at h <;> cases h
  · split_ifs at h
    · cases h
    · cases h
    · exact ⟨_, ‹_›, h⟩

lemma receipt_checked {source : String} {offer : Entries}
    (h : S.verifyReadyReceipt secret keyset source offer document = handoffAccepted) :
    ∃ p, S.readReceipt document = .ok p ∧ S.Answers document p offer ∧
      S.checkSignature "planned handoff readiness" secret keyset document p.document =
        handoffAccepted := by
  unfold verifyReadyReceipt at h
  split at h
  · split_ifs at h <;> cases h
  · rename_i p hread
    split_ifs at h
    · cases h
    · obtain ⟨mismatch, hmismatch, h⟩ := bind_eq_ok.mp h
      cases mismatch with
      | some reason => cases h
      | none =>
        refine ⟨p, hread, ?_, h⟩
        unfold offerMismatch at hmismatch
        split_ifs at hmismatch with hfencing hkey
        · cases hmismatch
        · cases hmismatch
        · obtain ⟨issued, hissued, hmismatch⟩ := bind_eq_ok.mp hmismatch
          split_ifs at hmismatch with htime
          · cases hmismatch
          · refine ⟨?_, by simpa using hkey, issued, hissued, not_lt.mp htime⟩
            simpa using hfencing

/-! ## What the makers return -/

lemma handoff_secret_ne {call : OfferCall} {made : Entries} (h : S.makeOffer call = .ok made) :
    call.secret ≠ "" ∧ ¬(call.transactionId ≤ 0 ∨ call.targetEpoch ≤ call.sourceEpoch ∨
      call.targetShowNs ≤ 0) ∧ made = S.sign call.secret call.payload.document := by
  unfold makeOffer at h
  split_ifs at h with hsecret hidentity hepoch
  cases h
  refine ⟨hsecret, ?_, rfl⟩
  rintro (htransaction | hlater)
  · exact hidentity (.inl htransaction)
  · exact hepoch hlater

lemma verifyOffer_made (hhex : S.HexDigests) {call : OfferCall} {made : Entries}
    (h : S.makeOffer call = .ok made) (hkey : handoffSecret secret keyset made = .ok call.secret) :
    S.verifyOffer secret keyset call.targetNodeId made = handoffAccepted := by
  obtain ⟨hsecret, hfacts, rfl⟩ := handoff_secret_ne h
  unfold verifyOffer
  rw [(readOffer_document S call.payload).2.1]
  dsimp only
  rw [if_neg (by rintro (h | h) <;> exact h rfl)]
  refine (if_neg hfacts).trans (checkSignature_sign hhex hsecret hkey ?_ ?_) <;>
  · unfold OfferPayload.document HandoffFields.key
    cases call.payload.keyId <;> rfl

/-- The payload for an offer with these fields. -/
def answer (call : ReceiptCall) (f : HandoffFields) : ReceiptPayload := { f with
    protocolVersion := 1
    receiptType := "target-ready"
    programReady := call.programReady
    issuedAtUnixNs := call.timeNs
    keyId := call.keyId }

lemma receiptPayload_of_offer {call : ReceiptCall} {o : OfferCall}
    (ho : call.offer = S.sign o.secret o.payload.document) :
    S.receiptPayload call = .ok (answer call o.toHandoffFields) := by
  unfold receiptPayload
  rw [ho]
  rfl

lemma offerMismatch_of_offer {call : ReceiptCall} {o : OfferCall} (hid : call.keyId = o.keyId)
    (htime : o.issuedAtUnixNs ≤ call.timeNs) (ho : call.offer = S.sign o.secret o.payload.document) :
    S.offerMismatch (S.sign call.secret (answer call o.toHandoffFields).document)
      (answer call o.toHandoffFields) call.offer = .ok none := by
  have hfields : ((answer call o.toHandoffFields).fencing.any fun (key, value) =>
      !value.same ((S.sign o.secret o.payload.document).get key .none)) = false := by
    simp [HandoffFields.fencing, Entries.get, sign, OfferPayload.document, List.lookup, answer,
      OfferCall.payload, Value.same, Value.number?]
  have hkeys : ((S.sign call.secret (answer call o.toHandoffFields).document).get "keyId" .none).same
      ((S.sign o.secret o.payload.document).get "keyId" .none) = true := by
    obtain ⟨⟨_, _, _, _, _, _, _, keyId⟩, _, _⟩ := o
    obtain ⟨_, _, _, _, _⟩ := call
    cases hid
    cases keyId <;> simp [Entries.get, sign, OfferPayload.document, ReceiptPayload.document, HandoffFields.fencing,
      HandoffFields.key, List.lookup, answer, OfferCall.payload, Value.same, Value.number?]
  have hissued : S.conversions.int ((S.sign o.secret o.payload.document).get "issuedAtUnixNs" (.int 0)) =
      .ok o.issuedAtUnixNs := rfl
  have hlater : ¬(answer call o.toHandoffFields).issuedAtUnixNs < o.issuedAtUnixNs := not_lt.mpr htime
  unfold offerMismatch
  rw [ho, hfields, hkeys, hissued]
  simp only [Bool.false_eq_true, if_false, Bool.not_true, ok_bind, if_neg hlater]
  rfl

lemma verifyReadyReceipt_made (hhex : S.HexDigests) {o : OfferCall} {call : ReceiptCall} {receipt : Entries}
    (ho : S.makeOffer o = .ok call.offer) (h : S.makeReadyReceipt call = .ok receipt)
    (hid : call.keyId = o.keyId) (htime : o.issuedAtUnixNs ≤ call.timeNs)
    (hkey : handoffSecret secret keyset receipt = .ok call.secret) :
    S.verifyReadyReceipt secret keyset o.sourceNodeId call.offer receipt = handoffAccepted := by
  obtain ⟨-, -, hoffer⟩ := handoff_secret_ne ho
  unfold makeReadyReceipt at h
  split_ifs at h with hsecret
  rw [receiptPayload_of_offer hoffer] at h
  have hmismatch := offerMismatch_of_offer hid htime hoffer
  generalize hp : answer call o.toHandoffFields = p at h hmismatch
  obtain rfl : S.sign call.secret p.document = receipt := Except.ok.inj h
  have hfits : ¬(p.protocolVersion ≠ 1 ∨ p.receiptType ≠ "target-ready" ∨
      p.sourceNodeId ≠ o.sourceNodeId) := by
    subst hp
    rintro (h | h | h) <;> exact h rfl
  unfold verifyReadyReceipt
  rw [(readReceipt_document S p).2.1]
  dsimp only
  rw [if_neg hfits, hmismatch]
  refine checkSignature_sign hhex hsecret hkey ?_ ?_ <;>
  · unfold ReceiptPayload.document HandoffFields.key
    cases p.keyId <;> rfl

end AuthenticationSetup

/-- A digest without collisions: as many letters as the code of the texts. -/
def tally (texts : List (List ℕ)) : String := String.ofList (List.replicate (Encodable.encode texts) 'a')

lemma tally_injective : Function.Injective tally := fun a b h => by
  have hlength := congrArg String.length h
  simpa [tally] using hlength

lemma tally_ascii (texts : List (List ℕ)) : (tally texts).toList.all (fun c => c.toNat < 128) = true := by
  rw [tally, String.toList_ofList, List.all_replicate]
  split <;> rfl

def codes (text : String) : List ℕ := text.toList.map Char.toNat

lemma codes_injective : Function.Injective codes := fun _ _ h =>
  String.toList_inj.mp (List.map_injective_iff.mpr (fun _ _ => Char.toNat_inj.mp) h)

def idealSetup : AuthenticationSetup where
  conversions := plainConversions
  floats := .fractions
  sha256 text := tally [codes text]
  hmac secret digest := tally [codes secret, codes digest]

lemma idealSetup_hex : idealSetup.HexDigests where
  injective _ _ h := codes_injective (List.singleton_injective (tally_injective h))
  sha256 _ := tally_ascii _
  hmac _ _ := tally_ascii _

def exampleOffer : OfferCall where
  transactionId := 7
  sourceNodeId := "stage-a"
  targetNodeId := "stage-b"
  sourceEpoch := 3
  targetEpoch := 4
  targetShowNs := 5000
  issuedAtUnixNs := 100
  keyId := none
  allowDegradedProgram := false
  secret := "stage-secret"

end StageForge
