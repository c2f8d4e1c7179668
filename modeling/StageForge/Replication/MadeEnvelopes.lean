import StageForge.Handoff.OffersAndReceipts

/-!
# What is made is accepted

An envelope is made under the key that is active then, and verified under the keyring of another node
and another time.
-/

namespace StageForge

open Python

namespace AuthenticationSetup

variable {S : AuthenticationSetup} {keyset : HmacKeySnapshot}

lemma readPayload_document (p : ReplicationPayload) (more : List (String × Value))
    (hversion : p.protocolVersion = if p.executionTelemetry.isSome then 2 else 1)
    (hmore : more.lookup "keyId" = none ∧ more.lookup "executionTelemetry" = none) :
    S.readPayload (p.document ++ more) = .ok (some p) := by
  obtain ⟨version, source, epoch, sequence, revision, snapshot, telemetry, keyId⟩ := p
  obtain ⟨hkey, htelemetry⟩ := hmore
  cases telemetry <;> cases keyId <;> cases hversion <;>
    simp [readPayload, ReplicationPayload.document, item, telemetryField, List.lookup_cons, hkey, htelemetry,
      Conversions.int, Conversions.str, bind, Except.bind, pure, Except.pure, Value.isDict, Value.entries]

lemma lookup_signature (p : ReplicationPayload) :
    p.document.lookup "digestSha256" = none ∧ p.document.lookup "hmacSha256" = none := by
  unfold ReplicationPayload.document
  cases p.executionTelemetry <;> cases p.keyId <;> exact ⟨rfl, rfl⟩

lemma textField_append {p : ReplicationPayload} {more : List (String × Value)} {key text : String}
    (hfield : p.document.lookup key = none) (hmore : more.lookup key = some (.str text)) :
    S.textField (p.document ++ more) key = text := by
  rw [textField, List.lookup_append, hfield, Option.none_or, hmore]
  rfl

/-- **An envelope is accepted where its key is known.** What `make_envelope` makes passes `verify_envelope`
under every keyring, whatever has been rotated, in which the envelope's key id still gives its secret, if
and only if the snapshot has a revision. -/
theorem made_envelope_accepted_iff {snapshot envelope : List (String × Value)} {nodeId secret : String}
    {epoch sequence : Int} {executionTelemetry : Option (List (String × Value))} {keyId : Option String}
    (hhex : S.HexDigests) (hhmac : ∀ key text, S.hmac key text ≠ "")
    (hmake : S.makeEnvelope snapshot nodeId epoch sequence secret executionTelemetry keyId = .ok envelope)
    (hsecret : keyset.authSecret envelope = .ok secret) :
    S.Accepts keyset envelope ↔ (snapshot.lookup "revision").isSome = true := by
  obtain ⟨revision, hrevision, hmake⟩ := bind_eq_ok.mp hmake
  obtain ⟨p, hversion, hsnapshot, rfl, rfl⟩ : ∃ p : ReplicationPayload,
      p.protocolVersion = (if p.executionTelemetry.isSome then 2 else 1) ∧ p.snapshot = .dict snapshot ∧
      p.revision = revision ∧ envelope = p.document ++ [("digestSha256", .str (S.digest p)),
        ("hmacSha256", .str (if secret = "" then "" else S.hmac secret (S.digest p)))] := by
    cases hmake
    exact ⟨_, rfl, rfl, rfl, rfl⟩
  have hread := S.readPayload_document p [("digestSha256", .str (S.digest p)),
    ("hmacSha256", .str (if secret = "" then "" else S.hmac secret (S.digest p)))] hversion ⟨rfl, rfl⟩
  have hstamped : S.snapshotRevision p.snapshot = .ok p.revision ↔ (snapshot.lookup "revision").isSome = true := by
    rw [hsnapshot]
    change S.conversions.int ((snapshot.lookup "revision").getD (.int (-1))) = _ ↔ _
    cases hlookup : snapshot.lookup "revision" with
    | some v =>
      rw [hlookup] at hrevision
      exact iff_of_true hrevision rfl
    | none =>
      rw [hlookup] at hrevision
      have hzero : 0 = p.revision := Except.ok.inj hrevision
      refine iff_of_false (fun hstamp => ?_) (by simp)
      have hminus : -1 = p.revision := Except.ok.inj hstamp
      omega
  constructor
  · intro haccepts
    obtain ⟨q, hq⟩ := accepts_iff.mp haccepts
    obtain rfl := Option.some.inj (Except.ok.inj (hread.symm.trans hq.read))
    exact hstamped.mp hq.revision
  · intro hrevision
    refine accepts_iff.mpr ⟨p, hread, ?_, by rw [hsnapshot]; rfl, ?_, ⟨secret, hsecret, ?_⟩,
      hstamped.mpr hrevision⟩
    · rw [hversion]
      split <;> simp
    · rw [textField_append (lookup_signature p).1 rfl]
      exact compareDigest_self (hhex.sha256 _)
    · rw [signed, textField_append (lookup_signature p).2 rfl]
      split_ifs with hempty
      · rfl
      · exact absurd ‹_› (hhmac _ _)
      · exact compareDigest_self (hhex.hmac _ _)

/-- The active key was replaced after the envelope was made with the older one. -/
def rotatedKeys : HmacKeySnapshot where
  activeKeyId := some "key-2"
  keys := [("key-1", "stage-secret"), ("key-2", "next-secret")]
  keyringMode := true

theorem made_envelope_accepted_rotated : ∃ envelope,
    idealSetup.makeEnvelope [("revision", .int 5)] "stage-a" 1 1 "stage-secret" none (some "key-1") =
      .ok envelope ∧ idealSetup.Accepts rotatedKeys envelope := by
  have hhmac : ∀ key text, idealSetup.hmac key text ≠ "" := fun key text h => by
    have hlength := congrArg String.length h
    simp [idealSetup, tally] at hlength
  exact ⟨_, rfl, (@made_envelope_accepted_iff idealSetup rotatedKeys [("revision", .int 5)] _ "stage-a"
    "stage-secret" 1 1 none (some "key-1") idealSetup_hex hhmac rfl rfl).mpr rfl⟩

end AuthenticationSetup

end StageForge
