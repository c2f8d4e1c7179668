import StageForge.Library.TransitionSystem
import StageForge.Session.Channel

/-!
# Replay across checkpoints

A channel refuses a frame whose sequence number is not above the last one it has accepted, and numbers
its own frames upwards; so in a run of `encode`, `decode` and `rotate` no frame is accepted twice and
no number is used twice.
-/

namespace StageForge

open Bytes Python

namespace AuthenticatedSessionChannel

variable {S : ChannelSetup} {c k : AuthenticatedSessionChannel} {document : List (String × Value)}

/-! ## Restoring a checkpoint of the channel -/

/-- The channel with epochs and sequences of another state of it. -/
def resume (c k : AuthenticatedSessionChannel) : AuthenticatedSessionChannel := { c with
    keyEpoch := k.keyEpoch
    previousKeyEpoch := k.previousKeyEpoch
    previousAcceptUntil := k.previousAcceptUntil
    outboundSequence := k.outboundSequence
    inboundSequence := k.inboundSequence }

/-- Two objects with the same value for each key. -/
def SameObject (d e : List (String × Value)) : Prop := ∀ key, d.lookup key = e.lookup key

lemma lookup_signedFields {key : String} (hkey : key ≠ "hmacSha256") :
    (signedFields document).lookup key = document.lookup key := by
  induction document with
  | nil => rfl
  | cons entry document ih =>
    obtain ⟨k, v⟩ := entry
    by_cases hk : k = "hmacSha256"
    · subst hk
      have hskip : signedFields (("hmacSha256", v) :: document) = signedFields document := by
        simp [signedFields]
      have hne : (key == "hmacSha256") = false := beq_eq_false_iff_ne.mpr hkey
      rw [hskip, ih, List.lookup_cons, hne]
    · have hkeep : signedFields ((k, v) :: document) = (k, v) :: signedFields document := by
        simp [signedFields, hk]
      rw [hkeep, List.lookup_cons, List.lookup_cons, ih]

lemma assign_of_lookup {payload : List (String × Value)} {key : String} {n : ℤ}
    {set : ℤ → AuthenticatedSessionChannel → AuthenticatedSessionChannel}
    (h : payload.lookup key = some (.int n)) : assign S payload key set c = .ok (set n c) := by
  simp only [assign, Value.item, h]
  rfl

lemma hex_ascii (b : ByteString) : (hex b).toList.all (fun c => c.toNat < 128) = true := by
  have hdigit : ∀ n < 16, (Nat.digitChar n).toNat < 128 := by decide
  rw [List.all_eq_true, hex, String.toList_ofList]
  intro c hc
  obtain ⟨byte, -, hbyte⟩ := List.mem_flatMap.mp hc
  have hlt : byte.toNat < 256 := byte.toNat_lt
  have hcases : c = Nat.digitChar (byte.toNat / 16) ∨ c = Nat.digitChar (byte.toNat % 16) := by
    simpa using hbyte
  rcases hcases with rfl | rfl
  · exact decide_eq_true (hdigit _ (by omega))
  · exact decide_eq_true (hdigit _ (by omega))

lemma mapM_int (C : Conversions) (values : List ℤ) :
    (values.map Value.int).mapM C.int = .ok values := by
  induction values with
  | nil => rfl
  | cons n values ih =>
    rw [List.map_cons, List.mapM_cons, ih]
    rfl

/-- **A checkpoint of a state of the channel is admitted.** -/
theorem checkDocument_checkpoint (hroot : k.rootKey = c.rootKey) (hsession : k.sessionId = c.sessionId)
    (htranscript : k.transcriptSha256 = c.transcriptSha256) (hallowed : k.allowed = c.allowed) :
    c.checkDocument S (k.checkpoint S) = .ok () := by
  have hsigned : signedFields (k.checkpoint S) = k.checkpointPayload := rfl
  have htag : (k.checkpoint S).lookup "hmacSha256" =
      some (.str (k.checkpointTag S k.checkpointPayload)) := rfl
  have hsame : c.checkpointTag S k.checkpointPayload = k.checkpointTag S k.checkpointPayload := by
    rw [checkpointTag, checkpointTag, hroot]
  have hequal : AuthenticationSetup.compareDigest (k.checkpointTag S k.checkpointPayload)
      (k.checkpointTag S k.checkpointPayload) = .ok true := by
    have hascii : (k.checkpointTag S k.checkpointPayload).toList.all
        (fun c => c.toNat < 128) = true := hex_ascii _
    rw [AuthenticationSetup.compareDigest, if_pos hascii, decide_eq_true rfl]
  have hidentity : k.checkpointPayload.lookup "sessionId" = some (.str c.sessionId) ∧
      k.checkpointPayload.lookup "transcriptSha256" = some (.str c.transcriptSha256) := by
    rw [← hsession, ← htranscript]
    exact ⟨rfl, rfl⟩
  have hscope : (k.allowed.sort (· ≤ ·)).toFinset = c.allowed := by
    rw [Finset.sort_toFinset, hallowed]
  have hvalues : ((k.checkpointPayload.lookup "allowedCapabilities").getD (.list [])).iterate =
      .ok ((k.allowed.sort (· ≤ ·)).map Value.int) := rfl
  simp only [checkDocument, bind_eq_ok, require_eq_ok, exists_const]
  refine ⟨true, ?_, rfl, ?_, _, ?_, _, mapM_int _ _, hscope⟩
  · rw [htag, hsigned, hsame]
    exact hequal
  · rw [hsigned]
    exact hidentity
  · rw [hsigned]
    exact hvalues

/-- **Restoring a checkpoint that is admitted** leads back to the state of which it was taken. -/
theorem restore_checkpoint (hallowed : c.checkDocument S document = .ok ())
    (h : SameObject document (k.checkpoint S)) :
    c.restore S document = (c.resume k, .ok ()) := by
  have hfield : ∀ key n, key ≠ "hmacSha256" → (k.checkpoint S).lookup key = some (.int n) →
        (signedFields document).lookup key = some (.int n) := by
    intro key n hkey hvalue
    rw [lookup_signedFields hkey, h key, hvalue]
  simp only [restore, hallowed, assignments, Script.run,
    assign_of_lookup (hfield "keyEpoch" k.keyEpoch (by decide) rfl),
    assign_of_lookup (hfield "previousKeyEpoch" k.previousKeyEpoch (by decide) rfl),
    assign_of_lookup (hfield "previousAcceptUntil" k.previousAcceptUntil (by decide) rfl),
    assign_of_lookup (hfield "outboundSequence" k.outboundSequence (by decide) rfl),
    assign_of_lookup (hfield "inboundSequence" k.inboundSequence (by decide) rfl)]
  rfl

end AuthenticatedSessionChannel

/-! ## Histories -/

inductive ChannelCall
  | encode (capability : ℤ) (payload : ByteString)
  | decode (frame : ByteString)
  | rotate (newEpoch : ℤ)
  | checkpoint
  | restore (document : List (String × Value))

/-- A channel, the states of which checkpoints were taken, the frames that it has accepted, and the
epochs and sequence numbers of those that it has sent. -/
structure ChannelHistory where
  channel : AuthenticatedSessionChannel
  issued : List AuthenticatedSessionChannel := []
  received : List ByteString := []
  sent : List (ℤ × ℤ) := []
  deriving DecidableEq

namespace ChannelHistory

variable (S : ChannelSetup)

def step (s : ChannelHistory) : ChannelCall → Option ChannelHistory
  | .encode capability payload =>
    let result := s.channel.encode S capability payload
    some { s with
        channel := result.1
        sent := match result.2 with
          | .ok _ => s.sent ++ [(result.1.keyEpoch, result.1.outboundSequence)]
          | .error _ => s.sent }
  | .decode frame =>
    let result := s.channel.decode S frame
    some { s with
        channel := result.1
        received := match result.2 with
          | .ok _ => s.received ++ [frame]
          | .error _ => s.received }
  | .rotate newEpoch => some { s with channel := (s.channel.rotate newEpoch).1 }
  | .checkpoint => some { s with issued := s.issued ++ [s.channel] }
  | .restore document => some { s with channel := (s.channel.restore S document).1 }

open AuthenticatedSessionChannel

/-- `restore` accepts checkpoints of this channel only. -/
def Genuine (s : ChannelHistory) : ChannelCall → Prop
  | .restore document => s.channel.checkDocument S document = .ok () →
      ∃ k ∈ s.issued, SameObject document (k.checkpoint S)
  | _ => True

def NotBehind (s : ChannelHistory) : ChannelCall → Prop
  | .restore document => s.channel.checkDocument S document = .ok () →
      ∃ k ∈ s.issued, SameObject document (k.checkpoint S) ∧
        s.channel.outboundSequence ≤ k.outboundSequence ∧
        s.channel.inboundSequence ≤ k.inboundSequence
  | _ => True

/-- Nothing repeats, and the counters are not below what they have counted. -/
structure Unrepeated (s : ChannelHistory) : Prop where
  received : s.received.Nodup
  sent : s.sent.Nodup
  inbound : ∀ frame ∈ s.received, ((header frame).sequence : ℤ) ≤ s.channel.inboundSequence
  outbound : ∀ pair ∈ s.sent, pair.2 ≤ s.channel.outboundSequence

variable {S} {s t : ChannelHistory} {call : ChannelCall}

lemma Unrepeated.of_le (channel : AuthenticatedSessionChannel) (h : s.Unrepeated)
    (houtbound : s.channel.outboundSequence ≤ channel.outboundSequence)
    (hinbound : s.channel.inboundSequence ≤ channel.inboundSequence) :
    Unrepeated { s with channel := channel } where
  received := h.received
  sent := h.sent
  inbound frame hframe := (h.inbound frame hframe).trans hinbound
  outbound pair hpair := (h.outbound pair hpair).trans houtbound

lemma Unrepeated.encode {capability : ℤ} {payload : ByteString} (h : s.Unrepeated)
    (hstep : step S s (.encode capability payload) = some t) : t.Unrepeated := by
  cases hstep
  cases hresult : (s.channel.encode S capability payload).2 with
  | error e =>
    rcases encode_state S s.channel capability payload with hsame | hnext
    · exact h.of_le _ (by rw [hsame]) (by rw [hsame])
    · exact h.of_le _ (by rw [hnext]; exact Int.le_add_one (le_refl _)) (by rw [hnext])
  | ok frame =>
    obtain ⟨-, -, -, hnext⟩ := encode_sends hresult
    have hup := h.of_le (s.channel.encode S capability payload).1
      (by rw [hnext]; exact Int.le_add_one (le_refl _)) (by rw [hnext])
    refine ⟨hup.received, ?_, hup.inbound, ?_⟩
    · refine List.Nodup.append h.sent (List.nodup_singleton _) ?_
      intro pair hpair hnew
      have hold := h.outbound pair hpair
      rw [List.mem_singleton.mp hnew, hnext] at hold
      simp only at hold
      omega
    · intro pair hpair
      rcases List.mem_append.mp hpair with hold | hnew
      · exact hup.outbound pair hold
      · rw [List.mem_singleton.mp hnew]

lemma Unrepeated.decode {frame : ByteString} (h : s.Unrepeated)
    (hstep : step S s (.decode frame) = some t) : t.Unrepeated := by
  cases hstep
  cases hresult : (s.channel.decode S frame).2 with
  | error e =>
    have hsame := decode_refuses hresult
    exact h.of_le _ (by rw [hsame]) (by rw [hsame])
  | ok d =>
    obtain ⟨hadmits, -, hnext⟩ := decode_accepts hresult
    have hup := h.of_le (s.channel.decode S frame).1 (by rw [hnext])
      (by rw [hnext]; exact hadmits.sequence.le)
    refine ⟨?_, hup.sent, ?_, hup.outbound⟩
    · refine List.Nodup.append h.received (List.nodup_singleton _) ?_
      intro other hother hnew
      have hold := h.inbound other hother
      rw [List.mem_singleton.mp hnew] at hold
      exact absurd hold (not_le.mpr hadmits.sequence)
    · intro other hother
      rcases List.mem_append.mp hother with hold | hnew
      · exact hup.inbound other hold
      · rw [List.mem_singleton.mp hnew, hnext]

lemma Unrepeated.step (h : s.Unrepeated) (hok : NotBehind S s call)
    (hstep : step S s call = some t) : t.Unrepeated := by
  cases call with
  | encode capability payload => exact h.encode hstep
  | decode frame => exact h.decode hstep
  | rotate newEpoch =>
    cases hstep
    rcases rotate_state s.channel newEpoch with hsame | ⟨-, hnext⟩
    · exact h.of_le _ (by rw [hsame]) (by rw [hsame])
    · exact h.of_le _ (by rw [hnext]) (by rw [hnext])
  | checkpoint =>
    cases hstep
    exact ⟨h.received, h.sent, h.inbound, h.outbound⟩
  | restore document =>
    cases hstep
    cases hallowed : s.channel.checkDocument S document with
    | error e =>
      have hsame : (s.channel.restore S document).1 = s.channel := by
        simp only [restore, hallowed]
      exact h.of_le _ (by rw [hsame]) (by rw [hsame])
    | ok u =>
      obtain ⟨k, -, hdocument, houtbound, hinbound⟩ := hok hallowed
      have hresumed := restore_checkpoint (c := s.channel) hallowed hdocument
      exact h.of_le _ (by rw [hresumed]; exact houtbound) (by rw [hresumed]; exact hinbound)

end ChannelHistory

section

open TransitionSystem

variable {S : ChannelSetup} {c : AuthenticatedSessionChannel} {calls : List ChannelCall}
  {t : ChannelHistory}

/-- **Nothing repeats** in a run that restores no checkpoint behind the channel: no frame is accepted
twice, and no two frames are sent with the same epoch and number. -/
theorem no_replay
    (h : Reaches (ChannelHistory.step S) (ChannelHistory.NotBehind S) { channel := c } calls t) :
    t.received.Nodup ∧ t.sent.Nodup := by
  have hinv : t.Unrepeated := by
    refine h.invariant (I := ChannelHistory.Unrepeated) ?_ fun v call w hv hok hstep =>
      hv.step hok hstep
    exact ⟨List.nodup_nil, List.nodup_nil, fun _ h => absurd h List.not_mem_nil,
      fun _ h => absurd h List.not_mem_nil⟩
  exact ⟨hinv.received, hinv.sent⟩

/-! ### Examples -/

def exampleTranscript : String := "aaaaaaaaaaaaaaaaaaaaaaaaaaaaaaaaaaaaaaaaaaaaaaaaaaaaaaaaaaaaaaaa"

/-- A channel with the root key `root-key`, before its first frame. -/
def exampleChannel (sendDirection receiveDirection : String) : AuthenticatedSessionChannel where
  rootKey := utf8 "root-key"
  sessionId := "00112233445566778899aabbccddeeff"
  sessionBytes := bigEndian 16 0x00112233445566778899aabbccddeeff
  transcriptSha256 := exampleTranscript
  allowed := {100, 200}
  sendDirection := sendDirection
  receiveDirection := receiveDirection
  keyEpoch := 1
  rotationGraceFrames := 32

/-- The first frame of epoch 1 with capability 100 and the payload `hello`, without its tag. -/
def helloMessage : ByteString := bigEndian 24 0x555050460100005400112233445566778899aabbccddeeff ++
    bigEndian 24 0x000000000000000100000000000000010000000000000064 ++
    bigEndian 9 0x0000000568656c6c6f

/-- The canonical text of a checkpoint that was taken before the first frame. -/
def firstCheckpointText : String := "\x7b\"allowedCapabilities\":[100,200]," ++
  "\"documentType\":\"org.upp.session-channel-checkpoint\",\"inboundSequence\":0," ++
  "\"keyEpoch\":1,\"outboundSequence\":0,\"previousAcceptUntil\":0,\"previousKeyEpoch\":0," ++
  "\"schemaVersion\":1,\"sessionId\":\"00112233445566778899aabbccddeeff\"," ++
  "\"transcriptSha256\":\"" ++ exampleTranscript ++ "\"\x7d"

/-- The keys of epoch 1, in both directions and for a single one. -/
def exampleKeys1 : List (String × ByteString) :=
  [("a2b", bigEndian 32 0x2047fa24670dd3f4b2595b7775d7bd529743be176e2f10e1bafea0dd25f55c3a),
    ("b2a", bigEndian 32 0x61f7ec465a8f60df08e5db0338fdc51c5fcd7d8fc375c03e9a3f81f55b7aec15),
    ("both", bigEndian 32 0x0e25c7bc01708f0cae24cdcf73a6512b6741e54a5c42ff1347ece97121de0a59)]

def helloTags : List (String × ByteString) :=
  [("a2b", bigEndian 32 0xe4e95110d4ad5578e49e8db2d4344ac6032252785da0757d300d059497a4e54b),
    ("b2a", bigEndian 32 0xadb345292beebaba0076d651dd305e8174b5e133f96abd2685bceaf712796912),
    ("both", bigEndian 32 0xe829deecddea65cee2388ba7ee5c776b996808a893a30fbbe2fc019883a9543b)]

/-- HMAC-SHA256 of the contexts, frames and checkpoints of the examples. -/
def exampleTags : List ((ByteString × ByteString) × ByteString) := (exampleKeys1.map fun key =>
    ((utf8 "root-key", keyContext (bigEndian 32 (0xaa * ((256 ^ 32 - 1) / 255))) 1 key.1), key.2)) ++
  (exampleKeys1.zip helloTags).map (fun pair => ((pair.1.2, helloMessage), pair.2.2)) ++
  [((utf8 "root-key", utf8 firstCheckpointText),
    bigEndian 32 0xd020b157f258dd04672d67074820e71e7ee9cc563df51ea3a2cc3ab6e4cf9b7a)]

def exampleChannelSetup : ChannelSetup where
  conversions := exampleAuthentication.conversions
  hmac key message := (exampleTags.lookup (key, message)).getD (List.replicate 32 0)
  canonical _ := utf8 firstCheckpointText

lemma exampleChannelSetup_length (key m : ByteString) :
    (exampleChannelSetup.hmac key m).length = 32 := by
  have htags : ∀ entry ∈ exampleTags, entry.2.length = 32 := by decide +kernel
  show ((exampleTags.lookup (key, m)).getD (List.replicate 32 0)).length = 32
  cases hlookup : exampleTags.lookup (key, m) with
  | none => rfl
  | some tag =>
    obtain ⟨before, after, hentries, -⟩ := List.lookup_eq_some_iff.mp hlookup
    refine htags ((key, m), tag) ?_
    rw [hentries]
    exact List.mem_append_right _ List.mem_cons_self

def helloFrame (direction : String) : ByteString :=
  helloMessage.take prefixSize ++ (helloTags.lookup direction).getD [] ++
    helloMessage.drop prefixSize

/-- A checkpoint that was taken before the first frame. -/
def firstCheckpoint : List (String × Value) :=
  (exampleChannel "a2b" "b2a").checkpoint exampleChannelSetup

def exampleHistory (outbound inbound : ℤ) (accepted : ℕ) (received : List ByteString)
    (sent : List (ℤ × ℤ)) : ChannelHistory where
  channel := { exampleChannel "a2b" "b2a" with
      outboundSequence := outbound
      inboundSequence := inbound
      accepted := accepted }
  issued := [exampleChannel "a2b" "b2a"]
  received := received
  sent := sent

lemma firstCheckpoint_restored (outbound inbound : ℤ) (accepted : ℕ) (received : List ByteString)
    (sent : List (ℤ × ℤ)) :
    ChannelHistory.step exampleChannelSetup
        (exampleHistory outbound inbound accepted received sent) (.restore firstCheckpoint) =
      some (exampleHistory 0 0 accepted received sent) := by
  have hallowed : (exampleHistory outbound inbound accepted received sent).channel.checkDocument
      exampleChannelSetup firstCheckpoint = .ok () :=
    AuthenticatedSessionChannel.checkDocument_checkpoint rfl rfl rfl rfl
  have hrestore := AuthenticatedSessionChannel.restore_checkpoint hallowed (fun _ => rfl)
  simp only [ChannelHistory.step, hrestore]
  rfl

theorem no_replay_restored : let t := exampleHistory 1 1 1 [helloFrame "b2a"] [(1, 1)]
    t.received.Nodup ∧ t.sent.Nodup := by
  have hnotBehind : ChannelHistory.NotBehind exampleChannelSetup (exampleHistory 0 0 0 [] [])
      (.restore firstCheckpoint) :=
    fun _ => ⟨_, List.mem_singleton_self _, fun _ => rfl, by decide, by decide⟩
  have htaken : Reaches (ChannelHistory.step exampleChannelSetup)
      (ChannelHistory.NotBehind exampleChannelSetup) { channel := exampleChannel "a2b" "b2a" }
      ([] ++ [.checkpoint]) (exampleHistory 0 0 0 [] []) :=
    Reaches.snoc .refl trivial (by decide +kernel)
  have hrestored := htaken.snoc hnotBehind (firstCheckpoint_restored 0 0 0 [] [])
  have hsent := hrestored.snoc (a := ChannelCall.encode 100 (utf8 "hello"))
    (u := exampleHistory 1 0 0 [] [(1, 1)]) trivial (by decide +kernel)
  have hreceived := hsent.snoc (a := ChannelCall.decode (helloFrame "b2a"))
    (u := exampleHistory 1 1 1 [helloFrame "b2a"] [(1, 1)]) trivial (by decide +kernel)
  exact no_replay hreceived

/-- **A frame is accepted twice** and a number is used twice, if a checkpoint of the channel is
restored that was taken before. -/
theorem replay_after_restore : ∃ (t : ChannelHistory) (calls : List ChannelCall),
      Reaches (ChannelHistory.step exampleChannelSetup) (ChannelHistory.Genuine exampleChannelSetup)
        { channel := exampleChannel "a2b" "b2a" } calls t ∧
        ¬ t.received.Nodup ∧ ¬ t.sent.Nodup := by
  have hgenuine : ChannelHistory.Genuine exampleChannelSetup
      (exampleHistory 1 1 1 [helloFrame "b2a"] [(1, 1)]) (.restore firstCheckpoint) :=
    fun _ => ⟨_, List.mem_singleton_self _, fun _ => rfl⟩
  have htaken : Reaches (ChannelHistory.step exampleChannelSetup)
      (ChannelHistory.Genuine exampleChannelSetup) { channel := exampleChannel "a2b" "b2a" }
      ([] ++ [.checkpoint]) (exampleHistory 0 0 0 [] []) :=
    Reaches.snoc .refl trivial (by decide +kernel)
  have hsent := htaken.snoc (a := ChannelCall.encode 100 (utf8 "hello"))
    (u := exampleHistory 1 0 0 [] [(1, 1)]) trivial (by decide +kernel)
  have hreceived := hsent.snoc (a := ChannelCall.decode (helloFrame "b2a"))
    (u := exampleHistory 1 1 1 [helloFrame "b2a"] [(1, 1)]) trivial (by decide +kernel)
  have hrestored := hreceived.snoc hgenuine (firstCheckpoint_restored 1 1 1 _ _)
  have hagain := hrestored.snoc (a := ChannelCall.encode 100 (utf8 "hello"))
    (u := exampleHistory 1 0 1 [helloFrame "b2a"] [(1, 1), (1, 1)]) trivial (by decide +kernel)
  have htwice := hagain.snoc (a := ChannelCall.decode (helloFrame "b2a"))
    (u := exampleHistory 1 1 2 [helloFrame "b2a", helloFrame "b2a"] [(1, 1), (1, 1)]) trivial
    (by decide +kernel)
  exact ⟨_, _, htwice, by decide +kernel, by decide +kernel⟩

end

end StageForge
