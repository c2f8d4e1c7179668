import Mathlib.Data.Finset.Sort
import StageForge.Library.Bytes
import StageForge.Library.Script
import StageForge.Replication.Authentication

/-!
# The authenticated session channel

`AuthenticatedSessionChannel` of `backend/session_channel.py`: frames with a binary header, a tag over
header and payload under a key of the epoch and the direction, a strictly increasing sequence in each
direction, and checkpoints that a channel can be set back to.

HMAC-SHA256 and the canonical text of a checkpoint are functions on byte strings; nothing here
depends on which.
-/

namespace StageForge

open Bytes Python

/-- The tags, canonical texts and conversions of Python. -/
structure ChannelSetup where
  conversions : Conversions
  hmac : ByteString → ByteString → ByteString
  canonical : List (String × Value) → ByteString

/-- `if not p: raise e`. -/
def require (p : Prop) [Decidable p] (e : Error) : Except Error Unit :=
  if p then .ok () else .error e

lemma require_eq_ok {p : Prop} [Decidable p] {e : Error} {u : Unit} : require p e = .ok u ↔ p := by
  rw [require]
  split_ifs with hp
  · simp [hp]
  · simp [hp]

/-! ## Headers -/

/-- `MAGIC`. -/
def magicBytes : ByteString := [0x55, 0x50, 0x50, 0x46]

/-- `VERSION`. -/
def frameVersion : ℕ := 1

def maxPayload : ℕ := 4096

/-- The widths of the fields of `_PREFIX`, which is `>4sBBH16sQQQI`. -/
def prefixWidths : List ℕ := [4, 1, 1, 2, 16, 8, 8, 8, 4]

/-- `_PREFIX.size`. -/
def prefixSize : ℕ := 52

def headerSize : ℕ := 84

/-- The fields of `_PREFIX`. -/
structure FramePrefix where
  magic : ByteString
  version : ℕ
  flags : ℕ
  headerSize : ℕ
  session : ByteString
  keyEpoch : ℕ
  sequence : ℕ
  capability : ℕ
  size : ℕ
  deriving DecidableEq

namespace FramePrefix

def fields (p : FramePrefix) : List ByteString :=
  [p.magic, bigEndian 1 p.version, bigEndian 1 p.flags, bigEndian 2 p.headerSize, p.session,
    bigEndian 8 p.keyEpoch, bigEndian 8 p.sequence, bigEndian 8 p.capability, bigEndian 4 p.size]

/-- The texts have their widths and the numbers fit. -/
structure WellFormed (p : FramePrefix) : Prop where
  magic : p.magic.length = 4
  version : p.version < 256 ^ 1
  flags : p.flags < 256 ^ 1
  headerSize : p.headerSize < 256 ^ 2
  session : p.session.length = 16
  keyEpoch : p.keyEpoch < 256 ^ 8
  sequence : p.sequence < 256 ^ 8
  capability : p.capability < 256 ^ 8
  size : p.size < 256 ^ 4

/-- `_PREFIX.unpack` of 52 bytes. -/
def unpack (b : ByteString) : FramePrefix := match prefixWidths.splitLengths b with
  | [magic, version, flags, headerSize, session, keyEpoch, sequence, capability, size] =>
    { magic := magic
      version := ofBigEndian version
      flags := ofBigEndian flags
      headerSize := ofBigEndian headerSize
      session := session
      keyEpoch := ofBigEndian keyEpoch
      sequence := ofBigEndian sequence
      capability := ofBigEndian capability
      size := ofBigEndian size }
  | _ => ⟨[], 0, 0, 0, [], 0, 0, 0, 0⟩

variable {p : FramePrefix}

lemma WellFormed.length_fields (h : p.WellFormed) : p.fields.map List.length = prefixWidths := by
  simp only [fields, List.map_cons, List.map_nil, length_bigEndian, h.magic, h.session,
    prefixWidths]

lemma WellFormed.length_flatten (h : p.WellFormed) : p.fields.flatten.length = prefixSize := by
  rw [List.length_flatten, h.length_fields]
  rfl

/-- **A header is read back.** -/
theorem WellFormed.unpack_pack (h : p.WellFormed) : unpack p.fields.flatten = p := by
  have hsplit := splitLengths_flatten [] h.length_fields
  rw [List.append_nil] at hsplit
  rw [unpack, hsplit]
  simp only [fields, ofBigEndian_bigEndian h.version, ofBigEndian_bigEndian h.flags,
    ofBigEndian_bigEndian h.headerSize, ofBigEndian_bigEndian h.keyEpoch,
    ofBigEndian_bigEndian h.sequence, ofBigEndian_bigEndian h.capability,
    ofBigEndian_bigEndian h.size]

end FramePrefix

/-- `_PREFIX.pack`, of fields that come from integers. -/
def packPrefix (session : ByteString) (keyEpoch sequence capability : ℤ) (size : ℕ) :
    Except Error ByteString := do
  require (0 ≤ keyEpoch ∧ keyEpoch < 2 ^ 64 ∧ 0 ≤ sequence ∧ sequence < 2 ^ 64 ∧
    0 ≤ capability ∧ capability < 2 ^ 64 ∧ size < 2 ^ 32) .structError
  return FramePrefix.fields
    { magic := magicBytes
      version := frameVersion
      flags := 0
      headerSize := headerSize
      session := session
      keyEpoch := keyEpoch.toNat
      sequence := sequence.toNat
      capability := capability.toNat
      size := size } |>.flatten

/-! ## Keys -/

/-- `text.encode("utf-8")`. -/
def utf8 (text : String) : ByteString := text.toByteArray.data.toList

/-- What a key of an epoch and a direction is derived from, for a transcript of these bytes. -/
def keyContext (transcript : ByteString) (keyEpoch : ℕ) (direction : String) : ByteString :=
  utf8 "UPP-SESSION-CHANNEL-V1" ++ [0] ++ transcript ++ bigEndian 8 keyEpoch ++ utf8 direction

def deriveDirectionKey (S : ChannelSetup) (rootKey : ByteString) (transcriptSha256 : String)
    (keyEpoch : ℤ) (direction : String) : Except Error ByteString := do
  require (rootKey ≠ [] ∧ transcriptSha256.length = 64 ∧ 1 ≤ keyEpoch ∧ direction ≠ "")
    (.valueError "invalid channel key inputs")
  match ofHex transcriptSha256 with
  | none => .error .notANumber
  | some transcript =>
    if 2 ^ 64 ≤ keyEpoch then .error .overflowError
    else .ok (S.hmac rootKey (keyContext transcript keyEpoch.toNat direction))

/-! ## The channel -/

structure AuthenticatedSessionChannel where
  rootKey : ByteString
  sessionId : String
  sessionBytes : ByteString
  transcriptSha256 : String
  allowed : Finset ℤ
  sendDirection : String
  receiveDirection : String
  keyEpoch : ℤ
  previousKeyEpoch : ℤ := 0
  rotationGraceFrames : ℤ
  previousAcceptUntil : ℤ := 0
  outboundSequence : ℤ := 0
  inboundSequence : ℤ := 0
  accepted : ℕ := 0
  rejected : ℕ := 0
  deriving DecidableEq

/-- What `decode` returns. -/
structure DecodedFrame where
  sessionId : String
  keyEpoch : ℤ
  sequence : ℤ
  capabilityId : ℤ
  payload : ByteString
  authenticated : Bool := true
  confidential : Bool := false
  physicalOutputsArmed : Bool := false
  deriving DecidableEq

namespace AuthenticatedSessionChannel

/-- `_session_bytes`. -/
def readSessionId (sessionId : String) : Except Error ByteString := match ofHex sessionId with
  | none => .error (.valueError "session id must be 32 hexadecimal characters")
  | some value =>
    if value.length ≠ 16 then .error (.valueError "session id must be 32 hexadecimal characters")
    else .ok value

def init (S : ChannelSetup) (rootKey : ByteString) (sessionId transcriptSha256 : String)
    (allowedCapabilities : List ℤ) (sendDirection receiveDirection : String) (keyEpoch : ℤ)
    (rotationGraceFrames : ℤ) : Except Error AuthenticatedSessionChannel := do
  let sessionBytes ← readSessionId sessionId
  let _ ← deriveDirectionKey S rootKey transcriptSha256 keyEpoch sendDirection
  return {
    rootKey := rootKey
    sessionId := sessionId
    sessionBytes := sessionBytes
    transcriptSha256 := transcriptSha256
    allowed := (allowedCapabilities.filter fun value => 0 < value).toFinset
    sendDirection := sendDirection
    receiveDirection := receiveDirection
    keyEpoch := keyEpoch
    rotationGraceFrames := max 0 (min rotationGraceFrames 1024) }

variable (S : ChannelSetup) (c : AuthenticatedSessionChannel)

/-- The frame of a payload under the current epoch, with a given sequence number. -/
def frame (sequence capability : ℤ) (payload : ByteString) : Except Error ByteString := do
  let header ← packPrefix c.sessionBytes c.keyEpoch sequence capability payload.length
  let key ← deriveDirectionKey S c.rootKey c.transcriptSha256 c.keyEpoch c.sendDirection
  return header ++ S.hmac key (header ++ payload) ++ payload

/-- The sequence number is used up, also if the frame cannot be packed. -/
def encode (capability : ℤ) (payload : ByteString) :
    AuthenticatedSessionChannel × Except Error ByteString :=
  if capability ∉ c.allowed then
    (c, .error (.permissionError "capability is outside the negotiated session scope"))
  else if maxPayload < payload.length then
    (c, .error (.valueError "session payload exceeds 4096 bytes"))
  else
    ({ c with outboundSequence := c.outboundSequence + 1 },
      c.frame S (c.outboundSequence + 1) capability payload)

/-- The current epoch, or the previous one up to the grace limit. -/
def AcceptsEpoch (p : FramePrefix) : Prop := p.keyEpoch = c.keyEpoch ∨
    (p.keyEpoch = c.previousKeyEpoch ∧ p.sequence ≤ c.previousAcceptUntil)

instance (p : FramePrefix) : Decidable (c.AcceptsEpoch p) := inferInstanceAs (Decidable (_ ∨ _))

/-- The checks of `decode`. -/
def check (frame : ByteString) : Except Error DecodedFrame := do
  require (headerSize ≤ frame.length) (.valueError "truncated session frame")
  let p := FramePrefix.unpack (frame.take prefixSize)
  require (p.magic = magicBytes ∧ p.version = frameVersion ∧ p.flags = 0 ∧
    p.headerSize = headerSize) (.valueError "unsupported session frame header")
  require (p.session = c.sessionBytes) (.valueError "session frame identity mismatch")
  require (p.size ≤ maxPayload ∧ frame.length = headerSize + p.size)
    (.valueError "session frame size mismatch")
  require ((p.capability : ℤ) ∈ c.allowed)
    (.permissionError "capability is outside the negotiated session scope")
  require (c.inboundSequence < p.sequence) (.valueError "replayed or reordered session frame")
  require (c.AcceptsEpoch p) (.valueError "session key epoch is not accepted")
  let payload := frame.drop headerSize
  let supplied := (frame.drop prefixSize).take 32
  let key ← deriveDirectionKey S c.rootKey c.transcriptSha256 p.keyEpoch c.receiveDirection
  require (supplied = S.hmac key (frame.take prefixSize ++ payload))
    (.valueError "session frame authentication failed")
  return {
    sessionId := c.sessionId
    keyEpoch := p.keyEpoch
    sequence := p.sequence
    capabilityId := p.capability
    payload := payload }

/-- What `except (ValueError, PermissionError, struct.error)` catches. -/
def isRefusal : Error → Bool
  | .valueError _ | .notANumber | .permissionError _ | .structError => true
  | _ => false

def decode (frame : ByteString) : AuthenticatedSessionChannel × Except Error DecodedFrame :=
  match c.check S frame with
  | .error e => (if isRefusal e then { c with rejected := c.rejected + 1 } else c, .error e)
  | .ok d => ({ c with inboundSequence := d.sequence, accepted := c.accepted + 1 }, .ok d)

def rotate (newEpoch : ℤ) : AuthenticatedSessionChannel × Except Error Unit :=
  if newEpoch ≤ c.keyEpoch then (c, .error (.valueError "session key epoch must advance"))
  else
    ({ c with
        previousKeyEpoch := c.keyEpoch
        keyEpoch := newEpoch
        previousAcceptUntil := c.inboundSequence + c.rotationGraceFrames }, .ok ())

/-! ## Checkpoints -/

def checkpointPayload : List (String × Value) :=
  [("documentType", .str "org.upp.session-channel-checkpoint"), ("schemaVersion", .int 1),
    ("sessionId", .str c.sessionId), ("transcriptSha256", .str c.transcriptSha256),
    ("keyEpoch", .int c.keyEpoch), ("previousKeyEpoch", .int c.previousKeyEpoch),
    ("previousAcceptUntil", .int c.previousAcceptUntil),
    ("outboundSequence", .int c.outboundSequence), ("inboundSequence", .int c.inboundSequence),
    ("allowedCapabilities", .list ((c.allowed.sort (· ≤ ·)).map .int))]

/-- The signature of the fields of a checkpoint. -/
def checkpointTag (payload : List (String × Value)) : String :=
  hex (S.hmac c.rootKey (S.canonical payload))

def checkpoint : List (String × Value) :=
  c.checkpointPayload ++ [("hmacSha256", .str (c.checkpointTag S c.checkpointPayload))]

def signedFields (document : List (String × Value)) : List (String × Value) :=
  document.filter fun entry => entry.1 ≠ "hmacSha256"

/-- The checks of `restore`. -/
def checkDocument (document : List (String × Value)) : Except Error Unit := do
  let payload := signedFields document
  let authentic ← AuthenticationSetup.compareDigest (c.checkpointTag S payload)
    (S.conversions.str ((document.lookup "hmacSha256").getD (.str "")))
  require (authentic = true) (.valueError "channel checkpoint authentication failed")
  require (payload.lookup "sessionId" = some (.str c.sessionId) ∧
      payload.lookup "transcriptSha256" = some (.str c.transcriptSha256))
    (.valueError "channel checkpoint identity mismatch")
  let values ← ((payload.lookup "allowedCapabilities").getD (.list [])).iterate
  let capabilities ← values.mapM S.conversions.int
  require (capabilities.toFinset = c.allowed)
    (.valueError "channel checkpoint capability scope mismatch")

/-- `self.field = int(payload[key])`. -/
def assign (payload : List (String × Value)) (key : String)
    (set : ℤ → AuthenticatedSessionChannel → AuthenticatedSessionChannel) :
    Script.Item Error AuthenticatedSessionChannel := fun c => do
  let value ← (Value.dict payload).item key
  let n ← S.conversions.int value
  return set n c

/-- The assignments of `restore`, one after the other. -/
def assignments (payload : List (String × Value)) :
    List (Script.Item Error AuthenticatedSessionChannel) :=
  [assign S payload "keyEpoch" fun n c => { c with keyEpoch := n },
    assign S payload "previousKeyEpoch" fun n c => { c with previousKeyEpoch := n },
    assign S payload "previousAcceptUntil" fun n c => { c with previousAcceptUntil := n },
    assign S payload "outboundSequence" fun n c => { c with outboundSequence := n },
    assign S payload "inboundSequence" fun n c => { c with inboundSequence := n }]

def restore (document : List (String × Value)) : AuthenticatedSessionChannel × Except Error Unit :=
  match c.checkDocument S document with
  | .error e => (c, .error e)
  | .ok () => Script.run (assignments S (signedFields document)) c

/-! ## What the operations do -/

variable {S c} {frame : ByteString} {d : DecodedFrame} {e : Error}

def header (frame : ByteString) : FramePrefix := FramePrefix.unpack (frame.take prefixSize)

/-- A frame that passes all checks of a channel. -/
structure Admits (S : ChannelSetup) (c : AuthenticatedSessionChannel) (frame : ByteString) : Prop where
  long : headerSize ≤ frame.length
  kind : (header frame).magic = magicBytes ∧ (header frame).version = frameVersion ∧
    (header frame).flags = 0 ∧ (header frame).headerSize = headerSize
  session : (header frame).session = c.sessionBytes
  size : (header frame).size ≤ maxPayload ∧ frame.length = headerSize + (header frame).size
  capability : ((header frame).capability : ℤ) ∈ c.allowed
  sequence : c.inboundSequence < (header frame).sequence
  epoch : c.AcceptsEpoch (header frame)
  tag : ∃ key, deriveDirectionKey S c.rootKey c.transcriptSha256 (header frame).keyEpoch
      c.receiveDirection = .ok key ∧
    (frame.drop prefixSize).take 32 = S.hmac key (frame.take prefixSize ++ frame.drop headerSize)

def decoded (c : AuthenticatedSessionChannel) (frame : ByteString) : DecodedFrame where
  sessionId := c.sessionId
  keyEpoch := (header frame).keyEpoch
  sequence := (header frame).sequence
  capabilityId := (header frame).capability
  payload := frame.drop headerSize

/-- **A frame is accepted exactly if it passes all checks.** -/
theorem check_eq_ok : c.check S frame = .ok d ↔ Admits S c frame ∧ d = decoded c frame := by
  unfold check
  simp only [bind_eq_ok, require_eq_ok, exists_const]
  constructor
  · rintro ⟨hlong, hkind, hsession, hsize, hcapability, hsequence, hepoch, key, hkey, htag, hd⟩
    exact ⟨⟨hlong, hkind, hsession, hsize, hcapability, hsequence, hepoch, key, hkey, htag⟩,
      (Except.ok.inj hd).symm⟩
  · rintro ⟨⟨hlong, hkind, hsession, hsize, hcapability, hsequence, hepoch, key, hkey, htag⟩, rfl⟩
    exact ⟨hlong, hkind, hsession, hsize, hcapability, hsequence, hepoch, key, hkey, htag, rfl⟩

lemma decode_of_admits (h : Admits S c frame) : c.decode S frame = ({ c with
          inboundSequence := (header frame).sequence
          accepted := c.accepted + 1 }, .ok (decoded c frame)) := by
  rw [decode, check_eq_ok.mpr ⟨h, rfl⟩]
  rfl

/-- **A frame that is accepted** moves the inbound sequence to its own. -/
theorem decode_accepts (h : (c.decode S frame).2 = .ok d) : Admits S c frame ∧ d = decoded c frame ∧
      (c.decode S frame).1 = { c with
          inboundSequence := (header frame).sequence
          accepted := c.accepted + 1 } := by
  cases hcheck : c.check S frame with
  | error e => simp [decode, hcheck] at h
  | ok d' =>
    obtain ⟨hadmits, rfl⟩ := check_eq_ok.mp hcheck
    rw [decode_of_admits hadmits] at h ⊢
    exact ⟨hadmits, (Except.ok.inj h).symm, rfl⟩

lemma deriveDirectionKey_eq_ok {rootKey key : ByteString} {transcriptSha256 direction : String}
    {keyEpoch : ℤ} :
    deriveDirectionKey S rootKey transcriptSha256 keyEpoch direction = .ok key ↔
      (rootKey ≠ [] ∧ transcriptSha256.length = 64 ∧ 1 ≤ keyEpoch ∧ direction ≠ "") ∧
      keyEpoch < 2 ^ 64 ∧
      ∃ transcript, ofHex transcriptSha256 = some transcript ∧
        key = S.hmac rootKey (keyContext transcript keyEpoch.toNat direction) := by
  simp only [deriveDirectionKey, bind_eq_ok, require_eq_ok, exists_const]
  cases ofHex transcriptSha256 with
  | none => simp
  | some transcript =>
    refine and_congr_right fun _ => ?_
    by_cases hlarge : 2 ^ 64 ≤ keyEpoch
    · simp only [if_pos hlarge, not_lt.mpr hlarge, false_and, reduceCtorEq]
    · simp only [if_neg hlarge, not_le.mp hlarge, true_and, Except.ok.injEq, Option.some.injEq,
        exists_eq_left', eq_comm]

lemma header_keyEpoch_lt (frame : ByteString) : ((header frame).keyEpoch : ℤ) < 2 ^ 64 := by
  have hfield : (header frame).keyEpoch =
      ofBigEndian (((frame.take prefixSize).drop 24).take 8) := by
    simp only [header, FramePrefix.unpack, prefixWidths, List.splitLengths_cons, List.splitLengths_nil,
      List.drop_drop]
  have hlt := ofBigEndian_lt (((frame.take prefixSize).drop 24).take 8)
  have hwidth : 256 ^ (((frame.take prefixSize).drop 24).take 8).length ≤ 256 ^ 8 :=
    Nat.pow_le_pow_right (by omega) (List.length_take_le 8 _)
  rw [← hfield] at hlt
  exact_mod_cast hlt.trans_le hwidth

lemma require_refuses {p : Prop} [Decidable p] {e e' : Error} (he : isRefusal e = true)
    (h : require p e = .error e') : isRefusal e' = true := by
  unfold require at h
  split_ifs at h
  · exact (Except.error.inj h) ▸ he

lemma bind_refuses {α β : Type} {x : Except Error α} {f : α → Except Error β} {e : Error}
    (hx : ∀ e, x = .error e → isRefusal e = true)
    (hf : ∀ a, x = .ok a → ∀ e, f a = .error e → isRefusal e = true)
    (h : (x >>= f) = .error e) : isRefusal e = true := by
  cases x with
  | error e' => exact hx e (congrArg Except.error (Except.error.inj h))
  | ok a => exact hf a rfl e h

lemma deriveDirectionKey_refuses {rootKey : ByteString} {transcriptSha256 direction : String}
    {keyEpoch : ℤ} (hepoch : keyEpoch < 2 ^ 64)
    (h : deriveDirectionKey S rootKey transcriptSha256 keyEpoch direction = .error e) :
    isRefusal e = true := by
  refine bind_refuses (fun e => require_refuses rfl) (fun _ _ e he => ?_) h
  cases hhex : ofHex transcriptSha256 with
  | none =>
    rw [hhex] at he
    exact (Except.error.inj he) ▸ rfl
  | some transcript =>
    simp only [hhex, if_neg (not_le.mpr hepoch), reduceCtorEq] at he

lemma check_refuses (h : c.check S frame = .error e) : isRefusal e = true := by
  refine bind_refuses (fun e => require_refuses rfl) (fun _ _ e he => ?_) h
  refine bind_refuses (fun e => require_refuses rfl) (fun _ _ e he => ?_) he
  refine bind_refuses (fun e => require_refuses rfl) (fun _ _ e he => ?_) he
  refine bind_refuses (fun e => require_refuses rfl) (fun _ _ e he => ?_) he
  refine bind_refuses (fun e => require_refuses rfl) (fun _ _ e he => ?_) he
  refine bind_refuses (fun e => require_refuses rfl) (fun _ _ e he => ?_) he
  refine bind_refuses (fun e => require_refuses rfl) (fun _ _ e he => ?_) he
  refine bind_refuses (fun e => deriveDirectionKey_refuses (header_keyEpoch_lt frame))
    (fun _ _ e he => ?_) he
  refine bind_refuses (fun e => require_refuses rfl) (fun _ _ e he => ?_) he
  exact absurd he (by simp [pure, Except.pure])

/-- **A frame that is refused** is counted, and nothing else changes. -/
theorem decode_refuses (h : (c.decode S frame).2 = .error e) :
    (c.decode S frame).1 = { c with rejected := c.rejected + 1 } := by
  cases hcheck : c.check S frame with
  | error e' => simp only [decode, hcheck, check_refuses hcheck, if_true]
  | ok d => simp [decode, hcheck] at h

variable {capability : ℤ} {payload : ByteString}

/-- **A frame that is sent** carries the next sequence number. -/
theorem encode_sends (h : (c.encode S capability payload).2 = .ok frame) :
    capability ∈ c.allowed ∧ payload.length ≤ maxPayload ∧
      c.frame S (c.outboundSequence + 1) capability payload = .ok frame ∧
      (c.encode S capability payload).1 = { c with outboundSequence := c.outboundSequence + 1 } := by
  unfold encode at h ⊢
  split_ifs at h ⊢ with hallowed hlong
  exact ⟨hallowed, not_lt.mp hlong, h, rfl⟩

lemma encode_state (S : ChannelSetup) (c : AuthenticatedSessionChannel) (capability : ℤ)
    (payload : ByteString) :
    (c.encode S capability payload).1 = c ∨ (c.encode S capability payload).1 =
        { c with outboundSequence := c.outboundSequence + 1 } := by
  unfold encode
  split_ifs
  · exact .inl rfl
  · exact .inr rfl
  · exact .inl rfl

lemma rotate_state (c : AuthenticatedSessionChannel) (newEpoch : ℤ) : (c.rotate newEpoch).1 = c ∨
      (c.keyEpoch < newEpoch ∧ (c.rotate newEpoch).1 = { c with
            previousKeyEpoch := c.keyEpoch
            keyEpoch := newEpoch
            previousAcceptUntil := c.inboundSequence + c.rotationGraceFrames }) := by
  unfold rotate
  split_ifs with h
  · exact .inl rfl
  · exact .inr ⟨not_le.mp h, rfl⟩

end AuthenticatedSessionChannel

end StageForge
