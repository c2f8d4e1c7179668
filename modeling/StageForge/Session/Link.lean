import StageForge.Session.Replay

/-!
# Two channels on a line

Two channels with the same keys and swapped directions. Each of them sends frames; the line delivers
them in order and may lose some; both rotate through the same key epochs, each at a time of its own;
and an outsider may present any byte string.
-/

namespace StageForge

open Bytes Python

/-! ## One frame -/

namespace AuthenticatedSessionChannel

variable {S : ChannelSetup} {c k : AuthenticatedSessionChannel} {frame payload : ByteString}
  {sequence capability : ℤ}

/-- The part of a channel that is fixed when it is set up. -/
structure SameIdentity (c k : AuthenticatedSessionChannel) : Prop where
  rootKey : k.rootKey = c.rootKey
  sessionId : k.sessionId = c.sessionId
  sessionBytes : k.sessionBytes = c.sessionBytes
  transcriptSha256 : k.transcriptSha256 = c.transcriptSha256
  allowed : k.allowed = c.allowed
  sendDirection : k.sendDirection = c.sendDirection
  receiveDirection : k.receiveDirection = c.receiveDirection
  rotationGraceFrames : k.rotationGraceFrames = c.rotationGraceFrames

lemma SameIdentity.refl (c : AuthenticatedSessionChannel) : SameIdentity c c :=
  ⟨rfl, rfl, rfl, rfl, rfl, rfl, rfl, rfl⟩

def message (frame : ByteString) : ByteString := frame.take prefixSize ++ frame.drop headerSize

def suppliedTag (frame : ByteString) : ByteString := (frame.drop prefixSize).take 32

/-- The header that a channel puts before a payload. -/
def prefixOf (c : AuthenticatedSessionChannel) (sequence capability : ℤ) (payload : ByteString) :
    FramePrefix where
  magic := magicBytes
  version := frameVersion
  flags := 0
  headerSize := headerSize
  session := c.sessionBytes
  keyEpoch := c.keyEpoch.toNat
  sequence := sequence.toNat
  capability := capability.toNat
  size := payload.length

/-- A frame that was made by a channel: its parts, and the conditions under which it is made. -/
structure Made (S : ChannelSetup) (c : AuthenticatedSessionChannel) (sequence capability : ℤ)
    (payload frame : ByteString) : Prop where
  epochFits : 0 ≤ c.keyEpoch ∧ c.keyEpoch < 2 ^ 64
  sequenceFits : 0 ≤ sequence ∧ sequence < 2 ^ 64
  capabilityFits : 0 ≤ capability ∧ capability < 2 ^ 64
  sizeFits : payload.length < 2 ^ 32
  parts : ∃ key, deriveDirectionKey S c.rootKey c.transcriptSha256 c.keyEpoch c.sendDirection =
      .ok key ∧
    frame = (prefixOf c sequence capability payload).fields.flatten ++
      S.hmac key ((prefixOf c sequence capability payload).fields.flatten ++ payload) ++ payload

lemma made_of_frame (h : c.frame S sequence capability payload = .ok frame) :
    Made S c sequence capability payload frame := by
  simp only [AuthenticatedSessionChannel.frame, packPrefix, bind_eq_ok, require_eq_ok,
    exists_const] at h
  obtain ⟨header, ⟨⟨hk0, hk, hs0, hs, hc0, hc, hsize⟩, hheader⟩, key, hkey, hframe⟩ := h
  cases hheader
  exact ⟨⟨hk0, hk⟩, ⟨hs0, hs⟩, ⟨hc0, hc⟩, hsize, key, hkey, (Except.ok.inj hframe).symm⟩

lemma Made.wellFormed (hsession : c.sessionBytes.length = 16)
    (h : Made S c sequence capability payload frame) :
    (prefixOf c sequence capability payload).WellFormed where
  magic := rfl
  version := show frameVersion < 256 ^ 1 by decide
  flags := show 0 < 256 ^ 1 by decide
  headerSize := show StageForge.headerSize < 256 ^ 2 by decide
  session := hsession
  keyEpoch := by
    have := h.epochFits
    show c.keyEpoch.toNat < 256 ^ 8
    omega
  sequence := by
    have := h.sequenceFits
    show sequence.toNat < 256 ^ 8
    omega
  capability := by
    have := h.capabilityFits
    show capability.toNat < 256 ^ 8
    omega
  size := h.sizeFits

lemma parts_of_append {pre tag : ByteString} (payload : ByteString)
    (hpre : pre.length = prefixSize) (htag : tag.length = 32) :
    (pre ++ tag ++ payload).take prefixSize = pre ∧ suppliedTag (pre ++ tag ++ payload) = tag ∧
      (pre ++ tag ++ payload).drop headerSize = payload := by
  have hboth : (pre ++ tag).length = headerSize := by
    rw [List.length_append, hpre, htag]
    rfl
  refine ⟨?_, ?_, ?_⟩
  · rw [List.append_assoc, ← hpre, List.take_left]
  · rw [suppliedTag, List.append_assoc, ← hpre, List.drop_left, ← htag, List.take_left]
  · rw [← hboth, List.drop_left]

structure Says (S : ChannelSetup) (c : AuthenticatedSessionChannel) (sequence capability : ℤ)
    (payload frame : ByteString) : Prop where
  fields : header frame = prefixOf c sequence capability payload
  carries : frame.drop headerSize = payload
  size : frame.length = headerSize + payload.length
  tag : ∃ key, deriveDirectionKey S c.rootKey c.transcriptSha256 c.keyEpoch c.sendDirection =
    .ok key ∧ suppliedTag frame = S.hmac key (message frame)

lemma Made.says (hlength : ∀ key m, (S.hmac key m).length = 32)
    (hsession : c.sessionBytes.length = 16) (h : Made S c sequence capability payload frame) :
    Says S c sequence capability payload frame := by
  have hwellFormed := h.wellFormed hsession
  obtain ⟨key, hkey, rfl⟩ := h.parts
  obtain ⟨htake, htag, hdrop⟩ := parts_of_append payload hwellFormed.length_flatten (hlength key
      ((prefixOf c sequence capability payload).fields.flatten ++ payload))
  refine ⟨?_, hdrop, ?_, key, hkey, ?_⟩
  · rw [header, htake, hwellFormed.unpack_pack]
  · rw [List.length_append, List.length_append, hwellFormed.length_flatten, hlength,
      prefixSize, headerSize]
  · rw [htag, message, htake, hdrop]

/-- The other end of a channel: the same keys, and the directions swapped. -/
structure Paired (c k : AuthenticatedSessionChannel) : Prop where
  rootKey : k.rootKey = c.rootKey
  sessionId : k.sessionId = c.sessionId
  sessionBytes : k.sessionBytes = c.sessionBytes
  transcriptSha256 : k.transcriptSha256 = c.transcriptSha256
  allowed : k.allowed = c.allowed
  receives : k.receiveDirection = c.sendDirection
  sends : k.sendDirection = c.receiveDirection

/-- **One frame.** The other end of the channel accepts it, if it accepts the epoch and has not yet
accepted a frame with a higher number. -/
theorem decode_frame (hlength : ∀ key m, (S.hmac key m).length = 32)
    (hsession : c.sessionBytes.length = 16) (hpaired : Paired c k)
    (hframe : c.frame S sequence capability payload = .ok frame) (hallowed : capability ∈ c.allowed)
    (hpayload : payload.length ≤ maxPayload) (hsequence : k.inboundSequence < sequence)
    (hepoch : c.keyEpoch = k.keyEpoch ∨
      (c.keyEpoch = k.previousKeyEpoch ∧ sequence ≤ k.previousAcceptUntil)) :
    k.decode S frame =
      ({ k with inboundSequence := sequence, accepted := k.accepted + 1 },
        .ok
          { sessionId := c.sessionId
            keyEpoch := c.keyEpoch
            sequence := sequence
            capabilityId := capability
            payload := payload }) := by
  have hmade := made_of_frame hframe
  have hmeaning := hmade.says hlength hsession
  have hkeyEpoch : ((header frame).keyEpoch : ℤ) = c.keyEpoch := by
    rw [hmeaning.fields]
    exact Int.toNat_of_nonneg hmade.epochFits.1
  have hnumber : ((header frame).sequence : ℤ) = sequence := by
    rw [hmeaning.fields]
    exact Int.toNat_of_nonneg hmade.sequenceFits.1
  have hcapability : ((header frame).capability : ℤ) = capability := by
    rw [hmeaning.fields]
    exact Int.toNat_of_nonneg hmade.capabilityFits.1
  have hadmits : Admits S k frame :=
    { long := by
        rw [hmeaning.size]
        exact Nat.le_add_right _ _
      kind := by
        rw [hmeaning.fields]
        exact ⟨rfl, rfl, rfl, rfl⟩
      session := by
        rw [hmeaning.fields, hpaired.sessionBytes]
        rfl
      size := by
        rw [hmeaning.fields]
        exact ⟨hpayload, hmeaning.size⟩
      capability := by
        rw [hcapability, hpaired.allowed]
        exact hallowed
      sequence := by
        rw [hnumber]
        exact hsequence
      epoch := by
        rw [AcceptsEpoch, hkeyEpoch, hnumber]
        exact hepoch
      tag := by
        rw [hkeyEpoch, hpaired.rootKey, hpaired.transcriptSha256, hpaired.receives]
        exact hmeaning.tag }
  rw [decode_of_admits hadmits, decoded, hkeyEpoch, hnumber, hcapability, hmeaning.carries,
    hpaired.sessionId]

lemma utf8_injective : Function.Injective utf8 := by
  intro s t h
  exact String.toByteArray_inj.mp (ByteArray.ext (Array.toList_inj.mp h))

lemma keyContext_inj {transcript : ByteString} {m n : ℕ} {s t : String} (hm : m < 256 ^ 8)
    (hn : n < 256 ^ 8) (h : keyContext transcript m s = keyContext transcript n t) :
    m = n ∧ s = t := by
  simp only [keyContext, List.append_assoc] at h
  have hrest := List.append_cancel_left (List.append_cancel_left (List.append_cancel_left h))
  obtain ⟨hepoch, hdirection⟩ := List.append_inj hrest (by simp only [length_bigEndian])
  exact ⟨bigEndian_inj hm hn hepoch, utf8_injective hdirection⟩

lemma eq_of_message_eq {frame other : ByteString} (hlong : headerSize ≤ frame.length)
    (hother : headerSize ≤ other.length) (hmessage : message frame = message other)
    (htag : suppliedTag frame = suppliedTag other) : frame = other := by
  have hparts : ∀ b : ByteString,
      b = b.take prefixSize ++ (suppliedTag b ++ b.drop headerSize) := by
    intro b
    have hrest : suppliedTag b ++ b.drop headerSize = b.drop prefixSize := by
      rw [suppliedTag, show headerSize = prefixSize + 32 from rfl, ← List.drop_drop,
        List.take_append_drop]
    rw [hrest, List.take_append_drop]
  have hsize : (frame.take prefixSize).length = (other.take prefixSize).length := by
    rw [List.length_take, List.length_take, prefixSize]
    rw [headerSize] at hlong hother
    omega
  obtain ⟨htake, hdrop⟩ := List.append_inj hmessage hsize
  rw [hparts frame, hparts other, htake, htag, hdrop]

end AuthenticatedSessionChannel

/-! ## Two channels -/

inductive LinkEnd
  | left
  | right
  deriving DecidableEq

namespace LinkEnd

def other : LinkEnd → LinkEnd
  | left => right
  | right => left

@[simp] lemma other_other (e : LinkEnd) : e.other.other = e := by
  cases e <;> rfl

lemma other_ne (e : LinkEnd) : e.other ≠ e := by
  cases e <;> decide

lemma eq_or_eq_other (e e' : LinkEnd) : e' = e ∨ e' = e.other := by
  cases e <;> cases e' <;> decide

end LinkEnd

structure SentFrame where
  keyEpoch : ℤ
  sequence : ℤ
  capability : ℤ
  payload : ByteString
  frame : ByteString
  /-- The rotations that the sender had made. -/
  turn : ℕ
  deriving DecidableEq

/-- One end: its channel, the frames that it has sent, those of them that are on the line, the
rotations that it has made, and the inbound sequence at the last of them. -/
structure LinkSide where
  channel : AuthenticatedSessionChannel
  sent : List SentFrame := []
  flight : List SentFrame := []
  turns : ℕ := 0
  mark : ℤ := 0

namespace LinkSide

variable (S : ChannelSetup) (epochs : ℕ → ℤ)

def record (s : LinkSide) (capability : ℤ) (payload frame : ByteString) : SentFrame where
  keyEpoch := s.channel.keyEpoch
  sequence := s.channel.outboundSequence + 1
  capability := capability
  payload := payload
  frame := frame
  turn := s.turns

def send (s : LinkSide) (capability : ℤ) (payload : ByteString) : LinkSide :=
  let result := s.channel.encode S capability payload
  match result.2 with
  | .error _ => { s with channel := result.1 }
  | .ok frame =>
    { s with
      channel := result.1
      sent := s.sent ++ [s.record capability payload frame]
      flight := s.flight ++ [s.record capability payload frame] }

def rotate (s : LinkSide) : LinkSide := { s with
    channel := (s.channel.rotate (epochs (s.turns + 1))).1
    turns := s.turns + 1
    mark := s.channel.inboundSequence }

def receive (s : LinkSide) (frame : ByteString) : LinkSide :=
  { s with channel := (s.channel.decode S frame).1 }

end LinkSide

abbrev SessionLink := LinkEnd → LinkSide

inductive LinkAction
  | send (e : LinkEnd) (capability : ℤ) (payload : ByteString)
  | rotate (e : LinkEnd)
  /-- The first frame on the line is lost, or arrives at the other end. -/
  | lose (e : LinkEnd)
  | deliver (e : LinkEnd)
  /-- Somebody presents a byte string. -/
  | inject (e : LinkEnd) (frame : ByteString)

namespace SessionLink

open AuthenticatedSessionChannel

variable (S : ChannelSetup) (epochs : ℕ → ℤ)

def start (left right : AuthenticatedSessionChannel) : SessionLink
  | .left => { channel := left }
  | .right => { channel := right }

def step (t : SessionLink) : LinkAction → Option SessionLink
  | .send e capability payload =>
    some (Function.update t e ((t e).send S capability payload))
  | .rotate e => some (Function.update t e ((t e).rotate epochs))
  | .lose e =>
    match (t e).flight with
    | [] => none
    | _ :: rest => some (Function.update t e { t e with flight := rest })
  | .deliver e =>
    match (t e).flight with
    | [] => none
    | f :: rest =>
      some (Function.update (Function.update t e { t e with flight := rest }) e.other
        ((t e.other).receive S f.frame))
  | .inject e frame => some (Function.update t e ((t e).receive S frame))

/-- The receiver has made the rotations that the sender had made, or one more, and the frame is
within the grace of this one. -/
def InWindow (t : SessionLink) (e : LinkEnd) (f : SentFrame) : Prop := f.turn = (t e.other).turns ∨
    (f.turn + 1 = (t e.other).turns ∧
      f.sequence ≤ (t e.other).mark + (t e.other).channel.rotationGraceFrames)

/-- **HMAC is not forged.** A tag that an end would take, under the key of a context, has been made
by an end for the same message and under the same context. -/
def Unforged (t : SessionLink) (e : LinkEnd) (frame : ByteString) : Prop :=
  ∀ transcript, ofHex (t e).channel.transcriptSha256 = some transcript →
    suppliedTag frame = S.hmac (S.hmac (t e).channel.rootKey
      (keyContext transcript (header frame).keyEpoch (t e).channel.receiveDirection))
        (message frame) →
    ∃ maker, ∃ f ∈ (t maker).sent, message f.frame = message frame ∧
      keyContext transcript f.keyEpoch.toNat (t maker).channel.sendDirection =
        keyContext transcript (header frame).keyEpoch (t e).channel.receiveDirection

/-- Anything may be presented, but nothing is forged. -/
def Adversarial (t : SessionLink) : LinkAction → Prop
  | .inject e frame => t.Unforged S e frame
  | _ => True

/-- The line only loses frames: what is delivered is in the window, and what is presented besides is
no frame of the other end. -/
def LossOnly (t : SessionLink) : LinkAction → Prop
  | .deliver e => ∀ f rest, (t e).flight = f :: rest → t.InWindow e f
  | .inject e frame => t.Unforged S e frame ∧ ∀ f ∈ (t e.other).sent, f.frame ≠ frame
  | _ => True

end SessionLink

/-! ## What the actions keep -/

namespace AuthenticatedSessionChannel

variable {S : ChannelSetup} {c k l : AuthenticatedSessionChannel}

lemma SameIdentity.trans (h : SameIdentity c k) (h' : SameIdentity k l) : SameIdentity c l where
  rootKey := h'.rootKey.trans h.rootKey
  sessionId := h'.sessionId.trans h.sessionId
  sessionBytes := h'.sessionBytes.trans h.sessionBytes
  transcriptSha256 := h'.transcriptSha256.trans h.transcriptSha256
  allowed := h'.allowed.trans h.allowed
  sendDirection := h'.sendDirection.trans h.sendDirection
  receiveDirection := h'.receiveDirection.trans h.receiveDirection
  rotationGraceFrames := h'.rotationGraceFrames.trans h.rotationGraceFrames

lemma encode_identity (S : ChannelSetup) (c : AuthenticatedSessionChannel) (capability : ℤ)
    (payload : ByteString) : SameIdentity c (c.encode S capability payload).1 := by
  rcases encode_state S c capability payload with h | h
  · rw [h]
    exact .refl c
  · rw [h]
    exact ⟨rfl, rfl, rfl, rfl, rfl, rfl, rfl, rfl⟩

lemma rotate_identity (c : AuthenticatedSessionChannel) (newEpoch : ℤ) :
    SameIdentity c (c.rotate newEpoch).1 := by
  rcases rotate_state c newEpoch with h | ⟨-, h⟩
  · rw [h]
    exact .refl c
  · rw [h]
    exact ⟨rfl, rfl, rfl, rfl, rfl, rfl, rfl, rfl⟩

lemma decode_identity (S : ChannelSetup) (c : AuthenticatedSessionChannel) (frame : ByteString) :
    SameIdentity c (c.decode S frame).1 := by
  cases hresult : (c.decode S frame).2 with
  | error e =>
    rw [decode_refuses hresult]
    exact ⟨rfl, rfl, rfl, rfl, rfl, rfl, rfl, rfl⟩
  | ok d =>
    rw [(decode_accepts hresult).2.2]
    exact ⟨rfl, rfl, rfl, rfl, rfl, rfl, rfl, rfl⟩

lemma frame_of_identity (h : SameIdentity c k) (sequence capability : ℤ) (payload : ByteString) :
    k.frame S sequence capability payload =
      { c with keyEpoch := k.keyEpoch }.frame S sequence capability payload := by
  simp only [frame, h.sessionBytes, h.rootKey, h.transcriptSha256, h.sendDirection]

end AuthenticatedSessionChannel

namespace SessionLink

open AuthenticatedSessionChannel

variable {S : ChannelSetup} {epochs : ℕ → ℤ} {left right : AuthenticatedSessionChannel}
  {t u : SessionLink} {action : LinkAction}

/-- The ends are what they were set up as, and the frames that they have sent are theirs. -/
structure Sound (S : ChannelSetup) (c : AuthenticatedSessionChannel) (s : LinkSide) : Prop where
  identity : SameIdentity c s.channel
  sent : ∀ f ∈ s.sent,
    { c with keyEpoch := f.keyEpoch }.frame S f.sequence f.capability f.payload = .ok f.frame
  allowed : ∀ f ∈ s.sent, f.capability ∈ c.allowed ∧ f.payload.length ≤ maxPayload
  flight : ∀ f ∈ s.flight, f ∈ s.sent

variable {c : AuthenticatedSessionChannel} {s : LinkSide}

lemma Sound.send (h : Sound S c s)
    (capability : ℤ) (payload : ByteString) : Sound S c (s.send S capability payload) := by
  have hidentity := h.identity.trans (encode_identity S s.channel capability payload)
  cases hresult : (s.channel.encode S capability payload).2 with
  | error e =>
    simp only [LinkSide.send, hresult]
    exact ⟨hidentity, h.sent, h.allowed, h.flight⟩
  | ok frame =>
    obtain ⟨hallowed, hpayload, hframe, hnext⟩ := encode_sends hresult
    simp only [LinkSide.send, hresult]
    have hmine := frame_of_identity (S := S) h.identity (s.channel.outboundSequence + 1)
      capability payload
    refine ⟨hidentity, ?_, ?_, ?_⟩
    · intro f hf
      rcases List.mem_append.mp hf with hold | hnew
      · exact h.sent f hold
      · obtain rfl := List.mem_singleton.mp hnew
        exact hmine.symm.trans hframe
    · intro f hf
      rcases List.mem_append.mp hf with hold | hnew
      · exact h.allowed f hold
      · obtain rfl := List.mem_singleton.mp hnew
        exact ⟨h.identity.allowed ▸ hallowed, hpayload⟩
    · intro f hf
      rcases List.mem_append.mp hf with hold | hnew
      · exact List.mem_append_left _ (h.flight f hold)
      · exact List.mem_append_right _ hnew

lemma Sound.rotate (h : Sound S c s) :
    Sound S c (s.rotate epochs) :=
  ⟨h.identity.trans (rotate_identity _ _), h.sent, h.allowed, h.flight⟩

lemma Sound.receive (h : Sound S c s)
    (frame : ByteString) : Sound S c (s.receive S frame) :=
  ⟨h.identity.trans (decode_identity S _ _), h.sent, h.allowed, h.flight⟩

variable {f : SentFrame}

lemma Sound.lose (h : Sound S c s)
    {rest : List SentFrame} (hflight : s.flight = f :: rest) :
    Sound S c { s with flight := rest } :=
  ⟨h.identity, h.sent, h.allowed, fun g hg => h.flight g (hflight ▸ List.mem_cons_of_mem f hg)⟩

variable {e : LinkEnd}

lemma forall_update {P : LinkEnd → LinkSide → Prop}
    (h : ∀ e, P e (t e)) (hs : P e s) : ∀ e', P e' (Function.update t e s e') := by
  intro e'
  by_cases he : e' = e
  · subst he
    rw [Function.update_self]
    exact hs
  · rw [Function.update_of_ne he]
    exact h e'

/-- **Each action keeps the ends sound.** -/
lemma sound_step (h : ∀ e, Sound S (start left right e).channel (t e))
    (hstep : step S epochs t action = some u) :
    ∀ e, Sound S (start left right e).channel (u e) := by
  cases action with
  | send e capability payload =>
    cases hstep
    exact forall_update (P := fun e s => Sound S (start left right e).channel s) h
      ((h e).send capability payload)
  | rotate e =>
    cases hstep
    exact forall_update (P := fun e s => Sound S (start left right e).channel s) h (h e).rotate
  | lose e =>
    cases hflight : (t e).flight with
    | nil => simp [step, hflight] at hstep
    | cons f rest =>
      simp only [step, hflight, Option.some.injEq] at hstep
      subst hstep
      exact forall_update (P := fun e s => Sound S (start left right e).channel s) h
        ((h e).lose hflight)
  | deliver e =>
    cases hflight : (t e).flight with
    | nil => simp [step, hflight] at hstep
    | cons f rest =>
      simp only [step, hflight, Option.some.injEq] at hstep
      subst hstep
      have hlost := forall_update (P := fun e s => Sound S (start left right e).channel s) h
        ((h e).lose hflight)
      exact forall_update (P := fun e s => Sound S (start left right e).channel s) hlost
        ((h e.other).receive f.frame)
  | inject e frame =>
    cases hstep
    exact forall_update (P := fun e s => Sound S (start left right e).channel s) h
      ((h e).receive frame)

/-! ## What is accepted -/

/-- Two channels that have just been set up for each other, with directions of their own. -/
structure Fresh (epochs : ℕ → ℤ) (left right : AuthenticatedSessionChannel) : Prop where
  paired : ∀ e, Paired (start left right e).channel (start left right e.other).channel
  session : ∀ e, (start left right e).channel.sessionBytes.length = 16
  directions : ∀ e, (start left right e).channel.sendDirection ≠
    (start left right e).channel.receiveDirection
  keyEpoch : ∀ e, (start left right e).channel.keyEpoch = epochs 0
  counters : ∀ e, (start left right e).channel.inboundSequence = 0 ∧
    (start left right e).channel.outboundSequence = 0

/-- **What an end accepts is a frame of the other end.** -/
lemma accepted_is_sent (hlength : ∀ key m, (S.hmac key m).length = 32)
    (hfresh : Fresh epochs left right) (hsound : ∀ e, Sound S (start left right e).channel (t e))
    {frame : ByteString} {d : DecodedFrame} (hunforged : t.Unforged S e frame)
    (haccept : ((t e).channel.decode S frame).2 = .ok d) :
    ∃ f ∈ (t e.other).sent, f.frame = frame := by
  obtain ⟨hadmits, -, -⟩ := decode_accepts haccept
  obtain ⟨key, hkey, htag⟩ := hadmits.tag
  obtain ⟨-, -, transcript, htranscript, rfl⟩ := deriveDirectionKey_eq_ok.mp hkey
  rw [Int.toNat_natCast] at htag
  obtain ⟨maker, f, hf, hmessage, hcontext⟩ := hunforged transcript htranscript htag
  have hmade := made_of_frame ((hsound maker).sent f hf)
  have hepoch : f.keyEpoch.toNat < 256 ^ 8 := by
    have hfits := hmade.epochFits
    simp only at hfits
    omega
  have hheader : (header frame).keyEpoch < 256 ^ 8 := by
    have hlt := header_keyEpoch_lt frame
    omega
  obtain ⟨hsame, hdirection⟩ := keyContext_inj hepoch hheader hcontext
  rcases e.eq_or_eq_other maker with rfl | rfl
  · -- an end does not take the direction in which it sends
    refine absurd ?_ (hfresh.directions maker)
    rw [← (hsound maker).identity.sendDirection, hdirection,
      (hsound maker).identity.receiveDirection]
  · refine ⟨f, hf, ?_⟩
    have hmeaning := hmade.says hlength (by exact hfresh.session e.other)
    obtain ⟨key', hkey', htag'⟩ := hmeaning.tag
    obtain ⟨-, -, transcript', htranscript', rfl⟩ := deriveDirectionKey_eq_ok.mp hkey'
    have hpaired := hfresh.paired e
    have hroot : (start left right e.other).channel.rootKey = (t e).channel.rootKey := by
      rw [hpaired.rootKey, (hsound e).identity.rootKey]
    have hsameTranscript : transcript' = transcript := by
      rw [hpaired.transcriptSha256, ← (hsound e).identity.transcriptSha256, htranscript]
        at htranscript'
      exact (Option.some.inj htranscript').symm
    have hsends : (start left right e.other).channel.sendDirection =
        (t e).channel.receiveDirection := by
      rw [hpaired.sends, (hsound e).identity.receiveDirection]
    refine (eq_of_message_eq hadmits.long ?_ hmessage.symm ?_).symm
    · rw [hmeaning.size]
      exact Nat.le_add_right _ _
    · rw [suppliedTag, htag, htag', hmessage]
      simp only [hroot, hsends, hsameTranscript, hsame]
      rfl

/-! ## What is delivered -/

/-- A frame on the line towards a receiver. -/
structure Travels (epochs : ℕ → ℤ) (receiver : AuthenticatedSessionChannel) (s : LinkSide)
    (f : SentFrame) : Prop where
  keyEpoch : f.keyEpoch = epochs f.turn
  ahead : receiver.inboundSequence < f.sequence
  counted : f.sequence ≤ s.channel.outboundSequence

/-- The ends have the epochs of the rotations they have made, and what is on the line is ahead of the
receiver. -/
structure Synced (epochs : ℕ → ℤ) (t : SessionLink) : Prop where
  keyEpoch : ∀ e, (t e).channel.keyEpoch = epochs (t e).turns
  previous : ∀ e n, (t e).turns = n + 1 → (t e).channel.previousKeyEpoch = epochs n ∧
    (t e).channel.previousAcceptUntil = (t e).mark + (t e).channel.rotationGraceFrames
  flight : ∀ e, ∀ f ∈ (t e).flight, Travels epochs (t e.other).channel (t e) f
  ordered : ∀ e, (t e).flight.Pairwise fun f g => f.sequence < g.sequence
  behind : ∀ e, (t e.other).channel.inboundSequence ≤ (t e).channel.outboundSequence
  counted : ∀ e, 0 ≤ (t e).channel.outboundSequence

/-- **A frame in the window is decoded** to what was put into it. -/
lemma decode_head (hlength : ∀ key m, (S.hmac key m).length = 32) (hfresh : Fresh epochs left right)
    (hsound : ∀ e, Sound S (start left right e).channel (t e)) (hsynced : Synced epochs t)
    (hf : f ∈ (t e).flight) (hwindow : t.InWindow e f) :
    (t e.other).channel.decode S f.frame =
      ({ (t e.other).channel with
          inboundSequence := f.sequence
          accepted := (t e.other).channel.accepted + 1 },
        .ok
          { sessionId := (t e).channel.sessionId
            keyEpoch := f.keyEpoch
            sequence := f.sequence
            capabilityId := f.capability
            payload := f.payload }) := by
  have hsent := (hsound e).flight f hf
  obtain ⟨hallowed, hpayload⟩ := (hsound e).allowed f hsent
  have htravels := hsynced.flight e f hf
  have hpaired : Paired { (start left right e).channel with keyEpoch := f.keyEpoch }
      (t e.other).channel :=
    { rootKey := (hsound e.other).identity.rootKey.trans (hfresh.paired e).rootKey
      sessionId := (hsound e.other).identity.sessionId.trans (hfresh.paired e).sessionId
      sessionBytes := (hsound e.other).identity.sessionBytes.trans (hfresh.paired e).sessionBytes
      transcriptSha256 :=
        (hsound e.other).identity.transcriptSha256.trans (hfresh.paired e).transcriptSha256
      allowed := (hsound e.other).identity.allowed.trans (hfresh.paired e).allowed
      receives := (hsound e.other).identity.receiveDirection.trans (hfresh.paired e).receives
      sends := (hsound e.other).identity.sendDirection.trans (hfresh.paired e).sends }
  have hepoch : f.keyEpoch = (t e.other).channel.keyEpoch ∨
      (f.keyEpoch = (t e.other).channel.previousKeyEpoch ∧
        f.sequence ≤ (t e.other).channel.previousAcceptUntil) := by
    rcases hwindow with hcurrent | ⟨hprevious, hgrace⟩
    · left
      rw [htravels.keyEpoch, hsynced.keyEpoch, hcurrent]
    · right
      obtain ⟨hkey, hlimit⟩ := hsynced.previous e.other f.turn hprevious.symm
      rw [htravels.keyEpoch, hkey, hlimit]
      exact ⟨rfl, hgrace⟩
  have hdecode := decode_frame hlength (by exact hfresh.session e) hpaired
    ((hsound e).sent f hsent) hallowed hpayload htravels.ahead hepoch
  rw [hdecode, (hsound e).identity.sessionId]

lemma synced_start (hfresh : Fresh epochs left right) : Synced epochs (start left right) := by
  have hturns : ∀ e, (start left right e).turns = 0 := by
    intro e
    cases e <;> rfl
  have hflight : ∀ e, (start left right e).flight = [] := by
    intro e
    cases e <;> rfl
  refine ⟨fun e => ?_, fun e n hn => ?_, fun e f hf => ?_, fun e => ?_, fun e => ?_, fun e => ?_⟩
  · rw [hturns]
    exact hfresh.keyEpoch e
  · rw [hturns] at hn
    omega
  · rw [hflight] at hf
    exact absurd hf List.not_mem_nil
  · rw [hflight]
    exact List.Pairwise.nil
  · rw [(hfresh.counters e.other).1, (hfresh.counters e).2]
  · rw [(hfresh.counters e).2]

lemma sound_start (e : LinkEnd) : Sound S (start left right e).channel (start left right e) := by
  cases e
  · exact ⟨.refl _, fun _ h => absurd h List.not_mem_nil, fun _ h => absurd h List.not_mem_nil,
      fun _ h => absurd h List.not_mem_nil⟩
  · exact ⟨.refl _, fun _ h => absurd h List.not_mem_nil, fun _ h => absurd h List.not_mem_nil,
      fun _ h => absurd h List.not_mem_nil⟩

/-- One side is in order, as seen from the other one. -/
structure InStep (epochs : ℕ → ℤ) (other s : LinkSide) : Prop where
  keyEpoch : s.channel.keyEpoch = epochs s.turns
  previous : ∀ n, s.turns = n + 1 → s.channel.previousKeyEpoch = epochs n ∧
    s.channel.previousAcceptUntil = s.mark + s.channel.rotationGraceFrames
  flight : ∀ f ∈ s.flight, Travels epochs other.channel s f
  ordered : s.flight.Pairwise fun f g => f.sequence < g.sequence
  ahead : ∀ f ∈ other.flight, s.channel.inboundSequence < f.sequence
  inbound : s.channel.inboundSequence ≤ other.channel.outboundSequence
  outbound : other.channel.inboundSequence ≤ s.channel.outboundSequence
  counted : 0 ≤ s.channel.outboundSequence

lemma Synced.inStep (h : Synced epochs t) (e : LinkEnd) : InStep epochs (t e.other) (t e) where
  keyEpoch := h.keyEpoch e
  previous := h.previous e
  flight := h.flight e
  ordered := h.ordered e
  ahead f hf := by
    have htravels := h.flight e.other f hf
    rw [LinkEnd.other_other] at htravels
    exact htravels.ahead
  inbound := by
    have hbehind := h.behind e.other
    rwa [LinkEnd.other_other] at hbehind
  outbound := h.behind e
  counted := h.counted e

lemma Synced.update (h : Synced epochs t)
    (hs : InStep epochs (t e.other) s) : Synced epochs (Function.update t e s) := by
  have hself : Function.update t e s e = s := Function.update_self e s t
  have hother : Function.update t e s e.other = t e.other :=
    Function.update_of_ne (LinkEnd.other_ne e) s t
  refine ⟨fun e' => ?_, fun e' => ?_, fun e' => ?_, fun e' => ?_, fun e' => ?_, fun e' => ?_⟩
  · rcases e.eq_or_eq_other e' with rfl | rfl
    · rw [hself]
      exact hs.keyEpoch
    · rw [hother]
      exact h.keyEpoch _
  · rcases e.eq_or_eq_other e' with rfl | rfl
    · rw [hself]
      exact hs.previous
    · rw [hother]
      exact h.previous _
  · rcases e.eq_or_eq_other e' with rfl | rfl
    · rw [hself, hother]
      exact hs.flight
    · rw [LinkEnd.other_other, hself, hother]
      intro f hf
      obtain ⟨hkey, -, hcounted⟩ := h.flight e.other f hf
      exact ⟨hkey, hs.ahead f hf, hcounted⟩
  · rcases e.eq_or_eq_other e' with rfl | rfl
    · rw [hself]
      exact hs.ordered
    · rw [hother]
      exact h.ordered _
  · rcases e.eq_or_eq_other e' with rfl | rfl
    · rw [hself, hother]
      exact hs.outbound
    · rw [LinkEnd.other_other, hself, hother]
      exact hs.inbound
  · rcases e.eq_or_eq_other e' with rfl | rfl
    · rw [hself]
      exact hs.counted
    · rw [hother]
      exact h.counted _

variable {other s : LinkSide}

lemma InStep.send (h : InStep epochs other s) (capability : ℤ) (payload : ByteString) :
    InStep epochs other (s.send S capability payload) := by
  cases hresult : (s.channel.encode S capability payload).2 with
  | error e =>
    simp only [LinkSide.send, hresult]
    rcases encode_state S s.channel capability payload with hsame | hnext
    · rw [hsame]
      exact h
    · rw [hnext]
      refine ⟨h.keyEpoch, h.previous, fun f hf => ?_, h.ordered, h.ahead, h.inbound, ?_,
        Int.le_add_one h.counted⟩
      · obtain ⟨hkey, hahead, hcounted⟩ := h.flight f hf
        exact ⟨hkey, hahead, Int.le_add_one hcounted⟩
      · exact Int.le_add_one h.outbound
  | ok frame =>
    obtain ⟨-, -, -, hnext⟩ := encode_sends hresult
    simp only [LinkSide.send, hresult, hnext]
    refine ⟨h.keyEpoch, h.previous, fun f hf => ?_, ?_, h.ahead, h.inbound, ?_,
      Int.le_add_one h.counted⟩
    · rcases List.mem_append.mp hf with hold | hnew
      · obtain ⟨hkey, hahead, hcounted⟩ := h.flight f hold
        exact ⟨hkey, hahead, Int.le_add_one hcounted⟩
      · obtain rfl := List.mem_singleton.mp hnew
        exact ⟨h.keyEpoch, Int.lt_add_one_of_le h.outbound, le_refl _⟩
    · refine List.pairwise_append.mpr ⟨h.ordered, List.pairwise_singleton _ _, ?_⟩
      intro f hf g hg
      obtain rfl := List.mem_singleton.mp hg
      exact Int.lt_add_one_of_le (h.flight f hf).counted
    · exact Int.le_add_one h.outbound

lemma InStep.rotate (hmono : StrictMono epochs) (h : InStep epochs other s) :
    InStep epochs other (s.rotate epochs) := by
  have hadvances : ¬ epochs (s.turns + 1) ≤ s.channel.keyEpoch := by
    rw [h.keyEpoch, not_le]
    exact hmono (Nat.lt_succ_self _)
  simp only [LinkSide.rotate, AuthenticatedSessionChannel.rotate, if_neg hadvances]
  refine ⟨rfl, fun n hn => ?_, fun f hf => ?_, h.ordered, h.ahead, h.inbound, h.outbound, h.counted⟩
  · obtain rfl : s.turns = n := Nat.succ.inj hn
    exact ⟨h.keyEpoch, rfl⟩
  · obtain ⟨hkey, hahead, hcounted⟩ := h.flight f hf
    exact ⟨hkey, hahead, hcounted⟩

lemma InStep.lose {rest : List SentFrame} (h : InStep epochs other s)
    (hflight : s.flight = f :: rest) : InStep epochs other { s with flight := rest } := by
  have hsub : ∀ g ∈ rest, g ∈ s.flight := by
    intro g hg
    rw [hflight]
    exact List.mem_cons_of_mem f hg
  have hordered := h.ordered
  rw [hflight] at hordered
  refine ⟨h.keyEpoch, h.previous, fun g hg => ?_, hordered.of_cons, h.ahead, h.inbound, h.outbound,
    h.counted⟩
  obtain ⟨hkey, hahead, hcounted⟩ := h.flight g (hsub g hg)
  exact ⟨hkey, hahead, hcounted⟩

/-- **Each action on a line that only loses frames** keeps the ends in step. -/
lemma synced_step (hlength : ∀ key m, (S.hmac key m).length = 32) (hfresh : Fresh epochs left right)
    (hmono : StrictMono epochs) (hsound : ∀ e, Sound S (start left right e).channel (t e))
    (hsynced : Synced epochs t) (hok : LossOnly S t action)
    (hstep : step S epochs t action = some u) : Synced epochs u := by
  cases action with
  | send e capability payload =>
    cases hstep
    exact hsynced.update ((hsynced.inStep e).send capability payload)
  | rotate e =>
    cases hstep
    exact hsynced.update ((hsynced.inStep e).rotate hmono)
  | lose e =>
    cases hflight : (t e).flight with
    | nil => simp [step, hflight] at hstep
    | cons f rest =>
      simp only [step, hflight, Option.some.injEq] at hstep
      subst hstep
      exact hsynced.update ((hsynced.inStep e).lose hflight)
  | deliver e =>
    cases hflight : (t e).flight with
    | nil => simp [step, hflight] at hstep
    | cons f rest =>
      simp only [step, hflight, Option.some.injEq] at hstep
      subst hstep
      have hf : f ∈ (t e).flight := by
        rw [hflight]
        exact List.mem_cons_self
      have hdecode := decode_head hlength hfresh hsound hsynced hf (hok f rest hflight)
      have htravels := hsynced.flight e f hf
      have hordered := hsynced.ordered e
      rw [hflight, List.pairwise_cons] at hordered
      have hlost := hsynced.update ((hsynced.inStep e).lose hflight)
      have hreceiver := hlost.inStep e.other
      have hsender : Function.update t e { t e with flight := rest } e.other.other =
          { t e with flight := rest } := by
        rw [LinkEnd.other_other, Function.update_self]
      rw [hsender, Function.update_of_ne (LinkEnd.other_ne e)] at hreceiver
      refine hlost.update ?_
      rw [hsender, LinkSide.receive, hdecode]
      refine ⟨hreceiver.keyEpoch, hreceiver.previous, fun g hg => ?_, hreceiver.ordered,
        hordered.1, htravels.counted, hreceiver.outbound, hreceiver.counted⟩
      obtain ⟨hkey, hahead, hcounted⟩ := hreceiver.flight g hg
      exact ⟨hkey, hahead, hcounted⟩
  | inject e frame =>
    cases hstep
    obtain ⟨hunforged, hnotSent⟩ := hok
    cases hresult : ((t e).channel.decode S frame).2 with
    | ok d =>
      obtain ⟨f, hf, hframe⟩ := accepted_is_sent hlength hfresh hsound hunforged hresult
      exact absurd hframe (hnotSent f hf)
    | error err =>
      have hrefused := decode_refuses hresult
      have hstill := hsynced.inStep e
      refine hsynced.update ?_
      rw [LinkSide.receive, hrefused]
      refine ⟨hstill.keyEpoch, hstill.previous, fun f hf => ?_, hstill.ordered, hstill.ahead,
        hstill.inbound, hstill.outbound, hstill.counted⟩
      obtain ⟨hkey, hahead, hcounted⟩ := hstill.flight f hf
      exact ⟨hkey, hahead, hcounted⟩

end SessionLink

/-! ## Every run -/

section

open TransitionSystem AuthenticatedSessionChannel SessionLink

variable {S : ChannelSetup} {epochs : ℕ → ℤ} {left right : AuthenticatedSessionChannel}

lemma init_eq_ok {rootKey : ByteString} {sessionId transcriptSha256 send receive : String}
    {capabilities : List ℤ} {keyEpoch grace : ℤ} {c : AuthenticatedSessionChannel}
    (h : init S rootKey sessionId transcriptSha256 capabilities send receive keyEpoch grace =
      .ok c) :
    ∃ bytes key, readSessionId sessionId = .ok bytes ∧
      deriveDirectionKey S rootKey transcriptSha256 keyEpoch send = .ok key ∧
      c =
        { rootKey := rootKey
          sessionId := sessionId
          sessionBytes := bytes
          transcriptSha256 := transcriptSha256
          allowed := (capabilities.filter fun value => 0 < value).toFinset
          sendDirection := send
          receiveDirection := receive
          keyEpoch := keyEpoch
          rotationGraceFrames := max 0 (min grace 1024) } := by
  simp only [init, bind_eq_ok] at h
  obtain ⟨bytes, hbytes, key, hkey, hc⟩ := h
  exact ⟨bytes, key, hbytes, hkey, (Except.ok.inj hc).symm⟩

lemma length_of_readSessionId {sessionId : String} {bytes : ByteString}
    (h : readSessionId sessionId = .ok bytes) : bytes.length = 16 := by
  unfold readSessionId at h
  split at h
  · cases h
  · split_ifs at h with hlength
    cases h
    exact not_not.mp hlength

lemma fresh_of_init {rootKey : ByteString} {sessionId transcriptSha256 d d' : String}
    {capabilities : List ℤ} {grace grace' : ℤ}
    (hleft : init S rootKey sessionId transcriptSha256 capabilities d d' (epochs 0) grace =
      .ok left)
    (hright : init S rootKey sessionId transcriptSha256 capabilities d' d (epochs 0) grace' =
      .ok right)
    (hdirections : d ≠ d') : Fresh epochs left right := by
  obtain ⟨bytes, key, hbytes, -, rfl⟩ := init_eq_ok hleft
  obtain ⟨bytes', key', hbytes', -, rfl⟩ := init_eq_ok hright
  obtain rfl : bytes = bytes' := Except.ok.inj (hbytes.symm.trans hbytes')
  have hlength := length_of_readSessionId hbytes
  refine ⟨fun e => ?_, fun e => ?_, fun e => ?_, fun e => ?_, fun e => ?_⟩
  · cases e
    · exact ⟨rfl, rfl, rfl, rfl, rfl, rfl, rfl⟩
    · exact ⟨rfl, rfl, rfl, rfl, rfl, rfl, rfl⟩
  · cases e
    · exact hlength
    · exact hlength
  · cases e
    · exact hdirections
    · exact hdirections.symm
  · cases e
    · rfl
    · rfl
  · cases e
    · exact ⟨rfl, rfl⟩
    · exact ⟨rfl, rfl⟩

lemma encode_returns {c k : AuthenticatedSessionChannel} {key payload : ByteString} {capability : ℤ}
    (hidentity : SameIdentity c k)
    (hkey : deriveDirectionKey S c.rootKey c.transcriptSha256 c.keyEpoch c.sendDirection = .ok key)
    (hepoch : c.keyEpoch ≤ k.keyEpoch) (hfits : k.keyEpoch < 2 ^ 64)
    (hsequence : 0 ≤ k.outboundSequence) (hroom : k.outboundSequence + 1 < 2 ^ 64)
    (hallowed : capability ∈ k.allowed) (hpositive : 0 ≤ capability) (hsmall : capability < 2 ^ 64)
    (hpayload : payload.length ≤ maxPayload) :
    ∃ frame, (k.encode S capability payload).2 = .ok frame := by
  obtain ⟨⟨hroot, htranscript, hone, hdirection⟩, -, transcript, hhex, -⟩ :=
    deriveDirectionKey_eq_ok.mp hkey
  have hmine : deriveDirectionKey S k.rootKey k.transcriptSha256 k.keyEpoch k.sendDirection =
      .ok (S.hmac k.rootKey (keyContext transcript k.keyEpoch.toNat k.sendDirection)) := by
    rw [hidentity.rootKey, hidentity.transcriptSha256, hidentity.sendDirection]
    exact deriveDirectionKey_eq_ok.mpr
      ⟨⟨hroot, htranscript, hone.trans hepoch, hdirection⟩, hfits, transcript, hhex, rfl⟩
  have hsize : payload.length < 2 ^ 32 := by
    rw [maxPayload] at hpayload
    omega
  have hheader : ∃ header, packPrefix k.sessionBytes k.keyEpoch (k.outboundSequence + 1) capability
      payload.length = .ok header := by
    simp only [packPrefix, bind_eq_ok, require_eq_ok, exists_const]
    exact ⟨_, ⟨by omega, hfits, by omega, hroom, hpositive, hsmall, hsize⟩, rfl⟩
  obtain ⟨header, hheader⟩ := hheader
  have hframe : k.frame S (k.outboundSequence + 1) capability payload =
      .ok (header ++ S.hmac (S.hmac k.rootKey (keyContext transcript k.keyEpoch.toNat
        k.sendDirection)) (header ++ payload) ++ payload) := by
    simp only [frame, bind_eq_ok]
    exact ⟨header, hheader, _, hmine, rfl⟩
  rw [AuthenticatedSessionChannel.encode, if_neg (not_not.mpr hallowed), if_neg (not_lt.mpr hpayload)]
  exact ⟨_, hframe⟩

variable (S epochs) in
lemma sound_of_reaches {ok : SessionLink → LinkAction → Prop} {actions : List LinkAction}
    {t : SessionLink} (h : Reaches (step S epochs) ok (start left right) actions t) :
    ∀ e, Sound S (start left right e).channel (t e) := by
  refine h.invariant (I := fun t => ∀ e, Sound S (start left right e).channel (t e)) sound_start ?_
  intro v action w hsound _ hstep
  exact sound_step hsound hstep

lemma synced_of_reaches (hlength : ∀ key m, (S.hmac key m).length = 32)
    (hfresh : Fresh epochs left right) (hmono : StrictMono epochs) {actions : List LinkAction}
    {t : SessionLink}
    (h : Reaches (step S epochs) (LossOnly S) (start left right) actions t) :
    Synced epochs t := by
  have hsound := h.assuming (I := fun t => ∀ e, Sound S (start left right e).channel (t e))
    sound_start (by
      intro v action w hv _ hstep
      exact sound_step hv hstep)
  refine hsound.invariant (I := Synced epochs) (synced_start hfresh) ?_
  intro v action w hsynced hok hstep
  exact synced_step hlength hfresh hmono hok.2 hsynced hok.1 hstep

/-- **The frame codec.** On a line that only loses frames each end can send any capability it is
allowed to, as long as its epoch and its number fit, and a frame in the window is decoded to what was
put into it. And whatever is presented, an end accepts frames of the other end only, and counts the
others. -/
theorem session_frames {rootKey : ByteString} {sessionId transcriptSha256 d d' : String}
    {capabilities : List ℤ} {grace grace' : ℤ}
    (hlength : ∀ key m, (S.hmac key m).length = 32)
    (hleft : init S rootKey sessionId transcriptSha256 capabilities d d' (epochs 0) grace =
      .ok left)
    (hright : init S rootKey sessionId transcriptSha256 capabilities d' d (epochs 0) grace' =
      .ok right)
    (hdirections : d ≠ d') (hmono : StrictMono epochs) :
    (∀ actions t, Reaches (step S epochs) (LossOnly S) (start left right) actions t → ∀ e,
      (∀ capability payload, capability ∈ (t e).channel.allowed → capability < 2 ^ 64 →
        payload.length ≤ maxPayload → epochs (t e).turns < 2 ^ 64 →
        (t e).channel.outboundSequence + 1 < 2 ^ 64 →
        ∃ frame, ((t e).channel.encode S capability payload).2 = .ok frame) ∧
      (∀ f rest, (t e).flight = f :: rest → t.InWindow e f →
        ((t e.other).channel.decode S f.frame).2 =
          .ok
            { sessionId := (t e).channel.sessionId
              keyEpoch := f.keyEpoch
              sequence := f.sequence
              capabilityId := f.capability
              payload := f.payload })) ∧
    (∀ actions t, Reaches (step S epochs) (Adversarial S) (start left right) actions t →
      ∀ e frame, t.Unforged S e frame →
        (∀ decoded, ((t e).channel.decode S frame).2 = .ok decoded →
          ∃ f ∈ (t e.other).sent, f.frame = frame) ∧
        (∀ err, ((t e).channel.decode S frame).2 = .error err →
          ((t e).channel.decode S frame).1 =
            { (t e).channel with rejected := (t e).channel.rejected + 1 })) := by
  have hfresh := fresh_of_init hleft hright hdirections
  constructor
  · intro actions t hreach e
    have hsound := sound_of_reaches S epochs hreach
    have hsynced := synced_of_reaches hlength hfresh hmono hreach
    constructor
    · intro capability payload hallowed hsmall hpayload hepoch hroom
      have hkeys : ∃ key, deriveDirectionKey S (start left right e).channel.rootKey
          (start left right e).channel.transcriptSha256 (start left right e).channel.keyEpoch
          (start left right e).channel.sendDirection = .ok key := by
        obtain ⟨bytes, key, -, hkey, rfl⟩ := init_eq_ok hleft
        obtain ⟨bytes', key', -, hkey', rfl⟩ := init_eq_ok hright
        cases e
        · exact ⟨key, hkey⟩
        · exact ⟨key', hkey'⟩
      have hpositive : 0 ≤ capability := by
        rw [(hsound e).identity.allowed] at hallowed
        obtain ⟨bytes, key, -, hkey, rfl⟩ := init_eq_ok hleft
        obtain ⟨bytes', key', -, hkey', rfl⟩ := init_eq_ok hright
        have hmem : capability ∈ capabilities.filter fun value => 0 < value := by
          cases e
          · exact List.mem_toFinset.mp hallowed
          · exact List.mem_toFinset.mp hallowed
        have hlt : 0 < capability := by simpa using (List.mem_filter.mp hmem).2
        exact hlt.le
      obtain ⟨key, hkey⟩ := hkeys
      refine encode_returns (hsound e).identity hkey ?_ ?_ (hsynced.counted e) hroom hallowed
        hpositive hsmall hpayload
      · rw [hfresh.keyEpoch, hsynced.keyEpoch]
        exact hmono.monotone (Nat.zero_le _)
      · rw [hsynced.keyEpoch]
        exact hepoch
    · intro f rest hflight hwindow
      have hf : f ∈ (t e).flight := by
        rw [hflight]
        exact List.mem_cons_self
      exact congrArg Prod.snd (decode_head hlength hfresh hsound hsynced hf hwindow)
  · intro actions t hreach e frame hunforged
    have hsound := sound_of_reaches S epochs hreach
    exact ⟨fun decoded haccept => accepted_is_sent hlength hfresh hsound hunforged haccept,
      fun err => decode_refuses⟩

def exampleEpochs (n : ℕ) : ℤ := n + 1

lemma exampleChannel_init :
    init exampleChannelSetup (utf8 "root-key") "00112233445566778899aabbccddeeff" exampleTranscript
        [100, 200] "a2b" "b2a" 1 32 = .ok (exampleChannel "a2b" "b2a") ∧
      init exampleChannelSetup (utf8 "root-key") "00112233445566778899aabbccddeeff"
        exampleTranscript [100, 200] "b2a" "a2b" 1 32 = .ok (exampleChannel "b2a" "a2b") := by
  decide +kernel

/-- The line after the first frame of the left end. -/
def helloLink : SessionLink :=
  Function.update (start (exampleChannel "a2b" "b2a") (exampleChannel "b2a" "a2b")) .left
    (LinkSide.send exampleChannelSetup { channel := exampleChannel "a2b" "b2a" } 100 (utf8 "hello"))

theorem session_frames_hello :
    ((helloLink .right).channel.decode exampleChannelSetup (helloFrame "a2b")).2 =
      .ok
        { sessionId := "00112233445566778899aabbccddeeff"
          keyEpoch := 1
          sequence := 1
          capabilityId := 100
          payload := utf8 "hello" } := by
  have hsent : Reaches (step exampleChannelSetup exampleEpochs) (LossOnly exampleChannelSetup)
      (start (exampleChannel "a2b" "b2a") (exampleChannel "b2a" "a2b"))
      ([] ++ [.send .left 100 (utf8 "hello")]) helloLink := Reaches.snoc .refl trivial rfl
  have hmono : StrictMono exampleEpochs := by
    intro m n hmn
    simp only [exampleEpochs]
    omega
  have hdirections : "a2b" ≠ "b2a" := by decide
  obtain ⟨hline, -⟩ := session_frames exampleChannelSetup_length exampleChannel_init.1
    exampleChannel_init.2 hdirections hmono
  have hflight : (helloLink .left).flight =
      [LinkSide.record { channel := exampleChannel "a2b" "b2a" } 100 (utf8 "hello")
        (helloFrame "a2b")] := by
    decide +kernel
  exact (hline _ _ hsent .left).2 _ [] hflight (.inl rfl)

/-- **Where the codec fails.** An epoch that does not fit eight bytes is entered and no frame can be
made in it; if both ends send in one direction, an end accepts its own frames; and ends that begin
with different epochs do not understand each other. -/
theorem session_frames_fail : (((exampleChannel "a2b" "b2a").rotate (2 ^ 64)).2 = .ok () ∧
      (((exampleChannel "a2b" "b2a").rotate (2 ^ 64)).1.encode exampleChannelSetup 100
        (utf8 "hello")).2 = .error .structError) ∧
    (init exampleChannelSetup (utf8 "root-key") "00112233445566778899aabbccddeeff"
        exampleTranscript [100, 200] "both" "both" 1 32 = .ok (exampleChannel "both" "both") ∧
      ∃ frame decoded,
        ((exampleChannel "both" "both").encode exampleChannelSetup 100 (utf8 "hello")).2 =
          .ok frame ∧
        (((exampleChannel "both" "both").encode exampleChannelSetup 100 (utf8 "hello")).1.decode
          exampleChannelSetup frame).2 = .ok decoded) ∧
    (init exampleChannelSetup (utf8 "root-key") "00112233445566778899aabbccddeeff"
        exampleTranscript [100, 200] "b2a" "a2b" 2 32 =
          .ok { exampleChannel "b2a" "a2b" with keyEpoch := 2 } ∧
      ((exampleChannel "a2b" "b2a").encode exampleChannelSetup 100 (utf8 "hello")).2 =
        .ok (helloFrame "a2b") ∧
      ({ exampleChannel "b2a" "a2b" with keyEpoch := 2 }.decode exampleChannelSetup
        (helloFrame "a2b")).2 = .error (.valueError "session key epoch is not accepted")) := by
  refine ⟨⟨by decide +kernel, by decide +kernel⟩, ⟨by decide +kernel, ?_⟩, by decide +kernel⟩
  refine ⟨helloFrame "both", decoded (exampleChannel "both" "both") (helloFrame "both"), ?_, ?_⟩
  · decide +kernel
  · decide +kernel

end

end StageForge
