import Mathlib.Data.Fintype.Basic

/-!
# The MIDI byte parser

`MidiByteParser` of `native/include/stageforge/midi_input.hpp` takes a byte stream apart into channel messages.
-/

namespace StageForge

structure MidiInputMessage where
  showTimeNs : UInt64
  status : UInt8
  data1 : UInt8
  data2 : UInt8
  deriving DecidableEq

abbrev TimedByte := UInt64 × UInt8

/-! ## The parser -/

structure MidiByteParser where
  runningStatus : UInt8 := 0
  messageStatus : UInt8 := 0
  data : UInt8 × UInt8 := (0, 0)
  expected : ℕ := 0
  received : ℕ := 0
  inSysex : Bool := false
  deriving DecidableEq

namespace MidiByteParser

def dataLength (status : UInt8) : ℕ := let high := status &&& 0xF0
  if 0x80 ≤ high ∧ high ≤ 0xE0 then (if high = 0xC0 ∨ high = 0xD0 then 1 else 2)
  else if status = 0xF1 then 1
  else if status = 0xF2 then 2
  else if status = 0xF3 then 1
  else 0

/-- `data_[received_] = byte & 0x7F`, within the array. -/
def store (data : UInt8 × UInt8) (received : ℕ) (byte : UInt8) : UInt8 × UInt8 :=
  match received with
  | 0 => (byte &&& 0x7F, data.2)
  | 1 => (data.1, byte &&& 0x7F)
  | _ => data

/-- The part of `feed` for a status byte. -/
def feedStatus (p : MidiByteParser) (byte : UInt8) : MidiByteParser :=
  let p := { p with received := 0, messageStatus := byte, expected := dataLength byte }
  if byte = 0xF0 then { p with inSysex := true, runningStatus := 0, expected := 0 }
  else if byte < 0xF0 then { p with runningStatus := byte }
  else { p with runningStatus := 0 }

/-- The part of `feed` for a data byte of a message. -/
def feedData (p : MidiByteParser) (byte : UInt8) (showTimeNs : UInt64) :
    MidiByteParser × Option MidiInputMessage :=
  let p := { p with data := store p.data p.received byte, received := p.received + 1 }
  if p.received < p.expected then (p, none)
  else
    let out : MidiInputMessage :=
      ⟨showTimeNs, p.messageStatus, p.data.1, if p.expected > 1 then p.data.2 else 0⟩
    let next := if p.messageStatus < 0xF0 ∧ p.runningStatus ≠ 0 then
        { p with received := 0, messageStatus := p.runningStatus, expected := dataLength p.runningStatus }
      else { p with received := 0, messageStatus := 0, expected := 0 }
    (next, if p.messageStatus < 0xF0 then some out else none)

/-- `feed`, with the message it returns `true` for. -/
def feed (p : MidiByteParser) (byte : UInt8) (showTimeNs : UInt64) : MidiByteParser × Option MidiInputMessage :=
  if 0xF8 ≤ byte then (p, none)
  else if p.inSysex then ({ p with inSysex := decide (byte ≠ 0xF7) }, none)
  else if byte &&& 0x80 ≠ 0 then (p.feedStatus byte, none)
  else if p.expected = 0 then
    if p.runningStatus = 0 then (p, none)
    else
      { p with
        messageStatus := p.runningStatus
        expected := dataLength p.runningStatus
        received := 0 }.feedData byte showTimeNs
  else p.feedData byte showTimeNs

def parse (p : MidiByteParser) : List TimedByte → List MidiInputMessage
  | [] => []
  | (time, byte) :: rest => (p.feed byte time).2.toList ++ (p.feed byte time).1.parse rest

end MidiByteParser

/-! ## The decoder -/

/-- How many data bytes follow the status byte of a channel message. -/
def channelDataLength (status : UInt8) : ℕ := if 0xC0 ≤ status ∧ status < 0xE0 then 1 else 2

/-- What a decoder knows between two bytes: the status of the channel messages that are running with the data of
the next one so far, or that data bytes are none of its business. -/
inductive MidiDecoder
  | idle
  | exclusive
  | channel (status : UInt8) (data : List UInt8)
  deriving DecidableEq

def channelMessage (showTimeNs : UInt64) (status : UInt8) (data : List UInt8) : MidiInputMessage :=
  ⟨showTimeNs, status, data.getD 0 0, data.getD 1 0⟩

namespace MidiDecoder

def step (d : MidiDecoder) (byte : UInt8) (showTimeNs : UInt64) : MidiDecoder × Option MidiInputMessage :=
  -- real-time bytes may stand anywhere
  if 0xF8 ≤ byte then (d, none)
  -- an exclusive message begins, or running status ends
  else if byte = 0xF0 then (.exclusive, none)
  else if 0xF0 < byte then (.idle, none)
  else if 0x80 ≤ byte then (.channel byte [], none)
  else match d with
    | .channel status data =>
      if (data ++ [byte]).length < channelDataLength status then (.channel status (data ++ [byte]), none)
      else (.channel status [], some (channelMessage showTimeNs status (data ++ [byte])))
    | other => (other, none)

def decode (d : MidiDecoder) : List TimedByte → List MidiInputMessage
  | [] => []
  | (time, byte) :: rest => (d.step byte time).2.toList ++ (d.step byte time).1.decode rest

end MidiDecoder

/-! ## What is swallowed -/

/-- The stream goes on with as many data bytes, real-time bytes aside. -/
def startsWithData : ℕ → List TimedByte → Bool
  | 0, _ => true
  | _ + 1, [] => false
  | n + 1, (_, byte) :: rest =>
    if 0xF8 ≤ byte then startsWithData (n + 1) rest
    else if byte < 0x80 then startsWithData n rest
    else false

/-- Whether the last of `F0` and `F7` is `F0`. -/
def exclusiveAfter (exclusive : Bool) (byte : UInt8) : Bool :=
  if byte = 0xF0 then true else if byte = 0xF7 then false else exclusive

/-- Between an `F0` and the next `F7` there is the status byte of a channel message that its data bytes follow. -/
def swallows (exclusive : Bool) : List TimedByte → Bool
  | [] => false
  | (_, byte) :: rest =>
    (exclusive && decide (0x80 ≤ byte ∧ byte < 0xF0) && startsWithData (channelDataLength byte) rest) ||
      swallows (exclusiveAfter exclusive byte) rest

/-! ## Bytes -/

section

variable {byte status : UInt8} {time : UInt64} {rest : List TimedByte}

lemma forall_byte {P : UInt8 → Prop} (h : ∀ n : Fin 256, P (UInt8.ofFin n)) (byte : UInt8) : P byte :=
  h byte.toFin

lemma status_bit_iff : byte &&& 0x80 ≠ 0 ↔ 0x80 ≤ byte :=
  forall_byte (P := fun byte => byte &&& 0x80 ≠ 0 ↔ 0x80 ≤ byte) (by decide +kernel) byte

lemma data_bits (h : byte < 0x80) : byte &&& 0x7F = byte :=
  forall_byte (P := fun byte => byte < 0x80 → byte &&& 0x7F = byte) (by decide +kernel) byte h

lemma dataLength_channel (h : 0x80 ≤ status ∧ status < 0xF0) :
    MidiByteParser.dataLength status = channelDataLength status :=
  forall_byte (P := fun status => 0x80 ≤ status ∧ status < 0xF0 →
    MidiByteParser.dataLength status = channelDataLength status) (by decide +kernel) status h

lemma channelDataLength_cases (status : UInt8) : channelDataLength status = 1 ∨ channelDataLength status = 2 := by
  unfold channelDataLength
  split_ifs <;> simp

lemma startsWithData_realtime (hbyte : 0xF8 ≤ byte) (n : ℕ) :
    startsWithData n ((time, byte) :: rest) = startsWithData n rest := by
  cases n with
  | zero => simp [startsWithData]
  | succ n => simp [startsWithData, hbyte]

lemma startsWithData_data (hbyte : byte < 0x80) (n : ℕ) :
    startsWithData (n + 1) ((time, byte) :: rest) = startsWithData n rest := by
  have hno : ¬0xF8 ≤ byte := by grind
  simp [startsWithData, hno, hbyte]

lemma startsWithData_status (hbyte : 0x80 ≤ byte) (hlow : ¬0xF8 ≤ byte) (n : ℕ) :
    startsWithData (n + 1) ((time, byte) :: rest) = false := by
  have hno : ¬byte < 0x80 := by grind
  simp [startsWithData, hlow, hno]

end

/-! ## Parser and decoder in step -/

/-- The parser stands where the decoder does. -/
inductive InPhase : MidiByteParser → MidiDecoder → Prop
  | idle {p : MidiByteParser} (hsysex : p.inSysex = false) (hrunning : p.runningStatus = 0)
      (hmessage : p.expected = 0 ∨ 0xF0 ≤ p.messageStatus) : InPhase p .idle
  | channel {p : MidiByteParser} {status : UInt8} {data : List UInt8} (hsysex : p.inSysex = false)
      (hstatus : 0x80 ≤ status ∧ status < 0xF0) (hrunning : p.runningStatus = status)
      (hmessage : p.messageStatus = status) (hexpected : p.expected = channelDataLength status)
      (hdata : (p.received = 0 ∧ data = []) ∨
        (p.received = 1 ∧ data = [p.data.1] ∧ channelDataLength status = 2)) : InPhase p (.channel status data)

/-- The parser passes over everything up to the next `F7`. -/
structure Skipping (p : MidiByteParser) : Prop where
  sysex : p.inSysex = true
  running : p.runningStatus = 0
  expected : p.expected = 0

section

variable {p : MidiByteParser} {d : MidiDecoder} {byte : UInt8} {time : UInt64}

lemma InPhase.inSysex (h : InPhase p d) : p.inSysex = false := by
  cases h with
  | idle hsysex => exact hsysex
  | channel hsysex => exact hsysex

lemma step_realtime (h : 0xF8 ≤ byte) : d.step byte time = (d, none) := if_pos h

lemma feed_realtime (h : 0xF8 ≤ byte) : p.feed byte time = (p, none) := if_pos h

open MidiByteParser

lemma feed_status (hsysex : p.inSysex = false) (hlow : ¬0xF8 ≤ byte) (h : 0x80 ≤ byte) :
    p.feed byte time = (p.feedStatus byte, none) := by
  unfold feed
  rw [if_neg hlow, hsysex, if_neg Bool.false_ne_true, if_pos (status_bit_iff.mpr h)]

lemma feed_data (hsysex : p.inSysex = false) (h : byte < 0x80) : p.feed byte time =
    if p.expected = 0 then
      if p.runningStatus = 0 then (p, none)
      else
        { p with
          messageStatus := p.runningStatus
          expected := dataLength p.runningStatus
          received := 0 }.feedData byte time
    else p.feedData byte time := by
  have hlow : ¬0xF8 ≤ byte := by grind
  have hbit : ¬byte &&& 0x80 ≠ 0 := by
    intro hbit
    have hstatus := status_bit_iff.mp hbit
    grind
  unfold feed
  rw [if_neg hlow, hsysex, if_neg Bool.false_ne_true, if_neg hbit]

lemma inPhase_idle_data (hsysex : p.inSysex = false) (hrunning : p.runningStatus = 0)
    (hmessage : p.expected = 0 ∨ 0xF0 ≤ p.messageStatus) (hbyte : byte < 0x80) :
    (p.feed byte time).2 = none ∧ InPhase (p.feed byte time).1 .idle := by
  rw [feed_data hsysex hbyte]
  split_ifs with hexpected
  · exact ⟨rfl, .idle hsysex hrunning hmessage⟩
  · have hcommon : 0xF0 ≤ p.messageStatus := hmessage.resolve_left hexpected
    have hno : ¬p.messageStatus < 0xF0 := by grind
    unfold feedData
    dsimp only
    split_ifs with hmore hvoice
    · exact ⟨rfl, .idle hsysex hrunning (.inr hcommon)⟩
    · exact absurd hvoice.1 hno
    · exact ⟨rfl, .idle hsysex hrunning (.inl rfl)⟩

lemma inPhase_channel_data {status : UInt8} {data : List UInt8} (h : InPhase p (.channel status data))
    (hbyte : byte < 0x80) :
    (p.feed byte time).2 = ((MidiDecoder.channel status data).step byte time).2 ∧
      InPhase (p.feed byte time).1 ((MidiDecoder.channel status data).step byte time).1 := by
  obtain ⟨_, _⟩ | ⟨hsysex, hstatus, hrunning, hmessage, hexpected, hdata⟩ := h
  have hsome : ¬p.expected = 0 := by
    rcases channelDataLength_cases status with hone | htwo <;> omega
  have hvoice : p.messageStatus < 0xF0 := hmessage ▸ hstatus.2
  have hrun : p.runningStatus ≠ 0 := by
    rw [hrunning]
    grind
  have hnext : p.messageStatus < 0xF0 ∧ p.runningStatus ≠ 0 := ⟨hvoice, hrun⟩
  have hstep : (MidiDecoder.channel status data).step byte time =
      if (data ++ [byte]).length < channelDataLength status then (.channel status (data ++ [byte]), none)
      else (.channel status [], some (channelMessage time status (data ++ [byte]))) := by
    have hlow : ¬0xF8 ≤ byte := by grind
    have hexclusive : byte ≠ 0xF0 := by grind
    have hcommon : ¬0xF0 < byte := by grind
    have hno : ¬0x80 ≤ byte := by grind
    unfold MidiDecoder.step
    rw [if_neg hlow, if_neg hexclusive, if_neg hcommon, if_neg hno]
  rw [feed_data hsysex hbyte, if_neg hsome, hstep]
  unfold feedData
  rcases hdata with ⟨hreceived, rfl⟩ | ⟨hreceived, rfl, htwo⟩
  · have hstored : store p.data p.received byte = (byte, p.data.2) := by
      rw [hreceived, store, data_bits hbyte]
    dsimp only
    rw [hstored, hreceived, hexpected]
    rcases channelDataLength_cases status with hone | htwo
    · rw [hone, if_neg (by decide), if_pos hnext, if_pos hvoice, hmessage]
      refine ⟨rfl, .channel hsysex hstatus hrunning hrunning ?_ (.inl ⟨rfl, rfl⟩)⟩
      exact hrunning ▸ dataLength_channel (hrunning ▸ hstatus)
    · rw [htwo, if_pos (by decide), if_pos (by simp)]
      exact ⟨rfl, .channel hsysex hstatus hrunning hmessage htwo.symm (.inr ⟨rfl, rfl, htwo⟩)⟩
  · have hstored : store p.data p.received byte = (p.data.1, byte) := by
      rw [hreceived, store, data_bits hbyte]
    dsimp only
    rw [hstored, hreceived, hexpected, htwo, if_neg (by decide), if_pos hnext, if_pos hvoice, hmessage]
    refine ⟨rfl, .channel hsysex hstatus hrunning hrunning ?_ (.inl ⟨rfl, rfl⟩)⟩
    exact hrunning ▸ dataLength_channel (hrunning ▸ hstatus)

/-- **What the step lemma says.** A byte other than `F0` leaves both in step, with the same message or none. -/
lemma inPhase_feed (time : UInt64) (h : InPhase p d) (hbyte : byte ≠ 0xF0) :
    (p.feed byte time).2 = (d.step byte time).2 ∧ InPhase (p.feed byte time).1 (d.step byte time).1 := by
  by_cases hrealtime : 0xF8 ≤ byte
  · rw [feed_realtime hrealtime, step_realtime hrealtime]
    exact ⟨rfl, h⟩
  by_cases hstatus : 0x80 ≤ byte
  · rw [feed_status h.inSysex hrealtime hstatus]
    unfold MidiDecoder.step feedStatus
    rw [if_neg hrealtime, if_neg hbyte, if_neg hbyte]
    by_cases hcommon : 0xF0 < byte
    · have hno : ¬byte < 0xF0 := by grind
      rw [if_pos hcommon, if_neg hno]
      exact ⟨rfl, .idle h.inSysex rfl (.inr (by grind))⟩
    · have hvoice : byte < 0xF0 := by grind
      rw [if_neg hcommon, if_pos hvoice, if_pos hstatus]
      exact ⟨rfl, .channel h.inSysex ⟨hstatus, hvoice⟩ rfl rfl (dataLength_channel ⟨hstatus, hvoice⟩)
        (.inl ⟨rfl, rfl⟩)⟩
  · have hdata : byte < 0x80 := by grind
    cases h with
    | idle hsysex hrunning hmessage =>
      have hstep : MidiDecoder.idle.step byte time = (.idle, none) := by
        have hno : ¬0xF0 < byte := by grind
        unfold MidiDecoder.step
        rw [if_neg hrealtime, if_neg hbyte, if_neg hno, if_neg hstatus]
      rw [hstep]
      exact inPhase_idle_data hsysex hrunning hmessage hdata
    | channel hsysex hstatus hrunning hmessage hexpected hdata' =>
      exact inPhase_channel_data (.channel hsysex hstatus hrunning hmessage hexpected hdata') hdata

lemma skipping_of_inPhase (time : UInt64) (h : InPhase p d) :
    (p.feed 0xF0 time).2 = none ∧ Skipping (p.feed 0xF0 time).1 := by
  rw [feed_status h.inSysex (by decide) (by decide)]
  exact ⟨rfl, rfl, rfl, rfl⟩

lemma skipping_feed (byte : UInt8) (time : UInt64) (h : Skipping p) : (p.feed byte time).2 = none ∧
    (byte = 0xF7 → InPhase (p.feed byte time).1 .idle) ∧ (byte ≠ 0xF7 → Skipping (p.feed byte time).1) := by
  by_cases hrealtime : 0xF8 ≤ byte
  · rw [feed_realtime hrealtime]
    exact ⟨rfl, fun hend => absurd hrealtime (hend ▸ by decide), fun _ => h⟩
  · unfold feed
    rw [if_neg hrealtime, if_pos h.sysex]
    exact ⟨rfl, fun hend => .idle (by simp [hend]) h.running (.inl h.expected),
      fun hgoes => ⟨by simp [hgoes], h.running, h.expected⟩⟩

end

/-! ## Streams -/

section

variable {p : MidiByteParser} {d : MidiDecoder}

/-- The decoder may wait for more data of a message. -/
def MidiDecoder.Waiting : MidiDecoder → Prop
  | .channel status data => data.length < channelDataLength status
  | _ => True

/-- The stream goes on with what the decoder waits for. -/
def MidiDecoder.completes : MidiDecoder → List TimedByte → Bool
  | .channel status data, stream => startsWithData (channelDataLength status - data.length) stream
  | _, _ => false

open MidiDecoder

lemma completes_channel {status : UInt8} {data : List UInt8} {n : ℕ} {stream : List TimedByte}
    (h : channelDataLength status - data.length = n) :
    completes (.channel status data) stream = startsWithData n stream := by
  rw [← h]
  rfl

def beginsMessage (byte : UInt8) (rest : List TimedByte) : Bool :=
  decide (0x80 ≤ byte ∧ byte < 0xF0) && startsWithData (channelDataLength byte) rest

/-- **What a byte does to what the decoder waits for**: a message is completed, or what completes one now is what
completed one before or begins one. -/
lemma completes_step (byte : UInt8) (time : UInt64) (hwaiting : d.Waiting) (rest : List TimedByte) :
    (d.step byte time).1.Waiting ∧
    (((d.step byte time).2.isSome = true ∧ d.completes ((time, byte) :: rest) = true) ∨
      ((d.step byte time).2 = none ∧ (d.step byte time).1.completes rest =
        (d.completes ((time, byte) :: rest) || beginsMessage byte rest))) := by
  have hlength : 0 < channelDataLength byte := by
    rcases channelDataLength_cases byte with hone | htwo <;> omega
  by_cases hrealtime : 0xF8 ≤ byte
  · have hno : ¬byte < 0xF0 := by grind
    rw [step_realtime hrealtime]
    refine ⟨hwaiting, .inr ⟨rfl, ?_⟩⟩
    cases d with
    | channel status data => simp [completes, beginsMessage, startsWithData_realtime hrealtime, hno]
    | idle => simp [completes, beginsMessage, hno]
    | exclusive => simp [completes, beginsMessage, hno]
  by_cases hstatus : 0x80 ≤ byte
  · have hcompletes : d.completes ((time, byte) :: rest) = false := by
      cases d with
      | channel status data =>
        obtain ⟨n, hn⟩ := Nat.exists_eq_succ_of_ne_zero (Nat.sub_ne_zero_of_lt hwaiting)
        rw [completes_channel hn, startsWithData_status hstatus hrealtime]
      | idle => rfl
      | exclusive => rfl
    rw [hcompletes, Bool.false_or]
    unfold step beginsMessage
    rw [if_neg hrealtime]
    by_cases hexclusive : byte = 0xF0
    · subst hexclusive
      rw [if_pos rfl]
      exact ⟨trivial, .inr ⟨rfl, rfl⟩⟩
    by_cases hcommon : 0xF0 < byte
    · have hno : ¬byte < 0xF0 := by grind
      rw [if_neg hexclusive, if_pos hcommon]
      exact ⟨trivial, .inr ⟨rfl, by simp [completes, hno]⟩⟩
    · have hvoice : byte < 0xF0 := by grind
      rw [if_neg hexclusive, if_neg hcommon, if_pos hstatus]
      exact ⟨hlength, .inr ⟨rfl, by simp [completes, hstatus, hvoice]⟩⟩
  · have hdata : byte < 0x80 := by grind
    have hexclusive : byte ≠ 0xF0 := by grind
    have hcommon : ¬0xF0 < byte := by grind
    unfold step beginsMessage
    rw [if_neg hrealtime, if_neg hexclusive, if_neg hcommon, if_neg hstatus]
    cases d with
    | idle => exact ⟨trivial, .inr ⟨rfl, by simp [completes, hstatus]⟩⟩
    | exclusive => exact ⟨trivial, .inr ⟨rfl, by simp [completes, hstatus]⟩⟩
    | channel status data =>
      obtain ⟨n, hn⟩ := Nat.exists_eq_succ_of_ne_zero (Nat.sub_ne_zero_of_lt hwaiting)
      have hwaits : completes (.channel status data) ((time, byte) :: rest) = startsWithData n rest := by
        rw [completes_channel hn, startsWithData_data hdata]
      rw [hwaits]
      dsimp only
      split_ifs with hmore
      · refine ⟨hmore, .inr ⟨rfl, ?_⟩⟩
        have hleft : channelDataLength status - (data ++ [byte]).length = n := by
          rw [List.length_append, List.length_singleton]
          omega
        rw [completes_channel hleft]
        simp [hstatus]
      · have hpositive : 0 < channelDataLength status := Nat.lt_of_le_of_lt (Nat.zero_le _) hwaiting
        refine ⟨hpositive, .inl ⟨rfl, ?_⟩⟩
        have hzero : n = 0 := by
          rw [List.length_append, List.length_singleton] at hmore
          omega
        rw [hzero, startsWithData]

lemma length_parse_le (stream : List TimedByte) : ∀ {p : MidiByteParser} {d : MidiDecoder},
    InPhase p d ∨ Skipping p → (p.parse stream).length ≤ (d.decode stream).length := by
  induction stream with
  | nil => intro p d _; exact le_refl _
  | cons first rest ih =>
    obtain ⟨time, byte⟩ := first
    intro p d h
    rw [MidiByteParser.parse, decode, List.length_append, List.length_append]
    rcases h with hstep | hskip
    · by_cases hbegin : byte = 0xF0
      · subst hbegin
        obtain ⟨hnone, hskip⟩ := skipping_of_inPhase time hstep
        rw [hnone]
        have hrest := ih (d := (d.step 0xF0 time).1) (.inr hskip)
        simp only [Option.toList_none, List.length_nil]
        omega
      · obtain ⟨hsame, hnext⟩ := inPhase_feed time hstep hbegin
        rw [hsame]
        exact Nat.add_le_add_left (ih (.inl hnext)) _
    · obtain ⟨hnone, hend, hgoes⟩ := skipping_feed byte time hskip
      rw [hnone]
      simp only [Option.toList_none, List.length_nil, Nat.zero_add]
      by_cases hbyte : byte = 0xF7
      · have hidle : (d.step byte time).1 = .idle := by
          subst hbyte
          rfl
        rw [hidle]
        exact (ih (.inl (hend hbyte))).trans (Nat.le_add_left _ _)
      · exact (ih (.inr (hgoes hbyte))).trans (Nat.le_add_left _ _)

/-- In step, the two agree on a stream that swallows nothing; while the parser skips, the decoder must complete
no message either. -/
lemma parse_eq_decode_iff (stream : List TimedByte) :
    (∀ {p : MidiByteParser} {d : MidiDecoder}, InPhase p d →
      (p.parse stream = d.decode stream ↔ swallows false stream = false)) ∧
    ∀ {p : MidiByteParser} {d : MidiDecoder}, Skipping p → d.Waiting →
      (p.parse stream = d.decode stream ↔ d.completes stream = false ∧ swallows true stream = false) := by
  induction stream with
  | nil =>
    refine ⟨fun _ => by simp [MidiByteParser.parse, decode, swallows], fun {p d} _ hwaiting => ?_⟩
    have hnothing : d.completes [] = false := by
      cases d with
      | channel status data =>
        obtain ⟨n, hn⟩ := Nat.exists_eq_succ_of_ne_zero (Nat.sub_ne_zero_of_lt hwaiting)
        rw [completes_channel hn, startsWithData]
      | idle => rfl
      | exclusive => rfl
    simp [MidiByteParser.parse, decode, swallows, hnothing]
  | cons first rest ih =>
    obtain ⟨time, byte⟩ := first
    obtain ⟨ihstep, ihskip⟩ := ih
    constructor
    · intro p d hstep
      rw [MidiByteParser.parse, decode, swallows, Bool.false_and, Bool.false_and, Bool.false_or]
      by_cases hbegin : byte = 0xF0
      · subst hbegin
        obtain ⟨hnone, hskip⟩ := skipping_of_inPhase time hstep
        have hdecoder : d.step 0xF0 time = (.exclusive, none) := rfl
        rw [hnone, hdecoder]
        exact (ihskip (d := .exclusive) hskip trivial).trans (by simp [completes, exclusiveAfter])
      · obtain ⟨hsame, hnext⟩ := inPhase_feed time hstep hbegin
        have hafter : exclusiveAfter false byte = false := by simp [exclusiveAfter, hbegin]
        rw [hsame, List.append_right_inj, hafter]
        exact ihstep hnext
    · intro p d hskip hwaiting
      obtain ⟨hnone, hend, hgoes⟩ := skipping_feed byte time hskip
      rw [MidiByteParser.parse, hnone, Option.toList_none, List.nil_append, decode, swallows,
        Bool.true_and]
      obtain ⟨hwaits, hcases⟩ := completes_step byte time hwaiting rest
      by_cases hbyte : byte = 0xF7
      · subst hbyte
        have hdecoder : d.step 0xF7 time = (.idle, none) := rfl
        have hcompletes : d.completes ((time, 0xF7) :: rest) = false := by
          rcases hcases with ⟨hsome, -⟩ | ⟨-, hsame⟩
          · rw [hdecoder] at hsome
            cases hsome
          · rw [hdecoder] at hsame
            exact (Bool.or_eq_false_iff.mp hsame.symm).1
        rw [hdecoder, hcompletes]
        exact (ihstep (hend rfl)).trans (by simp [exclusiveAfter])
      · have hafter : exclusiveAfter true byte = true := by simp [exclusiveAfter, hbyte]
        rw [hafter]
        rcases hcases with ⟨hsome, hcompleted⟩ | ⟨hnone', hcompletes⟩
        · -- the decoder finds a message, and the parser is one behind
          obtain ⟨message, hmessage⟩ := Option.isSome_iff_exists.mp hsome
          have hshorter := length_parse_le rest (d := (d.step byte time).1) (.inr (hgoes hbyte))
          rw [hmessage, hcompleted]
          constructor
          · intro heq
            rw [heq, List.length_append, Option.toList_some, List.length_singleton] at hshorter
            omega
          · exact fun hno => absurd hno.1 (by simp)
        · rw [hnone', Option.toList_none, List.nil_append, ihskip (hgoes hbyte) hwaits, hcompletes]
          simp only [Bool.or_eq_false_iff, beginsMessage]
          exact and_assoc

end

/-- **What is decoded.** A parser that is new finds the messages of the stream, in order and with their times,
exactly if no channel message begins, with its data, between an `F0` and the next `F7`. -/
theorem decodes_iff (stream : List TimedByte) :
    MidiByteParser.parse {} stream = MidiDecoder.decode .idle stream ↔ swallows false stream = false :=
  (parse_eq_decode_iff stream).1 (.idle rfl rfl (.inl rfl))

/-- **Notes are swallowed.** The exclusive message is broken off by a note, which is not found. -/
theorem note_swallowed : ¬∀ stream : List TimedByte,
    MidiByteParser.parse {} stream = MidiDecoder.decode .idle stream := by
  intro hall
  exact absurd (hall [(0, 0xF0), (1, 0x01), (2, 0x90), (2, 60), (2, 100)]) (by decide)

end StageForge
