import StageForge.Library.CircularBuffer
import StageForge.Library.DropOldestQueue
import StageForge.Native.TransportClock
import Mathlib.Data.List.GetD

/-!
# The fan-out ring

`AudioFanoutRing` of `native/include/stageforge/audio_fanout_ring.hpp` is written once by the capture thread and read
by each output at its own pace.
-/

namespace StageForge

open CircularBuffer

/-- `StereoFanoutFrame`. -/
abbrev StereoFrame (S : NativeFloats) : Type := S.Single × S.Single

def silentFrame (S : NativeFloats) : StereoFrame S := (S.single.literal 0, S.single.literal 0)

/-- A sample, or zero for one that is not finite. -/
def sanitized {S : NativeFloats} (sample : S.Single) : S.Single :=
  if S.single.finite sample then sample else S.single.literal 0

def interleavedFrame {S : NativeFloats} (data : ℕ → S.Single) (channels i : ℕ) : StereoFrame S :=
  (sanitized (data (i * channels)),
    sanitized (if channels > 1 then data (i * channels + 1) else data (i * channels)))

structure RingReader where
  tail : ℕ := 0
  active : Bool := false
  dropped : ℕ := 0
  underruns : ℕ := 0

/-- The ring; the readers by their numbers. -/
structure AudioFanoutRing (S : NativeFloats) where
  frames : ℕ → StereoFrame S
  head : ℕ
  reader : ℕ → RingReader

namespace AudioFanoutRing

variable {S : NativeFloats}

def empty (S : NativeFloats) : AudioFanoutRing S := ⟨fun _ => silentFrame S, 0, fun _ => {}⟩

variable (capacity readers : ℕ) (ring : AudioFanoutRing S)

def increment (value : ℕ) : ℕ := (value + 1) % capacity

def setReaderActive (reader : ℕ) (active : Bool) : AudioFanoutRing S :=
  if readers ≤ reader then ring
  else
    let old := ring.reader reader
    let new : RingReader :=
      if active then { old with tail := ring.head, dropped := 0, underruns := 0, active } else { old with active }
    { ring with reader := Function.update ring.reader reader new }

/-- What one frame of `push_interleaved` does to a reader. -/
def overrun (next : ℕ) (r : RingReader) : RingReader :=
  if r.active ∧ next = r.tail then { r with tail := increment capacity r.tail, dropped := r.dropped + 1 } else r

/-- The body of the loop of `push_interleaved`. -/
def pushFrame (frame : StereoFrame S) : AudioFanoutRing S :=
  let next := increment capacity ring.head
  { frames := Function.update ring.frames ring.head frame
    head := next
    reader := fun number =>
      if number < readers then overrun capacity next (ring.reader number) else ring.reader number }

def pushInterleaved (data : ℕ → S.Single) (frames channels : ℕ) : AudioFanoutRing S × ℕ :=
  if channels = 0 ∨ frames = 0 then (ring, 0)
  else if (List.range readers).any (fun number => (ring.reader number).active) = false then (ring, frames)
  else
    ((List.range frames).foldl (fun ring i => ring.pushFrame capacity readers (interleavedFrame data channels i))
      ring, frames)

/-- The loop of `pop_planar`: the frames that are popped, and the tail after them. -/
def popLoop (tail : ℕ) : ℕ → List (StereoFrame S) × ℕ
  | 0 => ([], tail)
  | n + 1 =>
    if tail = ring.head then ([], tail)
    else
      let (out, last) := popLoop (increment capacity tail) n
      (ring.frames tail :: out, last)

/-- `pop_planar`, with the number of frames and the block it fills. -/
def popPlanar (reader frames : ℕ) : AudioFanoutRing S × ℕ × List (StereoFrame S) :=
  if readers ≤ reader ∨ frames = 0 then (ring, 0, [])
  else
    let r := ring.reader reader
    if r.active = false then (ring, 0, List.replicate frames (silentFrame S))
    else
      let (out, last) := ring.popLoop capacity r.tail frames
      let new := { r with tail := last, underruns := r.underruns + (frames - out.length) }
      ({ ring with reader := Function.update ring.reader reader new }, out.length,
        out ++ List.replicate (frames - out.length) (silentFrame S))

def queued (reader : ℕ) : ℕ := if readers ≤ reader ∨ (ring.reader reader).active = false then 0
  else if (ring.reader reader).tail ≤ ring.head then ring.head - (ring.reader reader).tail
  else capacity - ((ring.reader reader).tail - ring.head)

def dropped (reader : ℕ) : ℕ := if reader < readers then (ring.reader reader).dropped else 0

def reset : AudioFanoutRing S := { ring with
    reader := fun number =>
      if number < readers then { ring.reader number with tail := ring.head, dropped := 0, underruns := 0 }
      else ring.reader number }

end AudioFanoutRing

inductive FanoutCall (S : NativeFloats)
  | setReaderActive (reader : ℕ) (active : Bool)
  | pushInterleaved (data : ℕ → S.Single) (frames channels : ℕ)
  | popPlanar (reader frames : ℕ)
  | reset

namespace AudioFanoutRing

variable {S : NativeFloats} (capacity readers : ℕ) (ring : AudioFanoutRing S)

def call : FanoutCall S → AudioFanoutRing S
  | .setReaderActive reader active => ring.setReaderActive readers reader active
  | .pushInterleaved data frames channels => (ring.pushInterleaved capacity readers data frames channels).1
  | .popPlanar reader frames => (ring.popPlanar capacity readers reader frames).1
  | .reset => ring.reset readers

def answer (reader : ℕ) : FanoutCall S → List (ℕ × List (StereoFrame S))
  | .popPlanar other frames =>
    if other = reader then [(ring.popPlanar capacity readers other frames).2] else []
  | _ => []

def runCalls (calls : List (FanoutCall S)) : AudioFanoutRing S := calls.foldl (call capacity readers) ring

/-- What calls pop for a reader, one after the other. -/
def answers (reader : ℕ) (ring : AudioFanoutRing S) : List (FanoutCall S) → List (ℕ × List (StereoFrame S))
  | [] => []
  | c :: calls => ring.answer capacity readers reader c ++ answers reader (ring.call capacity readers c) calls

end AudioFanoutRing

/-! ## One reader -/

structure FanoutReader (S : NativeFloats) where
  active : Bool := false
  fifo : DropOldestQueue (StereoFrame S) := {}

namespace FanoutReader

variable {S : NativeFloats} (capacity reader : ℕ) (r : FanoutReader S)

/-- What a call does to the queue of a reader, which holds one frame less than the ring has places. -/
def call : FanoutCall S → FanoutReader S
  | .setReaderActive other active =>
    if other = reader then (if active then ⟨true, {}⟩ else { r with active := false }) else r
  | .pushInterleaved data frames channels =>
    if r.active ∧ channels ≠ 0 then
      { r with
        fifo := (List.range frames).foldl
          (fun fifo i => fifo.push (capacity - 1) (interleavedFrame data channels i)) r.fifo }
    else r
  | .popPlanar other frames => if r.active ∧ other = reader then { r with fifo := r.fifo.pop frames } else r
  | .reset => { r with fifo := {} }

def answer : FanoutCall S → List (ℕ × List (StereoFrame S))
  | .popPlanar other frames =>
    if other = reader then
      if frames = 0 then [(0, [])]
      else if r.active then
        [((r.fifo.queue.take frames).length, r.fifo.queue.take frames ++
          List.replicate (frames - (r.fifo.queue.take frames).length) (silentFrame S))]
      else [(0, List.replicate frames (silentFrame S))]
    else []
  | _ => []

def runCalls (calls : List (FanoutCall S)) : FanoutReader S := calls.foldl (call capacity reader) r

def answers (r : FanoutReader S) : List (FanoutCall S) → List (ℕ × List (StereoFrame S))
  | [] => []
  | c :: calls => r.answer reader c ++ answers (r.call capacity reader c) calls

end FanoutReader

/-! ## The queue of a reader in the ring -/

/-- The frames of a queue lie in the ring from the tail of the reader up to the head. -/
structure Follows {S : NativeFloats} (capacity : ℕ) (ring : AudioFanoutRing S) (r : RingReader)
    (q : DropOldestQueue (StereoFrame S)) (first : ℕ) : Prop where
  tail : r.tail = first % capacity
  head : ring.head = (first + q.queue.length) % capacity
  room : q.queue.length < capacity
  holds : Keeps capacity ring.frames (fun n => q.queue.getD (n - first) (silentFrame S)) first
    (first + q.queue.length)
  dropped : r.dropped = q.dropped

section

variable {S : NativeFloats} {capacity readers first : ℕ} {ring : AudioFanoutRing S} {r : RingReader}
  {q : DropOldestQueue (StereoFrame S)}

lemma follows_empty (hhead : ring.head < capacity) (htail : r.tail = ring.head) (hdropped : r.dropped = 0) :
    Follows capacity ring r {} ring.head where
  tail := by rw [htail, Nat.mod_eq_of_lt hhead]
  head := (Nat.mod_eq_of_lt hhead).symm
  room := Nat.lt_of_le_of_lt (Nat.zero_le _) hhead
  holds := fun n hlo hhi => absurd hlo (not_le.mpr hhi)
  dropped := hdropped

open AudioFanoutRing

lemma Follows.full_iff (h : Follows capacity ring r q first) :
    increment capacity ring.head = r.tail ↔ q.queue.length + 1 = capacity := by
  have hnext : increment capacity ring.head = (first + (q.queue.length + 1)) % capacity := by
    unfold increment
    rw [h.head, Nat.mod_add_mod, Nat.add_assoc]
  rw [hnext, h.tail]
  constructor
  · intro hsame
    by_contra hroom
    have hlt := h.room
    have hne : first % capacity ≠ (first + (q.queue.length + 1)) % capacity := mod_ne_of_lt (by omega) (by omega)
    exact hne hsame.symm
  · intro hfull
    rw [hfull, Nat.add_mod_right]

lemma holds_append {queue : List (StereoFrame S)} {frames : ℕ → StereoFrame S} (hroom : queue.length < capacity)
    (h : Keeps capacity frames (fun n => queue.getD (n - first) (silentFrame S)) first (first + queue.length))
    (frame : StereoFrame S) :
    Keeps capacity (Function.update frames ((first + queue.length) % capacity) frame)
      (fun n => (queue ++ [frame]).getD (n - first) (silentFrame S)) first (first + (queue.length + 1)) := by
  have hsame : Keeps capacity frames (fun n => (queue ++ [frame]).getD (n - first) (silentFrame S)) first
      (first + queue.length) :=
    h.congr fun n hlo hhi => (List.getD_append _ _ _ _ (by omega)).symm
  have hwritten := hsame.write (by omega)
  have hnew : (queue ++ [frame]).getD (first + queue.length - first) (silentFrame S) = frame := by
    rw [Nat.add_sub_cancel_left]
    simp
  rw [hnew] at hwritten
  exact hwritten

lemma holds_tail (queue : List (StereoFrame S)) {frames : ℕ → StereoFrame S}
    (h : Keeps capacity frames (fun n => queue.getD (n - first) (silentFrame S)) first (first + queue.length)) :
    Keeps capacity frames (fun n => queue.tail.getD (n - (first + 1)) (silentFrame S)) (first + 1)
      (first + queue.length) := by
  refine (h.mono (Nat.le_succ first)).congr fun n hlo hhi => ?_
  have hnumber : n - first = n - (first + 1) + 1 := by omega
  rw [hnumber]
  cases queue with
  | nil => rfl
  | cons oldest rest => rfl

/-- **A frame is pushed.** -/
lemma Follows.pushFrame (readers : ℕ) (h : Follows capacity ring r q first) (hcapacity : 2 ≤ capacity)
    (hactive : r.active = true) (frame : StereoFrame S) : ∃ first',
    Follows capacity (ring.pushFrame capacity readers frame)
      (overrun capacity (increment capacity ring.head) r)
      (q.push (capacity - 1) frame) first' := by
  have hroom := h.room
  have hframes : (ring.pushFrame capacity readers frame).frames =
      Function.update ring.frames ((first + q.queue.length) % capacity) frame := by
    rw [← h.head]
    rfl
  have hhead : (ring.pushFrame capacity readers frame).head = (first + (q.queue.length + 1)) % capacity := by
    change (ring.head + 1) % capacity = _
    rw [h.head, Nat.mod_add_mod, Nat.add_assoc]
  unfold overrun DropOldestQueue.push
  by_cases hfull : q.queue.length + 1 = capacity
  · -- the reader gives up its oldest frame
    have hlength : (q.queue.tail ++ [frame]).length = q.queue.length := by
      rw [List.length_append, List.length_tail, List.length_singleton]
      omega
    have htail : first + q.queue.length = first + 1 + q.queue.tail.length := by
      rw [List.length_tail]
      omega
    rw [if_pos ⟨hactive, h.full_iff.mpr hfull⟩, if_neg (by omega)]
    refine ⟨first + 1, ?_, ?_, ?_, ?_, ?_⟩
    · change (r.tail + 1) % capacity = _
      rw [h.tail, Nat.mod_add_mod]
    · rw [hhead]
      rw [hlength]
      congr 1
      omega
    · rw [hlength]
      exact hroom
    · have hleft := holds_tail q.queue h.holds
      rw [htail] at hleft
      have hwritten := holds_append (by rw [List.length_tail]; omega) hleft frame
      rw [← htail] at hwritten
      rw [hframes]
      rw [List.length_append, List.length_singleton]
      exact hwritten
    · exact congrArg (· + 1) h.dropped
  · have hkept : ¬(r.active = true ∧ increment capacity ring.head = r.tail) :=
      fun hover => hfull (h.full_iff.mp hover.2)
    have hlength : (q.queue ++ [frame]).length = q.queue.length + 1 := by simp
    rw [if_neg hkept, if_pos (by omega)]
    refine ⟨first, h.tail, ?_, ?_, ?_, h.dropped⟩
    · rw [hhead]
      rw [hlength]
    · dsimp only
      omega
    · rw [hframes]
      dsimp only
      rw [hlength]
      exact holds_append hroom h.holds frame

lemma popLoop_eq (n : ℕ) : ∀ {first : ℕ} {queue : List (StereoFrame S)},
    ring.head = (first + queue.length) % capacity → queue.length < capacity →
    Keeps capacity ring.frames (fun n => queue.getD (n - first) (silentFrame S)) first (first + queue.length) →
    ring.popLoop capacity (first % capacity) n = (queue.take n, (first + (queue.take n).length) % capacity) := by
  induction n with
  | zero => intro first queue _ _ _; rfl
  | succ n ih =>
    intro first queue hhead hroom hholds
    unfold popLoop
    cases queue with
    | nil =>
      have hempty : first % capacity = ring.head := hhead.symm
      rw [if_pos hempty]
      rfl
    | cons oldest rest =>
      rw [List.length_cons] at hhead hroom hholds
      have hmore : first % capacity ≠ ring.head := by
        rw [hhead]
        exact mod_ne_of_lt (by omega) (by omega)
      have holdest : ring.frames (first % capacity) = oldest :=
        (hholds first (le_refl _) (by omega)).trans (by simp)
      have hnext : increment capacity (first % capacity) = (first + 1) % capacity := by
        unfold increment
        rw [Nat.mod_add_mod]
      have hnumber : first + (rest.length + 1) = first + 1 + rest.length := by omega
      have hleft : Keeps capacity ring.frames (fun n => rest.getD (n - (first + 1)) (silentFrame S)) (first + 1)
          (first + 1 + rest.length) := hnumber ▸ holds_tail (oldest :: rest) hholds
      rw [if_neg hmore, hnext, ih (hnumber ▸ hhead) (by omega) hleft, holdest]
      simp only [List.take_succ_cons, List.length_cons]
      congr 2
      omega

/-- **Frames are popped.** -/
lemma Follows.pop (h : Follows capacity ring r q first) (n : ℕ) (r' : RingReader)
    (htail : r'.tail = (first + (q.queue.take n).length) % capacity) (hdropped : r'.dropped = r.dropped)
    {ring' : AudioFanoutRing S} (hhead : ring'.head = ring.head) (hframes : ring'.frames = ring.frames) :
    Follows capacity ring' r' (q.pop n) (first + (q.queue.take n).length) := by
  have hlength : first + (q.queue.take n).length + (q.queue.drop n).length = first + q.queue.length := by
    rw [List.length_take, List.length_drop]
    omega
  refine ⟨htail, ?_, ?_, ?_, hdropped.trans h.dropped⟩
  · change ring'.head = (first + (q.queue.take n).length + (q.queue.drop n).length) % capacity
    rw [hlength, hhead, h.head]
  · change (q.queue.drop n).length < capacity
    exact Nat.lt_of_le_of_lt (by rw [List.length_drop]; omega) h.room
  · change Keeps capacity ring'.frames (fun m => (q.queue.drop n).getD (m - (first + (q.queue.take n).length))
      (silentFrame S)) _ (first + (q.queue.take n).length + (q.queue.drop n).length)
    rw [hlength, hframes]
    refine (h.holds.mono (Nat.le_add_right _ _)).congr fun m hlo hhi => ?_
    rw [List.length_take] at hlo ⊢
    rw [List.getD_eq_getElem?_getD, List.getD_eq_getElem?_getD, List.getElem?_drop]
    congr 2
    omega

lemma Follows.queued (h : Follows capacity ring r q first) :
    (if r.tail ≤ ring.head then ring.head - r.tail else capacity - (r.tail - ring.head)) = q.queue.length := by
  have hroom := h.room
  have htail : first % capacity < capacity := Nat.mod_lt _ (by omega)
  rw [h.tail, h.head, Nat.add_mod, Nat.mod_eq_of_lt hroom]
  generalize first % capacity = tail at htail
  by_cases hwrap : tail + q.queue.length < capacity
  · rw [Nat.mod_eq_of_lt hwrap]
    split_ifs <;> omega
  · rw [Nat.mod_eq_sub_mod (by omega), Nat.mod_eq_of_lt (by omega)]
    split_ifs <;> omega

end

/-! ## Runs -/

/-- What a ring and the queue of a reader have to do with each other. -/
structure Sees {S : NativeFloats} (capacity reader : ℕ) (ring : AudioFanoutRing S) (r : FanoutReader S) : Prop where
  head : ring.head < capacity
  active : (ring.reader reader).active = r.active
  follows : r.active = true → ∃ first, Follows capacity ring (ring.reader reader) r.fifo first

section

variable {S : NativeFloats} {capacity readers reader : ℕ} {ring : AudioFanoutRing S} {r : FanoutReader S}

lemma Sees.pushFrame (h : Sees capacity reader ring r) (hcapacity : 2 ≤ capacity) (hreader : reader < readers)
    (frame : StereoFrame S) : Sees capacity reader (ring.pushFrame capacity readers frame)
      (if r.active then { r with fifo := r.fifo.push (capacity - 1) frame } else r) := by
  have hread : (ring.pushFrame capacity readers frame).reader reader = AudioFanoutRing.overrun capacity
      (AudioFanoutRing.increment capacity ring.head) (ring.reader reader) := if_pos hreader
  have hflag : ((ring.pushFrame capacity readers frame).reader reader).active = (ring.reader reader).active := by
    rw [hread]
    unfold AudioFanoutRing.overrun
    split <;> rfl
  refine ⟨Nat.mod_lt _ (by omega), ?_, ?_⟩
  · rw [hflag, h.active]
    split <;> rfl
  · cases hactive : r.active with
    | false => exact fun hno => absurd (hactive.symm.trans hno) (by simp)
    | true =>
      intro _
      obtain ⟨first, hfollows⟩ := h.follows hactive
      obtain ⟨first', hnext⟩ := hfollows.pushFrame readers hcapacity (h.active.trans hactive) frame
      rw [hread]
      exact ⟨first', hnext⟩

lemma Sees.pushFrames (hcapacity : 2 ≤ capacity) (hreader : reader < readers) (frames : List (StereoFrame S)) :
    ∀ {ring : AudioFanoutRing S} {r : FanoutReader S}, Sees capacity reader ring r →
      Sees capacity reader (frames.foldl (fun ring frame => ring.pushFrame capacity readers frame) ring)
        (if r.active then
          { r with fifo := frames.foldl (fun fifo frame => fifo.push (capacity - 1) frame) r.fifo } else r) := by
  induction frames with
  | nil =>
    intro ring r h
    rw [List.foldl_nil, List.foldl_nil, ite_self]
    exact h
  | cons frame frames ih =>
    intro ring r h
    have hnext := ih (h.pushFrame hcapacity hreader frame)
    rw [List.foldl_cons, List.foldl_cons]
    cases hactive : r.active with
    | false => simpa [hactive] using hnext
    | true => simpa [hactive] using hnext

lemma Follows.of_same {ring' : AudioFanoutRing S} {old : RingReader} {q : DropOldestQueue (StereoFrame S)} {first : ℕ}
    (h : Follows capacity ring old q first) (hhead : ring'.head = ring.head) (hframes : ring'.frames = ring.frames) :
    Follows capacity ring' old q first :=
  ⟨h.tail, hhead.trans h.head, h.room, hframes ▸ h.holds, h.dropped⟩

lemma Sees.other (h : Sees capacity reader ring r) {other : ℕ} (hother : other ≠ reader) (new : RingReader) :
    Sees capacity reader { ring with reader := Function.update ring.reader other new } r := by
  refine ⟨h.head, ?_, fun hactive => ?_⟩
  · exact (congrArg RingReader.active (Function.update_of_ne (Ne.symm hother) _ _)).trans h.active
  · obtain ⟨first, hfollows⟩ := h.follows hactive
    refine ⟨first, ?_⟩
    dsimp only
    rw [Function.update_of_ne (Ne.symm hother)]
    exact hfollows.of_same rfl rfl

open FanoutReader

lemma sees_setReaderActive (h : Sees capacity reader ring r) (hreader : reader < readers) (other : ℕ) (active : Bool) :
    Sees capacity reader (ring.setReaderActive readers other active)
      (r.call capacity reader (.setReaderActive other active)) := by
  unfold AudioFanoutRing.setReaderActive call
  dsimp only
  by_cases hother : other = reader
  · subst hother
    rw [if_neg (not_le.mpr hreader), if_pos rfl]
    cases active with
    | false =>
      refine ⟨h.head, ?_, fun hno => absurd hno (by simp)⟩
      simp [Function.update_self]
    | true =>
      refine ⟨h.head, by simp [Function.update_self], fun _ => ⟨ring.head, ?_⟩⟩
      exact (follows_empty h.head (by simp [Function.update_self]) (by simp [Function.update_self])).of_same rfl rfl
  · rw [if_neg hother]
    by_cases hunknown : readers ≤ other
    · rw [if_pos hunknown]
      exact h
    · rw [if_neg hunknown]
      exact h.other hother _

lemma sees_pushInterleaved (h : Sees capacity reader ring r) (hcapacity : 2 ≤ capacity) (hreader : reader < readers)
    (data : ℕ → S.Single) (frames channels : ℕ) :
    Sees capacity reader (ring.pushInterleaved capacity readers data frames channels).1
      (r.call capacity reader (.pushInterleaved data frames channels)) := by
  unfold AudioFanoutRing.pushInterleaved call
  dsimp only
  by_cases hchannels : channels = 0
  · rw [if_pos (.inl hchannels), if_neg (by simp [hchannels])]
    exact h
  by_cases hframes : frames = 0
  · subst hframes
    rw [if_pos (.inr rfl)]
    split_ifs <;> exact h
  rw [if_neg (by simp [hchannels, hframes])]
  split_ifs with hnone hactive hactive
  · -- without an active reader nothing is written
    have hanybody : (List.range readers).any (fun number => (ring.reader number).active) = true :=
      List.any_eq_true.mpr ⟨reader, List.mem_range.mpr hreader, h.active.trans hactive.1⟩
    exact absurd (hanybody.symm.trans hnone) (by simp)
  · exact h
  · have hpushed := Sees.pushFrames hcapacity hreader
      ((List.range frames).map (interleavedFrame data channels)) h
    rw [if_pos hactive.1, List.foldl_map, List.foldl_map] at hpushed
    exact hpushed
  · have hinactive : ¬r.active = true := fun hon => hactive ⟨hon, hchannels⟩
    have hpushed := Sees.pushFrames hcapacity hreader
      ((List.range frames).map (interleavedFrame data channels)) h
    rw [if_neg hinactive, List.foldl_map] at hpushed
    exact hpushed

lemma sees_reset (h : Sees capacity reader ring r) (hreader : reader < readers) :
    Sees capacity reader (ring.reset readers) (r.call capacity reader .reset) := by
  have hread : (ring.reset readers).reader reader =
      { ring.reader reader with tail := ring.head, dropped := 0, underruns := 0 } := if_pos hreader
  refine ⟨h.head, ?_, fun _ => ⟨ring.head, ?_⟩⟩
  · rw [hread]
    exact h.active
  · rw [hread]
    exact (follows_empty h.head rfl rfl).of_same rfl rfl

lemma fifo_pop_zero {α : Type} (q : DropOldestQueue α) : q.pop 0 = q := by
  unfold DropOldestQueue.pop
  simp

lemma sees_popPlanar (h : Sees capacity reader ring r) (hreader : reader < readers) (other frames : ℕ) :
    Sees capacity reader (ring.popPlanar capacity readers other frames).1
        (r.call capacity reader (.popPlanar other frames)) ∧
      ring.answer capacity readers reader (.popPlanar other frames) = r.answer reader (.popPlanar other frames) := by
  unfold AudioFanoutRing.answer answer call
  dsimp only
  by_cases hother : other = reader
  · subst hother
    rw [if_pos rfl, if_pos rfl]
    by_cases hframes : frames = 0
    · subst hframes
      have hnothing : ring.popPlanar capacity readers other 0 = (ring, 0, []) := if_pos (.inr rfl)
      rw [hnothing, if_pos rfl, fifo_pop_zero, ite_self]
      exact ⟨h, rfl⟩
    have hvalid : ¬(readers ≤ other ∨ frames = 0) := by simp [hreader, hframes]
    unfold AudioFanoutRing.popPlanar
    rw [if_neg hvalid, if_neg hframes]
    cases hactive : r.active with
    | false =>
      rw [if_pos (h.active.trans hactive), if_neg (by simp), if_neg (by simp)]
      exact ⟨h, rfl⟩
    | true =>
      obtain ⟨first, hfollows⟩ := h.follows hactive
      have hon : ¬(ring.reader other).active = false := by simp [h.active, hactive]
      have hloop := popLoop_eq frames hfollows.head hfollows.room hfollows.holds
      let new : RingReader := { ring.reader other with
          tail := (first + (r.fifo.queue.take frames).length) % capacity
          underruns := (ring.reader other).underruns + (frames - (r.fifo.queue.take frames).length) }
      have hself : Function.update ring.reader other new other = new := Function.update_self _ _ _
      rw [if_neg hon, hfollows.tail, hloop, if_pos ⟨rfl, rfl⟩, if_pos rfl]
      refine ⟨⟨h.head, ?_, fun _ => ⟨first + (r.fifo.queue.take frames).length, ?_⟩⟩, rfl⟩
      · exact (congrArg RingReader.active hself).trans (h.active.trans hactive)
      · change Follows capacity _ (Function.update ring.reader other new other) _ _
        rw [hself]
        exact hfollows.pop frames new rfl rfl rfl rfl
  · rw [if_neg hother, if_neg hother, if_neg fun hsame => hother hsame.2]
    refine ⟨?_, rfl⟩
    unfold AudioFanoutRing.popPlanar
    by_cases hinvalid : readers ≤ other ∨ frames = 0
    · rw [if_pos hinvalid]
      exact h
    rw [if_neg hinvalid]
    by_cases hoff : (ring.reader other).active = false
    · rw [if_pos hoff]
      exact h
    · rw [if_neg hoff]
      exact h.other hother _

/-- **The step lemma.** -/
lemma sees_call (h : Sees capacity reader ring r) (hcapacity : 2 ≤ capacity) (hreader : reader < readers)
    (c : FanoutCall S) : Sees capacity reader (ring.call capacity readers c) (r.call capacity reader c) ∧
      ring.answer capacity readers reader c = r.answer reader c := by
  cases c with
  | setReaderActive other active => exact ⟨sees_setReaderActive h hreader other active, rfl⟩
  | pushInterleaved data frames channels =>
    exact ⟨sees_pushInterleaved h hcapacity hreader data frames channels, rfl⟩
  | popPlanar other frames => exact sees_popPlanar h hreader other frames
  | reset => exact ⟨sees_reset h hreader, rfl⟩

/-- **The run lemma.** -/
lemma sees_runCalls (hcapacity : 2 ≤ capacity) (hreader : reader < readers) (calls : List (FanoutCall S)) :
    ∀ {ring : AudioFanoutRing S} {r : FanoutReader S}, Sees capacity reader ring r →
      Sees capacity reader (ring.runCalls capacity readers calls) (r.runCalls capacity reader calls) ∧
        ring.answers capacity readers reader calls = r.answers capacity reader calls := by
  induction calls with
  | nil => intro ring r h; exact ⟨h, rfl⟩
  | cons c calls ih =>
    intro ring r h
    obtain ⟨hstep, hanswer⟩ := sees_call h hcapacity hreader c
    obtain ⟨hrun, hanswers⟩ := ih hstep
    refine ⟨hrun, ?_⟩
    rw [AudioFanoutRing.answers, answers, hanswer, hanswers]

lemma sees_empty (hcapacity : 2 ≤ capacity) : Sees capacity reader (AudioFanoutRing.empty S) {} :=
  ⟨by change 0 < capacity; omega, rfl, fun hno => absurd hno (by simp)⟩

/-! ## Queues over runs -/

lemma accounted_call (hcapacity : 2 ≤ capacity) (h : r.fifo.Accounted) (c : FanoutCall S) :
    (r.call capacity reader c).fifo.Accounted := by
  cases c with
  | setReaderActive other active =>
    unfold call
    dsimp only
    split_ifs
    · exact DropOldestQueue.accounted_empty
    · exact h
    · exact h
  | pushInterleaved data frames channels =>
    unfold call
    dsimp only
    split_ifs
    · induction List.range frames generalizing r with
      | nil => exact h
      | cons i rest ih => exact ih (r := { r with fifo := r.fifo.push _ _ }) (h.push (by omega) _) ‹_›
    · exact h
  | popPlanar other frames =>
    unfold call
    dsimp only
    split_ifs
    · exact h.pop frames
    · exact h
  | reset => exact DropOldestQueue.accounted_empty

lemma accounted_runCalls (hcapacity : 2 ≤ capacity) (calls : List (FanoutCall S)) : ∀ {r : FanoutReader S},
    r.fifo.Accounted → (r.runCalls capacity reader calls).fifo.Accounted := by
  induction calls with
  | nil => intro r h; exact h
  | cons c calls ih => intro r h; exact ih (accounted_call hcapacity h c)


/-- The call is one of the reader or one that all readers share. -/
def FanoutCall.concerns (reader : ℕ) : FanoutCall S → Bool
  | .setReaderActive other _ => decide (other = reader)
  | .popPlanar other _ => decide (other = reader)
  | _ => true

lemma call_of_not_concerns {c : FanoutCall S} (h : c.concerns reader = false) :
    r.call capacity reader c = r ∧ r.answer reader c = [] := by
  cases c with
  | setReaderActive other active => exact ⟨if_neg (of_decide_eq_false h), rfl⟩
  | popPlanar other frames =>
    have hother : other ≠ reader := of_decide_eq_false h
    exact ⟨if_neg fun hsame => hother hsame.2, if_neg hother⟩
  | pushInterleaved data frames channels => exact absurd h (by simp [FanoutCall.concerns])
  | reset => exact absurd h (by simp [FanoutCall.concerns])

lemma runCalls_concerns (calls : List (FanoutCall S)) : ∀ r : FanoutReader S,
    r.runCalls capacity reader (calls.filter (·.concerns reader)) = r.runCalls capacity reader calls ∧
      r.answers capacity reader (calls.filter (·.concerns reader)) = r.answers capacity reader calls := by
  induction calls with
  | nil => intro r; exact ⟨rfl, rfl⟩
  | cons c calls ih =>
    intro r
    cases hconcerns : c.concerns reader with
    | true =>
      obtain ⟨hrun, hanswers⟩ := ih (r.call capacity reader c)
      rw [List.filter_cons_of_pos hconcerns]
      refine ⟨hrun, ?_⟩
      rw [answers, answers, hanswers]
    | false =>
      obtain ⟨hsame, hnothing⟩ := @call_of_not_concerns S capacity reader r c hconcerns
      obtain ⟨hrun, hanswers⟩ := ih r
      rw [List.filter_cons_of_neg (by simp [hconcerns])]
      constructor
      · rw [hrun, runCalls, runCalls, List.foldl_cons, hsame]
      · rw [hanswers]
        conv_rhs => rw [answers, hsame, hnothing, List.nil_append]

end

/-- **Readers are queues.** Over any calls each reader pops what its queue of one frame less than the ring has
places would: the queue takes in the frames that are pushed since the reader was activated or the ring reset, and
drops its oldest frame when it is full. Each of these frames was popped or dropped, in order, or is still queued;
and the calls of other readers can be left out. -/
theorem readers_are_queues (S : NativeFloats) (capacity readers : ℕ) (hcapacity : 4 ≤ capacity)
    (calls : List (FanoutCall S)) (reader : ℕ) (hreader : reader < readers) :
    let ring := (AudioFanoutRing.empty S).runCalls capacity readers calls
    let r := FanoutReader.runCalls capacity reader {} calls
    (AudioFanoutRing.empty S).answers capacity readers reader calls = FanoutReader.answers capacity reader {} calls ∧
    (ring.reader reader).active = r.active ∧
    (r.active = true → ring.queued capacity readers reader = r.fifo.queue.length ∧
      ring.dropped readers reader = r.fifo.dropped ∧ r.fifo.queue.length ≤ capacity - 1 ∧ r.fifo.Accounted) ∧
    (AudioFanoutRing.empty S).answers capacity readers reader (calls.filter (·.concerns reader)) =
      (AudioFanoutRing.empty S).answers capacity readers reader calls ∧
    FanoutReader.runCalls capacity reader {} (calls.filter (·.concerns reader)) = r := by
  intro ring r
  have htwo : 2 ≤ capacity := by omega
  obtain ⟨hsees, hanswers⟩ := sees_runCalls htwo hreader calls (@sees_empty S capacity reader htwo)
  obtain ⟨-, hconcerned⟩ := sees_runCalls htwo hreader (calls.filter (·.concerns reader))
    (@sees_empty S capacity reader htwo)
  obtain ⟨hrun, hsame⟩ := @runCalls_concerns S capacity reader calls {}
  refine ⟨hanswers, hsees.active, fun hactive => ?_, (hconcerned.trans hsame).trans hanswers.symm, hrun⟩
  obtain ⟨first, hfollows⟩ := hsees.follows hactive
  have hroom := hfollows.room
  refine ⟨?_, ?_, ?_, accounted_runCalls htwo calls DropOldestQueue.accounted_empty⟩
  · have hon : ¬(readers ≤ reader ∨ (ring.reader reader).active = false) := by
      have hflag : (ring.reader reader).active = true := hsees.active.trans hactive
      simp [hreader, hflag]
    unfold AudioFanoutRing.queued
    rw [if_neg hon]
    exact hfollows.queued
  · unfold AudioFanoutRing.dropped
    rw [if_pos hreader]
    exact hfollows.dropped
  · have hroom : r.fifo.queue.length < capacity := hroom
    omega

/-! ## What a reset loses -/

def FanoutCall.framesPushed {S : NativeFloats} : FanoutCall S → ℕ
  | .pushInterleaved _ frames channels => if channels = 0 then 0 else frames
  | _ => 0

/-- Three frames are pushed to a ring of four places whose only reader is active, and two are popped. -/
def fanoutRun : List (FanoutCall .rationals) :=
  [.setReaderActive 0 true, .pushInterleaved (fun _ => (1 : ℚ)) 3 1, .popPlanar 0 2]

theorem readers_are_queues_run :
    ((AudioFanoutRing.empty .rationals).runCalls 4 1 fanoutRun).queued 4 1 0 = 1 :=
  ((readers_are_queues .rationals 4 1 (by decide) fanoutRun 0 (by decide)).2.2.1 rfl).1

/-- **A reset loses frames.** One frame is pushed to a reader that is active, and the ring is reset: the frame is
neither popped nor counted as dropped nor queued. -/
theorem reset_loses_frames : ¬∀ calls : List (FanoutCall .rationals),
    (∀ c ∈ calls, ∀ active, c ≠ .setReaderActive 0 active) →
    let ring := (AudioFanoutRing.empty .rationals).setReaderActive 1 0 true
    ((ring.answers 4 1 0 calls).map (·.1)).sum + (ring.runCalls 4 1 calls).dropped 1 0 +
      (ring.runCalls 4 1 calls).queued 4 1 0 = (calls.map (·.framesPushed)).sum := by
  intro hall
  have hlost := hall [.pushInterleaved (fun _ => (1 : ℚ)) 1 1, .reset] (by simp)
  exact absurd hlost (by decide +kernel)

end StageForge
