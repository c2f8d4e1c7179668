import StageForge.Native.UwbFrames

/-!
# The bridge to a ranging device

`UwbHardwareBridge` of `native/src/uwb_hardware_bridge.cpp`: bytes of the device go into a buffer, from which
frames are taken. The device delivers bytes in any pieces; a read may find nothing yet, be interrupted,
fail, or find the end.
-/

namespace StageForge

open Bytes

def uwbBufferSize : ℕ := uwbHardwareFrameSize * 4

/-- What a read of the device gives: some bytes, the end, or an error number. -/
inductive Delivery
  | data (first : UInt8) (more : ByteString)
  | endOfFile
  | failure (errno : ℕ)

/-- `EINTR`, `EAGAIN` (which is `EWOULDBLOCK`) and `ENODATA`. -/
def eintr : ℕ := 4

def eagain : ℕ := 11

def enodata : ℕ := 61

structure UwbHardwareBridgeStatus where
  isOpen : Bool := false
  faulted : Bool := false
  bytesRead : ℕ := 0
  validFrames : ℕ := 0
  invalidFrames : ℕ := 0
  resyncBytes : ℕ := 0
  ioErrors : ℕ := 0
  lastErrno : ℕ := 0

/-- `connected` says that there is a descriptor. -/
structure UwbHardwareBridge where
  connected : Bool := false
  buffer : ByteString := []
  fits : buffer.length ≤ uwbBufferSize := by decide
  status : UwbHardwareBridgeStatus := {}

namespace UwbHardwareBridge

variable (b : UwbHardwareBridge)

def room : ℕ := uwbBufferSize - b.buffer.length

def close : UwbHardwareBridge := { status := { b.status with isOpen := false } }

/-- `adopt_fd_for_test`, and `open_device` of a device that can be opened. -/
def adopt : UwbHardwareBridge := { b.close with
    connected := true
    status := { b.close.status with isOpen := true, faulted := false, lastErrno := 0 } }

def discardPrefix (count : ℕ) : UwbHardwareBridge := { b with
    buffer := b.buffer.drop count
    fits := by
      rw [List.length_drop]
      exact (Nat.sub_le _ _).trans b.fits }

def fault (errno : ℕ) : UwbHardwareBridge := { b.close with
    status := { b.status with
      isOpen := false, faulted := true, lastErrno := errno, ioErrors := b.status.ioErrors + 1 } }

def receive (bytes : ByteString) : UwbHardwareBridge := { b with
    buffer := b.buffer ++ bytes.take b.room
    fits := by
      have hfits := b.fits
      rw [List.length_append, List.length_take, room]
      omega
    status := { b.status with bytesRead := b.status.bytesRead + bytes.length } }

def resync : UwbHardwareBridge :=
  { b.discardPrefix 1 with status := { b.status with resyncBytes := b.status.resyncBytes + 1 } }

/-- A byte that begins no valid frame, although it could. -/
def invalid : UwbHardwareBridge :=
  { b.resync with status := { b.resync.status with invalidFrames := b.status.invalidFrames + 1 } }

def parseBuffer (b : UwbHardwareBridge) : Option UwbHardwareObservation × UwbHardwareBridge :=
  if 4 ≤ b.buffer.length then
    if b.buffer.take 4 ≠ uwbMagic then parseBuffer b.resync
    else if b.buffer.length < uwbHardwareFrameSize then (none, b)
    else
      match decodeUwbHardwareFrame (b.buffer.take uwbHardwareFrameSize) with
      | some observation =>
        (some observation, { b.discardPrefix uwbHardwareFrameSize with
            status := { b.status with validFrames := b.status.validFrames + 1 } })
      | none => parseBuffer b.invalid
  else (none, b)
termination_by b.buffer.length
decreasing_by
  all_goals
    simp only [invalid, resync, discardPrefix, List.length_drop]
    omega

def putBack (bytes : ByteString) (rest : List Delivery) : List Delivery := match bytes with
  | [] => rest
  | next :: left => .data next left :: rest

/-- The reads of `try_read`, while there is room. -/
def readLoop (b : UwbHardwareBridge) : List Delivery → UwbHardwareBridge × List Delivery
  | [] => (b, [])
  | .data first more :: rest =>
    if b.room = 0 then (b, .data first more :: rest)
    else if more.length + 1 ≤ b.room then readLoop (b.receive (first :: more)) rest
    else
      (b.receive ((first :: more).take b.room), putBack ((first :: more).drop b.room) rest)
  | .endOfFile :: rest => if b.room = 0 then (b, .endOfFile :: rest) else (b.fault enodata, rest)
  | .failure errno :: rest =>
    if b.room = 0 then (b, .failure errno :: rest)
    else if errno = eintr then readLoop b rest
    else if errno = eagain then (b, rest)
    else (b.fault errno, rest)

def tryRead (deliveries : List Delivery) :
    Option UwbHardwareObservation × UwbHardwareBridge × List Delivery :=
  match b.parseBuffer with
  | (some observation, b') => (some observation, b', deliveries)
  | (none, b') =>
    if b'.connected = false then (none, b', deliveries)
    else
      let (b'', rest) := b'.readLoop deliveries
      let (observation, left) := b''.parseBuffer
      (observation, left, rest)

/-- The observations of some calls of `try_read`, one after the other, and what they leave. -/
def poll (b : UwbHardwareBridge) (deliveries : List Delivery) :
    ℕ → List UwbHardwareObservation × UwbHardwareBridge × List Delivery
  | 0 => ([], b, deliveries)
  | n + 1 =>
    let (observation, b', rest) := b.tryRead deliveries
    let (observations, left) := poll b' rest n
    (observation.toList ++ observations, left)

end UwbHardwareBridge

/-! ## The stream -/

def received : List Delivery → ByteString
  | [] => []
  | .data first more :: rest => first :: more ++ received rest
  | .endOfFile :: _ => []
  | .failure errno :: rest => if errno = eintr ∨ errno = eagain then received rest else []

/-- One call finds the end or an error: nothing makes it wait, and its reads do not fill the room. -/
def reachesEnd : ℕ → List Delivery → Bool
  | _, [] => false
  | room, .data _ more :: rest => more.length + 1 < room && reachesEnd (room - (more.length + 1)) rest
  | room, .endOfFile :: _ => 0 < room
  | room, .failure errno :: rest =>
    0 < room && if errno = eintr then reachesEnd room rest else errno ≠ eagain

/-- More than the calls that the deliveries can need. -/
def callsFor : List Delivery → ℕ
  | [] => 0
  | .data _ more :: rest => 2 * (more.length + 1) + 1 + callsFor rest
  | _ :: rest => 1 + callsFor rest

namespace UwbHardwareBridge

/-- The bytes that the bridge holds and those it can still read. -/
def pending (b : UwbHardwareBridge) (deliveries : List Delivery) : ByteString :=
  b.buffer ++ if b.connected then received deliveries else []

/-- The condition of a call: if it finds the end or an error, then with no frame left to take. -/
def CallKeeps (b : UwbHardwareBridge) (deliveries : List Delivery) : Prop :=
  b.connected = true → b.parseBuffer.1 = none → reachesEnd b.parseBuffer.2.room deliveries = true →
    uwbFraming.scan (b.pending deliveries) = []

end UwbHardwareBridge

/-- For a bridge that begins with the deliveries: the calls return exactly the frames of the stream, and what
is encoded is decoded again. -/
def StreamDelivered (b : UwbHardwareBridge) (deliveries : List Delivery) : Prop :=
  (∀ n, callsFor deliveries ≤ n →
    (b.adopt.poll deliveries n).1 = uwbFraming.scan (received deliveries)) ∧
  ∀ o frame, encodeUwbHardwareFrame o = some frame → decodeUwbHardwareFrame frame = some o

/-! ## Taking frames -/

section

variable {b : UwbHardwareBridge} {deliveries : List Delivery} {n m : ℕ}

open UwbHardwareBridge

/-- What `parse_buffer` does to the stream. -/
structure ParseSpec (b : UwbHardwareBridge) (r : Option UwbHardwareObservation × UwbHardwareBridge) :
    Prop where
  scan : ∀ more, uwbFraming.scan (b.buffer ++ more) = r.1.toList ++ uwbFraming.scan (r.2.buffer ++ more)
  connected : r.2.connected = b.connected
  le : r.2.buffer.length ≤ b.buffer.length
  short : r.1 = none → r.2.buffer.length < uwbHardwareFrameSize
  taken : r.1 ≠ none → r.2.buffer.length < b.buffer.length

lemma scan_resync (hne : b.buffer ≠ []) (h : ∀ more, uwbFraming.frameAt (b.buffer ++ more) = none)
    (more : ByteString) :
    uwbFraming.scan (b.buffer ++ more) = uwbFraming.scan (b.resync.buffer ++ more) := by
  have hat := h more
  obtain ⟨byte, rest, hbuffer⟩ := List.exists_cons_of_ne_nil hne
  have hresync : b.resync.buffer = rest := by
    change b.buffer.drop 1 = rest
    rw [hbuffer]
    rfl
  rw [hbuffer, List.cons_append] at hat
  rw [hresync, hbuffer, List.cons_append, Framing.scan_of_no_frame hat]

variable {b' : UwbHardwareBridge}

lemma ParseSpec.resync {r : Option UwbHardwareObservation × UwbHardwareBridge}
    (hne : b.buffer ≠ []) (hframe : ∀ more, uwbFraming.frameAt (b.buffer ++ more) = none)
    (hbuffer : b'.buffer = b.resync.buffer) (hconnected : b'.connected = b.connected)
    (h : ParseSpec b' r) : ParseSpec b r where
  scan more := by rw [scan_resync hne hframe, ← hbuffer, h.scan]
  connected := by rw [h.connected, hconnected]
  le := by
    have hle := h.le
    rw [hbuffer] at hle
    exact hle.trans (by simp [UwbHardwareBridge.resync, discardPrefix])
  short := h.short
  taken hr := by
    have hlt := h.taken hr
    rw [hbuffer] at hlt
    exact hlt.trans_le (by simp [UwbHardwareBridge.resync, discardPrefix])

/-- **Taking frames from the buffer is scanning the stream.** By the recursion of `parse_buffer`. -/
lemma parse_scan (b : UwbHardwareBridge) : ParseSpec b b.parseBuffer := by
  induction b using UwbHardwareBridge.parseBuffer.induct with
  | case1 b hfour hmagic ih =>
    have hne : b.buffer ≠ [] := by
      rintro heq
      rw [heq] at hfour
      exact absurd hfour (by decide)
    rw [parseBuffer, if_pos hfour, if_pos hmagic]
    refine ih.resync hne (fun more => Framing.frameAt_of_not_magic hfour ?_) rfl rfl
    intro hprefix
    exact hmagic (List.prefix_iff_eq_take.mp hprefix).symm
  | case2 b hfour hmagic hshort =>
    rw [parseBuffer, if_pos hfour, if_neg hmagic, if_pos hshort]
    exact ⟨fun _ => rfl, rfl, le_refl _, fun _ => hshort, fun hr => absurd rfl hr⟩
  | case3 b hfour hmagic hlong o hdecode =>
    have hle : uwbHardwareFrameSize ≤ b.buffer.length := not_lt.mp hlong
    have hframe : uwbFraming.frameAt b.buffer = some o := by
      rw [Framing.frameAt, if_pos (show uwbFraming.size ≤ _ from hle)]
      exact hdecode
    rw [parseBuffer, if_pos hfour, if_neg hmagic, if_neg hlong, hdecode]
    refine ⟨fun more => Framing.scan_of_frame hframe, rfl, ?_, fun hr => absurd hr (by simp), fun _ => ?_⟩
    · simp [discardPrefix]
    · change (b.buffer.drop uwbHardwareFrameSize).length < b.buffer.length
      rw [List.length_drop, uwbHardwareFrameSize]
      omega
  | case4 b hfour hmagic hlong hdecode ih =>
    have hle : uwbHardwareFrameSize ≤ b.buffer.length := not_lt.mp hlong
    have hne : b.buffer ≠ [] := by
      rintro heq
      rw [heq] at hfour
      exact absurd hfour (by decide)
    rw [parseBuffer, if_pos hfour, if_neg hmagic, if_neg hlong, hdecode]
    refine ParseSpec.resync hne (fun more => ?_) (show b.invalid.buffer = b.resync.buffer from rfl) rfl ih
    rw [Framing.frameAt_append (show uwbFraming.size ≤ _ from hle), Framing.frameAt,
      if_pos (show uwbFraming.size ≤ _ from hle)]
    exact hdecode
  | case5 b hfour =>
    rw [parseBuffer, if_neg hfour]
    refine ⟨fun _ => rfl, rfl, le_refl _, fun _ => ?_, fun hr => absurd rfl hr⟩
    exact lt_of_lt_of_le (not_le.mp hfour) (by decide)

/-! ## Reading -/

/-- What the reads of a call leave in the device: they only get fewer. -/
structure ReadSpec (b : UwbHardwareBridge) (deliveries : List Delivery)
    (r : UwbHardwareBridge × List Delivery) : Prop where
  ended : reachesEnd b.room deliveries = true → r.1.connected = false ∧ r.1.buffer = []
  goesOn : reachesEnd b.room deliveries = false →
    r.1.connected = b.connected ∧ r.1.buffer ++ received r.2 = b.buffer ++ received deliveries
  fewer : 0 < b.room → deliveries ≠ [] →
    r.1.buffer.length + callsFor r.2 < b.buffer.length + callsFor deliveries
  le : r.1.buffer.length + callsFor r.2 ≤ b.buffer.length + callsFor deliveries

lemma reachesEnd_of_full (deliveries : List Delivery) : reachesEnd 0 deliveries = false := by
  cases deliveries with
  | nil => rfl
  | cons delivery rest => cases delivery <;> rfl

lemma ReadSpec.of_full (h : b.room = 0) : ReadSpec b deliveries (b, deliveries) where
  ended hend := by
    rw [h, reachesEnd_of_full] at hend
    cases hend
  goesOn _ := ⟨rfl, rfl⟩
  fewer hroom := absurd h hroom.ne'
  le := le_refl _

lemma received_left (bytes : ByteString) (rest : List Delivery) :
    received (putBack bytes rest) = bytes ++ received rest := by
  cases bytes <;> rfl

lemma callsFor_left_le (bytes : ByteString) (rest : List Delivery) :
    callsFor (putBack bytes rest) ≤ 2 * bytes.length + 1 + callsFor rest := by
  cases bytes with
  | nil => exact Nat.le_add_left _ _
  | cons next left => simp [putBack, callsFor]

lemma buffer_receive {bytes : ByteString} (h : bytes.length ≤ b.room) :
    (b.receive bytes).buffer = b.buffer ++ bytes := by
  change b.buffer ++ bytes.take b.room = _
  rw [List.take_of_length_le h]

lemma room_receive {bytes : ByteString} (h : bytes.length ≤ b.room) :
    (b.receive bytes).room = b.room - bytes.length := by
  rw [room, buffer_receive h, List.length_append, room]
  omega

/-- **The reads of a call.** By induction on what the device delivers. -/
lemma read_spec (b : UwbHardwareBridge) (deliveries : List Delivery) :
    ReadSpec b deliveries (b.readLoop deliveries) := by
  induction deliveries generalizing b with
  | nil => exact ⟨fun h => (by cases h), fun _ => ⟨rfl, rfl⟩, fun _ h => absurd rfl h, le_refl _⟩
  | cons delivery rest ih =>
    by_cases hroom : b.room = 0
    · have hstop : b.readLoop (delivery :: rest) = (b, delivery :: rest) := by
        cases delivery <;> rw [readLoop, if_pos hroom]
      rw [hstop]
      exact .of_full hroom
    have hpos : 0 < b.room := Nat.pos_of_ne_zero hroom
    cases delivery with
    | data first more =>
      by_cases hfits : more.length + 1 ≤ b.room
      · have hlength : (first :: more).length ≤ b.room := hfits
        have hrest := ih (b.receive (first :: more))
        have hless : (b.receive (first :: more)).buffer.length + callsFor rest <
            b.buffer.length + callsFor (.data first more :: rest) := by
          rw [buffer_receive hlength, List.length_append, List.length_cons, callsFor]
          omega
        have hend : reachesEnd b.room (.data first more :: rest) =
            reachesEnd (b.receive (first :: more)).room rest := by
          rw [reachesEnd, room_receive hlength, List.length_cons]
          rcases hfits.lt_or_eq with hlt | heq
          · simp [hlt]
          · rw [heq, Nat.sub_self, reachesEnd_of_full]
            simp
        rw [readLoop, if_neg hroom, if_pos hfits]
        refine ⟨fun h => hrest.ended (hend ▸ h), fun h => ?_, fun _ _ => hrest.le.trans_lt hless,
          hrest.le.trans hless.le⟩
        obtain ⟨hconnected, hbytes⟩ := hrest.goesOn (hend ▸ h)
        refine ⟨hconnected, hbytes.trans ?_⟩
        rw [buffer_receive hlength, List.append_assoc]
        rfl
      · have htake : ((first :: more).take b.room).length = b.room := by
          rw [List.length_take, List.length_cons]
          omega
        have hless : (b.receive ((first :: more).take b.room)).buffer.length +
            callsFor (putBack ((first :: more).drop b.room) rest) <
            b.buffer.length + callsFor (.data first more :: rest) := by
          have hleft := callsFor_left_le ((first :: more).drop b.room) rest
          rw [List.length_drop, List.length_cons] at hleft
          rw [buffer_receive htake.le, List.length_append, htake]
          refine lt_of_le_of_lt (Nat.add_le_add_left hleft _) ?_
          rw [callsFor]
          omega
        rw [readLoop, if_neg hroom, if_neg hfits]
        refine ⟨fun h => ?_, fun _ => ⟨rfl, ?_⟩, fun _ _ => hless, hless.le⟩
        · rw [reachesEnd, Bool.and_eq_true, decide_eq_true_eq] at h
          exact absurd h.1.le hfits
        · rw [buffer_receive htake.le, received_left, List.append_assoc, ← List.append_assoc (List.take _ _),
            List.take_append_drop]
          rfl
    | endOfFile =>
      rw [readLoop, if_neg hroom]
      have hless : (b.fault enodata).buffer.length + callsFor rest <
          b.buffer.length + callsFor (.endOfFile :: rest) := by
        change 0 + callsFor rest < b.buffer.length + (1 + callsFor rest)
        omega
      refine ⟨fun _ => ⟨rfl, rfl⟩, fun h => ?_, fun _ _ => hless, hless.le⟩
      rw [reachesEnd, decide_eq_false_iff_not] at h
      exact absurd hpos h
    | failure errno =>
      by_cases hintr : errno = eintr
      · have hrest := ih b
        have hend : reachesEnd b.room (.failure errno :: rest) = reachesEnd b.room rest := by
          simp [reachesEnd, hpos, hintr]
        have hless : b.buffer.length + callsFor rest <
            b.buffer.length + callsFor (.failure errno :: rest) := by
          change _ < b.buffer.length + (1 + callsFor rest)
          omega
        rw [readLoop, if_neg hroom, if_pos hintr]
        refine ⟨fun h => hrest.ended (hend ▸ h), fun h => ?_, fun _ _ => hrest.le.trans_lt hless,
          hrest.le.trans hless.le⟩
        obtain ⟨hconnected, hbytes⟩ := hrest.goesOn (hend ▸ h)
        refine ⟨hconnected, hbytes.trans ?_⟩
        rw [received, if_pos (Or.inl hintr)]
      · by_cases hagain : errno = eagain
        · have hless : b.buffer.length + callsFor rest <
              b.buffer.length + callsFor (.failure errno :: rest) := by
            change _ < b.buffer.length + (1 + callsFor rest)
            omega
          rw [readLoop, if_neg hroom, if_neg hintr, if_pos hagain]
          refine ⟨fun h => ?_, fun _ => ⟨rfl, ?_⟩, fun _ _ => hless, hless.le⟩
          · have hne : eagain ≠ eintr := by decide
            simp [reachesEnd, hagain, hne] at h
          · rw [received, if_pos (Or.inr hagain)]
        · rw [readLoop, if_neg hroom, if_neg hintr, if_neg hagain]
          have hless : (b.fault errno).buffer.length + callsFor rest <
              b.buffer.length + callsFor (.failure errno :: rest) := by
            change 0 + callsFor rest < b.buffer.length + (1 + callsFor rest)
            omega
          refine ⟨fun _ => ⟨rfl, rfl⟩, fun h => ?_, fun _ _ => hless, hless.le⟩
          simp [reachesEnd, hpos, hintr, hagain] at h

/-! ## Calls -/

/-- A bridge without a descriptor holds nothing. -/
def UwbHardwareBridge.Tidy (b : UwbHardwareBridge) : Prop := b.connected = false → b.buffer = []

structure CallSpec (b : UwbHardwareBridge) (deliveries : List Delivery)
    (r : Option UwbHardwareObservation × UwbHardwareBridge × List Delivery) : Prop where
  tidy : r.2.1.Tidy
  keeps : b.CallKeeps deliveries →
    uwbFraming.scan (b.pending deliveries) = r.1.toList ++ uwbFraming.scan (r.2.1.pending r.2.2)
  loses : ¬b.CallKeeps deliveries → r.1 = none ∧ uwbFraming.scan (r.2.1.pending r.2.2) = [] ∧
    uwbFraming.scan (b.pending deliveries) ≠ []
  fewer : uwbFraming.scan (b.pending deliveries) ≠ [] →
    r.2.1.buffer.length + callsFor r.2.2 < b.buffer.length + callsFor deliveries

lemma CallSpec.of_frame (htidy : b.Tidy) {o : UwbHardwareObservation}
    (h : b.parseBuffer = (some o, b')) : CallSpec b deliveries (some o, b', deliveries) := by
  have hparse := parse_scan b
  rw [h] at hparse
  have hkeeps : b.CallKeeps deliveries := by
    intro _ hnone _
    rw [h] at hnone
    cases hnone
  refine ⟨fun hclosed => ?_, fun _ => ?_, fun hnot => absurd hkeeps hnot, fun _ => ?_⟩
  · have hlt := hparse.taken (by simp)
    rw [htidy (hparse.connected.symm.trans hclosed)] at hlt
    cases hlt
  · have hscan := hparse.scan (if b.connected then received deliveries else [])
    have hconnected : b'.connected = b.connected := hparse.connected
    rw [pending, pending, hconnected]
    exact hscan
  · exact Nat.add_lt_add_right (hparse.taken (by simp)) _

lemma CallSpec.of_closed (htidy : b.Tidy) (hclosed : b.connected = false)
    (h : b.parseBuffer = (none, b')) : CallSpec b deliveries (none, b', deliveries) := by
  have hparse := parse_scan b
  rw [h] at hparse
  have hbuffer : b'.buffer = [] := by
    have hle := hparse.le
    rw [htidy hclosed] at hle
    exact List.length_eq_zero_iff.mp (Nat.le_zero.mp hle)
  have hconnected : b'.connected = b.connected := hparse.connected
  have hpending : b.pending deliveries = [] := by rw [pending, htidy hclosed, hclosed]; rfl
  have hpending' : b'.pending deliveries = [] := by rw [pending, hbuffer, hconnected, hclosed]; rfl
  have hkeeps : b.CallKeeps deliveries := by
    intro hopen
    rw [hclosed] at hopen
    cases hopen
  refine ⟨fun _ => hbuffer, fun _ => ?_, fun hnot => absurd hkeeps hnot, fun hne => ?_⟩
  · rw [hpending, hpending']
    rfl
  · rw [hpending, Framing.scan_nil] at hne
    exact absurd rfl hne

/-- **What a call does.** -/
lemma call_spec (htidy : b.Tidy) (deliveries : List Delivery) :
    CallSpec b deliveries (b.tryRead deliveries) := by
  have hparse := parse_scan b
  cases hfirst : b.parseBuffer with
  | mk o b' =>
    cases o with
    | some o =>
      rw [tryRead, hfirst]
      exact .of_frame htidy hfirst
    | none =>
      by_cases hclosed : b.connected = false
      · have hclosed' : b'.connected = false := by
          rw [hfirst] at hparse
          exact hparse.connected.trans hclosed
        rw [tryRead, hfirst]
        dsimp only
        rw [if_pos hclosed']
        exact .of_closed htidy hclosed hfirst
      rw [hfirst] at hparse
      have hopen : b.connected = true := by simpa using hclosed
      have hopen' : b'.connected = true := hparse.connected.trans hopen
      have hshort : b'.buffer.length < uwbHardwareFrameSize := hparse.short rfl
      have hroom : 0 < b'.room := by
        have hsize : uwbHardwareFrameSize < uwbBufferSize := by decide
        rw [room]
        omega
      have hread := read_spec b' deliveries
      have hsecond := parse_scan (b'.readLoop deliveries).1
      have hcall : b.tryRead deliveries =
          ((b'.readLoop deliveries).1.parseBuffer.1, (b'.readLoop deliveries).1.parseBuffer.2,
            (b'.readLoop deliveries).2) := by
        rw [tryRead, hfirst]
        dsimp only
        rw [if_neg (by rw [hopen']; simp)]
      have hpending : b.pending deliveries = b.buffer ++ received deliveries := by
        rw [pending, hopen]
        rfl
      have hscan : uwbFraming.scan (b.pending deliveries) =
          uwbFraming.scan (b'.buffer ++ received deliveries) := by
        rw [hpending, hparse.scan]
        rfl
      have hconnected : (b'.readLoop deliveries).1.parseBuffer.2.connected =
          (b'.readLoop deliveries).1.connected := hsecond.connected
      have hfewer : uwbFraming.scan (b.pending deliveries) ≠ [] →
          (b'.readLoop deliveries).1.parseBuffer.2.buffer.length + callsFor (b'.readLoop deliveries).2 <
            b.buffer.length + callsFor deliveries := by
        intro hne
        have hsome : deliveries ≠ [] := by
          rintro rfl
          rw [hscan, received, List.append_nil, Framing.scan_of_short hshort] at hne
          exact hne rfl
        have hless := hread.fewer hroom hsome
        have hle := hsecond.le
        have hle' : b'.buffer.length ≤ b.buffer.length := hparse.le
        omega
      rw [hcall]
      by_cases hend : reachesEnd b'.room deliveries = true
      · obtain ⟨hgone, hempty⟩ := hread.ended hend
        have hnothing : (b'.readLoop deliveries).1.parseBuffer.1 = none ∧
            (b'.readLoop deliveries).1.parseBuffer.2.buffer = [] := by
          have hnone := hsecond.scan []
          have hle := hsecond.le
          rw [hempty, List.append_nil, Framing.scan_nil] at hnone
          rw [hempty] at hle
          refine ⟨?_, List.length_eq_zero_iff.mp (Nat.le_zero.mp hle)⟩
          cases hobservation : (b'.readLoop deliveries).1.parseBuffer.1 with
          | none => rfl
          | some o =>
            rw [hobservation] at hnone
            cases hnone
        have hrest : (b'.readLoop deliveries).1.parseBuffer.2.pending
            (b'.readLoop deliveries).2 = [] := by
          rw [pending, hnothing.2, hconnected, hgone]
          rfl
        refine ⟨fun _ => hnothing.2, fun hkeeps => ?_, fun hloses => ?_, hfewer⟩
        · have hnone : b.parseBuffer.1 = none := by rw [hfirst]
          have hend' : reachesEnd b.parseBuffer.2.room deliveries = true := by rwa [hfirst]
          rw [hkeeps hopen hnone hend']
          rw [hnothing.1, hrest, Framing.scan_nil]
          rfl
        · rw [hrest, Framing.scan_nil]
          refine ⟨hnothing.1, rfl, fun hnil => hloses fun _ _ _ => hnil⟩
      · have hgoes := hread.goesOn (by simpa using hend)
        have hkeeps : b.CallKeeps deliveries := by
          intro _ _ hreaches
          rw [hfirst] at hreaches
          exact absurd hreaches hend
        have hstays : (b'.readLoop deliveries).1.connected = true := hgoes.1.trans hopen'
        refine ⟨fun hclosed => ?_, fun _ => ?_, fun hnot => absurd hkeeps hnot, hfewer⟩
        · rw [hconnected, hstays] at hclosed
          cases hclosed
        · rw [hscan, ← hgoes.2, hsecond.scan]
          rw [pending, hconnected, hstays]
          rfl

/-! ## Runs -/

lemma poll_succ (n : ℕ) : b.poll deliveries (n + 1) =
    ((b.tryRead deliveries).1.toList ++ ((b.tryRead deliveries).2.1.poll (b.tryRead deliveries).2.2 n).1,
      ((b.tryRead deliveries).2.1.poll (b.tryRead deliveries).2.2 n).2) := rfl

def KeepsAll (b : UwbHardwareBridge) (deliveries : List Delivery) : Prop :=
  ∀ n, (b.poll deliveries n).2.1.CallKeeps (b.poll deliveries n).2.2

lemma KeepsAll.next (h : KeepsAll b deliveries) :
    KeepsAll (b.tryRead deliveries).2.1 (b.tryRead deliveries).2.2 := fun n => h (n + 1)

/-- **Calls that keep the frames return those of the stream, one after the other.** By induction on the calls. -/
lemma poll_scan (htidy : b.Tidy) (h : KeepsAll b deliveries) (n : ℕ) :
    uwbFraming.scan (b.pending deliveries) = (b.poll deliveries n).1 ++
      uwbFraming.scan ((b.poll deliveries n).2.1.pending (b.poll deliveries n).2.2) := by
  induction n generalizing b deliveries with
  | zero => rfl
  | succ n ih =>
    have hcall := call_spec htidy deliveries
    rw [hcall.keeps (h 0), ih hcall.tidy h.next, poll_succ, List.append_assoc]

lemma CallSpec.length_le {r : Option UwbHardwareObservation × UwbHardwareBridge × List Delivery}
    (h : CallSpec b deliveries r) :
    r.1.toList.length + (uwbFraming.scan (r.2.1.pending r.2.2)).length ≤
      (uwbFraming.scan (b.pending deliveries)).length := by
  by_cases hkeeps : b.CallKeeps deliveries
  · rw [h.keeps hkeeps, List.length_append]
  · obtain ⟨hnone, hrest, -⟩ := h.loses hkeeps
    rw [hnone, hrest]
    exact Nat.zero_le _

lemma length_poll_le (htidy : b.Tidy) (n : ℕ) : (b.poll deliveries n).1.length +
      (uwbFraming.scan ((b.poll deliveries n).2.1.pending (b.poll deliveries n).2.2)).length ≤
        (uwbFraming.scan (b.pending deliveries)).length := by
  induction n generalizing b deliveries with
  | zero => simp [poll]
  | succ n ih =>
    have hcall := call_spec htidy deliveries
    have hrest := @ih _ (b.tryRead deliveries).2.2 hcall.tidy
    have hle := hcall.length_le
    rw [poll_succ, List.length_append]
    dsimp only
    omega

lemma scan_poll_eq_nil (htidy : b.Tidy) (h : b.buffer.length + callsFor deliveries ≤ n) :
    uwbFraming.scan ((b.poll deliveries n).2.1.pending (b.poll deliveries n).2.2) = [] := by
  induction n generalizing b deliveries with
  | zero =>
    by_contra hne
    exact absurd ((call_spec htidy deliveries).fewer hne) (by omega)
  | succ n ih =>
    have hcall := call_spec htidy deliveries
    by_cases hne : uwbFraming.scan (b.pending deliveries) = []
    · have hle := @length_poll_le _ deliveries htidy (n + 1)
      rw [hne, List.length_nil] at hle
      exact List.length_eq_zero_iff.mp (by omega)
    · exact @ih _ (b.tryRead deliveries).2.2 hcall.tidy
        (Nat.lt_succ_iff.mp ((hcall.fewer hne).trans_le h))

lemma length_poll_lt (htidy : b.Tidy)
    (h : ¬(b.poll deliveries m).2.1.CallKeeps (b.poll deliveries m).2.2) (hlt : m < n) :
    (b.poll deliveries n).1.length < (uwbFraming.scan (b.pending deliveries)).length := by
  induction m generalizing b deliveries n with
  | zero =>
    obtain ⟨n, rfl⟩ := Nat.exists_eq_succ_of_ne_zero hlt.ne'
    have hcall := call_spec htidy deliveries
    obtain ⟨hnone, hrest, hsome⟩ := hcall.loses h
    have hle := @length_poll_le _ (b.tryRead deliveries).2.2 hcall.tidy n
    rw [hrest, List.length_nil] at hle
    rw [poll_succ, List.length_append, hnone]
    have hpos := List.length_pos_iff.mpr hsome
    simp only [Option.toList_none, List.length_nil]
    omega
  | succ m ih =>
    obtain ⟨n, rfl⟩ := Nat.exists_eq_succ_of_ne_zero (Nat.zero_lt_of_lt hlt).ne'
    have hcall := call_spec htidy deliveries
    have hless := @ih _ (b.tryRead deliveries).2.2 _ hcall.tidy h (Nat.lt_of_succ_lt_succ hlt)
    have hle := hcall.length_le
    rw [poll_succ, List.length_append]
    omega

end

/-! ## Every frame of the stream -/

section

open UwbHardwareBridge

variable (b : UwbHardwareBridge) (deliveries : List Delivery)

lemma tidy_adopt : b.adopt.Tidy := fun h => absurd h (by simp [adopt])

/-- **The calls return the frames of the stream exactly when each finds the end or an error with no frame left
to take.** -/
theorem stream_delivered_iff : StreamDelivered b deliveries ↔ KeepsAll b.adopt deliveries := by
  have hpending : b.adopt.pending deliveries = received deliveries := rfl
  constructor
  · intro h n
    by_contra hnot
    have hless := length_poll_lt (tidy_adopt b) hnot (Nat.lt_succ_of_le (le_max_left n (callsFor deliveries)))
    rw [h.1 _ ((le_max_right _ _).trans (Nat.le_succ _)), hpending] at hless
    exact absurd hless (lt_irrefl _)
  · refine fun h => ⟨fun n hn => ?_, fun o frame => decodeUwbHardwareFrame_encode⟩
    have hscan := poll_scan (tidy_adopt b) h n
    have hnil := scan_poll_eq_nil (tidy_adopt b) (show b.adopt.buffer.length + callsFor deliveries ≤ n from by
      change 0 + callsFor deliveries ≤ n
      omega)
    rw [hnil, List.append_nil, hpending] at hscan
    exact hscan.symm

lemma not_delivered_of_frame {o : UwbHardwareObservation} {first : UInt8} {more : ByteString}
    (h : o.Admitted) (hframe : uwbFrame o = first :: more) :
    ¬StreamDelivered {} [.data first more, .endOfFile] := by
  rw [stream_delivered_iff]
  intro hkeeps
  have hlength : more.length + 1 = 80 := by
    rw [← List.length_cons (a := first), ← hframe, length_uwbFrame]
    rfl
  have hempty : ({} : UwbHardwareBridge).adopt.parseBuffer = (none, ({} : UwbHardwareBridge).adopt) := by
    rw [parseBuffer, if_neg (by decide)]
  have hend : reachesEnd ({} : UwbHardwareBridge).adopt.room [.data first more, .endOfFile] = true := by
    rw [reachesEnd, hlength]
    decide
  have hreceived : received [.data first more, .endOfFile] = uwbFrame o := by
    rw [received, received, List.append_nil, hframe]
  have hnil : uwbFraming.scan (received [.data first more, .endOfFile]) = [] := by
    have hfirst : ({} : UwbHardwareBridge).adopt.CallKeeps [.data first more, .endOfFile] := hkeeps 0
    rw [CallKeeps, hempty] at hfirst
    exact hfirst rfl rfl hend
  rw [hreceived, ← List.append_nil (uwbFrame o), Framing.scan_of_frame (frameAt_uwbFrame h)] at hnil
  cases hnil

def oneObservation : UwbHardwareObservation where
  nodeId := 1
  sequence := 1
  authorityEpoch := 1
  hubTimeNs := 1
  nodeTimeNs := 1
  distanceMm := 0
  rangeUncertaintyMm := 0
  clockUncertaintyNs := 0
  authenticated := true

theorem frame_before_end_is_lost :
    ¬StreamDelivered {} [.data 0x53 ((uwbFrame oneObservation).drop 1), .endOfFile] :=
  not_delivered_of_frame (o := oneObservation) (by decide) rfl

end

end StageForge
