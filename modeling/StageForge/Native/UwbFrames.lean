import StageForge.Library.Bytes
import StageForge.Library.FrameScanner

/-!
# Frames of a ranging device

`encode_uwb_hardware_frame` and `decode_uwb_hardware_frame` of `native/src/uwb_hardware_bridge.cpp`: a
version, a length, the fields in little-endian order and a checksum. Distances are the bits of a double.
-/

namespace StageForge

open Bytes

/-! ## Fields -/

/-- `put_u16`, `put_u32` and `put_u64`. -/
def littleEndian (k n : ℕ) : ByteString := (bigEndian k n).reverse

/-- `get_u16`, `get_u32` and `get_u64`. -/
def ofLittleEndian (b : ByteString) : ℕ := ofBigEndian b.reverse

@[simp] lemma length_littleEndian (k n : ℕ) : (littleEndian k n).length = k := by
  rw [littleEndian, List.length_reverse, length_bigEndian]

lemma ofLittleEndian_littleEndian {k n : ℕ} (h : n < 256 ^ k) :
    ofLittleEndian (littleEndian k n) = n := by
  rw [ofLittleEndian, littleEndian, List.reverse_reverse, ofBigEndian_bigEndian h]

def putU64 (n : UInt64) : ByteString := littleEndian 8 n.toNat

def getU64 (b : ByteString) : UInt64 := UInt64.ofNat (ofLittleEndian b)

lemma getU64_putU64 (n : UInt64) : getU64 (putU64 n) = n := by
  rw [getU64, putU64, ofLittleEndian_littleEndian n.toNat_lt, UInt64.ofNat_toNat]

@[simp] lemma length_putU64 (n : UInt64) : (putU64 n).length = 8 := length_littleEndian 8 _

/-- `std::isfinite`, of the bits of a double. -/
def isFiniteBits (bits : UInt64) : Bool := (bits >>> 52) &&& 0x7ff ≠ 0x7ff

/-- `value < 0.0`, of the bits of a finite double: a negative zero is not below zero. -/
def isNegativeBits (bits : UInt64) : Bool := 0x8000000000000000 < bits

/-! ## Checksums -/

/-- One bit of `hardware_crc32`. -/
def crcBit (crc : UInt32) : UInt32 := (crc >>> 1) ^^^ (0xedb88320 &&& (0 - (crc &&& 1)))

def crcByte (crc : UInt32) (byte : UInt8) : UInt32 := crcBit^[8] (crc ^^^ byte.toUInt32)

def hardwareCrc32 (data : ByteString) : UInt32 := ~~~(data.foldl crcByte 0xffffffff)

/-! ## Observations -/

structure UwbHardwareObservation where
  nodeId : UInt64
  sequence : UInt64
  authorityEpoch : UInt64
  hubTimeNs : UInt64
  nodeTimeNs : UInt64
  distanceMm : UInt64
  rangeUncertaintyMm : UInt64
  clockUncertaintyNs : UInt64
  authenticated : Bool
  deriving DecidableEq

/-- What both directions ask of an observation. -/
def UwbHardwareObservation.Admitted (o : UwbHardwareObservation) : Prop :=
  o.nodeId ≠ 0 ∧ o.sequence ≠ 0 ∧ o.authorityEpoch ≠ 0 ∧ o.hubTimeNs ≠ 0 ∧ o.nodeTimeNs ≠ 0 ∧
    isFiniteBits o.distanceMm = true ∧ isNegativeBits o.distanceMm = false ∧
    isFiniteBits o.rangeUncertaintyMm = true ∧ isNegativeBits o.rangeUncertaintyMm = false

instance (o : UwbHardwareObservation) : Decidable o.Admitted := instDecidableAnd

/-- `magic`. -/
def uwbMagic : ByteString := [0x53, 0x46, 0x55, 0x57]

def uwbHardwareFrameSize : ℕ := 80

def uwbFields (o : UwbHardwareObservation) : List ByteString :=
  [uwbMagic, [1], [1], littleEndian 2 uwbHardwareFrameSize, putU64 o.nodeId, putU64 o.sequence,
    putU64 o.authorityEpoch, putU64 o.hubTimeNs, putU64 o.nodeTimeNs, putU64 o.distanceMm,
    putU64 o.rangeUncertaintyMm, putU64 o.clockUncertaintyNs, [if o.authenticated then 1 else 0],
    [0, 0, 0]]

def uwbBody (o : UwbHardwareObservation) : ByteString := (uwbFields o).flatten

def uwbFrame (o : UwbHardwareObservation) : ByteString :=
  uwbBody o ++ littleEndian 4 (hardwareCrc32 (uwbBody o)).toNat

def encodeUwbHardwareFrame (o : UwbHardwareObservation) : Option ByteString :=
  if o.Admitted then some (uwbFrame o) else none

def bytesAt (frame : ByteString) (first count : ℕ) : ByteString := (frame.drop first).take count

def parseUwbHardwareFrame (frame : ByteString) : UwbHardwareObservation where
  nodeId := getU64 (bytesAt frame 8 8)
  sequence := getU64 (bytesAt frame 16 8)
  authorityEpoch := getU64 (bytesAt frame 24 8)
  hubTimeNs := getU64 (bytesAt frame 32 8)
  nodeTimeNs := getU64 (bytesAt frame 40 8)
  distanceMm := getU64 (bytesAt frame 48 8)
  rangeUncertaintyMm := getU64 (bytesAt frame 56 8)
  clockUncertaintyNs := getU64 (bytesAt frame 64 8)
  authenticated := (frame.getD 72 0) &&& 1 ≠ 0

def decodeUwbHardwareFrame (frame : ByteString) : Option UwbHardwareObservation :=
  if frame.length = uwbHardwareFrameSize ∧ frame.take 4 = uwbMagic ∧ frame.getD 4 0 = 1 ∧
      frame.getD 5 0 = 1 ∧ ofLittleEndian (bytesAt frame 6 2) = uwbHardwareFrameSize ∧
      ofLittleEndian (bytesAt frame 76 4) = (hardwareCrc32 (frame.take 76)).toNat ∧
      (parseUwbHardwareFrame frame).Admitted then
    some (parseUwbHardwareFrame frame)
  else none

/-! ## Round trip -/

section

variable {o : UwbHardwareObservation} {frame : ByteString}

lemma length_uwbBody (o : UwbHardwareObservation) : (uwbBody o).length = 76 := by
  simp [uwbBody, uwbFields, uwbMagic]

lemma length_uwbFrame (o : UwbHardwareObservation) : (uwbFrame o).length = uwbHardwareFrameSize := by
  rw [uwbFrame, List.length_append, length_uwbBody, length_littleEndian]
  rfl

lemma bytesAt_flatten {fields : List ByteString} {field tail : ByteString} {i first count : ℕ}
    (hfield : fields[i]? = some field) (hfirst : ((fields.take i).map List.length).sum = first)
    (hcount : field.length = count) : bytesAt (fields.flatten ++ tail) first count = field := by
  obtain ⟨hi, hget⟩ := List.getElem?_eq_some_iff.mp hfield
  have hsplit : fields.flatten ++ tail =
      (fields.take i).flatten ++ (field ++ ((fields.drop (i + 1)).flatten ++ tail)) := by
    conv_lhs => rw [← List.take_append_drop i fields, List.drop_eq_getElem_cons hi, hget]
    simp only [List.flatten_append, List.flatten_cons, List.append_assoc]
  have hlength : (fields.take i).flatten.length = first := by rw [List.length_flatten, hfirst]
  rw [bytesAt, hsplit, ← hlength, ← hcount, List.drop_left, List.take_left]

lemma getU64_bytesAt {n : UInt64} {i first : ℕ} (hfield : (uwbFields o)[i]? = some (putU64 n))
    (hfirst : (((uwbFields o).take i).map List.length).sum = first) :
    getU64 (bytesAt (uwbFrame o) first 8) = n := by
  rw [uwbFrame, uwbBody, bytesAt_flatten hfield hfirst (length_putU64 n), getU64_putU64]

lemma getD_uwbFrame {byte : UInt8} {i first : ℕ} (hfield : (uwbFields o)[i]? = some [byte])
    (hfirst : (((uwbFields o).take i).map List.length).sum = first) :
    (uwbFrame o).getD first 0 = byte := by
  have hat := @bytesAt_flatten _ _ (littleEndian 4 (hardwareCrc32 (uwbBody o)).toNat) _ _ _ hfield hfirst rfl
  have hhead : (uwbFrame o)[first]? = (bytesAt (uwbFrame o) first 1).head? := by
    rw [bytesAt, List.head?_take, if_neg one_ne_zero, List.head?_drop]
  rw [List.getD_eq_getElem?_getD, hhead, uwbFrame, uwbBody]
  unfold uwbBody at hat
  rw [show [byte].length = 1 from rfl] at hat
  rw [hat]
  rfl

lemma parse_uwbFrame (o : UwbHardwareObservation) : parseUwbHardwareFrame (uwbFrame o) = o := by
  have hsum (i first : ℕ) (h : ([4, 1, 1, 2, 8, 8, 8, 8, 8, 8, 8, 8, 1, 3].take i).sum = first) :
      (((uwbFields o).take i).map List.length).sum = first := by
    rw [List.map_take, ← h]
    simp [uwbFields, uwbMagic]
  rw [parseUwbHardwareFrame]
  rw [getU64_bytesAt (i := 4) rfl (hsum 4 8 rfl), getU64_bytesAt (i := 5) rfl (hsum 5 16 rfl),
    getU64_bytesAt (i := 6) rfl (hsum 6 24 rfl), getU64_bytesAt (i := 7) rfl (hsum 7 32 rfl),
    getU64_bytesAt (i := 8) rfl (hsum 8 40 rfl), getU64_bytesAt (i := 9) rfl (hsum 9 48 rfl),
    getU64_bytesAt (i := 10) rfl (hsum 10 56 rfl), getU64_bytesAt (i := 11) rfl (hsum 11 64 rfl),
    getD_uwbFrame (i := 12) rfl (hsum 12 72 rfl)]
  have hflag (flag : Bool) : decide (((if flag then 1 else 0 : UInt8) &&& 1) ≠ 0) = flag := by
    cases flag <;> decide
  rw [hflag]

lemma decode_uwbFrame (h : o.Admitted) : decodeUwbHardwareFrame (uwbFrame o) = some o := by
  have htail : bytesAt (uwbFrame o) 76 4 = littleEndian 4 (hardwareCrc32 (uwbBody o)).toNat := by
    rw [bytesAt, uwbFrame, ← length_uwbBody o, List.drop_left]
    exact List.take_of_length_le (by rw [length_littleEndian])
  have hbody : (uwbFrame o).take 76 = uwbBody o := by
    rw [uwbFrame, ← length_uwbBody o, List.take_left]
  have hsize : bytesAt (uwbFrame o) 6 2 = littleEndian 2 uwbHardwareFrameSize := by
    rw [uwbFrame, uwbBody]
    exact bytesAt_flatten (i := 3) rfl (by simp [uwbFields, uwbMagic]) (by simp)
  rw [decodeUwbHardwareFrame, if_pos, parse_uwbFrame]
  refine ⟨length_uwbFrame o, rfl, rfl, rfl, ?_, ?_, ?_⟩
  · rw [hsize, ofLittleEndian_littleEndian (by decide)]
  · rw [htail, hbody, ofLittleEndian_littleEndian (UInt32.toNat_lt _)]
  · rw [parse_uwbFrame]
    exact h

/-- **What is encoded is decoded again.** -/
lemma decodeUwbHardwareFrame_encode (h : encodeUwbHardwareFrame o = some frame) :
    decodeUwbHardwareFrame frame = some o := by
  rw [encodeUwbHardwareFrame] at h
  split at h
  · next hadmitted =>
      rw [← Option.some.inj h]
      exact decode_uwbFrame hadmitted
  · cases h

end

def uwbFraming : Framing UInt8 UwbHardwareObservation where
  magic := uwbMagic
  size := uwbHardwareFrameSize
  decode := decodeUwbHardwareFrame
  magic_pos := by decide
  magic_le := by decide
  magic_of_decode := by
    intro frame a h
    rw [decodeUwbHardwareFrame] at h
    split at h
    · next hvalid =>
        rw [← hvalid.2.1]
        exact List.take_prefix 4 frame
    · cases h

lemma uwbFraming_decode : uwbFraming.decode = decodeUwbHardwareFrame := rfl

lemma frameAt_uwbFrame {o : UwbHardwareObservation} (h : o.Admitted) :
    uwbFraming.frameAt (uwbFrame o) = some o := by
  have hsize : (uwbFrame o).length = uwbFraming.size := length_uwbFrame o
  rw [Framing.frameAt, if_pos hsize.ge, List.take_of_length_le hsize.le, uwbFraming_decode]
  exact decode_uwbFrame h

end StageForge
