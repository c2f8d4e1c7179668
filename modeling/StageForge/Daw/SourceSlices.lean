import StageForge.Daw.RenderPlan
import StageForge.Daw.AutomationLanes

/-!
# Reading a source window by window

A renderer reads of a source no more than what a block needs, and resamples it to the canonical rate.

Levels are exact. A source is what decoding its file gives, sample by sample.
-/

namespace StageForge

open Python

/-! ## Decoded sources -/

/-- The samples of a file, frame by frame. -/
structure DecodedSource where
  channels : ℕ
  rate : ℕ
  frames : ℕ
  samples : List ℚ
  channels_pos : 0 < channels
  whole : samples.length = frames * channels

/-- `samples[::step]`. -/
def everyNth (step : ℕ) (samples : List ℚ) : List ℚ :=
  (List.range ((samples.length + step - 1) / step)).map fun i => samples.getD (i * step) 0

/-- `samples[1::channels] if channels > 1 else list(left)`. -/
def rightOf (channels : ℕ) (samples : List ℚ) : List ℚ :=
  if 1 < channels then everyNth channels (samples.drop 1) else everyNth channels samples

namespace DecodedSource

variable (src : DecodedSource)

/-- `readframes(count)`, after `setpos(pos)`. -/
def readFrames (pos count : ℕ) : List ℚ :=
  (src.samples.drop (pos * src.channels)).take (count * src.channels)

/-- `_source`, without the rate. -/
def wholeChannels : List ℚ × List ℚ :=
  (everyNth src.channels src.samples, rightOf src.channels src.samples)

end DecodedSource

/-- `data[i]`, where there is one. -/
def sampleAt (data : List ℚ) (i : ℤ) : Option ℚ := if 0 ≤ i then data[i.toNat]? else none

/-- One sample at the canonical rate, of data that begins at `origin`. -/
def resampleAt (data : List ℚ) (rate : ℕ) (origin position : ℤ) : ℚ :=
  let lo := position * rate / canonicalRate - origin
  let fraction : ℚ := (position * rate % canonicalRate : ℤ) / canonicalRate
  let a := (sampleAt data lo).getD 0
  let b := (sampleAt data (lo + 1)).getD a
  a + (b - a) * fraction

def resample (data : List ℚ) (rate : ℕ) (count start origin : ℤ) : List ℚ :=
  (Int.range 0 count).map fun i => resampleAt data rate origin (start + i)

def sourceSlice (src : DecodedSource) (start count : ℤ) : List ℚ × List ℚ :=
  let sourceStart := max 0 (start * src.rate / canonicalRate - 1)
  let sourceEnd := ((start + count) * src.rate + canonicalRate - 1) / canonicalRate + 2
  let pos := (min sourceStart src.frames).toNat
  let samples := src.readFrames pos (max 0 (sourceEnd - sourceStart)).toNat
  (resample (everyNth src.channels samples) src.rate count start sourceStart,
    resample (rightOf src.channels samples) src.rate count start sourceStart)

/-! ## A window is as good as the whole -/

variable {src : DecodedSource} {step pos count i : ℕ} {samples : List ℚ}

lemma getElem?_everyNth (hstep : 0 < step) : (everyNth step samples)[i]? = samples[i * step]? := by
  have hcount : i < (samples.length + step - 1) / step ↔ i * step < samples.length := by
    rw [Nat.lt_iff_add_one_le, Nat.le_div_iff_mul_le hstep, Nat.add_mul]
    omega
  rw [everyNth, List.getElem?_map]
  by_cases hi : i * step < samples.length
  · rw [List.getElem?_range (hcount.mpr hi), Option.map_some, List.getD_eq_getElem?_getD,
      List.getElem?_eq_getElem hi, Option.getD_some]
  · rw [List.getElem?_eq_none (by rw [List.length_range]; exact not_lt.mp (mt hcount.mp hi)),
      List.getElem?_eq_none (not_lt.mp hi), Option.map_none]

structure Windows (whole window : List ℚ) (pos count : ℕ) : Prop where
  get : ∀ i, window[i]? = if i < count then whole[pos + i]? else none

lemma windows_left : Windows (everyNth src.channels src.samples)
    (everyNth src.channels (src.readFrames pos count)) pos count := by
  have hchannels := src.channels_pos
  refine ⟨fun i => ?_⟩
  rw [getElem?_everyNth hchannels, DecodedSource.readFrames, List.getElem?_take,
    List.getElem?_drop, ← Nat.add_mul, getElem?_everyNth hchannels]
  simp only [Nat.mul_lt_mul_right hchannels]

lemma windows_right : Windows (rightOf src.channels src.samples)
    (rightOf src.channels (src.readFrames pos count)) pos count := by
  have hchannels := src.channels_pos
  unfold rightOf
  split_ifs with hstereo
  · refine ⟨fun i => ?_⟩
    have hinside : 1 + i * src.channels < count * src.channels ↔ i < count := by
      constructor
      · intro h
        exact Nat.lt_of_mul_lt_mul_right (by omega : i * src.channels < count * src.channels)
      · intro h
        have hnext := Nat.mul_le_mul_right src.channels (Nat.succ_le_of_lt h)
        rw [Nat.succ_mul] at hnext
        omega
    have hplace : pos * src.channels + (1 + i * src.channels) = 1 + (pos + i) * src.channels := by
      rw [Nat.add_mul]
      omega
    rw [getElem?_everyNth hchannels, List.getElem?_drop, DecodedSource.readFrames,
      List.getElem?_take, List.getElem?_drop, hplace, getElem?_everyNth hchannels,
      List.getElem?_drop]
    simp only [hinside]
  · exact windows_left

lemma getElem?_wholeChannels (h : src.frames ≤ i) :
    src.wholeChannels.1[i]? = none ∧ src.wholeChannels.2[i]? = none := by
  have hchannels := src.channels_pos
  have hbehind : src.samples.length ≤ i * src.channels := by
    rw [src.whole]
    exact Nat.mul_le_mul_right _ h
  have hleft : (everyNth src.channels src.samples)[i]? = none := by
    rw [getElem?_everyNth hchannels]
    exact List.getElem?_eq_none hbehind
  refine ⟨hleft, ?_⟩
  rw [DecodedSource.wholeChannels, rightOf]
  split_ifs
  · rw [getElem?_everyNth hchannels, List.getElem?_drop]
    exact List.getElem?_eq_none (hbehind.trans (Nat.le_add_left _ _))
  · exact hleft

lemma resample_window {whole window : List ℚ} {rate : ℕ} {start count : ℤ} {frames : ℕ}
    (hend : ∀ i, frames ≤ i → whole[i]? = none)
    (hwindow : Windows whole window (min (max 0 (start * rate / canonicalRate - 1)) frames).toNat
      (max 0 (((start + count) * rate + canonicalRate - 1) / canonicalRate + 2 -
        max 0 (start * rate / canonicalRate - 1))).toNat) :
    resample window rate count start (max 0 (start * rate / canonicalRate - 1)) =
      resample whole rate count start 0 := by
  have hpositive : (0 : ℤ) < canonicalRate := by decide
  refine List.map_congr_left fun i hi => ?_
  obtain ⟨hi0, hicount⟩ := Int.mem_range_iff.mp hi
  -- Every position that is looked at lies between the first one and the end of the window.
  have hfrom : start * rate / canonicalRate ≤ (start + i) * rate / canonicalRate := by
    refine Int.ediv_le_ediv hpositive ?_
    exact mul_le_mul_of_nonneg_right (by omega) (Int.natCast_nonneg rate)
  have hto : (start + i) * rate / canonicalRate ≤
      ((start + count) * rate + canonicalRate - 1) / canonicalRate := by
    refine Int.ediv_le_ediv hpositive ?_
    have hmul : (start + i) * rate ≤ (start + count) * rate :=
      mul_le_mul_of_nonneg_right (by omega) (Int.natCast_nonneg rate)
    omega
  generalize hlo : (start + i) * rate / canonicalRate = lo at hfrom hto
  generalize start * rate / canonicalRate = first at hfrom hwindow ⊢
  generalize ((start + count) * rate + canonicalRate - 1) / canonicalRate = last at hto hwindow ⊢
  have hsample : ∀ j, lo ≤ j → j ≤ lo + 1 →
      sampleAt window (j - max 0 (first - 1)) = sampleAt whole j := by
    intro j hj hj'
    unfold sampleAt
    by_cases hneg : j < 0
    · rw [if_neg (by omega), if_neg (by omega)]
    · rw [if_pos (by omega), if_pos (by omega), hwindow.get, if_pos (by omega)]
      by_cases hinside : max 0 (first - 1) ≤ frames
      · congr 1
        omega
      · rw [hend _ (by omega), hend _ (by omega)]
  have hnext : lo - max 0 (first - 1) + 1 = lo + 1 - max 0 (first - 1) := by omega
  unfold resampleAt
  rw [hlo]
  dsimp only
  rw [hnext, hsample lo (le_refl lo) (by omega), hsample (lo + 1) (by omega) (le_refl _), sub_zero]

lemma sourceSlice_eq (src : DecodedSource) (start count : ℤ) : sourceSlice src start count =
      (resample src.wholeChannels.1 src.rate count start 0,
        resample src.wholeChannels.2 src.rate count start 0) := by
  refine Prod.ext ?_ ?_
  · exact resample_window (fun i hi => (getElem?_wholeChannels hi).1) windows_left
  · exact resample_window (fun i hi => (getElem?_wholeChannels hi).2) windows_right

/-! ## Rendering in blocks -/

/-- `range(start, stop, size)`. -/
def blockStarts (size : ℕ) (start stop : ℤ) : List ℤ :=
  if _h : start < stop ∧ 0 < size then start :: blockStarts size (start + size) stop else []
termination_by (stop - start).toNat

/-- `left[destination] += …` for the frames from `destination` on. -/
noncomputable def addAt (destination : ℕ) (part mix : List (ℝ × ℝ)) : List (ℝ × ℝ) :=
  mix.mapIdx fun k x =>
    if destination ≤ k then x + (part[k - destination]?).getD 0 else x

/-- The gains of a region: its own, spread by the pan. -/
noncomputable def RenderRegion.gains (r : RenderRegion) : ℝ × ℝ :=
  let pan : ℚ := max (-1) (min 1 r.pan)
  (r.gain * Real.sqrt ((1 - pan) / 2 : ℚ), r.gain * Real.sqrt ((1 + pan) / 2 : ℚ))

/-- What a region adds to a block, for `amount` frames from `begin` on. -/
noncomputable def RenderRegion.part (r : RenderRegion) (src : DecodedSource) (begin amount : ℤ) :
    List (ℝ × ℝ) :=
  let relative := begin - r.renderStartFrame
  let slice := sourceSlice src (r.sourceStartFrame + relative) amount
  ((PreparedAutomation.prepare r.automation 1).block begin amount).mapIdx fun i (automated : ℚ) =>
    let envelope := fadeEnvelope r (relative + i)
    (slice.1.getD i 0 * r.gains.1 * envelope * automated,
      slice.2.getD i 0 * r.gains.2 * envelope * automated)

section

variable (media : ClipSource → Except Error DecodedSource)

noncomputable def addRegion (blockStart count : ℤ) (mix : List (ℝ × ℝ)) (r : RenderRegion) :
    Except Error (List (ℝ × ℝ)) :=
  let begin := max blockStart r.renderStartFrame
  let finish := min (blockStart + count) (r.renderStartFrame + r.renderFrames)
  if finish ≤ begin ∨ r.source.type ≠ .audioFile then .ok mix
  else do
    let src ← media r.source
    return addAt (begin - blockStart).toNat (r.part src begin (finish - begin)) mix

noncomputable def mixBlock (regions : List RenderRegion) (blockStart count : ℤ) :
    Except Error (List (ℝ × ℝ)) :=
  regions.foldlM (addRegion media blockStart count) (List.replicate count.toNat 0)

end

/-- What goes on from frame to frame: the gain of the limiter, the peak, and how many random numbers
have been drawn. -/
structure RenderState where
  limiter : ℝ
  peak : ℝ
  drawn : ℕ

/-- `round`: to the nearest integer, and to the even one of two. -/
noncomputable def roundReal (x : ℝ) : ℤ := if x - ⌊x⌋ < (1 / 2 : ℚ) then ⌊x⌋
  else if (1 / 2 : ℚ) < x - ⌊x⌋ then ⌊x⌋ + 1
  else if ⌊x⌋ % 2 = 0 then ⌊x⌋ else ⌊x⌋ + 1

noncomputable def quantised (bits : ℕ) (random : ℕ → ℝ) (s : RenderState) (value : ℝ) : RenderState × ℤ :=
  let scale : ℝ := (2 ^ (bits - 1) - 1 : ℤ)
  let dither := if bits < 32 then (random s.drawn - random (s.drawn + 1)) / scale else 0
  ({ s with drawn := if bits < 32 then s.drawn + 2 else s.drawn },
    roundReal (max (-1) (min 1 (value * s.limiter + dither)) * scale))

/-- One frame: the limiter goes on, and both samples are written. -/
noncomputable def writeFrame (bits : ℕ) (random : ℕ → ℝ) (acc : RenderState × List ℤ) (x : ℝ × ℝ) :
    RenderState × List ℤ :=
  let ceiling : ℝ := ((10 : ℕ) : ℝ) ^ ((-1 / 20 : ℚ) : ℝ)
  let framePeak := max |x.1| |x.2|
  let s : RenderState := { acc.1 with
      peak := max acc.1.peak framePeak
      limiter := if ceiling < framePeak then min acc.1.limiter (ceiling / framePeak)
        else min 1 (acc.1.limiter + (2 / 1000 : ℚ) * (1 - acc.1.limiter)) }
  let left := quantised bits random s x.1
  let right := quantised bits random left.1 x.2
  (right.1, acc.2 ++ [left.2, right.2])

/-- `_render_snapshot`, block by block. -/
noncomputable def renderBlocks (media : ClipSource → Except Error DecodedSource) (bits : ℕ)
    (random : ℕ → ℝ) (regions : List RenderRegion) (size : ℕ) (start stop : ℤ) :
    Except Error (RenderState × List ℤ) :=
  (blockStarts size start stop).foldlM (fun acc blockStart => do
      let mix ← mixBlock media regions blockStart (min size (stop - blockStart))
      return mix.foldl (writeFrame bits random) acc)
    (⟨1, 0, 0⟩, [])

/-! ## The mix frame by frame -/

noncomputable def RenderRegion.addedAt (r : RenderRegion) (src : DecodedSource) (frame : ℤ) : ℝ × ℝ :=
  let position := r.sourceStartFrame + (frame - r.renderStartFrame)
  let envelope := fadeEnvelope r (frame - r.renderStartFrame)
  let automated := automationValue r.automation frame 1
  (resampleAt src.wholeChannels.1 src.rate 0 position * r.gains.1 * envelope * automated,
    resampleAt src.wholeChannels.2 src.rate 0 position * r.gains.2 * envelope * automated)

variable {media : ClipSource → Except Error DecodedSource} {r : RenderRegion} {blockStart n : ℤ}

variable {start stop : ℤ}

lemma getElem?_intRange {k : ℕ} :
    (Int.range start stop)[k]? = if start + k < stop then some (start + k) else none := by
  rw [Int.range, List.getElem?_map]
  by_cases hk : start + k < stop
  · rw [List.getElem?_range (by omega), if_pos hk]
    rfl
  · rw [List.getElem?_eq_none (by rw [List.length_range]; omega), if_neg hk]
    rfl

lemma length_intRange : (Int.range start stop).length = (stop - start).toNat := by
  rw [Int.range, List.length_map, List.length_range]

lemma getD_resample {data : List ℚ} {rate k : ℕ} {count start origin : ℤ} (hk : k < count) :
    (resample data rate count start origin).getD k 0 = resampleAt data rate origin (start + k) := by
  rw [List.getD_eq_getElem?_getD, resample, List.getElem?_map, getElem?_intRange, zero_add,
    if_pos hk]
  rfl

lemma getElem?_part {begin amount : ℤ} {k : ℕ} : (r.part src begin amount)[k]? =
      if k < amount then some (r.addedAt src (begin + k)) else none := by
  unfold RenderRegion.part
  rw [PreparedAutomation.block_eq]
  rw [List.getElem?_mapIdx, List.getElem?_map, getElem?_intRange]
  by_cases hk : (k : ℤ) < amount
  · have hposition : r.sourceStartFrame + (begin - r.renderStartFrame) + k =
        r.sourceStartFrame + (begin + k - r.renderStartFrame) := by omega
    have hrelative : begin - r.renderStartFrame + k = begin + k - r.renderStartFrame := by omega
    rw [if_pos hk, if_pos (by omega), Option.map_some, Option.map_some, sourceSlice_eq,
      getD_resample hk, getD_resample hk, hposition, hrelative]
    rfl
  · rw [if_neg hk, if_neg (by omega)]
    rfl

/-- The region is heard at the frame, from a file. -/
def RenderRegion.Plays (r : RenderRegion) (frame : ℤ) : Prop :=
  r.Covers frame ∧ r.source.type = .audioFile

instance (r : RenderRegion) (frame : ℤ) : Decidable (r.Plays frame) :=
  inferInstanceAs (Decidable (_ ∧ _))

noncomputable def addRegionAt (media : ClipSource → Except Error DecodedSource) (frame : ℤ) (x : ℝ × ℝ)
    (r : RenderRegion) : Option (ℝ × ℝ) :=
  if r.Plays frame then (media r.source).toOption.map fun src => x + r.addedAt src frame else some x

/-- The mix at a frame, if all files that are heard there can be read. -/
noncomputable def mixAt (media : ClipSource → Except Error DecodedSource) (regions : List RenderRegion)
    (frame : ℤ) : Option (ℝ × ℝ) :=
  regions.foldlM (addRegionAt media frame) 0

abbrev timelineBlock (blockStart n : ℤ) : List ℤ := Int.range blockStart (blockStart + n)

lemma addAt_part {g : ℤ → ℝ × ℝ} : addAt (max blockStart r.renderStartFrame - blockStart).toNat
        (r.part src (max blockStart r.renderStartFrame)
          (min (blockStart + n) (r.renderStartFrame + r.renderFrames) -
            max blockStart r.renderStartFrame)) ((timelineBlock blockStart n).map g) =
      (timelineBlock blockStart n).map fun frame =>
        if r.Covers frame then g frame + r.addedAt src frame else g frame := by
  refine List.ext_getElem? fun k => ?_
  rw [addAt, List.getElem?_mapIdx, List.getElem?_map, List.getElem?_map, getElem?_intRange]
  by_cases hk : blockStart + k < blockStart + n
  · rw [if_pos hk, Option.map_some, Option.map_some, Option.map_some, getElem?_part]
    congr 1
    by_cases hfrom : (max blockStart r.renderStartFrame - blockStart).toNat ≤ k
    · rw [if_pos hfrom]
      have hframe : max blockStart r.renderStartFrame +
          ((k - (max blockStart r.renderStartFrame - blockStart).toNat : ℕ) : ℤ) =
            blockStart + k := by omega
      by_cases hto : blockStart + k < r.renderStartFrame + r.renderFrames
      · have hcovers : r.Covers (blockStart + k) := ⟨by omega, hto⟩
        rw [if_pos (by omega), if_pos hcovers, hframe, Option.getD_some]
      · have hcovers : ¬ r.Covers (blockStart + k) := fun h => hto h.2
        rw [if_neg (by omega), if_neg hcovers, Option.getD_none, add_zero]
    · have hcovers : ¬ r.Covers (blockStart + k) := fun h => hfrom (by have := h.1; omega)
      rw [if_neg hfrom, if_neg hcovers]
  · rw [if_neg hk]
    rfl

lemma not_covers_of_apart (h : min (blockStart + n) (r.renderStartFrame + r.renderFrames) ≤
      max blockStart r.renderStartFrame) {frame : ℤ} (hframe : frame ∈ timelineBlock blockStart n) :
    ¬ r.Covers frame := by
  obtain ⟨hfrom, hto⟩ := Int.mem_range_iff.mp hframe
  rintro ⟨hstart, hend⟩
  omega

variable {α β : Type} {items : List α}

lemma mapM_option_bind {f : α → Option β} {h : α → β} {k : α → β → Option β}
    (hf : ∀ a ∈ items, f a = some (h a)) :
    (items.mapM fun a => f a >>= k a) = items.mapM fun a => k a (h a) := by
  induction items with
  | nil => rfl
  | cons a items ih =>
    obtain ⟨ha, hitems⟩ := List.forall_mem_cons.mp hf
    rw [List.mapM_cons, List.mapM_cons, ih hitems, ha]
    rfl

lemma mapM_option_none {f : α → Option β} {a : α} (ha : a ∈ items)
    (hf : f a = none) : items.mapM f = none := by
  induction items with
  | nil => exact absurd ha List.not_mem_nil
  | cons b items ih =>
    rw [List.mapM_cons]
    rcases List.mem_cons.mp ha with rfl | hmem
    · rw [hf]
      rfl
    · rw [ih hmem]
      cases f b <;> rfl

lemma mapM_option_some {g : α → β} : (items.mapM fun a => some (g a)) = some (items.map g) := by
  induction items with
  | nil => rfl
  | cons a items ih =>
    rw [List.mapM_cons, ih]
    rfl

/-- **The mix of a block is the mix of its frames.** -/
lemma mixRegions_eq (regions : List RenderRegion) (g : ℤ → ℝ × ℝ) :
    (regions.foldlM (addRegion media blockStart n) ((timelineBlock blockStart n).map g)).toOption =
      (timelineBlock blockStart n).mapM fun frame =>
        regions.foldlM (addRegionAt media frame) (g frame) := by
  induction regions generalizing g with
  | nil => exact mapM_option_some.symm
  | cons r regions ih =>
    simp only [List.foldlM_cons]
    by_cases hskip : min (blockStart + n) (r.renderStartFrame + r.renderFrames) ≤
        max blockStart r.renderStartFrame ∨ r.source.type ≠ .audioFile
    · -- The region is not heard in the block, so at none of its frames.
      have hsilent : ∀ frame ∈ timelineBlock blockStart n,
          addRegionAt media frame (g frame) r = some (g frame) := by
        intro frame hframe
        refine if_neg fun hplays => ?_
        exact hskip.elim (fun h => not_covers_of_apart h hframe hplays.1) fun h => h hplays.2
      rw [mapM_option_bind hsilent, ← ih]
      unfold addRegion
      rw [if_pos hskip]
      rfl
    · obtain ⟨hbegin, htype⟩ := not_or.mp hskip
      rw [not_le] at hbegin
      rw [not_not] at htype
      unfold addRegion
      rw [if_neg hskip]
      cases hmedia : media r.source with
      | error e =>
        -- The first frame that is heard of the region cannot be had either.
        have hcovers : r.Covers (max blockStart r.renderStartFrame) := ⟨by omega, by omega⟩
        have hmem : max blockStart r.renderStartFrame ∈ timelineBlock blockStart n :=
          Int.mem_range_iff.mpr ⟨by omega, by omega⟩
        refine (mapM_option_none hmem ?_).symm
        rw [addRegionAt, if_pos ⟨hcovers, htype⟩, hmedia]
        rfl
      | ok src =>
        have hadded : ∀ frame ∈ timelineBlock blockStart n, addRegionAt media frame (g frame) r =
            some (if r.Covers frame then g frame + r.addedAt src frame else g frame) := by
          intro frame _
          unfold addRegionAt
          by_cases hcovers : r.Covers frame
          · rw [if_pos ⟨hcovers, htype⟩, if_pos hcovers, hmedia]
            rfl
          · rw [if_neg fun h => hcovers h.1, if_neg hcovers]
        rw [mapM_option_bind hadded, ← ih, ← addAt_part]
        rfl

lemma mixBlock_eq (regions : List RenderRegion) : (mixBlock media regions blockStart n).toOption =
      (timelineBlock blockStart n).mapM (mixAt media regions) := by
  have hzero : List.replicate n.toNat (0 : ℝ × ℝ) = (timelineBlock blockStart n).map fun _ => 0 := by
    rw [List.map_const', length_intRange, add_sub_cancel_left]
  rw [mixBlock, hzero, mixRegions_eq]
  rfl

/-! ## All blocks -/

lemma timelineBlock_cons {size : ℕ} (h : start < stop) :
    timelineBlock start (min size (stop - start)) ++ Int.range (start + size) stop =
      Int.range start stop := by
  refine List.ext_getElem? fun k => ?_
  have hlength : (timelineBlock start (min size (stop - start))).length =
      (min (size : ℤ) (stop - start)).toNat := by
    rw [length_intRange, add_sub_cancel_left]
  rw [List.getElem?_append, hlength, getElem?_intRange, getElem?_intRange, getElem?_intRange]
  by_cases hk : k < (min (size : ℤ) (stop - start)).toNat
  · rw [if_pos hk, if_pos (by omega), if_pos (by omega)]
  · rw [if_neg hk]
    by_cases hstop : start + k < stop
    · rw [if_pos (by omega), if_pos hstop]
      congr 1
      omega
    · rw [if_neg (by omega), if_neg hstop]

lemma renderBlocks_fold (bits : ℕ) (random : ℕ → ℝ) (regions : List RenderRegion) {size : ℕ}
    (hsize : 0 < size) (start stop : ℤ) (acc : RenderState × List ℤ) :
    ((blockStarts size start stop).foldlM (fun acc blockStart => do
          let mix ← mixBlock media regions blockStart (min size (stop - blockStart))
          return mix.foldl (writeFrame bits random) acc) acc).toOption =
      ((Int.range start stop).mapM (mixAt media regions)).map
        (List.foldl (writeFrame bits random) acc) := by
  induction start using blockStarts.induct size stop generalizing acc with
  | case1 start h ih =>
    rw [blockStarts, dif_pos h, List.foldlM_cons, ← timelineBlock_cons h.1, List.mapM_append,
      ← mixBlock_eq]
    cases hmix : mixBlock media regions start (min size (stop - start)) with
    | error e => rfl
    | ok mix =>
      refine (ih (mix.foldl (writeFrame bits random) acc)).trans ?_
      cases (Int.range (start + size) stop).mapM (mixAt media regions) with
      | none => rfl
      | some frames => exact congrArg some List.foldl_append.symm
  | case2 start h =>
    have hempty : Int.range start stop = [] := by
      refine List.eq_nil_iff_length_eq_zero.mpr ?_
      rw [length_intRange]
      omega
    rw [blockStarts, dif_neg h, hempty]
    rfl

/-- **Reading by windows loses nothing**: a window of a source gives what the whole of it does, and
rendering in blocks of any size gives what the frames of the timeline give, one after the other. -/
theorem windowed_reads_exact (src : DecodedSource) (first count : ℤ)
    (media : ClipSource → Except Error DecodedSource) (bits : ℕ) (random : ℕ → ℝ)
    (regions : List RenderRegion) {size : ℕ} (hsize : 0 < size) (start stop : ℤ) :
    sourceSlice src first count = (resample src.wholeChannels.1 src.rate count first 0,
          resample src.wholeChannels.2 src.rate count first 0) ∧
      (renderBlocks media bits random regions size start stop).toOption =
        ((Int.range start stop).mapM (mixAt media regions)).map
          (List.foldl (writeFrame bits random) (⟨1, 0, 0⟩, [])) :=
  ⟨sourceSlice_eq src first count, renderBlocks_fold bits random regions hsize start stop _⟩

/-- Two frames of a mono file at half the rate. -/
def halfRateSource : DecodedSource where
  channels := 1
  rate := 24000
  frames := 2
  samples := [1 / 2, 1]
  channels_pos := by decide
  whole := by decide

theorem windowed_reads_exact_half_rate : sourceSlice halfRateSource 1 2 =
        (resample halfRateSource.wholeChannels.1 24000 2 1 0,
          resample halfRateSource.wholeChannels.2 24000 2 1 0) ∧
      (renderBlocks (fun _ => .ok halfRateSource) 24 (fun _ => 0) [] 1024 0 2000).toOption =
        ((Int.range 0 2000).mapM (mixAt (fun _ => .ok halfRateSource) [])).map
          (List.foldl (writeFrame 24 fun _ => 0) (⟨1, 0, 0⟩, [])) :=
  windowed_reads_exact halfRateSource 1 2 (fun _ => .ok halfRateSource) 24 (fun _ => 0) []
    (by decide) 0 2000

end StageForge
