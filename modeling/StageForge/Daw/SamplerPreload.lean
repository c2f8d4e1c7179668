import StageForge.Daw.RenderPlan

/-!
# Preloaded samples

Short clips are loaded into the voice engine with their fades already applied. The preload computes the
fades by itself, and the renderers do it by `fade_envelope`.
-/

namespace StageForge

open Python

/-! ## `SamplerPreloadRegistry.preload` -/

def maxNativeSamplerFrames : Int := 65536

/-- `_clip`; the clip of that name, with its track. -/
def preloadClip (s : DawSession) (clipId : String) : Except Error (DawTrack × DawClip) :=
  match (s.tracks.flatMap fun t => t.clips.map fun c => (t, c)).find? fun tc =>
      tc.2.clipId = clipId with
  | none => .error (.valueError "mapped DAW clip no longer exists")
  | some (t, c) =>
    if c.source.type = .audioFile then .ok (t, c)
    else .error (.valueError "native sampler preload requires an audio-file clip")

def preloadedClip (C : Conversions) (session : Value) (clipId : String) :
    Except Error (DawTrack × DawClip) := do
  let s ← normalizeSession C session
  let (t, c) ← preloadClip s (strip clipId)
  if c.lengthFrames < 1 ∨ maxNativeSamplerFrames < c.lengthFrames then
    .error (.valueError "native sampler clips must contain 1..65536 canonical frames")
  else
    return (t, c)

/-- The envelope that a frame of the clip is given. -/
def preloadEnvelope (f : ClipFades) (frames index : Int) : ℚ :=
  let envelope : ℚ := if f.inFrames ≠ 0 then min 1 ((index + 1 : ℤ) / f.inFrames) else 1
  if f.outFrames ≠ 0 then min envelope ((frames - index : ℤ) / f.outFrames) else envelope

/-! ## Ramps -/

/-- A fade of so many frames, at a frame of it. -/
def ramp (frames position : Int) : ℚ := if frames ≠ 0 then min 1 (position / frames) else 1

section

variable {frames position position' : Int}

lemma ramp_le_one : ramp frames position ≤ 1 := by
  unfold ramp
  split
  · exact min_le_left _ _
  · exact le_rfl

lemma ramp_of_le (hframes : 0 ≤ frames) (h : frames ≤ position) : ramp frames position = 1 := by
  unfold ramp
  split_ifs with hzero
  · have hpos : (0 : ℚ) < frames := by exact_mod_cast lt_of_le_of_ne hframes (Ne.symm hzero)
    rw [min_eq_left ((one_le_div hpos).mpr (by exact_mod_cast h))]
  · rfl

lemma ramp_of_lt (hposition : 0 ≤ position) (h : position < frames) :
    ramp frames position = position / frames := by
  have hpos : (0 : ℚ) < frames := by exact_mod_cast hposition.trans_lt h
  have hlt : (position : ℚ) / frames ≤ 1 := (div_le_one hpos).mpr (by exact_mod_cast h.le)
  rw [ramp, if_pos (by omega), min_eq_right hlt]

lemma ramp_pos (hframes : 0 ≤ frames) (hposition : 0 < position) : 0 < ramp frames position := by
  rcases le_or_gt frames position with hle | hlt
  · rw [ramp_of_le hframes hle]
    exact one_pos
  · rw [ramp_of_lt hposition.le hlt]
    exact div_pos (by exact_mod_cast hposition) (by exact_mod_cast hposition.trans hlt)

lemma ramp_lt_one (hposition : 0 ≤ position) (h : position < frames) : ramp frames position < 1 := by
  rw [ramp_of_lt hposition h]
  exact (div_lt_one (by exact_mod_cast hposition.trans_lt h)).mpr (by exact_mod_cast h)

lemma ramp_lt_ramp (hposition : 0 ≤ position) (h : position < frames) (hlt : position < position') :
    ramp frames position < ramp frames position' := by
  rcases le_or_gt frames position' with hle | hinside
  · rw [ramp_of_le (hposition.trans h.le) hle]
    exact ramp_lt_one hposition h
  · rw [ramp_of_lt hposition h, ramp_of_lt (hposition.trans hlt.le) hinside]
    exact div_lt_div_of_pos_right (by exact_mod_cast hlt) (by exact_mod_cast hposition.trans_lt h)

lemma ramp_le_ramp (hframes : 0 ≤ frames) (hposition : 0 ≤ position) (hle : position ≤ position') :
    ramp frames position ≤ ramp frames position' := by
  rcases le_or_gt frames position with hfull | hlt
  · rw [ramp_of_le hframes hfull, ramp_of_le hframes (hfull.trans hle)]
  · rcases hle.eq_or_lt with rfl | hlt'
    · exact le_rfl
    · exact (ramp_lt_ramp hposition hlt hlt').le

end

lemma min_ramp {level : ℚ} (hlevel : level ≤ 1) (frames position : Int) :
    (if frames ≠ 0 then min level ((position : ℚ) / frames) else level) =
      min level (ramp frames position) := by
  unfold ramp
  split_ifs
  · rw [← min_assoc, min_eq_left hlevel]
  · rw [min_eq_left hlevel]

/-! ## The lower of two ramps -/

section

variable {f : ClipFades} {length index : Int}

lemma preloadEnvelope_eq (f : ClipFades) (length index : Int) : preloadEnvelope f length index =
      min (ramp f.inFrames (index + 1)) (ramp f.outFrames (length - index)) :=
  min_ramp ramp_le_one f.outFrames (length - index)

lemma ClipFades.level_eq (h : f.Sound length) (hindex : 0 ≤ index) (hframe : index < length) :
    f.level length index = min (ramp f.inFrames (f.offset + index + 1))
      (ramp f.outFrames (f.span length - (f.offset + index))) := by
  obtain ⟨hin, hout, hoffset, hinside⟩ := h
  have hlower : f.level length index = max 0 (min 1 (min (ramp f.inFrames (f.offset + index + 1))
      (ramp f.outFrames (f.span length - (f.offset + index))))) := by
    rw [← min_ramp ramp_le_one]
    rfl
  have hpos : 0 < min (ramp f.inFrames (f.offset + index + 1))
      (ramp f.outFrames (f.span length - (f.offset + index))) :=
    lt_min (ramp_pos hin (by omega)) (ramp_pos hout (by omega))
  rw [hlower, min_eq_right ((min_le_left _ _).trans ramp_le_one), max_eq_right hpos.le]

lemma ClipFades.level_le_one (h : f.Sound length) (hindex : 0 ≤ index) (hframe : index < length) :
    f.level length index ≤ 1 := by
  rw [f.level_eq h hindex hframe]
  exact (min_le_left _ _).trans ramp_le_one

lemma level_lt_shape {level : ℚ} (hpos : 0 < level) (hle : level ≤ 1) :
    (level : ℝ) < FadeCurve.equalPower.shape level ∨ level = 1 := by
  rcases hle.lt_or_eq with hlt | heq
  · have hsin := Real.lt_sin_mul (x := level) (by exact_mod_cast hpos) (by exact_mod_cast hlt)
    rw [div_mul_eq_mul_div, mul_comm] at hsin
    exact Or.inl hsin
  · exact Or.inr heq

lemma ramps_le (h : f.Sound length) (hindex : 0 ≤ index) (hframe : index < length) :
    ramp f.inFrames (index + 1) ≤ ramp f.inFrames (f.offset + index + 1) ∧
      ramp f.outFrames (length - index) ≤ ramp f.outFrames (f.span length - (f.offset + index)) := by
  obtain ⟨hin, hout, hoffset, hinside⟩ := h
  exact ⟨ramp_le_ramp hin (by omega) (by omega), ramp_le_ramp hout (by omega) (by omega)⟩

lemma preloadEnvelope_pos (h : f.Sound length) (hindex : 0 ≤ index) (hframe : index < length) :
    0 < preloadEnvelope f length index := by
  rw [preloadEnvelope_eq]
  exact lt_min (ramp_pos h.in_nonneg (by omega)) (ramp_pos h.out_nonneg (by omega))

lemma preloadEnvelope_le_level (h : f.Sound length) (hindex : 0 ≤ index) (hframe : index < length) :
    preloadEnvelope f length index ≤ f.level length index := by
  rw [preloadEnvelope_eq, f.level_eq h hindex hframe]
  exact min_le_min (ramps_le h hindex hframe).1 (ramps_le h hindex hframe).2

lemma preloadEnvelope_eq_one (h : f.Sound length) (hindex : 0 ≤ index) (hframe : index < length)
    (hin : f.inFrames ≤ 1) (hout : f.outFrames ≤ 1) : preloadEnvelope f length index = 1 := by
  rw [preloadEnvelope_eq, ramp_of_le h.in_nonneg (by omega), ramp_of_le h.out_nonneg (by omega),
    min_self]

lemma exists_preloadEnvelope_lt_one (hlength : 1 ≤ length)
    (hfades : 1 < f.inFrames ∨ 1 < f.outFrames) :
    ∃ index, 0 ≤ index ∧ index < length ∧ preloadEnvelope f length index < 1 := by
  rcases hfades with hin | hout
  · refine ⟨0, le_rfl, by omega, ?_⟩
    rw [preloadEnvelope_eq]
    exact (min_le_left _ _).trans_lt (ramp_lt_one (by omega) (by omega))
  · refine ⟨length - 1, by omega, by omega, ?_⟩
    rw [preloadEnvelope_eq]
    exact (min_le_right _ _).trans_lt (ramp_lt_one (by omega) (by omega))

end

lemma min_eq_min_iff {a b a' b' : ℚ} (ha : a ≤ a') (hb : b ≤ b') :
    min a b = min a' b' ↔ (a = a' ∨ b = b' ∧ b ≤ a) ∧ (b = b' ∨ a = a' ∧ a ≤ b) := by
  constructor
  · intro heq
    rcases ha.eq_or_lt with rfl | ha
    · rcases hb.eq_or_lt with rfl | hb
      · exact ⟨Or.inl rfl, Or.inl rfl⟩
      · refine ⟨Or.inl rfl, Or.inr ⟨rfl, not_lt.mp fun hlt => ?_⟩⟩
        rw [min_eq_right hlt.le] at heq
        exact (lt_min hlt hb).ne heq
    · rcases hb.eq_or_lt with rfl | hb
      · refine ⟨Or.inr ⟨rfl, not_lt.mp fun hlt => ?_⟩, Or.inl rfl⟩
        rw [min_eq_left hlt.le] at heq
        exact (lt_min ha hlt).ne heq
      · exact absurd heq (min_lt_min ha hb).ne
  · rintro ⟨rfl | ⟨rfl, hle⟩, hsecond⟩
    · rcases hsecond with rfl | ⟨-, hle⟩
      · rfl
      · rw [min_eq_left hle, min_eq_left (hle.trans hb)]
    · rw [min_eq_right hle, min_eq_right (hle.trans ha)]

/-! ## Ends of linear fades -/

section

variable {fade other before after length : Int}

/-- If the levels agree at the end that the fade belongs to, nothing of it is cut off, or it is none, or
the other fade, which is whole, lies below it. -/
lemma end_of_agree (hother : 0 ≤ other) (hbefore : 0 ≤ before) (hafter : 0 ≤ after)
    (hlength : 1 ≤ length)
    (h : ramp fade 1 = ramp fade (before + 1) ∨
      ramp other length = ramp other (after + length) ∧ ramp other length ≤ ramp fade 1) :
    before = 0 ∨ fade ≤ 1 ∨ after = 0 ∧ fade * length ≤ other := by
  by_contra hcut
  obtain ⟨hbefore', hfade, hcut⟩ : before ≠ 0 ∧ 1 < fade ∧ ¬ (after = 0 ∧ fade * length ≤ other) :=
    ⟨fun h => hcut (Or.inl h), not_le.mp fun h => hcut (Or.inr (Or.inl h)),
      fun h => hcut (Or.inr (Or.inr h))⟩
  rcases h with hsame | ⟨hsame, hle⟩
  · exact (ramp_lt_ramp zero_le_one hfade (by omega)).ne hsame
  · have hlt := hle.trans_lt (ramp_lt_one zero_le_one hfade)
    have hother : length < other := by
      by_contra hshort
      exact hlt.ne (ramp_of_le hother (not_lt.mp hshort))
    have hafter' : after = 0 := by
      by_contra hne
      exact (ramp_lt_ramp (by omega) hother (by omega)).ne hsame
    refine hcut ⟨hafter', ?_⟩
    rw [ramp_of_lt (by omega) hother, ramp_of_lt zero_le_one hfade,
      div_le_div_iff₀ (by exact_mod_cast (by omega : 0 < other))
        (by exact_mod_cast (by omega : 0 < fade))] at hle
    have hle' : length * fade ≤ 1 * other := by exact_mod_cast hle
    rwa [one_mul, mul_comm] at hle'

lemma agree_of_end (hfade : 0 ≤ fade) (hother : 0 ≤ other)
    (h : before = 0 ∨ fade ≤ 1 ∨ after = 0 ∧ fade * length ≤ other) (hbefore : 0 ≤ before)
    {first second : Int} (hfirst : 1 ≤ first) (hsecond : 1 ≤ second) (hle : second ≤ length) :
    ramp fade first = ramp fade (before + first) ∨
      ramp other second = ramp other (after + second) ∧ ramp other second ≤ ramp fade first := by
  rcases h with rfl | hshort | ⟨rfl, hcap⟩
  · exact Or.inl (by rw [zero_add])
  · exact Or.inl (by rw [ramp_of_le hfade (by omega), ramp_of_le hfade (by omega)])
  · refine Or.inr ⟨by rw [zero_add], ?_⟩
    rcases le_or_gt fade first with hfull | hlt
    · rw [ramp_of_le hfade hfull]
      exact ramp_le_one
    · have hproduct : second * fade ≤ first * other := by
        nlinarith
      have hinside : second < other := by
        nlinarith
      rw [ramp_of_lt (by omega) hinside, ramp_of_lt (by omega) hlt, div_le_div_iff₀
        (by exact_mod_cast (by omega : 0 < other)) (by exact_mod_cast (by omega : 0 < fade))]
      exact_mod_cast hproduct

end

/-! ## Where the two agree -/

section

variable {f : ClipFades} {length : Int}

lemma equalPower_agree_iff (h : f.Sound length) (hlength : 1 ≤ length) :
    (∀ index, 0 ≤ index → index < length →
        (preloadEnvelope f length index : ℝ) = FadeCurve.equalPower.shape (f.level length index)) ↔
      f.inFrames ≤ 1 ∧ f.outFrames ≤ 1 := by
  constructor
  · intro hagree
    by_contra hfades
    obtain ⟨index, hindex, hframe, hlt⟩ := exists_preloadEnvelope_lt_one hlength (f := f) (by omega)
    have hlevel := preloadEnvelope_le_level h hindex hframe
    have hpos := (preloadEnvelope_pos h hindex hframe).trans_le hlevel
    have hcurve := level_lt_shape hpos (f.level_le_one h hindex hframe)
    have hle : (preloadEnvelope f length index : ℝ) ≤ f.level length index := by exact_mod_cast hlevel
    rcases hcurve with hcurve | hfull
    · exact absurd (hagree index hindex hframe) (hle.trans_lt hcurve).ne
    · have heq := hagree index hindex hframe
      rw [hfull, FadeCurve.shape, Rat.cast_one, one_mul, Real.sin_pi_div_two] at heq
      exact hlt.ne (by exact_mod_cast heq)
  · rintro ⟨hin, hout⟩ index hindex hframe
    have hone := preloadEnvelope_eq_one h hindex hframe hin hout
    have hlevel : f.level length index = 1 := le_antisymm (f.level_le_one h hindex hframe)
      (hone ▸ preloadEnvelope_le_level h hindex hframe)
    rw [hone, hlevel, FadeCurve.shape, Rat.cast_one, one_mul, Real.sin_pi_div_two]

/-- How many frames of the span lie behind the clip. -/
def ClipFades.behind (f : ClipFades) (length : Int) : Int := f.span length - (f.offset + length)

lemma linear_agree_at (h : f.Sound length) {index : Int} (hindex : 0 ≤ index)
    (hframe : index < length) :
    (preloadEnvelope f length index : ℝ) = FadeCurve.linear.shape (f.level length index) ↔
      (ramp f.inFrames (index + 1) = ramp f.inFrames (f.offset + (index + 1)) ∨
        ramp f.outFrames (length - index) = ramp f.outFrames (f.behind length + (length - index)) ∧
          ramp f.outFrames (length - index) ≤ ramp f.inFrames (index + 1)) ∧
      (ramp f.outFrames (length - index) = ramp f.outFrames (f.behind length + (length - index)) ∨
        ramp f.inFrames (index + 1) = ramp f.inFrames (f.offset + (index + 1)) ∧
          ramp f.inFrames (index + 1) ≤ ramp f.outFrames (length - index)) := by
  have hfirst : f.offset + index + 1 = f.offset + (index + 1) := by omega
  have hlast : f.span length - (f.offset + index) = f.behind length + (length - index) := by
    rw [ClipFades.behind]
    omega
  obtain ⟨hin, hout⟩ := ramps_le h hindex hframe
  rw [FadeCurve.shape, Rat.cast_inj, preloadEnvelope_eq, f.level_eq h hindex hframe,
    min_eq_min_iff hin hout, hfirst, hlast]

lemma linear_agree_iff (h : f.Sound length) (hlength : 1 ≤ length) :
    (∀ index, 0 ≤ index → index < length →
        (preloadEnvelope f length index : ℝ) = FadeCurve.linear.shape (f.level length index)) ↔
      (f.offset = 0 ∨ f.inFrames ≤ 1 ∨ f.behind length = 0 ∧ f.inFrames * length ≤ f.outFrames) ∧
      (f.behind length = 0 ∨ f.outFrames ≤ 1 ∨
        f.offset = 0 ∧ f.outFrames * length ≤ f.inFrames) := by
  have hbehind : 0 ≤ f.behind length := by
    have hinside := h.inside
    rw [ClipFades.behind]
    omega
  constructor
  · intro hagree
    obtain ⟨hfirst, -⟩ := (linear_agree_at h le_rfl (by omega)).mp (hagree 0 le_rfl (by omega))
    obtain ⟨-, hlast⟩ := (linear_agree_at h (by omega) (by omega)).mp
      (hagree (length - 1) (by omega) (by omega))
    rw [zero_add, sub_zero] at hfirst
    rw [sub_sub_cancel, sub_add_cancel] at hlast
    exact ⟨end_of_agree h.out_nonneg h.offset_nonneg hbehind hlength hfirst,
      end_of_agree h.in_nonneg hbehind h.offset_nonneg hlength hlast⟩
  · rintro ⟨hfirst, hlast⟩ index hindex hframe
    refine (linear_agree_at h hindex hframe).mpr ⟨?_, ?_⟩
    · exact agree_of_end h.in_nonneg h.out_nonneg hfirst h.offset_nonneg (by omega) (by omega)
        (by omega)
    · exact agree_of_end h.out_nonneg h.in_nonneg hlast hbehind (by omega) (by omega) (by omega)

/-- The fades of a clip that sounds the same when it is preloaded: there are none to speak of, or they
are linear, and what the clip leaves of its span is not part of a fade that could be heard. -/
def ClipFades.PlaysAlike (f : ClipFades) (length : Int) : Prop := match f.curve with
  | .equalPower => f.inFrames ≤ 1 ∧ f.outFrames ≤ 1
  | .linear =>
    (f.offset = 0 ∨ f.inFrames ≤ 1 ∨ f.behind length = 0 ∧ f.inFrames * length ≤ f.outFrames) ∧
    (f.behind length = 0 ∨ f.outFrames ≤ 1 ∨ f.offset = 0 ∧ f.outFrames * length ≤ f.inFrames)

lemma agree_iff (h : f.Sound length) (hlength : 1 ≤ length) : (∀ index, 0 ≤ index → index < length →
        (preloadEnvelope f length index : ℝ) = f.curve.shape (f.level length index)) ↔
      f.PlaysAlike length := by
  unfold ClipFades.PlaysAlike
  cases f.curve with
  | equalPower => exact equalPower_agree_iff h hlength
  | linear => exact linear_agree_iff h hlength

end

/-! ## Regions of a clip -/

structure RenderRegion.IsOf (r : RenderRegion) (c : DawClip) : Prop where
  fades : r.fades = c.fades
  clipLength : r.clipLengthFrames = c.lengthFrames
  from_start : 0 ≤ r.clipOffsetFrames
  to_end : r.clipOffsetFrames + r.renderFrames ≤ c.lengthFrames

def DawClip.whole (t : DawTrack) (c : DawClip) : RenderRegion where
  trackId := t.trackId
  clipId := c.clipId
  renderStartFrame := c.startFrame
  renderFrames := c.lengthFrames
  sourceStartFrame := c.sourceOffsetFrames
  gain := t.gain
  pan := t.pan
  outputBus := t.outputBus
  sends := t.sends
  automation := t.automation
  fades := c.fades
  source := c.source
  clipOffsetFrames := 0
  clipLengthFrames := c.lengthFrames

lemma whole_isOf (t : DawTrack) (c : DawClip) : (c.whole t).IsOf c :=
  ⟨rfl, rfl, le_rfl, (zero_add _).le⟩

lemma fadeEnvelope_whole (t : DawTrack) (c : DawClip) (frame : Int) :
    fadeEnvelope (c.whole t) frame = c.fades.curve.shape (c.fades.level c.lengthFrames frame) := by
  rw [fadeEnvelope, DawClip.whole, zero_add]

/-- A preload gives the frames of a region the envelope of the renderers. -/
def PreloadAgrees (c : DawClip) (r : RenderRegion) : Prop :=
  ∀ frame, 0 ≤ frame → frame < r.renderFrames →
    (preloadEnvelope c.fades c.lengthFrames (r.clipOffsetFrames + frame) : ℝ) = fadeEnvelope r frame

lemma preloadedClip_sound {C : Conversions} {session : Value} {clipId : String} {t : DawTrack}
    {c : DawClip} (h : preloadedClip C session clipId = .ok (t, c)) : c.Sound := by
  obtain ⟨s, hs, h⟩ := bind_eq_ok.mp h
  obtain ⟨⟨t', c'⟩, hclip, h⟩ := bind_eq_ok.mp h
  dsimp only at h
  split_ifs at h
  obtain ⟨rfl, rfl⟩ := Prod.mk.inj (Except.ok.inj h)
  unfold preloadClip at hclip
  split at hclip
  · cases hclip
  · rename_i t c hfind
    split_ifs at hclip
    obtain ⟨rfl, rfl⟩ := Prod.mk.inj (Except.ok.inj hclip)
    obtain ⟨u, hu, hmem⟩ := List.mem_flatMap.mp (List.mem_of_find?_eq_some hfind)
    obtain ⟨d, hd, heq⟩ := List.mem_map.mp hmem
    obtain ⟨rfl, rfl⟩ := Prod.mk.inj heq
    exact ((normalizeSession_sound hs).tracks u hu).clips d hd

/-- **A clip that is preloaded has the envelope of the renderers, in every region of it, exactly if its
fades play alike.** -/
theorem preload_agrees_iff {C : Conversions} {session : Value} {clipId : String} {t : DawTrack}
    {c : DawClip} (h : preloadedClip C session clipId = .ok (t, c)) :
    (∀ r : RenderRegion, r.IsOf c → PreloadAgrees c r) ↔ c.fades.PlaysAlike c.lengthFrames := by
  have hsound := preloadedClip_sound h
  rw [← agree_iff hsound.fades hsound.length_pos]
  constructor
  · intro hagree index hindex hframe
    have hframe := hagree (c.whole t) (whole_isOf t c) index hindex hframe
    rwa [fadeEnvelope_whole, DawClip.whole, zero_add] at hframe
  · intro hagree r hr frame hfrom hto
    have hstart := hr.from_start
    have hend := hr.to_end
    rw [fadeEnvelope, hr.fades, hr.clipLength]
    exact hagree _ (by omega) (by omega)

def fadedClipSession : Value :=
  .dict [("tracks", .list [.dict [("trackId", .str "audio"), ("clips", .list [.dict
    [("clipId", .str "clip-a"), ("lengthFrames", .int 2000),
      ("source", .dict [("type", .str "audio-file")]),
      ("fades", .dict [("inFrames", .int 16), ("outFrames", .int 16)])]])]])]

lemma fadedClipSession_clip : ∃ t c,
    preloadedClip plainConversions fadedClipSession "clip-a" = .ok (t, c) ∧
      c.fades = ⟨16, 16, .equalPower, none⟩ ∧ c.lengthFrames = 2000 := by
  have hloaded : (preloadedClip plainConversions fadedClipSession "clip-a").map
      (fun loaded => (loaded.2.fades, loaded.2.lengthFrames)) =
        .ok (⟨16, 16, .equalPower, none⟩, 2000) := by
    decide +kernel
  obtain ⟨⟨t, c⟩, hclip, heq⟩ := map_eq_ok.mp hloaded
  exact ⟨t, c, hclip, congrArg Prod.fst heq, congrArg Prod.snd heq⟩

theorem preload_agrees_iff_faded : ∃ t c,
    preloadedClip plainConversions fadedClipSession "clip-a" = .ok (t, c) ∧
      ((∀ r : RenderRegion, r.IsOf c → PreloadAgrees c r) ↔ c.fades.PlaysAlike c.lengthFrames) := by
  obtain ⟨t, c, hclip, -⟩ := fadedClipSession_clip
  exact ⟨t, c, hclip, preload_agrees_iff hclip⟩

theorem faded_clip_differs : ∃ t c,
    preloadedClip plainConversions fadedClipSession "clip-a" = .ok (t, c) ∧
      ¬ ∀ r : RenderRegion, r.IsOf c → PreloadAgrees c r := by
  obtain ⟨t, c, hclip, hfades, hlength⟩ := fadedClipSession_clip
  refine ⟨t, c, hclip, fun hagree => ?_⟩
  have hwhole : (c.whole t).renderFrames = 2000 := hlength
  have hframe := hagree (c.whole t) (whole_isOf t c) 0 le_rfl (by omega)
  have hpreload : preloadEnvelope ⟨16, 16, .equalPower, none⟩ 2000 0 = 1 / 16 := by decide +kernel
  have hlevel : ClipFades.level ⟨16, 16, .equalPower, none⟩ 2000 0 = 1 / 16 := by decide +kernel
  rw [fadeEnvelope_whole, DawClip.whole, zero_add, hfades, hlength, hpreload, hlevel] at hframe
  rcases @level_lt_shape (1 / 16) (by norm_num) (by norm_num) with hlt | heq
  · exact hlt.ne hframe
  · norm_num at heq

end StageForge
