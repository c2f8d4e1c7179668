import StageForge.Daw.NormalForm

/-!
# What a session sounds like

A render plan lists, for a window of the timeline, the regions of the clips that are heard in it, and
renderers apply to each frame of a region the envelope of its fades.

Levels are exact; the sine of the curve is the real one.
-/

namespace StageForge

open Python

/-! ## `render_plan` and `fade_envelope` -/

/-- The part of a clip that lies in the window. -/
structure RenderRegion where
  trackId : String
  clipId : String
  renderStartFrame : Int
  renderFrames : Int
  sourceStartFrame : Int
  gain : ℚ
  pan : ℚ
  outputBus : String
  sends : List Value
  automation : List AutomationPoint
  fades : ClipFades
  source : ClipSource
  clipOffsetFrames : Int
  clipLengthFrames : Int

structure RenderPlan where
  sessionId : String
  sessionRevision : Int
  startFrame : Int
  endFrame : Int
  regions : List RenderRegion

/-- `(renderStartFrame, trackId, clipId)`. -/
def RenderRegion.key (r : RenderRegion) : ℤ ×ₗ String ×ₗ String :=
  toLex (r.renderStartFrame, toLex (r.trackId, r.clipId))

def DawTrack.audible (solo : Bool) (t : DawTrack) : Bool := !t.muted && (!solo || t.solo)

/-- The region of a clip in the window, if it is heard there. -/
def DawClip.region? (solo : Bool) (t : DawTrack) (start stop : Int) (c : DawClip) :
    Option RenderRegion :=
  let overlapStart := max start c.startFrame
  let overlapEnd := min stop (c.startFrame + c.lengthFrames)
  if t.audible solo && !c.muted && decide (overlapStart < overlapEnd) then
    some
      { trackId := t.trackId
        clipId := c.clipId
        renderStartFrame := overlapStart
        renderFrames := overlapEnd - overlapStart
        sourceStartFrame := c.sourceOffsetFrames + overlapStart - c.startFrame
        gain := t.gain
        pan := t.pan
        outputBus := t.outputBus
        sends := t.sends
        automation := t.automation
        fades := c.fades
        source := c.source
        clipOffsetFrames := overlapStart - c.startFrame
        clipLengthFrames := c.lengthFrames }
  else none

def DawSession.regions (s : DawSession) (start stop : Int) : List RenderRegion :=
  s.tracks.flatMap fun t =>
    t.clips.filterMap (DawClip.region? (s.tracks.any DawTrack.solo) t start stop)

def renderPlan (C : Conversions) (session : Value) (startFrame endFrame : Int) :
    Except Error RenderPlan := do
  let s ← normalizeSession C session
  let start := max 0 startFrame
  if endFrame ≤ start ∨ canonicalRate * 60 * 60 < endFrame - start then
    .error (.valueError "render range must be positive and no longer than one hour")
  else
    return {
      sessionId := s.sessionId
      sessionRevision := s.revision
      startFrame := start
      endFrame
      regions := sortOn RenderRegion.key (s.regions start endFrame) }

/-- The level of the fades at a frame that lies so far in the clip. -/
def ClipFades.level (f : ClipFades) (length frame : Int) : ℚ := let position := f.offset + frame
  let level : ℚ := if f.inFrames ≠ 0 then min 1 ((position + 1 : ℤ) / f.inFrames) else 1
  let level :=
    if f.outFrames ≠ 0 then min level ((f.span length - position : ℤ) / f.outFrames) else level
  max 0 (min 1 level)

noncomputable def FadeCurve.shape (curve : FadeCurve) (level : ℚ) : ℝ := match curve with
  | .equalPower => Real.sin (level * Real.pi / 2)
  | .linear => level

noncomputable def fadeEnvelope (r : RenderRegion) (relativeFrame : Int) : ℝ :=
  r.fades.curve.shape (r.fades.level r.clipLengthFrames (r.clipOffsetFrames + relativeFrame))

/-! ## What is heard at a frame -/

/-- What is heard at a frame, apart from fades. -/
structure DrySound where
  source : ClipSource
  sourceFrame : Int
  gain : ℚ
  pan : ℚ
  automation : List AutomationPoint

structure FadedSound extends DrySound where
  envelope : ℝ

structure Heard extends FadedSound where
  clipId : String

def RenderRegion.Covers (r : RenderRegion) (frame : Int) : Prop :=
  r.renderStartFrame ≤ frame ∧ frame < r.renderStartFrame + r.renderFrames

instance (r : RenderRegion) (frame : Int) : Decidable (r.Covers frame) :=
  inferInstanceAs (Decidable (_ ∧ _))

/-- What a renderer plays of a region at a frame. -/
noncomputable def RenderRegion.heard (r : RenderRegion) (frame : Int) : Heard where
  clipId := r.clipId
  source := r.source
  sourceFrame := r.sourceStartFrame + (frame - r.renderStartFrame)
  envelope := fadeEnvelope r (frame - r.renderStartFrame)
  gain := r.gain
  pan := r.pan
  automation := r.automation

noncomputable def RenderPlan.heardAt (plan : RenderPlan) (frame : Int) : Multiset Heard :=
  ((plan.regions.filter fun r => r.Covers frame).map fun r => r.heard frame : List Heard)

/-- What the clip itself says is heard at a frame. -/
noncomputable def DawClip.heardAt? (solo : Bool) (t : DawTrack) (frame : Int) (c : DawClip) :
    Option Heard :=
  if t.audible solo && !c.muted &&
      decide (c.startFrame ≤ frame ∧ frame < c.startFrame + c.lengthFrames) then
    some
      { clipId := c.clipId
        source := c.source
        sourceFrame := c.sourceOffsetFrames + (frame - c.startFrame)
        envelope := c.fades.curve.shape (c.fades.level c.lengthFrames (frame - c.startFrame))
        gain := t.gain
        pan := t.pan
        automation := t.automation }
  else none

noncomputable def DawTrack.heardAt (solo : Bool) (frame : Int) (t : DawTrack) : List Heard :=
  t.clips.filterMap (DawClip.heardAt? solo t frame)

noncomputable def DawSession.heardAt (s : DawSession) (frame : Int) : List Heard :=
  s.tracks.flatMap (DawTrack.heardAt (s.tracks.any DawTrack.solo) frame)

/-! ## Every window gives the same -/

variable {C : Conversions} {s : DawSession} {plan : RenderPlan} {start stop frame : Int}

lemma region?_heard {solo : Bool} {t : DawTrack} {c : DawClip} (hstart : start ≤ frame)
    (hstop : frame < stop) :
    ((DawClip.region? solo t start stop c).filter fun r => r.Covers frame).map
        (fun r => r.heard frame) = DawClip.heardAt? solo t frame c := by
  unfold DawClip.region? DawClip.heardAt?
  dsimp only
  by_cases hheard : t.audible solo && !c.muted
  · rw [hheard, Bool.true_and, Bool.true_and]
    by_cases hinside : c.startFrame ≤ frame ∧ frame < c.startFrame + c.lengthFrames
    · have hoverlap : max start c.startFrame < min stop (c.startFrame + c.lengthFrames) := by omega
      rw [if_pos (decide_eq_true hoverlap), if_pos (decide_eq_true hinside)]
      have hsource : c.sourceOffsetFrames + max start c.startFrame - c.startFrame +
          (frame - max start c.startFrame) = c.sourceOffsetFrames + (frame - c.startFrame) := by omega
      have hposition : max start c.startFrame - c.startFrame + (frame - max start c.startFrame) =
          frame - c.startFrame := by omega
      rw [Option.filter_some, if_pos, Option.map_some]
      · simp only [RenderRegion.heard, fadeEnvelope, hsource, hposition]
      · refine decide_eq_true ⟨?_, ?_⟩
        · dsimp only
          omega
        · dsimp only
          omega
    · rw [if_neg (mt of_decide_eq_true hinside)]
      by_cases hoverlap : max start c.startFrame < min stop (c.startFrame + c.lengthFrames)
      · rw [if_pos (decide_eq_true hoverlap), Option.filter_some, if_neg]
        · rfl
        · rintro hcovers
          obtain ⟨hfrom, hto⟩ := of_decide_eq_true hcovers
          dsimp only at hfrom hto
          omega
      · rw [if_neg (mt of_decide_eq_true hoverlap)]
        rfl
  · rw [Bool.eq_false_of_not_eq_true hheard]
    rfl

lemma regions_heard (hstart : start ≤ frame) (hstop : frame < stop) :
    ((s.regions start stop).filter fun r => r.Covers frame).map (fun r => r.heard frame) =
      s.heardAt frame := by
  rw [DawSession.regions, DawSession.heardAt, List.filter_flatMap, List.map_flatMap]
  refine List.flatMap_congr fun t _ => ?_
  rw [List.filter_filterMap, List.map_filterMap, DawTrack.heardAt]
  exact List.filterMap_congr fun c _ => region?_heard hstart hstop

/-- **Every window that has the frame gives what the clips say.** -/
theorem heardAt_renderPlan (hs : s.Normal C)
    (hplan : renderPlan C s.document start stop = .ok plan) (hstart : max 0 start ≤ frame)
    (hstop : frame < stop) : plan.heardAt frame = s.heardAt frame := by
  obtain ⟨s', hread, hplan⟩ := bind_eq_ok.mp hplan
  obtain rfl := Except.ok.inj (hs.symm.trans hread)
  dsimp only at hplan
  split at hplan
  · cases hplan
  · cases hplan
    rw [RenderPlan.heardAt, ← regions_heard hstart hstop]
    exact Multiset.coe_eq_coe.mpr ((sortOn_perm.filter _).map _)

lemma renderPlan_ok (hs : s.Normal C) (hframe : 0 ≤ frame) :
    ∃ plan, renderPlan C s.document frame (frame + 1) = .ok plan := by
  rw [renderPlan, hs, ok_bind, if_neg]
  · exact ⟨_, rfl⟩
  · rw [max_eq_right hframe, canonicalRate]
    omega

end StageForge
