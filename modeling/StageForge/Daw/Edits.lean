import StageForge.Daw.NormalForm

/-!
# Edits of a session

What `edit`, `marker_edit` and `automation_edit` make of the tracks and markers of a session, before the
result is normalised and saved.
-/

namespace StageForge

open Python

/-! ## Reading an operation -/

/-- A value of type `int`, which a truth value is not. -/
def integerOf? : Value → Option Int
  | .int n => some n
  | _ => none

def snapped (frame snap : Int) : Int := (frame + snap / 2) / snap * snap

/-- `snapFrames`, from one frame to one minute. -/
def snapOf? (operation : Entries) : Option Int :=
  (integerOf? (operation.get "snapFrames" (.int 1))).filter fun snap =>
    1 ≤ snap ∧ snap ≤ canonicalRate * 60

/-! ## The place of a clip -/

structure ClipPlace where
  tracksBefore : List DawTrack
  track : DawTrack
  tracksAfter : List DawTrack
  clipsBefore : List DawClip
  clip : DawClip
  clipsAfter : List DawClip

/-- The first clip with the id, in the first track that has one. -/
def findClip (clipId : String) (tracks : List DawTrack) : Option ClipPlace := do
  let (tracksBefore, track, tracksAfter) ←
    splitFirst (fun track => track.clips.any fun clip => clip.clipId = clipId) tracks
  let (clipsBefore, clip, clipsAfter) ← splitFirst (fun clip => clip.clipId = clipId) track.clips
  return { tracksBefore, track, tracksAfter, clipsBefore, clip, clipsAfter }

namespace ClipPlace

variable (p : ClipPlace)

/-- The tracks with other clips in the place of the clip. -/
def withClips (clips : List DawClip) : List DawTrack := p.tracksBefore ++
    { p.track with clips := p.clipsBefore ++ clips ++ p.clipsAfter } :: p.tracksAfter

end ClipPlace

/-! ## Edits of a clip -/

/-- A clip that begins so much later keeps its place in the fades. -/
def ClipFades.shifted (f : ClipFades) (frames : Int) : ClipFades :=
  { f with range := f.range.map fun range =>
      { range with offsetFrames := range.offsetFrames + frames } }

/-- The fades of a clip that is about to be split remember its length. -/
def ClipFades.spanned (f : ClipFades) (length : Int) : ClipFades :=
  { f with range := some (f.range.getD ⟨length, 0⟩) }

namespace DawClip

variable (c : DawClip)

/-- The clip without its first and its last frames. -/
def trimmed (first last : Int) : DawClip := { c with
    startFrame := c.startFrame + first
    sourceOffsetFrames := c.sourceOffsetFrames + first
    lengthFrames := c.lengthFrames - (first + last)
    fades := c.fades.shifted first }

def leftPart (relative : Int) : DawClip :=
  { c with lengthFrames := relative, fades := c.fades.spanned c.lengthFrames }

def rightPart (newClipId : String) (relative : Int) : DawClip := { c with
    clipId := newClipId
    startFrame := c.startFrame + relative
    sourceOffsetFrames := c.sourceOffsetFrames + relative
    lengthFrames := c.lengthFrames - relative
    fades := (c.fades.spanned c.lengthFrames).shifted relative }

end DawClip

section

variable (C : Conversions)

/-- `trim`. -/
def trimClip (operation : Entries) (clip : DawClip) : Except Error (List DawClip) := do
  let trimStart ← C.int (operation.get "trimStartFrames" (.int 0))
  let trimEnd ← C.int (operation.get "trimEndFrames" (.int 0))
  if clip.lengthFrames ≤ max 0 trimStart + max 0 trimEnd then
    .error (.valueError "trim removes complete clip")
  else
    return [clip.trimmed (max 0 trimStart) (max 0 trimEnd)]

/-- `split`; the second part gets a name of its own. -/
def splitClip (operation : Entries) (clip : DawClip) : Except Error (List DawClip) := do
  let splitFrame ← C.int (operation.get "splitFrame" (.int 0))
  let relative := splitFrame - clip.startFrame
  if relative ≤ 0 ∨ clip.lengthFrames ≤ relative then
    .error (.valueError "split must fall inside clip")
  else
    let clipId := C.str (operation.get "clipId" (.str ""))
    let newClipId := Python.clip 128 (C.str (operation.get "newClipId" (.str (clipId ++ "-split"))))
    return [clip.leftPart relative, clip.rightPart newClipId relative]

/-- `fade`; a curve that is not known is turned down when the result is normalised. -/
def fadeClip (operation : Entries) (clip : DawClip) : Except Error (List DawClip) := do
  let fadeIn ← C.int (operation.get "fadeInFrames" (.int 0))
  let fadeOut ← C.int (operation.get "fadeOutFrames" (.int 0))
  if clip.lengthFrames < max 0 fadeIn + max 0 fadeOut then
    .error (.valueError "combined fades exceed clip length")
  else do
    let curve ← textIn FadeCurve.ofText? (.valueError "unsupported clip fade curve")
      (C.str (operation.get "curve" (.str "equal-power")))
    return [{ clip with fades := ⟨max 0 fadeIn, max 0 fadeOut, curve, none⟩ }]

/-- `resize`. -/
def resizeClip (operation : Entries) (clip : DawClip) : Except Error (List DawClip) :=
  match integerOf? (operation.get "startFrame" .none), integerOf? (operation.get "endFrame" .none) with
  | some start, some stop =>
    match snapOf? operation with
    | none =>
      .error (.valueError "snapFrames must be an integer from 1 frame through one minute")
    | some snap =>
      let start := snapped start snap
      let stop := snapped stop snap
      let oldEnd := clip.startFrame + clip.lengthFrames
      if start < clip.startFrame ∨ oldEnd < stop ∨ stop ≤ start then
        .error (.valueError "resize may trim within the current clip only")
      else
        .ok [clip.trimmed (start - clip.startFrame) (oldEnd - stop)]
  | _, _ => .error (.valueError "resize boundaries must be JSON integers")

/-- The source of a clip can stand on the track. -/
def compatible (source : ClipSourceType) (track : TrackKind) : Bool := match source with
  | .audioFile => track = .audio ∨ track = .aux
  | .midiSequence => track = .midi
  | .generator => true

/-- `move`, to a frame on the grid and maybe to another track. -/
def moveClip (operation : Entries) (p : ClipPlace) : Except Error (List DawTrack) :=
  match frameOf? (operation.get "startFrame" .none) with
  | none => .error (.valueError "move startFrame must be a non-negative integer")
  | some start =>
    match snapOf? operation with
    | none =>
      .error (.valueError "snapFrames must be an integer from 1 frame through one minute")
    | some snap =>
      let clip := { p.clip with startFrame := snapped start snap }
      let targetId := C.str (operation.get "targetTrackId" (.str p.track.trackId))
      match (p.withClips [p.clip]).find? fun track => track.trackId = targetId with
      | none => .error (.valueError "target track not found")
      | some target =>
        if compatible clip.source.type target.kind = false then
          .error (.valueError "clip source is incompatible with target track")
        else
          let tracks := if targetId = p.track.trackId then p.withClips [clip]
            else (p.withClips []).map fun track =>
              if track.trackId = targetId then { track with clips := track.clips ++ [clip] }
              else track
          .ok (tracks.map fun track =>
            if track.trackId = targetId then
              { track with clips := sortOn DawClip.key track.clips }
            else track)

/-- The ids of a group: two to 256 texts, each one once. -/
def groupIds : Value → Except Error (List String)
  | .list items =>
    if items.length < 2 ∨ 256 < items.length then
      .error (.valueError "moveMany requires 2 through 256 clip ids")
    else
      match items.mapM fun item => match item with
        | .str id => if id = "" then none else some id
        | _ => none with
      | none => .error (.valueError "moveMany requires 2 through 256 clip ids")
      | some ids =>
        if ids.Nodup then .ok ids else .error (.valueError "moveMany clip ids must be unique")
  | _ => .error (.valueError "moveMany requires 2 through 256 clip ids")

/-- `_move_many`: all clips of the group by as much as brings the first of them onto the grid. -/
def moveMany (operation : Entries) (tracks : List DawTrack) : Except Error (List DawTrack) := do
  let ids ← groupIds (operation.get "clipIds" .none)
  match (integerOf? (operation.get "deltaFrames" .none)).filter fun delta =>
      |delta| ≤ canonicalRate * 60 * 60 with
  | none => .error (.valueError "deltaFrames must be an integer within one hour")
  | some delta =>
    match snapOf? operation with
    | none =>
      .error (.valueError "snapFrames must be an integer from 1 frame through one minute")
    | some snap =>
      let clips := (tracks.flatMap DawTrack.clips).filter fun clip => clip.clipId ∈ ids
      if clips.length ≠ ids.length then .error (.valueError "group clip not found")
      else
        let anchor := (clips.map DawClip.startFrame).min?.getD 0
        let applied := snapped (anchor + delta) snap - anchor
        if clips.any fun clip => clip.startFrame + applied < 0 then
          .error (.valueError "group move would cross timeline start")
        else
          .ok (tracks.map fun track =>
            { track with
              clips := sortOn DawClip.key (track.clips.map fun clip =>
                if clip.clipId ∈ ids then { clip with startFrame := clip.startFrame + applied }
                else clip) })

/-- The operations of `edit` on one clip. -/
def editPlace (operation : Entries) (p : ClipPlace) : Except Error (List DawTrack) :=
  let op := C.str (operation.get "op" (.str ""))
  if op = "trim" then (trimClip C operation p.clip).map p.withClips
  else if op = "split" then (splitClip C operation p.clip).map p.withClips
  else if op = "fade" then (fadeClip C operation p.clip).map p.withClips
  else if op = "move" then moveClip C operation p
  else if op = "resize" then (resizeClip operation p.clip).map p.withClips
  else .error (.valueError "unsupported DAW edit")

/-- `edit`, after the check of the revision. -/
def editTracks (operation : Entries) (tracks : List DawTrack) : Except Error (List DawTrack) :=
  if C.str (operation.get "op" (.str "")) = "moveMany" then moveMany operation tracks
  else
    match findClip (C.str (operation.get "clipId" (.str ""))) tracks with
    | none => .error (.valueError "clip not found")
    | some p => editPlace C operation p

/-! ## Edits of markers and automation -/

/-- The marker that `add` makes. -/
def newMarker (operation : Entries) (markerId : String) : Except Error DawMarker :=
  match frameOf? (operation.get "frame" .none) with
  | none => .error (.valueError "marker frame must be a non-negative integer")
  | some frame => do
    let kind ← textIn MarkerKind.ofText? (.valueError "unsupported marker kind")
      (C.str (operation.get "kind" (.str "note")))
    return {
      markerId
      frame
      name := textOrDefault (clippedText C 128 (operation.get "name" (.str markerId))) markerId
      kind
      extra := [] }

/-- The actions of `marker_edit`. -/
def markerAction (operation : Entries) (markers : List DawMarker) : Except Error (List DawMarker) :=
  let action := C.str (operation.get "action" (.str ""))
  let markerId := clippedText C 128 (operation.get "markerId" (.str ""))
  let place := splitFirst (fun marker : DawMarker => marker.markerId = markerId) markers
  if action = "add" then
    if markerId = "" ∨ place.isSome ∨ maxMarkers ≤ markers.length then
      .error (.valueError "marker id must be unique and capacity available")
    else (newMarker C operation markerId).map fun marker => markers ++ [marker]
  else if action = "move" then
    match place with
    | none => .error (.valueError "marker not found")
    | some (before, marker, after) =>
      match frameOf? (operation.get "frame" .none), snapOf? operation with
      | some frame, some snap =>
        .ok (before ++ { marker with frame := snapped frame snap } :: after)
      | _, _ => .error (.valueError "marker move frame and snapFrames are invalid")
  else if action = "delete" then
    match place with
    | none => .error (.valueError "marker not found")
    | some (before, _, after) => .ok (before ++ after)
  else .error (.valueError "unsupported marker action")

/-- `marker_edit`, after the check of the revision. -/
def editMarkers (operation : Entries) (markers : List DawMarker) : Except Error (List DawMarker) :=
  (markerAction C operation markers).map (sortOn DawMarker.key)

/-- The point that `upsert` makes. -/
def newPoint (operation : Entries) (pointId : String) : Except Error AutomationPoint :=
  let parameter := C.str (operation.get "parameter" (.str "volume"))
  if pointId = "" ∨ parameter ≠ "volume" then
    .error (.valueError "invalid volume automation point")
  else
    match frameOf? (operation.get "frame" .none) with
    | none => .error (.valueError "invalid volume automation point")
    | some frame => do
      let value ← volumeOf (operation.get "value" .none)
      return { pointId, frame, value, extra := [] }

/-- A point in the place of the old one with its id, or as another one. -/
def putPoint (point : AutomationPoint) (points : List AutomationPoint) :
    Except Error (List AutomationPoint) :=
  if points.any fun p => p.frame = point.frame ∧ p.pointId ≠ point.pointId then
    .error (.valueError "automation position already has a point")
  else
    match splitFirst (fun p : AutomationPoint => p.pointId = point.pointId) points with
    | none =>
      if maxAutomationPoints ≤ points.length then
        .error (.valueError "automation point capacity reached")
      else .ok (points ++ [point])
    | some (before, _, after) => .ok (before ++ point :: after)

/-- The actions of `automation_edit` on the points of the track. -/
def pointAction (operation : Entries) (points : List AutomationPoint) :
    Except Error (List AutomationPoint) :=
  let action := C.str (operation.get "action" (.str ""))
  let pointId := clippedText C 128 (operation.get "pointId" (.str ""))
  if action = "upsert" then do
    let point ← newPoint C operation pointId
    putPoint point points
  else if action = "delete" then
    match splitFirst (fun point : AutomationPoint => point.pointId = pointId) points with
    | none => .error (.valueError "automation point not found")
    | some (before, _, after) => .ok (before ++ after)
  else .error (.valueError "unsupported automation action")

/-- `automation_edit`, after the check of the revision. -/
def editAutomation (operation : Entries) (tracks : List DawTrack) : Except Error (List DawTrack) :=
  let trackId := C.str (operation.get "trackId" (.str ""))
  match splitFirst (fun track : DawTrack => track.trackId = trackId) tracks with
  | none => .error (.valueError "automation track not found")
  | some (before, track, after) => do
    let points ← pointAction C operation track.automation
    return before ++ { track with automation := sortOn AutomationPoint.key points } :: after

/-! ## One edit -/

inductive DawEdit
  | clip (operation : Entries)
  | marker (operation : Entries)
  | automation (operation : Entries)

namespace DawEdit

def operation : DawEdit → Entries
  | clip operation => operation
  | marker operation => operation
  | automation operation => operation

/-- What the message about the revision begins with. -/
def noun : DawEdit → String
  | clip _ => "DAW"
  | marker _ => "marker"
  | automation _ => "automation"

/-- The revision that an edit expects; an integer, and that of the session. -/
def expects (e : DawEdit) (revision : Int) : Bool :=
  integerOf? (e.operation.get "expectedRevision" .none) = some revision

/-- What an edit makes of a session, of which it leaves the revision. -/
def apply (s : DawSession) : DawEdit → Except Error DawSession
  | clip operation => (editTracks C operation s.tracks).map fun tracks => { s with tracks }
  | marker operation => (editMarkers C operation s.markers).map fun markers => { s with markers }
  | automation operation => (editAutomation C operation s.tracks).map fun tracks => { s with tracks }

end DawEdit

end

/-! ## An edit of a sound session -/

section

variable {C : Conversions} {operation : Entries}

lemma snapOf?_pos {snap : Int} (h : snapOf? operation = some snap) : 1 ≤ snap := by
  obtain ⟨-, hsnap⟩ := Option.filter_eq_some_iff.mp h
  exact (of_decide_eq_true hsnap).1

lemma snapped_nonneg {frame snap : Int} (hframe : 0 ≤ frame) (hsnap : 1 ≤ snap) :
    0 ≤ snapped frame snap := by
  have hdiv : 0 ≤ (frame + snap / 2) / snap := Int.ediv_nonneg (by omega) (by omega)
  exact Int.mul_nonneg hdiv (by omega)

namespace ClipFades

variable {f : ClipFades} {length first last : Int}

lemma sound_shifted (h : f.Sound length) (hfirst : 0 ≤ first) (hlast : 0 ≤ last) :
    (f.shifted first).Sound (length - (first + last)) := by
  obtain ⟨hin, hout, hoffset, hinside⟩ := h
  obtain ⟨fadeIn, fadeOut, curve, range⟩ := f
  cases range with
  | none => exact ⟨hin, hout, le_refl 0, (zero_add _).le⟩
  | some range =>
    simp only [offset, span, Option.map_some, Option.getD_some] at hoffset hinside
    refine ⟨hin, hout, ?_, ?_⟩
    all_goals
      simp only [offset, span, shifted, Option.map_some, Option.getD_some]
      omega

lemma sound_spanned (h : f.Sound length) : (f.spanned length).Sound length := by
  obtain ⟨hin, hout, hoffset, hinside⟩ := h
  obtain ⟨fadeIn, fadeOut, curve, range⟩ := f
  cases range with
  | none => exact ⟨hin, hout, le_refl 0, (zero_add _).le⟩
  | some range => exact ⟨hin, hout, hoffset, hinside⟩

lemma sound_of_le (h : (f.spanned length).Sound length) {length' : Int} (hle : length' ≤ length) :
    (f.spanned length).Sound length' := by
  obtain ⟨hin, hout, hoffset, hinside⟩ := h
  refine ⟨hin, hout, hoffset, ?_⟩
  simp only [spanned, offset, span, Option.map_some, Option.getD_some] at hinside ⊢
  omega

end ClipFades

namespace DawClip

variable {c : DawClip} {first last relative : Int}

lemma sound_trimmed (h : c.Sound) (hfirst : 0 ≤ first) (hlast : 0 ≤ last)
    (hlength : first + last < c.lengthFrames) : (c.trimmed first last).Sound := by
  have hstart := h.start_nonneg
  have hoffset := h.offset_nonneg
  unfold trimmed
  refine ⟨h.clipId_le, ?_, ?_, ?_, h.source, ClipFades.sound_shifted h.fades hfirst hlast, h.extra⟩
  all_goals
    simp only
    omega

lemma sound_leftPart (h : c.Sound) (hpos : 0 < relative) (hlt : relative < c.lengthFrames) :
    (c.leftPart relative).Sound := by
  unfold leftPart
  refine ⟨h.clipId_le, h.start_nonneg, ?_, h.offset_nonneg, h.source, ?_, h.extra⟩
  · simp only
    omega
  · exact ClipFades.sound_of_le (ClipFades.sound_spanned h.fades) hlt.le

lemma sound_rightPart (h : c.Sound) {newClipId : String} (hid : newClipId.length ≤ 128)
    (hpos : 0 < relative) (hlt : relative < c.lengthFrames) :
    (c.rightPart newClipId relative).Sound := by
  have hstart := h.start_nonneg
  have hoffset := h.offset_nonneg
  have hfades := @ClipFades.sound_shifted _ _ relative 0 (ClipFades.sound_spanned h.fades) hpos.le
    le_rfl
  rw [add_zero] at hfades
  unfold rightPart
  refine ⟨hid, ?_, ?_, ?_, h.source, hfades, h.extra⟩
  all_goals
    simp only
    omega

lemma sound_withStart (h : c.Sound) {start : Int} (hstart : 0 ≤ start) :
    ({ c with startFrame := start } : DawClip).Sound :=
  ⟨h.clipId_le, hstart, h.length_pos, h.offset_nonneg, h.source, h.fades, h.extra⟩

end DawClip

variable {tracks : List DawTrack} {p : ClipPlace}

lemma findClip_eq_some {clipId : String} (h : findClip clipId tracks = some p) :
    tracks = p.withClips [p.clip] ∧ p.clip ∈ p.track.clips ∧ p.track ∈ tracks ∧
      p.clip.clipId = clipId := by
  obtain ⟨⟨tracksBefore, track, tracksAfter⟩, htracks, h⟩ := Option.bind_eq_some_iff.mp h
  obtain ⟨⟨clipsBefore, clip, clipsAfter⟩, hclips, h⟩ := Option.bind_eq_some_iff.mp h
  cases h
  obtain ⟨rfl, -, -⟩ := splitFirst_eq_some htracks
  obtain ⟨heq, hid, -⟩ := splitFirst_eq_some hclips
  refine ⟨?_, ?_, ?_, of_decide_eq_true hid⟩
  · simp only [ClipPlace.withClips, List.append_assoc, List.singleton_append, ← heq]
  · simp only [heq, List.mem_append, List.mem_cons, true_or, or_true]
  · exact List.mem_append_right _ List.mem_cons_self

lemma DawTrack.sound_withClips {t : DawTrack} (h : t.Sound) {clips : List DawClip}
    (hclips : ∀ c ∈ clips, c.Sound) : ({ t with clips := clips } : DawTrack).Sound :=
  ⟨h.trackId_le, h.name_le, h.gain_mem, h.pan_mem, h.outputBus_le, h.sends_le, h.points_le,
    h.points, h.points_sorted, hclips, h.extra⟩

lemma ClipPlace.sound_withClips {clips : List DawClip}
    (h : ∀ t ∈ p.withClips [p.clip], t.Sound) (hclips : ∀ c ∈ clips, c.Sound) :
    ∀ t ∈ p.withClips clips, t.Sound := by
  rw [withClips, List.forall_mem_append, List.forall_mem_cons] at h ⊢
  obtain ⟨hbefore, htrack, hafter⟩ := h
  refine ⟨hbefore, ?_, hafter⟩
  have hold := htrack.clips
  rw [List.forall_mem_append, List.forall_mem_append] at hold
  have hnew : ∀ c ∈ p.clipsBefore ++ clips ++ p.clipsAfter, c.Sound := by
    rw [List.forall_mem_append, List.forall_mem_append]
    exact ⟨⟨hold.1.1, hclips⟩, hold.2⟩
  exact DawTrack.sound_withClips htrack hnew

variable {c : DawClip}

lemma trimClip_sound {clips : List DawClip} (hc : c.Sound)
    (h : trimClip C operation c = .ok clips) : ∀ d ∈ clips, d.Sound := by
  obtain ⟨trimStart, -, h⟩ := bind_eq_ok.mp h
  obtain ⟨trimEnd, -, h⟩ := bind_eq_ok.mp h
  split_ifs at h with hlength
  cases h
  exact List.forall_mem_singleton.mpr
    (DawClip.sound_trimmed hc (le_max_left _ _) (le_max_left _ _) (not_le.mp hlength))

lemma splitClip_sound {clips : List DawClip} (hc : c.Sound)
    (h : splitClip C operation c = .ok clips) : ∀ d ∈ clips, d.Sound := by
  obtain ⟨splitFrame, -, h⟩ := bind_eq_ok.mp h
  dsimp only at h
  split_ifs at h with hbad
  cases h
  refine List.forall_mem_cons.mpr ⟨?_, List.forall_mem_singleton.mpr ?_⟩
  · exact DawClip.sound_leftPart hc (by omega) (by omega)
  · exact DawClip.sound_rightPart hc (length_clip_le 128 _) (by omega) (by omega)

lemma fadeClip_sound {clips : List DawClip} (hc : c.Sound)
    (h : fadeClip C operation c = .ok clips) : ∀ d ∈ clips, d.Sound := by
  obtain ⟨fadeIn, -, h⟩ := bind_eq_ok.mp h
  obtain ⟨fadeOut, -, h⟩ := bind_eq_ok.mp h
  split_ifs at h with hlength
  obtain ⟨curve, -, h⟩ := bind_eq_ok.mp h
  cases h
  refine List.forall_mem_singleton.mpr
    ⟨hc.clipId_le, hc.start_nonneg, hc.length_pos, hc.offset_nonneg, hc.source, ?_, hc.extra⟩
  exact ⟨le_max_left _ _, le_max_left _ _, le_refl 0, (zero_add _).le⟩

lemma resizeClip_sound {clips : List DawClip} (hc : c.Sound)
    (h : resizeClip operation c = .ok clips) : ∀ d ∈ clips, d.Sound := by
  unfold resizeClip at h
  split at h
  · split at h
    · cases h
    · dsimp only at h
      split_ifs at h with hbad
      cases h
      refine List.forall_mem_singleton.mpr (DawClip.sound_trimmed hc ?_ ?_ ?_)
      all_goals omega
  · cases h

lemma moveClip_sound (hp : ∀ t ∈ p.withClips [p.clip], t.Sound) (hclip : p.clip.Sound)
    (h : moveClip C operation p = .ok tracks) : ∀ t ∈ tracks, t.Sound := by
  unfold moveClip at h
  split at h
  · cases h
  · rename_i start hstart
    split at h
    · cases h
    · rename_i snap hsnap
      dsimp only at h
      split at h
      · cases h
      · split at h
        · cases h
        · cases h
          have hmoved := DawClip.sound_withStart hclip
            (snapped_nonneg (frameOf?_nonneg hstart) (snapOf?_pos hsnap))
          -- the clip in its place, or at the end of another track
          have hput : ∀ t ∈ (if C.str (operation.get "targetTrackId" (.str p.track.trackId)) =
              p.track.trackId then
                p.withClips [{ p.clip with startFrame := snapped start snap }]
              else (p.withClips []).map fun track =>
                if track.trackId = C.str (operation.get "targetTrackId" (.str p.track.trackId)) then
                  { track with
                    clips := track.clips ++ [{ p.clip with startFrame := snapped start snap }] }
                else track), t.Sound := by
            split_ifs
            · exact ClipPlace.sound_withClips hp (List.forall_mem_singleton.mpr hmoved)
            · refine List.forall_mem_map.mpr fun t ht => ?_
              have htrack := ClipPlace.sound_withClips hp
                (fun _ hmem => absurd hmem List.not_mem_nil) t ht
              split_ifs
              · refine DawTrack.sound_withClips htrack ?_
                rw [List.forall_mem_append, List.forall_mem_singleton]
                exact ⟨htrack.clips, hmoved⟩
              · exact htrack
          refine List.forall_mem_map.mpr fun t ht => ?_
          split_ifs
          · exact DawTrack.sound_withClips (hput t ht) fun c hc =>
              (hput t ht).clips c (mem_sortOn.mp hc)
          · exact hput t ht

variable {tracks tracks' : List DawTrack}

lemma moveMany_sound (hs : ∀ t ∈ tracks, t.Sound)
    (h : moveMany operation tracks = .ok tracks') : ∀ t ∈ tracks', t.Sound := by
  obtain ⟨ids, -, h⟩ := bind_eq_ok.mp h
  split at h
  · cases h
  · split at h
    · cases h
    · rename_i delta hdelta snap hsnap
      dsimp only at h
      split_ifs at h with hcount hearly
      cases h
      refine List.forall_mem_map.mpr fun t ht => DawTrack.sound_withClips (hs t ht) fun c hc => ?_
      obtain ⟨c', hc', rfl⟩ := List.mem_map.mp (mem_sortOn.mp hc)
      have hsound := (hs t ht).clips c' hc'
      split_ifs with hid
      · refine DawClip.sound_withStart hsound (not_lt.mp fun hneg => hearly ?_)
        refine List.any_eq_true.mpr ⟨c', List.mem_filter.mpr ⟨?_, decide_eq_true hid⟩,
          decide_eq_true hneg⟩
        exact List.mem_flatMap_of_mem ht hc'
      · exact hsound

lemma editPlace_sound (hp : ∀ t ∈ p.withClips [p.clip], t.Sound) (hclip : p.clip.Sound)
    (h : editPlace C operation p = .ok tracks) : ∀ t ∈ tracks, t.Sound := by
  unfold editPlace at h
  dsimp only at h
  split_ifs at h
  · obtain ⟨clips, hclips, rfl⟩ := map_eq_ok.mp h
    exact ClipPlace.sound_withClips hp (trimClip_sound hclip hclips)
  · obtain ⟨clips, hclips, rfl⟩ := map_eq_ok.mp h
    exact ClipPlace.sound_withClips hp (splitClip_sound hclip hclips)
  · obtain ⟨clips, hclips, rfl⟩ := map_eq_ok.mp h
    exact ClipPlace.sound_withClips hp (fadeClip_sound hclip hclips)
  · exact moveClip_sound hp hclip h
  · obtain ⟨clips, hclips, rfl⟩ := map_eq_ok.mp h
    exact ClipPlace.sound_withClips hp (resizeClip_sound hclip hclips)

lemma editTracks_sound (hs : ∀ t ∈ tracks, t.Sound)
    (h : editTracks C operation tracks = .ok tracks') : ∀ t ∈ tracks', t.Sound := by
  unfold editTracks at h
  split at h
  · exact moveMany_sound hs h
  · split at h
    · cases h
    · rename_i p hp
      obtain ⟨htracks, hclip, htrack, -⟩ := findClip_eq_some hp
      have hsound := (hs p.track htrack).clips p.clip hclip
      exact editPlace_sound (htracks ▸ hs) hsound h

lemma forall_mem_of_splitFirst {α : Type} {q : α → Bool} {p : α → Prop} {items before after : List α}
    {a : α} (h : splitFirst q items = some (before, a, after)) (hp : ∀ b ∈ items, p b) :
    (∀ b ∈ before, p b) ∧ p a ∧ ∀ b ∈ after, p b := by
  obtain ⟨rfl, -, -⟩ := splitFirst_eq_some h
  rwa [List.forall_mem_append, List.forall_mem_cons] at hp

lemma newMarker_sound {markerId : String} {m : DawMarker} (hid : markerId.length ≤ 128)
    (h : newMarker C operation markerId = .ok m) : m.Sound := by
  unfold newMarker at h
  split at h
  · cases h
  · rename_i frame hframe
    obtain ⟨kind, -, h⟩ := bind_eq_ok.mp h
    cases h
    refine ⟨hid, ?_, frameOf?_nonneg hframe, fun e he => absurd he List.not_mem_nil⟩
    dsimp only
    exact length_textOrDefault_le (length_clippedText_le C 128 _) hid

lemma DawMarker.sound_withFrame {m : DawMarker} (h : m.Sound) {frame : Int} (hframe : 0 ≤ frame) :
    ({ m with frame := frame } : DawMarker).Sound := ⟨h.markerId_le, h.name_le, hframe, h.extra⟩

lemma editMarkers_sound {markers markers' : List DawMarker} (hs : ∀ m ∈ markers, m.Sound)
    (hlength : markers.length ≤ maxMarkers) (h : editMarkers C operation markers = .ok markers') :
    (∀ m ∈ markers', m.Sound) ∧ markers'.length ≤ maxMarkers := by
  obtain ⟨edited, hedited, rfl⟩ := map_eq_ok.mp h
  suffices (∀ m ∈ edited, m.Sound) ∧ edited.length ≤ maxMarkers by
    refine ⟨fun m hm => this.1 m (mem_sortOn.mp hm), ?_⟩
    rw [sortOn_perm.length_eq]
    exact this.2
  unfold markerAction at hedited
  dsimp only at hedited
  split_ifs at hedited with hadd hfull hmove hdelete
  · obtain ⟨marker, hmarker, rfl⟩ := map_eq_ok.mp hedited
    refine ⟨?_, ?_⟩
    · rw [List.forall_mem_append, List.forall_mem_singleton]
      exact ⟨hs, newMarker_sound (length_clippedText_le C 128 _) hmarker⟩
    · have hroom := not_or.mp (not_or.mp hfull).2
      rw [List.length_append, List.length_singleton]
      omega
  · split at hedited
    · cases hedited
    · rename_i before marker after hplace
      obtain ⟨hbefore, hmarker, hafter⟩ := forall_mem_of_splitFirst hplace hs
      obtain ⟨rfl, -, -⟩ := splitFirst_eq_some hplace
      split at hedited
      · rename_i frame snap hframe hsnap
        cases hedited
        refine ⟨?_, ?_⟩
        · rw [List.forall_mem_append, List.forall_mem_cons]
          exact ⟨hbefore, DawMarker.sound_withFrame hmarker
            (snapped_nonneg (frameOf?_nonneg hframe) (snapOf?_pos hsnap)), hafter⟩
        · simpa using hlength
      · cases hedited
  · split at hedited
    · cases hedited
    · rename_i before marker after hplace
      obtain ⟨hbefore, -, hafter⟩ := forall_mem_of_splitFirst hplace hs
      obtain ⟨rfl, -, -⟩ := splitFirst_eq_some hplace
      cases hedited
      refine ⟨?_, ?_⟩
      · rw [List.forall_mem_append]
        exact ⟨hbefore, hafter⟩
      · simp only [List.length_append, List.length_cons] at hlength ⊢
        omega

lemma newPoint_sound {pointId : String} {p : AutomationPoint} (hid : pointId.length ≤ 128)
    (h : newPoint C operation pointId = .ok p) : p.Sound := by
  unfold newPoint at h
  dsimp only at h
  split_ifs at h
  split at h
  · cases h
  · rename_i frame hframe
    obtain ⟨value, hvalue, h⟩ := bind_eq_ok.mp h
    cases h
    exact ⟨hid, frameOf?_nonneg hframe, volumeOf_mem hvalue, fun e he => absurd he List.not_mem_nil⟩

lemma putPoint_sound {point : AutomationPoint} {points edited : List AutomationPoint}
    (hpoint : point.Sound) (hs : ∀ p ∈ points, p.Sound)
    (hlength : points.length ≤ maxAutomationPoints) (h : putPoint point points = .ok edited) :
    (∀ p ∈ edited, p.Sound) ∧ edited.length ≤ maxAutomationPoints := by
  unfold putPoint at h
  split at h
  · cases h
  · split at h
    · split at h
      · cases h
      · rename_i hroom
        cases h
        refine ⟨?_, ?_⟩
        · rw [List.forall_mem_append, List.forall_mem_singleton]
          exact ⟨hs, hpoint⟩
        · rw [List.length_append, List.length_singleton]
          omega
    · rename_i before old after hplace
      obtain ⟨hbefore, -, hafter⟩ := forall_mem_of_splitFirst hplace hs
      obtain ⟨rfl, -, -⟩ := splitFirst_eq_some hplace
      cases h
      refine ⟨?_, ?_⟩
      · rw [List.forall_mem_append, List.forall_mem_cons]
        exact ⟨hbefore, hpoint, hafter⟩
      · simpa using hlength

lemma pointAction_sound {points edited : List AutomationPoint} (hs : ∀ p ∈ points, p.Sound)
    (hlength : points.length ≤ maxAutomationPoints)
    (h : pointAction C operation points = .ok edited) :
    (∀ p ∈ edited, p.Sound) ∧ edited.length ≤ maxAutomationPoints := by
  unfold pointAction at h
  dsimp only at h
  split at h
  · obtain ⟨point, hpoint, h⟩ := bind_eq_ok.mp h
    exact putPoint_sound (newPoint_sound (length_clippedText_le C 128 _) hpoint) hs hlength h
  · split at h
    · split at h
      · cases h
      · rename_i before old after hplace
        obtain ⟨hbefore, -, hafter⟩ := forall_mem_of_splitFirst hplace hs
        obtain ⟨rfl, -, -⟩ := splitFirst_eq_some hplace
        cases h
        refine ⟨?_, ?_⟩
        · rw [List.forall_mem_append]
          exact ⟨hbefore, hafter⟩
        · simp only [List.length_append, List.length_cons] at hlength ⊢
          omega
    · cases h

lemma editAutomation_sound (hs : ∀ t ∈ tracks, t.Sound)
    (h : editAutomation C operation tracks = .ok tracks') : ∀ t ∈ tracks', t.Sound := by
  unfold editAutomation at h
  dsimp only at h
  split at h
  · cases h
  · rename_i before track after hplace
    obtain ⟨hbefore, htrack, hafter⟩ := forall_mem_of_splitFirst hplace hs
    obtain ⟨points, hpoints, h⟩ := bind_eq_ok.mp h
    cases h
    obtain ⟨hsound, hlength⟩ := pointAction_sound htrack.points htrack.points_le hpoints
    have hlength : (sortOn AutomationPoint.key points).length ≤ maxAutomationPoints := by
      rw [sortOn_perm.length_eq]
      exact hlength
    rw [List.forall_mem_append, List.forall_mem_cons]
    exact ⟨hbefore, ⟨htrack.trackId_le, htrack.name_le, htrack.gain_mem, htrack.pan_mem,
      htrack.outputBus_le, htrack.sends_le, hlength, fun p hp => hsound p (mem_sortOn.mp hp),
      sortOn_pairwise, htrack.clips, htrack.extra⟩, hafter⟩

lemma ClipPlace.length_withClips (p : ClipPlace) (clips clips' : List DawClip) :
    (p.withClips clips).length = (p.withClips clips').length := by
  simp only [withClips, List.length_append, List.length_cons]

lemma moveClip_length (h : moveClip C operation p = .ok tracks) :
    tracks.length = (p.withClips [p.clip]).length := by
  unfold moveClip at h
  split at h
  · cases h
  · split at h
    · cases h
    · dsimp only at h
      split at h
      · cases h
      · split at h
        · cases h
        · cases h
          rw [List.length_map]
          split_ifs
          · exact p.length_withClips _ _
          · rw [List.length_map]
            exact p.length_withClips _ _

lemma editPlace_length (h : editPlace C operation p = .ok tracks) :
    tracks.length = (p.withClips [p.clip]).length := by
  unfold editPlace at h
  dsimp only at h
  split_ifs at h
  · obtain ⟨clips, -, rfl⟩ := map_eq_ok.mp h
    exact p.length_withClips _ _
  · obtain ⟨clips, -, rfl⟩ := map_eq_ok.mp h
    exact p.length_withClips _ _
  · obtain ⟨clips, -, rfl⟩ := map_eq_ok.mp h
    exact p.length_withClips _ _
  · exact moveClip_length h
  · obtain ⟨clips, -, rfl⟩ := map_eq_ok.mp h
    exact p.length_withClips _ _

lemma editTracks_length
    (h : editTracks C operation tracks = .ok tracks') : tracks'.length = tracks.length := by
  unfold editTracks at h
  split at h
  · obtain ⟨ids, -, h⟩ := bind_eq_ok.mp h
    split at h
    · cases h
    · split at h
      · cases h
      · dsimp only at h
        split_ifs at h
        cases h
        rw [List.length_map]
  · split at h
    · cases h
    · rename_i p hp
      rw [editPlace_length h, ← (findClip_eq_some hp).1]

lemma editAutomation_length
    (h : editAutomation C operation tracks = .ok tracks') : tracks'.length = tracks.length := by
  unfold editAutomation at h
  dsimp only at h
  split at h
  · cases h
  · rename_i before track after hplace
    obtain ⟨rfl, -, -⟩ := splitFirst_eq_some hplace
    obtain ⟨points, -, h⟩ := bind_eq_ok.mp h
    cases h
    simp only [List.length_append, List.length_cons]

lemma DawSession.sound_withTracks {s : DawSession} (h : s.Sound)
    (hlength : tracks.length = s.tracks.length) (htracks : ∀ t ∈ tracks, t.Sound) :
    ({ s with tracks := tracks } : DawSession).Sound :=
  ⟨h.sessionId_le, h.revision_nonneg, h.tempo_ne, h.tempo_le, h.markers_le, h.markers,
    hlength.le.trans h.tracks_le, htracks, h.extra⟩

/-- **An edit of a sound session leaves a sound one.** -/
theorem DawEdit.sound_apply {e : DawEdit} {s s' : DawSession} (hs : s.Sound)
    (h : e.apply C s = .ok s') : s'.Sound := by
  cases e with
  | clip operation =>
    obtain ⟨tracks, htracks, rfl⟩ := map_eq_ok.mp h
    exact DawSession.sound_withTracks hs (editTracks_length htracks)
      (editTracks_sound hs.tracks htracks)
  | marker operation =>
    obtain ⟨markers, hmarkers, rfl⟩ := map_eq_ok.mp h
    obtain ⟨hsound, hlength⟩ := editMarkers_sound hs.markers hs.markers_le hmarkers
    exact ⟨hs.sessionId_le, hs.revision_nonneg, hs.tempo_ne, hs.tempo_le, hlength, hsound,
      hs.tracks_le, hs.tracks, hs.extra⟩
  | automation operation =>
    obtain ⟨tracks, htracks, rfl⟩ := map_eq_ok.mp h
    exact DawSession.sound_withTracks hs (editAutomation_length htracks)
      (editAutomation_sound hs.tracks htracks)

end

end StageForge
