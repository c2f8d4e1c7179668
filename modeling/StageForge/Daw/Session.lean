import StageForge.Library.PythonList
import StageForge.Show.Technology

/-!
# Sessions of the workstation

A session is a document of tracks with clips. Every reader and every writer of it goes through
`normalize_session`, which checks it and fills in what is missing.
-/

namespace StageForge

open Python

def maxTracks : ℕ := 128

def maxClips : ℕ := 4096

def maxAutomationPoints : ℕ := 4096

def maxMarkers : ℕ := 1024

def maxTempos : ℕ := 1024

def maxSends : ℕ := 32

def canonicalRate : Int := 192000

/-! ## Names from a fixed list -/

inductive TrackKind
  | audio
  | midi
  | aux
  | master
  deriving DecidableEq

inductive ClipSourceType
  | audioFile
  | midiSequence
  | generator
  deriving DecidableEq

inductive FadeCurve
  | linear
  | equalPower
  deriving DecidableEq

inductive MarkerKind
  | note
  | sectionStart
  | cue
  deriving DecidableEq

def TrackKind.text : TrackKind → String
  | .audio => "audio"
  | .midi => "midi"
  | .aux => "aux"
  | .master => "master"

def ClipSourceType.text : ClipSourceType → String
  | .audioFile => "audio-file"
  | .midiSequence => "midi-sequence"
  | .generator => "generator"

def FadeCurve.text : FadeCurve → String
  | .linear => "linear"
  | .equalPower => "equal-power"

def MarkerKind.text : MarkerKind → String
  | .note => "note"
  | .sectionStart => "section"
  | .cue => "cue"

def TrackKind.ofText? : String → Option TrackKind := named? [.audio, .midi, .aux, .master] text

def ClipSourceType.ofText? : String → Option ClipSourceType :=
  named? [.audioFile, .midiSequence, .generator] text

def FadeCurve.ofText? : String → Option FadeCurve := named? [.linear, .equalPower] text

def MarkerKind.ofText? : String → Option MarkerKind := named? [.note, .sectionStart, .cue] text

@[simp] lemma TrackKind.ofText?_text (kind : TrackKind) : ofText? kind.text = some kind := by
  cases kind <;> decide

@[simp] lemma ClipSourceType.ofText?_text (type : ClipSourceType) :
    ofText? type.text = some type := by
  cases type <;> decide

@[simp] lemma FadeCurve.ofText?_text (curve : FadeCurve) : ofText? curve.text = some curve := by
  cases curve <;> decide

@[simp] lemma MarkerKind.ofText?_text (kind : MarkerKind) : ofText? kind.text = some kind := by
  cases kind <;> decide

/-- `if text not in {…}: raise …`. -/
def textIn {κ : Type} (ofText? : String → Option κ) (e : Error) (s : String) : Except Error κ :=
  match ofText? s with
  | some name => .ok name
  | none => .error e

/-- The same of any value; a list or an object cannot be looked up in a set. -/
def valueIn {κ : Type} (ofText? : String → Option κ) (e : Error) : Value → Except Error κ
  | .str s => textIn ofText? e s
  | .list _ => .error .typeError
  | .dict _ => .error .typeError
  | _ => .error e

/-! ## Sessions -/

structure FadeRange where
  spanFrames : Int
  offsetFrames : Int
  deriving DecidableEq

structure ClipFades where
  inFrames : Int
  outFrames : Int
  curve : FadeCurve
  /-- What a split leaves of the clip that the fades were made for. -/
  range : Option FadeRange
  deriving DecidableEq

structure ClipSource where
  type : ClipSourceType
  rest : Entries
  deriving DecidableEq

structure DawClip where
  clipId : String
  startFrame : Int
  lengthFrames : Int
  sourceOffsetFrames : Int
  source : ClipSource
  muted : Bool
  fades : ClipFades
  extra : Entries
  deriving DecidableEq

/-- A point of the volume, the only parameter there is; between two points it is linear. -/
structure AutomationPoint where
  pointId : String
  frame : Int
  value : ℚ
  extra : Entries
  deriving DecidableEq

structure DawTrack where
  trackId : String
  kind : TrackKind
  name : String
  gain : ℚ
  pan : ℚ
  muted : Bool
  solo : Bool
  outputBus : String
  sends : List Value
  automation : List AutomationPoint
  clips : List DawClip
  extra : Entries
  deriving DecidableEq

structure DawMarker where
  markerId : String
  frame : Int
  name : String
  kind : MarkerKind
  extra : Entries
  deriving DecidableEq

structure DawSession where
  minimumReaderSchemaVersion : Int
  sessionId : String
  revision : Int
  tempoMap : List Value
  markers : List DawMarker
  tracks : List DawTrack
  extra : Entries
  deriving DecidableEq

/-- `(frame, pointId)`; the parameter is always the same. -/
def AutomationPoint.key (p : AutomationPoint) : ℤ ×ₗ String := toLex (p.frame, p.pointId)

def DawMarker.key (m : DawMarker) : ℤ ×ₗ String := toLex (m.frame, m.markerId)

def DawClip.key (c : DawClip) : ℤ ×ₗ String := toLex (c.startFrame, c.clipId)

/-! ## Documents -/

def clipKeys : List String :=
  ["clipId", "startFrame", "lengthFrames", "sourceOffsetFrames", "source", "muted", "fades"]

def pointKeys : List String := ["pointId", "parameter", "frame", "value", "interpolation"]

def trackKeys : List String :=
  ["trackId", "kind", "name", "gain", "pan", "muted", "solo", "outputBus", "sends", "automation",
    "clips"]

def markerKeys : List String := ["markerId", "frame", "name", "kind"]

def sessionKeys : List String :=
  ["documentType", "schemaVersion", "minimumReaderSchemaVersion", "sessionId", "revision",
    "sampleRate", "sampleFormat", "tempoMap", "markers", "tracks", "unknownFieldsPreserved",
    "physicalOutputsArmed"]

def ClipFades.document (f : ClipFades) : Value := match f.range with
  | none =>
    .dict [("inFrames", .int f.inFrames), ("outFrames", .int f.outFrames),
      ("curve", .str f.curve.text)]
  | some range =>
    .dict [("inFrames", .int f.inFrames), ("outFrames", .int f.outFrames),
      ("curve", .str f.curve.text), ("spanFrames", .int range.spanFrames),
      ("offsetFrames", .int range.offsetFrames)]

def ClipSource.document (s : ClipSource) : Value := .dict (("type", .str s.type.text) :: s.rest)

def DawClip.document (c : DawClip) : Value :=
  .dict ([("clipId", .str c.clipId), ("startFrame", .int c.startFrame),
    ("lengthFrames", .int c.lengthFrames), ("sourceOffsetFrames", .int c.sourceOffsetFrames),
    ("source", c.source.document), ("muted", .bool c.muted), ("fades", c.fades.document)] ++ c.extra)

def AutomationPoint.document (p : AutomationPoint) : Value :=
  .dict ([("pointId", .str p.pointId), ("parameter", .str "volume"), ("frame", .int p.frame),
    ("value", .float (.finite p.value)), ("interpolation", .str "linear")] ++ p.extra)

def DawTrack.document (t : DawTrack) : Value :=
  .dict ([("trackId", .str t.trackId), ("kind", .str t.kind.text), ("name", .str t.name),
    ("gain", .float (.finite t.gain)), ("pan", .float (.finite t.pan)), ("muted", .bool t.muted),
    ("solo", .bool t.solo), ("outputBus", .str t.outputBus), ("sends", .list t.sends),
    ("automation", .list (t.automation.map AutomationPoint.document)),
    ("clips", .list (t.clips.map DawClip.document))] ++ t.extra)

def DawMarker.document (m : DawMarker) : Value :=
  .dict ([("markerId", .str m.markerId), ("frame", .int m.frame), ("name", .str m.name),
    ("kind", .str m.kind.text)] ++ m.extra)

def DawSession.document (s : DawSession) : Value :=
  .dict ([("documentType", .str "org.upp.daw-session"), ("schemaVersion", .int 1),
    ("minimumReaderSchemaVersion", .int s.minimumReaderSchemaVersion),
    ("sessionId", .str s.sessionId), ("revision", .int s.revision),
    ("sampleRate", .int canonicalRate), ("sampleFormat", .str "float32-planar"),
    ("tempoMap", .list s.tempoMap), ("markers", .list (s.markers.map DawMarker.document)),
    ("tracks", .list (s.tracks.map DawTrack.document)), ("unknownFieldsPreserved", .bool true),
    ("physicalOutputsArmed", .bool false)] ++ s.extra)

/-! ## `normalize_session` -/

/-- The object that a value is, or the message of the source. -/
def objectElse (message : String) : Value → Except Error Entries
  | .dict entries => .ok entries
  | _ => .error (.valueError message)

def listOfAtMost (n : ℕ) (message : String) : Value → Except Error (List Value)
  | .list items => if items.length ≤ n then .ok items else .error (.valueError message)
  | _ => .error (.valueError message)

/-- An integer that is no truth value, and not negative. -/
def frameOf? : Value → Option Int
  | .int n => if 0 ≤ n then some n else none
  | _ => none

section

variable (C : Conversions)

def ClipFades.normalize (length : Int) (value : Value) : Except Error ClipFades := do
  let fades ← dictCopy value
  let fadeIn ← C.int (fades.get "inFrames" (.int 0))
  let fadeOut ← C.int (fades.get "outFrames" (.int 0))
  let span ← C.int (fades.get "spanFrames" (.int length))
  let fadeOffset ← C.int (fades.get "offsetFrames" (.int 0))
  if span < length ∨ fadeOffset < 0 ∨ span < fadeOffset + length then
    .error (.valueError "invalid fade span")
  else if span < max 0 fadeIn + max 0 fadeOut then
    .error (.valueError "combined fades exceed clip length")
  else do
    let curve ← valueIn FadeCurve.ofText? (.valueError "unsupported clip fade curve")
      (fades.get "curve" (.str "equal-power"))
    return {
      inFrames := max 0 fadeIn
      outFrames := max 0 fadeOut
      curve
      range := if (fades.lookup "spanFrames").isSome ∨ (fades.lookup "offsetFrames").isSome then
          some ⟨span, fadeOffset⟩
        else none }

def ClipSource.normalize (value : Value) : Except Error ClipSource := do
  let source ← dictCopy value
  let type ← valueIn ClipSourceType.ofText? (.valueError "clip source type is unsupported")
    (source.get "type" .none)
  return { type, rest := unwritten ["type"] source }

/-- One clip, beside the clips of the tracks before and of its own track. -/
def DawClip.normalize (others seen : List DawClip) (value : Value) : Except Error DawClip :=
  if maxClips < (others ++ seen).length + 1 then
    .error (.valueError "session exceeds 4096 clips")
  else do
    let raw ← objectOf value
    let clipId := clippedText C 128 (raw.get "clipId" (.str ""))
    let start ← C.int (raw.get "startFrame" (.int 0))
    let length ← C.int (raw.get "lengthFrames" (.int 0))
    let offset ← C.int (raw.get "sourceOffsetFrames" (.int 0))
    if clipId = "" ∨ (∃ clip ∈ others ++ seen, clip.clipId = clipId) ∨ length < 1 then
      .error (.valueError "clip identity and length must be valid")
    else do
      let source ← ClipSource.normalize ((raw.get "source" .none).orElse (.dict []))
      let fades ← ClipFades.normalize C length ((raw.get "fades" .none).orElse (.dict []))
      return {
        clipId
        startFrame := max 0 start
        lengthFrames := length
        sourceOffsetFrames := max 0 offset
        source
        muted := (raw.get "muted" (.bool false)).truthy
        fades
        extra := unwritten clipKeys raw }

/-- A volume, from 0 to 2; an integer too large for a float cannot be asked whether it is finite. -/
def volumeOf : Value → Except Error ℚ
  | .int n =>
    if Conversions.floatLimit ≤ n.natAbs then .error .overflowError
    else if 0 ≤ n ∧ n ≤ 2 then .ok n
    else .error (.valueError "invalid volume automation point")
  | .float (.finite q) =>
    if 0 ≤ q ∧ q ≤ 2 then .ok q else .error (.valueError "invalid volume automation point")
  | _ => .error (.valueError "invalid volume automation point")

def AutomationPoint.normalize (seen : List AutomationPoint) (value : Value) :
    Except Error AutomationPoint := do
  let raw ← objectElse "automation points must be objects" value
  let parameter := C.str (raw.get "parameter" (.str ""))
  let frame := raw.get "frame" .none
  let pointId := clip 128 (C.str (raw.get "pointId"
    (.str (parameter ++ "-" ++ C.str frame ++ "-" ++ C.str (.int seen.length)))))
  if parameter ≠ "volume" then
    .error (.valueError "unsupported automation parameter")
  else
    match frameOf? frame with
    | none => .error (.valueError "invalid volume automation point")
    | some frame => do
      let volume ← volumeOf (raw.get "value" .none)
      if pointId = "" ∨ (∃ point ∈ seen, point.pointId = pointId ∨ point.frame = frame) then
        .error (.valueError "automation point ids and positions must be unique")
      else
        return { pointId, frame, value := volume, extra := unwritten pointKeys raw }

def DawTrack.normalize (seen : List DawTrack) (value : Value) : Except Error DawTrack := do
  let raw ← objectOf value
  let trackId := clippedText C 128 (raw.get "trackId" (.str ""))
  if trackId = "" ∨ (∃ track ∈ seen, track.trackId = trackId) then
    .error (.valueError "track ids must be unique non-empty tokens")
  else do
    let kind ← textIn TrackKind.ofText? (.valueError "unsupported track kind")
      (C.str (raw.get "kind" (.str "audio")))
    let clipValues ← (raw.get "clips" (.list [])).iterate
    let clips ← readAll (DawClip.normalize C (seen.flatMap DawTrack.clips)) [] clipValues
    let pointValues ← listOfAtMost maxAutomationPoints
      "track automation must contain at most 4096 points"
      ((raw.get "automation" .none).orElse (.list []))
    let points ← readAll (AutomationPoint.normalize C) [] pointValues
    let sends ← ((raw.get "sends" .none).orElse (.list [])).iterate
    let gain ← C.float (raw.get "gain" (.float (.finite 1)))
    let pan ← C.float (raw.get "pan" (.float (.finite 0)))
    return {
      trackId
      kind
      name := clip 128 (C.str (raw.get "name" (.str trackId)))
      gain := gain.clamp 0 4
      pan := pan.clamp (-1) 1
      muted := (raw.get "muted" (.bool false)).truthy
      solo := (raw.get "solo" (.bool false)).truthy
      outputBus := clip 128 (C.str (raw.get "outputBus" (.str "master")))
      sends := sends.take maxSends
      automation := sortOn AutomationPoint.key points
      clips
      extra := unwritten trackKeys raw }

def DawMarker.normalize (seen : List DawMarker) (value : Value) : Except Error DawMarker := do
  let raw ← objectElse "markers must be objects" value
  let markerId := clippedText C 128 (raw.get "markerId" (.str ""))
  if markerId = "" ∨ ∃ marker ∈ seen, marker.markerId = markerId then
    .error (.valueError "marker ids must be unique non-empty tokens")
  else
    match frameOf? (raw.get "frame" .none) with
    | none => .error (.valueError "marker frame must be a non-negative integer")
    | some frame => do
      let kind ← textIn MarkerKind.ofText? (.valueError "unsupported marker kind")
        (C.str (raw.get "kind" (.str "note")))
      return {
        markerId
        frame
        name := textOrDefault (clippedText C 128 (raw.get "name" (.str markerId))) markerId
        kind
        extra := unwritten markerKeys raw }

def defaultTempo : Value :=
  .dict [("beat", .int 0), ("bpm", .int 120), ("numerator", .int 4), ("denominator", .int 4)]

def normalizeSession (value : Value) : Except Error DawSession := do
  let raw ← objectOf value
  let trackValues ← listOfAtMost maxTracks "tracks must contain at most 128 entries"
    (raw.get "tracks" (.list []))
  let tracks ← readAll (DawTrack.normalize C) [] trackValues
  let tempo ← ((raw.get "tempoMap" .none).orElse (.list [defaultTempo])).iterate
  let markerValues ← listOfAtMost maxMarkers "markers must contain at most 1024 entries"
    ((raw.get "markers" .none).orElse (.list []))
  let markers ← readAll (DawMarker.normalize C) [] markerValues
  let minimumReader ← C.int (raw.get "minimumReaderSchemaVersion" (.int 1))
  let revision ← C.int (raw.get "revision" (.int 0))
  return {
    minimumReaderSchemaVersion := minimumReader
    sessionId := clip 128 (C.str (raw.get "sessionId" (.str "default")))
    revision := max 0 revision
    tempoMap := tempo.take maxTempos
    markers := sortOn DawMarker.key markers
    tracks
    extra := unwritten sessionKeys raw }

end

end StageForge
