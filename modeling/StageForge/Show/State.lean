import StageForge.Show.Notation

/-!
# The show state

What `ShowState` of `backend/state.py` holds, and what each of its calls does besides its own work:
the revision check before, the touched resources and the event after.
-/

namespace StageForge

open Python

/-! ## Resources -/

/-- The keys of `_resource_revisions` that calls use. -/
inductive ResourceKey
  | transport
  | show
  | system
  | midiBindings
  | audio
  | lightingNetwork
  | handoff
  | technology
  | monitor (playerId : String)
  | midi (playerId : String)
  | notationPart (playerId : String)
  deriving DecidableEq

namespace ResourceKey

def text : ResourceKey → String
  | .transport => "transport"
  | .show => "show"
  | .system => "system"
  | .midiBindings => "midi-bindings"
  | .audio => "audio"
  | .lightingNetwork => "lighting-network"
  | .handoff => "handoff"
  | .technology => "technology"
  | .monitor playerId => "monitor:" ++ playerId
  | .midi playerId => "midi:" ++ playerId
  | .notationPart playerId => "notation:" ++ playerId

def shared : List ResourceKey :=
  [.transport, .show, .system, .midiBindings, .audio, .lightingNetwork, .handoff, .technology]

def ofPlayer (playerId : String) : List ResourceKey :=
  [.monitor playerId, .midi playerId, .notationPart playerId]

end ResourceKey

/-! ## Parts of the state -/

structure Transport where
  running : Bool
  elapsed : ℚ
  startedAt : ℚ
  deriving DecidableEq

def Transport.clockSeconds (transport : Transport) (now : ℚ) : ℚ :=
  if transport.running then transport.elapsed + (now - transport.startedAt) else transport.elapsed

structure Song where
  bpm : Set.Icc (30 : ℚ) 300
  key : String
  deriving DecidableEq

/-- `SYSTEM_MODES`. -/
inductive SystemMode
  | full
  | reduced
  | safe
  | audio
  deriving DecidableEq

namespace SystemMode

def text : SystemMode → String
  | .full => "full"
  | .reduced => "reduced"
  | .safe => "safe"
  | .audio => "audio"

def ofText? (s : String) : Option SystemMode :=
  if s = "full" then some .full else if s = "reduced" then some .reduced
  else if s = "safe" then some .safe else if s = "audio" then some .audio else none

end SystemMode

@[ext] structure System where
  capacity : Set.Icc (0 : ℚ) 100
  mode : SystemMode
  venue : String
  productionManager : String
  deriving DecidableEq

def System.qualityScore (system : System) : Int := let base := min 100 (system.capacity.val + 18)
  let base := match system.mode with
    | .reduced => max base 90
    | .safe => max base 94
    | .audio => 100
    | .full => base
  roundHalfEven (max 0 (min 100 base))

/-- `MONITOR_KEYS`. -/
inductive MonitorKey
  | master
  | self
  | vocals
  | band
  | click
  | talkback
  | ambient
  deriving DecidableEq

namespace MonitorKey

def text : MonitorKey → String
  | .master => "master"
  | .self => "self"
  | .vocals => "vocals"
  | .band => "band"
  | .click => "click"
  | .talkback => "talkback"
  | .ambient => "ambient"

/-- All keys, in the order of `MONITOR_KEYS`. -/
def all : List MonitorKey := [.master, .self, .vocals, .band, .click, .talkback, .ambient]

lemma mem_all (key : MonitorKey) : key ∈ all := by
  cases key <;> decide

instance : Fintype MonitorKey := Fintype.ofList all mem_all

end MonitorKey

structure MonitorMix where
  level : MonitorKey → Set.Icc (0 : ℚ) 100
  muted : Bool
  output : String
  deriving DecidableEq

/-- `MonitorMix()`. -/
def MonitorMix.default : MonitorMix where
  level := fun
    | .master => ⟨72, by norm_num⟩
    | .self => ⟨76, by norm_num⟩
    | .vocals => ⟨58, by norm_num⟩
    | .band => ⟨62, by norm_num⟩
    | .click => ⟨38, by norm_num⟩
    | .talkback => ⟨45, by norm_num⟩
    | .ambient => ⟨28, by norm_num⟩
  muted := false
  output := "IEM A"

/-- `MonitorMix` with other levels for some keys. -/
def MonitorMix.defaultWith (levels : List (MonitorKey × Set.Icc (0 : ℚ) 100)) : MonitorMix :=
  { MonitorMix.default with
    level := levels.foldl (fun f e => Function.update f e.1 e.2) MonitorMix.default.level }

structure Player where
  id : String
  name : String
  role : String
  monitor : MonitorMix
  mode : String
  available : Bool
  deriving DecidableEq

def defaultPlayers : Table Player.id where
  rows :=
    [{ id := "alex", name := "Alex", role := "Drums", mode := "local", available := true,
       monitor := .defaultWith [(.self, ⟨82, by norm_num⟩), (.click, ⟨42, by norm_num⟩)] },
      { id := "sam", name := "Sam", role := "Bass", mode := "local", available := true,
        monitor := .defaultWith [(.self, ⟨74, by norm_num⟩), (.click, ⟨28, by norm_num⟩)] },
      { id := "maya", name := "Maya", role := "Keys", mode := "remote", available := true,
        monitor := .defaultWith [(.vocals, ⟨70, by norm_num⟩), (.ambient, ⟨36, by norm_num⟩)] },
      { id := "jordan", name := "Jordan", role := "Lead Vocal", mode := "local", available := true,
        monitor := .defaultWith
          [(.self, ⟨84, by norm_num⟩), (.band, ⟨52, by norm_num⟩), (.click, ⟨22, by norm_num⟩)] }]
  nodup := by decide

/-! ### Audio -/

structure Route where
  output : Set.Icc (0 : Int) 15
  gain : Set.Icc (0 : ℚ) 4
  deriving DecidableEq

def Route.default : Route := { output := ⟨0, by decide⟩, gain := ⟨0, by norm_num⟩ }

structure AudioInput where
  deviceId : Token 96
  playerId : String
  sampleRate : Set.Icc (8000 : ℚ) 768000
  route : Route
  deriving DecidableEq

inductive Purpose
  | foh
  | monitor
  | broadcast
  | record
  | aux
  deriving DecidableEq

namespace Purpose

def text : Purpose → String
  | .foh => "foh"
  | .monitor => "monitor"
  | .broadcast => "broadcast"
  | .record => "record"
  | .aux => "aux"

def ofText? (s : String) : Option Purpose :=
  if s = "foh" then some .foh else if s = "monitor" then some .monitor
  else if s = "broadcast" then some .broadcast else if s = "record" then some .record
  else if s = "aux" then some .aux else none

end Purpose

structure DriftCompensation where
  enabled : Bool
  maxCorrectionPpm : Set.Icc (0 : ℚ) 10000
  queueGainPpm : Set.Icc (0 : ℚ) 10000
  deriving DecidableEq

structure AudioOutput where
  deviceId : Token 96
  purpose : Purpose
  playerId : String
  graphOutput : Set.Icc (0 : Int) 15
  master : Set.Icc (0 : ℚ) 4
  limiterCeilingDb : Set.Icc (-24 : ℚ) 0
  driftCompensation : DriftCompensation
  deriving DecidableEq

/-- `null-audio`, the device that stands for none. -/
def nullAudio : Token 96 := ⟨"null-audio", by decide, by decide⟩

def noDevice : Token 96 := ⟨"", by decide, by decide⟩

/-- `device or "null-audio"`. -/
def orNullAudio (device : Token 96) : Token 96 := if device.val = "" then nullAudio else device

/-- The input of each slot at first, and before a restored document is read. -/
def defaultInput (sampleRate : Set.Icc (8000 : ℚ) 768000) : Fin 4 → AudioInput := fun _ =>
  { deviceId := noDevice, playerId := "", sampleRate, route := .default }

/-- The output of each slot at first, and before a restored document is read. -/
def defaultOutput : Fin 4 → AudioOutput := fun slot =>
  { deviceId := if slot = 0 then nullAudio else noDevice
    purpose := if slot = 0 then .foh else if slot = 3 then .broadcast else .monitor
    playerId := ""
    graphOutput := Set.projIcc 0 15 le_output slot.val
    master := ⟨1, by norm_num⟩
    limiterCeilingDb := ⟨-1, ceiling_mem⟩
    driftCompensation :=
      { enabled := true, maxCorrectionPpm := ⟨2000, by norm_num⟩,
        queueGainPpm := ⟨1000, by norm_num⟩ } }

/-- The desired state of audio. The fields before `inputs` and the last one are kept beside the
slots, for callers that know only one output and one input. -/
structure Audio where
  deviceId : Token 96
  inputDeviceId : Token 96
  inputPlayerId : String
  inputRoute : Route
  inputs : Fin 4 → AudioInput
  outputs : Fin 4 → AudioOutput
  sampleRate : Set.Icc (8000 : ℚ) 768000
  bufferFrames : Set.Icc (16 : Int) 8192
  limiterCeilingDb : Set.Icc (-24 : ℚ) 0
  deriving DecidableEq

def defaultSampleRate : Set.Icc (8000 : ℚ) 768000 := ⟨192000, by norm_num⟩

/-! ### Lighting -/

inductive LightingProtocol
  | artnet
  | sacn
  deriving DecidableEq

namespace LightingProtocol

def text : LightingProtocol → String
  | .artnet => "artnet"
  | .sacn => "sacn"

def ofText? (s : String) : Option LightingProtocol :=
  if s = "artnet" then some .artnet else if s = "sacn" then some .sacn else none

def defaultPort : LightingProtocol → Set.Icc (1 : Int) 65535
  | .artnet => ⟨6454, by decide⟩
  | .sacn => ⟨5568, by decide⟩

end LightingProtocol

-- The digits are looked at one by one.
attribute [local instance (high)] List.decidableBAll in
/-- The number of one part of an IPv4 address: up to three digits without a leading zero. -/
def octet? (digits : List Char) : Option ℕ :=
  let n := digits.foldl (fun n c => 10 * n + (c.toNat - 48)) 0
  if digits ≠ [] ∧ digits.length ≤ 3 ∧ (∀ c ∈ digits, 48 ≤ c.toNat ∧ c.toNat ≤ 57) ∧ n ≤ 255 ∧
      (digits.head? = some '0' → digits.length = 1) then some n
  else none

/-- `IPv4Address(s)`, as the list of its four numbers. -/
def ipv4? (s : String) : Option (List ℕ) := match (s.toList.splitOn '.').mapM octet? with
  | some octets => if octets.length = 4 then some octets else none
  | none => none

/-- An address of one host: not multicast, not unspecified and not the broadcast address. -/
def isUnicast (octets : List ℕ) : Bool :=
  !(224 ≤ octets.getD 0 0 && octets.getD 0 0 ≤ 239) && octets ≠ [0, 0, 0, 0] &&
    octets ≠ [255, 255, 255, 255]

structure Lighting where
  protocol : LightingProtocol
  target : String
  port : Set.Icc (1 : Int) 65535
  universeBase : Set.Icc (1 : Int) 63984
  deriving DecidableEq

/-! ### The other parts -/

structure Handoff where
  policy : HandoffPolicy
  liveInputs : Fin 4 → LiveInput
  deterministicSources : List DeterministicSource
  deriving DecidableEq

structure Technology where
  policy : Entries
  ecosystemParticipants : Set.Icc (1 : Int) 1000000
  extensions : List Entries
  deriving DecidableEq

/-- The MIDI journal: how many messages have come in, and the last of them. -/
structure MidiJournal where
  received : ℕ
  activity : List Entries
  deriving DecidableEq

/-- An event with the number that its `eventId` is. -/
structure Event where
  id : Int
  fields : Entries
  deriving DecidableEq

/-! ## The state -/

structure Content where
  transport : Transport
  song : Song
  system : System
  audio : Audio
  lighting : Lighting
  handoff : Handoff
  technology : Technology
  players : Table Player.id
  midiBindings : Dict String String
  midi : MidiJournal
  notationRegistry : NotationRegistry
  deriving DecidableEq

/-- What the program acts on: the content, with its revisions and events. -/
structure Live extends Content where
  revision : Int
  resourceRevisions : Dict String Int
  nextEventId : Int
  events : List Event
  deriving DecidableEq

/-- What a document says about its reader. -/
inductive ReaderMode
  | new
  | exact
  | forwardCompatible
  | legacyMigration
  deriving DecidableEq

/-- The report of `inspect_show_state` and `migrate_show_state` about a readable document. -/
structure CompatibilityReport where
  mode : ReaderMode
  incomingApiVersion : Int
  minimumReaderApiVersion : Int
  migrations : List String
  deriving DecidableEq

structure ShowState extends Live where
  overlay : Entries
  report : CompatibilityReport
  deriving DecidableEq

/-- How numbers and texts convert and print where the program runs: `formatG` is the format `:g`. -/
structure Platform extends Conversions where
  formatG : ℚ → String

structure Clocks where
  now : ℚ
  event : ℚ
  snapshot : ℚ
  wall : ℚ

inductive Failure
  | revisionConflict (expected actual : Int) (scope : String)
  | raised (error : Error)
  deriving DecidableEq

/-! ## Revisions and events -/

namespace Live

/-- `_resource_revisions.get(key, 1)`. -/
def resourceRevision (s : Live) (key : ResourceKey) : Int :=
  (s.resourceRevisions.get? key.text).getD 1

/-- `_check_revision`: an expectation about the resource makes that about the whole irrelevant. -/
def checkRevision (s : Live) (expected expectedResource : Option Int) (key : ResourceKey) :
    Except Failure Unit :=
  match expectedResource with
  | some n =>
    if n ≠ s.resourceRevision key then
      .error (.revisionConflict n (s.resourceRevision key) key.text)
    else .ok ()
  | none =>
    match expected with
    | some n => if n ≠ s.revision then .error (.revisionConflict n s.revision "global") else .ok ()
    | none => .ok ()

/-- `_resource_revisions[key] = _resource_revisions.get(key, 1) + 1`. -/
def bump (revisions : Dict String Int) (key : ResourceKey) : Dict String Int :=
  revisions.set key.text ((revisions.get? key.text).getD 1 + 1)

/-- `_touch_resources`. -/
def touch (s : Live) (keys : List ResourceKey) : Live := { s with
    revision := s.revision + 1
    resourceRevisions := keys.eraseDups.foldl bump s.resourceRevisions }

structure Notice where
  category : String
  text : String
  payload : Entries

/-- The event that `_event` makes. -/
def event (s : Live) (clocks : Clocks) (notice : Notice) : Event where
  id := s.nextEventId
  fields := [("eventId", .int s.nextEventId), ("category", .str notice.category),
      ("text", .str notice.text),
      ("showTimeSeconds", .float (.finite (round (s.transport.clockSeconds clocks.event) 3))),
      ("wallTimeUnixMs", .int ⌊clocks.wall * 1000⌋), ("revision", .int s.revision),
      ("payload", .dict notice.payload)]

/-- `_event`: the newest event comes first, and there are at most 100. -/
def record (s : Live) (clocks : Clocks) (notice : Notice) : Live := { s with
    nextEventId := s.nextEventId + 1
    events := (s.event clocks notice :: s.events).take 100 }

/-- `events_since`: oldest first. -/
def eventsSince (s : Live) (eventId : Int) : List Event :=
  s.events.reverse.filter fun event => eventId < event.id

def initial (now : ℚ) : Live where
  transport := { running := false, elapsed := 0, startedAt := now }
  song := { bpm := ⟨120, by norm_num⟩, key := "C" }
  system :=
    { capacity := ⟨78, by norm_num⟩, mode := .full, venue := "Small Club",
      productionManager := "Touring Default" }
  audio :=
    { deviceId := nullAudio, inputDeviceId := noDevice, inputPlayerId := "", inputRoute := .default,
      inputs := defaultInput defaultSampleRate, outputs := defaultOutput,
      sampleRate := defaultSampleRate, bufferFrames := ⟨256, bufferFrames_mem⟩,
      limiterCeilingDb := ⟨-1, ceiling_mem⟩ }
  lighting :=
    { protocol := .artnet, target := "", port := LightingProtocol.artnet.defaultPort,
      universeBase := ⟨1, universe_mem⟩ }
  handoff :=
    { policy := .default, liveInputs := defaultLiveInputRedundancy, deterministicSources := [] }
  technology :=
    { policy := defaultTechnologyPolicy, ecosystemParticipants := ⟨1, by decide⟩, extensions := [] }
  players := defaultPlayers
  midiBindings := .empty
  midi := { received := 0, activity := [] }
  notationRegistry :=
    (defaultPlayers.rows.map Player.id).foldl NotationRegistry.ensure .empty
  revision := 1
  resourceRevisions :=
    (ResourceKey.shared ++ (defaultPlayers.rows.map Player.id).flatMap ResourceKey.ofPlayer).foldl
      (fun revisions key => revisions.set key.text 1) .empty
  nextEventId := 1
  events := []

end Live

/-- `ShowState()`. -/
def ShowState.initial (clocks : Clocks) : ShowState where
  toLive := (Live.initial clocks.now).record clocks
    { category := "system", text := "Development show state initialized", payload := [] }
  overlay := []
  report :=
    { mode := .new, incomingApiVersion := 1, minimumReaderApiVersion := 1, migrations := [] }

end StageForge
