import StageForge.Show.PerformanceCalls

/-!
# Restoring a document

`_restore` of `backend/state.py`, which reads a document into the state, one field after the other,
the constructor that starts from a document and `apply_replica_snapshot`, which replaces the state of
a standby.
-/

namespace StageForge

open Python Script

variable (P : Platform)

/-- `snapshot.get(key) or {}`. -/
def sectionOf (doc : Entries) (key : String) : Value := (doc.get key .none).orElse (.dict [])

/-! ## Sections -/

def restoredElapsed (transport : Value) : Except Error (Set.Icc (0 : ℚ) 604800) := do
  P.floatIn 0 604800 (by norm_num) (← transport.get "seconds" (floatValue 0))

/-- `text[:n] or fallback`. -/
def clippedOr (n : ℕ) (fallback : String) (value : Value) : String :=
  textOrElse (clippedText P.toConversions n value) fallback

def restoredSong (transport : Value) : Except Error Song := do
  let bpm ← P.floatIn 30 300 le_tempo (← transport.get "bpm" (floatValue 120))
  return { bpm, key := clippedOr P 12 "C" (← transport.get "key" (.str "C")) }

def restoredSystem (system : Value) : Except Error System := do
  let capacity ← P.floatIn 0 100 le_percent (← system.get "capacity" (floatValue 78))
  let mode := SystemMode.ofText? (lower (strip (P.str (← system.get "mode" (.str "full")))))
  return {
    capacity
    mode := mode.getD .safe
    venue := clippedOr P 80 "Small Club" (← system.get "venue" (.str "Small Club"))
    productionManager := clippedOr P 80 "Touring Default"
      (← system.get "productionManager" (.str "Touring Default")) }

/-- A field of the handoff section, which is passed over if it is no object. -/
def handoffField (handoff : Value) (key : String) : Value := (handoff.get? key).getD .none

/-! ### Audio -/

/-- The device an input names: none if the text has white space. -/
def restoredDevice (value : Value) : Token 96 := (token? 96 (P.str value)).getD noDevice

/-- A route, the default one if it has no numbers. -/
def restoredRoute (route : Value) : Except Error Route := orDefault .default do
    let output ← P.intIn 0 15 le_output (← route.get "output" (.int 0))
    let gain ← P.floatIn 0 4 le_gain (← route.get "gain" (floatValue 0))
    return { output, gain }

def restoredSampleRate (audio : Value) : Except Error (Set.Icc (8000 : ℚ) 768000) := do
  P.floatIn 8000 768000 le_sampleRate (← audio.get "sampleRate" (floatValue 192000))

/-- One round of the loop over the inputs of a document. -/
def placeInput (audio : Value) (inputs : Fin 4 → AudioInput) : Value →
    Except Error (Fin 4 → AudioInput)
  | .dict raw => do
    match ← namedSlot P.toConversions raw with
    | none => return inputs
    | some slot =>
      let route ← restoredRoute P ((Entries.get raw "route" .none).orElse (.dict []))
      let rate ← audio.get "sampleRate" (floatValue 192000)
      let sampleRate ← P.floatIn 8000 768000 le_sampleRate (Entries.get raw "sampleRate" rate)
      return Function.update inputs slot
        { deviceId := restoredDevice P (Entries.get raw "deviceId" (.str ""))
          playerId := clippedText P.toConversions 64 (Entries.get raw "playerId" (.str ""))
          sampleRate, route }
  | _ => .ok inputs

/-- The single fields of the input, where they are present, stand for slot 0. -/
def aliasedInput (audio : Value) (input : AudioInput) : Except Error AudioInput := do
  let deviceId := match audio.get? "inputDeviceId" with
    | some value => (token? 96 (P.str value)).getD input.deviceId
    | none => input.deviceId
  let playerId := match audio.get? "inputPlayerId" with
    | some value => clippedText P.toConversions 64 value
    | none => input.playerId
  let route ← match audio.get? "inputRoute" with
    | some (.dict raw) => orDefault input.route do
        let output ← P.intIn 0 15 le_output (Entries.get raw "output" (.int 0))
        let gain ← P.floatIn 0 4 le_gain (Entries.get raw "gain" (floatValue 0))
        return { output, gain }
    | _ => pure input.route
  return { input with deviceId, playerId, route }

/-- `restored_inputs`, before the players are looked up. -/
def restoredInputs (audio : Value) : Except Error (Fin 4 → AudioInput) := do
  let sampleRate ← restoredSampleRate P audio
  match ← audio.get "inputs" .none with
  | .list raws =>
    let inputs ← (raws.take 16).foldlM (placeInput P audio) (defaultInput sampleRate)
    return Function.update inputs 0 (← aliasedInput P audio (inputs 0))
  | _ =>
    let route ← restoredRoute P ((← audio.get "inputRoute" .none).orElse (.dict []))
    return Function.update (defaultInput sampleRate) 0
      { deviceId := restoredDevice P (← audio.get "inputDeviceId" (.str ""))
        playerId := clippedText P.toConversions 64 (← audio.get "inputPlayerId" (.str ""))
        sampleRate, route }

/-- The output that an object of a document describes, over the one in its slot. -/
def restoredOutput (current : AudioOutput) (raw : Entries) : Except Error AudioOutput := do
  let drift := current.driftCompensation
  let driftRaw : Entries := match raw.get "driftCompensation" drift.toValue with
    | .dict entries => entries
    | _ => drift.toValue.entries
  let numbers : AudioOutput ← orDefault current do
    let graphOutput ← P.intIn 0 15 le_output (raw.get "graphOutput" (.int current.graphOutput))
    let master ← P.floatIn 0 4 le_gain (raw.get "master" (floatValue current.master))
    let limiterCeilingDb ← P.floatIn (-24) 0 le_ceiling
      (raw.get "limiterCeilingDb" (floatValue current.limiterCeilingDb))
    let maxCorrectionPpm ← P.floatIn 0 10000 le_correction
      (driftRaw.get "maxCorrectionPpm" (floatValue drift.maxCorrectionPpm))
    let queueGainPpm ← P.floatIn 0 10000 le_correction
      (driftRaw.get "queueGainPpm" (floatValue drift.queueGainPpm))
    let enabled := (driftRaw.get "enabled" (.bool drift.enabled)).truthy
    let driftCompensation := { enabled, maxCorrectionPpm, queueGainPpm }
    return { current with graphOutput, master, limiterCeilingDb, driftCompensation }
  return { numbers with
    deviceId := (token? 96 (P.str (raw.get "deviceId" (.str current.deviceId)))).getD
      current.deviceId
    purpose := (Purpose.ofText?
      (lower (strip (P.str (raw.get "purpose" (.str current.purpose.text)))))).getD current.purpose
    playerId := clippedText P.toConversions 64 (raw.get "playerId" (.str current.playerId)) }

/-- One round of the loop over the outputs of a document. -/
def placeOutput (outputs : Fin 4 → AudioOutput) : Value → Except Error (Fin 4 → AudioOutput)
  | .dict raw => do
    match ← namedSlot P.toConversions raw with
    | none => return outputs
    | some slot => return Function.update outputs slot (← restoredOutput P (outputs slot) raw)
  | _ => .ok outputs

/-- `restored_outputs`, before the players are looked up. `deviceId` and `ceiling` are the single
fields of the section, which stand for slot 0 where they are present or there is no list. -/
def restoredOutputs (audio : Value) (deviceId : Token 96) (ceiling : Set.Icc (-24 : ℚ) 0) :
    Except Error (Fin 4 → AudioOutput) := do
  let raws ← audio.get "outputs" .none
  let outputs ← match raws with
    | .list raws => (raws.take 16).foldlM (placeOutput P) defaultOutput
    | _ => pure defaultOutput
  let isAlias := fun key => (audio.get? key).isSome || match raws with
    | .list _ => false
    | _ => true
  let first := outputs 0
  let first := if isAlias "deviceId" then { first with deviceId } else first
  let first := if isAlias "limiterCeilingDb" then { first with limiterCeilingDb := ceiling } else first
  return Function.update outputs 0 first

/-- A player id that names a player, else none. -/
def presentPlayer (players : Table Player.id) (playerId : String) : String :=
  if playerId ∈ players.keys then playerId else ""

/-! ### Players, MIDI and notation -/

/-- One round of the loop over the players of a document. -/
def placePlayer (players : Table Player.id) (raw : Value) : Except Error (Table Player.id) :=
  let placed : Except Error (Table Player.id) := do
    let id := strip (P.str (← raw.item "id"))
    let monitor := run (MonitorMix.patch P.toConversions
      ((← raw.get "monitor" .none).orElse (.dict []))) .default
    monitor.2
    return players.put
      { id
        name := clip 80 (P.str (← raw.get "name" (.str id)))
        role := clip 80 (P.str (← raw.get "role" (.str "Player")))
        monitor := monitor.1
        mode := clip 32 (P.str (← raw.get "mode" (.str "local")))
        available := (← raw.get "available" (.bool true)).truthy }
  match placed with
  | .error (.keyError _) => .ok players
  | result => orDefault players result

/-- The players of a document, none if there are none. -/
def restoredPlayers (doc : Entries) : Except Error (Table Player.id) := do
  let raws ← ((doc.get "players" .none).orElse (.list [])).iterate
  raws.foldlM (placePlayer P) .empty

/-- The bindings of a document: of the `midi` section, else of its predecessor. -/
def restoredBindings (players : Table Player.id) (current : Dict String String) (raw : Value) :
    Dict String String :=
  match raw with
  | .dict entries =>
    (entries.filter fun entry =>
      strip entry.1 ≠ "" ∧ P.str entry.2 ∈ players.keys).foldl
      (fun bindings entry => bindings.set (clip 96 entry.1) (clip 64 (P.str entry.2))) .empty
  | _ => current

/-- `NotationRegistry(player_ids, snapshot)`. -/
def restoredRegistry (playerIds : List String) (raw : Value) : Except Error NotationRegistry :=
  playerIds.foldlM (fun registry playerId => do
    let part ← NotationPart.restore P.toConversions playerId (← raw.get playerId .none)
    return registry.set playerId part) .empty

def withPlayerResources (revisions : Dict String Int) (playerIds : List String) : Dict String Int :=
  (playerIds.flatMap ResourceKey.ofPlayer).foldl (fun revisions key =>
      if (revisions.get? key.text).isSome then revisions else revisions.set key.text 1) revisions

/-- The events of a document: objects with an integer id. -/
def restoredEvents (doc : Entries) : Except Error (List Event) := do
  let raws ← ((doc.get "events" .none).orElse (.list [])).iterate
  let events ← raws.mapM fun raw => match raw with
    | .dict fields =>
      orDefault none ((P.int (Entries.get fields "eventId" (.int 0))).map fun id =>
        some ({ id, fields } : Event))
    | _ => .ok none
  return events.filterMap id

/-! ## The restore -/

def revisionItem (entry : String × Value) : Item Error Live := fun s =>
  match P.int entry.2 with
  | .ok n => .ok { s with resourceRevisions := s.resourceRevisions.set entry.1 (max 1 n) }
  | .error e => if e.isValueError then .ok s else .error e

/-- The items for the transport, the system and the policies. -/
def restorePolicies (doc : Entries) (hold : Bool) (now : ℚ) : List (Item Error Live) :=
  let transport := sectionOf doc "transport"
  let handoff := sectionOf doc "handoff"
  let technology : Entries := (doc.get "technology" .none).entries
  [fun s => do
      let elapsed ← restoredElapsed P transport
      let running ← if hold then pure false
        else (transport.get "running" (.bool false)).map Value.truthy
      return { s with transport := { running, elapsed := elapsed.val, startedAt := now } },
    fun s => do return { s with song := ← restoredSong P transport },
    fun s => do return { s with system := ← restoredSystem P (sectionOf doc "system") },
    fun s => do
      let policy ← normalizePolicy P.toConversions (handoffField handoff "policy")
      return { s with handoff := { s.handoff with policy } },
    fun s => do
      let liveInputs ← normalizeLiveInputs P.toConversions (handoffField handoff "liveInputs")
      return { s with handoff := { s.handoff with liveInputs } },
    fun s => do
      let deterministicSources := normalizeDeterministicSources P.toConversions
        (handoffField handoff "deterministicSources")
      return { s with handoff := { s.handoff with deterministicSources } },
    fun s => match technology.lookup "policy" with
      | none => .ok s
      | some value => do
        let policy ← normalizeTechnologyPolicy P.toConversions value
        return { s with technology := { s.technology with policy } },
    fun s => match technology.lookup "ecosystemParticipants" with
      | none => .ok s
      | some value => do
        let ecosystemParticipants ← orDefault s.technology.ecosystemParticipants
          (P.intIn 1 1000000 le_participants value)
        return { s with technology := { s.technology with ecosystemParticipants } },
    fun s => match technology.lookup "extensions" with
      | none => .ok s
      | some value => do
        let extensions ← normalizeTechnologyExtensions P.toConversions value
        return { s with technology := { s.technology with extensions } }]

def restoreDevices (doc : Entries) : List (Item Error Live) := let audio := sectionOf doc "audio"
  let lighting := sectionOf doc "lighting"
  [fun s => do
      let device := (token? 96 (P.str (← audio.get "deviceId" (.str nullAudio)))).getD noDevice
      return { s with audio := { s.audio with deviceId := orNullAudio device } },
    -- The inputs are read here and assigned after the players.
    fun s => do
      let _ ← restoredInputs P audio
      return { s with audio := { s.audio with sampleRate := ← restoredSampleRate P audio } },
    fun s => do
      let bufferFrames ← orDefault ⟨256, bufferFrames_mem⟩
        (P.intIn 16 8192 le_bufferFrames (← audio.get "bufferFrames" (.int 256)))
      return { s with audio := { s.audio with bufferFrames } },
    fun s => do
      let limiterCeilingDb ← P.floatIn (-24) 0 le_ceiling
        (← audio.get "limiterCeilingDb" (floatValue (-1)))
      return { s with audio := { s.audio with limiterCeilingDb } },
    fun s => do
      let outputs ← restoredOutputs P audio s.audio.deviceId s.audio.limiterCeilingDb
      return { s with audio := { s.audio with outputs }.syncOutput },
    fun s => do
      let network := (← lighting.get "network" .none).orElse (.dict [])
      let protocol := LightingProtocol.ofText?
        (lower (strip (P.str (← network.get "protocol" (.str "artnet")))))
      let target := clippedText P.toConversions 64 (← network.get "target" (.str ""))
      let target := match unicastTarget target with
        | .ok target => target
        | .error _ => ""
      return { s with lighting := { s.lighting with protocol := protocol.getD .artnet, target } },
    fun s => do
      let network := (← lighting.get "network" .none).orElse (.dict [])
      let port ← orDefault LightingProtocol.artnet.defaultPort
        (P.intIn 1 65535 (by decide) (← network.get "port" (.int 6454)))
      return { s with lighting := { s.lighting with port } },
    fun s => do
      let network := (← lighting.get "network" .none).orElse (.dict [])
      let universeBase ← orDefault ⟨1, universe_mem⟩
        (P.intIn 1 63984 (by decide) (← network.get "universeBase" (.int 1)))
      return { s with lighting := { s.lighting with universeBase } }]

/-- The items for the revisions and the players, with the audio slots that name them. -/
def restorePlayers (doc : Entries) : List (Item Error Live) :=
  [fun s => do return { s with revision := max 1 (← P.int (doc.get "revision" (.int 1))) }] ++
  (sectionOf doc "resourceRevisions").entries.map (revisionItem P) ++
  [fun s => do
      let players ← restoredPlayers P doc
      return if players.rows = [] then s else { s with players },
    fun s => do
      let inputs ← restoredInputs P (sectionOf doc "audio")
      let inputs := fun slot =>
        { inputs slot with playerId := presentPlayer s.players (inputs slot).playerId }
      let outputs := fun slot =>
        { s.audio.outputs slot with
          playerId := presentPlayer s.players (s.audio.outputs slot).playerId }
      return { s with audio := { s.audio with inputs, outputs }.syncInput }]

def restorePerformance (doc : Entries) : List (Item Error Live) := let midi := sectionOf doc "midi"
  [fun s => do
      let raw := ((← midi.get "bindings" .none).orElse (doc.get "midiBindings" .none)).orElse
        (.dict [])
      return { s with midiBindings := restoredBindings P s.players s.midiBindings raw },
    fun s => do
      let received ← orDefault 0 (P.int (← midi.get "received" (.int 0)))
      return { s with midi := { s.midi with received := received.toNat } },
    fun s => do
      match (← midi.get "activity" .none).orElse (.list []) with
      | .list items =>
        let activity := ((lastOf 512 items).filter Value.isDict).map Value.entries
        return { s with midi := { s.midi with activity } }
      | _ => return s,
    fun s => do
      let registry ← restoredRegistry P s.players.keys (sectionOf doc "notation")
      return { s with notationRegistry := registry },
    fun s => .ok { s with
      resourceRevisions := withPlayerResources s.resourceRevisions s.players.keys },
    fun s => do
      let events ← restoredEvents P doc
      return { s with
        events := events.take 100
        nextEventId := max ((events.map Event.id).foldl max 0 + 1) 1 }]

/-- `_restore`. -/
def restoreItems (doc : Entries) (hold : Bool) (now : ℚ) : List (Item Error Live) :=
  restorePolicies P doc hold now ++ restoreDevices P doc ++ restorePlayers P doc ++
    restorePerformance P doc

namespace ShowState

/-- `ShowState(snapshot)`. -/
def load (clocks : Clocks) (snapshot : Value) : Except Error ShowState := do
  if ¬ snapshot.truthy then return initial clocks
  let (doc, report) ← migrateShowState P.toConversions snapshot
  let restored := run (restoreItems P doc true clocks.now) (Live.initial clocks.now)
  restored.2
  let notice : Live.Notice :=
    { category := "recovery", text := "Recovered persisted show state; transport held paused",
      payload := [] }
  return { toLive := restored.1.record clocks notice, overlay := doc, report }

def incomingRevision (doc : Entries) : Except Error Int := match doc.lookup "revision" with
  | some value => orRaise "replica state requires an integer revision" (P.int value)
  | none => .error (.valueError "replica state requires an integer revision")

def replicaDocument (snapshot : Value) : Except Error (Entries × CompatibilityReport × Int) := do
  if ¬ snapshot.isDict then throw (.valueError "unsupported replica show state")
  let (doc, report) ← migrateShowState P.toConversions snapshot
  return (doc, report, ← incomingRevision P doc)

def applyReplicaSnapshot (clocks : Clocks) (snapshot : Value) (s : ShowState) :
    ShowState × Except Failure Entries :=
  match replicaDocument P snapshot with
  | .error e => (s, .error (.raised e))
  | .ok (doc, report, incoming) =>
    if incoming < s.revision then
      (s, .error (.revisionConflict incoming s.revision "replica"))
    else
      let restored := run (restoreItems P doc false clocks.now) s.toLive
      let t : ShowState := { toLive := restored.1, overlay := doc, report }
      match restored.2 with
      | .error e => (t, .error (.raised e))
      | .ok _ => t.answer { notes := false, extensions := false } clocks.snapshot

def recordExternalEvent (clocks : Clocks) (category text : String) (payload : Entries)
    (s : ShowState) : ShowState :=
  let notice : Live.Notice := { category := clip 64 category, text := clip 240 text, payload }
  { s with toLive := s.toLive.record clocks notice }

end ShowState

end StageForge
