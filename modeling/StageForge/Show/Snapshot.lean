import StageForge.Show.State

/-!
# Snapshots and the documents they come from

`snapshot` of `backend/state.py` and the document functions of `backend/compatibility.py`: reading
and migrating a document, and laying the current values over the document that was read, so that
fields this core does not know stay in it.
-/

namespace StageForge

open Python

/-! ## The merge -/

mutual

def mergePreservingUnknown : Value → Value → Value
  | .dict base, .dict current => .dict (mergeEntries base current)
  | _, current => current

/-- The loop of `merge_preserving_unknown` over the current entries. -/
def mergeEntries : Entries → Entries → Entries
  | merged, [] => merged
  | merged, (key, value) :: rest =>
    let placed := match merged.lookup key with
      | some old => mergePreservingUnknown old value
      | none => value
    mergeEntries (setItem key placed merged) rest

end

/-! ## Reading a document -/

def showStateDocumentType : String := "org.upp.show-state"

variable (C : Conversions)

def asInt (value : Value) (fallback : Int) : Except Error Int := orDefault fallback (C.int value)

def compatibilityMetadata (sourceApiVersion : Option Int) (migrations : List String) : Entries :=
  [("documentType", .str showStateDocumentType), ("schemaVersion", .int 1),
    ("minimumReaderApiVersion", .int 1), ("unknownFieldsPreserved", .bool true)] ++
  (match sourceApiVersion with
    | some n => if n ≠ 1 then [("sourceApiVersion", .int n)] else []
    | none => []) ++
  (if migrations ≠ [] then [("migrations", .list (migrations.map .str))] else [])

/-- `inspect_show_state` of an object; an unreadable one raises with the reason. -/
def inspectShowState (doc : Entries) : Except Error CompatibilityReport := do
  let incoming ← asInt C (doc.get "apiVersion" (.int 0)) 0
  let metadata := (doc.get "compatibility" .none).entries
  let fallback := if incoming > 0 then incoming else 1
  let minimumReader ←
    asInt C (Entries.get metadata "minimumReaderApiVersion" (.int fallback)) fallback
  let documentType := C.str (Entries.get metadata "documentType" (.str showStateDocumentType))
  let report := fun mode : ReaderMode =>
    { mode, incomingApiVersion := incoming, minimumReaderApiVersion := minimumReader,
      migrations := [] : CompatibilityReport }
  if documentType ≠ showStateDocumentType then
    throw (.valueError ("unsupported document type: " ++ documentType))
  if incoming ≤ 0 then return report .legacyMigration
  if minimumReader > 1 then
    throw (.valueError ("document requires reader API " ++ toString minimumReader ++
      ", this core supports 1"))
  return report (if incoming = 1 then .exact else .forwardCompatible)

/-- The sections of a document of version 0 with the fields that have another name there. -/
def renamedFields : List (String × String × String) :=
  [("transport", "tempo", "bpm"), ("transport", "positionSeconds", "seconds"),
    ("system", "resourceCapacity", "capacity"), ("audio", "outputDeviceId", "deviceId")]

/-- One migration: a field gets its present name, unless it has a value under that already. -/
def renameField (doc : Entries × List String) (field : String × String × String) :
    Entries × List String :=
  let (label, old, new) := field
  let fields : Entries := (doc.1.get label .none).entries
  match fields.lookup old, fields.lookup new with
  | some value, none =>
    (setItem label (.dict (setItem new value fields)) doc.1,
      doc.2 ++ [label ++ "." ++ old ++ "->" ++ label ++ "." ++ new])
  | _, _ => doc

def migrateShowState (value : Value) : Except Error (Entries × CompatibilityReport) := do
  match value with
  | .dict doc =>
    let report ← inspectShowState C doc
    let incoming := report.incomingApiVersion
    let (doc, migrations) := if incoming ≤ 0 then renamedFields.foldl renameField (doc, [])
      else (doc, [])
    let known : Entries := (doc.get "compatibility" .none).entries
    let metadata := update known (compatibilityMetadata (some incoming) migrations)
    let metadata ← if incoming > 1 then do
        let declared ← asInt C (known.get "minimumReaderApiVersion" (.int 1)) 1
        pure (setItem "sourceApiVersion" (.int incoming)
          (setItem "minimumReaderApiVersion" (.int (min declared 1)) metadata))
      else pure metadata
    let doc := setItem "compatibility" (.dict metadata) (setItem "apiVersion" (.int 1) doc)
    return (doc, { report with migrations })
  | _ => throw (.valueError "show state must be an object")

/-! ## The current values -/

def floatValue (q : ℚ) : Value := .float (.finite q)

def Route.toValue (route : Route) : Value :=
  .dict [("output", .int route.output), ("gain", floatValue route.gain)]

def AudioInput.toValue (slot : Fin 4) (input : AudioInput) : Value :=
  .dict [("slot", .int slot.val), ("deviceId", .str input.deviceId), ("playerId", .str input.playerId),
    ("sampleRate", floatValue input.sampleRate), ("route", input.route.toValue)]

def DriftCompensation.toValue (drift : DriftCompensation) : Value :=
  .dict [("enabled", .bool drift.enabled), ("maxCorrectionPpm", floatValue drift.maxCorrectionPpm),
    ("queueGainPpm", floatValue drift.queueGainPpm)]

def AudioOutput.toValue (slot : Fin 4) (output : AudioOutput) : Value :=
  .dict [("slot", .int slot.val), ("deviceId", .str output.deviceId),
    ("purpose", .str output.purpose.text), ("playerId", .str output.playerId),
    ("graphOutput", .int output.graphOutput), ("master", floatValue output.master),
    ("limiterCeilingDb", floatValue output.limiterCeilingDb),
    ("driftCompensation", output.driftCompensation.toValue)]

def MonitorMix.toValue (mix : MonitorMix) : Value :=
  .dict (MonitorKey.all.map (fun key => (key.text, floatValue (mix.level key))) ++
    [("muted", .bool mix.muted), ("output", .str mix.output)])

def Player.toValue (player : Player) : Value :=
  .dict [("id", .str player.id), ("name", .str player.name), ("role", .str player.role),
    ("monitor", player.monitor.toValue), ("mode", .str player.mode),
    ("available", .bool player.available)]

def dictValue {α : Type} (value : α → Value) (d : Dict String α) : Value :=
  .dict (d.rows.map fun entry => (entry.1, value entry.2))

/-- How much of the state a snapshot shows: all notes and all MIDI activity, and the technology
extensions. -/
structure Detail where
  notes : Bool
  extensions : Bool
  deriving DecidableEq

def Transport.toValue (transport : Transport) (song : Song) (now : ℚ) : Value :=
  .dict [("running", .bool transport.running),
    ("seconds", floatValue (round (transport.clockSeconds now) 3)), ("bpm", floatValue song.bpm),
    ("key", .str song.key)]

def System.toValue (system : System) : Value :=
  .dict [("capacity", floatValue system.capacity), ("mode", .str system.mode.text),
    ("quality", .int system.qualityScore), ("venue", .str system.venue),
    ("productionManager", .str system.productionManager)]

def Audio.toValue (audio : Audio) : Value :=
  .dict [("deviceId", .str audio.deviceId), ("inputDeviceId", .str audio.inputDeviceId),
    ("inputPlayerId", .str audio.inputPlayerId), ("inputRoute", audio.inputRoute.toValue),
    ("inputs", .list ((List.finRange 4).map fun slot => (audio.inputs slot).toValue slot)),
    ("outputs", .list ((List.finRange 4).map fun slot => (audio.outputs slot).toValue slot)),
    ("sampleRate", floatValue audio.sampleRate), ("engineSampleRate", floatValue 192000),
    ("engineSampleFormat", .str "float32"), ("bufferFrames", .int audio.bufferFrames),
    ("limiterCeilingDb", floatValue audio.limiterCeilingDb)]

def Handoff.toValue (handoff : Handoff) : Value :=
  .dict [("policy", .dict handoff.policy.toEntries), ("liveInputs", liveInputsValue handoff.liveInputs),
    ("deterministicSources", .list (handoff.deterministicSources.map (·.toValue)))]

def Technology.toValue (technology : Technology) (extensions : Bool) : Value :=
  .dict ([("policy", .dict technology.policy),
    ("ecosystemParticipants", .int technology.ecosystemParticipants),
    ("extensionCount", .int technology.extensions.length)] ++
    if extensions then [("extensions", .list (technology.extensions.map .dict))] else [])

def Lighting.toValue (lighting : Lighting) : Value :=
  .dict [("network", .dict [("protocol", .str lighting.protocol.text),
    ("target", .str lighting.target), ("port", .int lighting.port),
    ("universeBase", .int lighting.universeBase), ("armed", .bool false)])]

namespace Live

def midiValue (s : Live) (detail : Bool) : Value :=
  .dict [("bindings", dictValue .str s.midiBindings), ("received", .int s.midi.received),
    ("activity", .list ((lastOf (if detail then 512 else 16) s.midi.activity).map .dict))]

/-- The document of the current values, from the parts of the notation. -/
def document (s : Live) (detail : Detail) (now : ℚ) (parts : Entries) : Entries :=
  [("apiVersion", .int 1), ("compatibility", .dict (compatibilityMetadata none [])),
    ("revision", .int s.revision), ("resourceRevisions", dictValue .int s.resourceRevisions),
    ("transport", s.transport.toValue s.song now), ("system", s.system.toValue),
    ("audio", s.audio.toValue), ("handoff", s.handoff.toValue),
    ("technology", s.technology.toValue detail.extensions), ("lighting", s.lighting.toValue),
    ("players", .list (s.players.rows.map Player.toValue)), ("midi", s.midiValue detail.notes),
    ("notation", .dict parts), ("events", .list (s.events.map fun event => .dict event.fields))]

def parts (s : Live) (detail : Bool) : Except Error Entries :=
  s.notationRegistry.snapshot s.song.key detail (if detail then none else some 16)

/-- What `snapshot` generates before the merge. -/
def generated (s : Live) (detail : Detail) (now : ℚ) : Except Error Entries :=
  (s.parts detail.notes).map (s.document detail now)

lemma generated_ok_iff {s : Live} {detail : Detail} {now : ℚ} :
    (∃ doc, s.generated detail now = .ok doc) ↔ s.notationRegistry.Readable := by
  rw [← NotationRegistry.snapshot_ok_iff]
  unfold generated parts
  cases s.notationRegistry.snapshot s.song.key detail.notes
      (if detail.notes then none else some 16) with
  | error e => simp [Except.map]
  | ok parts => simp [Except.map]

end Live

/-! ## Snapshots -/

/-- What `snapshot` does with the merged document: the version and the compatibility fields. -/
def labelled (report : CompatibilityReport) (merged : Entries) : Entries :=
  let forward := report.mode = .forwardCompatible
  let version := if forward then report.incomingApiVersion else 1
  let metadata := update (merged.get "compatibility" .none).entries (compatibilityMetadata none [])
  let metadata := if forward then
      setItem "sourceApiVersion" (.int report.incomingApiVersion) metadata
    else metadata
  let metadata := if report.migrations ≠ [] then
      setItem "migrations" (.list (report.migrations.map .str)) metadata
    else metadata
  setItem "compatibility" (.dict metadata) (setItem "apiVersion" (.int (max 1 version)) merged)

namespace ShowState

def snapshot (s : ShowState) (detail : Detail) (now : ℚ) : Except Error Entries :=
  (s.generated detail now).map fun doc => labelled s.report (mergeEntries s.overlay doc)

def persistenceSnapshot (s : ShowState) (now : ℚ) : Except Error Entries :=
  s.snapshot { notes := true, extensions := true } now

variable {s : ShowState} {detail : Detail} {now : ℚ}

/-- **A snapshot is made if each captured note begins and ends.** -/
lemma snapshot_ok_iff :
    (∃ doc, s.snapshot detail now = .ok doc) ↔ s.notationRegistry.Readable := by
  rw [← Live.generated_ok_iff (s := s.toLive)]
  unfold snapshot
  cases s.generated detail now with
  | error e => simp [Except.map]
  | ok doc => simp [Except.map]

/-- What a call returns at last: the snapshot of the state, if it can be made. -/
def answer (s : ShowState) (detail : Detail) (now : ℚ) : ShowState × Except Failure Entries :=
  (s, match s.snapshot detail now with
    | .error e => .error (.raised e)
    | .ok doc => .ok doc)

@[simp] lemma answer_fst :
    (s.answer detail now).1 = s := rfl

lemma answer_ok_iff :
    (∃ doc, (s.answer detail now).2 = .ok doc) ↔ s.notationRegistry.Readable := by
  rw [← snapshot_ok_iff (s := s)]
  unfold answer
  cases s.snapshot detail now with
  | error e => simp
  | ok doc => simp

lemma answer_error_iff :
    (∃ failure, (s.answer detail now).2 = .error failure) ↔ ¬ s.notationRegistry.Readable := by
  rw [← answer_ok_iff (s := s)]
  cases (s.answer detail now).2 with
  | error e => simp
  | ok doc => simp

end ShowState

end StageForge
