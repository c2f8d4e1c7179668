import StageForge.Show.AudioCalls

/-!
# Calls about a player

The calls of `backend/state.py` that name a player: the monitor mix, the notation of the part and
its notes, and incoming MIDI. `Mutator` lists all mutators.

The registry makes the part of a player when it is first asked for it, also if only to read it.
-/

namespace StageForge

open Python Script

variable (P : Platform)

def playerItem {α : Type} (c : Content) (playerId : String) : Item Error (Draft α) := fun d =>
  if c.players.find? playerId = none then .error (.keyError playerId) else .ok d

/-! ## Monitor -/

def MonitorMix.patch (C : Conversions) (data : Value) : List (Item Error MonitorMix) :=
  (MonitorKey.all.map fun key =>
    onKey data key.text fun value mix => do
      let level ← C.floatIn 0 100 le_percent value
      return { mix with level := Function.update mix.level key level }) ++
  [onKey data "muted" fun value mix => .ok { mix with muted := value.truthy },
    onKey data "output" fun value mix =>
      let output := strip (C.str value)
      .ok (if output = "" then mix else { mix with output := clip 64 output })]

def playersFocus : Focus (Table Player.id) where
  get c := c.players
  set a c := { c with players := a }
  get_set _ _ := rfl
  set_get := Content.eta

def monitorItem (playerId : String) (item : Item Error MonitorMix) :
    Item Error (Draft (Table Player.id)) := fun d =>
  match d.value.find? playerId with
  | none => .error (.keyError playerId)
  | some player =>
    (item player.monitor).map fun monitor =>
      { d with value := d.value.put { player with monitor } }

def monitorFields : List String :=
  ["ambient", "band", "click", "master", "muted", "output", "self", "talkback", "vocals"]

def patchMonitor (playerId : String) (data : Entries) : Call where
  State := Table Player.id
  key := .monitor playerId
  focus := playersFocus
  items c := playerItem c playerId ::
    (MonitorMix.patch P.toConversions (.dict data)).map (monitorItem playerId)
  touches _ := [.monitor playerId]
  notice _ c := .ok
    { category := "monitor",
      text := playerName c playerId ++ " personal monitor updated; FOH unchanged",
      payload := [("playerId", .str playerId),
        ("fields", .list ((monitorFields.filter fun key => (data.lookup key).isSome).map .str))] }

/-! ## Notation -/

def registryFocus : Focus NotationRegistry where
  get c := c.notationRegistry
  set a c := { c with notationRegistry := a }
  get_set _ _ := rfl
  set_get := Content.eta

/-- The item that makes the part if there is none. -/
def ensureItem (playerId : String) : Item Error (Draft NotationRegistry) := fun d =>
  .ok { d with value := d.value.ensure playerId }

def settingsItem (playerId : String) (item : Item Error NotationSettings) :
    Item Error (Draft NotationRegistry) := fun d =>
  let part := d.value.part playerId
  (item part.settings).map fun settings =>
    { d with value := d.value.set playerId { part with settings } }

/-- The notice of new settings, which shows the part. -/
def settingsNotice (playerId : String) (c : Content) : Except Error Live.Notice := do
  let shown ← (c.notationRegistry.part playerId).snapshot c.song.key true none
  return {
    category := "notation"
    text := playerName c playerId ++ " notation settings updated; performance capture preserved"
    payload := [("playerId", .str playerId), ("settings", shown.get "settings" .none)] }

def patchNotationSettings (playerId : String) (data : Entries) : Call where
  State := NotationRegistry
  key := .notationPart playerId
  focus := registryFocus
  items c := [playerItem c playerId, ensureItem playerId] ++
    (NotationSettings.patch P.toConversions (.dict data)).map (settingsItem playerId)
  touches _ := [.notationPart playerId]
  notice _ := settingsNotice playerId

/-- The time that a message names: the clock if it names none. -/
def showTime (C : Conversions) (data : Entries) (clock : ℚ) : Except Error (WithTop ℚ) :=
  match data.get "showTimeSeconds" .none with
  | .none => .ok clock
  | value => (C.float value).map nonnegative

/-- The action, pitch and velocity of a note. -/
structure NoteData where
  action : String
  pitch : Int
  velocity : Int

/-- What `notation_note` reads of its data. -/
def noteData (C : Conversions) (data : Entries) : Except Error NoteData := do
  match data.lookup "pitch" with
  | none => throw (.valueError "pitch is required")
  | some value =>
    let pitch ← C.int value
    let velocity ← C.int (data.get "velocity" (.int 100))
    return { action := lower (strip (C.str (data.get "action" (.str "")))), pitch, velocity }

def noteItem (c : Content) (clocks : Clocks) (playerId : String) (data : Entries) :
    Item Error (Draft NotationRegistry) := fun d => do
  let part := d.value.part playerId
  let _ ← part.snapshot c.song.key true none
  if ¬ part.settings.enabled then return d
  let note ← noteData P.toConversions data
  let seconds ← showTime P.toConversions data (c.transport.clockSeconds clocks.now)
  let played ← part.note P.toConversions note.action note.pitch note.velocity seconds c.song.bpm
  return d.assign (d.value.set playerId played) "note"

def noteNotice (playerId : String) (data : Entries) (c : Content) : Except Error Live.Notice := do
  let note ← noteData P.toConversions data
  return {
    category := "notation"
    text := playerName c playerId ++ " note " ++ note.action ++ " captured for auto notation"
    payload := [("playerId", .str playerId), ("action", .str note.action),
      ("pitch", .int note.pitch), ("velocity", .int note.velocity)] }

def notationNote (clocks : Clocks) (playerId : String) (data : Entries) : Call where
  State := NotationRegistry
  key := .notationPart playerId
  focus := registryFocus
  items c := [playerItem c playerId, ensureItem playerId, noteItem P c clocks playerId data]
  touches := touchIfChanged (.notationPart playerId)
  notice _ := noteNotice P playerId data

def clearNotation (playerId : String) : Call where
  State := NotationRegistry
  key := .notationPart playerId
  focus := registryFocus
  items c := [playerItem c playerId, fun d =>
    .ok { d with value := d.value.set playerId (d.value.part playerId).clear }]
  touches _ := [.notationPart playerId]
  notice _ c := .ok
    { category := "notation", text := playerName c playerId ++ " notation capture cleared",
      payload := [("playerId", .str playerId)] }

/-! ## MIDI -/

structure MidiMessage where
  status : Int
  data1 : Int
  data2 : Int
  seconds : WithTop ℚ
  deviceId : String

/-- What `ingest_midi` reads of its data. -/
def midiMessage (C : Conversions) (data : Entries) (clock : ℚ) : Except Error MidiMessage := do
  let message := "MIDI input requires integer status, data1 and optional data2"
  let required := fun key : String => match data.lookup key with
    | some value => orRaise message (C.int value)
    | none => .error (.valueError message)
  let status ← required "status"
  let data1 ← required "data1"
  let data2 ← orRaise message (C.int (data.get "data2" (.int 0)))
  if ¬ (0 ≤ status ∧ status ≤ 255 ∧ 0 ≤ data1 ∧ data1 ≤ 127 ∧ 0 ≤ data2 ∧ data2 ≤ 127) then
    throw (.valueError "MIDI bytes out of range")
  let seconds ← showTime C data clock
  let deviceId := textOrElse (clippedText C 96 (data.get "deviceId" (.str "direct"))) "direct"
  return { status, data1, data2, seconds, deviceId }

namespace MidiMessage

/-- The note action of a message: note on with a velocity, note off, or neither. -/
def action? (m : MidiMessage) : Option String := let kind := m.status / 16
  if kind = 9 ∧ 0 < m.data2 then some "on"
  else if kind = 8 ∨ kind = 9 then some "off"
  else none

def activity (m : MidiMessage) (playerId : String) (observed : Bool) : Entries :=
  [("playerId", .str playerId), ("deviceId", .str m.deviceId),
    ("showTimeSeconds", timeValue m.seconds 6), ("status", .int m.status),
    ("channel", if m.status < 240 then .int (m.status % 16 + 1) else .none),
    ("data1", .int m.data1), ("data2", .int m.data2), ("notationObserved", .bool observed)]

end MidiMessage

/-- The journal and the notation, which observes it. -/
def midiFocus : Focus (MidiJournal × NotationRegistry) where
  get c := (c.midi, c.notationRegistry)
  set a c := { c with midi := a.1, notationRegistry := a.2 }
  get_set _ _ := rfl
  set_get := Content.eta

def ensureNoteItem (playerId : String) (m : MidiMessage) :
    Item Error (Draft (MidiJournal × NotationRegistry)) := fun d =>
  .ok (if m.action? = none then d
    else { d with value := (d.value.1, d.value.2.ensure playerId) })

/-- The notation observes a note if the part is enabled, and then reports a change. -/
def observeItem (c : Content) (playerId : String) (m : MidiMessage) :
    Item Error (Draft (MidiJournal × NotationRegistry)) := fun d =>
  match m.action? with
  | none => .ok d
  | some action => do
    let part := d.value.2.part playerId
    let _ ← part.snapshot c.song.key true none
    if ¬ part.settings.enabled then return d
    let velocity := if action = "on" then max 1 m.data2 else 0
    let played ← part.note P.toConversions action m.data1 velocity m.seconds c.song.bpm
    return d.assign (d.value.1, d.value.2.set playerId played) action

def journalItem (playerId : String) (m : MidiMessage) :
    Item Error (Draft (MidiJournal × NotationRegistry)) := fun d =>
  let journal : MidiJournal :=
    { received := d.value.1.received + 1
      activity := lastOf 512 (d.value.1.activity ++ [m.activity playerId (d.changes ≠ [])]) }
  .ok { d with value := (journal, d.value.2) }

def ingestMidi (clocks : Clocks) (playerId : String) (data : Entries) : Call where
  State := MidiJournal × NotationRegistry
  key := .midi playerId
  focus := midiFocus
  items c := playerItem c playerId ::
    match midiMessage P.toConversions data (c.transport.clockSeconds clocks.now) with
    | .error e => [fun _ => .error e]
    | .ok m => [ensureNoteItem playerId m, observeItem P c playerId m, journalItem playerId m]
  touches d := .midi playerId :: if d.changes = [] then [] else [.notationPart playerId]
  notice d c := .ok
    { category := "midi"
      text := playerName c playerId ++ " MIDI input received" ++
        (if d.changes = [] then ""
          else "; auto notation observed note " ++ ", ".intercalate d.changes)
      payload := d.value.1.activity.getLast?.getD [] }

/-! ## All mutators -/

/-- The mutators with their arguments, apart from the expected revisions. -/
inductive Mutator
  | transport (action : String)
  | patchShow (data : Entries)
  | patchSystem (data : Entries)
  | patchHandoff (data : Entries)
  | patchTechnology (data : Entries)
  | patchAudio (data : Entries)
  | patchLightingNetwork (data : Entries)
  | patchMonitor (playerId : String) (data : Entries)
  | bindMidiDevice (deviceId playerId : String)
  | unbindMidiDevice (deviceId : String)
  | patchNotationSettings (playerId : String) (data : Entries)
  | notationNote (playerId : String) (data : Entries)
  | clearNotation (playerId : String)
  | ingestMidi (playerId : String) (data : Entries)

def Mutator.call (clocks : Clocks) : Mutator → Call
  | .transport action => transportCall clocks action
  | .patchShow data => StageForge.patchShow P data
  | .patchSystem data => StageForge.patchSystem P data
  | .patchHandoff data => StageForge.patchHandoff P data
  | .patchTechnology data => StageForge.patchTechnology P data
  | .patchAudio data => StageForge.patchAudio P data
  | .patchLightingNetwork data => StageForge.patchLightingNetwork P data
  | .patchMonitor playerId data => StageForge.patchMonitor P playerId data
  | .bindMidiDevice deviceId playerId => StageForge.bindMidiDevice deviceId playerId
  | .unbindMidiDevice deviceId => StageForge.unbindMidiDevice deviceId
  | .patchNotationSettings playerId data => StageForge.patchNotationSettings P playerId data
  | .notationNote playerId data => StageForge.notationNote P clocks playerId data
  | .clearNotation playerId => StageForge.clearNotation playerId
  | .ingestMidi playerId data => StageForge.ingestMidi P clocks playerId data

end StageForge
