import StageForge.Library.Script
import StageForge.Library.Table
import StageForge.Show.Handoff

/-!
# Captured notes and their notation

`backend/notation.py`: the raw performance of each player and the view derived from it. A time of
the performance is a number of at least 0 that may be infinite, since JSON has such numbers.
-/

namespace StageForge

open Python Script

/-! ## Scripts that read an object -/

/-- `if key in data: …`, with `data[key]`. -/
def onKey {α : Type} (data : Value) (key : String) (f : Value → α → Except Error α) :
    Item Error α := fun a => do
  if ← data.contains key then f (← data.item key) a else return a

/-! ## Grids and pitches -/

/-- `QUANTIZE_GRIDS`. -/
inductive Grid
  | quarter
  | eighth
  | sixteenth
  | thirtySecond
  deriving DecidableEq

namespace Grid

def text : Grid → String
  | .quarter => "1/4"
  | .eighth => "1/8"
  | .sixteenth => "1/16"
  | .thirtySecond => "1/32"

def ofText? (s : String) : Option Grid :=
  if s = "1/4" then some .quarter else if s = "1/8" then some .eighth
  else if s = "1/16" then some .sixteenth else if s = "1/32" then some .thirtySecond else none

def step : Grid → ℚ
  | .quarter => 1
  | .eighth => 1 / 2
  | .sixteenth => 1 / 4
  | .thirtySecond => 1 / 8

@[simp] lemma ofText?_text (grid : Grid) : ofText? grid.text = some grid := by
  cases grid <;> decide

end Grid

def quantizeMessage : String := "quantize must be one of ['1/16', '1/32', '1/4', '1/8']"

/-- `quantize_beats`; `floor` raises for an infinite position. -/
def quantizeBeats (beats : WithTop ℚ) (grid : Grid) : Except Error ℚ := match beats with
  | ⊤ => .error .overflowError
  | (b : ℚ) => .ok (⌊max 0 b / grid.step + 1 / 2⌋ * grid.step)

def sharpNames : List String := ["C", "C#", "D", "D#", "E", "F", "F#", "G", "G#", "A", "A#", "B"]

def flatNames : List String := ["C", "Db", "D", "Eb", "E", "F", "Gb", "G", "Ab", "A", "Bb", "B"]

def flatKeys : List String := ["F", "Bb", "Eb", "Ab", "Db", "Gb", "Cb", "Fm", "Bbm", "Ebm", "Abm"]

structure PitchName where
  step : String
  octave : Int
  alter : Int
  deriving DecidableEq

def midiPitchName (pitch : Fin 128) (key : String) : PitchName :=
  let names := if key ∈ flatKeys ∨ 'b' ∈ key.toList then flatNames else sharpNames
  let token := (names.getD (pitch.val % 12) "C").toList
  { step := String.ofList (token.take 1)
    octave := pitch.val / 12 - 1
    alter := if token.length = 1 then 0 else if 'b' ∈ token then -1 else 1 }

/-! ## Settings -/

inductive NotationSource
  | midi
  | manual
  deriving DecidableEq

def NotationSource.text : NotationSource → String
  | .midi => "midi"
  | .manual => "manual"

/-- `NotationSettings`; `preserve_performance` is never anything but true. -/
structure NotationSettings where
  enabled : Bool
  source : NotationSource
  quantize : Grid
  spellByProjectKey : Bool
  deriving DecidableEq

namespace NotationSettings

def default : NotationSettings :=
  { enabled := true, source := .midi, quantize := .sixteenth, spellByProjectKey := true }

variable (C : Conversions)

def patch (data : Value) : List (Item Error NotationSettings) :=
  [onKey data "enabled" fun value settings => .ok { settings with enabled := value.truthy },
    onKey data "source" fun value settings =>
      let source := lower (strip (C.str value))
      if source = "midi" then .ok { settings with source := .midi }
      else if source = "manual" then .ok { settings with source := .manual }
      else .error (.valueError "notation source must be midi or manual"),
    onKey data "quantize" fun value settings =>
      match Grid.ofText? (strip (C.str value)) with
      | some grid => .ok { settings with quantize := grid }
      | none => .error (.valueError quantizeMessage),
    onKey data "preservePerformance" fun value settings =>
      if value.truthy then .ok settings
      else .error (.valueError "preservePerformance must remain true in notation v1"),
    onKey data "spellByProjectKey" fun value settings =>
      .ok { settings with spellByProjectKey := value.truthy }]

def toValue (settings : NotationSettings) : Value :=
  .dict [("enabled", .bool settings.enabled), ("source", .str settings.source.text),
    ("quantize", .str settings.quantize.text), ("preservePerformance", .bool true),
    ("spellByProjectKey", .bool settings.spellByProjectKey)]

end NotationSettings

/-! ## Notes -/

/-- `max(0.0, x)`. -/
def nonnegative : Number → WithTop ℚ
  | .finite q => (max 0 q : ℚ)
  | .inf => ⊤
  | _ => (0 : ℚ)

/-- `round(x, digits)` as a value. -/
def timeValue (x : WithTop ℚ) (digits : ℕ) : Value := match x with
  | ⊤ => .float .inf
  | (q : ℚ) => .float (.finite (round q digits))

structure CapturedNote where
  id : Int
  pitch : Fin 128
  velocity : Int
  rawStartSeconds : WithTop ℚ
  rawEndSeconds : WithTop ℚ
  rawStartBeats : WithTop ℚ
  rawDurationBeats : WithTop ℚ
  deriving DecidableEq

structure ActiveNote where
  id : Int
  pitch : Fin 128
  velocity : Int
  startSeconds : WithTop ℚ
  startBeat : WithTop ℚ
  deriving DecidableEq

/-- `NotationPart`. The active notes are in the order in which they started, those of all pitches
in one list. -/
structure NotationPart where
  playerId : String
  settings : NotationSettings
  notes : List CapturedNote
  active : List ActiveNote
  nextId : Int
  deriving DecidableEq

def beatAt (seconds : WithTop ℚ) (bpm : ℚ) : WithTop ℚ := seconds.map fun q => q * bpm / 60

/-- `max(0.0, end_beat - start_beat)`; the difference of infinite beats is nan. -/
def beatsBetween (startBeat endBeat : WithTop ℚ) : WithTop ℚ := match startBeat, endBeat with
  | (b : ℚ), (e : ℚ) => (max 0 (e - b) : ℚ)
  | (_ : ℚ), ⊤ => ⊤
  | ⊤, _ => (0 : ℚ)

/-- The last `n` items of a list. -/
def lastOf {α : Type} (n : ℕ) (items : List α) : List α := items.drop (items.length - n)

def pitchOf (n : Int) : Option (Fin 128) :=
  if h : 0 ≤ n ∧ n < 128 then some ⟨n.toNat, by omega⟩ else none

namespace NotationPart

def new (playerId : String) : NotationPart :=
  { playerId, settings := .default, notes := [], active := [], nextId := 1 }

variable (C : Conversions)

def noteOn (part : NotationPart) (pitch velocity : Int) (seconds : WithTop ℚ) (bpm : ℚ) :
    Except Error NotationPart :=
  match pitchOf pitch with
  | none => .error (.valueError "pitch must be 0..127")
  | some pitch => do
    let velocity ← C.floatIn 1 127 (by norm_num) (.int velocity)
    let start := max 0 seconds
    let note : ActiveNote :=
      { id := part.nextId, pitch, velocity := ⌊velocity.val⌋, startSeconds := start,
        startBeat := beatAt start bpm }
    return { part with nextId := part.nextId + 1, active := part.active ++ [note] }

/-- The order in which captured notes are kept. -/
def Before (n m : CapturedNote) : Prop :=
  n.rawStartSeconds < m.rawStartSeconds ∨ n.rawStartSeconds = m.rawStartSeconds ∧ n.id ≤ m.id

instance : DecidableRel Before := fun _ _ => inferInstanceAs (Decidable (_ ∨ _))

/-- `note_off`: the oldest active note of the pitch ends. -/
def noteOff (part : NotationPart) (pitch : Int) (seconds : WithTop ℚ) (bpm : ℚ) :
    Except Error NotationPart :=
  match pitchOf pitch with
  | none => .error (.valueError "pitch must be 0..127")
  | some p =>
    match part.active.find? fun note => note.pitch = p with
    | none => .error (.valueError ("no active note for pitch " ++ toString pitch))
    | some note =>
      let ending := max note.startSeconds seconds
      let captured : CapturedNote :=
        { id := note.id, pitch := p, velocity := note.velocity,
          rawStartSeconds := note.startSeconds, rawEndSeconds := ending,
          rawStartBeats := note.startBeat,
          rawDurationBeats := beatsBetween note.startBeat (beatAt ending bpm) }
      .ok { part with
        active := part.active.eraseP fun note => note.pitch = p
        notes := lastOf 4096 ((part.notes ++ [captured]).insertionSort Before) }

def note (part : NotationPart) (action : String) (pitch velocity : Int) (seconds : WithTop ℚ)
    (bpm : ℚ) : Except Error NotationPart :=
  if action = "on" then part.noteOn C pitch velocity seconds bpm
  else if action = "off" then part.noteOff pitch seconds bpm
  else .error (.valueError "notation note action must be on or off")

def clear (part : NotationPart) : NotationPart :=
  { part with notes := [], active := [], nextId := 1 }

/-! ## The derived view -/

/-- One entry of `derived_notes`. -/
def derivedNote (part : NotationPart) (key : String) (n : CapturedNote) : Except Error Value := do
  let grid := part.settings.quantize
  let start ← quantizeBeats n.rawStartBeats grid
  let duration ← quantizeBeats n.rawDurationBeats grid
  let name := midiPitchName n.pitch (if part.settings.spellByProjectKey then key else "C")
  let sign := if name.alter > 0 then "#" else if name.alter < 0 then "b" else ""
  return .dict [("id", .int n.id), ("pitch", .int n.pitch.val), ("velocity", .int n.velocity),
    ("rawStartSeconds", timeValue n.rawStartSeconds 6),
    ("rawEndSeconds", timeValue n.rawEndSeconds 6), ("rawStartBeats", timeValue n.rawStartBeats 6),
    ("rawDurationBeats", timeValue n.rawDurationBeats 6), ("startBeats", timeValue (start : ℚ) 6),
    ("durationBeats", timeValue (max grid.step duration : ℚ) 6), ("step", .str name.step),
    ("alter", .int name.alter), ("octave", .int name.octave),
    ("name", .str (name.step ++ sign ++ toString name.octave))]

def derivedNotes (part : NotationPart) (key : String) : Except Error (List Value) :=
  part.notes.mapM (part.derivedNote key)

/-- One entry of `rawNotes`. -/
def rawNote (n : CapturedNote) : Value :=
  .dict [("id", .int n.id), ("pitch", .int n.pitch.val), ("velocity", .int n.velocity),
    ("rawStartSeconds", timeValue n.rawStartSeconds 6),
    ("rawEndSeconds", timeValue n.rawEndSeconds 6), ("rawStartBeats", timeValue n.rawStartBeats 6),
    ("rawDurationBeats", timeValue n.rawDurationBeats 6)]

/-- The fields of `NotationPart.snapshot`, from the derived notes. -/
def fields (part : NotationPart) (includeRaw : Bool) (derived : List Value) : Entries :=
  [("playerId", .str part.playerId), ("settings", part.settings.toValue),
    ("activeNotes", .int part.active.length), ("rawNoteCount", .int part.notes.length),
    ("notes", .list derived)] ++
  (if includeRaw then [("rawNotes", .list (part.notes.map rawNote))] else [])

def snapshot (part : NotationPart) (key : String) (includeRaw : Bool) (noteLimit : Option ℕ) :
    Except Error Entries := do
  let derived ← part.derivedNotes key
  return part.fields includeRaw (match noteLimit with
    | some limit => lastOf limit derived
    | none => derived)

/-- Each captured note has a beginning and an end. -/
def Readable (part : NotationPart) : Prop :=
  ∀ n ∈ part.notes, n.rawStartBeats ≠ ⊤ ∧ n.rawDurationBeats ≠ ⊤

instance (part : NotationPart) : Decidable part.Readable :=
  inferInstanceAs (Decidable (∀ n ∈ part.notes, _))

lemma quantizeBeats_ok_iff {beats : WithTop ℚ} {grid : Grid} :
    (∃ b, quantizeBeats beats grid = .ok b) ↔ beats ≠ ⊤ := by
  induction beats using WithTop.recTopCoe with
  | top => simp [quantizeBeats]
  | coe b => simp [quantizeBeats]

lemma derivedNote_ok_iff {part : NotationPart} {key : String} {n : CapturedNote} :
    (∃ v, part.derivedNote key n = .ok v) ↔ n.rawStartBeats ≠ ⊤ ∧ n.rawDurationBeats ≠ ⊤ := by
  have hgrid := fun beats => @quantizeBeats_ok_iff beats part.settings.quantize
  rw [← hgrid, ← hgrid]
  unfold derivedNote
  simp only [bind_eq_ok, pure, Except.pure, Except.ok.injEq]
  constructor
  · rintro ⟨_, start, hstart, duration, hduration, -⟩
    exact ⟨⟨start, hstart⟩, duration, hduration⟩
  · rintro ⟨⟨start, hstart⟩, duration, hduration⟩
    exact ⟨_, start, hstart, duration, hduration, rfl⟩

/-- **A part can be shown if its notes begin and end.** -/
lemma snapshot_ok_iff {part : NotationPart} {key : String} {includeRaw : Bool}
    {noteLimit : Option ℕ} :
    (∃ v, part.snapshot key includeRaw noteLimit = .ok v) ↔ part.Readable := by
  have hderived : (∃ vs, part.derivedNotes key = .ok vs) ↔ part.Readable := by
    unfold derivedNotes Readable
    rw [exists_mapM_eq_ok]
    simp only [derivedNote_ok_iff]
  rw [← hderived]
  unfold snapshot
  cases part.derivedNotes key with
  | error e => simp [bind, Except.bind]
  | ok vs => simp [bind, Except.bind, pure, Except.pure]

/-! ## Restoring -/

/-- One note of `rawNotes`; none if it is malformed. -/
def restoredNote (raw : Value) : Except Error (Option CapturedNote) :=
  let parsed : Except Error (Option CapturedNote) := do
    let id ← C.int (← raw.item "id")
    let pitch ← C.int (← raw.item "pitch")
    let velocity ← C.int (← raw.get "velocity" (.int 100))
    let startSeconds ← C.float (← raw.item "rawStartSeconds")
    let endSeconds ← C.float (← raw.item "rawEndSeconds")
    let startBeats ← C.float (← raw.get "rawStartBeats" (.float (.finite 0)))
    let durationBeats ← C.float (← raw.get "rawDurationBeats" (.float (.finite 0)))
    match pitchOf pitch with
    | some pitch =>
      if nonnegative startSeconds ≤ nonnegative endSeconds then
        return some
          { id := max 1 id, pitch, velocity, rawStartSeconds := nonnegative startSeconds,
            rawEndSeconds := nonnegative endSeconds, rawStartBeats := nonnegative startBeats,
            rawDurationBeats := nonnegative durationBeats }
      else return none
    | none => return none
  match parsed with
  | .error (.keyError _) => .ok none
  | result => orDefault none result

/-- `NotationPart._restore`: the settings, then the notes that are well formed. -/
def restore (playerId : String) (raw : Value) : Except Error NotationPart := do
  if ¬ raw.truthy then return new playerId
  let patched := run (NotationSettings.patch C ((← raw.get "settings" .none).orElse (.dict [])))
    .default
  patched.2
  let rawNotes ← ((← raw.get "rawNotes" .none).orElse (.list [])).iterate
  let notes := (← rawNotes.mapM (restoredNote C)).filterMap id
  let highest := (notes.map CapturedNote.id).foldl max 0
  return { playerId, settings := patched.1, notes, active := [], nextId := highest + 1 }

end NotationPart

/-! ## Registry -/

abbrev NotationRegistry := Dict String NotationPart

namespace NotationRegistry

/-- The part of a player; a new one if there is none yet. -/
def part (registry : NotationRegistry) (playerId : String) : NotationPart :=
  (registry.get? playerId).getD (.new playerId)

def ensure (registry : NotationRegistry) (playerId : String) : NotationRegistry :=
  if (registry.get? playerId).isSome then registry else registry.set playerId (.new playerId)

def snapshot (registry : NotationRegistry) (key : String) (includeRaw : Bool)
    (noteLimit : Option ℕ) : Except Error Entries :=
  registry.rows.mapM fun entry => do
    return (entry.1, .dict (← entry.2.snapshot key includeRaw noteLimit))

def Readable (registry : NotationRegistry) : Prop := ∀ entry ∈ registry.rows, entry.2.Readable

instance (registry : NotationRegistry) : Decidable registry.Readable :=
  inferInstanceAs (Decidable (∀ entry ∈ registry.rows, _))

lemma Readable.part {registry : NotationRegistry} (h : registry.Readable) (playerId : String) :
    (registry.part playerId).Readable := by
  unfold NotationRegistry.part Dict.get?
  cases hfind : Table.find? registry playerId with
  | none => simp [NotationPart.new, NotationPart.Readable]
  | some entry => exact h entry (Table.find?_eq_some.mp hfind).1

lemma snapshot_ok_iff {registry : NotationRegistry} {key : String} {includeRaw : Bool}
    {noteLimit : Option ℕ} :
    (∃ v, registry.snapshot key includeRaw noteLimit = .ok v) ↔ registry.Readable := by
  unfold snapshot Readable
  rw [exists_mapM_eq_ok]
  refine forall₂_congr fun entry _ => ?_
  rw [← NotationPart.snapshot_ok_iff]
  simp only [bind_eq_ok, pure, Except.pure, Except.ok.injEq]
  constructor
  · rintro ⟨_, fields, hfields, -⟩
    exact ⟨fields, hfields⟩
  · rintro ⟨fields, hfields⟩
    exact ⟨_, fields, hfields, rfl⟩

end NotationRegistry

end StageForge
