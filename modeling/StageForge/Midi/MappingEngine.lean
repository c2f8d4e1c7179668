import StageForge.Show.Runs

/-!
# The MIDI mapping engine

`MidiMappingEngine` of `backend/midi_mapping.py`: a gesture of a device is learned as the source of a mapping,
and a mapping turns later messages of its source into actions that wait until the show time they are quantized
to. A stored mapping is one that the engine has learned and saved.
-/

namespace StageForge

open Python

/-- What `_message` says a message is. -/
inductive MidiGesture
  | note
  | noteOff
  | cc
  | pitchBend
  | program
  | other
  deriving DecidableEq

structure MidiBytes where
  status : ℕ
  data1 : ℕ
  data2 : ℕ
  deriving DecidableEq

namespace MidiBytes

/-- `_message`: what the message is, with its number and its value. -/
def gesture (b : MidiBytes) : MidiGesture × ℕ × ℕ := let high := b.status / 16
  if high = 9 ∧ 0 < b.data2 then (.note, b.data1, b.data2)
  else if high = 8 ∨ high = 9 then (.noteOff, b.data1, b.data2)
  else if high = 11 then (.cc, b.data1, b.data2)
  else if high = 14 then (.pitchBend, 0, b.data1 + 128 * b.data2)
  else if high = 12 then (.program, b.data1, b.data1)
  else (.other, b.data1, b.data2)

def channel (b : MidiBytes) : ℕ := b.status % 16

end MidiBytes

structure MappingSource where
  deviceId : String
  channel : ℕ
  message : MidiGesture
  number : ℕ
  deriving DecidableEq

/-- The `kind` of a target. -/
inductive TargetKind
  | trigger
  | toggle
  | continuous
  | note
  deriving DecidableEq

structure MappingTarget where
  targetId : String
  kind : TargetKind
  minimum : ℚ := 0
  maximum : ℚ := 1
  logarithmic : Bool := false
  resourceId : String := ""
  deriving DecidableEq

structure MidiMapping where
  mappingId : String
  source : MappingSource
  target : MappingTarget
  behavior : String
  quantize : String
  enabled : Bool := true
  deriving DecidableEq

/-- What the engine waits for a gesture of. -/
structure MappingLearning where
  target : MappingTarget
  deviceId : String
  behavior : String
  quantize : String
  deriving DecidableEq

structure MappedAction where
  mappingId : String
  targetId : String
  value : ℚ
  showTimeSeconds : WithTop ℚ
  resourceId : String
  deriving DecidableEq

structure MidiMappingEngine where
  revision : ℕ := 0
  mappings : List MidiMapping := []
  learning : Option MappingLearning := none
  pending : List MappedAction := []
  toggles : Dict String Bool := .empty
  relative : Dict String ℚ := .empty
  deriving DecidableEq

/-- What `observe` reads of the transport. -/
structure MappingTransport where
  bpm : ℚ
  running : Bool

/-- A message as `observe` takes it. -/
structure MappingEvent where
  deviceId : String
  bytes : MidiBytes
  seconds : WithTop ℚ

def beatFraction (division : String) : ℚ := if division = "off" then 0
  else if division = "1/4" then 1
  else if division = "1/8" then 1 / 2
  else if division = "1/16" then 1 / 4
  else if division = "1/32" then 1 / 8
  else 1 / 4

/-- `_quantized_time`, for a time that is finite. -/
def quantizedTime (seconds bpm : ℚ) (division : String) : ℚ := let beats := beatFraction division
  if beats ≤ 0 then max 0 seconds
  else
    let step := 60 / max 30 (min 300 bpm) * beats
    ⌈max 0 seconds / step - 1 / 10 ^ 12⌉ * step

/-- The division that the actions of a mapping are quantized to. -/
def MappingTransport.division (transport : MappingTransport) (mapping : MidiMapping) : String :=
  if transport.running then mapping.quantize else "off"

namespace MidiMappingEngine

def learnedBehavior (learning : MappingLearning) (message : MidiGesture) (value : ℕ) : String :=
  if learning.behavior ≠ "auto" then learning.behavior
  else if message = .cc ∧ learning.target.kind = .continuous ∧ (value = 1 ∨ value = 127) then "relative"
  else if (message = .cc ∨ message = .pitchBend) ∧ learning.target.kind = .continuous then "absolute"
  else match learning.target.kind with
    | .note => "gate"
    | .trigger => "trigger"
    | .toggle => "toggle"
    | .continuous => "continuous"

/-- Learn the source of a mapping, if the engine waits for one. -/
def learn (m : MidiMappingEngine) (e : MappingEvent) : MidiMappingEngine := match m.learning with
  | none => m
  | some learning =>
    let (message, number, value) := e.bytes.gesture
    if message = .other ∨ message = .noteOff ∨ (learning.deviceId ≠ "" ∧ learning.deviceId ≠ e.deviceId) then
      m
    else
      let source : MappingSource :=
        { deviceId := e.deviceId, channel := e.bytes.channel, message := message, number := number }
      let learned : MidiMapping :=
        { mappingId := s!"map-{m.revision + 1}", source := source, target := learning.target
          behavior := learnedBehavior learning message value, quantize := learning.quantize }
      { m with
        revision := m.revision + 1
        mappings := m.mappings.filter (fun mapping => mapping.source ≠ source) ++ [learned]
        learning := none }

/-- The value between 0 and 1 that a message stands for. -/
def normalized (message : MidiGesture) (value : ℕ) : ℚ :=
  if message = .pitchBend then value / 16383 else value / 127

/-- What a relative control has been turned to. -/
def turned (m : MidiMappingEngine) (mapping : MidiMapping) (value : ℕ) : ℚ :=
  let delta : ℚ := if value ≤ 63 then value else (value : ℚ) - 128
  max 0 (min 1 ((Dict.get? m.relative mapping.mappingId).getD (1 / 2) + delta / 127))

variable (power : ℚ → ℚ → ℚ)

/-- A value between the bounds of the target; `power` is the power of floats. -/
def scaled (target : MappingTarget) (x : ℚ) : ℚ :=
  if target.logarithmic ∧ 0 < target.minimum then target.minimum * power (target.maximum / target.minimum) x
  else target.minimum + (target.maximum - target.minimum) * x

def sourceOf (e : MappingEvent) : MappingSource :=
  { deviceId := e.deviceId, channel := e.bytes.channel, message := e.bytes.gesture.1, number := e.bytes.gesture.2.1 }

/-- The mapping turns the message into an action. -/
def responds (e : MappingEvent) (mapping : MidiMapping) : Bool :=
  mapping.enabled ∧ mapping.source = sourceOf e ∧ ¬(e.bytes.gesture.1 = .note ∧ e.bytes.gesture.2.2 = 0)

/-- A relative control is turned and a toggle toggled. -/
def move (m : MidiMappingEngine) (e : MappingEvent) (mapping : MidiMapping) : MidiMappingEngine :=
  if mapping.behavior = "relative" then
    { m with relative := Dict.set m.relative mapping.mappingId (m.turned mapping e.bytes.gesture.2.2) }
  else if mapping.behavior = "toggle" then
    { m with toggles :=
        Dict.set m.toggles mapping.mappingId (!(Dict.get? m.toggles mapping.mappingId).getD false) }
  else m

def valueOf (m : MidiMappingEngine) (e : MappingEvent) (mapping : MidiMapping) : ℚ :=
  if mapping.behavior = "toggle" then
    if (Dict.get? (m.move e mapping).toggles mapping.mappingId).getD false then 1 else 0
  else if mapping.behavior = "trigger" ∨ mapping.behavior = "gate" then 1
  else scaled power mapping.target
    (if mapping.behavior = "relative" then m.turned mapping e.bytes.gesture.2.2
      else normalized e.bytes.gesture.1 e.bytes.gesture.2.2)

def act (transport : MappingTransport) (e : MappingEvent) (m : MidiMappingEngine) (mapping : MidiMapping) :
    MidiMappingEngine :=
  if responds e mapping then
    let moved := m.move e mapping
    { moved with
      pending := moved.pending ++ [{
        mappingId := mapping.mappingId
        targetId := mapping.target.targetId
        value := round (m.valueOf power e mapping) 9
        showTimeSeconds := e.seconds.map fun seconds =>
          round (quantizedTime seconds transport.bpm (transport.division mapping)) 9
        resourceId := mapping.target.resourceId }] }
  else m

def observe (transport : MappingTransport) (m : MidiMappingEngine) (e : MappingEvent) : MidiMappingEngine :=
  let learned := m.learn e
  let mapped := learned.mappings.foldl (act power transport e) learned
  { mapped with pending := lastOf 1024 mapped.pending }

def isDue (seconds : ℚ) (action : MappedAction) : Bool :=
  action.showTimeSeconds ≤ ((seconds + 1 / 10 ^ 9 : ℚ) : WithTop ℚ)

/-- `drain_due`: what is due, and what is left. -/
def drainDue (m : MidiMappingEngine) (seconds : ℚ) : List MappedAction × MidiMappingEngine :=
  (m.pending.filter (isDue seconds), { m with pending := m.pending.filter fun action => !isDue seconds action })

end MidiMappingEngine

end StageForge
