import StageForge.Library.SpscQueue
import StageForge.Library.TransitionSystem
import StageForge.Native.TransportClock

/-!
# The sampler

`SamplerVoiceEngine` plays samples on a fixed number of voices. The show's timeline submits commands
to a queue, and the audio callback drains it at the start of each block before it renders the frames. A
trigger takes a free voice or, when there is none, waits for the oldest one, which it releases: it is
that voice's *pending* command, and starts when the release has come to its end.
-/

namespace StageForge

open TransitionSystem

/-- `SamplerSampleDescriptor`, without the channels; `left` says that there is one. -/
structure SamplerSampleDescriptor where
  sampleId : UInt64
  left : Bool
  frames : UInt32
  loopBegin : UInt32
  loopEnd : UInt32
  chokeGroup : UInt8
  looped : Bool
  deriving DecidableEq

inductive SamplerCommandKind
  | trigger
  | stopSample
  | stopAll
  deriving DecidableEq

structure SamplerCommand (S : NativeFloats) where
  kind : SamplerCommandKind
  eventId : UInt64
  sampleId : UInt64
  velocity : S.Single
  note : UInt8

structure QueuedCommand (S : NativeFloats) where
  serial : ℕ
  command : SamplerCommand S

structure SamplerVoice (S : NativeFloats) where
  sampleId : UInt64
  sequence : UInt64
  position : UInt32
  age : UInt32
  releaseRemaining : UInt32
  gain : S.Single
  chokeGroup : UInt8
  note : UInt8
  active : Bool
  releasing : Bool
  pending : Bool
  pendingCommand : QueuedCommand S
  /-- The serial of the trigger that started the voice. -/
  startedBy : ℕ

/-- The sequence number and the counters of the audio callback. -/
structure SamplerCounts where
  nextSequence : UInt64
  completed : UInt64
  stolen : UInt64
  choked : UInt64
  rejected : UInt64
  /-- The serials of the triggers that have been started, and of those counted in `rejected`. -/
  started : List ℕ
  refused : List ℕ
  deriving DecidableEq

variable {S : NativeFloats}

/-! ## Voices -/

def releaseFrames : UInt32 := 64

namespace SamplerVoice

def blank : SamplerVoice S where
  sampleId := 0
  sequence := 0
  position := 0
  age := 0
  releaseRemaining := 0
  gain := S.single.literal 0
  chokeGroup := 0
  note := 60
  active := false
  releasing := false
  pending := false
  pendingCommand := ⟨0, ⟨.trigger, 0, 0, S.single.literal 1, 60⟩⟩
  startedBy := 0

def beginRelease (v : SamplerVoice S) : SamplerVoice S :=
  if v.active = true ∧ v.releasing = false then
    { v with releasing := true, releaseRemaining := releaseFrames }
  else v

def finish (c : SamplerCounts) (v : SamplerVoice S) : SamplerCounts × SamplerVoice S :=
  ({ c with completed := c.completed + 1 },
    { v with active := false, releasing := false, pending := false, releaseRemaining := 0 })

end SamplerVoice

namespace SamplerEngine

/-- `std::clamp`, between 0 and 1. -/
def gainOf (velocity : S.Single) : S.Single :=
  if S.single.less velocity (S.single.literal 0) then S.single.literal 0
  else if S.single.less (S.single.literal 1) velocity then S.single.literal 1
  else velocity

def valid (d : SamplerSampleDescriptor) : Bool :=
  d.sampleId ≠ 0 ∧ d.left = true ∧ d.frames ≠ 0 ∧ d.loopBegin < d.frames ∧ d.loopEnd ≤ d.frames ∧
    (d.looped = false ∨ d.loopBegin < d.loopEnd)

def findSample (samples : List SamplerSampleDescriptor) (id : UInt64) :
    Option SamplerSampleDescriptor :=
  samples.find? fun d => d.sampleId = id

def registerSample (sampleCapacity : ℕ) (samples : List SamplerSampleDescriptor)
    (d : SamplerSampleDescriptor) : List SamplerSampleDescriptor × Bool :=
  if valid d = false then (samples, false)
  else if (findSample samples d.sampleId).isSome then (samples, false)
  else if samples.length < sampleCapacity then (samples ++ [d], true)
  else (samples, false)

variable (samples : List SamplerSampleDescriptor)

def reject (c : SamplerCounts) (queued : QueuedCommand S) : SamplerCounts :=
  { c with rejected := c.rejected + 1, refused := queued.serial :: c.refused }

def start (c : SamplerCounts) (v : SamplerVoice S) (queued : QueuedCommand S) :
    SamplerCounts × SamplerVoice S :=
  match findSample samples queued.command.sampleId with
  | none => (reject c queued, { v with active := false })
  | some sample =>
    ({ c with nextSequence := c.nextSequence + 1, started := queued.serial :: c.started }, { v with
        sampleId := queued.command.sampleId
        sequence := c.nextSequence
        position := 0
        age := 0
        releaseRemaining := 0
        gain := gainOf queued.command.velocity
        chokeGroup := sample.chokeGroup
        note := queued.command.note
        active := true
        releasing := false
        pending := false
        startedBy := queued.serial })

def startFirst (c : SamplerCounts) (queued : QueuedCommand S) :
    List (SamplerVoice S) → Option (SamplerCounts × List (SamplerVoice S))
  | [] => none
  | v :: voices =>
    if v.active = false then
      let (c, v) := start samples c v queued
      some (c, v :: voices)
    else (startFirst c queued voices).map fun (c, voices) => (c, v :: voices)

/-- The index of the voice with the lowest sequence number, the first one if there are several. -/
def oldest (voices : List (SamplerVoice S)) : ℕ :=
  let sequence (index : ℕ) : UInt64 := (voices[index]?.map SamplerVoice.sequence).getD 0
  (List.range voices.length).foldl
    (fun oldest index => if sequence index < sequence oldest then index else oldest) 0

/-- Whether a trigger of a sample chokes a voice. -/
def chokes (sample : SamplerSampleDescriptor) (v : SamplerVoice S) : Bool :=
  sample.chokeGroup ≠ 0 && v.active && v.chokeGroup = sample.chokeGroup

def choke (sample : SamplerSampleDescriptor) (voices : List (SamplerVoice S)) :
    List (SamplerVoice S) :=
  voices.map fun v => if chokes sample v = true then v.beginRelease else v

def trigger (c : SamplerCounts) (voices : List (SamplerVoice S)) (queued : QueuedCommand S) :
    SamplerCounts × List (SamplerVoice S) :=
  match findSample samples queued.command.sampleId with
  | none => (reject c queued, voices)
  | some sample =>
    let c := { c with choked := c.choked + UInt64.ofNat (voices.countP (chokes sample)) }
    let voices := choke sample voices
    match startFirst samples c queued voices with
    | some result => result
    | none =>
      ({ c with stolen := c.stolen + 1 }, voices.modify (oldest voices) fun v =>
          SamplerVoice.beginRelease { v with pending := true, pendingCommand := queued })

/-- The body of the loop of `drain_commands`. -/
def handle (c : SamplerCounts) (voices : List (SamplerVoice S)) (queued : QueuedCommand S) :
    SamplerCounts × List (SamplerVoice S) :=
  match queued.command.kind with
  | .trigger => trigger samples c voices queued
  | .stopAll => (c, voices.map SamplerVoice.beginRelease)
  | .stopSample =>
    (c, voices.map fun v =>
      if v.active = true ∧ v.sampleId = queued.command.sampleId then v.beginRelease else v)

/-- The end of a voice's turn in a frame: one frame further, and its release if it has one. -/
def advance (c : SamplerCounts) (v : SamplerVoice S) (position : UInt32) :
    SamplerCounts × SamplerVoice S :=
  let v := { v with position := position + 1, age := v.age + 1 }
  if v.releasing = true ∧ 0 < v.releaseRemaining then
    let v := { v with releaseRemaining := v.releaseRemaining - 1 }
    if v.releaseRemaining = 0 then
      if v.pending = true then start samples c v v.pendingCommand else v.finish c
    else (c, v)
  else (c, v)

def renderVoice (c : SamplerCounts) (v : SamplerVoice S) : SamplerCounts × SamplerVoice S :=
  if v.active = false then (c, v)
  else match findSample samples v.sampleId with
    | none => v.finish c
    | some sample =>
      let finish := if sample.looped = true then sample.loopEnd else sample.frames
      if finish ≤ v.position then
        if sample.looped = true then
          advance samples c v (sample.loopBegin + (v.position - finish))
        else v.finish c
      else advance samples c v v.position

def renderFrame : SamplerCounts → List (SamplerVoice S) → SamplerCounts × List (SamplerVoice S)
  | c, [] => (c, [])
  | c, v :: voices =>
    let (c, v) := renderVoice samples c v
    let (c, voices) := renderFrame c voices
    (c, v :: voices)

end SamplerEngine

/-! ## Runs -/

inductive SamplerPhase
  | idle
  | draining (frames : UInt32)
  /-- A block of so many frames, and how many of them are still to be rendered. -/
  | rendering (frames : UInt32) (remaining : ℕ)
  deriving DecidableEq

structure SamplerRun (S : NativeFloats) (commandCapacity : ℕ) where
  samples : List SamplerSampleDescriptor
  voices : List (SamplerVoice S)
  commands : SpscQueue (QueuedCommand S) commandCapacity
  counts : SamplerCounts
  submitted : UInt64
  renderedFrames : UInt64
  overflows : UInt64
  submitsRejected : UInt64
  activeCount : UInt32
  pendingCount : UInt32
  phase : SamplerPhase
  /-- How many commands have been queued and how many of them drained. -/
  queued : ℕ
  drained : ℕ
  /-- The triggers that have been drained. -/
  triggers : List ℕ
  /-- The stops of all voices that have been drained, with the frames rendered since. -/
  stops : List (ℕ × ℕ)

inductive SamplerAction (S : NativeFloats)
  | register (descriptor : SamplerSampleDescriptor)
  | submit (command : SamplerCommand S)
  | render (frames : UInt32)
  | drain
  | frame

namespace SamplerRun

open SamplerEngine

variable {commandCapacity : ℕ}

def initial (voiceCapacity : ℕ) : SamplerRun S commandCapacity where
  samples := []
  voices := List.replicate voiceCapacity .blank
  commands := .empty SamplerVoice.blank.pendingCommand
  counts := ⟨1, 0, 0, 0, 0, [], []⟩
  submitted := 0
  renderedFrames := 0
  overflows := 0
  submitsRejected := 0
  activeCount := 0
  pendingCount := 0
  phase := .idle
  queued := 0
  drained := 0
  triggers := []
  stops := []

/-- `submit`. The rejections of the producer are counted apart from those of the callback; the code's
`rejected_commands` is the sum. -/
def submit (r : SamplerRun S commandCapacity) (command : SamplerCommand S) :
    SamplerRun S commandCapacity × Bool :=
  let r := { r with submitted := r.submitted + 1 }
  if command.eventId = 0 ∨ (command.kind ≠ .stopAll ∧ command.sampleId = 0) ∨
      S.single.finite command.velocity = false then
    ({ r with submitsRejected := r.submitsRejected + 1 }, false)
  else match r.commands.tryPush ⟨r.queued, command⟩ with
    | none => ({ r with overflows := r.overflows + 1 }, false)
    | some commands => ({ r with commands, queued := r.queued + 1 }, true)

/-- What draining a command adds to the record of the run. -/
def record (r : SamplerRun S commandCapacity) (queued : QueuedCommand S) :
    SamplerRun S commandCapacity :=
  { r with
    drained := r.drained + 1
    triggers := if queued.command.kind = .trigger then queued.serial :: r.triggers else r.triggers
    stops := if queued.command.kind = .stopAll then (queued.serial, 0) :: r.stops else r.stops }

/-- `render` begins, drains a command or finds the queue empty, and renders a frame. -/
def step (sampleCapacity : ℕ) (r : SamplerRun S commandCapacity) :
    SamplerAction S → Option (SamplerRun S commandCapacity)
  | .register descriptor =>
    some { r with samples := (registerSample sampleCapacity r.samples descriptor).1 }
  | .submit command => some (submit r command).1
  | .render frames =>
    if r.phase = .idle ∧ frames ≠ 0 then some { r with phase := .draining frames } else none
  | .drain =>
    match r.phase with
    | .draining frames =>
      match r.commands.tryPop with
      | none => some { r with phase := .rendering frames frames.toNat }
      | some (queued, commands) =>
        let (counts, voices) := handle r.samples r.counts r.voices queued
        some ({ r with counts, voices, commands }.record queued)
    | _ => none
  | .frame =>
    match r.phase with
    | .rendering frames (remaining + 1) =>
      let (counts, voices) := renderFrame r.samples r.counts r.voices
      let stops := r.stops.map fun stop : ℕ × ℕ => (stop.1, stop.2 + 1)
      if remaining = 0 then
        some { r with
          counts, voices, stops
          phase := .idle
          renderedFrames := r.renderedFrames + frames.toUInt64
          activeCount := UInt32.ofNat (voices.countP SamplerVoice.active)
          pendingCount := UInt32.ofNat (voices.countP SamplerVoice.pending) }
      else some { r with counts, voices, stops, phase := .rendering frames remaining }
    | _ => none

end SamplerRun

end StageForge
