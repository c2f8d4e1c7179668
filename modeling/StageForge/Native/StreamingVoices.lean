import StageForge.Library.SpscQueue
import StageForge.Library.TransitionSystem

/-!
# Streaming voices

`PolyphonicStreamingProducer` plays clips that do not fit into memory. `start_clip` takes a free slot,
pushes the first blocks of the clip to the slot's feed, has the native voice of the slot started, and
leaves the rest to a feeder thread. `StreamingVoiceEngine` drains the feed of a slot while its voice is
active, and only then.
-/

namespace StageForge

open TransitionSystem

def blockFrames : ℕ := 256

def prebufferBlocks : ℕ := 4

def voiceCapacity : ℕ := 16

def blocksPerVoice : ℕ := 9

def commandCapacity : ℕ := 65

structure StreamingVoiceBlock where
  generation : ℕ
  sequence : ℕ
  frames : ℕ
  terminal : Bool
  deriving DecidableEq

inductive StreamingVoiceCommand
  | start (slot generation : ℕ) (loop : Bool)
  | stop (slot generation : ℕ)
  deriving DecidableEq

abbrev Feed : Type := SpscQueue StreamingVoiceBlock blocksPerVoice

abbrev CommandQueue : Type := SpscQueue StreamingVoiceCommand commandCapacity

/-! ## The engine -/

structure StreamingVoice where
  generation : ℕ
  offset : ℕ
  active : Bool
  loop : Bool
  hasBlock : Bool
  block : StreamingVoiceBlock
  deriving DecidableEq

namespace StreamingVoice

def blankBlock : StreamingVoiceBlock := ⟨0, 0, 0, false⟩

def blank : StreamingVoice := ⟨0, 0, false, false, false, blankBlock⟩

def started (generation : ℕ) (loop : Bool) : StreamingVoice :=
  { blank with generation, loop, active := true }

def stopped (voice : StreamingVoice) (generation : ℕ) : StreamingVoice :=
  if voice.active = true ∧ voice.generation = generation then
    { voice with active := false, hasBlock := false }
  else voice

/-- The loop of `load`: blocks of other generations are dropped. The feed has no more blocks than
`count`. -/
def load (generation : ℕ) : ℕ → Feed → Feed × Option StreamingVoiceBlock
  | 0, feed => (feed, none)
  | count + 1, feed =>
    match feed.tryPop with
    | none => (feed, none)
    | some (block, feed) =>
      if block.generation ≠ generation then load generation count feed else (feed, some block)

def advance (voice : StreamingVoice) : StreamingVoice :=
  if voice.offset + 1 = voice.block.frames then
    { voice with
      hasBlock := false
      offset := 0
      active := !(voice.block.terminal && !voice.loop) }
  else { voice with offset := voice.offset + 1 }

def renderFrame (voice : StreamingVoice) (feed : Feed) : StreamingVoice × Feed :=
  if voice.active = false then (voice, feed)
  else if voice.hasBlock = true then (voice.advance, feed)
  else match load voice.generation feed.size feed with
    | (feed, none) => (voice, feed)
    | (feed, some block) => ({ voice with block, offset := 0, hasBlock := true }.advance, feed)

end StreamingVoice

def StreamingVoiceCommand.apply (voices : ℕ → StreamingVoice) :
    StreamingVoiceCommand → ℕ → StreamingVoice
  | .start slot generation loop => Function.update voices slot (.started generation loop)
  | .stop slot generation => Function.update voices slot ((voices slot).stopped generation)

/-! ## The producer -/

inductive FeedPhase
  /-- `start_clip` has up to so many blocks to push. -/
  | prebuffering (blocks : ℕ)
  /-- The voice is to be started, and `more` says whether there will be a feeder. -/
  | starting (more : Bool)
  /-- The feeder is to be started. -/
  | launching
  | feeding
  | ended
  deriving DecidableEq

structure StreamingJob where
  slot : ℕ
  generation : ℕ
  frames : ℕ
  position : ℕ
  sequence : ℕ
  loop : Bool
  stop : Bool
  phase : FeedPhase
  /-- Whether the last block of the clip has been pushed. -/
  terminalSent : Bool
  deriving DecidableEq

namespace StreamingJob

/-- `_next_block`, with the position after it. -/
def nextBlock (job : StreamingJob) : Option (StreamingVoiceBlock × ℕ) :=
  if job.frames ≤ job.position ∧ job.loop = false then none
  else
    let position := if job.frames ≤ job.position then 0 else job.position
    let count := min blockFrames (job.frames - position)
    some
      ({ generation := job.generation
         sequence := job.sequence
         frames := count
         terminal := !job.loop && job.frames ≤ position + count },
        position + count)

/-- Where `start_clip` or the feeder goes on after a push. -/
def after (job : StreamingJob) (more : Bool) : FeedPhase := match job.phase with
  | .prebuffering (blocks + 1) =>
    if more = true ∧ blocks ≠ 0 then .prebuffering blocks else .starting more
  | .feeding => if more = true then .feeding else .ended
  | phase => phase

/-- Whether `start_clip` or the feeder is about to push a block. -/
def pushing (job : StreamingJob) : Bool := match job.phase with
  | .prebuffering blocks => blocks ≠ 0
  | .feeding => true
  | _ => false

/-- An attempt of `_push_one`, with the feed it is made on. -/
def push (job : StreamingJob) (feed : Feed) : StreamingJob × Feed :=
  if job.stop = true then ({ job with phase := job.after false }, feed)
  else match job.nextBlock with
    | none => ({ job with phase := job.after false }, feed)
    | some (block, position) =>
      match feed.tryPush block with
      -- the block is tried again
      | none => (job, feed)
      | some feed =>
        ({ job with
            position
            sequence := job.sequence + 1
            terminalSent := job.terminalSent || block.terminal
            phase := job.after (!block.terminal || job.loop) }, feed)

end StreamingJob

/-! ## Runs -/

inductive RenderPhase
  | idle
  | draining (frames : ℕ)
  | rendering (frames : ℕ)
  deriving DecidableEq

structure StreamingRun where
  voices : ℕ → StreamingVoice
  feeds : ℕ → Feed
  commands : CommandQueue
  /-- The generation of a slot and whether its voice is active, as published. -/
  published : ℕ → ℕ × Bool
  render : RenderPhase
  /-- Every job there has been, by its generation. -/
  jobs : ℕ → Option StreamingJob
  /-- `self.jobs`: the generation of the job that holds a slot. -/
  slots : ℕ → Option ℕ
  nextGeneration : ℕ

inductive StreamingAction
  /-- The part of `start_clip` under the lock. -/
  | allocate (frames : ℕ) (loop : Bool)
  | push (generation : ℕ)
  /-- An exception in `start_clip` or in the feeder: the source cannot be read, or the time for a block
  is over. -/
  | fail (generation : ℕ)
  | sendStart (generation : ℕ)
  | launch (generation : ℕ)
  /-- The part of `stop` under the lock, and the command after it. -/
  | requestStop (slot generation : ℕ)
  | sendStop (generation : ℕ)
  | reclaim
  | render (frames : ℕ)
  | drain
  | frame
  deriving DecidableEq

namespace StreamingRun

def initial : StreamingRun where
  voices _ := .blank
  feeds _ := .empty StreamingVoice.blankBlock
  commands := .empty (.stop 0 0)
  published _ := (0, false)
  render := .idle
  jobs _ := none
  slots _ := none
  nextGeneration := 1

def threadAlive (r : StreamingRun) (generation : ℕ) : Bool :=
  (r.jobs generation).any fun job => job.phase = .feeding

/-- `_reclaim_locked`. -/
def reclaim (r : StreamingRun) : StreamingRun :=
  { r with slots := fun slot =>
      match r.slots slot with
      | none => none
      | some generation =>
        if r.threadAlive generation = false ∧ r.published slot = (generation, false) then none
        else some generation }

/-- `_allocate_locked`, after the reclaim. -/
def freeSlot (r : StreamingRun) : Option ℕ :=
  (List.range voiceCapacity).find? fun slot => (r.slots slot).isNone

def setJob (r : StreamingRun) (job : StreamingJob) : StreamingRun :=
  { r with jobs := Function.update r.jobs job.generation (some job) }

def allocate (r : StreamingRun) (frames : ℕ) (loop : Bool) : StreamingRun :=
  let r := r.reclaim
  match r.freeSlot with
  | none => r
  | some slot =>
    { r.setJob
        { slot
          generation := r.nextGeneration
          frames
          position := 0
          sequence := 1
          loop
          stop := false
          phase := .prebuffering prebufferBlocks
          terminalSent := false } with
      slots := Function.update r.slots slot (some r.nextGeneration)
      nextGeneration := r.nextGeneration + 1 }

def abandon (r : StreamingRun) (job : StreamingJob) : StreamingRun :=
  { r.setJob { job with phase := .ended } with slots := Function.update r.slots job.slot none }

def sendStart (r : StreamingRun) (job : StreamingJob) (more : Bool) : StreamingRun :=
  match r.commands.tryPush (.start job.slot job.generation job.loop) with
  | none => r.abandon job
  | some commands =>
    { r.setJob { job with phase := if more = true then .launching else .ended } with commands }

def step (r : StreamingRun) : StreamingAction → Option StreamingRun
  | .allocate frames loop => if frames = 0 then none else some (r.allocate frames loop)
  | .push generation => do
    let job ← r.jobs generation
    if job.pushing = true then
      let (job, feed) := job.push (r.feeds job.slot)
      some { r.setJob job with feeds := Function.update r.feeds job.slot feed }
    else none
  | .fail generation => do
    let job ← r.jobs generation
    match job.phase with
    | .prebuffering _ => some (r.abandon job)
    | .feeding => some (r.setJob { job with phase := .ended })
    | _ => none
  | .sendStart generation => do
    let job ← r.jobs generation
    match job.phase with
    | .starting more => some (r.sendStart job more)
    | _ => none
  | .launch generation => do
    let job ← r.jobs generation
    if job.phase = .launching then some (r.setJob { job with phase := .feeding }) else none
  | .requestStop slot generation => do
    let job ← r.jobs generation
    if r.slots slot = some generation then some (r.setJob { job with stop := true }) else none
  | .sendStop generation => do
    let job ← r.jobs generation
    if job.stop = true then
      match r.commands.tryPush (.stop job.slot job.generation) with
      | none => some r
      | some commands => some { r with commands }
    else none
  | .reclaim => some r.reclaim
  | .render frames =>
    if r.render = .idle ∧ frames ≠ 0 then some { r with render := .draining frames } else none
  | .drain =>
    match r.render with
    | .draining frames =>
      match r.commands.tryPop with
      | none => some { r with render := .rendering frames }
      | some (command, commands) =>
        some { r with commands, voices := command.apply r.voices }
    | _ => none
  | .frame =>
    match r.render with
    | .rendering (frames + 1) =>
      let voices := fun slot => ((r.voices slot).renderFrame (r.feeds slot)).1
      let feeds := fun slot => ((r.voices slot).renderFrame (r.feeds slot)).2
      if frames = 0 then
        some { r with
          voices, feeds
          published := fun slot => ((voices slot).generation, (voices slot).active)
          render := .idle }
      else some { r with voices, feeds, render := .rendering frames }
    | _ => none

end StreamingRun

end StageForge
