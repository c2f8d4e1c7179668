import StageForge.Library.TransitionSystem
import StageForge.Native.EffectChain

/-!
# Effects and the delays that go with them

Each output has a chain of effects, `CoreEffectChain`, and `EffectDelayTransaction` changes which of
them are bypassed together with the delays of the outputs. It has two banks: `prepare` fills the one
that is not active, `activateIfDue` makes it the active one, and `begin` applies the active bank to
the chain of an output and pins it until `end`.
-/

namespace StageForge

/-! ## The delays -/

/-- `PluginDelayCompensator`, less the samples it holds back. -/
structure PluginDelayCompensator where
  delay : List UInt32
  maximumLatencyFrames : UInt32
  processedFrames : UInt64
  configured : Bool

namespace PluginDelayCompensator

def empty : PluginDelayCompensator := ⟨[], 0, 0, false⟩

/-- `configure`, for `paths` paths at most and a latency of `maxDelayFrames` at most. -/
def configure (paths maxDelayFrames : ℕ) (latencies : List UInt32) : Option PluginDelayCompensator :=
  if latencies = [] ∨ paths < latencies.length ∨
      latencies.any (fun latency => decide (maxDelayFrames < latency.toNat)) then none
  else
    let maximum := latencies.foldl max 0
    some ⟨latencies.map fun latency => maximum - latency, maximum, 0, true⟩

def process (delays : PluginDelayCompensator) (path : ℕ) (frames : UInt32) :
    PluginDelayCompensator × Bool :=
  if delays.configured = false ∨ delays.delay.length ≤ path then (delays, false)
  else ({ delays with processedFrames := delays.processedFrames + frames.toUInt64 }, true)

end PluginDelayCompensator

/-! ## The transaction -/

/-- `EffectDelayTransaction::Change`. -/
structure EffectChange where
  output : ℕ
  effectId : UInt64
  bypassed : Bool
  deriving DecidableEq

structure EffectBank where
  delay : PluginDelayCompensator
  latencies : List UInt32
  changes : List EffectChange
  previous : List EffectChange
  generation : UInt64
  boundary : UInt64
  maximum : UInt32

def EffectBank.empty : EffectBank := ⟨.empty, [], [], [], 0, 0, 0⟩

/-- The sizes the transaction is made for. -/
structure EffectSizes where
  outputs : ℕ
  effectsPerOutput : ℕ
  maxDelayFrames : ℕ

/-- `EffectDelayTransaction`, with the chains it refers to. -/
structure EffectDelayTransaction where
  chains : ℕ → CoreEffectChain
  banks : Bool → EffectBank
  readers : Bool → ℕ
  pinned : ℕ → Option Bool
  active : Bool
  activeGeneration : UInt64
  preparedGeneration : UInt64
  activationShowNs : UInt64
  preparedRollback : Bool
  commits : UInt64
  rollbacks : UInt64
  rejected : UInt64
  processedFrames : UInt64

namespace EffectDelayTransaction

def empty : EffectDelayTransaction where
  chains _ := .empty
  banks _ := .empty
  readers _ := 0
  pinned _ := none
  active := false
  activeGeneration := 0
  preparedGeneration := 0
  activationShowNs := 0
  preparedRollback := false
  commits := 0
  rollbacks := 0
  rejected := 0
  processedFrames := 0

variable (sizes : EffectSizes) (t : EffectDelayTransaction)

def activeBank : EffectBank := t.banks t.active

def reject : EffectDelayTransaction × Bool := ({ t with rejected := t.rejected + 1 }, false)

/-- The loop of `prepare` over the changes; `seen` are those before. -/
def acceptsChanges (outputs : ℕ) (chains : ℕ → CoreEffectChain) :
    List EffectChange → List EffectChange → Bool
  | _, [] => true
  | seen, change :: rest =>
    decide (change.output < outputs) && decide (change.effectId ≠ 0) &&
      ((chains change.output).find change.effectId).isSome &&
      !(seen.any fun earlier => decide (earlier.output = change.output) &&
        decide (earlier.effectId = change.effectId)) &&
      acceptsChanges outputs chains (seen ++ [change]) rest

/-- The flag an effect has now, as a change that would give it back. -/
def capture (change : EffectChange) : EffectChange :=
  { change with bypassed := ((t.chains change.output).bypassed change.effectId).getD false }

def prepare (generation boundary : UInt64) (latencies : List UInt32)
    (changes : List EffectChange) : EffectDelayTransaction × Bool :=
  if generation = 0 ∨ generation ≤ t.activeGeneration ∨ t.preparedGeneration ≠ 0 ∨
      latencies = [] ∨ sizes.outputs < latencies.length ∨
      sizes.outputs * sizes.effectsPerOutput < changes.length then t.reject
  else if t.readers (!t.active) ≠ 0 then t.reject
  else if acceptsChanges sizes.outputs t.chains [] changes = false then t.reject
  else match PluginDelayCompensator.configure sizes.outputs sizes.maxDelayFrames latencies with
    | none => t.reject
    | some delay =>
      let bank : EffectBank :=
        { delay
          latencies
          changes
          previous := changes.map t.capture
          generation
          boundary
          maximum := latencies.foldl max 0 }
      ({ t with
        banks := Function.update t.banks (!t.active) bank
        activationShowNs := boundary
        preparedGeneration := generation }, true)

def prepareRollback (generation boundary : UInt64) : EffectDelayTransaction × Bool :=
  if t.preparedGeneration ≠ 0 then t.reject
  else
    let current := t.activeBank
    if current.generation = 0 then (t, false)
    else match t.prepare sizes generation boundary current.latencies current.previous with
      | (t, true) => ({ t with preparedRollback := true }, true)
      | (t, false) => (t, false)

/-- `activate_if_due`, and `activate`. -/
def activateIfDue (showNs : UInt64) : EffectDelayTransaction × Bool :=
  if t.preparedGeneration = 0 ∨ showNs < t.activationShowNs then (t, false)
  else
    ({ t with
      preparedGeneration := 0
      active := !t.active
      activeGeneration := t.preparedGeneration
      commits := t.commits + 1
      rollbacks := if t.preparedRollback then t.rollbacks + 1 else t.rollbacks
      preparedRollback := false }, true)

/-- The loop of `begin`: the changes of an output, one after the other. -/
def applyChanges (output : ℕ) : List EffectChange → CoreEffectChain → CoreEffectChain
  | [], chain => chain
  | change :: rest, chain =>
    if change.output = output then
      applyChanges output rest (chain.setBypass change.effectId change.bypassed).1
    else applyChanges output rest chain

/-- The part of `begin` after `activate_if_due`. -/
def pin (output : ℕ) : EffectDelayTransaction := { t with
    chains := Function.update t.chains output
      (applyChanges output t.activeBank.changes (t.chains output))
    readers := Function.update t.readers t.active (t.readers t.active + 1)
    pinned := Function.update t.pinned output (some t.active) }

def begin (output : ℕ) (showNs : UInt64) : EffectDelayTransaction × Bool :=
  if sizes.outputs ≤ output ∨ (t.pinned output).isSome then (t, false)
  else ((t.activateIfDue showNs).1.pin output, true)

/-- `end`, less the samples. -/
def «end» (output : ℕ) (frames : UInt32) : EffectDelayTransaction × Bool :=
  if sizes.outputs ≤ output ∨ frames = 0 then (t, false)
  else match t.pinned output with
    | none => (t, false)
    | some selected =>
      let bank := t.banks selected
      let (delay, processed) := if bank.generation = 0 then (bank.delay, true)
        else if output < bank.latencies.length then bank.delay.process output frames
        else (bank.delay, false)
      ({ t with
        banks := Function.update t.banks selected { bank with delay }
        pinned := Function.update t.pinned output none
        readers := Function.update t.readers selected (t.readers selected - 1)
        processedFrames := t.processedFrames + frames.toUInt64 }, processed)

def processChain (output : ℕ) (outcome : UInt64 → Bool) (channelCount frames : UInt32) :
    EffectDelayTransaction × Bool × List EffectCall :=
  let (chain, healthy, calls) := (t.chains output).process outcome channelCount frames
  ({ t with chains := Function.update t.chains output chain }, healthy, calls)

/-- `process`: `begin`, the chain of the output, and `end`. -/
def process (output : ℕ) (outcome : UInt64 → Bool) (channelCount frames : UInt32)
    (showNs : UInt64) : EffectDelayTransaction × Bool × List EffectCall :=
  if sizes.outputs ≤ output ∨ channelCount = 0 ∨ frames = 0 then (t, false, [])
  else match t.begin sizes output showNs with
    | (t, false) => (t, false, [])
    | (t, true) =>
      let (t, healthy, calls) := t.processChain output outcome channelCount frames
      let (t, ended) := t.end sizes output frames
      (t, ended && healthy, calls)

end EffectDelayTransaction

/-! ## Runs -/

/-- What is remembered of a run, for one effect of one output. -/
inductive EffectNote
  | called (output : ℕ) (effectId : UInt64) (succeeded : Bool)
  /-- The effect was let in: by `set_bypass`, or by a bank that is new to the output. -/
  | enabled (output : ℕ) (effectId : UInt64)
  deriving DecidableEq

structure EffectTakeover where
  bank : EffectBank
  /-- The bank that was active just before, and the chains as they were. -/
  before : EffectBank
  chains : ℕ → CoreEffectChain

structure EffectRun where
  transaction : EffectDelayTransaction
  /-- The outputs that have begun under the active bank. -/
  applied : List ℕ
  notes : List EffectNote
  /-- How the active bank took over. -/
  takeover : Option EffectTakeover
  /-- The generation of a rollback, with the take-over it is to undo. -/
  rollbacks : List (UInt64 × EffectTakeover)

inductive EffectAction
  | registerEffect (output : ℕ) (descriptor : CoreEffectDescriptor) (hasCallbacks : Bool)
  | activateAll (output : ℕ) (positiveRate : Bool) (maxFrames channels : UInt32)
      (accepts : UInt64 → Bool)
  | deactivateAll (output : ℕ)
  | setBypass (output : ℕ) (effectId : UInt64) (bypass : Bool)
  | prepare (generation boundary : UInt64) (latencies : List UInt32) (changes : List EffectChange)
  | prepareRollback (generation boundary : UInt64)
  | activate (showNs : UInt64)
  | begin (output : ℕ) (showNs : UInt64)
  | processChain (output : ℕ) (outcome : UInt64 → Bool) (channelCount frames : UInt32)
  | end (output : ℕ) (frames : UInt32)

namespace EffectRun

def empty : EffectRun := ⟨.empty, [], [], none, []⟩

variable (r : EffectRun)

def withChain (output : ℕ) (chain : CoreEffectChain) : EffectRun := { r with transaction :=
    { r.transaction with chains := Function.update r.transaction.chains output chain } }

/-- `activate_if_due`, on the record. -/
def activated (showNs : UInt64) : EffectRun := match r.transaction.activateIfDue showNs with
  | (t, true) =>
    { r with
      transaction := t
      applied := []
      takeover := some ⟨t.activeBank, r.transaction.activeBank, r.transaction.chains⟩ }
  | (t, false) => { r with transaction := t }

/-- The effects of an output that a bank lets in. -/
def lets (output : ℕ) (bank : EffectBank) : List EffectNote :=
  (bank.changes.filter fun change => decide (change.output = output) && !change.bypassed).map
    fun change => .enabled output change.effectId

/-- One call. The control thread has no chain for an output there is not. -/
def step (sizes : EffectSizes) : EffectRun → EffectAction → Option EffectRun
  | r, .registerEffect output descriptor hasCallbacks =>
    if output < sizes.outputs then
      some (r.withChain output ((r.transaction.chains output).registerEffect
        sizes.effectsPerOutput descriptor hasCallbacks).1)
    else none
  | r, .activateAll output positiveRate maxFrames channels accepts =>
    if output < sizes.outputs then
      some (r.withChain output ((r.transaction.chains output).activateAll positiveRate maxFrames
        channels accepts).1)
    else none
  | r, .deactivateAll output =>
    if output < sizes.outputs then
      some (r.withChain output (r.transaction.chains output).deactivateAll)
    else none
  | r, .setBypass output effectId bypass =>
    if output < sizes.outputs then
      let (chain, found) := (r.transaction.chains output).setBypass effectId bypass
      some { r.withChain output chain with
        notes := if found && !bypass then .enabled output effectId :: r.notes else r.notes }
    else none
  | r, .prepare generation boundary latencies changes =>
    some { r with
      transaction := (r.transaction.prepare sizes generation boundary latencies changes).1 }
  | r, .prepareRollback generation boundary =>
    match r.transaction.prepareRollback sizes generation boundary, r.takeover with
    | (t, true), some takeover =>
      some { r with transaction := t, rollbacks := (generation, takeover) :: r.rollbacks }
    | (t, _), _ => some { r with transaction := t }
  | r, .activate showNs => some (r.activated showNs)
  | r, .begin output showNs =>
    match r.transaction.begin sizes output showNs with
    | (t, false) => some { r with transaction := t }
    | (t, true) =>
      let r := r.activated showNs
      some { r with
        transaction := t
        applied := output :: r.applied
        notes := if output ∈ r.applied then r.notes
          else lets output r.transaction.activeBank ++ r.notes }
  | r, .processChain output outcome channelCount frames =>
    if output < sizes.outputs then
      let (t, _, calls) := r.transaction.processChain output outcome channelCount frames
      some { r with
        transaction := t
        notes := (calls.map fun call => .called output call.effectId call.succeeded).reverse ++
          r.notes }
    else none
  | r, .end output frames => some { r with transaction := (r.transaction.end sizes output frames).1 }

lemma run_process {sizes : EffectSizes} {output : ℕ} {outcome : UInt64 → Bool}
    {channelCount frames : UInt32} {showNs : UInt64} (houtput : output < sizes.outputs)
    (hcount : channelCount ≠ 0) (hframes : frames ≠ 0)
    (hbegin : (r.transaction.begin sizes output showNs).2 = true) :
    (TransitionSystem.run (step sizes) r [.begin output showNs,
      .processChain output outcome channelCount frames, .end output frames]).map
        EffectRun.transaction =
      some (r.transaction.process sizes output outcome channelCount frames showNs).1 := by
  have hvalid : ¬ (sizes.outputs ≤ output ∨ channelCount = 0 ∨ frames = 0) := by
    rintro (hlarge | hzero | hzero)
    · exact absurd houtput (Nat.not_lt.mpr hlarge)
    · exact hcount hzero
    · exact hframes hzero
  rcases hbegun : r.transaction.begin sizes output showNs with ⟨t, _ | _⟩
  · rw [hbegun] at hbegin
    cases hbegin
  · simp only [TransitionSystem.run, step, hbegun, houtput, if_true, Option.bind_some,
      Option.map_some, EffectDelayTransaction.process, if_neg hvalid]

end EffectRun

end StageForge
