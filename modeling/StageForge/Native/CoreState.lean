import StageForge.Library.RecentRing
import StageForge.Native.TransportClock

/-!
# The native control state

`CoreControlState` of `core_state.cpp`: transport intent, personal monitor buses, their revisions, a
snapshot that is drafted and committed in one go, and a replay memory of the last 256 commands.

* A command comes with a domain and an id. An id that is not 0 is looked up first; what is found is
  answered again, with the status `duplicate`. **Every other answer is remembered**, whether the
  command was applied or refused (`Outcome.conclude`).
* `mutateTransportScoped`, `mutateMonitorScoped` and the snapshot calls are written branch by branch
  as in the source. A `throw` is a result `none`, and what has been written before it stays written.
-/

namespace StageForge

/-! ## Monitor buses -/

inductive MonitorChannel
  | self
  | vocals
  | band
  | click
  | talkback
  | ambient
  deriving DecidableEq

/-- `MonitorBus::parse_channel`. -/
def MonitorChannel.parse (name : String) : Option MonitorChannel :=
  [("self", self), ("vocals", vocals), ("band", band), ("click", click), ("talkback", talkback),
    ("ambient", ambient)].lookup name

/-- The values of a bus. A snapshot of a bus has the same fields. -/
structure MonitorBus (S : NativeFloats) where
  master : S.Single
  levels : MonitorChannel → S.Single
  muted : Bool

def MonitorBus.initial (S : NativeFloats) : MonitorBus S where
  master := S.single.literal 72
  levels
    | .self => S.single.literal 76
    | .vocals => S.single.literal 58
    | .band => S.single.literal 62
    | .click => S.single.literal 38
    | .talkback => S.single.literal 45
    | .ambient => S.single.literal 28
  muted := false

namespace MonitorBus

variable {S : NativeFloats} (bus : MonitorBus S)

def clampPercent (value : S.Single) : S.Single :=
  if S.single.finite value = false then S.single.literal 0
  else if S.single.less value (S.single.literal 0) then S.single.literal 0
  else if S.single.less (S.single.literal 100) value then S.single.literal 100
  else value

def setMaster (percent : S.Single) : MonitorBus S := { bus with master := clampPercent percent }

def setLevel (channel : MonitorChannel) (percent : S.Single) : MonitorBus S :=
  { bus with levels := Function.update bus.levels channel (clampPercent percent) }

def setMuted (muted : Bool) : MonitorBus S := { bus with muted := muted }

def restore (snapshot : MonitorBus S) : MonitorBus S :=
  { master := clampPercent snapshot.master
    levels := fun channel => clampPercent (snapshot.levels channel)
    muted := snapshot.muted }

end MonitorBus

/-- The buses, in the order in which they were made. -/
abbrev MonitorBusRegistry (S : NativeFloats) := List (String × MonitorBus S)

namespace MonitorBusRegistry

variable {S : NativeFloats} (buses : MonitorBusRegistry S)

def capacity : ℕ := 32

/-- Make the bus of a player if there is none. `none` is an exception. -/
def getOrCreate (player : String) : Option (MonitorBusRegistry S) :=
  if player = "" ∨ 64 < player.utf8ByteSize then none
  else if player ∈ buses.map Prod.fst then some buses
  else if capacity ≤ buses.length then none
  else some (buses ++ [(player, .initial S)])

/-- Write through the reference to the bus of a player. -/
def write (player : String) (f : MonitorBus S → MonitorBus S) : MonitorBusRegistry S :=
  buses.map fun entry => if entry.1 = player then (entry.1, f entry.2) else entry

end MonitorBusRegistry

/-! ## The state -/

inductive CoreMutationStatus
  | applied
  | duplicate
  | conflict
  | invalid
  | staleSnapshot
  | busy
  deriving DecidableEq

inductive CoreCommandDomain
  | control
  | showEvent
  | replication
  | adapter
  deriving DecidableEq

inductive CoreTransportAction
  | play
  | pause
  | stop
  | rewind
  | setBpm
  | seekSeconds
  deriving DecidableEq

structure CoreMutationResult where
  status : CoreMutationStatus
  revision : UInt64
  resourceRevision : UInt64
  externalRevision : UInt64
  deriving DecidableEq

structure CommandKey where
  domain : CoreCommandDomain
  commandId : UInt64
  deriving DecidableEq

structure DedupEntry where
  key : CommandKey
  result : CoreMutationResult
  deriving DecidableEq

structure CoreMetrics where
  revision : UInt64 := 1
  externalRevision : UInt64 := 0
  transportRevision : UInt64 := 1
  appliedCommands : UInt64 := 0
  duplicateCommands : UInt64 := 0
  conflicts : UInt64 := 0
  snapshotCommits : UInt64 := 0
  staleSnapshots : UInt64 := 0
  invalidCommands : UInt64 := 0

structure SnapshotDraft (S : NativeFloats) where
  active : Bool
  externalRevision : UInt64
  hasTransport : Bool
  bpm : S.Double
  seconds : S.Double
  running : Bool
  monitors : List (String × MonitorBus S)

def SnapshotDraft.none (S : NativeFloats) : SnapshotDraft S where
  active := false
  externalRevision := 0
  hasTransport := false
  bpm := S.double.literal 120
  seconds := S.double.literal 0
  running := false
  monitors := []

def coreAnyRevision : UInt64 := 18446744073709551615

structure CoreControlState (S : NativeFloats) where
  transport : TransportClock S
  monitors : MonitorBusRegistry S
  revision : UInt64
  externalRevision : UInt64
  transportRevision : UInt64
  monitorRevisions : List (String × UInt64)
  dedup : RecentRing DedupEntry 256
  draft : SnapshotDraft S
  counters : CoreMetrics

namespace CoreControlState

variable {S : NativeFloats}

def start (sampleRate bpm : S.Double) (now : ℤ) : CoreControlState S where
  transport := .start sampleRate bpm now
  monitors := []
  revision := 1
  externalRevision := 0
  transportRevision := 1
  monitorRevisions := []
  dedup := .empty
  draft := .none S
  counters := {}

variable (c : CoreControlState S)

def currentResult (status : CoreMutationStatus) (resourceRevision : UInt64) : CoreMutationResult where
  status := status
  revision := c.revision
  resourceRevision := resourceRevision
  externalRevision := c.externalRevision

/-- What was answered to a command with this key, as a duplicate. -/
def findDedup (key : CommandKey) : Option CoreMutationResult := if key.commandId = 0 then .none
  else (c.dedup.find? fun entry => decide (entry.key = key)).map fun entry =>
    { entry.result with status := .duplicate }

def rememberDedup (key : CommandKey) (result : CoreMutationResult) : CoreControlState S :=
  if key.commandId = 0 then c else { c with dedup := c.dedup.push ⟨key, result⟩ }

def monitorRevision (player : String) : UInt64 := (c.monitorRevisions.lookup player).getD 1

/-- Raise the revision of a player's monitor. `none` is an exception. -/
def bumpMonitorRevision (player : String) : Option (CoreControlState S × UInt64) :=
  match c.monitorRevisions.lookup player with
  | some revision =>
    some ({ c with
      monitorRevisions := c.monitorRevisions.map fun entry =>
        if entry.1 = player then (entry.1, revision + 1) else entry }, revision + 1)
  | .none =>
    if MonitorBusRegistry.capacity ≤ c.monitorRevisions.length then .none
    else some ({ c with monitorRevisions := c.monitorRevisions ++ [(player, 2)] }, 2)

def countDuplicate : CoreControlState S := { c with counters := { c.counters with
      duplicateCommands := c.counters.duplicateCommands + 1 } }

def countConflict : CoreControlState S :=
  { c with counters := { c.counters with conflicts := c.counters.conflicts + 1 } }

def countInvalid : CoreControlState S :=
  { c with counters := { c.counters with invalidCommands := c.counters.invalidCommands + 1 } }

def countApplied : CoreControlState S := { c with counters := { c.counters with
      appliedCommands := c.counters.appliedCommands + 1
      revision := c.revision } }

/-- What a command that is no duplicate comes to, at whichever exit. -/
structure Outcome (S : NativeFloats) where
  state : CoreControlState S
  status : CoreMutationStatus
  resourceRevision : UInt64

/-- Every exit builds its result from the state it leaves, remembers it and returns it. -/
def Outcome.conclude (o : Outcome S) (key : CommandKey) : CoreControlState S × CoreMutationResult :=
  let result := o.state.currentResult o.status o.resourceRevision
  (o.state.rememberDedup key result, result)

/-- What the other parts of the engine can see of a control state. -/
structure View (S : NativeFloats) where
  transport : TransportClock S
  monitors : MonitorBusRegistry S
  revision : UInt64
  transportRevision : UInt64
  monitorRevision : String → UInt64
  externalRevision : UInt64

def view : View S where
  transport := c.transport
  monitors := c.monitors
  revision := c.revision
  transportRevision := c.transportRevision
  monitorRevision := c.monitorRevision
  externalRevision := c.externalRevision

/-! ## Commands -/

/-- The action on the clock; `none` if its value is not finite. -/
def actOnTransport (action : CoreTransportAction) (value : S.Double) (now : ℤ) :
    Option (TransportClock S) :=
  match action with
  | .play => some (c.transport.play now)
  | .pause => some (c.transport.pause now)
  | .stop => some (c.transport.stop now)
  | .rewind => some (c.transport.rewind now)
  | .setBpm => if S.double.finite value = false then .none else some (c.transport.setBpm value)
  | .seekSeconds =>
    if S.double.finite value = false then .none else some (c.transport.seekSeconds value now)

/-- `mutate_transport_scoped`, after the replay memory. -/
def evaluateTransport (expectedResourceRevision : UInt64) (action : CoreTransportAction)
    (value : S.Double) (now : ℤ) : Outcome S :=
  if c.draft.active then ⟨c, .busy, c.transportRevision⟩
  else if expectedResourceRevision ≠ coreAnyRevision ∧
      expectedResourceRevision ≠ c.transportRevision then
    ⟨c.countConflict, .conflict, c.transportRevision⟩
  else match c.actOnTransport action value now with
    | .none => ⟨c.countInvalid, .invalid, c.transportRevision⟩
    | some transport =>
      let c := { c with
        transport := transport
        revision := c.revision + 1
        transportRevision := c.transportRevision + 1 }
      let c := { c.countApplied with counters := { c.countApplied.counters with
        transportRevision := c.transportRevision } }
      ⟨c, .applied, c.transportRevision⟩

def mutateTransportScoped (key : CommandKey) (expectedResourceRevision : UInt64)
    (action : CoreTransportAction) (value : S.Double) (now : ℤ) :
    CoreControlState S × CoreMutationResult :=
  match c.findDedup key with
  | some cached => (c.countDuplicate, cached)
  | .none => (c.evaluateTransport expectedResourceRevision action value now).conclude key

/-- What a field of a bus becomes; `none` if there is no such field, or the level is not finite. -/
def monitorWrite (field : String) (value : S.Double) : Option (MonitorBus S → MonitorBus S) :=
  if field = "muted" then
    some fun bus => bus.setMuted (!S.double.equal value (S.double.literal 0))
  else if field = "master" then some fun bus => bus.setMaster (S.toSingle value)
  else match MonitorChannel.parse field with
    | .none => .none
    | some channel =>
      if S.double.finite value = false then .none
      else some fun bus => bus.setLevel channel (S.toSingle value)

/-- The `try` block, and what follows an exception. -/
def mutateMonitorBus (player field : String) (value : S.Double) (currentMonitorRevision : UInt64) :
    Outcome S :=
  match c.monitors.getOrCreate player with
  | .none => ⟨c.countInvalid, .invalid, currentMonitorRevision⟩
  | some monitors =>
    let c := { c with monitors := monitors }
    match monitorWrite field value with
    | .none => ⟨c.countInvalid, .invalid, currentMonitorRevision⟩
    | some f =>
      let c := { c with monitors := c.monitors.write player f, revision := c.revision + 1 }
      match c.bumpMonitorRevision player with
      | .none => ⟨c.countInvalid, .invalid, currentMonitorRevision⟩
      | some (c, resourceRevision) => ⟨c.countApplied, .applied, resourceRevision⟩

/-- `mutate_monitor_scoped`, after the replay memory. -/
def evaluateMonitor (expectedResourceRevision : UInt64) (player field : String)
    (value : S.Double) : Outcome S :=
  let currentMonitorRevision := c.monitorRevision player
  if c.draft.active then ⟨c, .busy, currentMonitorRevision⟩
  else if expectedResourceRevision ≠ coreAnyRevision ∧
      expectedResourceRevision ≠ currentMonitorRevision then
    ⟨c.countConflict, .conflict, currentMonitorRevision⟩
  else if player = "" ∨ 64 < player.utf8ByteSize then
    ⟨c.countInvalid, .invalid, currentMonitorRevision⟩
  else c.mutateMonitorBus player field value currentMonitorRevision

def mutateMonitorScoped (key : CommandKey) (expectedResourceRevision : UInt64)
    (player field : String) (value : S.Double) : CoreControlState S × CoreMutationResult :=
  match c.findDedup key with
  | some cached => (c.countDuplicate, cached)
  | .none => (c.evaluateMonitor expectedResourceRevision player field value).conclude key

/-! ## Snapshots -/

def resetDraft : CoreControlState S := { c with draft := .none S }

def beginSnapshot (externalRevision : UInt64) : CoreControlState S × Bool :=
  if c.draft.active ∨ externalRevision < c.externalRevision then (c, false)
  else ({ c with draft := { SnapshotDraft.none S with
    active := true, externalRevision := externalRevision } }, true)

def stageTransport (bpm seconds : S.Double) (running : Bool) : CoreControlState S × Bool :=
  if c.draft.active = false ∨ S.double.finite bpm = false ∨ S.double.finite seconds = false then
    (c, false)
  else ({ c with draft := { c.draft with
    hasTransport := true, bpm := bpm, seconds := seconds, running := running } }, true)

def stageMonitor (player : String) (snapshot : MonitorBus S) : CoreControlState S × Bool :=
  if c.draft.active = false ∨ player = "" ∨ 64 < player.utf8ByteSize then (c, false)
  else if player ∈ c.draft.monitors.map Prod.fst then
    ({ c with draft := { c.draft with
      monitors := c.draft.monitors.map fun entry =>
        if entry.1 = player then (entry.1, snapshot) else entry } }, true)
  else if MonitorBusRegistry.capacity ≤ c.draft.monitors.length then (c, false)
  else ({ c with draft := { c.draft with
    monitors := c.draft.monitors ++ [(player, snapshot)] } }, true)

/-- The loop over the staged monitors; the flag is `false` if it ended with an exception. -/
def commitMonitors : List (String × MonitorBus S) → CoreControlState S → CoreControlState S × Bool
  | [], c => (c, true)
  | (player, snapshot) :: rest, c =>
    match c.monitors.getOrCreate player with
    | .none => (c, false)
    | some monitors =>
      let c := { c with monitors := monitors.write player fun _ => snapshot.restore }
      match c.bumpMonitorRevision player with
      | .none => (c, false)
      | some (c, _) => commitMonitors rest c

/-- What the draft does to the transport. Both readings of the clock are arguments. -/
def commitTransport (sought started : ℤ) : CoreControlState S := if c.draft.hasTransport then
    let transport := (c.transport.setBpm c.draft.bpm).seekSeconds c.draft.seconds sought
    { c with
      transport := if c.draft.running then transport.play started else transport.pause started
      transportRevision := c.transportRevision + 1 }
  else c

def commitSnapshot (sought started : ℤ) : CoreControlState S × CoreMutationResult :=
  if c.draft.active = false then (c, c.currentResult .invalid c.transportRevision)
  else if c.draft.externalRevision < c.externalRevision then
    ({ c with counters := { c.counters with
        staleSnapshots := c.counters.staleSnapshots + 1 } }.resetDraft,
      c.currentResult .staleSnapshot c.transportRevision)
  else if c.draft.externalRevision = c.externalRevision then
    (c.resetDraft, c.currentResult .duplicate c.transportRevision)
  else
    match commitMonitors c.draft.monitors (c.commitTransport sought started) with
    | (c, false) => (c.countInvalid.resetDraft, c.currentResult .invalid c.transportRevision)
    | (c, true) =>
      let c := { c with
        externalRevision := c.draft.externalRevision
        revision := c.revision + 1 }
      let c := { c with counters := { c.counters with
        snapshotCommits := c.counters.snapshotCommits + 1
        revision := c.revision
        externalRevision := c.externalRevision
        transportRevision := c.transportRevision } }
      (c.resetDraft, c.currentResult .applied c.transportRevision)

end CoreControlState

/-! ## Calls -/

inductive CoreCommand (S : NativeFloats)
  | transport (key : CommandKey) (expected : UInt64) (action : CoreTransportAction)
      (value : S.Double) (now : ℤ)
  | monitor (key : CommandKey) (expected : UInt64) (player field : String) (value : S.Double)

namespace CoreCommand

variable {S : NativeFloats}

def key : CoreCommand S → CommandKey
  | transport key _ _ _ _ => key
  | monitor key _ _ _ _ => key

def perform (c : CoreControlState S) : CoreCommand S → CoreControlState S × CoreMutationResult
  | transport key expected action value now =>
    c.mutateTransportScoped key expected action value now
  | monitor key expected player field value =>
    c.mutateMonitorScoped key expected player field value

def evaluate (c : CoreControlState S) : CoreCommand S → CoreControlState.Outcome S
  | transport _ expected action value now => c.evaluateTransport expected action value now
  | monitor _ expected player field value => c.evaluateMonitor expected player field value

lemma perform_eq (c : CoreControlState S) (command : CoreCommand S) :
    command.perform c = match c.findDedup command.key with
      | some cached => (c.countDuplicate, cached)
      | none => (command.evaluate c).conclude command.key := by
  cases command <;> rfl

end CoreCommand

/-- What else can happen to a control state. The last three are accesses through the references
that `transport()` and `monitors()` hand out. -/
inductive CoreCall (S : NativeFloats)
  | beginSnapshot (externalRevision : UInt64)
  | stageTransport (bpm seconds : S.Double) (running : Bool)
  | stageMonitor (player : String) (snapshot : MonitorBus S)
  | commitSnapshot (sought started : ℤ)
  | abortSnapshot
  | clockWritten (clock : TransportClock S)
  | busCreated (player : String)
  | busWritten (player : String) (f : MonitorBus S → MonitorBus S)

def CoreCall.after {S : NativeFloats} (c : CoreControlState S) : CoreCall S → CoreControlState S
  | beginSnapshot externalRevision => (c.beginSnapshot externalRevision).1
  | stageTransport bpm seconds running => (c.stageTransport bpm seconds running).1
  | stageMonitor player snapshot => (c.stageMonitor player snapshot).1
  | commitSnapshot sought started => (c.commitSnapshot sought started).1
  | abortSnapshot => c.resetDraft
  | clockWritten clock => { c with transport := clock }
  | busCreated player => { c with monitors := (c.monitors.getOrCreate player).getD c.monitors }
  | busWritten player f => { c with monitors := c.monitors.write player f }

end StageForge
