import StageForge.Library.SpscQueue
import StageForge.Native.ShowEvents

/-!
# The show event dispatcher

A producer thread hands in events through a bounded queue; the owner thread takes them out, refuses
the ones it has seen of late, lets the others wait in a timeline, and hands those that are due to a
sink. The sink may schedule further events while it is called.
-/

namespace StageForge

inductive ShowEventFate
  | submitted
  | invalid
  | ingressOverflow
  | duplicate
  | timelineOverflow
  | accepted
  | handed
  | droppedLate
  | dispatched
  | dispatchFailure
  | cancelled
  deriving DecidableEq

structure ShowEventNote (S : NativeFloats) where
  fate : ShowEventFate
  event : ShowEvent S

/-- The counters of `ShowEventDispatchMetrics`. -/
structure ShowEventDispatchMetrics where
  submitted : UInt64 := 0
  accepted : UInt64 := 0
  dispatched : UInt64 := 0
  duplicates : UInt64 := 0
  invalid : UInt64 := 0
  ingressOverflow : UInt64 := 0
  timelineOverflow : UInt64 := 0
  late : UInt64 := 0
  droppedLate : UInt64 := 0
  dispatchFailures : UInt64 := 0
  cancelled : UInt64 := 0
  ingressPending : UInt64 := 0
  timelinePending : UInt64 := 0
  nextShowTimeNs : UInt64 := 0

structure ShowEventDispatcher (S : NativeFloats)
    (ingressCapacity timelineCapacity replayCapacity : ℕ) where
  ingress : SpscQueue (ShowEvent S) ingressCapacity
  timeline : ShowTimeline S timelineCapacity
  replay : RecentRing ReplayKey replayCapacity
  metrics : ShowEventDispatchMetrics

inductive SinkScript (S : NativeFloats)
  | done (ok : Bool)
  | schedule (event : ShowEvent S) (next : Bool → SinkScript S)

abbrev ShowEventSink (S : NativeFloats) := ℕ → ShowEvent S → Bool → SinkScript S

namespace ShowEventDispatcher

variable {S : NativeFloats} {ingressCapacity timelineCapacity replayCapacity : ℕ}
  [NeZero replayCapacity]

def start : ShowEventDispatcher S ingressCapacity timelineCapacity replayCapacity where
  ingress := .empty (.blank S)
  timeline := .empty
  replay := .empty
  metrics := {}

variable (d : ShowEventDispatcher S ingressCapacity timelineCapacity replayCapacity)

/-- Among the events accepted of late is one with this key. -/
def seen (key : ReplayKey) : Bool := (d.replay.find? fun other => decide (other = key)).isSome

def remember (key : ReplayKey) :
    ShowEventDispatcher S ingressCapacity timelineCapacity replayCapacity :=
  { d with replay := d.replay.push key }

def publishNext : ShowEventDispatcher S ingressCapacity timelineCapacity replayCapacity :=
  { d with metrics := { d.metrics with nextShowTimeNs := d.timeline.nextShowTimeNs } }

def accept (event : ShowEvent S) :
    ShowEventDispatcher S ingressCapacity timelineCapacity replayCapacity × ShowEventFate :=
  if d.seen event.key then
    ({ d with metrics := { d.metrics with duplicates := d.metrics.duplicates + 1 } }, .duplicate)
  else match d.timeline.schedule event with
    | none =>
      ({ d with metrics := { d.metrics with
        timelineOverflow := d.metrics.timelineOverflow + 1 } }, .timelineOverflow)
    | some timeline =>
      let d := { d with
        timeline := timeline
        metrics := { d.metrics with timelinePending := d.metrics.timelinePending + 1 } }
      let d := d.publishNext.remember event.key
      ({ d with metrics := { d.metrics with accepted := d.metrics.accepted + 1 } }, .accepted)

def scheduleOwned (event : ShowEvent S) :
    ShowEventDispatcher S ingressCapacity timelineCapacity replayCapacity × ShowEventFate :=
  let d := { d with metrics := { d.metrics with submitted := d.metrics.submitted + 1 } }
  if event.isValid = false then
    ({ d with metrics := { d.metrics with invalid := d.metrics.invalid + 1 } }, .invalid)
  else d.accept event

/-- An event has been taken out of the ingress. -/
def popped (ingress : SpscQueue (ShowEvent S) ingressCapacity) :
    ShowEventDispatcher S ingressCapacity timelineCapacity replayCapacity :=
  { d with
    ingress := ingress
    metrics := { d.metrics with ingressPending := d.metrics.ingressPending - 1 } }

/-- The loop of `ingest_pending`. -/
def ingest : ℕ → ShowEventDispatcher S ingressCapacity timelineCapacity replayCapacity →
    ShowEventDispatcher S ingressCapacity timelineCapacity replayCapacity × List (ShowEventNote S)
  | 0, d => (d, [])
  | n + 1, d =>
    match d.ingress.tryPop with
    | none => (d, [])
    | some (event, ingress) =>
      let taken := (d.popped ingress).accept event
      let rest := ingest n taken.1
      (rest.1, rest.2 ++ [⟨taken.2, event⟩])

/-- `ingest_pending`: as many turns as there are events. -/
def ingestPending : ShowEventDispatcher S ingressCapacity timelineCapacity replayCapacity ×
      List (ShowEventNote S) :=
  ingest d.ingress.size d

/-- One call of the sink; the flag is what it returns. -/
def runScript : SinkScript S →
    ShowEventDispatcher S ingressCapacity timelineCapacity replayCapacity →
    ShowEventDispatcher S ingressCapacity timelineCapacity replayCapacity ×
      List (ShowEventNote S) × Bool
  | .done ok, d => (d, [], ok)
  | .schedule event next, d =>
    let owned := d.scheduleOwned event
    let rest := runScript (next (decide (owned.2 = .accepted))) owned.1
    (rest.1, rest.2.1 ++ [⟨owned.2, event⟩, ⟨.submitted, event⟩], rest.2.2)

/-- An event has been taken out of the timeline. -/
def withdrawn (timeline : ShowTimeline S timelineCapacity) :
    ShowEventDispatcher S ingressCapacity timelineCapacity replayCapacity :=
  { d with
    timeline := timeline
    metrics := { d.metrics with timelinePending := d.metrics.timelinePending - 1 } }

def countLate (isLate : Bool) :
    ShowEventDispatcher S ingressCapacity timelineCapacity replayCapacity :=
  if isLate then { d with metrics := { d.metrics with late := d.metrics.late + 1 } } else d

def countDroppedLate : ShowEventDispatcher S ingressCapacity timelineCapacity replayCapacity :=
  { d with metrics := { d.metrics with droppedLate := d.metrics.droppedLate + 1 } }

def settle (ok : Bool) :
    ShowEventDispatcher S ingressCapacity timelineCapacity replayCapacity × ShowEventFate :=
  if ok then
    ({ d with metrics := { d.metrics with dispatched := d.metrics.dispatched + 1 } }, .dispatched)
  else
    ({ d with metrics := { d.metrics with dispatchFailures := d.metrics.dispatchFailures + 1 } },
      .dispatchFailure)

/-- One turn of `dispatch_due`, with an event that has been taken out of the timeline. -/
def handOver (showTimeNs : UInt64) (event : ShowEvent S) (script : Bool → SinkScript S) :
    ShowEventDispatcher S ingressCapacity timelineCapacity replayCapacity ×
      List (ShowEventNote S) :=
  let isLate := decide (showTimeNs > event.showTimeNs)
  let d := d.countLate isLate
  if isLate && event.dropsIfLate then (d.countDroppedLate, [⟨.droppedLate, event⟩])
  else
    let called := runScript (script isLate) d
    let settled := called.1.settle called.2.2
    (settled.1, ⟨settled.2, event⟩ :: (called.2.1 ++ [⟨.handed, event⟩]))

/-- The loop of `dispatch_due`, with at most `fuel` turns. -/
def drain (showTimeNs : UInt64) (sink : ShowEventSink S) : ℕ → ℕ →
    ShowEventDispatcher S ingressCapacity timelineCapacity replayCapacity →
    Option (ShowEventDispatcher S ingressCapacity timelineCapacity replayCapacity ×
      List (ShowEventNote S))
  | 0, _, _ => none
  | fuel + 1, turn, d =>
    match d.timeline.popDue showTimeNs with
    | none => some (d, [])
    | some (event, timeline) =>
      let handed := (d.withdrawn timeline).handOver showTimeNs event (sink turn event)
      (drain showTimeNs sink fuel (turn + 1) handed.1).map fun rest =>
        (rest.1, rest.2 ++ handed.2)

def dispatchDue (showTimeNs : UInt64) (sink : ShowEventSink S) (fuel : ℕ) :
    Option (ShowEventDispatcher S ingressCapacity timelineCapacity replayCapacity ×
      List (ShowEventNote S)) :=
  let ingested := d.ingestPending
  (drain showTimeNs sink fuel 0 ingested.1).map fun drained =>
    (drained.1.publishNext, drained.2 ++ ingested.2)

/-- `cancel`, when what is pending has been ingested. -/
def withdraw (key : ReplayKey) :
    ShowEventDispatcher S ingressCapacity timelineCapacity replayCapacity ×
      List (ShowEventNote S) :=
  match d.timeline.cancel key with
  | none => (d, [])
  | some (event, timeline) =>
    let d := (d.withdrawn timeline).publishNext
    ({ d with metrics := { d.metrics with cancelled := d.metrics.cancelled + 1 } },
      [⟨.cancelled, event⟩])

/-- `cancel`; there is a note of a cancelled event if it returns true. -/
def cancel (key : ReplayKey) :
    ShowEventDispatcher S ingressCapacity timelineCapacity replayCapacity ×
      List (ShowEventNote S) :=
  let ingested := d.ingestPending
  let out := ingested.1.withdraw key
  (out.1, out.2 ++ ingested.2)

end ShowEventDispatcher

end StageForge
