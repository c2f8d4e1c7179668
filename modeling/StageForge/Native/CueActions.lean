import StageForge.Native.ShowEventReplay

/-!
# Cues and their actions

A cue stands for up to 32 actions. When the show loop hands a cue event to its sink, the sink looks the
cue up in the `CoreCueActionGraph`, and schedules an event for each action through `schedule_owned`.
-/

namespace StageForge

open TransitionSystem

/-! ## The graph -/

/-- `ShowEventPayload` of an action, with the member of its `CueActionType`. -/
inductive CueActionPayload (S : NativeFloats)
  | transport (action : UInt32) (value : S.Double)
  | automation (targetId parameterId : UInt64) (value : S.Single) (durationMs : UInt32)
  | midi (status data1 data2 port : UInt8)
  | lighting (dmxUniverse channel : UInt16) (value : UInt8)

def CueActionPayload.toShowEventPayload {S : NativeFloats} : CueActionPayload S → ShowEventPayload S
  | .transport action value => .transport action value
  | .automation targetId parameterId value durationMs =>
    .automation targetId parameterId value durationMs
  | .midi status data1 data2 port => .midi status data1 data2 port
  | .lighting dmxUniverse channel value => .lighting dmxUniverse channel value

structure CueAction (S : NativeFloats) where
  priority : ShowPriority
  offsetNs : UInt64
  ownerId : UInt64
  payload : CueActionPayload S

/-- A cue with its actions; without an id the place is free. -/
structure CueDefinition (S : NativeFloats) where
  cueId : UInt64
  actions : List (CueAction S)

structure CoreCueActionGraph (S : NativeFloats) where
  cues : List (CueDefinition S)
  revision : UInt64

def maxCueActions : ℕ := 32

namespace CueAction

variable {S : NativeFloats}

def derivedId (cueEventId : UInt64) (index : ℕ) : UInt64 :=
  (cueEventId <<< 8) ||| UInt64.ofNat (index + 1)

def derive (cueEventId showNs : UInt64) (index : ℕ) (action : CueAction S) : ShowEvent S where
  eventId := derivedId cueEventId index
  revision := 0
  showTimeNs := showNs + action.offsetNs
  ownerId := action.ownerId
  priority := action.priority
  flags := 0
  payload := action.payload.toShowEventPayload

end CueAction

namespace CoreCueActionGraph

variable {S : NativeFloats}

def empty (maxCues : ℕ) : CoreCueActionGraph S where
  cues := List.replicate maxCues ⟨0, []⟩
  revision := 0

variable (graph : CoreCueActionGraph S)

def slotFor (cueId : UInt64) : Option ℕ := graph.cues.findIdx? (fun cue => cue.cueId = cueId) <|>
    graph.cues.findIdx? (fun cue => cue.cueId = 0)

/-- `define`; `none` if it is refused. -/
def define (cueId : UInt64) (actions : List (CueAction S)) : Option (CoreCueActionGraph S) :=
  if cueId = 0 ∨ maxCueActions < actions.length then none
  else match graph.slotFor cueId with
    | none => none
    | some slot => some { cues := graph.cues.set slot ⟨cueId, actions⟩, revision := graph.revision + 1 }

def find (cueId : UInt64) : Option (CueDefinition S) :=
  graph.cues.find? fun cue => cue.cueId = cueId

def actionsOf (event : ShowEvent S) : List (CueAction S) := match event.payload with
  | .cue cueId => ((graph.find cueId).map CueDefinition.actions).getD []
  | _ => []

/-- No cue has more actions than it has room for. -/
def Bounded : Prop := ∀ cue ∈ graph.cues, cue.actions.length ≤ maxCueActions

variable {graph}

lemma bounded_empty (maxCues : ℕ) : (empty maxCues : CoreCueActionGraph S).Bounded := by
  intro cue hcue
  rw [List.eq_of_mem_replicate hcue]
  exact Nat.zero_le _

lemma Bounded.define (h : graph.Bounded) {cueId : UInt64} {actions : List (CueAction S)}
    {after : CoreCueActionGraph S} (hdefine : graph.define cueId actions = some after) :
    after.Bounded := by
  rw [CoreCueActionGraph.define] at hdefine
  split at hdefine
  · cases hdefine
  · rename_i hallowed
    split at hdefine
    · cases hdefine
    · cases hdefine
      intro cue hcue
      rcases List.mem_or_eq_of_mem_set hcue with hold | rfl
      · exact h cue hold
      · exact Nat.not_lt.mp (not_or.mp hallowed).2

lemma Bounded.length_actionsOf (h : graph.Bounded) (event : ShowEvent S) :
    (graph.actionsOf event).length ≤ maxCueActions := by
  unfold actionsOf
  split
  · rename_i cueId _
    cases hfind : graph.find cueId with
    | none => exact Nat.zero_le _
    | some cue => exact h cue (List.mem_of_find?_eq_some hfind)
  · exact Nat.zero_le _

lemma type_of_actionsOf {event : ShowEvent S} (h : graph.actionsOf event ≠ []) :
    event.type = .cue := by
  unfold actionsOf at h
  split at h
  · rename_i cueId hcue
    rw [ShowEvent.type, hcue]
  · exact absurd rfl h

end CoreCueActionGraph

/-! ## Runs -/

/-- What became of an action, with the number of events that were waiting before. -/
structure CueOutcome where
  fate : ShowEventFate
  waiting : ℕ
  deriving DecidableEq

structure SinkCall (S : NativeFloats) where
  event : ShowEvent S
  /-- No event with this key has been handed over before. -/
  first : Bool
  actions : List (CueAction S)
  outcomes : List CueOutcome

def SinkCall.derived {S : NativeFloats} (call : SinkCall S) (index : ℕ) (action : CueAction S) :
    ShowEvent S :=
  action.derive call.event.eventId call.event.showTimeNs index

inductive Origin (S : NativeFloats)
  | client (event : ShowEvent S)
  | action (parent : ShowEvent S) (index : ℕ) (event : ShowEvent S)

def Origin.event {S : NativeFloats} : Origin S → ShowEvent S
  | .client event => event
  | .action _ _ event => event

structure CueShow (S : NativeFloats) (ingressCapacity timelineCapacity replayCapacity : ℕ) where
  graph : CoreCueActionGraph S
  run : ShowEventRun S ingressCapacity timelineCapacity replayCapacity
  calling : Option (SinkCall S)
  /-- The calls that have returned, the last one first. -/
  calls : List (SinkCall S)
  /-- The origins of the accepted events, the last one first. -/
  origins : List (Origin S)

inductive CueShowAction (S : NativeFloats)
  | define (cueId : UInt64) (actions : List (CueAction S))
  | submit (event : ShowEvent S)
  | advance
  | take
  | hand (showTimeNs : UInt64)
  | expand
  | settle (ok : Bool)
  | withdraw (key : ReplayKey)
  | publish

namespace CueShow

variable {S : NativeFloats} {ingressCapacity timelineCapacity replayCapacity : ℕ}
  [NeZero replayCapacity]

def start (maxCues : ℕ) : CueShow S ingressCapacity timelineCapacity replayCapacity where
  graph := .empty maxCues
  run := .start
  calling := none
  calls := []
  origins := []

variable (s : CueShow S ingressCapacity timelineCapacity replayCapacity)

def judged (origin : Origin S)
    (out : ShowEventDispatcher S ingressCapacity timelineCapacity replayCapacity × ShowEventFate)
    (older : List (ShowEventNote S)) :
    CueShow S ingressCapacity timelineCapacity replayCapacity :=
  { s with
    run := s.run.moved out.1 (⟨out.2, origin.event⟩ :: older)
    origins := if out.2 = .accepted then origin :: s.origins else s.origins }

def sinkCall (event : ShowEvent S) : SinkCall S where
  event := event
  first := s.calls.all fun call => call.event.key ≠ event.key
  actions := s.graph.actionsOf event
  outcomes := []

def scheduleAction (call : SinkCall S) (action : CueAction S) :
    CueShow S ingressCapacity timelineCapacity replayCapacity :=
  let event := call.derived call.outcomes.length action
  let out := s.run.dispatcher.scheduleOwned event
  { s.judged (.action call.event call.outcomes.length event) out [⟨.submitted, event⟩] with
    calling := some { call with
      outcomes := call.outcomes ++ [⟨out.2, s.run.dispatcher.timeline.size⟩] } }

/-- The turns of the producer, of `ingest_pending`, of `dispatch_due` with its sink, and of `cancel`. -/
def step : CueShowAction S → Option (CueShow S ingressCapacity timelineCapacity replayCapacity)
  | .define cueId actions =>
    if s.calling.isSome then none
    else some { s with graph := (s.graph.define cueId actions).getD s.graph }
  | .submit event => (s.run.submit event).map fun run => { s with run }
  | .advance => s.run.advance.map fun run => { s with run }
  | .take =>
    if s.calling.isSome then none
    else s.run.dispatcher.ingress.tryPop.map fun out =>
      s.judged (.client out.1) ((s.run.dispatcher.popped out.2).accept out.1) []
  | .hand showTimeNs =>
    if s.calling.isSome then none
    else (s.run.dispatcher.timeline.popDue showTimeNs).map fun out =>
      { s with
        run := s.run.handed showTimeNs out.1 out.2
        calling := if decide (showTimeNs > out.1.showTimeNs) && out.1.dropsIfLate then none
          else some (s.sinkCall out.1) }
  | .expand => do
    let call ← s.calling
    let action ← call.actions[call.outcomes.length]?
    some (s.scheduleAction call action)
  | .settle ok => do
    let call ← s.calling
    if call.outcomes.length = call.actions.length then
      let out := s.run.dispatcher.settle ok
      some { s with
        run := s.run.moved out.1 [⟨out.2, call.event⟩]
        calling := none
        calls := call :: s.calls }
    else none
  | .withdraw key =>
    if s.calling.isSome then none
    else
      let out := s.run.dispatcher.withdraw key
      some { s with run := s.run.moved out.1 out.2 }
  | .publish => some { s with run := s.run.moved s.run.dispatcher.publishNext [] }

end CueShow

end StageForge
