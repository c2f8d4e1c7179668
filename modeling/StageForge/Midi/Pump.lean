import StageForge.Midi.MappingEngine
import StageForge.Show.MidiObserver

/-!
# Pumping MIDI input

`pump_midi_once` and `mutate` of `backend/runtime.py`, with the ledger that `_after_mutation` appends the new
events to. A round ingests the events that were polled, one after the other, lets the mapping engine observe
each, executes the mapped actions that are due and persists at last, if the revision has changed. What raises
in the middle leaves what has been ingested, and nothing is persisted.
-/

namespace StageForge

open Python TransitionSystem

/-! ## Rounds -/

/-- An event as `poll_midi_inputs` returns it. -/
structure MidiInput where
  deviceId : String
  playerId : String
  showTimeNs : Int
  status : Int
  data1 : Int
  data2 : Int
  deriving DecidableEq

namespace MidiInput

def player (e : MidiInput) : String := strip e.playerId

def seconds (e : MidiInput) : ℚ := max 0 e.showTimeNs / 10 ^ 9

def data (e : MidiInput) : Entries :=
  [("deviceId", .str e.deviceId), ("status", .int e.status), ("data1", .int e.data1), ("data2", .int e.data2),
    ("showTimeSeconds", floatValue e.seconds)]

/-- What the mapping engine observes of the event. -/
def mapped (e : MidiInput) : MappingEvent where
  deviceId := clip 96 e.deviceId
  bytes := { status := e.status.toNat, data1 := e.data1.toNat, data2 := e.data2.toNat }
  seconds := (e.seconds : ℚ)

end MidiInput

/-- A node, as far as MIDI and the ledger go. -/
structure MidiNode where
  state : ShowState
  engine : MidiMappingEngine
  lastPersistedEventId : Int
  /-- The events of the ledger, oldest first. -/
  ledger : List Event := []
  saved : Option ShowState := none
  /-- The events that have been recorded, oldest first. -/
  recorded : List Event := []

/-- An action that starts, stops or retimes the show. -/
def MappedAction.actsOnShow (a : MappedAction) : Bool :=
  (a.targetId = "transport.play" ∧ 0 < a.value) ∨ (a.targetId = "transport.stop" ∧ 0 < a.value) ∨
    a.targetId = "master.tempo"

/-- What `observe` is told about the transport. -/
def Content.mappingTransport (c : Content) : MappingTransport where
  bpm := c.song.bpm
  running := c.transport.running

/-- The position of the transport as a snapshot shows it. -/
def Content.shownSeconds (c : Content) (now : ℚ) : ℚ := round (c.transport.clockSeconds now) 3

section

variable (P : Platform) (power : ℚ → ℚ → ℚ)

namespace MidiNode

def start (s : ShowState) (engine : MidiMappingEngine) : MidiNode where
  state := s
  engine := engine
  lastPersistedEventId := (s.events.head?.map Event.id).getD 0

/-- The show state after a call, which has recorded an event or not. -/
def become (n : MidiNode) (s : ShowState) : MidiNode := { n with
    state := s
    recorded := n.recorded ++ if s.nextEventId = n.state.nextEventId then [] else s.events.head?.toList }

def call (n : MidiNode) (clocks : Clocks) (operation : Mutator) (expected expectedResource : Option Int) :
    MidiNode × Except Failure Entries :=
  let done := (operation.call P clocks).perform clocks expected expectedResource n.state
  (n.become done.1, done.2)

def persistNewEvents (n : MidiNode) : MidiNode :=
  let events := n.state.eventsSince n.lastPersistedEventId
  { n with
    ledger := n.ledger ++ events
    lastPersistedEventId := (events.map Event.id).foldl max n.lastPersistedEventId }

def afterMutation (n : MidiNode) : MidiNode := { n.persistNewEvents with saved := some n.state }

/-- The end of an operation that began at a revision. -/
def settle (n : MidiNode) (beforeRevision : Int) : MidiNode :=
  if n.state.revision ≠ beforeRevision then n.afterMutation else n

def mutate (n : MidiNode) (clocks : Clocks) (operation : Mutator) (expected expectedResource : Option Int) :
    MidiNode × Except Failure Unit :=
  match n.call P clocks operation expected expectedResource with
  | (t, .error failure) => (t, .error failure)
  | (t, .ok _) => (t.settle n.state.revision, .ok ())

/-- One event of a round; an event without a player is skipped. -/
def pumpEvent (n : MidiNode) (clocks : Clocks) (e : MidiInput) : MidiNode × Except Failure Unit :=
  if e.player = "" then (n, .ok ())
  else
    match n.call P clocks (.ingestMidi e.player e.data) none none with
    | (t, .error failure) => (t, .error failure)
    | (t, .ok _) =>
      ({ t with engine := t.engine.observe power t.state.mappingTransport e.mapped }, .ok ())

def pumpEvents : List (Clocks × MidiInput) → MidiNode → MidiNode × Except Failure Unit
  | [], n => (n, .ok ())
  | (clocks, e) :: batch, n =>
    match n.pumpEvent P power clocks e with
    | (t, .error failure) => (t, .error failure)
    | (t, .ok ()) => pumpEvents batch t

def executeAction (n : MidiNode) (clocks : Clocks) (a : MappedAction) : MidiNode × Except Failure Unit :=
  if a.targetId = "transport.play" ∧ 0 < a.value then
    (n.call P clocks (.transport "play") none none).map id (Except.map fun _ => ())
  else if a.targetId = "transport.stop" ∧ 0 < a.value then
    (n.call P clocks (.transport "stop") none none).map id (Except.map fun _ => ())
  else if a.targetId = "master.tempo" then
    (n.call P clocks (.patchShow [("bpm", floatValue a.value)]) none none).map id (Except.map fun _ => ())
  else (n, .ok ())

/-- `_execute_midi_mapping_actions`, until one raises. -/
def executeActions (clocks : Clocks) : List MappedAction → MidiNode → MidiNode × Except Failure Unit
  | [], n => (n, .ok ())
  | a :: actions, n =>
    match n.executeAction P clocks a with
    | (t, .error failure) => (t, .error failure)
    | (t, .ok ()) => executeActions clocks actions t

/-- The actions that are due are taken from the engine and executed, at the position that a snapshot shows. -/
def executeDue (n : MidiNode) (clocks : Clocks) : MidiNode × Except Failure Unit :=
  match (n.state.answer { notes := false, extensions := false } clocks.now).2 with
  | .error failure => (n, .error failure)
  | .ok _ =>
    let drained := n.engine.drainDue (n.state.shownSeconds clocks.now)
    executeActions P clocks drained.1 { n with engine := drained.2 }

/-- `pump_midi_once`, for the events that were polled. -/
def pumpMidiOnce (n : MidiNode) (clocks : Clocks) (batch : List (Clocks × MidiInput)) :
    MidiNode × Except Failure Unit :=
  if batch = [] then (n, .ok ())
  else
    match n.pumpEvents P power batch with
    | (t, .error failure) => (t, .error failure)
    | (t, .ok ()) =>
      match t.executeDue P clocks with
      | (u, .error failure) => (u, .error failure)
      | (u, .ok ()) => (u.settle n.state.revision, .ok ())

end MidiNode

inductive MidiOperation
  | mutate (clocks : Clocks) (operation : Mutator) (expected expectedResource : Option Int)
  | pump (clocks : Clocks) (batch : List (Clocks × MidiInput))

/-- The node after an operation, and whether it has raised. -/
def MidiNode.perform (n : MidiNode) : MidiOperation → MidiNode × Except Failure Unit
  | .mutate clocks operation expected expectedResource => n.mutate P clocks operation expected expectedResource
  | .pump clocks batch => n.pumpMidiOnce P power clocks batch

def MidiNode.step (n : MidiNode) (operation : MidiOperation) : Option MidiNode := some (n.perform P power operation).1

/-- What the engine makes of the events of a round. -/
def observeBatch (transport : MappingTransport) (engine : MidiMappingEngine) (batch : List (Clocks × MidiInput)) :
    MidiMappingEngine :=
  batch.foldl (fun engine e => if e.2.player = "" then engine else engine.observe power transport e.2.mapped) engine

/-- How many events an operation may record: one for a call, and for a round one for each event that names a
player and each due action that acts on the show. -/
def MidiOperation.mayRecord (n : MidiNode) : MidiOperation → ℕ
  | .mutate .. => 1
  | .pump clocks batch =>
    batch.countP (fun e => e.2.player ≠ "") +
      (((observeBatch power n.state.mappingTransport n.engine batch).drainDue
        (n.state.shownSeconds clocks.now)).1.countP MappedAction.actsOnShow)

/-- The events that wait for the ledger and those that the operation may record are at most as many as the
state keeps. -/
def MidiOperation.Fits (n : MidiNode) (operation : MidiOperation) : Prop :=
  (n.state.eventsSince n.lastPersistedEventId).length + operation.mayRecord power n ≤ 100

instance (n : MidiNode) (operation : MidiOperation) : Decidable (operation.Fits power n) :=
  inferInstanceAs (Decidable (_ ≤ _))

end

/-! ## The ledger -/

section

variable {P : Platform} {power : ℚ → ℚ → ℚ} {n t : MidiNode} {waiting : List Event} {clocks : Clocks}

/-- **What a call can make of the state**: nothing, what it has assigned, or that with what it touches, recorded or
not. -/
lemma Call.perform_cases {call : Call} {expected expectedResource : Option Int} {s : ShowState} :
    (call.perform clocks expected expectedResource s).1 = s ∨
    (call.perform clocks expected expectedResource s).1 = { s with toLive := call.written s.toLive } ∨
    (call.perform clocks expected expectedResource s).1 =
      { s with toLive := (call.written s.toLive).touch (call.touched s.toContent) } ∨
    ∃ notice, (call.perform clocks expected expectedResource s).1 =
      { s with toLive := ((call.written s.toLive).touch (call.touched s.toContent)).record clocks notice } := by
  cases hcheck : s.checkRevision expected expectedResource call.key with
  | error failure => exact Or.inl (congrArg Prod.fst (perform_of_conflict hcheck))
  | ok _ =>
    refine Or.inr ?_
    cases hout : (call.outcome s.toContent).2 with
    | error e => exact Or.inl (congrArg Prod.fst (perform_of_rejected hcheck hout))
    | ok _ =>
      by_cases htouched : call.touched s.toContent = []
      · exact Or.inl (congrArg Prod.fst (perform_of_idle hcheck hout htouched))
      · refine Or.inr ?_
        cases hnotice : call.notice (call.outcome s.toContent).1 (call.written s.toLive).toContent with
        | error e => exact Or.inl (congrArg Prod.fst (perform_of_unnoticed hcheck hout htouched hnotice))
        | ok notice =>
          exact Or.inr ⟨notice, congrArg Prod.fst (perform_of_noticed hcheck hout htouched hnotice)⟩

lemma Call.perform_records {call : Call} {expected expectedResource : Option Int} {s : ShowState} :
    ((call.perform clocks expected expectedResource s).1.nextEventId = s.nextEventId ∧
      (call.perform clocks expected expectedResource s).1.events = s.events) ∨
    ∃ event : Event, event.id = s.nextEventId ∧
      (call.perform clocks expected expectedResource s).1.nextEventId = s.nextEventId + 1 ∧
      (call.perform clocks expected expectedResource s).1.events = (event :: s.events).take 100 := by
  rcases @perform_cases clocks call expected expectedResource s with hsame | hwritten | htouched | ⟨notice, hnoticed⟩
  · rw [hsame]
    exact Or.inl ⟨rfl, rfl⟩
  · rw [hwritten]
    exact Or.inl ⟨rfl, rfl⟩
  · rw [htouched]
    exact Or.inl ⟨rfl, rfl⟩
  · rw [hnoticed]
    exact Or.inr ⟨_, rfl, rfl, rfl⟩

namespace MidiNode

/-- How the ledger, the mark and the list of the last events belong together, when some events still wait for the
ledger. -/
structure Keeps (n : MidiNode) (waiting : List Event) : Prop where
  recorded : n.recorded = n.ledger ++ waiting
  increasing : (n.recorded.map Event.id).Pairwise (· < ·)
  below : ∀ e ∈ n.recorded, e.id < n.state.nextEventId
  persisted : ∀ e ∈ n.ledger, e.id ≤ n.lastPersistedEventId
  waits : ∀ e ∈ waiting, n.lastPersistedEventId < e.id
  mark : n.lastPersistedEventId < n.state.nextEventId
  window : ∃ old, (∀ e ∈ old, e.id ≤ n.lastPersistedEventId) ∧
    n.state.events = n.recorded.reverse.take 100 ++ old

variable {s : ShowState}

lemma Keeps.become_of_same (h : n.Keeps waiting) (hnext : s.nextEventId = n.state.nextEventId)
    (hevents : s.events = n.state.events) : (n.become s).Keeps waiting := by
  have hrecorded : (n.become s).recorded = n.recorded := by
    rw [become, if_pos hnext, List.append_nil]
  exact {
    recorded := hrecorded.trans h.recorded
    increasing := by
      rw [hrecorded]
      exact h.increasing
    below := by
      rw [hrecorded]
      exact fun e he => (h.below e he).trans_eq hnext.symm
    persisted := h.persisted
    waits := h.waits
    mark := h.mark.trans_eq hnext.symm
    window := by
      rw [hrecorded]
      obtain ⟨old, hold, hlist⟩ := h.window
      exact ⟨old, hold, hevents.trans hlist⟩ }

lemma Keeps.become_of_recorded (h : n.Keeps waiting) {event : Event}
    (hid : event.id = n.state.nextEventId) (hnext : s.nextEventId = n.state.nextEventId + 1)
    (hevents : s.events = (event :: n.state.events).take 100) : (n.become s).Keeps (waiting ++ [event]) := by
  have hne : s.nextEventId ≠ n.state.nextEventId := by omega
  have hrecorded : (n.become s).recorded = n.recorded ++ [event] := by
    rw [become, if_neg hne, hevents]
    rfl
  exact {
    recorded := by
      rw [hrecorded, h.recorded, List.append_assoc]
      rfl
    increasing := by
      rw [hrecorded, List.map_append]
      refine List.pairwise_append.mpr ⟨h.increasing, List.pairwise_singleton _ _, fun i hi j hj => ?_⟩
      obtain ⟨e, he, rfl⟩ := List.mem_map.mp hi
      rw [List.map_singleton, List.mem_singleton] at hj
      rw [hj, hid]
      exact h.below e he
    below := by
      intro e he
      rw [hrecorded] at he
      change e.id < s.nextEventId
      rcases List.mem_append.mp he with hold | hnew
      · have hbelow := h.below e hold
        omega
      · rw [List.mem_singleton.mp hnew]
        omega
    persisted := h.persisted
    waits := by
      intro e he
      rcases List.mem_append.mp he with hold | hnew
      · exact h.waits e hold
      · rw [List.mem_singleton.mp hnew, hid]
        exact h.mark
    mark := by
      change n.lastPersistedEventId < s.nextEventId
      have hmark := h.mark
      omega
    window := by
      obtain ⟨old, hold, hlist⟩ := h.window
      refine ⟨old.take (100 - (event :: n.recorded.reverse.take 100).length), fun e he =>
        hold e (List.mem_of_mem_take he), ?_⟩
      change s.events = _
      rw [hrecorded, hevents, hlist, List.reverse_append, ← List.cons_append, List.take_append]
      congr 1
      change (event :: n.recorded.reverse.take 100).take 100 = (event :: n.recorded.reverse).take 100
      rw [List.take_succ_cons, List.take_succ_cons, List.take_take]
      rfl }

lemma Keeps.eventsSince_eq (h : n.Keeps waiting) (hfew : waiting.length ≤ 100) :
    n.state.eventsSince n.lastPersistedEventId = waiting := by
  obtain ⟨old, hold, hlist⟩ := h.window
  have hdrop : (n.recorded.reverse.take 100).reverse =
      n.ledger.drop (n.recorded.length - 100) ++ waiting := by
    rw [List.reverse_take, List.reverse_reverse, List.length_reverse]
    conv_lhs => rw [h.recorded]
    have hlength := congrArg List.length h.recorded
    rw [List.length_append] at hlength
    rw [List.drop_append_of_le_length]
    · rw [← h.recorded]
    · rw [← h.recorded]
      omega
  unfold Live.eventsSince
  rw [hlist, List.reverse_append, hdrop, List.filter_append, List.filter_append,
    List.filter_eq_nil_iff.mpr, List.filter_eq_nil_iff.mpr, List.filter_eq_self.mpr]
  · rfl
  · exact fun e he => decide_eq_true (h.waits e he)
  · intro e he
    have hle := h.persisted e (List.mem_of_mem_drop he)
    simpa using hle
  · intro e he
    have hle := hold e (List.mem_reverse.mp he)
    simpa using hle

lemma le_foldl_max : ∀ (ids : List Int) (mark : Int),
    mark ≤ ids.foldl max mark ∧ ∀ i ∈ ids, i ≤ ids.foldl max mark
  | [], mark => ⟨le_refl mark, fun i hi => absurd hi List.not_mem_nil⟩
  | i :: ids, mark => by
    obtain ⟨hle, hall⟩ := le_foldl_max ids (max mark i)
    refine ⟨(le_max_left mark i).trans hle, fun j hj => ?_⟩
    rcases List.mem_cons.mp hj with rfl | hrest
    · exact (le_max_right mark j).trans hle
    · exact hall j hrest

lemma foldl_max_lt : ∀ (ids : List Int) (mark bound : Int), mark < bound → (∀ i ∈ ids, i < bound) →
    ids.foldl max mark < bound
  | [], _, _, hmark, _ => hmark
  | i :: ids, mark, bound, hmark, hids =>
    foldl_max_lt ids (max mark i) bound (max_lt hmark (hids i List.mem_cons_self)) fun j hj =>
      hids j (List.mem_cons_of_mem i hj)

lemma Keeps.persist (h : n.Keeps waiting) (hfew : waiting.length ≤ 100) : n.afterMutation.Keeps [] := by
  have hsince := h.eventsSince_eq hfew
  have hledger : n.afterMutation.ledger = n.recorded := by
    change n.ledger ++ n.state.eventsSince n.lastPersistedEventId = n.recorded
    rw [hsince, h.recorded]
  have hmark : n.afterMutation.lastPersistedEventId =
      (waiting.map Event.id).foldl max n.lastPersistedEventId := by
    change ((n.state.eventsSince n.lastPersistedEventId).map Event.id).foldl max _ = _
    rw [hsince]
  obtain ⟨hle, hall⟩ := le_foldl_max (waiting.map Event.id) n.lastPersistedEventId
  have hlt := foldl_max_lt (waiting.map Event.id) n.lastPersistedEventId n.state.nextEventId
    h.mark fun i hi => by
      obtain ⟨e, he, rfl⟩ := List.mem_map.mp hi
      exact h.below e (h.recorded ▸ List.mem_append_right _ he)
  exact {
    recorded := by
      rw [hledger, List.append_nil]
      rfl
    increasing := h.increasing
    below := h.below
    persisted := by
      intro e he
      rw [hledger, h.recorded] at he
      rw [hmark]
      rcases List.mem_append.mp he with hold | hnew
      · exact (h.persisted e hold).trans hle
      · exact hall e.id (List.mem_map_of_mem hnew)
    waits := fun e he => absurd he List.not_mem_nil
    mark := by
      rw [hmark]
      exact hlt
    window := by
      obtain ⟨old, hold, hlist⟩ := h.window
      refine ⟨old, fun e he => ?_, hlist⟩
      rw [hmark]
      exact (hold e he).trans hle }

/-- From one node to another at most so many events have been recorded, and all of them wait. -/
def Grows (k : ℕ) (n t : MidiNode) : Prop :=
  ∀ waiting, n.Keeps waiting → ∃ more, more.length ≤ k ∧ t.Keeps (waiting ++ more)

lemma Grows.refl {k : ℕ} (n : MidiNode) : Grows k n n := fun waiting h =>
  ⟨[], Nat.zero_le k, by rwa [List.append_nil]⟩

lemma Grows.trans {j k : ℕ} {u : MidiNode} (hfirst : Grows j n t) (hsecond : Grows k t u) :
    Grows (j + k) n u := by
  intro waiting h
  obtain ⟨more, hmore, ht⟩ := hfirst waiting h
  obtain ⟨rest, hrest, hu⟩ := hsecond _ ht
  refine ⟨more ++ rest, ?_, ?_⟩
  · rw [List.length_append]
    omega
  · rwa [← List.append_assoc]

lemma Grows.mono {j k : ℕ} (h : Grows j n t) (hle : j ≤ k) : Grows k n t := fun waiting hn => by
  obtain ⟨more, hmore, ht⟩ := h waiting hn
  exact ⟨more, hmore.trans hle, ht⟩

lemma Grows.withEngine {k : ℕ} (h : Grows k n t) (engine : MidiMappingEngine) :
    Grows k n { t with engine := engine } := fun waiting hn => by
  obtain ⟨more, hmore, ht⟩ := h waiting hn
  exact ⟨more, hmore, ht.recorded, ht.increasing, ht.below, ht.persisted, ht.waits, ht.mark, ht.window⟩

lemma grows_call (n : MidiNode) (operation : Mutator) (expected expectedResource : Option Int) :
    Grows 1 n (n.call P clocks operation expected expectedResource).1 := by
  intro waiting h
  rcases @Call.perform_records clocks (operation.call P clocks) expected expectedResource n.state with
    ⟨hnext, hevents⟩ | ⟨event, hid, hnext, hevents⟩
  · refine ⟨[], Nat.zero_le 1, ?_⟩
    rw [List.append_nil]
    exact h.become_of_same hnext hevents
  · exact ⟨[event], le_refl 1, h.become_of_recorded hid hnext hevents⟩

lemma grows_pumpEvent (n : MidiNode) (e : MidiInput) :
    Grows (if e.player ≠ "" then 1 else 0) n (n.pumpEvent P power clocks e).1 := by
  unfold pumpEvent
  by_cases hnone : e.player = ""
  · rw [if_pos hnone]
    exact Grows.refl n
  · rw [if_neg hnone, if_pos hnone]
    have hcall := @grows_call P clocks n (.ingestMidi e.player e.data) none none
    cases hgo : n.call P clocks (.ingestMidi e.player e.data) none none with
    | mk t result =>
      rw [hgo] at hcall
      cases result with
      | error failure => exact hcall
      | ok doc => exact hcall.withEngine _

lemma grows_pumpEvents : ∀ (batch : List (Clocks × MidiInput)) (n : MidiNode),
    Grows (batch.countP fun e => e.2.player ≠ "") n (n.pumpEvents P power batch).1
  | [], n => Grows.refl n
  | (clocks, e) :: batch, n => by
    have hone := @grows_pumpEvent P power clocks n e
    have hcount : (List.countP (fun e => decide (e.2.player ≠ "")) ((clocks, e) :: batch)) =
        (if e.player ≠ "" then 1 else 0) + batch.countP fun e => decide (e.2.player ≠ "") := by
      rw [List.countP_cons, Nat.add_comm]
      simp
    rw [hcount]
    unfold pumpEvents
    cases hgo : n.pumpEvent P power clocks e with
    | mk t result =>
      rw [hgo] at hone
      cases result with
      | error failure => exact hone.mono (Nat.le_add_right _ _)
      | ok _ => exact hone.trans (grows_pumpEvents batch t)

lemma grows_executeAction (n : MidiNode) (a : MappedAction) :
    Grows (if a.actsOnShow then 1 else 0) n (n.executeAction P clocks a).1 := by
  unfold executeAction MappedAction.actsOnShow
  by_cases hplay : a.targetId = "transport.play" ∧ 0 < a.value
  · rw [if_pos hplay, if_pos (by simp [hplay])]
    exact grows_call n _ none none
  · rw [if_neg hplay]
    by_cases hstop : a.targetId = "transport.stop" ∧ 0 < a.value
    · rw [if_pos hstop, if_pos (by simp [hstop])]
      exact grows_call n _ none none
    · rw [if_neg hstop]
      by_cases htempo : a.targetId = "master.tempo"
      · rw [if_pos htempo, if_pos (by simp [htempo])]
        exact grows_call n _ none none
      · rw [if_neg htempo]
        exact Grows.refl n

lemma grows_executeActions : ∀ (actions : List MappedAction) (n : MidiNode),
    Grows (actions.countP MappedAction.actsOnShow) n (n.executeActions P clocks actions).1
  | [], n => Grows.refl n
  | a :: actions, n => by
    have hone := @grows_executeAction P clocks n a
    rw [List.countP_cons, Nat.add_comm]
    unfold executeActions
    cases hgo : n.executeAction P clocks a with
    | mk t result =>
      rw [hgo] at hone
      cases result with
      | error failure => exact hone.mono (Nat.le_add_right _ _)
      | ok _ => exact hone.trans (grows_executeActions actions t)

lemma pumpEvent_transport (n : MidiNode) (e : MidiInput) :
    (n.pumpEvent P power clocks e).1.state.transport = n.state.transport ∧
      (n.pumpEvent P power clocks e).1.state.song = n.state.song := by
  have hcall : ∀ s : ShowState, ((ingestMidi P clocks e.player e.data).perform clocks none none s).1.transport =
      s.transport ∧ ((ingestMidi P clocks e.player e.data).perform clocks none none s).1.song = s.song := by
    intro s
    let ingest := ingestMidi P clocks e.player e.data
    have hcheck : s.checkRevision none none ingest.key = .ok () := rfl
    cases hout : (ingest.outcome s.toContent).2 with
    | error e =>
      rw [@Call.perform_of_rejected ingest _ _ _ _ _ hcheck hout]
      exact ⟨rfl, rfl⟩
    | ok _ =>
      have htouched : ingest.touched s.toContent ≠ [] := List.cons_ne_nil _ _
      rw [@Call.perform_of_noticed ingest _ _ _ _ _ hcheck hout htouched rfl]
      exact ⟨rfl, rfl⟩
  unfold pumpEvent
  by_cases hnone : e.player = ""
  · rw [if_pos hnone]
    exact ⟨rfl, rfl⟩
  · rw [if_neg hnone]
    have hstate : (n.call P clocks (.ingestMidi e.player e.data) none none).1.state =
        ((ingestMidi P clocks e.player e.data).perform clocks none none n.state).1 := rfl
    cases hgo : n.call P clocks (.ingestMidi e.player e.data) none none with
    | mk t result =>
      rw [hgo] at hstate
      have ht : t.state.transport = n.state.transport ∧ t.state.song = n.state.song := by
        rw [hstate]
        exact hcall n.state
      cases result with
      | error failure => exact ht
      | ok doc => exact ht

lemma pumpEvents_engine : ∀ (batch : List (Clocks × MidiInput)) (n : MidiNode) {t : MidiNode},
    n.pumpEvents P power batch = (t, .ok ()) →
      t.engine = observeBatch power n.state.mappingTransport n.engine batch ∧
        t.state.transport = n.state.transport ∧ t.state.song = n.state.song
  | [], n, t, h => by
    obtain rfl : n = t := congrArg Prod.fst h
    exact ⟨rfl, rfl, rfl⟩
  | (clocks, e) :: batch, n, t, h => by
    unfold pumpEvents at h
    have hsame := @pumpEvent_transport P power clocks n e
    cases hgo : n.pumpEvent P power clocks e with
    | mk u result =>
      rw [hgo] at h hsame
      cases result with
      | error failure => cases h
      | ok _ =>
        obtain ⟨hengine, htransport, hsong⟩ := pumpEvents_engine batch u h
        refine ⟨hengine.trans ?_, htransport.trans hsame.1, hsong.trans hsame.2⟩
        have hmapping : u.state.mappingTransport = n.state.mappingTransport := by
          unfold Content.mappingTransport
          rw [hsame.1, hsame.2]
        have hstep : u.engine = if e.player = "" then n.engine
            else n.engine.observe power n.state.mappingTransport e.mapped := by
          unfold pumpEvent at hgo
          by_cases hnone : e.player = ""
          · rw [if_pos hnone] at hgo ⊢
            exact congrArg (fun r => r.1.engine) hgo.symm
          · rw [if_neg hnone] at hgo ⊢
            cases hcall : n.call P clocks (.ingestMidi e.player e.data) none none with
            | mk v outcome =>
              have hbefore : v.engine = n.engine := congrArg (fun r => r.1.engine) hcall.symm
              rw [hcall] at hgo
              cases outcome with
              | error failure => cases hgo
              | ok doc =>
                obtain rfl : ({ v with
                    engine := (v.engine.observe power v.state.mappingTransport e.mapped) } :
                      MidiNode) = u := congrArg Prod.fst hgo
                rw [← hmapping, ← hbefore]
        rw [hmapping, hstep]
        rfl

lemma Keeps.settle (h : n.Keeps waiting) (hfew : waiting.length ≤ 100) (before : Int) :
    ∃ waiting', waiting'.length ≤ 100 ∧ (n.settle before).Keeps waiting' := by
  unfold MidiNode.settle
  split
  · exact ⟨[], Nat.zero_le 100, h.persist hfew⟩
  · exact ⟨waiting, hfew, h⟩

lemma grows_executeDue (n : MidiNode) :
    Grows ((n.engine.drainDue (n.state.shownSeconds clocks.now)).1.countP MappedAction.actsOnShow) n
      (n.executeDue P clocks).1 := by
  unfold executeDue
  split
  · exact Grows.refl n
  have hdrained := (Grows.refl (k := 0) n).withEngine (n.engine.drainDue (n.state.shownSeconds clocks.now)).2
  have hboth := hdrained.trans (@grows_executeActions P clocks
    (n.engine.drainDue (n.state.shownSeconds clocks.now)).1 _)
  rwa [Nat.zero_add] at hboth

/-- **An operation that fits leaves the ledger in order.** -/
theorem perform_keeps (h : n.Keeps waiting) (hfew : waiting.length ≤ 100) {operation : MidiOperation}
    (hfits : operation.Fits power n) :
    ∃ t waiting', waiting'.length ≤ 100 ∧ t.Keeps waiting' ∧ ((n.perform P power operation).1 = t ∧
          ((n.perform P power operation).2 = .ok () → t.state.revision = n.state.revision) ∨
        (n.perform P power operation).1 = t.settle n.state.revision) := by
  unfold MidiOperation.Fits at hfits
  rw [h.eventsSince_eq hfew] at hfits
  cases operation with
  | mutate clocks operation expected expectedResource =>
    obtain ⟨more, hmore, ht⟩ := @grows_call P clocks n operation expected expectedResource waiting h
    refine ⟨_, _, ?_, ht, ?_⟩
    · rw [List.length_append]
      exact (Nat.add_le_add_left hmore _).trans hfits
    · unfold MidiNode.perform MidiNode.mutate
      dsimp only
      split
      · next hgo => exact Or.inl ⟨(congrArg Prod.fst hgo).symm, fun hok => by cases hok⟩
      · next hgo => exact Or.inr (congrArg (fun r => r.1.settle n.state.revision) hgo).symm
  | pump clocks batch =>
    unfold MidiNode.perform MidiNode.pumpMidiOnce
    dsimp only
    split
    · exact ⟨n, waiting, hfew, h, Or.inl ⟨rfl, fun _ => rfl⟩⟩
    · have hevents := @grows_pumpEvents P power batch n
      cases hgo : n.pumpEvents P power batch with
      | mk t result =>
        rw [hgo] at hevents
        cases result with
        | error failure =>
          obtain ⟨more, hmore, ht⟩ := hevents waiting h
          refine ⟨t, _, ?_, ht, Or.inl ⟨rfl, fun hok => by cases hok⟩⟩
          rw [List.length_append]
          exact (Nat.add_le_add_left (hmore.trans (Nat.le_add_right _ _)) _).trans hfits
        | ok _ =>
          have hdue := @grows_executeDue P clocks t
          obtain ⟨hengine, htransport, hsong⟩ := pumpEvents_engine batch n hgo
          have hshown : t.state.shownSeconds clocks.now = n.state.shownSeconds clocks.now := by
            unfold Content.shownSeconds
            rw [htransport]
          rw [hengine, hshown] at hdue
          obtain ⟨more, hmore, hu⟩ := hevents.trans hdue waiting h
          have hlength : (waiting ++ more).length ≤ 100 := by
            rw [List.length_append]
            exact (Nat.add_le_add_left hmore _).trans hfits
          dsimp only
          cases hend : t.executeDue P clocks with
          | mk u outcome =>
            rw [hend] at hu
            refine ⟨u, _, hlength, hu, ?_⟩
            cases outcome with
            | error failure => exact Or.inl ⟨rfl, fun hok => by cases hok⟩
            | ok _ => exact Or.inr rfl

lemma restored_below {doc : Entries} {hold : Bool} {now : ℚ} {s : Live}
    (h : (Script.run (restoreItems P doc hold now) s).2 = .ok ()) :
    ∀ e ∈ (Script.run (restoreItems P doc hold now) s).1.events,
      e.id < (Script.run (restoreItems P doc hold now) s).1.nextEventId := by
  have hsplit : ∃ before item, restoreItems P doc hold now = before ++ [item] ∧
      ∀ b c : Live, item b = .ok c → ∀ e ∈ c.events, e.id < c.nextEventId := by
    refine ⟨restorePolicies P doc hold now ++ restoreDevices P doc ++ restorePlayers P doc ++
      (restorePerformance P doc).dropLast, fun s => do
        let events ← restoredEvents P doc
        return { s with
          events := events.take 100
          nextEventId := max ((events.map Event.id).foldl max 0 + 1) 1 }, ?_, ?_⟩
    · rw [List.append_assoc _ (List.dropLast _)]
      rfl
    · intro b c hc e he
      obtain ⟨events, -, hc⟩ := bind_eq_ok.mp hc
      cases hc
      have hle := (le_foldl_max (events.map Event.id) 0).2 e.id
        (List.mem_map_of_mem (List.mem_of_mem_take he))
      exact lt_of_lt_of_le (Int.lt_add_one_of_le hle) (le_max_left _ _)
  obtain ⟨before, item, hitems, hitem⟩ := hsplit
  rw [hitems, Script.run_append] at h ⊢
  cases hbefore : Script.run before s with
  | mk b result =>
    rw [hbefore] at h
    cases result with
    | error e => cases h
    | ok _ =>
      dsimp only at h ⊢
      unfold Script.run at h ⊢
      cases hdone : item b with
      | error e =>
        rw [hdone] at h
        cases h
      | ok c => exact hitem b c hdone

lemma keeps_start {snapshot : Value} (engine : MidiMappingEngine)
    (hload : ShowState.load P clocks snapshot = .ok s) : (start s engine).Keeps [] := by
  have hevents : ∃ (before : Live) (notice : Live.Notice), s.toLive = before.record clocks notice ∧
      ∀ e ∈ before.events, e.id < before.nextEventId := by
    unfold ShowState.load at hload
    split at hload
    · cases hload
      exact ⟨_, _, rfl, fun e he => absurd he List.not_mem_nil⟩
    · obtain ⟨⟨doc, report⟩, -, hload⟩ := bind_eq_ok.mp hload
      obtain ⟨u, hrun, hload⟩ := bind_eq_ok.mp hload
      cases hload
      exact ⟨_, _, rfl, restored_below hrun⟩
  obtain ⟨before, notice, hlive, hbelow⟩ := hevents
  have hmark : (start s engine).lastPersistedEventId = before.nextEventId := by
    change (s.toLive.events.head?.map Event.id).getD 0 = before.nextEventId
    rw [hlive]
    rfl
  exact {
    recorded := rfl
    increasing := List.Pairwise.nil
    below := fun e he => absurd he List.not_mem_nil
    persisted := fun e he => absurd he List.not_mem_nil
    waits := fun e he => absurd he List.not_mem_nil
    mark := by
      rw [hmark]
      change before.nextEventId < s.toLive.nextEventId
      rw [hlive]
      exact Int.lt_succ before.nextEventId
    window := by
      refine ⟨s.events, fun e he => ?_, rfl⟩
      rw [hmark]
      rw [hlive] at he
      rcases List.mem_cons.mp (List.mem_of_mem_take he) with rfl | hold
      · exact le_refl before.nextEventId
      · exact (hbelow e hold).le }

end MidiNode

/-- **The ledger is complete** as long as at most 100 events wait for it: it has what has been recorded, once and
in the order of the ids, and all of it when an operation has persisted a change. -/
theorem ledger_complete {snapshot : Value} {s : ShowState} {engine : MidiMappingEngine}
    {operations : List MidiOperation} (hload : ShowState.load P clocks snapshot = .ok s)
    (h : Reaches (MidiNode.step P power) (fun n (operation : MidiOperation) => operation.Fits power n)
      (MidiNode.start s engine)
      operations n) :
    n.ledger <+: n.recorded ∧ (n.recorded.map Event.id).Pairwise (· < ·) ∧
    ∀ operation : MidiOperation, operation.Fits power n → (n.perform P power operation).2 = .ok () →
      (n.perform P power operation).1.state.revision ≠ n.state.revision →
        (n.perform P power operation).1.ledger = (n.perform P power operation).1.recorded := by
  have hkeeps : ∃ waiting, waiting.length ≤ 100 ∧ n.Keeps waiting := by
    refine h.invariant (I := fun n : MidiNode => ∃ waiting, waiting.length ≤ 100 ∧ n.Keeps waiting)
      ⟨[], Nat.zero_le 100, MidiNode.keeps_start engine hload⟩ fun t operation u ht hfits hstep => ?_
    obtain ⟨waiting, hfew, hwaiting⟩ := ht
    obtain rfl : (t.perform P power operation).1 = u := Option.some.inj hstep
    obtain ⟨v, waiting', hfew', hv, ⟨heq, -⟩ | heq⟩ := MidiNode.perform_keeps (P := P) hwaiting hfew hfits
    · exact ⟨waiting', hfew', heq ▸ hv⟩
    · rw [heq]
      exact hv.settle hfew' _
  obtain ⟨waiting, hfew, hwaiting⟩ := hkeeps
  refine ⟨⟨waiting, hwaiting.recorded.symm⟩, hwaiting.increasing, fun operation hfits hok hrevision => ?_⟩
  obtain ⟨v, waiting', hfew', hv, ⟨heq, hsame⟩ | heq⟩ := MidiNode.perform_keeps (P := P) hwaiting hfew hfits
  · rw [heq] at hrevision
    exact absurd (hsame hok) hrevision
  · have hchanged : v.state.revision ≠ n.state.revision := by
      intro hsame
      rw [heq, MidiNode.settle, if_neg (not_not.mpr hsame)] at hrevision
      exact hrevision hsame
    rw [heq, MidiNode.settle, if_pos hchanged]
    have hafter := (hv.persist hfew').recorded
    rw [List.append_nil] at hafter
    exact hafter.symm

def MidiInput.InRange (e : MidiInput) : Prop :=
  0 ≤ e.status ∧ e.status ≤ 255 ∧ 0 ≤ e.data1 ∧ e.data1 ≤ 127 ∧ 0 ≤ e.data2 ∧ e.data2 ≤ 127

instance (e : MidiInput) : Decidable e.InRange := inferInstanceAs (Decidable (_ ∧ _))

/-- The message that is ingested of an event in range. -/
def MidiInput.message (C : Conversions) (e : MidiInput) : MidiMessage where
  status := e.status
  data1 := e.data1
  data2 := e.data2
  seconds := (e.seconds : ℚ)
  deviceId := textOrElse (clippedText C 96 (.str e.deviceId)) "direct"

lemma showTime_input (C : Conversions) (e : MidiInput) (clock : ℚ) :
    showTime C e.data clock = .ok (e.seconds : ℚ) := by
  have hget : e.data.get "showTimeSeconds" .none = floatValue e.seconds := rfl
  have hpositive : max 0 e.seconds = e.seconds :=
    max_eq_right (div_nonneg (by exact_mod_cast le_max_left 0 e.showTimeNs) (by norm_num))
  unfold showTime
  rw [hget]
  change Except.ok ((max 0 e.seconds : ℚ) : WithTop ℚ) = _
  rw [hpositive]

lemma midiMessage_input (C : Conversions) (e : MidiInput) (clock : ℚ) : midiMessage C e.data clock =
      if e.InRange then .ok (e.message C) else .error (.valueError "MIDI bytes out of range") := by
  unfold midiMessage
  rw [showTime_input]
  by_cases hrange : e.InRange
  · rw [if_pos hrange]
    change (if ¬e.InRange then _ else _) = _
    rw [if_neg (not_not.mpr hrange)]
    rfl
  · rw [if_neg hrange]
    change (if ¬e.InRange then _ else _) = _
    rw [if_pos hrange]
    rfl

lemma outcome_of_controller {c : Content} {playerId : String} {data : Entries} {m : MidiMessage}
    (hplayer : c.players.find? playerId ≠ none)
    (hmessage : midiMessage P.toConversions data (c.transport.clockSeconds clocks.now) = .ok m)
    (haction : m.action? = none) :
    (ingestMidi P clocks playerId data).outcome c =
      ({ value := (c.midi.take (m.activity playerId false), c.notationRegistry), changes := [] }, .ok ()) := by
  have hplayed : (playerItem c playerId : Script.Item Error (Draft (MidiJournal × NotationRegistry)))
      { value := (c.midi, c.notationRegistry), changes := [] } =
        .ok { value := (c.midi, c.notationRegistry), changes := [] } := if_neg hplayer
  simp only [Call.outcome, ingestMidi, hmessage, midiFocus, Script.run, hplayed, ensureNoteItem, haction,
    observeItem, journalItem]
  rfl

lemma ingest_controller {s : ShowState} {playerId : String} {data : Entries} {m : MidiMessage}
    (hplayer : s.players.find? playerId ≠ none) (hreadable : s.notationRegistry.Readable)
    (hmessage : midiMessage P.toConversions data (s.transport.clockSeconds clocks.now) = .ok m)
    (haction : m.action? = none) :
    ∃ doc event, ((ingestMidi P clocks playerId data).perform clocks none none s).2 = .ok doc ∧
      ((ingestMidi P clocks playerId data).perform clocks none none s).1.players = s.players ∧
      ((ingestMidi P clocks playerId data).perform clocks none none s).1.transport = s.transport ∧
      ((ingestMidi P clocks playerId data).perform clocks none none s).1.notationRegistry =
        s.notationRegistry ∧
      ((ingestMidi P clocks playerId data).perform clocks none none s).1.revision = s.revision + 1 ∧
      ((ingestMidi P clocks playerId data).perform clocks none none s).1.nextEventId = s.nextEventId + 1 ∧
      ((ingestMidi P clocks playerId data).perform clocks none none s).1.events =
        (event :: s.events).take 100 := by
  have hout := @outcome_of_controller P clocks s.toContent _ _ _ hplayer hmessage haction
  have hregistry : ((ingestMidi P clocks playerId data).after s.toContent).notationRegistry =
      s.notationRegistry := by
    rw [Call.after, hout]
    rfl
  have htouched : (ingestMidi P clocks playerId data).touched s.toContent ≠ [] := List.cons_ne_nil _ _
  have hperform := @Call.perform_of_noticed (ingestMidi P clocks playerId data) clocks none none s _ rfl
    (congrArg Prod.snd hout) htouched rfl
  rw [hperform]
  obtain ⟨doc, hdoc⟩ := @ShowState.answer_ok_iff { s with
      toLive := (((ingestMidi P clocks playerId data).written s.toLive).touch
        ((ingestMidi P clocks playerId data).touched s.toContent)).record clocks _ }
    { notes := false, extensions := (ingestMidi P clocks playerId data).extensions } clocks.snapshot
    |>.mpr (show ((ingestMidi P clocks playerId data).after s.toContent).notationRegistry.Readable from
      hregistry ▸ hreadable)
  exact ⟨doc, _, hdoc, rfl, rfl, hregistry, rfl, rfl, rfl⟩

end

/-! ### A round that is too long -/

def turnedKnob : MidiInput :=
  { deviceId := "pad", playerId := "alex", showTimeNs := 0, status := 176, data1 := 1, data2 := 64 }

lemma pumpEvent_knob {power : ℚ → ℚ → ℚ} {n : MidiNode} (hplayer : n.state.players.find? "alex" ≠ none)
    (hreadable : n.state.notationRegistry.Readable) (hengine : n.engine = {}) :
    ∃ t, n.pumpEvent examplePlatform power exampleClocks turnedKnob = (t, .ok ()) ∧
      t.state.players = n.state.players ∧ t.state.notationRegistry = n.state.notationRegistry ∧
      t.engine = {} ∧ t.ledger = n.ledger ∧ t.recorded.length = n.recorded.length + 1 ∧
      t.state.revision = n.state.revision + 1 ∧ t.state.events.length ≤ 100 := by
  have hname : turnedKnob.player = "alex" := by decide +kernel
  obtain ⟨doc, event, hdoc, hplayers, -, hregistry, hrevision, hnext, hevents⟩ :=
    @ingest_controller examplePlatform exampleClocks _ _ _ _ hplayer hreadable
      ((midiMessage_input _ turnedKnob _).trans (if_pos (by decide))) (by decide)
  obtain ⟨s, hs⟩ : ∃ s, s = ((ingestMidi examplePlatform exampleClocks "alex" turnedKnob.data).perform
      exampleClocks none none n.state).1 := ⟨_, rfl⟩
  have hcall : n.call examplePlatform exampleClocks (.ingestMidi "alex" turnedKnob.data) none none =
      (n.become s, .ok doc) := by
    rw [hs]
    exact Prod.ext rfl hdoc
  rw [← hs] at hplayers hregistry hrevision hnext hevents
  refine ⟨{ n.become s with
    engine := (n.engine.observe power s.mappingTransport turnedKnob.mapped) }, ?_, hplayers, hregistry, ?_, rfl, ?_,
      hrevision, ?_⟩
  · unfold MidiNode.pumpEvent
    rw [hname, if_neg (by decide), hcall]
    rfl
  · rw [hengine]
    simp [MidiMappingEngine.observe, MidiMappingEngine.learn, lastOf]
  · change (n.recorded ++ _).length = _
    have hne : s.nextEventId ≠ n.state.nextEventId := by omega
    rw [if_neg hne, List.length_append]
    rw [hevents]
    rfl
  · have htake : s.events.length ≤ 100 := by
      rw [hevents, List.length_take]
      exact min_le_left _ _
    exact htake

lemma pumpEvents_knob {power : ℚ → ℚ → ℚ} : ∀ (k : ℕ) {n : MidiNode},
    n.state.players.find? "alex" ≠ none → n.state.notationRegistry.Readable → n.engine = {} →
    n.state.events.length ≤ 100 →
    ∃ t, n.pumpEvents examplePlatform power (List.replicate k (exampleClocks, turnedKnob)) = (t, .ok ()) ∧
      t.state.notationRegistry = n.state.notationRegistry ∧ t.engine = {} ∧ t.ledger = n.ledger ∧
      t.recorded.length = n.recorded.length + k ∧ t.state.revision = n.state.revision + k ∧
      t.state.events.length ≤ 100
  | 0, n, _, _, hengine, hevents => ⟨n, rfl, rfl, hengine, rfl, rfl, (add_zero _).symm, hevents⟩
  | k + 1, n, hplayer, hreadable, hengine, _ => by
    obtain ⟨t, ht, hplayers, hregistry, hnone, hledger, hrecorded, hrevision, hevents⟩ :=
      @pumpEvent_knob power _ hplayer hreadable hengine
    obtain ⟨u, hu, hregistry', hend, hledger', hrecorded', hrevision', hevents'⟩ :=
      pumpEvents_knob k (hplayers ▸ hplayer) (hregistry ▸ hreadable) hnone hevents
    refine ⟨u, ?_, hregistry'.trans hregistry, hend, hledger'.trans hledger, by omega, ?_, hevents'⟩
    · rw [List.replicate_succ, MidiNode.pumpEvents, ht]
      exact hu
    · rw [hrevision', hrevision]
      push_cast
      ring

/-- A node that has come up without a document and without mappings. -/
def newNode : MidiNode := .start (ShowState.initial exampleClocks) {}

lemma load_new : ShowState.load examplePlatform exampleClocks .none = .ok (ShowState.initial exampleClocks) := by
  simp [ShowState.load, Value.truthy, pure, Except.pure]

def knobRound (k : ℕ) : MidiOperation := .pump exampleClocks (List.replicate k (exampleClocks, turnedKnob))

lemma perform_knobRound (k : ℕ) : ∃ t, newNode.pumpEvents examplePlatform (fun _ _ => 1)
        (List.replicate (k + 1) (exampleClocks, turnedKnob)) = (t, .ok ()) ∧
      newNode.perform examplePlatform (fun _ _ => 1) (knobRound (k + 1)) = (t.afterMutation, .ok ()) ∧
      t.ledger = [] ∧ t.recorded.length = k + 1 ∧ t.state.revision ≠ newNode.state.revision ∧
      t.state.events.length ≤ 100 := by
  obtain ⟨t, ht, hregistry, hengine, hledger, hrecorded, hrevision, hevents⟩ :=
    @pumpEvents_knob (fun _ _ => 1) (k + 1) newNode (by decide +kernel) (by decide +kernel) rfl (by decide +kernel)
  have hshown : t.state.notationRegistry.Readable := by
    rw [hregistry]
    decide +kernel
  have hdue : t.executeDue examplePlatform exampleClocks = (t, .ok ()) := by
    obtain ⟨doc, hdoc⟩ := (@ShowState.answer_ok_iff t.state { notes := false, extensions := false }
      exampleClocks.now).mpr hshown
    unfold MidiNode.executeDue
    rw [hdoc, hengine]
    change (({ t with engine := {} } : MidiNode), _) = _
    rw [← hengine]
  have hchanged : t.state.revision ≠ newNode.state.revision := by omega
  refine ⟨t, ht, ?_, hledger, hrecorded.trans (Nat.zero_add _), hchanged, hevents⟩
  unfold knobRound MidiNode.perform MidiNode.pumpMidiOnce
  dsimp only
  rw [if_neg (by simp), ht]
  dsimp only
  rw [hdue]
  dsimp only
  rw [MidiNode.settle, if_pos hchanged]

theorem ledger_complete_knob :
    ∃ t, newNode.perform examplePlatform (fun _ _ => 1) (knobRound 1) = (t, .ok ()) ∧ t.ledger = t.recorded := by
  obtain ⟨t, -, hperform, -, -, hchanged, -⟩ := perform_knobRound 0
  have hcomplete := (@ledger_complete examplePlatform (fun _ _ => 1) _ _ _ _ _ _ load_new
    (Reaches.refl (s := newNode))).2.2 (knobRound 1) (by decide +kernel) (congrArg Prod.snd hperform)
  rw [hperform] at hcomplete
  exact ⟨t.afterMutation, hperform, hcomplete hchanged⟩

theorem long_round_loses_event :
    ShowState.load examplePlatform exampleClocks .none = .ok (ShowState.initial exampleClocks) ∧
    ∃ t, newNode.perform examplePlatform (fun _ _ => 1) (knobRound 101) = (t, .ok ()) ∧
      t.state.revision ≠ newNode.state.revision ∧ ∃ event ∈ t.recorded, event ∉ t.ledger := by
  obtain ⟨t, ht, hperform, hledger, hrecorded, hchanged, hevents⟩ := perform_knobRound 100
  refine ⟨load_new, t.afterMutation, hperform, hchanged, ?_⟩
  by_contra hall
  push Not at hall
  -- 101 events have been recorded, each with its own id, and the ledger has at most 100
  have hsize : t.afterMutation.ledger.length ≤ 100 := by
    change (t.ledger ++ t.state.eventsSince t.lastPersistedEventId).length ≤ 100
    rw [hledger, List.nil_append]
    refine (List.length_filter_le _ _).trans ?_
    rw [List.length_reverse]
    exact hevents
  obtain ⟨more, -, hkeeps⟩ := @MidiNode.grows_pumpEvents examplePlatform (fun _ _ => 1)
    (List.replicate 101 (exampleClocks, turnedKnob)) newNode [] (MidiNode.keeps_start {} load_new)
  rw [ht] at hkeeps
  have hnodup : t.recorded.Nodup :=
    List.Nodup.of_map Event.id (hkeeps.increasing.imp fun hlt => ne_of_lt hlt)
  have hle := (hnodup.subperm hall).length_le
  omega

end StageForge
