import StageForge.Library.TransitionSystem
import StageForge.Native.ShowEventDispatcher

/-!
# Runs of the show event dispatcher

The owner's calls are atomic, and the producer's `submit` is not: it counts the event, looks whether
it is valid, looks for room, writes the cell, moves the head on, and counts again, and the owner may
come in between.
-/

namespace StageForge

open TransitionSystem

/-- How far a call of `submit` has come. -/
inductive SubmitStage (S : NativeFloats)
  | idle
  | counted (event : ShowEvent S)
  | checked (event : ShowEvent S)
  | roomy (event : ShowEvent S)
  | stored (event : ShowEvent S)
  | full (event : ShowEvent S)
  | published (event : ShowEvent S)

/-- A dispatcher and what has become of events. -/
structure ShowEventRun (S : NativeFloats)
    (ingressCapacity timelineCapacity replayCapacity : ℕ) where
  dispatcher : ShowEventDispatcher S ingressCapacity timelineCapacity replayCapacity
  submitting : SubmitStage S
  log : List (ShowEventNote S)

inductive ShowEventAction (S : NativeFloats)
  | submit (event : ShowEvent S)
  | advance
  | scheduleOwned (event : ShowEvent S)
  | ingestPending
  | dispatchDue (showTimeNs : UInt64) (sink : ShowEventSink S) (fuel : ℕ)
  | cancel (key : ReplayKey)

/-- The turns that the calls are made of. -/
inductive ShowEventTurn (S : NativeFloats)
  | submit (event : ShowEvent S)
  | advance
  | owned (event : ShowEvent S)
  | take
  | hand (showTimeNs : UInt64)
  | settle (event : ShowEvent S) (ok : Bool)
  | withdraw (key : ReplayKey)
  | publish

namespace ShowEventRun

variable {S : NativeFloats} {ingressCapacity timelineCapacity replayCapacity : ℕ}
  [NeZero replayCapacity]

def start : ShowEventRun S ingressCapacity timelineCapacity replayCapacity where
  dispatcher := .start
  submitting := .idle
  log := []

variable (s : ShowEventRun S ingressCapacity timelineCapacity replayCapacity)

/-- The dispatcher has become `d`, with notes about it. -/
def moved (d : ShowEventDispatcher S ingressCapacity timelineCapacity replayCapacity)
    (notes : List (ShowEventNote S)) :
    ShowEventRun S ingressCapacity timelineCapacity replayCapacity :=
  { s with dispatcher := d, log := notes ++ s.log }

/-- `submit` counts the event. -/
def submit (event : ShowEvent S) :
    Option (ShowEventRun S ingressCapacity timelineCapacity replayCapacity) :=
  match s.submitting with
  | .idle => some { s.moved { s.dispatcher with metrics := { s.dispatcher.metrics with
          submitted := s.dispatcher.metrics.submitted + 1 } } [⟨.submitted, event⟩] with
      submitting := .counted event }
  | _ => none

/-- The next part of `submit`. -/
def advance : Option (ShowEventRun S ingressCapacity timelineCapacity replayCapacity) :=
  let d := s.dispatcher
  match s.submitting with
  | .idle => none
  | .counted event =>
    if event.isValid = false then
      some { s.moved { d with metrics := { d.metrics with invalid := d.metrics.invalid + 1 } }
        [⟨.invalid, event⟩] with submitting := .idle }
    else some { s with submitting := .checked event }
  | .checked event =>
    some { s with submitting := if d.ingress.hasRoom then .roomy event else .full event }
  | .roomy event =>
    some { s.moved { d with ingress := d.ingress.store event } [] with
      submitting := .stored event }
  | .stored event =>
    some { s.moved { d with ingress := d.ingress.publish } [] with submitting := .published event }
  | .full event =>
    some { s.moved { d with metrics := { d.metrics with
        ingressOverflow := d.metrics.ingressOverflow + 1 } } [⟨.ingressOverflow, event⟩] with
      submitting := .idle }
  | .published _ =>
    some { s.moved { d with metrics := { d.metrics with
        ingressPending := d.metrics.ingressPending + 1 } } [] with submitting := .idle }

def step : ShowEventAction S → Option (ShowEventRun S ingressCapacity timelineCapacity replayCapacity)
  | .submit event => s.submit event
  | .advance => s.advance
  | .scheduleOwned event =>
    some (s.moved (s.dispatcher.scheduleOwned event).1
      [⟨(s.dispatcher.scheduleOwned event).2, event⟩, ⟨.submitted, event⟩])
  | .ingestPending =>
    let ingested := s.dispatcher.ingestPending
    some (s.moved ingested.1 ingested.2)
  | .dispatchDue showTimeNs sink fuel =>
    (s.dispatcher.dispatchDue showTimeNs sink fuel).map fun out => s.moved out.1 out.2
  | .cancel key =>
    let cancelled := s.dispatcher.cancel key
    some (s.moved cancelled.1 cancelled.2)

/-- What is handed over, or dropped, when an event is taken out of the timeline. -/
def handed (showTimeNs : UInt64) (event : ShowEvent S)
    (timeline : ShowTimeline S timelineCapacity) :
    ShowEventRun S ingressCapacity timelineCapacity replayCapacity :=
  let isLate := decide (showTimeNs > event.showTimeNs)
  let d := (s.dispatcher.withdrawn timeline).countLate isLate
  if isLate && event.dropsIfLate then s.moved d.countDroppedLate [⟨.droppedLate, event⟩]
  else s.moved d [⟨.handed, event⟩]

def turn : ShowEventTurn S → Option (ShowEventRun S ingressCapacity timelineCapacity replayCapacity)
  | .submit event => s.submit event
  | .advance => s.advance
  | .owned event => some (s.moved (s.dispatcher.scheduleOwned event).1
      [⟨(s.dispatcher.scheduleOwned event).2, event⟩, ⟨.submitted, event⟩])
  | .take => s.dispatcher.ingress.tryPop.map fun out =>
    let accepted := (s.dispatcher.popped out.2).accept out.1
    s.moved accepted.1 [⟨accepted.2, out.1⟩]
  | .hand showTimeNs => (s.dispatcher.timeline.popDue showTimeNs).map fun out =>
    s.handed showTimeNs out.1 out.2
  | .settle event ok =>
    let settled := s.dispatcher.settle ok
    some (s.moved settled.1 [⟨settled.2, event⟩])
  | .withdraw key => some (s.moved (s.dispatcher.withdraw key).1 (s.dispatcher.withdraw key).2)
  | .publish => some (s.moved s.dispatcher.publishNext [])

/-! ## The calls are made of turns -/

variable {s} {t : ShowEventRun S ingressCapacity timelineCapacity replayCapacity}

omit [NeZero replayCapacity] in
@[simp] lemma moved_moved (s : ShowEventRun S ingressCapacity timelineCapacity replayCapacity)
    (d d' : ShowEventDispatcher S ingressCapacity timelineCapacity replayCapacity)
    (notes notes' : List (ShowEventNote S)) :
    (s.moved d notes).moved d' notes' = s.moved d' (notes' ++ notes) := by
  simp [moved]

omit [NeZero replayCapacity] in
@[simp] lemma dispatcher_moved (s : ShowEventRun S ingressCapacity timelineCapacity replayCapacity)
    (d : ShowEventDispatcher S ingressCapacity timelineCapacity replayCapacity)
    (notes : List (ShowEventNote S)) : (s.moved d notes).dispatcher = d := rfl

omit [NeZero replayCapacity] in
@[simp] lemma moved_self (s : ShowEventRun S ingressCapacity timelineCapacity replayCapacity) :
    s.moved s.dispatcher [] = s := rfl

/-- Some turns lead from `s` to `t`. -/
def Turns (s t : ShowEventRun S ingressCapacity timelineCapacity replayCapacity) : Prop :=
  ∃ turns, Reaches turn Always s turns t

lemma Turns.refl (s : ShowEventRun S ingressCapacity timelineCapacity replayCapacity) : Turns s s :=
  ⟨[], .refl⟩

lemma Turns.trans {u : ShowEventRun S ingressCapacity timelineCapacity replayCapacity}
    (h₁ : Turns s t) (h₂ : Turns t u) : Turns s u := by
  obtain ⟨as, has⟩ := h₁
  obtain ⟨bs, hbs⟩ := h₂
  exact ⟨as ++ bs, has.append hbs⟩

lemma Turns.of_turn {a : ShowEventTurn S} (h : s.turn a = some t) : Turns s t :=
  ⟨[] ++ [a], .snoc .refl trivial h⟩

open ShowEventDispatcher

lemma turns_ingest (n : ℕ) : ∀ s : ShowEventRun S ingressCapacity timelineCapacity replayCapacity,
      Turns s (s.moved (ingest n s.dispatcher).1 (ingest n s.dispatcher).2) := by
  induction n with
  | zero => exact fun s => Turns.refl s
  | succ n ih =>
    intro s
    cases hpop : s.dispatcher.ingress.tryPop with
    | none =>
      simp only [ingest, hpop]
      exact Turns.refl s
    | some out =>
      obtain ⟨event, ingress⟩ := out
      have htake : s.turn .take = some (s.moved ((s.dispatcher.popped ingress).accept event).1
          [⟨((s.dispatcher.popped ingress).accept event).2, event⟩]) := by
        simp only [turn, hpop, Option.map_some]
      have hrest := ih (s.moved ((s.dispatcher.popped ingress).accept event).1
        [⟨((s.dispatcher.popped ingress).accept event).2, event⟩])
      rw [moved_moved, dispatcher_moved] at hrest
      simp only [ingest, hpop]
      exact (Turns.of_turn htake).trans hrest

lemma turns_runScript (script : SinkScript S) :
    ∀ s : ShowEventRun S ingressCapacity timelineCapacity replayCapacity,
      Turns s (s.moved (runScript script s.dispatcher).1 (runScript script s.dispatcher).2.1) := by
  induction script with
  | done ok => exact fun s => Turns.refl s
  | schedule event next ih =>
    intro s
    have hrest := ih (decide ((s.dispatcher.scheduleOwned event).2 = .accepted))
      (s.moved (s.dispatcher.scheduleOwned event).1
        [⟨(s.dispatcher.scheduleOwned event).2, event⟩, ⟨.submitted, event⟩])
    rw [moved_moved, dispatcher_moved] at hrest
    exact (Turns.of_turn (a := .owned event) rfl).trans hrest

lemma turns_settle (s : ShowEventRun S ingressCapacity timelineCapacity replayCapacity)
    (d : ShowEventDispatcher S ingressCapacity timelineCapacity replayCapacity)
    (notes : List (ShowEventNote S)) (event : ShowEvent S) (ok : Bool) :
    Turns (s.moved d notes) (s.moved (d.settle ok).1 (⟨(d.settle ok).2, event⟩ :: notes)) :=
  Turns.of_turn (a := .settle event ok) (by simp [turn])

lemma turns_handOver (s : ShowEventRun S ingressCapacity timelineCapacity replayCapacity)
    (showTimeNs : UInt64) (script : ShowEvent S → Bool → SinkScript S) {event : ShowEvent S}
    {timeline : ShowTimeline S timelineCapacity}
    (hpop : s.dispatcher.timeline.popDue showTimeNs = some (event, timeline)) :
    Turns s (s.moved ((s.dispatcher.withdrawn timeline).handOver showTimeNs event (script event)).1
      ((s.dispatcher.withdrawn timeline).handOver showTimeNs event (script event)).2) := by
  have hhand : s.turn (.hand showTimeNs) = some (s.handed showTimeNs event timeline) := by
    simp only [turn, hpop, Option.map_some]
  refine (Turns.of_turn hhand).trans ?_
  simp only [handed, handOver]
  by_cases hdrop : (decide (showTimeNs > event.showTimeNs) && event.dropsIfLate) = true
  · rw [if_pos hdrop, if_pos hdrop]
    exact Turns.refl _
  · rw [if_neg hdrop, if_neg hdrop]
    refine (turns_runScript (script event (decide (showTimeNs > event.showTimeNs))) _).trans ?_
    simp only [moved_moved, dispatcher_moved]
    exact turns_settle s _ _ event _

lemma turns_drain (showTimeNs : UInt64) (sink : ShowEventSink S) (fuel : ℕ) :
    ∀ (number : ℕ) (s : ShowEventRun S ingressCapacity timelineCapacity replayCapacity) (out),
      drain showTimeNs sink fuel number s.dispatcher = some out →
        Turns s (s.moved out.1 out.2) := by
  induction fuel with
  | zero =>
    intro number s out hout
    exact absurd hout (by simp [drain])
  | succ fuel ih =>
    intro number s out hout
    cases hpop : s.dispatcher.timeline.popDue showTimeNs with
    | none =>
      simp only [drain, hpop, Option.some.injEq] at hout
      subst hout
      exact Turns.refl s
    | some popped =>
      obtain ⟨event, timeline⟩ := popped
      simp only [drain, hpop, Option.map_eq_some_iff] at hout
      obtain ⟨rest, hrest, rfl⟩ := hout
      refine (turns_handOver s showTimeNs (sink number) hpop).trans ?_
      have hmore := ih (number + 1) (s.moved
        ((s.dispatcher.withdrawn timeline).handOver showTimeNs event (sink number event)).1
        ((s.dispatcher.withdrawn timeline).handOver showTimeNs event (sink number event)).2)
        rest hrest
      rw [moved_moved] at hmore
      exact hmore

/-- **Each step is made of turns.** -/
theorem turns_of_step {a : ShowEventAction S} (h : s.step a = some t) : Turns s t := by
  cases a with
  | submit event => exact Turns.of_turn (a := .submit event) h
  | advance => exact Turns.of_turn (a := .advance) h
  | scheduleOwned event =>
    cases h
    exact Turns.of_turn (a := .owned event) rfl
  | ingestPending =>
    cases h
    exact turns_ingest _ s
  | dispatchDue showTimeNs sink fuel =>
    simp only [step, dispatchDue, Option.map_map, Option.map_eq_some_iff] at h
    obtain ⟨out, hout, rfl⟩ := h
    refine (turns_ingest s.dispatcher.ingress.size s).trans ?_
    have hdrain := turns_drain showTimeNs sink fuel 0
      (s.moved s.dispatcher.ingestPending.1 s.dispatcher.ingestPending.2) out hout
    rw [moved_moved] at hdrain
    refine hdrain.trans (Turns.of_turn (a := .publish) ?_)
    simp [turn]
  | cancel key =>
    cases h
    refine (turns_ingest s.dispatcher.ingress.size s).trans ?_
    refine Turns.of_turn (a := .withdraw key) ?_
    simp only [turn, moved_moved, dispatcher_moved]
    rfl

/-- **What every turn keeps holds in every run.** -/
theorem invariant_of_turns
    {I : ShowEventRun S ingressCapacity timelineCapacity replayCapacity → Prop} (h0 : I start)
    (hturn : ∀ s a t, I s → turn s a = some t → I t) {actions : List (ShowEventAction S)}
    (hrun : Reaches step Always start actions s) : I s := by
  refine hrun.invariant h0 ?_
  rintro v action w hv - hstep
  obtain ⟨turns, hturns⟩ := turns_of_step hstep
  exact hturns.invariant hv fun v a w h _ ht => hturn v a w h ht

end ShowEventRun

end StageForge
