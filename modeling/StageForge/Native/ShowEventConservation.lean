import StageForge.Native.ShowEventReplay

/-!
# What becomes of show events

Every event that is submitted is refused, or still in the queue, or accepted; every event that is
accepted is dispatched, dropped, failed or cancelled, or still waits.
-/

namespace StageForge

open TransitionSystem

variable {S : NativeFloats} {ingressCapacity timelineCapacity replayCapacity : ℕ}

/-! ## The counters -/

/-- The counter of a fate; `handed` has none. -/
def ShowEventDispatchMetrics.counter (m : ShowEventDispatchMetrics) : ShowEventFate → UInt64
  | .submitted => m.submitted
  | .invalid => m.invalid
  | .ingressOverflow => m.ingressOverflow
  | .duplicate => m.duplicates
  | .timelineOverflow => m.timelineOverflow
  | .accepted => m.accepted
  | .handed => 0
  | .droppedLate => m.droppedLate
  | .dispatched => m.dispatched
  | .dispatchFailure => m.dispatchFailures
  | .cancelled => m.cancelled

def fateCount (fate : ShowEventFate) (log : List (ShowEventNote S)) : ℕ :=
  (withFate fate log).length

variable (fate : ShowEventFate)

@[simp] lemma fateCount_nil :
    fateCount fate ([] : List (ShowEventNote S)) = 0 := rfl

@[simp] lemma fateCount_cons (note : ShowEventNote S)
    (log : List (ShowEventNote S)) :
    fateCount fate (note :: log) = fateCount fate log + if note.fate = fate then 1 else 0 := by
  unfold fateCount
  rw [withFate_cons]
  split_ifs <;> rfl

@[simp] lemma fateCount_append (newer older : List (ShowEventNote S)) :
    fateCount fate (newer ++ older) = fateCount fate newer + fateCount fate older := by
  simp [fateCount, withFate]

namespace ShowEventRun

section

variable [NeZero replayCapacity] {s t : ShowEventRun S ingressCapacity timelineCapacity replayCapacity}
  {event : ShowEvent S} {note : ShowEventNote S}

def Counted (s : ShowEventRun S ingressCapacity timelineCapacity replayCapacity) : Prop :=
  ∀ fate, fate ≠ .handed → s.dispatcher.metrics.counter fate = UInt64.ofNat (fateCount fate s.log)

omit [NeZero replayCapacity] in
lemma Counted.noted (h : s.Counted) (hlog : t.log = note :: s.log)
    (hmetrics : ∀ fate, fate ≠ .handed → t.dispatcher.metrics.counter fate =
      s.dispatcher.metrics.counter fate + if note.fate = fate then 1 else 0) : t.Counted := by
  intro fate hfate
  rw [hmetrics fate hfate, h fate hfate, hlog, fateCount_cons, UInt64.ofNat_add]
  split_ifs <;> rfl

omit [NeZero replayCapacity] in
lemma Counted.congr (h : s.Counted) (hlog : t.log = s.log)
    (hmetrics : ∀ fate, t.dispatcher.metrics.counter fate = s.dispatcher.metrics.counter fate) :
    t.Counted := by
  intro fate hfate
  rw [hmetrics fate, h fate hfate, hlog]

open ShowEventDispatchMetrics

variable (d : ShowEventDispatcher S ingressCapacity timelineCapacity replayCapacity)

lemma counter_accept
    (event : ShowEvent S) (fate : ShowEventFate) :
    (d.accept event).1.metrics.counter fate =
      d.metrics.counter fate + if (d.accept event).2 = fate then 1 else 0 := by
  unfold ShowEventDispatcher.accept
  split
  · cases fate <;> simp [counter]
  · split
    · cases fate <;> simp [counter]
    · cases fate <;> simp [counter, ShowEventDispatcher.publishNext, ShowEventDispatcher.remember]

lemma Counted.accept {s t : ShowEventRun S ingressCapacity timelineCapacity replayCapacity}
    (h : s.Counted) (event : ShowEvent S)
    (hdispatcher : t.dispatcher = (s.dispatcher.accept event).1)
    (hlog : t.log = ⟨(s.dispatcher.accept event).2, event⟩ :: s.log) : t.Counted := by
  refine h.noted hlog ?_
  intro fate _
  rw [hdispatcher]
  exact counter_accept s.dispatcher event fate

lemma Counted.scheduleOwned (h : s.Counted) (event : ShowEvent S) :
    (s.moved (s.dispatcher.scheduleOwned event).1
      [⟨(s.dispatcher.scheduleOwned event).2, event⟩, ⟨.submitted, event⟩]).Counted := by
  have hcounted : (s.moved { s.dispatcher with metrics := { s.dispatcher.metrics with
        submitted := s.dispatcher.metrics.submitted + 1 } } [⟨.submitted, event⟩]).Counted := by
    refine h.noted rfl ?_
    intro fate _
    cases fate <;> simp [moved, counter]
  unfold ShowEventDispatcher.scheduleOwned
  by_cases hvalid : event.isValid = false
  · rw [if_pos hvalid]
    refine hcounted.noted rfl ?_
    intro fate _
    cases fate <;> simp [moved, counter]
  · rw [if_neg hvalid]
    exact hcounted.accept event rfl rfl

omit [NeZero replayCapacity] in
lemma Counted.submit (h : s.Counted) (hsubmit : s.submit event = some t) : t.Counted := by
  unfold ShowEventRun.submit at hsubmit
  split at hsubmit
  · cases hsubmit
    refine h.noted rfl ?_
    intro fate _
    cases fate <;> simp [moved, counter]
  · cases hsubmit

omit [NeZero replayCapacity] in
lemma Counted.advance (h : s.Counted) (hadvance : s.advance = some t) : t.Counted := by
  unfold ShowEventRun.advance at hadvance
  cases hsubmitting : s.submitting with
  | idle => simp [hsubmitting] at hadvance
  | counted event =>
    simp only [hsubmitting] at hadvance
    split_ifs at hadvance with hvalid
    · cases hadvance
      refine h.noted rfl ?_
      intro fate _
      cases fate <;> simp [moved, counter]
    · cases hadvance
      exact h.congr rfl fun _ => rfl
  | full event =>
    simp only [hsubmitting, Option.some.injEq] at hadvance
    subst hadvance
    refine h.noted rfl ?_
    intro fate _
    cases fate <;> simp [moved, counter]
  | checked event | roomy event | stored event | published event =>
    simp only [hsubmitting, Option.some.injEq] at hadvance
    subst hadvance
    refine h.congr rfl ?_
    intro fate
    cases fate <;> rfl

omit [NeZero replayCapacity] in
lemma Counted.handed (h : s.Counted) (showTimeNs : UInt64)
    (timeline : ShowTimeline S timelineCapacity) : (s.handed showTimeNs event timeline).Counted := by
  have hlate : ∀ isLate fate,
      ((s.dispatcher.withdrawn timeline).countLate isLate).metrics.counter fate =
        s.dispatcher.metrics.counter fate := by
    intro isLate fate
    cases isLate <;> cases fate <;> rfl
  unfold ShowEventRun.handed
  by_cases hdrop : (decide (showTimeNs > event.showTimeNs) && event.dropsIfLate) = true
  · simp only [hdrop, if_true]
    refine h.noted rfl ?_
    intro fate _
    rw [← hlate (decide (showTimeNs > event.showTimeNs)) fate]
    cases fate <;> simp [moved, ShowEventDispatcher.countDroppedLate, counter]
  · simp only [hdrop]
    refine h.noted rfl ?_
    intro fate hfate
    rw [if_neg hfate.symm]
    simpa using hlate (decide (showTimeNs > event.showTimeNs)) fate

lemma counted_of_turn {a : ShowEventTurn S} (h : s.Counted) (hturn : s.turn a = some t) :
    t.Counted := by
  cases a with
  | submit event => exact h.submit hturn
  | advance => exact h.advance hturn
  | owned event =>
    cases hturn
    exact h.scheduleOwned event
  | take =>
    obtain ⟨⟨event, ingress⟩, -, rfl⟩ := Option.map_eq_some_iff.mp hturn
    have hpopped : (s.moved (s.dispatcher.popped ingress) []).Counted := by
      refine h.congr rfl ?_
      intro fate
      cases fate <;> rfl
    exact hpopped.accept event rfl rfl
  | hand showTimeNs =>
    obtain ⟨⟨event, timeline⟩, -, rfl⟩ := Option.map_eq_some_iff.mp hturn
    exact h.handed showTimeNs timeline
  | settle event ok =>
    cases hturn
    refine h.noted rfl ?_
    intro fate _
    cases ok <;> cases fate <;> simp [moved, ShowEventDispatcher.settle, counter]
  | withdraw key =>
    cases hturn
    unfold ShowEventDispatcher.withdraw
    split
    · exact h.congr rfl fun _ => rfl
    · refine h.noted rfl ?_
      intro fate _
      cases fate <;> simp [moved, ShowEventDispatcher.withdrawn, ShowEventDispatcher.publishNext,
        counter]
  | publish =>
    cases hturn
    refine h.congr rfl ?_
    intro fate
    cases fate <;> rfl

/-! ## Where submitted events are -/

/-- Events that are counted as submitted and not yet refused or in the queue. -/
def inFlight : SubmitStage S → ℕ
  | .idle => 0
  | .published _ => 0
  | _ => 1

/-- Submitted events are refused, accepted, in the queue or on their way there. -/
def Balanced (s : ShowEventRun S ingressCapacity timelineCapacity replayCapacity) : Prop :=
  fateCount .submitted s.log =
    fateCount .invalid s.log + fateCount .ingressOverflow s.log + fateCount .duplicate s.log +
      fateCount .timelineOverflow s.log + fateCount .accepted s.log +
      s.dispatcher.ingress.contents.length + inFlight s.submitting

lemma fate_accept
    (event : ShowEvent S) : (⟨(d.accept event).2, event⟩ : ShowEventNote S).Arrived := by
  unfold ShowEventDispatcher.accept ShowEventNote.Arrived
  split
  · simp
  · split <;> simp

omit [NeZero replayCapacity] in
lemma counts_of_arrived (h : note.Arrived) (log : List (ShowEventNote S)) :
    fateCount .submitted (note :: log) = fateCount .submitted log ∧
      fateCount .invalid (note :: log) = fateCount .invalid log ∧
      fateCount .ingressOverflow (note :: log) = fateCount .ingressOverflow log ∧
      fateCount .duplicate (note :: log) + fateCount .timelineOverflow (note :: log) +
          fateCount .accepted (note :: log) =
        fateCount .duplicate log + fateCount .timelineOverflow log + fateCount .accepted log + 1 := by
  rcases h with h | h | h <;> simp [h] <;> omega

omit [NeZero replayCapacity] in
lemma Balanced.congr (h : s.Balanced) (hingress : t.dispatcher.ingress = s.dispatcher.ingress)
    (hsubmitting : t.submitting = s.submitting) (hlog : t.log = s.log) : t.Balanced := by
  unfold Balanced at h ⊢
  rw [hingress, hsubmitting, hlog]
  exact h

omit [NeZero replayCapacity] in
lemma Balanced.noted (h : s.Balanced) (hingress : t.dispatcher.ingress = s.dispatcher.ingress)
    (hsubmitting : t.submitting = s.submitting) (hlog : t.log = note :: s.log)
    (hfate : note.fate = .handed ∨ note.fate = .droppedLate ∨ note.fate = .dispatched ∨
      note.fate = .dispatchFailure ∨ note.fate = .cancelled) : t.Balanced := by
  unfold Balanced at h ⊢
  rw [hingress, hsubmitting, hlog]
  rcases hfate with hfate | hfate | hfate | hfate | hfate <;>
    simpa only [fateCount_cons, hfate, reduceCtorEq, if_false, Nat.add_zero] using h

lemma Balanced.scheduleOwned (h : s.Balanced) (event : ShowEvent S) :
    (s.moved (s.dispatcher.scheduleOwned event).1
      [⟨(s.dispatcher.scheduleOwned event).2, event⟩, ⟨.submitted, event⟩]).Balanced := by
  unfold Balanced at h ⊢
  have hingress := ingress_scheduleOwned s.dispatcher event
  simp only [moved, hingress, List.cons_append, List.nil_append]
  unfold ShowEventDispatcher.scheduleOwned
  by_cases hvalid : event.isValid = false
  · simp [hvalid]
    omega
  · rw [if_neg hvalid]
    obtain ⟨hsubmitted, hinvalid, hoverflow, hjudged⟩ :=
      counts_of_arrived (fate_accept { s.dispatcher with metrics := { s.dispatcher.metrics with
        submitted := s.dispatcher.metrics.submitted + 1 } } event) (⟨.submitted, event⟩ :: s.log)
    rw [hsubmitted, hinvalid, hoverflow]
    simp only [fateCount_cons, reduceCtorEq, if_true, if_false, Nat.add_zero] at hjudged ⊢
    omega

omit [NeZero replayCapacity] in
lemma Balanced.submit (h : s.Balanced) (hsubmit : s.submit event = some t) : t.Balanced := by
  unfold ShowEventRun.submit at hsubmit
  cases hsubmitting : s.submitting <;> simp only [hsubmitting, reduceCtorEq] at hsubmit
  cases hsubmit
  unfold Balanced at h ⊢
  simp only [hsubmitting, inFlight] at h
  simp only [moved, inFlight, List.cons_append, List.nil_append, fateCount_cons, reduceCtorEq,
    if_true, if_false, Nat.add_zero]
  omega

omit [NeZero replayCapacity] in
lemma Balanced.advance (h : s.Balanced) (hkept : s.IngressKept) (hadvance : s.advance = some t) :
    t.Balanced := by
  have hstage := hkept.stage
  unfold ShowEventRun.advance at hadvance
  unfold Balanced at h ⊢
  cases hsubmitting : s.submitting with
  | idle => simp [hsubmitting] at hadvance
  | counted event =>
    simp only [hsubmitting] at hadvance h
    split_ifs at hadvance with hvalid
    · cases hadvance
      simp only [inFlight] at h
      simp [moved, inFlight]
      omega
    · cases hadvance
      exact h
  | checked event =>
    simp only [hsubmitting, Option.some.injEq] at hadvance h
    subst hadvance
    cases hroom : s.dispatcher.ingress.hasRoom <;> exact h
  | roomy event =>
    simp only [hsubmitting, Option.some.injEq] at hadvance h
    subst hadvance
    simp only [moved, hkept.proper.contents_store event]
    exact h
  | stored event =>
    simp only [hsubmitting, Option.some.injEq] at hadvance h hstage
    subst hadvance
    simp only [moved, hkept.proper.contents_publish hstage.2.1, List.length_append,
      List.length_singleton]
    exact h
  | full event =>
    simp only [hsubmitting, Option.some.injEq] at hadvance h
    subst hadvance
    simp only [inFlight] at h
    simp [moved, inFlight]
    omega
  | published event =>
    simp only [hsubmitting, Option.some.injEq] at hadvance h
    subst hadvance
    exact h

lemma balanced_of_turn {a : ShowEventTurn S} (h : s.Balanced) (hkept : s.IngressKept)
    (hturn : s.turn a = some t) : t.Balanced := by
  cases a with
  | submit event => exact h.submit hturn
  | advance => exact h.advance hkept hturn
  | owned event =>
    cases hturn
    exact h.scheduleOwned event
  | take =>
    obtain ⟨⟨event, ingress⟩, hpop, rfl⟩ := Option.map_eq_some_iff.mp hturn
    rcases hkept.proper.tryPop_cases with ⟨-, hnone⟩ | ⟨first, rest, hcontents, -, heq⟩
    · rw [hnone] at hpop
      cases hpop
    · rw [heq, Option.some.injEq, Prod.mk.injEq] at hpop
      obtain ⟨rfl, rfl⟩ := hpop
      obtain ⟨hsubmitted, hinvalid, hoverflow, hjudged⟩ :=
        counts_of_arrived (fate_accept (s.dispatcher.popped rest) first) s.log
      unfold Balanced at h ⊢
      simp only [moved, ingress_accept, List.cons_append, List.nil_append]
      rw [hsubmitted, hinvalid, hoverflow]
      have hlength : s.dispatcher.ingress.contents.length = rest.contents.length + 1 := by
        rw [hcontents, List.length_cons]
      have hsame : (s.dispatcher.popped rest).ingress = rest := rfl
      rw [hsame]
      omega
  | hand showTimeNs =>
    obtain ⟨⟨event, timeline⟩, -, rfl⟩ := Option.map_eq_some_iff.mp hturn
    have hsame : ∀ isLate,
        ((s.dispatcher.withdrawn timeline).countLate isLate).ingress = s.dispatcher.ingress := by
      intro isLate
      cases isLate <;> rfl
    simp only [ShowEventRun.handed]
    split
    · exact h.noted (hsame _) rfl rfl (by simp)
    · exact h.noted (hsame _) rfl rfl (by simp)
  | settle event ok =>
    cases hturn
    cases ok
    · exact h.noted rfl rfl rfl (by simp [ShowEventDispatcher.settle])
    · exact h.noted rfl rfl rfl (by simp [ShowEventDispatcher.settle])
  | withdraw key =>
    cases hturn
    unfold ShowEventDispatcher.withdraw
    split
    · exact h
    · exact h.noted rfl rfl rfl (by simp)
  | publish =>
    cases hturn
    exact h.congr rfl rfl rfl

/-! ## Every call of the sink returns -/

omit [NeZero replayCapacity] in
lemma fateCount_eq_zero {fate : ShowEventFate} {notes : List (ShowEventNote S)}
    (h : ∀ note ∈ notes, note.fate ≠ fate) : fateCount fate notes = 0 := by
  induction notes with
  | nil => rfl
  | cons note notes ih =>
    rw [fateCount_cons, ih fun other hother => h other (.tail _ hother), if_neg (h note (.head _))]

/-- The events handed to the sink have been dispatched, or the sink has failed on them. -/
def SinkReturned (log : List (ShowEventNote S)) : Prop :=
  fateCount .handed log = fateCount .dispatched log + fateCount .dispatchFailure log

def WithoutSink (notes : List (ShowEventNote S)) : Prop :=
  ∀ note ∈ notes, note.fate ≠ .handed ∧ note.fate ≠ .dispatched ∧ note.fate ≠ .dispatchFailure

omit [NeZero replayCapacity] in
lemma SinkReturned.append {newer older : List (ShowEventNote S)} (hnewer : SinkReturned newer)
    (holder : SinkReturned older) : SinkReturned (newer ++ older) := by
  unfold SinkReturned at hnewer holder ⊢
  simp only [fateCount_append]
  omega

omit [NeZero replayCapacity] in
lemma WithoutSink.returned {notes : List (ShowEventNote S)} (h : WithoutSink notes) :
    SinkReturned notes := by
  unfold SinkReturned
  rw [fateCount_eq_zero fun note hnote => (h note hnote).1,
    fateCount_eq_zero fun note hnote => (h note hnote).2.1,
    fateCount_eq_zero fun note hnote => (h note hnote).2.2]

omit [NeZero replayCapacity] in
lemma returned_cons {log : List (ShowEventNote S)} (h : SinkReturned log)
    (hhanded : note.fate ≠ .handed) (hdispatched : note.fate ≠ .dispatched)
    (hfailed : note.fate ≠ .dispatchFailure) : SinkReturned (note :: log) := by
  unfold SinkReturned at h ⊢
  simpa only [fateCount_cons, if_neg hhanded, if_neg hdispatched, if_neg hfailed, Nat.add_zero]
    using h

omit [NeZero replayCapacity] in
lemma withoutSink_nil : WithoutSink ([] : List (ShowEventNote S)) := by
  intro note hnote
  simp at hnote

omit [NeZero replayCapacity] in
lemma WithoutSink.append {newer older : List (ShowEventNote S)} (hnewer : WithoutSink newer)
    (holder : WithoutSink older) : WithoutSink (newer ++ older) := by
  intro note hnote
  rcases List.mem_append.mp hnote with hmem | hmem
  · exact hnewer note hmem
  · exact holder note hmem

omit [NeZero replayCapacity] in
lemma withoutSink_of_arrived (h : note.Arrived) : WithoutSink [note] := by
  intro other hother
  obtain rfl := List.mem_singleton.mp hother
  rcases h with h | h | h <;> simp [h]

omit [NeZero replayCapacity] in
lemma withoutSink_submitted (event : ShowEvent S) :
    WithoutSink [(⟨.submitted, event⟩ : ShowEventNote S)] := by
  simp [WithoutSink]

lemma withoutSink_scheduleOwned

    (event : ShowEvent S) :
    WithoutSink [(⟨(d.scheduleOwned event).2, event⟩ : ShowEventNote S), ⟨.submitted, event⟩] := by
  have hsplit : ∀ first : ShowEventNote S, WithoutSink [first] →
      WithoutSink [first, ⟨.submitted, event⟩] :=
    fun _ hfirst => hfirst.append (withoutSink_submitted event)
  refine hsplit _ ?_
  unfold ShowEventDispatcher.scheduleOwned
  by_cases hvalid : event.isValid = false
  · rw [if_pos hvalid]
    simp [WithoutSink]
  · rw [if_neg hvalid]
    exact withoutSink_of_arrived (fate_accept _ event)

lemma withoutSink_ingest (n : ℕ) :
    ∀ d : ShowEventDispatcher S ingressCapacity timelineCapacity replayCapacity,
      WithoutSink (ShowEventDispatcher.ingest n d).2 := by
  induction n with
  | zero => exact fun _ => withoutSink_nil
  | succ n ih =>
    intro d
    cases hpop : d.ingress.tryPop with
    | none =>
      simp only [ShowEventDispatcher.ingest, hpop]
      exact withoutSink_nil
    | some out =>
      simp only [ShowEventDispatcher.ingest, hpop]
      exact (ih _).append (withoutSink_of_arrived (fate_accept _ _))

lemma withoutSink_runScript (script : SinkScript S) :
    ∀ d : ShowEventDispatcher S ingressCapacity timelineCapacity replayCapacity,
      WithoutSink (ShowEventDispatcher.runScript script d).2.1 := by
  induction script with
  | done ok => exact fun _ => withoutSink_nil
  | schedule event next ih =>
    intro d
    exact (ih _ _).append (withoutSink_scheduleOwned d event)

lemma returned_handOver
    (showTimeNs : UInt64) (event : ShowEvent S) (script : Bool → SinkScript S) :
    SinkReturned (d.handOver showTimeNs event script).2 := by
  simp only [ShowEventDispatcher.handOver]
  split
  · exact WithoutSink.returned (by simp [WithoutSink])
  · have hscript := (withoutSink_runScript (script (decide (showTimeNs > event.showTimeNs)))
      (d.countLate (decide (showTimeNs > event.showTimeNs)))).returned
    unfold SinkReturned at hscript ⊢
    unfold ShowEventDispatcher.settle
    split <;> simp only [fateCount_cons, fateCount_append, fateCount_nil, reduceCtorEq, if_true,
      if_false] <;> omega

lemma returned_drain (showTimeNs : UInt64) (sink : ShowEventSink S) (fuel : ℕ) :
    ∀ (number : ℕ) (d : ShowEventDispatcher S ingressCapacity timelineCapacity replayCapacity) (out),
      ShowEventDispatcher.drain showTimeNs sink fuel number d = some out → SinkReturned out.2 := by
  induction fuel with
  | zero =>
    intro number d out hout
    exact absurd hout (by simp [ShowEventDispatcher.drain])
  | succ fuel ih =>
    intro number d out hout
    cases hpop : d.timeline.popDue showTimeNs with
    | none =>
      simp only [ShowEventDispatcher.drain, hpop, Option.some.injEq] at hout
      subst hout
      exact withoutSink_nil.returned
    | some popped =>
      simp only [ShowEventDispatcher.drain, hpop, Option.map_eq_some_iff] at hout
      obtain ⟨rest, hrest, rfl⟩ := hout
      exact (ih _ _ rest hrest).append (returned_handOver _ _ _ _)

/-- **Once a call has returned, so has the sink.** -/
lemma returned_of_step {a : ShowEventAction S} (h : SinkReturned s.log) (hstep : s.step a = some t) :
    SinkReturned t.log := by
  cases a with
  | submit event =>
    simp only [step, submit] at hstep
    split at hstep
    · cases hstep
      exact (withoutSink_submitted event).returned.append h
    · cases hstep
  | advance =>
    simp only [step, advance] at hstep
    split at hstep
    · cases hstep
    · split_ifs at hstep
      · cases hstep
        exact returned_cons h (by simp) (by simp) (by simp)
      · cases hstep
        exact h
    · cases hstep
      exact h
    · cases hstep
      exact h
    · cases hstep
      exact h
    · cases hstep
      exact returned_cons h (by simp) (by simp) (by simp)
    · cases hstep
      exact h
  | scheduleOwned event =>
    cases hstep
    exact (withoutSink_scheduleOwned s.dispatcher event).returned.append h
  | ingestPending =>
    cases hstep
    exact (withoutSink_ingest _ s.dispatcher).returned.append h
  | dispatchDue showTimeNs sink fuel =>
    obtain ⟨out, hout, rfl⟩ := Option.map_eq_some_iff.mp hstep
    obtain ⟨drained, hdrained, rfl⟩ := Option.map_eq_some_iff.mp hout
    exact ((returned_drain showTimeNs sink fuel 0 _ drained hdrained).append
      (withoutSink_ingest _ s.dispatcher).returned).append h
  | cancel key =>
    cases hstep
    have hwithdraw : WithoutSink (s.dispatcher.ingestPending.1.withdraw key).2 := by
      unfold ShowEventDispatcher.withdraw
      split
      · exact withoutSink_nil
      · simp [WithoutSink]
    exact (hwithdraw.append (withoutSink_ingest _ s.dispatcher)).returned.append h

end

end ShowEventRun

/-! ## A drain whose sink schedules nothing -/

def SchedulesNothing (sink : ShowEventSink S) : Prop :=
  ∀ number event isLate, ∃ ok, sink number event isLate = .done ok

/-- The event is due, and not to be dropped because it is late. -/
def ShowEvent.handedAt (showTimeNs : UInt64) (event : ShowEvent S) : Bool :=
  decide (event.showTimeNs ≤ showTimeNs) &&
    !(decide (event.showTimeNs < showTimeNs) && event.dropsIfLate)

namespace ShowEventDispatcher

variable [NeZero replayCapacity]
  {d : ShowEventDispatcher S ingressCapacity timelineCapacity replayCapacity} {sink : ShowEventSink S}
  {showTimeNs : UInt64}

lemma handOver_quiet (d : ShowEventDispatcher S ingressCapacity timelineCapacity replayCapacity)
    (hquiet : SchedulesNothing sink) (number : ℕ) {event : ShowEvent S}
    (hdue : event.showTimeNs ≤ showTimeNs) :
    (d.handOver showTimeNs event (sink number event)).1.timeline = d.timeline ∧
      withFate .handed (d.handOver showTimeNs event (sink number event)).2 =
        if event.handedAt showTimeNs then [event] else [] := by
  have hlate : ∀ isLate, (d.countLate isLate).timeline = d.timeline := by
    intro isLate
    cases isLate <;> rfl
  simp only [handOver, ShowEvent.handedAt, hdue, decide_true, Bool.true_and, gt_iff_lt]
  by_cases hdrop : (decide (event.showTimeNs < showTimeNs) && event.dropsIfLate) = true
  · simp only [hdrop, if_true]
    exact ⟨hlate _, by simp [withFate]⟩
  · simp only [hdrop]
    obtain ⟨ok, hok⟩ := hquiet number event (decide (event.showTimeNs < showTimeNs))
    rw [hok]
    have hsettle : ((d.countLate (decide (event.showTimeNs < showTimeNs))).settle ok).1.timeline =
        d.timeline := by
      cases ok <;> exact hlate _
    refine ⟨hsettle, ?_⟩
    cases ok <;> simp [runScript, settle, withFate]

/-- **What is handed over**, and what is left: the turns follow the timeline. -/
lemma drain_quiet (hquiet : SchedulesNothing sink) (showTimeNs : UInt64) (fuel : ℕ) :
    ∀ (number : ℕ) (d : ShowEventDispatcher S ingressCapacity timelineCapacity replayCapacity),
      d.timeline.Kept →
      (∀ out, drain showTimeNs sink fuel number d = some out → (withFate .handed out.2).reverse =
            d.timeline.contents.filter (ShowEvent.handedAt showTimeNs) ∧
          out.1.timeline.contents =
            d.timeline.contents.filter fun event => decide (showTimeNs < event.showTimeNs)) ∧
      (d.timeline.contents.length < fuel → (drain showTimeNs sink fuel number d).isSome = true) := by
  induction fuel with
  | zero =>
    intro number d _
    refine ⟨?_, by omega⟩
    intro out hout
    exact absurd hout (by simp [drain])
  | succ fuel ih =>
    intro number d hkept
    rcases hkept.popDue_cases showTimeNs with
      ⟨hlater, heq⟩ | ⟨event, timeline, hdue, hcontents, hrest, heq⟩
    · simp only [drain, heq, Option.isSome_some, implies_true, and_true, Option.some.injEq]
      rintro out rfl
      have hnone : ∀ event ∈ d.timeline.contents, ¬ event.showTimeNs ≤ showTimeNs := by
        intro event hevent
        exact UInt64.not_le.mpr (hlater event hevent)
      refine ⟨?_, (List.filter_eq_self.mpr ?_).symm⟩
      · rw [List.filter_eq_nil_iff.mpr]
        · rfl
        · intro event hevent
          simp [ShowEvent.handedAt, hnone event hevent]
      · intro event hevent
        simpa using hlater event hevent
    · obtain ⟨htimeline, hhanded⟩ := handOver_quiet (d.withdrawn timeline) hquiet number hdue
      have hnext := ih (number + 1)
        ((d.withdrawn timeline).handOver showTimeNs event (sink number event)).1
        (by rw [htimeline]; exact hrest)
      rw [htimeline] at hnext
      have hleft : (d.withdrawn timeline).timeline = timeline := rfl
      rw [hleft] at hnext
      obtain ⟨hout, hsome⟩ := hnext
      simp only [drain, heq]
      refine ⟨?_, ?_⟩
      · intro out hdrained
        obtain ⟨rest, hdrain, rfl⟩ := Option.map_eq_some_iff.mp hdrained
        obtain ⟨hevents, hremain⟩ := hout rest hdrain
        refine ⟨?_, ?_⟩
        · have happend : withFate .handed (rest.2 ++
              ((d.withdrawn timeline).handOver showTimeNs event (sink number event)).2) =
              withFate .handed rest.2 ++ withFate .handed
                ((d.withdrawn timeline).handOver showTimeNs event (sink number event)).2 := by
            simp [withFate]
          rw [happend, hhanded, List.reverse_append, hevents, hcontents, List.filter_cons]
          split_ifs <;> rfl
        · have hnot : ¬ showTimeNs < event.showTimeNs := UInt64.not_lt.mpr hdue
          rw [hremain, hcontents, List.filter_cons_of_neg (by simpa using hnot)]
      · intro hlength
        rw [Option.isSome_map]
        refine hsome ?_
        rw [hcontents, List.length_cons] at hlength
        omega

end ShowEventDispatcher

/-- What a drain should hand over of the events that wait. -/
structure HandsOver (waiting : List (ShowEvent S)) (showTimeNs : UInt64)
    (handed : List (ShowEvent S)) : Prop where
  due : handed = waiting.filter (ShowEvent.handedAt showTimeNs)
  sorted : handed.Pairwise fun a b => a.rank ≤ b.rank
  increasing : (waiting.map ShowEvent.key).Nodup → handed.Pairwise fun a b => a.rank < b.rank

lemma ShowTimeline.Kept.handsOver {timeline : ShowTimeline S timelineCapacity} (h : timeline.Kept)
    {showTimeNs : UInt64} {handed : List (ShowEvent S)}
    (hdue : handed = timeline.contents.filter (ShowEvent.handedAt showTimeNs)) :
    HandsOver timeline.contents showTimeNs handed := by
  have hsorted : handed.Pairwise fun a b => a.rank ≤ b.rank := hdue ▸ h.sorted.filter _
  refine ⟨hdue, hsorted, ?_⟩
  intro hnodup
  have hkeys : handed.Pairwise fun a b => a.key ≠ b.key :=
    hdue ▸ (List.pairwise_map.mp hnodup).filter _
  refine (hsorted.and hkeys).imp ?_
  rintro a b ⟨hle, hne⟩
  exact lt_of_le_of_ne hle fun heq => hne (ShowEvent.key_eq_of_rank_eq heq)

/-! ## Conservation -/

namespace ShowEventRun

variable [NeZero replayCapacity]

structure Conserved (s : ShowEventRun S ingressCapacity timelineCapacity replayCapacity) :
    Prop where
  submitted : s.dispatcher.metrics.submitted =
    s.dispatcher.metrics.invalid + s.dispatcher.metrics.ingressOverflow +
      s.dispatcher.metrics.duplicates + s.dispatcher.metrics.timelineOverflow +
      s.dispatcher.metrics.accepted + UInt64.ofNat s.dispatcher.ingress.contents.length +
      UInt64.ofNat (inFlight s.submitting)
  accepted : s.dispatcher.metrics.accepted =
    s.dispatcher.metrics.dispatched + s.dispatcher.metrics.droppedLate +
      s.dispatcher.metrics.dispatchFailures + s.dispatcher.metrics.cancelled +
      UInt64.ofNat s.dispatcher.timeline.contents.length

/-- A drain whose sink schedules nothing comes to its end and hands over what is due. -/
def DrainsInOrder (s : ShowEventRun S ingressCapacity timelineCapacity replayCapacity) : Prop :=
  ∀ showTimeNs sink, SchedulesNothing sink →
    (∃ fuel, (s.dispatcher.dispatchDue showTimeNs sink fuel).isSome = true) ∧
    ∀ fuel out, s.dispatcher.dispatchDue showTimeNs sink fuel = some out →
      HandsOver s.dispatcher.ingestPending.1.timeline.contents showTimeNs
        (withFate .handed out.2).reverse

variable {s : ShowEventRun S ingressCapacity timelineCapacity replayCapacity}

lemma conserved_of_kept (hkept : s.TimelineKept) (hcounted : s.Counted) (hbalanced : s.Balanced)
    (hreturned : SinkReturned s.log) : s.Conserved := by
  have hcount : ∀ fate, fate ≠ .handed →
      s.dispatcher.metrics.counter fate = UInt64.ofNat (fateCount fate s.log) := hcounted
  constructor
  · have hall := congrArg UInt64.ofNat hbalanced
    simp only [UInt64.ofNat_add] at hall
    rw [← hcount .submitted (by simp), ← hcount .invalid (by simp),
      ← hcount .ingressOverflow (by simp), ← hcount .duplicate (by simp),
      ← hcount .timelineOverflow (by simp), ← hcount .accepted (by simp)] at hall
    exact hall
  · have hlengths := hkept.conserved.length_eq
    simp only [List.length_append] at hlengths
    have hsum : fateCount .accepted s.log = fateCount .dispatched s.log +
        fateCount .droppedLate s.log + fateCount .dispatchFailure s.log +
        fateCount .cancelled s.log + s.dispatcher.timeline.contents.length := by
      unfold SinkReturned at hreturned
      unfold fateCount at hreturned ⊢
      omega
    have hall := congrArg UInt64.ofNat hsum
    simp only [UInt64.ofNat_add] at hall
    rw [← hcount .accepted (by simp), ← hcount .dispatched (by simp),
      ← hcount .droppedLate (by simp), ← hcount .dispatchFailure (by simp),
      ← hcount .cancelled (by simp)] at hall
    exact hall

lemma drainsInOrder_of_kept (hingress : s.IngressKept) (hkept : s.TimelineKept) :
    s.DrainsInOrder := by
  intro showTimeNs sink hquiet
  have hingested : s.dispatcher.ingestPending.1.timeline.Kept := by
    obtain ⟨turns, hturns⟩ := turns_ingest s.dispatcher.ingress.size s
    have hboth : (s.moved s.dispatcher.ingestPending.1 s.dispatcher.ingestPending.2).IngressKept ∧
        (s.moved s.dispatcher.ingestPending.1 s.dispatcher.ingestPending.2).TimelineKept :=
      hturns.invariant (I := fun s => s.IngressKept ∧ s.TimelineKept) ⟨hingress, hkept⟩
        fun _ _ _ h _ hturn => kept_of_turn h.1 h.2 hturn
    exact hboth.2.kept
  have hdrain := fun fuel => ShowEventDispatcher.drain_quiet hquiet showTimeNs fuel 0
    s.dispatcher.ingestPending.1 hingested
  refine ⟨⟨s.dispatcher.ingestPending.1.timeline.contents.length + 1, ?_⟩, ?_⟩
  · simp only [ShowEventDispatcher.dispatchDue, Option.isSome_map]
    exact (hdrain _).2 (Nat.lt_succ_self _)
  · intro fuel out hout
    obtain ⟨drained, hdrained, rfl⟩ := Option.map_eq_some_iff.mp hout
    refine hingested.handsOver ?_
    have hnone : withFate .handed s.dispatcher.ingestPending.2 = [] := by
      have hzero : fateCount .handed s.dispatcher.ingestPending.2 = 0 :=
        fateCount_eq_zero fun note hnote =>
          (withoutSink_ingest s.dispatcher.ingress.size s.dispatcher note hnote).1
      exact List.length_eq_zero_iff.mp hzero
    have happend : withFate .handed (drained.2 ++ s.dispatcher.ingestPending.2) =
        withFate .handed drained.2 ++ withFate .handed s.dispatcher.ingestPending.2 := by
      simp [withFate]
    rw [happend, hnone, List.append_nil]
    exact ((hdrain fuel).1 drained hdrained).1

end ShowEventRun

open ShowEventRun

/-- **Show events are conserved and handed over in order.** In every run, submitted events are refused,
accepted, in the queue or on their way there, accepted events are dispatched, dropped, failed,
cancelled or waiting, and a drain whose sink schedules nothing hands over exactly the waiting events
that are due and not to be dropped as late, by show time, priority, type and id. -/
theorem show_events_conserved [NeZero replayCapacity] (hcapacity : 2 ≤ ingressCapacity)
    {actions : List (ShowEventAction S)}
    {s : ShowEventRun S ingressCapacity timelineCapacity replayCapacity}
    (hrun : Reaches step Always start actions s) : s.Conserved ∧ s.DrainsInOrder := by
  have hkept : (s.IngressKept ∧ s.TimelineKept) ∧ s.Counted ∧ s.Balanced := by
    refine invariant_of_turns
      (I := fun s => (s.IngressKept ∧ s.TimelineKept) ∧ s.Counted ∧ s.Balanced) ?_ ?_ hrun
    · refine ⟨kept_start (by omega), ?_, rfl⟩
      intro fate _
      cases fate <;> rfl
    · rintro v a w ⟨hkept, hcounted, hbalanced⟩ hturn
      exact ⟨kept_of_turn hkept.1 hkept.2 hturn, counted_of_turn hcounted hturn,
        balanced_of_turn hbalanced hkept.1 hturn⟩
  have hreturned : SinkReturned s.log := by
    refine hrun.invariant (I := fun s => SinkReturned s.log) withoutSink_nil.returned ?_
    exact fun _ _ _ h _ hstep => returned_of_step h hstep
  obtain ⟨⟨hingress, htimeline⟩, hcounted, hbalanced⟩ := hkept
  exact ⟨conserved_of_kept htimeline hcounted hbalanced hreturned,
    drainsInOrder_of_kept hingress htimeline⟩

/-! ## A due event that is not handed over -/

/-- A cue that is to be dropped when it is late. -/
def fleetingCue : ShowEvent .rationals := { ShowEvent.blank .rationals with
    eventId := 1
    showTimeNs := 1000
    flags := showEventDropIfLate
    payload := .cue 1 }

def willingSink : ShowEventSink .rationals := fun _ _ _ => .done true

/-- **A late event is dropped.** It waits and is due, the sink schedules nothing, and the drain does
not hand it over. -/
theorem late_event_not_handed_over :
    ∃ (s : ShowEventRun .rationals 2 4 2) (out : _ × List (ShowEventNote .rationals)),
      Reaches step Always start [.scheduleOwned fleetingCue] s ∧ SchedulesNothing willingSink ∧
      s.dispatcher.dispatchDue 2000 willingSink 2 = some out ∧
      (s.dispatcher.ingestPending.1.timeline.contents.filter
        fun event => decide (event.showTimeNs ≤ 2000)).length = 1 ∧
      withFate .handed out.2 = [] := by
  have hrun : Reaches step Always (start : ShowEventRun .rationals 2 4 2)
      [.scheduleOwned fleetingCue] _ := reaches_always_of_run rfl
  exact ⟨_, _, hrun, fun _ _ _ => ⟨true, rfl⟩, rfl, by decide +kernel, rfl⟩

theorem show_events_conserved_cue : ∃ s : ShowEventRun .rationals 2 4 2,
      Reaches step Always start [.scheduleOwned fleetingCue, .dispatchDue 1000 willingSink 2] s ∧
        s.Conserved ∧ s.DrainsInOrder := by
  have hrun : Reaches step Always (start : ShowEventRun .rationals 2 4 2)
      [.scheduleOwned fleetingCue, .dispatchDue 1000 willingSink 2] _ := reaches_always_of_run rfl
  exact ⟨_, hrun, show_events_conserved (by decide) hrun⟩

end StageForge
