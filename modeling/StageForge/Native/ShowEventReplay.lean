import StageForge.Native.ShowEventRuns

/-!
# Which show events are accepted twice

An accepted event waits in the timeline until it is handed to the sink, dropped or cancelled. The
dispatcher refuses an event as a duplicate by looking for its key among the last ones it accepted, and
not among those that wait.
-/

namespace StageForge

open TransitionSystem

variable {S : NativeFloats} {ingressCapacity timelineCapacity replayCapacity : ℕ}

/-! ## What the log says -/

def withFate (fate : ShowEventFate) (log : List (ShowEventNote S)) : List (ShowEvent S) :=
  (log.filter fun note => decide (note.fate = fate)).map ShowEventNote.event

def acceptedKeys (log : List (ShowEventNote S)) : List ReplayKey :=
  (withFate .accepted log).map ShowEvent.key

/-- The keys of the events that have been accepted and not yet taken out. -/
def pendingKeys : List (ShowEventNote S) → List ReplayKey
  | [] => []
  | note :: older =>
    match note.fate with
    | .accepted => note.event.key :: pendingKeys older
    | .handed => (pendingKeys older).erase note.event.key
    | .droppedLate => (pendingKeys older).erase note.event.key
    | .cancelled => (pendingKeys older).erase note.event.key
    | _ => pendingKeys older

def Judgement (timelineCapacity replayCapacity : ℕ) (note : ShowEventNote S)
    (older : List (ShowEventNote S)) : Prop :=
  match note.fate with
  | .accepted => note.event.key ∉ (acceptedKeys older).take replayCapacity ∧
      (pendingKeys older).length < timelineCapacity
  | .duplicate => note.event.key ∈ (acceptedKeys older).take replayCapacity
  | .timelineOverflow => timelineCapacity ≤ (pendingKeys older).length
  | _ => True

/-- Every decision was made on what was there then. -/
def Judged (timelineCapacity replayCapacity : ℕ) (log : List (ShowEventNote S)) : Prop :=
  ∀ newer note older, log = newer ++ note :: older →
    Judgement timelineCapacity replayCapacity note older

/-- No event was accepted while one with its key was waiting. -/
def NeverTwice (log : List (ShowEventNote S)) : Prop :=
  ∀ newer note older, log = newer ++ note :: older → note.fate = .accepted →
    note.event.key ∉ pendingKeys older

/-- The event came as far as being judged by its key. -/
def ShowEventNote.Arrived (note : ShowEventNote S) : Prop :=
  note.fate = .accepted ∨ note.fate = .duplicate ∨ note.fate = .timelineOverflow

/-- While there was room, the keys of waiting events were remembered. -/
def RememberedInTime (timelineCapacity replayCapacity : ℕ) (log : List (ShowEventNote S)) : Prop :=
  ∀ newer note older, log = newer ++ note :: older → note.Arrived →
    note.event.key ∈ pendingKeys older → (pendingKeys older).length < timelineCapacity →
    note.event.key ∈ (acceptedKeys older).take replayCapacity

/-- At any time, the events handed over are among those accepted. -/
def OncePerAcceptance (log : List (ShowEventNote S)) : Prop := ∀ newer older, log = newer ++ older →
    (withFate .handed older).Subperm (withFate .accepted older)

lemma withFate_cons (fate : ShowEventFate) (note : ShowEventNote S) (log : List (ShowEventNote S)) :
    withFate fate (note :: log) =
      if note.fate = fate then note.event :: withFate fate log else withFate fate log := by
  unfold withFate
  split_ifs with hfate
  · rw [List.filter_cons_of_pos (by simpa using hfate), List.map_cons]
  · rw [List.filter_cons_of_neg (by simpa using hfate)]

lemma judged_nil : Judged timelineCapacity replayCapacity ([] : List (ShowEventNote S)) := by
  intro newer note older h
  simp at h

variable {log : List (ShowEventNote S)}

lemma Judged.cons {note : ShowEventNote S} (h : Judged timelineCapacity replayCapacity log)
    (hnote : Judgement timelineCapacity replayCapacity note log) :
    Judged timelineCapacity replayCapacity (note :: log) := by
  intro newer other older hlog
  cases newer with
  | nil =>
    obtain ⟨rfl, rfl⟩ := List.cons.inj hlog
    exact hnote
  | cons first newer => exact h newer other older (List.cons.inj hlog).2

lemma oncePerAcceptance_nil : OncePerAcceptance ([] : List (ShowEventNote S)) := by
  intro newer older h
  obtain ⟨-, rfl⟩ := List.append_eq_nil_iff.mp h.symm
  exact List.Subperm.refl _

lemma OncePerAcceptance.cons {note : ShowEventNote S} (h : OncePerAcceptance log)
    (hnote : (withFate .handed (note :: log)).Subperm (withFate .accepted (note :: log))) :
    OncePerAcceptance (note :: log) := by
  intro newer older hlog
  cases newer with
  | nil =>
    obtain rfl : note :: log = older := hlog
    exact hnote
  | cons first newer => exact h newer older (List.cons.inj hlog).2

lemma perm_append_put {α : Type*} {front before after : List α} {x : α}
    (h : after.Perm (x :: before)) : (x :: (front ++ before)).Perm (front ++ after) :=
  List.perm_middle.symm.trans (h.symm.append_left front)

/-- **Decisions made on what was there then** let an event in twice where its key was forgotten. -/
lemma Judged.neverTwice_iff (h : Judged timelineCapacity replayCapacity log) :
    NeverTwice log ↔ RememberedInTime timelineCapacity replayCapacity log := by
  constructor
  · intro hnever newer note older hlog harrived hwaits hroom
    have hjudged := h newer note older hlog
    rcases harrived with hfate | hfate | hfate
    · exact absurd hwaits (hnever newer note older hlog hfate)
    · simpa only [Judgement, hfate] using hjudged
    · have hfull : timelineCapacity ≤ (pendingKeys older).length := by
        simpa only [Judgement, hfate] using hjudged
      omega
  · intro hremembered newer note older hlog hfate hwaits
    have hjudged := h newer note older hlog
    simp only [Judgement, hfate] at hjudged
    exact hjudged.1 (hremembered newer note older hlog (.inl hfate) hwaits hjudged.2)

/-! ## What every turn keeps -/

namespace ShowEventRun

/-- What the producer knows of the event it is submitting. -/
def StageKept (ingress : SpscQueue (ShowEvent S) ingressCapacity) : SubmitStage S → Prop
  | .checked event => event.isValid = true
  | .roomy event => event.isValid = true ∧ ingress.hasRoom = true
  | .stored event => event.isValid = true ∧ ingress.hasRoom = true ∧
      ingress.storage ingress.head = event
  | _ => True

structure IngressKept (s : ShowEventRun S ingressCapacity timelineCapacity replayCapacity) :
    Prop where
  proper : s.dispatcher.ingress.Proper
  valid : ∀ event ∈ s.dispatcher.ingress.contents, event.isValid = true
  stage : StageKept s.dispatcher.ingress s.submitting

section

variable [NeZero replayCapacity]

/-- What the log has to do with the timeline and the ring. -/
structure TimelineKept (s : ShowEventRun S ingressCapacity timelineCapacity replayCapacity) :
    Prop where
  kept : s.dispatcher.timeline.Kept
  waiting : (s.dispatcher.timeline.contents.map ShowEvent.key).Perm (pendingKeys s.log)
  conserved : (withFate .accepted s.log).Perm (withFate .handed s.log ++
    withFate .droppedLate s.log ++ withFate .cancelled s.log ++ s.dispatcher.timeline.contents)
  replay : s.dispatcher.replay.Holds (acceptedKeys s.log)
  judged : Judged timelineCapacity replayCapacity s.log
  once : OncePerAcceptance s.log

variable {s t : ShowEventRun S ingressCapacity timelineCapacity replayCapacity}
  {d : ShowEventDispatcher S ingressCapacity timelineCapacity replayCapacity}
  {event : ShowEvent S} {note : ShowEventNote S}

lemma TimelineKept.length_pending (h : s.TimelineKept) :
    (pendingKeys s.log).length = s.dispatcher.timeline.contents.length := by
  rw [← h.waiting.length_eq, List.length_map]

lemma TimelineKept.moved (h : s.TimelineKept) (hlog : t.log = note :: s.log)
    (hkept : t.dispatcher.timeline.Kept)
    (hwaiting : (t.dispatcher.timeline.contents.map ShowEvent.key).Perm
      (pendingKeys (note :: s.log)))
    (hconserved : (withFate .accepted (note :: s.log)).Perm (withFate .handed (note :: s.log) ++
      withFate .droppedLate (note :: s.log) ++ withFate .cancelled (note :: s.log) ++
        t.dispatcher.timeline.contents))
    (hreplay : t.dispatcher.replay.Holds (acceptedKeys (note :: s.log)))
    (hjudgement : Judgement timelineCapacity replayCapacity note s.log) : t.TimelineKept := by
  rw [← hlog] at hwaiting hconserved hreplay
  refine ⟨hkept, hwaiting, hconserved, hreplay, hlog ▸ h.judged.cons hjudgement, ?_⟩
  rw [hlog] at hconserved ⊢
  refine h.once.cons ?_
  simp only [List.append_assoc] at hconserved
  exact (List.sublist_append_left _ _).subperm.trans hconserved.symm.subperm

lemma TimelineKept.congr (h : s.TimelineKept)
    (htimeline : t.dispatcher.timeline = s.dispatcher.timeline)
    (hreplay : t.dispatcher.replay = s.dispatcher.replay) (hlog : t.log = s.log) :
    t.TimelineKept := by
  obtain ⟨hkept, hwaiting, hconserved, hholds, hjudged, honce⟩ := h
  rw [← htimeline] at hkept hwaiting hconserved
  rw [← hreplay] at hholds
  rw [← hlog] at hwaiting hconserved hholds hjudged honce
  exact ⟨hkept, hwaiting, hconserved, hholds, hjudged, honce⟩

lemma TimelineKept.unmoved (h : s.TimelineKept)
    (htimeline : t.dispatcher.timeline = s.dispatcher.timeline)
    (hreplay : t.dispatcher.replay = s.dispatcher.replay) (hlog : t.log = note :: s.log)
    (hjudgement : Judgement timelineCapacity replayCapacity note s.log)
    (haccepted : note.fate ≠ .accepted) (hhanded : note.fate ≠ .handed)
    (hdropped : note.fate ≠ .droppedLate) (hcancelled : note.fate ≠ .cancelled) :
    t.TimelineKept := by
  have hpending : pendingKeys (note :: s.log) = pendingKeys s.log := by
    rw [pendingKeys]
    split <;> first | rfl | contradiction
  refine h.moved hlog ?_ ?_ ?_ ?_ hjudgement
  · rw [htimeline]
    exact h.kept
  · rw [htimeline, hpending]
    exact h.waiting
  · simp only [withFate_cons, if_neg haccepted, if_neg hhanded, if_neg hdropped, if_neg hcancelled]
    rw [htimeline]
    exact h.conserved
  · rw [hreplay, acceptedKeys, withFate_cons, if_neg haccepted]
    exact h.replay

lemma TimelineKept.seen_iff (h : s.TimelineKept) (key : ReplayKey) :
    s.dispatcher.seen key = true ↔ key ∈ (acceptedKeys s.log).take replayCapacity := by
  unfold ShowEventDispatcher.seen
  constructor
  · intro hseen
    obtain ⟨other, hother⟩ := Option.isSome_iff_exists.mp hseen
    obtain ⟨hmem, heq⟩ := h.replay.of_find? hother
    rwa [of_decide_eq_true heq] at hmem
  · intro hmem
    by_contra hunseen
    rw [Option.not_isSome_iff_eq_none, h.replay.find?_eq_none] at hunseen
    exact absurd (hunseen key hmem) (by simp)

/-- **A valid event is judged.** -/
lemma TimelineKept.accept (h : s.TimelineKept) (hvalid : event.isValid = true) :
    (s.moved (s.dispatcher.accept event).1 [⟨(s.dispatcher.accept event).2, event⟩]).TimelineKept := by
  unfold ShowEventDispatcher.accept
  by_cases hseen : s.dispatcher.seen event.key = true
  · rw [if_pos hseen]
    exact h.unmoved rfl rfl rfl ((h.seen_iff _).mp hseen) (by simp) (by simp) (by simp) (by simp)
  rw [if_neg hseen]
  have hnew := (h.seen_iff event.key).not.mp hseen
  rcases h.kept.schedule_cases event with ⟨hrefused, heq⟩ | ⟨timeline, hroom, -, heq, hperm, hkept⟩
  · simp only [heq]
    have hfull : timelineCapacity ≤ (pendingKeys s.log).length := by
      rw [h.length_pending]
      rcases hrefused with hfull | hinvalid
      · exact hfull
      · exact absurd hvalid (by simp [hinvalid])
    exact h.unmoved rfl rfl rfl hfull (by simp) (by simp) (by simp) (by simp)
  · simp only [heq]
    refine h.moved rfl hkept ?_ ?_ ?_ ?_
    · exact (hperm.map ShowEvent.key).trans (h.waiting.cons _)
    · simp only [withFate_cons, reduceCtorEq, if_true, if_false]
      exact (h.conserved.cons event).trans (perm_append_put hperm)
    · rw [acceptedKeys, withFate_cons, if_pos rfl, List.map_cons]
      exact h.replay.push _
    · exact ⟨hnew, by rw [h.length_pending]; exact hroom⟩

/-- **An event is taken out of the timeline.** -/
lemma TimelineKept.takenOut (h : s.TimelineKept) {timeline : ShowTimeline S timelineCapacity}
    (hperm : s.dispatcher.timeline.contents.Perm (note.event :: timeline.contents))
    (hkept : timeline.Kept) (htimeline : t.dispatcher.timeline = timeline)
    (hreplay : t.dispatcher.replay = s.dispatcher.replay) (hlog : t.log = note :: s.log)
    (hfate : note.fate = .handed ∨ note.fate = .droppedLate ∨ note.fate = .cancelled) :
    t.TimelineKept := by
  subst htimeline
  have hpending : pendingKeys (note :: s.log) = (pendingKeys s.log).erase note.event.key := by
    rw [pendingKeys]
    rcases hfate with hfate | hfate | hfate <;> rw [hfate]
  have haccepted : withFate .accepted (note :: s.log) = withFate .accepted s.log := by
    rw [withFate_cons, if_neg]
    rcases hfate with hfate | hfate | hfate <;> simp [hfate]
  have hconserved := h.conserved.trans (hperm.append_left _)
  refine h.moved hlog hkept ?_ ?_ ?_ ?_
  · rw [hpending]
    have hkeys := ((hperm.map ShowEvent.key).symm.trans h.waiting).erase note.event.key
    rwa [List.map_cons, List.erase_cons_head] at hkeys
  · rw [haccepted]
    refine hconserved.trans ?_
    rcases hfate with hfate | hfate | hfate <;>
      simp only [withFate_cons, hfate, reduceCtorEq, if_true, if_false]
    · exact List.perm_middle
    · simp only [List.append_assoc, List.cons_append]
      refine List.Perm.append_left _ ?_
      simp only [← List.append_assoc]
      exact List.perm_middle
    · simp only [List.append_assoc, List.cons_append]
      exact (List.perm_middle.append_left _).append_left _
  · rw [hreplay, acceptedKeys, haccepted]
    exact h.replay
  · rcases hfate with hfate | hfate | hfate <;> simp [Judgement, hfate]

lemma TimelineKept.handed (h : s.TimelineKept) {showTimeNs : UInt64}
    {timeline : ShowTimeline S timelineCapacity}
    (hcontents : s.dispatcher.timeline.contents = event :: timeline.contents)
    (hkept : timeline.Kept) : (s.handed showTimeNs event timeline).TimelineKept := by
  have hlate : ∀ isLate, ((s.dispatcher.withdrawn timeline).countLate isLate).timeline = timeline ∧
      ((s.dispatcher.withdrawn timeline).countLate isLate).replay = s.dispatcher.replay := by
    intro isLate
    cases isLate <;> exact ⟨rfl, rfl⟩
  have hperm : s.dispatcher.timeline.contents.Perm (event :: timeline.contents) :=
    hcontents ▸ List.Perm.refl _
  obtain ⟨htimeline, hreplay⟩ := hlate (decide (showTimeNs > event.showTimeNs))
  unfold ShowEventRun.handed
  by_cases hdrop : (decide (showTimeNs > event.showTimeNs) && event.dropsIfLate) = true
  · simp only [hdrop, if_true]
    exact h.takenOut hperm hkept htimeline hreplay rfl (.inr (.inl rfl))
  · simp only [hdrop]
    exact h.takenOut hperm hkept htimeline hreplay rfl (.inl rfl)

/-! ## What the producer and the queue keep -/

omit [NeZero replayCapacity] in
lemma IngressKept.congr (h : s.IngressKept) (hingress : t.dispatcher.ingress = s.dispatcher.ingress)
    (hsubmitting : t.submitting = s.submitting) : t.IngressKept := by
  obtain ⟨hproper, hvalid, hstage⟩ := h
  rw [← hingress] at hproper hvalid hstage
  rw [← hsubmitting] at hstage
  exact ⟨hproper, hvalid, hstage⟩

lemma ingress_accept (d : ShowEventDispatcher S ingressCapacity timelineCapacity replayCapacity)
    (event : ShowEvent S) : (d.accept event).1.ingress = d.ingress := by
  unfold ShowEventDispatcher.accept
  split
  · rfl
  · split <;> rfl

lemma ingress_scheduleOwned
    (d : ShowEventDispatcher S ingressCapacity timelineCapacity replayCapacity)
    (event : ShowEvent S) : (d.scheduleOwned event).1.ingress = d.ingress := by
  unfold ShowEventDispatcher.scheduleOwned
  split
  · rfl
  · exact ingress_accept _ event

omit [NeZero replayCapacity] in
lemma IngressKept.popped (h : s.IngressKept) {ingress : SpscQueue (ShowEvent S) ingressCapacity}
    (hpop : s.dispatcher.ingress.tryPop = some (event, ingress)) (hingress : d.ingress = ingress)
    (notes : List (ShowEventNote S)) : event.isValid = true ∧ (s.moved d notes).IngressKept := by
  subst hingress
  rcases h.proper.tryPop_cases with ⟨-, hnone⟩ | ⟨first, rest, hcontents, hproper, heq⟩
  · rw [hnone] at hpop
    cases hpop
  · rw [heq, Option.some.injEq, Prod.mk.injEq] at hpop
    obtain ⟨rfl, rfl⟩ := hpop
    obtain ⟨hstorage, hhead, hroom⟩ := h.proper.of_tryPop heq
    have hvalid := h.valid
    rw [hcontents] at hvalid
    refine ⟨hvalid first List.mem_cons_self, hproper, fun e he => hvalid e (.tail _ he), ?_⟩
    have hstage := h.stage
    simp only [ShowEventRun.moved]
    cases hsubmitting : s.submitting <;> rw [hsubmitting] at hstage <;>
      simp only [StageKept, hstorage, hhead] at hstage ⊢
    · exact hstage
    · exact ⟨hstage.1, hroom hstage.2⟩
    · exact ⟨hstage.1, hroom hstage.2.1, hstage.2.2⟩

omit [NeZero replayCapacity] in
lemma IngressKept.submit (h : s.IngressKept) (hsubmit : s.submit event = some t) :
    t.IngressKept := by
  unfold ShowEventRun.submit at hsubmit
  split at hsubmit
  · cases hsubmit
    exact ⟨h.proper, h.valid, trivial⟩
  · cases hsubmit

omit [NeZero replayCapacity] in
/-- **The producer puts only valid events into the queue.** -/
lemma IngressKept.advance (h : s.IngressKept) (hadvance : s.advance = some t) : t.IngressKept := by
  have hstage := h.stage
  unfold ShowEventRun.advance at hadvance
  cases hsubmitting : s.submitting with
  | idle => simp [hsubmitting] at hadvance
  | counted event =>
    simp only [hsubmitting] at hadvance
    split_ifs at hadvance with hvalid
    · cases hadvance
      exact ⟨h.proper, h.valid, trivial⟩
    · cases hadvance
      exact ⟨h.proper, h.valid, by simpa [StageKept] using hvalid⟩
  | checked event =>
    simp only [hsubmitting, Option.some.injEq] at hadvance hstage
    subst hadvance
    refine ⟨h.proper, h.valid, ?_⟩
    by_cases hroom : s.dispatcher.ingress.hasRoom = true
    · simp only [if_pos hroom]
      exact ⟨hstage, hroom⟩
    · simp only [if_neg hroom]
      trivial
  | roomy event =>
    simp only [hsubmitting, Option.some.injEq] at hadvance hstage
    subst hadvance
    refine ⟨h.proper.store event, ?_, hstage.1, hstage.2, by simp [moved, SpscQueue.store]⟩
    simp only [moved, h.proper.contents_store event]
    exact h.valid
  | stored event =>
    simp only [hsubmitting, Option.some.injEq] at hadvance hstage
    subst hadvance
    refine ⟨h.proper.publish, ?_, trivial⟩
    simp only [moved, h.proper.contents_publish hstage.2.1, hstage.2.2]
    intro other hother
    rcases List.mem_append.mp hother with hold | hnew
    · exact h.valid other hold
    · obtain rfl := List.mem_singleton.mp hnew
      exact hstage.1
  | full event =>
    simp only [hsubmitting, Option.some.injEq] at hadvance
    subst hadvance
    exact ⟨h.proper, h.valid, trivial⟩
  | published event =>
    simp only [hsubmitting, Option.some.injEq] at hadvance
    subst hadvance
    exact ⟨h.proper, h.valid, trivial⟩

lemma TimelineKept.submit (h : s.TimelineKept) (hsubmit : s.submit event = some t) :
    t.TimelineKept := by
  unfold ShowEventRun.submit at hsubmit
  split at hsubmit
  · cases hsubmit
    exact h.unmoved rfl rfl rfl trivial (by simp) (by simp) (by simp) (by simp)
  · cases hsubmit

lemma TimelineKept.advance (h : s.TimelineKept) (hadvance : s.advance = some t) :
    t.TimelineKept := by
  unfold ShowEventRun.advance at hadvance
  cases hsubmitting : s.submitting with
  | idle => simp [hsubmitting] at hadvance
  | counted event =>
    simp only [hsubmitting] at hadvance
    split_ifs at hadvance with hvalid
    · cases hadvance
      exact h.unmoved rfl rfl rfl trivial (by simp) (by simp) (by simp) (by simp)
    · cases hadvance
      exact h.congr rfl rfl rfl
  | checked event =>
    simp only [hsubmitting, Option.some.injEq] at hadvance
    subst hadvance
    exact h.congr rfl rfl rfl
  | full event =>
    simp only [hsubmitting, Option.some.injEq] at hadvance
    subst hadvance
    exact h.unmoved rfl rfl rfl trivial (by simp) (by simp) (by simp) (by simp)
  | roomy event | stored event | published event =>
    simp only [hsubmitting, Option.some.injEq] at hadvance
    subst hadvance
    exact h.congr rfl rfl rfl

/-! ## Every run -/

lemma TimelineKept.scheduleOwned (h : s.TimelineKept) (event : ShowEvent S) :
    (s.moved (s.dispatcher.scheduleOwned event).1
      [⟨(s.dispatcher.scheduleOwned event).2, event⟩, ⟨.submitted, event⟩]).TimelineKept := by
  have hcounted : (s.moved { s.dispatcher with metrics := { s.dispatcher.metrics with
        submitted := s.dispatcher.metrics.submitted + 1 } } [⟨.submitted, event⟩]).TimelineKept :=
    h.unmoved rfl rfl rfl trivial (by simp) (by simp) (by simp) (by simp)
  unfold ShowEventDispatcher.scheduleOwned
  by_cases hvalid : event.isValid = false
  · rw [if_pos hvalid]
    exact hcounted.unmoved rfl rfl rfl trivial (by simp) (by simp) (by simp) (by simp)
  · rw [if_neg hvalid]
    exact hcounted.accept (by simpa using hvalid)

/-- **Every turn keeps both.** -/
lemma kept_of_turn {a : ShowEventTurn S} (hingress : s.IngressKept) (h : s.TimelineKept)
    (hturn : s.turn a = some t) : t.IngressKept ∧ t.TimelineKept := by
  cases a with
  | submit event => exact ⟨hingress.submit hturn, h.submit hturn⟩
  | advance => exact ⟨hingress.advance hturn, h.advance hturn⟩
  | owned event =>
    cases hturn
    exact ⟨hingress.congr (ingress_scheduleOwned _ event) rfl, h.scheduleOwned event⟩
  | take =>
    obtain ⟨⟨event, ingress⟩, hpop, rfl⟩ := Option.map_eq_some_iff.mp hturn
    obtain ⟨hvalid, hkept⟩ := hingress.popped
      (d := ((s.dispatcher.popped ingress).accept event).1) hpop (ingress_accept _ event)
      [⟨((s.dispatcher.popped ingress).accept event).2, event⟩]
    refine ⟨hkept, ?_⟩
    have hpopped : (s.moved (s.dispatcher.popped ingress) []).TimelineKept := h.congr rfl rfl rfl
    exact hpopped.accept hvalid
  | hand showTimeNs =>
    obtain ⟨⟨event, timeline⟩, hpop, rfl⟩ := Option.map_eq_some_iff.mp hturn
    rcases h.kept.popDue_cases showTimeNs with
      ⟨-, hnone⟩ | ⟨first, rest, -, hcontents, hkept, heq⟩
    · rw [hnone] at hpop
      cases hpop
    · rw [heq, Option.some.injEq, Prod.mk.injEq] at hpop
      obtain ⟨rfl, rfl⟩ := hpop
      refine ⟨?_, h.handed hcontents hkept⟩
      have hsame : ∀ isLate,
          ((s.dispatcher.withdrawn rest).countLate isLate).ingress = s.dispatcher.ingress := by
        intro isLate
        cases isLate <;> rfl
      simp only [handed]
      split
      · exact hingress.congr (hsame _) rfl
      · exact hingress.congr (hsame _) rfl
  | settle event ok =>
    cases hturn
    cases ok
    · exact ⟨hingress.congr rfl rfl,
        h.unmoved rfl rfl rfl trivial (by simp [ShowEventDispatcher.settle])
          (by simp [ShowEventDispatcher.settle]) (by simp [ShowEventDispatcher.settle])
          (by simp [ShowEventDispatcher.settle])⟩
    · exact ⟨hingress.congr rfl rfl,
        h.unmoved rfl rfl rfl trivial (by simp [ShowEventDispatcher.settle])
          (by simp [ShowEventDispatcher.settle]) (by simp [ShowEventDispatcher.settle])
          (by simp [ShowEventDispatcher.settle])⟩
  | withdraw key =>
    cases hturn
    unfold ShowEventDispatcher.withdraw
    rcases h.kept.cancel_cases key with ⟨-, hnone⟩ | ⟨event, timeline, -, hperm, hkept, heq⟩
    · rw [hnone]
      exact ⟨hingress, h⟩
    · rw [heq]
      exact ⟨hingress.congr rfl rfl, h.takenOut hperm hkept rfl rfl rfl (.inr (.inr rfl))⟩
  | publish =>
    cases hturn
    exact ⟨hingress.congr rfl rfl, h.congr rfl rfl rfl⟩

lemma kept_start (hcapacity : 0 < ingressCapacity) :
    (start : ShowEventRun S ingressCapacity timelineCapacity replayCapacity).IngressKept ∧
      (start : ShowEventRun S ingressCapacity timelineCapacity replayCapacity).TimelineKept := by
  refine ⟨⟨SpscQueue.proper_empty _ hcapacity, ?_, trivial⟩, ?_⟩
  · simp [start, ShowEventDispatcher.start]
  · exact ⟨ShowTimeline.kept_empty, List.Perm.refl _, List.Perm.refl _, RecentRing.holds_empty,
      judged_nil, oncePerAcceptance_nil⟩

lemma kept_of_reaches (hcapacity : 0 < ingressCapacity) {actions : List (ShowEventAction S)}
    (hrun : Reaches step Always start actions s) : s.IngressKept ∧ s.TimelineKept :=
  invariant_of_turns (kept_start hcapacity) (fun _ _ _ h hturn => kept_of_turn h.1 h.2 hturn) hrun

end

end ShowEventRun

open ShowEventRun

/-- **While an event waits, its like is refused as long as its key is remembered.** In every run, the
sink gets an event at most once for each time it was accepted, and no event is accepted while one with
its key waits, if and only if the keys of waiting events were remembered whenever such an event came
and there was room for it. -/
theorem pending_never_accepted_twice [NeZero replayCapacity] (hcapacity : 2 ≤ ingressCapacity)
    {actions : List (ShowEventAction S)}
    {s : ShowEventRun S ingressCapacity timelineCapacity replayCapacity}
    (hrun : Reaches step Always start actions s) :
    OncePerAcceptance s.log ∧
      (NeverTwice s.log ↔ RememberedInTime timelineCapacity replayCapacity s.log) := by
  obtain ⟨-, hkept⟩ := kept_of_reaches (by omega) hrun
  exact ⟨hkept.once, hkept.judged.neverTwice_iff⟩

/-! ## A run in which an event is accepted twice -/

def laterCue (id : UInt64) : ShowEvent .rationals := { ShowEvent.blank .rationals with
    eventId := id
    showTimeNs := 1000000000
    payload := .cue id }

/-- The same cue again, with another one in between. -/
def crowdedRun : List (ShowEventAction .rationals) :=
  [.scheduleOwned (laterCue 1), .scheduleOwned (laterCue 2), .scheduleOwned (laterCue 1)]

/-- **A waiting event is accepted again.** A dispatcher that remembers one key accepts a cue a second
time while it is still waiting. -/
theorem waiting_event_accepted_twice : ∃ s : ShowEventRun .rationals 2 4 1,
      Reaches step Always start crowdedRun s ∧ ¬ NeverTwice s.log := by
  have hrun : Reaches step Always (start : ShowEventRun .rationals 2 4 1) crowdedRun _ :=
    reaches_always_of_run rfl
  refine ⟨_, hrun, ?_⟩
  intro hnever
  exact hnever [] _ _ rfl rfl (by decide +kernel)

theorem pending_never_accepted_twice_cue :
    ∃ s : ShowEventRun .rationals 2 4 2, Reaches step Always start crowdedRun s ∧
      OncePerAcceptance s.log ∧ (NeverTwice s.log ↔ RememberedInTime 4 2 s.log) := by
  have hrun : Reaches step Always (start : ShowEventRun .rationals 2 4 2) crowdedRun _ :=
    reaches_always_of_run rfl
  exact ⟨_, hrun, pending_never_accepted_twice (by decide) hrun⟩

end StageForge
