import StageForge.Native.CueActions

/-!
# Whether every action of a cue is scheduled

The ids of the events of actions are packed into 64 bits, and share one filter for duplicates with the
ids that producers choose.
-/

namespace StageForge

open TransitionSystem

/-! ## The ids -/

namespace CueAction

lemma toNat_derivedId (cueEventId : UInt64) {index : ℕ} (h : index < maxCueActions) :
    (derivedId cueEventId index).toNat = 256 * (cueEventId.toNat % 2 ^ 56) + (index + 1) := by
  have hindex : (UInt64.ofNat (index + 1)).toNat = index + 1 := UInt64.toNat_ofNat_of_lt' (by
      rw [maxCueActions] at h
      exact lt_of_lt_of_le (Nat.succ_lt_succ h) (by decide))
  have hshift : cueEventId.toNat <<< 8 % 2 ^ 64 = 2 ^ 8 * (cueEventId.toNat % 2 ^ 56) := by
    rw [Nat.shiftLeft_eq, Nat.mul_comm]
    exact (Nat.mul_mod_mul_left (2 ^ 8) _ (2 ^ 56))
  have hsmall : index + 1 < 2 ^ 8 := by
    rw [maxCueActions] at h
    omega
  rw [derivedId, UInt64.toNat_or, UInt64.toNat_shiftLeft, hindex]
  have hmod : UInt64.toNat 8 % 64 = 8 := rfl
  rw [hmod, hshift, ← Nat.two_pow_add_eq_or_of_lt hsmall]

/-- **Two events of actions have one id** if they have one place, and the lower 56 bits of the cue
events' ids agree. -/
lemma derivedId_eq_iff {cueEventId other : UInt64} {index place : ℕ} (hindex : index < maxCueActions)
    (hplace : place < maxCueActions) :
    derivedId cueEventId index = derivedId other place ↔
      index = place ∧ cueEventId.toNat % 2 ^ 56 = other.toNat % 2 ^ 56 := by
  rw [← UInt64.toNat_inj, toNat_derivedId _ hindex, toNat_derivedId _ hplace]
  rw [maxCueActions] at hindex hplace
  omega

end CueAction

/-! ## What has become of the actions -/

variable {S : NativeFloats} {ingressCapacity timelineCapacity replayCapacity : ℕ}

/-- A valid action has been scheduled at its time, unless there was no room. -/
def SinkCall.ActionScheduled (timelineCapacity : ℕ) (call : SinkCall S) (index : ℕ)
    (action : CueAction S) (outcome : CueOutcome) : Prop :=
  (call.derived index action).isValid = true → (call.derived index action).showTimeNs.toNat =
      call.event.showTimeNs.toNat + action.offsetNs.toNat ∧
    (outcome.fate = .accepted ∨
      outcome.fate = .timelineOverflow ∧ timelineCapacity ≤ outcome.waiting)

/-- The first time an event is handed over, its actions are scheduled. -/
def SinkCall.Scheduled (timelineCapacity : ℕ) (call : SinkCall S) : Prop :=
  call.first = true → ∀ index action outcome, call.actions[index]? = some action →
    call.outcomes[index]? = some outcome → call.ActionScheduled timelineCapacity index action outcome

/-- The event of an action has another type or id than an accepted event. For the event of another
cue event's action this is said of what its id is made of. -/
def Origin.apartFrom (call : SinkCall S) (event : ShowEvent S) : Origin S → Bool
  | .client other => other.key ≠ event.key
  | .action parent index other =>
    parent.eventId = call.event.eventId || index ≠ call.outcomes.length ||
      other.type ≠ event.type || parent.eventId.toNat % 2 ^ 56 ≠ call.event.eventId.toNat % 2 ^ 56

namespace CueShow

variable [NeZero replayCapacity]
  {s t : CueShow S ingressCapacity timelineCapacity replayCapacity}

/-- The event of a valid action, the first time its cue event is handed over, can be told from the last
accepted events, and its time does not wrap around. -/
def keepsIdsApart (s : CueShow S ingressCapacity timelineCapacity replayCapacity) :
    CueShowAction S → Bool
  | .expand =>
    s.calling.all fun call =>
      (call.actions[call.outcomes.length]?).all fun action =>
        let event := call.derived call.outcomes.length action
        !call.first || !event.isValid ||
          (call.event.showTimeNs.toNat + action.offsetNs.toNat < 2 ^ 64 &&
            (s.origins.take replayCapacity).all (Origin.apartFrom call event))
  | _ => true

/-- The cue event of an action's event has been handed over before, or the sink is past this action. -/
def HandedOver (s : CueShow S ingressCapacity timelineCapacity replayCapacity) (parent : ShowEvent S)
    (index : ℕ) : Prop :=
  (∃ call ∈ s.calls, call.event.key = parent.key) ∨
    ∃ call, s.calling = some call ∧ call.event.key = parent.key ∧ index < call.outcomes.length

/-- What is known of the call of the sink that has not returned. -/
structure CallKept (s : CueShow S ingressCapacity timelineCapacity replayCapacity)
    (call : SinkCall S) : Prop where
  outcomes : call.outcomes.length ≤ call.actions.length
  actions : call.actions.length ≤ maxCueActions
  cue : call.actions ≠ [] → call.event.type = .cue
  first : call.first = true → ∀ other ∈ s.calls, other.event.key ≠ call.event.key
  scheduled : call.Scheduled timelineCapacity

structure Kept (s : CueShow S ingressCapacity timelineCapacity replayCapacity) : Prop where
  ingress : s.run.IngressKept
  timeline : s.run.TimelineKept
  bounded : s.graph.Bounded
  handed : withFate .handed s.run.log = (s.calling.toList ++ s.calls).map SinkCall.event
  accepted : acceptedKeys s.run.log = s.origins.map fun origin => origin.event.key
  parents : ∀ parent index event, .action parent index event ∈ s.origins →
    index < maxCueActions ∧ event.eventId = CueAction.derivedId parent.eventId index ∧
      parent.type = .cue ∧ s.HandedOver parent index
  calling : ∀ call, s.calling = some call → s.CallKept call
  complete : ∀ call ∈ s.calls, call.outcomes.length = call.actions.length
  scheduled : ∀ call ∈ s.calls, call.Scheduled timelineCapacity

lemma Kept.moved (h : s.Kept) {run : ShowEventRun S ingressCapacity timelineCapacity replayCapacity}
    (turn : ShowEventTurn S) (hturn : s.run.turn turn = some run)
    (hhanded : withFate .handed run.log = withFate .handed s.run.log)
    (haccepted : acceptedKeys run.log = acceptedKeys s.run.log) : Kept { s with run } := by
  obtain ⟨hingress, htimeline⟩ := ShowEventRun.kept_of_turn h.ingress h.timeline hturn
  exact ⟨hingress, htimeline, h.bounded, hhanded.trans h.handed, haccepted.trans h.accepted,
    h.parents, fun call hcall => ⟨(h.calling call hcall).outcomes, (h.calling call hcall).actions,
      (h.calling call hcall).cue, (h.calling call hcall).first, (h.calling call hcall).scheduled⟩,
    h.complete, h.scheduled⟩

/-! ## The turns -/

omit [NeZero replayCapacity] in
lemma fates_of_submit {run after : ShowEventRun S ingressCapacity timelineCapacity replayCapacity}
    {event : ShowEvent S} (h : run.submit event = some after) :
    withFate .handed after.log = withFate .handed run.log ∧
      acceptedKeys after.log = acceptedKeys run.log := by
  unfold ShowEventRun.submit at h
  split at h
  · cases h
    exact ⟨rfl, rfl⟩
  · cases h

omit [NeZero replayCapacity] in
lemma fates_of_advance {run after : ShowEventRun S ingressCapacity timelineCapacity replayCapacity}
    (h : run.advance = some after) :
    withFate .handed after.log = withFate .handed run.log ∧
      acceptedKeys after.log = acceptedKeys run.log := by
  unfold ShowEventRun.advance at h
  split at h
  · cases h
  · split at h <;> (obtain rfl := Option.some.inj h; exact ⟨rfl, rfl⟩)
  all_goals
    cases h
    exact ⟨rfl, rfl⟩

lemma accepted_judged {origin : Origin S}
    {out : ShowEventDispatcher S ingressCapacity timelineCapacity replayCapacity × ShowEventFate}
    {older : List (ShowEventNote S)} (h : s.Kept) (holder : withFate .accepted older = []) :
    acceptedKeys (s.judged origin out older).run.log =
      (s.judged origin out older).origins.map fun origin => origin.event.key := by
  have hlog : acceptedKeys (older ++ s.run.log) = acceptedKeys s.run.log := by
    rw [acceptedKeys, withFate, List.filter_append, List.map_append]
    rw [withFate] at holder
    rw [holder, List.nil_append]
    rfl
  simp only [judged, ShowEventRun.moved, List.cons_append]
  by_cases hfate : out.2 = .accepted
  · rw [if_pos hfate, List.map_cons, ← h.accepted, ← hlog, acceptedKeys, withFate_cons, if_pos hfate]
    rfl
  · rw [if_neg hfate, ← h.accepted, ← hlog, acceptedKeys, withFate_cons, if_neg hfate]
    rfl

variable (d : ShowEventDispatcher S ingressCapacity timelineCapacity replayCapacity)

lemma fate_accept
    (event : ShowEvent S) : (d.accept event).2 = .duplicate ∨ (d.accept event).2 = .timelineOverflow ∨
      (d.accept event).2 = .accepted := by
  unfold ShowEventDispatcher.accept
  split
  · exact .inl rfl
  · split
    · exact .inr (.inl rfl)
    · exact .inr (.inr rfl)

lemma fate_scheduleOwned
    (event : ShowEvent S) :
    (d.scheduleOwned event).2 = .invalid ∧ event.isValid = false ∨
      (d.scheduleOwned event).2 = .duplicate ∨ (d.scheduleOwned event).2 = .timelineOverflow ∨
      (d.scheduleOwned event).2 = .accepted := by
  unfold ShowEventDispatcher.scheduleOwned
  by_cases hinvalid : event.isValid = false
  · rw [if_pos hinvalid]
    exact .inl ⟨rfl, hinvalid⟩
  · rw [if_neg hinvalid]
    exact .inr (fate_accept _ event)

lemma Kept.take (h : s.Kept) (hstep : step s .take = some t) : t.Kept := by
  simp only [step] at hstep
  split at hstep
  · cases hstep
  · rename_i hidle
    obtain ⟨⟨event, ingress⟩, hpop, rfl⟩ := Option.map_eq_some_iff.mp hstep
    have hturn : s.run.turn .take = some (s.judged (.client event)
        ((s.run.dispatcher.popped ingress).accept event) []).run := by
      simp only [ShowEventRun.turn, hpop, Option.map_some]
      rfl
    obtain ⟨hingress, htimeline⟩ := ShowEventRun.kept_of_turn h.ingress h.timeline hturn
    refine ⟨hingress, htimeline, h.bounded, ?_, accepted_judged h rfl, ?_,
      fun call hcall => ⟨(h.calling call hcall).outcomes, (h.calling call hcall).actions,
        (h.calling call hcall).cue, (h.calling call hcall).first, (h.calling call hcall).scheduled⟩,
      h.complete, h.scheduled⟩
    · have hhanded : ((s.run.dispatcher.popped ingress).accept event).2 ≠ .handed := by
        rcases fate_accept (s.run.dispatcher.popped ingress) event with hfate | hfate | hfate <;>
          rw [hfate] <;> decide
      refine Eq.trans ?_ h.handed
      simp only [judged, ShowEventRun.moved, List.cons_append, List.nil_append]
      rw [withFate_cons, if_neg hhanded]
    · intro parent index derived hmem
      refine h.parents parent index derived ?_
      simp only [judged] at hmem
      split at hmem
      · rcases List.mem_cons.mp hmem with hnew | hold
        · cases hnew
        · exact hold
      · exact hmem

lemma Kept.hand (h : s.Kept) {showTimeNs : UInt64} (hstep : step s (.hand showTimeNs) = some t) :
    t.Kept := by
  simp only [step] at hstep
  split at hstep
  · cases hstep
  · rename_i hidle
    rw [Bool.not_eq_true, Option.isSome_eq_false_iff, Option.isNone_iff_eq_none] at hidle
    obtain ⟨⟨event, timeline⟩, hpop, rfl⟩ := Option.map_eq_some_iff.mp hstep
    have hturn : s.run.turn (.hand showTimeNs) = some (s.run.handed showTimeNs event timeline) := by
      simp only [ShowEventRun.turn, hpop, Option.map_some]
    obtain ⟨hingress, htimeline⟩ := ShowEventRun.kept_of_turn h.ingress h.timeline hturn
    have hhanded := h.handed
    rw [hidle, Option.toList_none, List.nil_append] at hhanded
    have hparents : ∀ parent index derived, .action parent index derived ∈ s.origins →
        index < maxCueActions ∧ derived.eventId = CueAction.derivedId parent.eventId index ∧
          parent.type = .cue ∧ ∃ call ∈ s.calls, call.event.key = parent.key := by
      intro parent index derived hmem
      obtain ⟨hindex, hid, htype, hbefore⟩ := h.parents parent index derived hmem
      refine ⟨hindex, hid, htype, ?_⟩
      rcases hbefore with hcalls | ⟨call, hcall, -⟩
      · exact hcalls
      · rw [hidle] at hcall
        cases hcall
    by_cases hdrop : (decide (showTimeNs > event.showTimeNs) && event.dropsIfLate) = true
    · simp only [ShowEventRun.handed, hdrop, if_true] at hingress htimeline ⊢
      refine ⟨hingress, htimeline, h.bounded, hhanded, h.accepted, ?_, ?_, h.complete, h.scheduled⟩
      · intro parent index derived hmem
        obtain ⟨hindex, hid, htype, hcalls⟩ := hparents parent index derived hmem
        exact ⟨hindex, hid, htype, .inl hcalls⟩
      · exact fun _ hcall => absurd hcall (Option.some_ne_none _).symm
    · rw [Bool.not_eq_true] at hdrop
      simp only [ShowEventRun.handed, hdrop, Bool.false_eq_true, if_false] at hingress htimeline ⊢
      refine ⟨hingress, htimeline, h.bounded, ?_, h.accepted, ?_, ?_, h.complete, h.scheduled⟩
      · simp only [Option.toList_some, List.singleton_append, List.map_cons, ← hhanded]
        rfl
      · intro parent index derived hmem
        obtain ⟨hindex, hid, htype, hcalls⟩ := hparents parent index derived hmem
        exact ⟨hindex, hid, htype, .inl hcalls⟩
      · intro call hcall
        cases hcall
        refine ⟨Nat.zero_le _, h.bounded.length_actionsOf event,
          CoreCueActionGraph.type_of_actionsOf, fun hfirst other hother => ?_,
          fun _ index action outcome _ houtcome => ?_⟩
        · exact of_decide_eq_true (List.all_eq_true.mp hfirst other hother)
        · exact absurd houtcome (by simp [sinkCall])

lemma Kept.key_ne (h : s.Kept) {call : SinkCall S} (hcall : s.calling = some call)
    {action : CueAction S} (haction : call.actions[call.outcomes.length]? = some action)
    (hfirst : call.first = true)
    (hapart : (s.origins.take replayCapacity).all
      (Origin.apartFrom call (call.derived call.outcomes.length action)) = true) :
    ∀ origin ∈ s.origins.take replayCapacity,
      origin.event.key ≠ (call.derived call.outcomes.length action).key := by
  intro origin hmem hkey
  have hdiffers := List.all_eq_true.mp hapart origin hmem
  have hlt : call.outcomes.length < call.actions.length :=
    (List.getElem?_eq_some_iff.mp haction).choose
  have hcalling := h.calling call hcall
  have hplace : call.outcomes.length < maxCueActions := lt_of_lt_of_le hlt hcalling.actions
  cases origin with
  | client other => exact of_decide_eq_true hdiffers hkey
  | action parent index other =>
    obtain ⟨hindex, hid, htype, hbefore⟩ := h.parents parent index other (List.mem_of_mem_take hmem)
    have hcue : call.event.type = .cue :=
      hcalling.cue (List.ne_nil_of_length_pos (Nat.lt_of_le_of_lt (Nat.zero_le _) hlt))
    simp only [Origin.event, ShowEvent.key, ReplayKey.mk.injEq] at hkey
    have hsame : CueAction.derivedId parent.eventId index =
        CueAction.derivedId call.event.eventId call.outcomes.length := hid ▸ hkey.2
    rw [CueAction.derivedId_eq_iff hindex hplace] at hsame
    simp only [Origin.apartFrom, Bool.or_eq_true, decide_eq_true_eq] at hdiffers
    rcases hdiffers with ((hparent | hother) | hkind) | hlow
    · -- the parent is the event itself, which is handed over for the first time
      have hparents : parent.key = call.event.key := by
        rw [ShowEvent.key, ShowEvent.key, htype, hcue, hparent]
      rcases hbefore with ⟨earlier, hearlier, hearly⟩ | ⟨current, hcurrent, -, hpast⟩
      · exact hcalling.first hfirst earlier hearlier (hearly.trans hparents)
      · rw [hcall, Option.some.injEq] at hcurrent
        subst hcurrent
        omega
    · exact hother hsame.1
    · exact hkind hkey.1
    · exact hlow hsame.2

/-- **An action is scheduled**, if its event can be told from the last accepted ones. -/
lemma Kept.scheduleAction (h : s.Kept) {call : SinkCall S} (hcall : s.calling = some call)
    {action : CueAction S} (haction : call.actions[call.outcomes.length]? = some action)
    (hapart : keepsIdsApart s .expand = true) (hfirst : call.first = true) :
    call.ActionScheduled timelineCapacity call.outcomes.length action
      ⟨(s.run.dispatcher.scheduleOwned (call.derived call.outcomes.length action)).2,
        s.run.dispatcher.timeline.size⟩ := by
  intro hvalid
  simp only [keepsIdsApart, hcall, Option.all_some, haction, hfirst, hvalid, Bool.not_true,
    Bool.false_or, Bool.and_eq_true, decide_eq_true_eq] at hapart
  obtain ⟨htime, hkeys⟩ := hapart
  have hne := h.key_ne hcall haction hfirst hkeys
  have hjudged := (h.timeline.scheduleOwned (call.derived call.outcomes.length action)).judged [] _ _ rfl
  refine ⟨?_, ?_⟩
  · rw [SinkCall.derived, CueAction.derive, UInt64.toNat_add, Nat.mod_eq_of_lt htime]
  · rcases fate_scheduleOwned s.run.dispatcher (call.derived call.outcomes.length action) with
      ⟨-, hinvalid⟩ | hfate | hfate | hfate
    · exact absurd (hinvalid.symm.trans hvalid) Bool.false_ne_true
    · simp only [Judgement, hfate] at hjudged
      have hseen : (call.derived call.outcomes.length action).key ∈
          (s.origins.map fun origin => origin.event.key).take replayCapacity := by
        rw [← h.accepted]
        exact hjudged
      rw [← List.map_take] at hseen
      obtain ⟨origin, hmem, hkey⟩ := List.mem_map.mp hseen
      exact absurd hkey (hne origin hmem)
    · simp only [Judgement, hfate] at hjudged
      have hfull : timelineCapacity ≤ (pendingKeys s.run.log).length := hjudged
      rw [h.timeline.length_pending, ShowTimeline.length_contents] at hfull
      exact .inr ⟨hfate, hfull⟩
    · exact .inl hfate

lemma Kept.expand (h : s.Kept) (hapart : keepsIdsApart s .expand = true)
    (hstep : step s .expand = some t) : t.Kept := by
  obtain ⟨call, hcall, hstep⟩ := Option.bind_eq_some_iff.mp hstep
  obtain ⟨action, haction, hstep⟩ := Option.bind_eq_some_iff.mp hstep
  cases hstep
  have hcalling := h.calling call hcall
  have hlt : call.outcomes.length < call.actions.length :=
    (List.getElem?_eq_some_iff.mp haction).choose
  have hturn : s.run.turn (.owned (call.derived call.outcomes.length action)) =
      some (s.scheduleAction call action).run := rfl
  obtain ⟨hingress, htimeline⟩ := ShowEventRun.kept_of_turn h.ingress h.timeline hturn
  have hscheduled := h.scheduleAction hcall haction hapart
  refine ⟨hingress, htimeline, h.bounded, ?_, accepted_judged h rfl, ?_, ?_, h.complete, h.scheduled⟩
  · have hhanded : (s.run.dispatcher.scheduleOwned
        (call.derived call.outcomes.length action)).2 ≠ .handed := by
      rcases fate_scheduleOwned s.run.dispatcher (call.derived call.outcomes.length action) with
        ⟨hfate, -⟩ | hfate | hfate | hfate <;> rw [hfate] <;> decide
    have hbefore := h.handed
    rw [hcall] at hbefore
    refine Eq.trans ?_ hbefore
    simp only [CueShow.scheduleAction, judged, ShowEventRun.moved, List.cons_append, List.nil_append]
    rw [withFate_cons, if_neg hhanded]
    rfl
  · intro parent index event hmem
    simp only [CueShow.scheduleAction, judged] at hmem
    have hcases : Origin.action parent index event = .action call.event call.outcomes.length
        (call.derived call.outcomes.length action) ∨ .action parent index event ∈ s.origins := by
      split at hmem
      · exact List.mem_cons.mp hmem
      · exact .inr hmem
    have hpast : ∀ outcome : CueOutcome,
        (call.outcomes ++ [outcome]).length = call.outcomes.length + 1 := fun outcome => by
      rw [List.length_append, List.length_singleton]
    rcases hcases with hnew | hold
    · rw [Origin.action.injEq] at hnew
      obtain ⟨rfl, rfl, rfl⟩ := hnew
      refine ⟨lt_of_lt_of_le hlt hcalling.actions, rfl,
        hcalling.cue (List.ne_nil_of_length_pos (Nat.lt_of_le_of_lt (Nat.zero_le _) hlt)),
        .inr ⟨_, rfl, rfl, ?_⟩⟩
      simp only [hpast]
      exact Nat.lt_succ_self _
    · obtain ⟨hindex, hid, htype, hbefore⟩ := h.parents parent index event hold
      refine ⟨hindex, hid, htype, ?_⟩
      rcases hbefore with hcalls | ⟨current, hcurrent, hkey, hlow⟩
      · exact .inl hcalls
      · rw [hcall, Option.some.injEq] at hcurrent
        subst hcurrent
        refine .inr ⟨_, rfl, hkey, ?_⟩
        simp only [hpast]
        exact Nat.lt_succ_of_lt hlow
  · intro after hafter
    cases hafter
    refine ⟨?_, hcalling.actions, hcalling.cue, hcalling.first, ?_⟩
    · simp only [List.length_append, List.length_singleton]
      exact hlt
    · intro hfirst index other outcome hother houtcome
      rw [List.getElem?_append] at houtcome
      split at houtcome
      · exact hcalling.scheduled hfirst index other outcome hother houtcome
      · rename_i hpast
        obtain ⟨hplace, rfl⟩ := List.getElem?_eq_some_iff.mp houtcome
        have hsame : index = call.outcomes.length := by
          rw [List.length_singleton] at hplace
          omega
        subst hsame
        rw [haction, Option.some.injEq] at hother
        subst hother
        simp only [Nat.sub_self, List.getElem_cons_zero]
        exact hscheduled hfirst

omit [NeZero replayCapacity] in
lemma fate_settle
    (ok : Bool) : (d.settle ok).2 = .dispatched ∨ (d.settle ok).2 = .dispatchFailure := by
  cases ok
  · exact .inr rfl
  · exact .inl rfl

lemma Kept.settle (h : s.Kept) {ok : Bool} (hstep : step s (.settle ok) = some t) : t.Kept := by
  obtain ⟨call, hcall, hstep⟩ := Option.bind_eq_some_iff.mp hstep
  split at hstep
  · rename_i hfull
    cases hstep
    have hturn : s.run.turn (.settle call.event ok) = some (s.run.moved (s.run.dispatcher.settle ok).1
        [⟨(s.run.dispatcher.settle ok).2, call.event⟩]) := rfl
    obtain ⟨hingress, htimeline⟩ := ShowEventRun.kept_of_turn h.ingress h.timeline hturn
    have hsame : s.calling.toList ++ s.calls = call :: s.calls := by
      rw [hcall]
      rfl
    have hfate : ∀ fate, fate = .handed ∨ fate = .accepted → (s.run.dispatcher.settle ok).2 ≠ fate := by
      rintro fate (rfl | rfl) <;> rcases fate_settle s.run.dispatcher ok with hfate | hfate <;>
        rw [hfate] <;> decide
    refine ⟨hingress, htimeline, h.bounded, ?_, ?_, ?_, ?_, ?_, ?_⟩
    · have hbefore := h.handed
      rw [hsame] at hbefore
      refine Eq.trans ?_ hbefore
      simp only [ShowEventRun.moved, List.singleton_append]
      rw [withFate_cons, if_neg (hfate _ (.inl rfl))]
    · refine Eq.trans ?_ h.accepted
      simp only [ShowEventRun.moved, List.singleton_append, acceptedKeys]
      rw [withFate_cons, if_neg (hfate _ (.inr rfl))]
    · intro parent index event hmem
      obtain ⟨hindex, hid, htype, hbefore⟩ := h.parents parent index event hmem
      refine ⟨hindex, hid, htype, .inl ?_⟩
      rcases hbefore with ⟨earlier, hearlier, hkey⟩ | ⟨current, hcurrent, hkey, -⟩
      · exact ⟨earlier, List.mem_cons_of_mem _ hearlier, hkey⟩
      · rw [hcall, Option.some.injEq] at hcurrent
        exact ⟨current, hcurrent ▸ List.mem_cons_self, hkey⟩
    · exact fun _ hnone => absurd hnone (Option.some_ne_none _).symm
    · intro other hother
      rcases List.mem_cons.mp hother with rfl | hold
      · exact hfull
      · exact h.complete other hold
    · intro other hother
      rcases List.mem_cons.mp hother with rfl | hold
      · exact (h.calling other hcall).scheduled
      · exact h.scheduled other hold
  · cases hstep

lemma Kept.withdraw (h : s.Kept) {key : ReplayKey} (hstep : step s (.withdraw key) = some t) :
    t.Kept := by
  simp only [step] at hstep
  split at hstep
  · cases hstep
  · cases hstep
    have hfates : withFate .handed (s.run.dispatcher.withdraw key).2 = [] ∧
        withFate .accepted (s.run.dispatcher.withdraw key).2 = [] := by
      unfold ShowEventDispatcher.withdraw
      split <;> exact ⟨rfl, rfl⟩
    refine h.moved (.withdraw key) rfl ?_ ?_
    · simp only [ShowEventRun.moved, withFate, List.filter_append, List.map_append] at hfates ⊢
      rw [hfates.1, List.nil_append]
    · simp only [ShowEventRun.moved, acceptedKeys, withFate, List.filter_append,
        List.map_append] at hfates ⊢
      rw [hfates.2, List.map_nil, List.nil_append]

lemma Kept.of_step (h : s.Kept) {action : CueShowAction S} (hapart : keepsIdsApart s action = true)
    (hstep : step s action = some t) : t.Kept := by
  cases action with
  | define cueId actions =>
    simp only [step] at hstep
    split at hstep
    · cases hstep
    · cases hstep
      have hbounded : ((s.graph.define cueId actions).getD s.graph).Bounded := by
        cases hdefine : s.graph.define cueId actions with
        | none => exact h.bounded
        | some after => exact h.bounded.define hdefine
      exact ⟨h.ingress, h.timeline, hbounded, h.handed, h.accepted, h.parents,
        fun call hcall => ⟨(h.calling call hcall).outcomes, (h.calling call hcall).actions,
          (h.calling call hcall).cue, (h.calling call hcall).first,
          (h.calling call hcall).scheduled⟩, h.complete, h.scheduled⟩
  | submit event =>
    obtain ⟨run, hsubmit, rfl⟩ := Option.map_eq_some_iff.mp hstep
    obtain ⟨hhanded, haccepted⟩ := fates_of_submit hsubmit
    exact h.moved (.submit event) hsubmit hhanded haccepted
  | advance =>
    obtain ⟨run, hadvance, rfl⟩ := Option.map_eq_some_iff.mp hstep
    obtain ⟨hhanded, haccepted⟩ := fates_of_advance hadvance
    exact h.moved .advance hadvance hhanded haccepted
  | take => exact h.take hstep
  | hand showTimeNs => exact h.hand hstep
  | expand => exact h.expand hapart hstep
  | settle ok => exact h.settle hstep
  | withdraw key => exact h.withdraw hstep
  | publish =>
    cases hstep
    exact h.moved .publish rfl rfl rfl

lemma kept_start (hcapacity : 0 < ingressCapacity) (maxCues : ℕ) :
    (start maxCues : CueShow S ingressCapacity timelineCapacity replayCapacity).Kept := by
  obtain ⟨hingress, htimeline⟩ :
      (ShowEventRun.start : ShowEventRun S ingressCapacity timelineCapacity
        replayCapacity).IngressKept ∧ ShowEventRun.TimelineKept .start :=
    ShowEventRun.kept_start hcapacity
  exact ⟨hingress, htimeline, CoreCueActionGraph.bounded_empty maxCues, rfl, rfl,
    fun _ _ _ hnone => absurd hnone List.not_mem_nil,
    fun _ hnone => absurd hnone (Option.some_ne_none _).symm,
    fun _ hnone => absurd hnone List.not_mem_nil, fun _ hnone => absurd hnone List.not_mem_nil⟩

/-- **Every cue action is scheduled.** In runs that keep the ids apart, every event handed to the sink
has a call of the sink, which deals with each action once; and the first time a cue event is handed over,
each of its valid actions is scheduled at the cue's time and its offset, unless the timeline is full. -/
theorem cue_actions_are_scheduled (hcapacity : 2 ≤ ingressCapacity) {maxCues : ℕ}
    {actions : List (CueShowAction S)}
    (h : Reaches step (fun s action => keepsIdsApart s action = true) (start maxCues) actions s) :
    withFate .handed s.run.log = (s.calling.toList ++ s.calls).map SinkCall.event ∧
      (∀ call ∈ s.calls, call.outcomes.length = call.actions.length) ∧
      ∀ call ∈ s.calling.toList ++ s.calls, call.Scheduled timelineCapacity := by
  have hkept := h.invariant (kept_start (by omega) maxCues)
    fun _ _ _ ht hapart hstep => ht.of_step hapart hstep
  refine ⟨hkept.handed, hkept.complete, fun call hcall => ?_⟩
  rcases List.mem_append.mp hcall with hcurrent | hreturned
  · exact (hkept.calling call (Option.mem_toList.mp hcurrent)).scheduled
  · exact hkept.scheduled call hreturned

/-! ## A run in which an action is taken for another event -/

def fade : CueAction .rationals where
  priority := .forShow
  offsetNs := 10
  ownerId := 0
  payload := .automation 100 200 (1 / 2 : ℚ) 250

def clientFade (id : UInt64) : ShowEvent .rationals := { ShowEvent.blank .rationals with
    eventId := id
    showTimeNs := 2000
    payload := .automation 100 200 (1 : ℚ) 0 }

def cueEvent (id : UInt64) : ShowEvent .rationals := { ShowEvent.blank .rationals with
    eventId := id
    showTimeNs := 1000
    payload := .cue 9 }

def submitted (event : ShowEvent .rationals) : List (CueShowAction .rationals) :=
  [.submit event, .advance, .advance, .advance, .advance, .advance, .take]

/-- A cue of one action, and an event that a producer has submitted before. -/
def fadeRun (id : UInt64) : List (CueShowAction .rationals) :=
  .define 9 [fade] :: submitted (clientFade id) ++ submitted (cueEvent 1) ++
    [.hand 1000, .expand, .settle true]

theorem cue_actions_are_scheduled_fade : ∃ s : CueShow .rationals 4 4 4,
      Reaches step (fun s action => keepsIdsApart s action = true) (start 2) (fadeRun 700) s ∧
        withFate .handed s.run.log = (s.calling.toList ++ s.calls).map SinkCall.event ∧
        (∀ call ∈ s.calls, call.outcomes.length = call.actions.length) ∧
        ∀ call ∈ s.calling.toList ++ s.calls, call.Scheduled 4 := by
  have hrun : (TransitionSystem.run (fun (s : CueShow .rationals 4 4 4) action =>
      if keepsIdsApart s action = true then step s action else none) (start 2)
      (fadeRun 700)).isSome = true := by
    decide +kernel
  obtain ⟨s, hs⟩ := Option.isSome_iff_exists.mp hrun
  exact ⟨s, reaches_of_run hs, cue_actions_are_scheduled (by decide) (reaches_of_run hs)⟩

/-- **An action is taken for a producer's event.** The event of id 257 is the first action of the cue
event of id 1, so the action is suppressed as its duplicate. -/
theorem cue_action_suppressed :
    ∃ s : CueShow .rationals 4 4 4, Reaches step Always (start 2) (fadeRun 257) s ∧
      s.calls.any (fun call => decide (call.event.key = ⟨.cue, 1⟩) && call.first &&
        (call.derived 0 fade).isValid &&
        decide (call.actions.length = 1 ∧ call.outcomes = [⟨.duplicate, 1⟩])) = true := by
  have hrun : (TransitionSystem.run step (start 2 : CueShow .rationals 4 4 4) (fadeRun 257)).any (fun s =>
      s.calls.any (fun call => decide (call.event.key = ⟨.cue, 1⟩) && call.first &&
        (call.derived 0 fade).isValid &&
        decide (call.actions.length = 1 ∧ call.outcomes = [⟨.duplicate, 1⟩])) = true) = true := by
    decide +kernel
  exact reaches_always_of_any hrun

end CueShow

end StageForge
