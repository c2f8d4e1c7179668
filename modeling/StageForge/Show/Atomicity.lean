import StageForge.Show.Runs

/-!
# Failed calls and what they leave behind

A mutator validates and assigns one field after the other on the live state, so a call that raises
may leave the fields behind that it had assigned before.
-/

namespace StageForge

open Python Script TransitionSystem

/-- The call leaves the live state as it was if it raises. -/
def Atomic (result : ShowState × Except Failure Entries) (s : ShowState) : Prop :=
  (∃ failure, result.2 = .error failure) → result.1.toLive = s.toLive

lemma atomic_answer_iff {s t : ShowState} {detail : Detail} {now : ℚ} :
    Atomic (t.answer detail now) s ↔ (t.notationRegistry.Readable ∨ t.toLive = s.toLive) := by
  unfold Atomic
  rw [ShowState.answer_error_iff, ShowState.answer_fst]
  tauto

/-! ## Mutators -/

namespace Call

variable (call : Call)

/-- The script is rejected after it has changed something. -/
def RejectsLate (c : Content) : Prop :=
  Script.RejectsLate Draft.value (call.items c) { value := call.focus.get c, changes := [] }

/-- The script is accepted and changes something, and then no snapshot can be made. -/
def EndsUnreadable (c : Content) : Prop := (call.outcome c).2 = .ok () ∧
    (call.touched c ≠ [] ∨ (call.outcome c).1.value ≠ call.focus.get c) ∧
    ¬ (call.after c).notationRegistry.Readable

/-- The revision is the expected one, and the call fails late. -/
def FailsLate (expected expectedResource : Option Int) (s : Live) : Prop :=
  s.checkRevision expected expectedResource call.key = .ok () ∧
    (call.RejectsLate s.toContent ∨ call.EndsUnreadable s.toContent)

/-- What the notice of an accepted call needs can be shown if the snapshot can. -/
def NoticeShown : Prop :=
  ∀ (c : Content) (e : Error), (call.outcome c).2 = .ok () → call.touched c ≠ [] →
    call.notice (call.outcome c).1 (call.after c) = .error e →
    ¬ (call.after c).notationRegistry.Readable

variable {call} {clocks : Clocks} {expected expectedResource : Option Int} {s : ShowState}
  {t : Live} {c : Content}

lemma written_eq_iff :
    call.written t = t ↔ (call.outcome t.toContent).1.value = call.focus.get t.toContent := by
  unfold written after
  constructor
  · intro h
    have hcontent := congrArg (fun u : Live => call.focus.get u.toContent) h
    simpa only [call.focus.get_set] using hcontent
  · intro h
    rw [h, call.focus.set_get]

lemma touch_ne {keys : List ResourceKey} : (call.written t).touch keys ≠ t := by
  intro h
  have hrevision := congrArg Live.revision h
  simp only [Live.touch, written] at hrevision
  omega

lemma record_touch_ne {keys : List ResourceKey} {notice : Live.Notice} :
    ((call.written t).touch keys).record clocks notice ≠ t := by
  intro h
  have hrevision := congrArg Live.revision h
  simp only [Live.record, Live.touch, written] at hrevision
  omega

lemma rejectsLate_iff {e : Error} (hout : (call.outcome c).2 = .error e) :
    call.RejectsLate c ↔ (call.outcome c).1.value ≠ call.focus.get c := by
  have hatomic : ¬ call.RejectsLate c ↔ ∀ e, (call.outcome c).2 = .error e →
      (call.outcome c).1.value = call.focus.get c := atomic_iff.symm
  rw [← not_iff_not, hatomic]
  constructor
  · intro h hne
    exact hne (h e hout)
  · intro h _ _
    exact not_not.mp h

lemma not_rejectsLate_of_ok (hout : (call.outcome c).2 = .ok ()) : ¬ call.RejectsLate c := by
  refine atomic_iff.mp fun e he => ?_
  have herror : (call.outcome c).2 = .error e := he
  rw [hout] at herror
  cases herror

/-- **Atomic, or late.** -/
theorem perform_atomic_iff (hnotice : call.NoticeShown) :
    Atomic (call.perform clocks expected expectedResource s) s ↔
      ¬ call.FailsLate expected expectedResource s.toLive := by
  unfold FailsLate
  cases hcheck : s.checkRevision expected expectedResource call.key with
  | error failure => simp [perform_of_conflict hcheck, Atomic]
  | ok _ =>
    cases hout : (call.outcome s.toContent).2 with
    | error e =>
      have hends : ¬ call.EndsUnreadable s.toContent := by simp [EndsUnreadable, hout]
      rw [perform_of_rejected hcheck hout, rejectsLate_iff hout, ne_eq, ← written_eq_iff]
      simp [Atomic, hends]
    | ok _ =>
      have hreject := not_rejectsLate_of_ok hout
      by_cases htouched : call.touched s.toContent = []
      · rw [perform_of_idle hcheck hout htouched, atomic_answer_iff, written_eq_iff]
        simp only [EndsUnreadable, hreject, hout, htouched, false_or, true_and, ne_eq]
        tauto
      · have hends : call.EndsUnreadable s.toContent ↔
            ¬ (call.written s.toLive).notationRegistry.Readable := by
          simp [EndsUnreadable, hout, htouched, written]
        cases hresult : call.notice (call.outcome s.toContent).1
            (call.written s.toLive).toContent with
        | error e =>
          have hunreadable := hnotice s.toContent e hout htouched hresult
          rw [perform_of_unnoticed hcheck hout htouched hresult]
          have hlate := hends.mpr hunreadable
          simp [Atomic, hlate, touch_ne]
        | ok notice =>
          rw [perform_of_noticed hcheck hout htouched hresult, atomic_answer_iff]
          simp only [hends, hreject, record_touch_ne, or_false, false_or, true_and, not_not]
          exact Iff.rfl

lemma noticeShown_of_ok (h : ∀ d c, ∃ notice, call.notice d c = .ok notice) : call.NoticeShown := by
  intro c e _ _ herror
  obtain ⟨notice, hnotice⟩ := h (call.outcome c).1 (call.after c)
  rw [hnotice] at herror
  cases herror

end Call

variable (P : Platform)

lemma settingsNotice_ok {c : Content} (h : c.notationRegistry.Readable) (playerId : String) :
    ∃ notice, settingsNotice playerId c = .ok notice := by
  obtain ⟨shown, hshown⟩ : ∃ shown, (c.notationRegistry.part playerId).snapshot c.song.key true
      none = .ok shown := NotationPart.snapshot_ok_iff.mpr (h.part playerId)
  unfold settingsNotice
  rw [hshown]
  exact ⟨_, rfl⟩

lemma patchNotationSettings_noticeShown (playerId : String) (data : Entries) :
    (patchNotationSettings P playerId data).NoticeShown := by
  intro c e _ _ herror hreadable
  obtain ⟨notice, hnotice⟩ := settingsNotice_ok hreadable playerId
  have hresult : Except.error e = .ok notice := herror.symm.trans hnotice
  cases hresult

lemma noteItem_changes {c : Content} {clocks : Clocks} {playerId : String} {data : Entries}
    {d d' : Draft NotationRegistry} {e : Error} (hdata : noteData P.toConversions data = .error e)
    (h : noteItem P c clocks playerId data d = .ok d') : d'.changes = d.changes := by
  obtain ⟨_, _, h⟩ := bind_eq_ok.mp h
  split_ifs at h with henabled
  · rw [hdata] at h
    exact absurd h (by simp [bind, Except.bind])
  · obtain rfl : d = d' := by simpa [pure, Except.pure] using h
    rfl

lemma notationNote_noticeShown (clocks : Clocks) (playerId : String) (data : Entries) :
    (notationNote P clocks playerId data).NoticeShown := by
  intro c e hout htouched herror
  exfalso
  cases hdata : noteData P.toConversions data with
  | ok note =>
    have hnotice : noteNotice P playerId data
        ((notationNote P clocks playerId data).after c) = .error e := herror
    unfold noteNotice at hnotice
    rw [hdata] at hnotice
    exact absurd hnotice (by simp [bind, Except.bind, pure, Except.pure])
  | error e =>
    have hchanges : ((notationNote P clocks playerId data).outcome c).1.changes = [] := by
      refine run_invariant (I := fun d : Draft NotationRegistry => d.changes = []) ?_ rfl
      intro item hitem d d' hd hok
      have hitems : item ∈ [playerItem c playerId, ensureItem playerId,
        noteItem P c clocks playerId data] := hitem
      simp only [List.mem_cons, List.not_mem_nil, or_false] at hitems
      rcases hitems with rfl | rfl | rfl
      · unfold playerItem at hok
        split_ifs at hok
        obtain rfl : d = d' := by simpa using hok
        exact hd
      · obtain rfl : _ = d' := by simpa [ensureItem] using hok
        exact hd
      · exact (noteItem_changes P hdata hok).trans hd
    exact htouched (if_pos hchanges)

lemma Mutator.noticeShown (clocks : Clocks) (m : Mutator) : (m.call P clocks).NoticeShown := by
  cases m with
  | patchNotationSettings playerId data => exact patchNotationSettings_noticeShown P playerId data
  | notationNote playerId data => exact notationNote_noticeShown P clocks playerId data
  | _ => exact Call.noticeShown_of_ok fun _ _ => ⟨_, rfl⟩

/-! ## Replica documents -/

/-- A restore is rejected after it has changed something, or it is accepted and changes something,
and then no snapshot can be made. -/
def RestoreFailsLate (items : List (Item Error Live)) (s : Live) : Prop :=
  Script.RejectsLate id items s ∨ ((Script.run items s).2 = .ok () ∧ (Script.run items s).1 ≠ s ∧
      ¬ (Script.run items s).1.notationRegistry.Readable)

/-- The document is taken, and its restore fails late. -/
def ReplicaFailsLate (clocks : Clocks) (snapshot : Value) (s : ShowState) : Prop :=
  match ShowState.replicaDocument P snapshot with
  | .error _ => False
  | .ok (doc, _, incoming) =>
    s.revision ≤ incoming ∧ RestoreFailsLate (restoreItems P doc false clocks.now) s.toLive

/-- **A replica document is taken as a whole, or fails late.** -/
theorem applyReplica_atomic_iff {clocks : Clocks} {snapshot : Value} {s : ShowState} :
    Atomic (s.applyReplicaSnapshot P clocks snapshot) s ↔
      ¬ ReplicaFailsLate P clocks snapshot s := by
  unfold ShowState.applyReplicaSnapshot ReplicaFailsLate
  cases ShowState.replicaDocument P snapshot with
  | error e => simp [Atomic]
  | ok taken =>
    obtain ⟨doc, report, incoming⟩ := taken
    by_cases hrevision : incoming < s.revision
    · simp [Atomic, hrevision]
    · have hatomic : _ ↔ ¬ RejectsLate id (restoreItems P doc false clocks.now) s.toLive :=
        atomic_iff
      simp only [hrevision, if_false, not_lt.mp hrevision, true_and, RestoreFailsLate, not_or,
        ← hatomic]
      cases (Script.run (restoreItems P doc false clocks.now) s.toLive).2 with
      | error e => simp [Atomic]
      | ok _ =>
        rw [atomic_answer_iff]
        simp only [reduceCtorEq, false_imp_iff, implies_true, true_and]
        tauto

/-! ## All calls -/

/-- The call is rejected late, or changes something and then cannot return. -/
def ShowAction.FailsLate (clocks : Clocks) (s : ShowState) : ShowAction → Prop
  | .edit m expected expectedResource =>
    (m.call P clocks).FailsLate expected expectedResource s.toLive
  | .applyReplica snapshot => ReplicaFailsLate P clocks snapshot s
  | .externalEvent .. => False

def explodingPatch : ShowAction :=
  .edit (.patchSystem [("capacity", .int 10), ("mode", .str "explode")]) none none

end StageForge
