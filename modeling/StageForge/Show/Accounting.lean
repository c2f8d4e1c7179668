import StageForge.Show.PerformanceItems

/-!
# Which calls account for what they do

Each mutator is about its own resource (`Call.Framed`; `ingest_midi` is about two), and it touches the
resource if it changes it, apart from `patch_audio`, which sets the single fields from slot 0 without
a report.
-/

namespace StageForge

open Python Script

variable {P : Platform}

/-! ## Calls that report what they change -/

lemma mem_touchIfChanged {α : Type} {key k : ResourceKey} {d : Draft α} :
    k ∈ touchIfChanged key d ↔ k = key ∧ d.changes ≠ [] := by
  unfold touchIfChanged
  split_ifs with h
  · simp [h]
  · simp [h]

namespace Call

variable {call : Call} {c : Content}

lemma value_of_unreported (hreports : ∀ item ∈ call.items c, ReportsChanges item)
    (hnone : (call.outcome c).1.changes = []) : (call.outcome c).1.value = call.focus.get c :=
  value_of_changes_nil hreports hnone

/-- A call that ends as it began has reported nothing, if its items compare and it sets nothing
back. -/
lemma changes_of_compares (hcompares : ∀ item ∈ call.items c, Compares item)
    (hback : ¬ SetsBack Draft.value (call.items c)
      { value := call.focus.get c, changes := [] : Draft call.State })
    (haccept : (call.outcome c).2 = .ok ())
    (hsame : (call.outcome c).1.value = call.focus.get c) : (call.outcome c).1.changes = [] := by
  by_contra hne
  exact hback (setsBack_of_logged hcompares haccept hsame hne)

lemma changes_of_persistent (hpersistent : Persistent Draft.value (call.items c))
    (haccept : (call.outcome c).2 = .ok ())
    (hsame : (call.outcome c).1.value = call.focus.get c) : (call.outcome c).1.changes = [] :=
  congrArg Draft.changes (hpersistent _ haccept hsame)

end Call

/-! ## Mutators -/

variable (P) in
/-- The mutator touches what it changes, and nothing else. -/
def Mutator.Accountable (clocks : Clocks) (c : Content) : Mutator → Prop
  | .transport action => c.transport.MovedBy clocks.now (strip (lower action))
  | .patchShow data => c.song.MovedBy P data
  | .patchSystem data => c.system.MovedBy P data
  | .patchTechnology data =>
    ¬ SetsBack Draft.value ((StageForge.patchTechnology P data).items c)
      { value := c.technology, changes := [] }
  | .patchAudio data =>
    c.audio.InSyncFor data ∧ ¬ SetsBack Draft.value ((StageForge.patchAudio P data).items c)
        { value := c.audio, changes := [] }
  | .patchMonitor playerId data =>
    ∀ player, c.players.find? playerId = some player → player.monitor.MovedBy P.toConversions data
  | .patchNotationSettings playerId data =>
    (c.notationRegistry.part playerId).settings.MovedBy P.toConversions data
  | .clearNotation playerId =>
    (c.notationRegistry.part playerId).clear ≠ c.notationRegistry.part playerId
  | .patchHandoff _ | .patchLightingNetwork _ | .bindMidiDevice .. | .unbindMidiDevice _
  | .notationNote .. | .ingestMidi .. => True

namespace Call

variable {call : Call} {c : Content}

lemma honest_of_touchIfChanged (htouches : ∀ d, call.touches d = touchIfChanged call.key d)
    (hothers : ∀ key ≠ call.key, SameResource c (call.after c) key)
    (hresource : SameResource c (call.after c) call.key ↔ (call.outcome c).1.changes = []) :
    call.Honest c := by
  have hframed : call.Framed c :=
    { touched := fun key hkey => by
        rw [touched, htouches, mem_touchIfChanged] at hkey
        exact hkey.1
      same := hothers }
  refine hframed.honest_iff.mpr ⟨?_, ?_⟩
  · rintro ⟨hkey, hsame⟩
    rw [touched, htouches, mem_touchIfChanged] at hkey
    exact hkey.2 (hresource.mp hsame)
  · rintro ⟨hkey, hchanged⟩
    rw [touched, htouches, mem_touchIfChanged] at hkey
    exact hkey ⟨rfl, fun hnone => hchanged (hresource.mpr hnone)⟩

lemma honest_of_part (htouches : ∀ d, call.touches d = touchIfChanged call.key d)
    (hothers : ∀ v, ∀ key ≠ call.key, SameResource c (call.focus.set v c) key)
    (hresource : ∀ v, SameResource c (call.focus.set v c) call.key ↔ v = call.focus.get c)
    (hreports : (call.outcome c).1.changes = [] → (call.outcome c).1.value = call.focus.get c)
    (hmoves : (call.outcome c).1.value = call.focus.get c → (call.outcome c).1.changes = []) :
    call.Honest c :=
  honest_of_touchIfChanged htouches (hothers _) ((hresource _).trans ⟨hmoves, hreports⟩)

lemma honest_of_always (htouches : ∀ d, call.touches d = [call.key])
    (hothers : ∀ key ≠ call.key, SameResource c (call.after c) key)
    (hmoves : ¬ SameResource c (call.after c) call.key) : call.Honest c := by
  have hframed : call.Framed c :=
    { touched := fun key hkey => by
        rw [touched, htouches] at hkey
        exact List.mem_singleton.mp hkey
      same := hothers }
  refine hframed.honest_iff.mpr ⟨fun hredundant => hmoves hredundant.2, fun hunreported => ?_⟩
  apply hunreported.1
  rw [touched, htouches]
  exact List.mem_singleton_self _

end Call

section

variable {clocks : Clocks} {c : Content}

open Call

variable {data : Entries}

lemma patchHandoff_honest
    (haccept : ((patchHandoff P data).outcome c).2 = .ok ()) : (patchHandoff P data).Honest c := by
  refine honest_of_part (fun _ => rfl) (fun v key h => sameResource_handoff v h)
    (fun _ => Iff.rfl) (value_of_unreported reports_handoff)
    (changes_of_persistent persistent_handoff haccept)

lemma patchLightingNetwork_honest
    (haccept : ((patchLightingNetwork P data).outcome c).2 = .ok ()) :
    (patchLightingNetwork P data).Honest c := by
  refine honest_of_part (fun _ => rfl) (fun v key h => sameResource_lighting v h)
    (fun _ => Iff.rfl) (value_of_unreported reports_lighting)
    (changes_of_persistent persistent_lighting haccept)

lemma bindMidiDevice_honest {deviceId playerId : String}
    (haccept : ((bindMidiDevice deviceId playerId).outcome c).2 = .ok ()) :
    (bindMidiDevice deviceId playerId).Honest c := by
  have hreports : ∀ item ∈ (bindMidiDevice deviceId playerId).items c, ReportsChanges item :=
    fun item hitem => (bind_item item hitem).reports
  have hpersistent : Persistent Draft.value ((bindMidiDevice deviceId playerId).items c) :=
    persistent_of_single ⟨_, rfl⟩ bind_item
  refine honest_of_part (fun _ => rfl) (fun v key h => sameResource_bindings v h)
    (fun _ => Iff.rfl) (value_of_unreported hreports)
    (changes_of_persistent hpersistent haccept)

lemma unbindMidiDevice_honest {deviceId : String}
    (haccept : ((unbindMidiDevice deviceId).outcome c).2 = .ok ()) :
    (unbindMidiDevice deviceId).Honest c := by
  have hreports : ∀ item ∈ (unbindMidiDevice deviceId).items c, ReportsChanges item :=
    fun item hitem => (unbind_item item hitem).reports
  have hpersistent : Persistent Draft.value ((unbindMidiDevice deviceId).items c) :=
    persistent_of_single ⟨_, rfl⟩ unbind_item
  refine honest_of_part (fun _ => rfl) (fun v key h => sameResource_bindings v h)
    (fun _ => Iff.rfl) (value_of_unreported hreports)
    (changes_of_persistent hpersistent haccept)

lemma patchTechnology_honest
    (haccept : ((patchTechnology P data).outcome c).2 = .ok ())
    (hback : ¬ SetsBack Draft.value ((patchTechnology P data).items c)
      { value := c.technology, changes := [] }) : (patchTechnology P data).Honest c := by
  have hreports : ∀ item ∈ (patchTechnology P data).items c, ReportsChanges item :=
    fun item hitem => (technology_items item hitem).reports
  have hcompares : ∀ item ∈ (patchTechnology P data).items c, Compares item :=
    fun item hitem => (technology_items item hitem).compares
  refine honest_of_part (fun _ => rfl) (fun v key h => sameResource_technology v h)
    (fun _ => Iff.rfl) (value_of_unreported hreports)
    (changes_of_compares hcompares hback haccept)

lemma patchAudio_honest
    (haccept : ((patchAudio P data).outcome c).2 = .ok ()) (hsync : c.audio.InSyncFor data)
    (hback : ¬ SetsBack Draft.value ((patchAudio P data).items c)
      { value := c.audio, changes := [] }) : (patchAudio P data).Honest c := by
  refine honest_of_part (fun _ => rfl) (fun v key h => sameResource_audio v h)
    (fun _ => Iff.rfl) (patchAudio_value hsync)
    (changes_of_compares patchAudio_compares hback haccept)

lemma patchShow_honest (haccept : ((patchShow P data).outcome c).2 = .ok ())
    (hmoved : c.song.MovedBy P data) : (patchShow P data).Honest c := by
  obtain ⟨hvalue, hidle, hreports⟩ := patchShow_value haccept
  refine honest_of_part (fun _ => rfl) (fun v key h => sameResource_song v h) (fun _ => Iff.rfl)
    hreports fun hsame => ?_
  rw [hvalue] at hsame
  rcases hmoved with ⟨hnobpm, hnokey⟩ | hbpm | hkey
  · exact hidle hnobpm hnokey
  · exact absurd (congrArg Song.bpm hsame) hbpm
  · exact absurd (congrArg Song.key hsame) hkey

lemma patchSystem_honest (haccept : ((patchSystem P data).outcome c).2 = .ok ())
    (hmoved : c.system.MovedBy P data) : (patchSystem P data).Honest c := by
  obtain ⟨hvalue, hidle, hreports⟩ := patchSystem_value haccept
  refine honest_of_part (fun _ => rfl) (fun v key h => sameResource_system v h) (fun _ => Iff.rfl)
    hreports fun hsame => ?_
  rw [hvalue] at hsame
  rcases hmoved with hnone | hcapacity | hmode | hvenue | hmanager
  · exact hidle hnone
  · exact absurd (congrArg System.capacity hsame) hcapacity
  · exact absurd (congrArg System.mode hsame) hmode
  · exact absurd (congrArg System.venue hsame) hvenue
  · exact absurd (congrArg System.productionManager hsame) hmanager

lemma transportCall_honest {action : String}
    (haccept : ((transportCall clocks action).outcome c).2 = .ok ())
    (hmoved : c.transport.MovedBy clocks.now (strip (lower action))) :
    (transportCall clocks action).Honest c := by
  obtain ⟨d, hd, -, hrun⟩ := run_cons_ok haccept
  have hout : ((transportCall clocks action).outcome c).1 = d := congrArg Prod.fst hrun
  refine honest_of_touchIfChanged (fun _ => rfl) (fun key h => sameResource_transport _ h) ?_
  unfold after
  rw [hout]
  constructor
  · intro hsame
    rcases transportAction_moves hmoved hd with rfl | hne
    · rfl
    · exact absurd hsame hne
  · intro hnone
    rcases transportAction_reports hd with rfl | hne
    · exact ⟨rfl, fun _ => rfl⟩
    · exact absurd hnone hne

variable {playerId : String}

lemma patchMonitor_honest
    (haccept : ((patchMonitor P playerId data).outcome c).2 = .ok ())
    (hmoved : ∀ player, c.players.find? playerId = some player →
      player.monitor.MovedBy P.toConversions data) : (patchMonitor P playerId data).Honest c := by
  obtain ⟨player, hplayer, hmix, hothers⟩ := patchMonitor_value haccept
  refine honest_of_always (fun _ => rfl) (fun key h => sameResource_players hothers h)
    fun hsame => hmoved player hplayer ?_
  have hmonitor : (((patchMonitor P playerId data).after c).players.find? playerId).map
      Player.monitor = (c.players.find? playerId).map Player.monitor := hsame
  rw [hmix, hplayer] at hmonitor
  exact Option.some.inj hmonitor

lemma patchNotationSettings_honest
    (haccept : ((patchNotationSettings P playerId data).outcome c).2 = .ok ())
    (hmoved : (c.notationRegistry.part playerId).settings.MovedBy P.toConversions data) :
    (patchNotationSettings P playerId data).Honest c := by
  obtain ⟨hown, hothers⟩ := patchNotationSettings_value haccept
  refine honest_of_always (fun _ => rfl) (fun key h => sameResource_registry hothers h)
    fun hsame => hmoved ?_
  have hpart : ((patchNotationSettings P playerId data).after c).notationRegistry.part playerId =
      c.notationRegistry.part playerId := hsame
  exact (congrArg NotationPart.settings (hown.symm.trans hpart))

lemma clearNotation_honest
    (haccept : ((clearNotation playerId).outcome c).2 = .ok ())
    (hmoved : (c.notationRegistry.part playerId).clear ≠ c.notationRegistry.part playerId) :
    (clearNotation playerId).Honest c := by
  obtain ⟨hown, hothers⟩ := clearNotation_value haccept
  exact honest_of_always (fun _ => rfl) (fun key h => sameResource_registry hothers h)
    fun hsame => hmoved (hown.symm.trans hsame)

lemma notationNote_honest
    (haccept : ((notationNote P clocks playerId data).outcome c).2 = .ok ()) :
    (notationNote P clocks playerId data).Honest c := by
  obtain ⟨hothers, hown⟩ := notationNote_value haccept
  exact honest_of_touchIfChanged (fun _ => rfl)
    (fun key h => sameResource_registry hothers h) hown.symm

end

variable {clocks : Clocks} {m : Mutator}

/-- **A mutator that is accountable touches exactly what it changes.** -/
theorem Mutator.Accountable.honest {c : Content}
    (h : m.Accountable P clocks c) (haccept : ((m.call P clocks).outcome c).2 = .ok ()) :
    (m.call P clocks).Honest c := by
  cases m <;> dsimp only [Mutator.call] at haccept ⊢
  case transport action => exact transportCall_honest haccept h
  case patchShow data => exact patchShow_honest haccept h
  case patchSystem data => exact patchSystem_honest haccept h
  case patchHandoff data => exact patchHandoff_honest haccept
  case patchTechnology data => exact patchTechnology_honest haccept h
  case patchAudio data => exact patchAudio_honest haccept h.1 h.2
  case patchLightingNetwork data => exact patchLightingNetwork_honest haccept
  case patchMonitor playerId data => exact patchMonitor_honest haccept h
  case bindMidiDevice deviceId playerId => exact bindMidiDevice_honest haccept
  case unbindMidiDevice deviceId => exact unbindMidiDevice_honest haccept
  case patchNotationSettings playerId data => exact patchNotationSettings_honest haccept h
  case notationNote playerId data => exact notationNote_honest haccept
  case clearNotation playerId => exact clearNotation_honest haccept h
  case ingestMidi playerId data => exact ingestMidi_honest haccept

lemma Mutator.key_mem_touches
    (d : Draft (m.call P clocks).State) (h : (m.call P clocks).touches d ≠ []) :
    (m.call P clocks).key ∈ (m.call P clocks).touches d := by
  have hreported : ∀ {α : Type} {key : ResourceKey} {d : Draft α},
      touchIfChanged key d ≠ [] → key ∈ touchIfChanged key d := by
    intro α key d hne
    rw [mem_touchIfChanged]
    refine ⟨rfl, fun hnone => hne ?_⟩
    rw [touchIfChanged, if_pos hnone]
  cases m
  case patchMonitor => exact List.mem_singleton_self _
  case patchNotationSettings => exact List.mem_singleton_self _
  case clearNotation => exact List.mem_singleton_self _
  case ingestMidi => exact List.mem_cons_self
  all_goals exact hreported h

/-- **A mutator that returns and is accountable accounts for what it does.** -/
theorem accounts_of_accountable {expected expectedResource : Option Int}
    {s : ShowState} {doc : Entries} (h : m.Accountable P clocks s.toContent)
    (hreturns : ((m.call P clocks).perform clocks expected expectedResource s).2 = .ok doc) :
    Accounts s.toLive ((m.call P clocks).perform clocks expected expectedResource s).1.toLive :=
  (Call.accounts_iff_honest hreturns).mpr (h.honest (Call.perform_returns hreturns).2.1)

/-! ## One winner -/

section

open TransitionSystem

variable (P)

/-- A call that is accountable and returns, or that expects another revision; an external event. -/
def Orderly (s : ShowState) : TimedShowAction → Prop
  | (clocks, .edit m expected expectedResource) =>
    (∃ failure, s.checkRevision expected expectedResource (m.call P clocks).key = .error failure) ∨
      m.Accountable P clocks s.toContent ∧
        (ShowAction.edit m expected expectedResource).Returns P clocks s
  | (_, .applyReplica _) => False
  | (_, .externalEvent ..) => True

/-- The call carries an expectation about a resource. -/
def TimedShowAction.Carries (a : TimedShowAction) (key : ResourceKey) (n : Int) : Prop :=
  match a.2 with
  | .edit m _ expectedResource => (m.call P a.1).key = key ∧ expectedResource = some n
  | _ => False

variable {P} {s t u : ShowState} {a b : TimedShowAction} {actions : List TimedShowAction}
  {key : ResourceKey} {n : Int}

lemma Accounts.refl (s : Live) : Accounts s s where
  same _ _ := rfl
  changed key h := absurd (SameResource.refl _ key) h
  idle _ := rfl
  active := fun ⟨key, h⟩ => absurd (SameResource.refl _ key) h

lemma Accounts.resourceRevision_le {s t : Live} (h : Accounts s t) (key : ResourceKey) :
    s.resourceRevision key ≤ t.resourceRevision key := by
  by_cases hsame : SameResource s.toContent t.toContent key
  · rw [h.same key hsame]
  · rw [h.changed key hsame]
    omega

lemma Orderly.accounts (h : Orderly P s a) :
    Accounts s.toLive (a.2.perform P a.1 s).1.toLive := by
  obtain ⟨clocks, action⟩ := a
  cases action with
  | edit m expected expectedResource =>
    rcases h with ⟨failure, hconflict⟩ | ⟨haccountable, doc, hreturns⟩
    · have hstate : (ShowAction.perform P clocks s (.edit m expected expectedResource)).1 = s :=
        congrArg Prod.fst (Call.perform_of_conflict hconflict)
      rw [hstate]
      exact Accounts.refl s.toLive
    · exact accounts_of_accountable haccountable hreturns
  | applyReplica snapshot => exact h.elim
  | externalEvent category text payload =>
    exact
      { same := fun _ _ => rfl
        changed := fun key hne => absurd (SameResource.refl _ key) hne
        idle := fun _ => rfl
        active := fun ⟨key, hne⟩ => absurd (SameResource.refl _ key) hne }

lemma resourceRevision_le_of_reaches (h : Reaches (step P) (Orderly P) s actions t)
    (key : ResourceKey) : s.resourceRevision key ≤ t.resourceRevision key := by
  refine h.invariant (I := fun v => s.resourceRevision key ≤ v.resourceRevision key) (le_refl _) ?_
  intro v a w hv ha hw
  obtain rfl : (a.2.perform P a.1 v).1 = w := Option.some.inj hw
  exact hv.trans (ha.accounts.resourceRevision_le key)

lemma perform_of_carries (h : b.Carries P key n) (hne : n ≠ u.resourceRevision key) :
    b.2.perform P b.1 u = (u, .error (.revisionConflict n (u.resourceRevision key) key.text)) := by
  obtain ⟨clocks, action⟩ := b
  cases action with
  | edit m expected expectedResource =>
    obtain ⟨rfl, rfl⟩ := h
    refine Call.perform_of_conflict ?_
    simp only [Live.checkRevision, ne_eq, hne, not_false_eq_true, if_true]
  | applyReplica snapshot => exact h.elim
  | externalEvent category text payload => exact h.elim

/-- A call with an expectation that returns has found it to be right, and touches its resource if it
changes anything. -/
lemma Orderly.winner (h : Orderly P t a) (hcarries : a.Carries P key n) :
    (∀ k, SameResource t.toContent (a.2.perform P a.1 t).1.toContent k) ∨
      (a.2.perform P a.1 t).1.resourceRevision key = n + 1 := by
  by_cases hsame : ∀ k, SameResource t.toContent (a.2.perform P a.1 t).1.toContent k
  · exact .inl hsame
  obtain ⟨clocks, action⟩ := a
  cases action with
  | edit m expected expectedResource =>
    obtain ⟨rfl, rfl⟩ := hcarries
    right
    rcases h with ⟨failure, hconflict⟩ | ⟨haccountable, doc, hreturns⟩
    · refine absurd (fun k => ?_) hsame
      have hstate : (ShowAction.perform P clocks t (.edit m expected (some n))).1 = t :=
        congrArg Prod.fst (Call.perform_of_conflict hconflict)
      rw [hstate]
      exact SameResource.refl _ k
    · obtain ⟨hcontent, hrevision, -⟩ := Call.perform_returns_revisions hreturns
      obtain ⟨hcheck, haccept, -⟩ := Call.perform_returns hreturns
      have hhonest := haccountable.honest haccept
      have htouched : (m.call P clocks).touched t.toContent ≠ [] := by
        intro hnil
        refine hsame fun k => not_not.mp fun hchanged => ?_
        have hmem := (hhonest k).mpr (hcontent ▸ hchanged)
        rw [hnil] at hmem
        exact List.not_mem_nil hmem
      have hexpected : n = t.resourceRevision (m.call P clocks).key := by
        by_contra hne
        simp [Live.checkRevision, hne] at hcheck
      have hmem : (m.call P clocks).key ∈ (m.call P clocks).touched t.toContent :=
        Mutator.key_mem_touches _ htouched
      have hbump := hrevision (m.call P clocks).key
      rw [if_pos hmem, ← hexpected] at hbump
      exact hbump
  | applyReplica snapshot => exact h.elim
  | externalEvent category text payload => exact hcarries.elim

/-- **Optimistic concurrency has one winner.** In each run of orderly calls, every call accounts for
what it does; and if one that carries an expectation about a resource changes anything, each later
one with the same expectation raises. -/
theorem one_winner (hrun : Reaches (step P) (Orderly P) s actions t) (ha : Orderly P t a) :
    (∀ key, s.resourceRevision key ≤ t.resourceRevision key) ∧
    Accounts t.toLive (a.2.perform P a.1 t).1.toLive ∧
    ∀ key n, a.Carries P key n →
      (∀ k, SameResource t.toContent (a.2.perform P a.1 t).1.toContent k) ∨
        ∀ later (u : ShowState) (b : TimedShowAction),
          Reaches (step P) (Orderly P) (a.2.perform P a.1 t).1 later u → b.Carries P key n →
            b.2.perform P b.1 u =
              (u, .error (.revisionConflict n (u.resourceRevision key) key.text)) := by
  refine ⟨resourceRevision_le_of_reaches hrun, ha.accounts, fun key n hcarries => ?_⟩
  rcases ha.winner hcarries with hsame | hrevision
  · exact .inl hsame
  · refine .inr fun later u b hlater hb => perform_of_carries hb ?_
    have hle := resourceRevision_le_of_reaches hlater key
    omega

/-- A client starts the transport, if its revision is 1. -/
def firstPlay : TimedShowAction := (exampleClocks, .edit (.transport "play") none (some 1))

/-- Another client stops it, if its revision is 1. -/
def lateStop : TimedShowAction := (exampleClocks, .edit (.transport "stop") none (some 1))

/-- The state after the transport has been started. -/
def played : ShowState :=
  (firstPlay.2.perform examplePlatform firstPlay.1 (ShowState.initial exampleClocks)).1

theorem one_winner_play : lateStop.2.perform examplePlatform lateStop.1 played =
      (played, .error (.revisionConflict 1 (played.resourceRevision .transport) "transport")) := by
  have horderly : Orderly examplePlatform (ShowState.initial exampleClocks) firstPlay := by
    refine .inr ⟨⟨fun hstop => ?_, fun hrewind => ?_⟩, by decide +kernel⟩
    · exact absurd hstop (by decide +kernel)
    · exact absurd hrewind (by decide +kernel)
  obtain ⟨-, -, hwinner⟩ := one_winner .refl horderly
  rcases hwinner .transport 1 ⟨rfl, rfl⟩ with hsame | hconflict
  · have hstill : played.transport.running = false := (hsame .transport).1
    exact absurd hstill (by decide +kernel)
  · exact hconflict [] played lateStop .refl ⟨rfl, rfl⟩

def stopAgain : TimedShowAction := (exampleClocks, .edit (.transport "stop") none none)

/-- **Stopping a stopped transport is counted as a change.** -/
theorem stop_raises_revision :
    ∃ s, Reachable examplePlatform s ∧ stopAgain.2.Returns examplePlatform stopAgain.1 s ∧
      (∀ key, SameResource s.toContent
        (stopAgain.2.perform examplePlatform stopAgain.1 s).1.toContent key) ∧
      (stopAgain.2.perform examplePlatform stopAgain.1 s).1.revision ≠ s.revision ∧
      (stopAgain.2.perform examplePlatform stopAgain.1 s).1.resourceRevision .transport ≠
        s.resourceRevision .transport := by
  refine ⟨ShowState.initial exampleClocks, reachable_of_run [] rfl, by decide +kernel, ?_,
    by decide +kernel, by decide +kernel⟩
  have hcontent : (stopAgain.2.perform examplePlatform stopAgain.1
      (ShowState.initial exampleClocks)).1.toContent =
        (ShowState.initial exampleClocks).toContent := by decide +kernel
  intro key
  rw [hcontent]
  exact SameResource.refl _ key

end

end StageForge
