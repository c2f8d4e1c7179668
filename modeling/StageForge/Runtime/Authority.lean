import StageForge.Runtime.Steps

/-!
# Who changes the show

`mutate`, `pump_midi_once` and the MIDI loop change the show state. They should do so only while
the node is primary, its witness client is not suspended and, with witnesses configured, its quorum
lease is valid.
-/

namespace StageForge

open TransitionSystem

variable {σ Snapshot Result : Type} {N : NodeSetup σ Snapshot Result}
  {rt rt' : Runtime σ Snapshot Result} {a : RuntimeAction σ Snapshot Result}

/-! ## The law -/

/-- The job is a change of the show by the node itself. -/
def Job.changesShow : Job σ Snapshot Result → Bool
  | .mutate .. => true
  | .midi .. => true
  | .apply _ => false

/-- The call is between the test of the authority, or its start if it tests nothing, and the end of
its change. -/
def Thread.inWindow : Thread σ Snapshot Result → Bool
  | .mutateChecked .. => true
  | .loopChecked => true
  | .loopPumped => true
  | .waiting job => job.changesShow
  | .running job => job.changesShow
  | _ => false

/-- In this state, every step in which `mutate`, `pump_midi_once` or the MIDI loop changes the show
state finds the node with full authority. -/
def OnlyAuthorityChanges (N : NodeSetup σ Snapshot Result) (rt : Runtime σ Snapshot Result) :
    Prop :=
  ∀ i persistFails job rt', rt.threads[i]? = some (.running job) → job.changesShow = true →
    N.step rt (.run i persistFails) = some rt' → rt'.state ≠ rt.state →
      rt.replication.role = .primary ∧ rt.witness.acquisitionSuspended = false ∧
        (N.witness.configured = true → rt.witness.valid N.witness rt.now = true)

lemma Runtime.hasAuthority_iff : rt.hasAuthority N = true ↔ rt.replication.role = .primary ∧
      rt.witness.acquisitionSuspended = false ∧
        (N.witness.configured = true → rt.witness.valid N.witness rt.now = true) := by
  simp only [Runtime.hasAuthority, ReplicationTracker.isPrimary, Bool.and_eq_true,
    decide_eq_true_eq, Bool.not_eq_true', Bool.or_eq_true, and_assoc]
  cases N.witness.configured <;> simp

/-! ## The condition -/

/-- The action takes up MIDI input: a direct pump, or a pass of the loop that is not skipped. -/
def RuntimeAction.takesMidi (rt : Runtime σ Snapshot Result) :
    RuntimeAction σ Snapshot Result → Bool
  | .callPump _ => true
  | .loopPass => rt.replication.isPrimary
  | _ => false

/-- **The condition on runs.** MIDI input is taken up with full authority, and no step ends the
authority while a call is in its window. -/
def AuthorityKept (N : NodeSetup σ Snapshot Result) (rt : Runtime σ Snapshot Result)
    (a : RuntimeAction σ Snapshot Result) : Prop :=
  (a.takesMidi rt = true → rt.hasAuthority N = true) ∧
    ((∃ thread ∈ rt.threads, thread.inWindow = true) → rt.hasAuthority N = true →
      ∀ rt' ∈ N.step rt a, rt'.hasAuthority N = true)

instance (N : NodeSetup σ Snapshot Result) (rt : Runtime σ Snapshot Result)
    (a : RuntimeAction σ Snapshot Result) : Decidable (AuthorityKept N rt a) :=
  inferInstanceAs (Decidable ((_ → _) ∧ ((∃ thread ∈ rt.threads, thread.inWindow = true) → _ →
    ∀ rt' ∈ N.step rt a, _)))

/-! ## The invariant -/

def WindowAuthorized (N : NodeSetup σ Snapshot Result) (rt : Runtime σ Snapshot Result) : Prop :=
  (∃ thread ∈ rt.threads, thread.inWindow = true) → rt.hasAuthority N = true

lemma Thread.Advance.inWindow {thread thread' : Thread σ Snapshot Result}
    (h : thread.Advance thread') (hin : thread'.inWindow = true) : thread.inWindow = true := by
  cases h with
  | returned => exact absurd hin (by simp [Thread.inWindow])
  | raised => exact absurd hin (by simp [Thread.inWindow])
  | lookedUp => rfl
  | pumping => rfl
  | nothingPumped => rfl
  | due => rfl
  | checked => exact absurd hin (by simp [Thread.inWindow, Job.changesShow])
  | locked job => exact hin
  | pumped => rfl
  | restored => exact absurd hin (by simp [Thread.inWindow])
  | saved => exact absurd hin (by simp [Thread.inWindow])

lemma RuntimeAction.Begins.authorized {thread : Thread σ Snapshot Result} (h : a.Begins N rt thread)
    (hmidi : a.takesMidi rt = true → rt.hasAuthority N = true) (hin : thread.inWindow = true) :
    rt.hasAuthority N = true := by
  cases h with
  | mutate commandId operation hauth => exact hauth
  | pump => exact hmidi rfl
  | loopPass hprimary => exact hmidi hprimary
  | apply => exact absurd hin (by simp [Thread.inWindow])
  | refused => exact absurd hin (by simp [Thread.inWindow])

lemma Effect.hasAuthority_of_begins {thread : Thread σ Snapshot Result} (h : Effect N rt a rt')
    (hbegins : a.Begins N rt thread) (hin : thread.inWindow = true) :
    rt'.hasAuthority N = rt.hasAuthority N := by
  cases hbegins with
  | mutate => cases h <;> rfl
  | pump => cases h; rfl
  | loopPass => cases h <;> rfl
  | apply => exact absurd hin (by simp [Thread.inWindow])
  | refused => exact absurd hin (by simp [Thread.inWindow])

/-- **The step lemma.** -/
theorem windowAuthorized_step (hinv : WindowAuthorized N rt) (hok : AuthorityKept N rt a)
    (hs : N.step rt a = some rt') : WindowAuthorized N rt' := by
  rintro ⟨thread, hmem, hin⟩
  have heffect := effect_of_step hs
  have hkept : (∃ thread ∈ rt.threads, thread.inWindow = true) → rt'.hasAuthority N = true :=
    fun hwindow => hok.2 hwindow (hinv hwindow) rt' hs
  generalize hthreads : rt'.threads = threads at hmem
  have hmove := heffect.threadsMove
  rw [hthreads] at hmove
  cases hmove with
  | stay => exact hkept ⟨thread, hmem, hin⟩
  | begins hbegins =>
    rcases List.mem_append.mp hmem with hold | hnew
    · exact hkept ⟨thread, hold, hin⟩
    · rw [List.mem_singleton] at hnew
      subst hnew
      rw [heffect.hasAuthority_of_begins hbegins hin]
      exact hbegins.authorized hok.1 hin
  | moves hi hadvance =>
    rcases List.mem_or_eq_of_mem_set hmem with hold | rfl
    · exact hkept ⟨thread, hold, hin⟩
    · exact hkept ⟨_, List.mem_of_getElem? hi, hadvance.inWindow hin⟩

/-- **Only the authority changes the show.** In every run in which MIDI input is taken up under
full authority and no step ends the authority of a call that is about to change the show, every
change that `mutate`, `pump_midi_once` or the MIDI loop makes finds the node primary, not suspended,
and with a valid quorum lease if it has witnesses. -/
theorem only_authority_changes_show {now : Int} {replication : ReplicationTracker}
    {witness : WitnessQuorumClient} {state : σ} {as : List (RuntimeAction σ Snapshot Result)}
    (h : Reaches N.step (AuthorityKept N) (.start now replication witness state) as rt) :
    OnlyAuthorityChanges N rt := by
  have hstart : WindowAuthorized N (.start now replication witness state) := by
    rintro ⟨thread, hmem, -⟩
    simp [Runtime.start] at hmem
  have hinv := h.invariant hstart fun _ _ _ hinv hok hs => windowAuthorized_step hinv hok hs
  intro i persistFails job rt' hi hchanges _ _
  rw [← Runtime.hasAuthority_iff]
  exact hinv ⟨_, List.mem_of_getElem? hi, hchanges⟩

/-! ## A small node -/

/-- A show state that is nothing but its revision. -/
def counterShow : ShowApi Int Int Int where
  revision := id
  snapshotRevision := id
  resultRevision := id
  restore := fun _ snapshot => max 1 snapshot
  revision_restore := fun _ _ => rfl

/-- The next revision, as an operation of `mutate` and as a MIDI action. -/
def bump (state : Int) : Int × Except String Int := (state + 1, .ok (state + 1))

def bumpMidi (state : Int) : Int × Except String Unit := (state + 1, .ok ())

def witnessedNode : NodeSetup Int Int Int where
  witness := { urls := ["w1"], clusterId := "show" }
  api := counterShow

/-- A primary whose lease runs until time 5000, at time 1000. -/
def leasedPrimary : Runtime Int Int Int :=
  .start 1000 { nodeId := "a", role := .primary } { leaseEpoch := 1, leaseExpiresAt := 5000 } 1

/-- A mutation and a MIDI pass under a running lease. -/
def quietRun : List (RuntimeAction Int Int Int) :=
  [.callMutate none bump, .lookup 0, .lock 0, .run 0 false, .loopPass, .loopPump 1 (some bumpMidi),
    .lock 1, .run 1 false, .tick 100]

theorem only_authority_changes_show_quietRun :
    ∃ rt, Reaches witnessedNode.step (AuthorityKept witnessedNode) leasedPrimary quietRun rt ∧
      rt.state = 3 ∧ OnlyAuthorityChanges witnessedNode rt := by
  have hrun : (run (fun rt a => if AuthorityKept witnessedNode rt a then witnessedNode.step rt a
      else none) leasedPrimary quietRun).any (fun rt => rt.state = 3) = true := by decide +kernel
  obtain ⟨rt, hrt, hstate⟩ := (Option.any_eq_true _ _).mp hrun
  exact ⟨rt, reaches_of_run hrt, of_decide_eq_true hstate,
    only_authority_changes_show (reaches_of_run hrt)⟩

/-- A mutation that was admitted waits for the lock while the node is demoted. -/
def demotedMutation : List (RuntimeAction Int Int Int) :=
  [.callMutate none bump, .lookup 0, .setNodeRole { role := .standby } false none, .lock 0]

/-- A pass of the MIDI loop is under way when the lease runs out. -/
def lapsedLoop : List (RuntimeAction Int Int Int) :=
  [.loopPass, .loopPump 0 (some bumpMidi), .tick 4000, .lock 0]

def standbyPump : List (RuntimeAction Int Int Int) :=
  [.setNodeRole { role := .standby } false none, .callPump bumpMidi, .lock 0]

lemma not_onlyAuthorityChanges_of_run {as : List (RuntimeAction Int Int Int)}
    (hrun : (run witnessedNode.step leasedPrimary as).any (fun rt =>
      (rt.threads[0]?.any fun thread =>
        match thread with
        | .running job => job.changesShow
        | _ => false) &&
      (witnessedNode.step rt (.run 0 false)).any (fun rt' => rt'.state ≠ rt.state) &&
      !rt.hasAuthority witnessedNode) = true) :
    ∃ rt, Reaches witnessedNode.step Always leasedPrimary as rt ∧
      ¬ OnlyAuthorityChanges witnessedNode rt := by
  obtain ⟨rt, hrt, hlost⟩ := (Option.any_eq_true _ _).mp hrun
  refine ⟨rt, reaches_always_of_run hrt, fun honly => ?_⟩
  simp only [Bool.and_eq_true, Bool.not_eq_true'] at hlost
  obtain ⟨⟨hthread, hstep⟩, hno⟩ := hlost
  obtain ⟨thread, hi, hrunning⟩ := (Option.any_eq_true _ _).mp hthread
  obtain ⟨rt', hs, hne⟩ := (Option.any_eq_true _ _).mp hstep
  cases thread with
  | running job =>
    have hauth := honly 0 false job rt' hi hrunning hs (of_decide_eq_true hne)
    rw [← Runtime.hasAuthority_iff, hno] at hauth
    cases hauth
  | _ => exact absurd hrunning (by simp)

/-- **Lost authority goes unnoticed.** After each of these runs the waiting call changes the show
of a node that has no authority. -/
theorem lost_authority_goes_unnoticed :
    (∃ rt, Reaches witnessedNode.step Always leasedPrimary demotedMutation rt ∧
      ¬ OnlyAuthorityChanges witnessedNode rt) ∧
    (∃ rt, Reaches witnessedNode.step Always leasedPrimary lapsedLoop rt ∧
      ¬ OnlyAuthorityChanges witnessedNode rt) ∧
    ∃ rt, Reaches witnessedNode.step Always leasedPrimary standbyPump rt ∧
      ¬ OnlyAuthorityChanges witnessedNode rt :=
  ⟨not_onlyAuthorityChanges_of_run (by decide +kernel),
    not_onlyAuthorityChanges_of_run (by decide +kernel),
    not_onlyAuthorityChanges_of_run (by decide +kernel)⟩

end StageForge
