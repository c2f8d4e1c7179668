import StageForge.Library.TransitionSystem
import StageForge.Runtime.State

/-!
# The steps of a node

How the calls of `StageForgeRuntime` interleave. A call is a thread with a program counter; between
any two of its points every other thread may move, the role may change, the witness client may
renew or lose its lease, and time passes.

* `mutate` tests the authority, looks the command id up, waits for the mutation lock, and runs its
  section under the lock as one step.
* `pump_midi_once` tests nothing: it waits for the lock as soon as it has input. A pass of the MIDI
  loop tests the role, pumps, and executes what is due.
* `apply_replica` verifies the envelope, asks `can_apply`, waits for the lock, and then restores,
  saves and marks in three steps, between which a promotion may fall.
* `set_node_role` takes no lock; `_witness_tick` runs under it.
-/

namespace StageForge

variable {σ Snapshot Result : Type}

inductive RuntimeAction (σ Snapshot Result : Type)
  | tick (ms : ℕ)
  | setNodeRole (request : RoleRequest) (heartbeatEligible : Bool) (grant : Option LeaseGrant)
  | witnessTick (heartbeatEligible : Bool) (grant : Option LeaseGrant)
  | callMutate (commandId : Option String) (operation : σ → σ × Except String Result)
  | lookup (i : ℕ)
  | callPump (actions : σ → σ × Except String Unit)
  | loopPass
  | loopPump (i : ℕ) (actions : Option (σ → σ × Except String Unit))
  | loopDue (i : ℕ) (actions : Option (σ → σ × Except String Unit))
  | callApply (envelope : Envelope Snapshot) (authentic : Bool)
  | checkApply (i : ℕ)
  | lock (i : ℕ)
  | run (i : ℕ) (persistFails : Bool)
  | save (i : ℕ) (fails : Bool)
  | mark (i : ℕ) (fails : Bool)

/-- `verify_envelope`, with an ideal signature. -/
def NodeSetup.verifyEnvelope (N : NodeSetup σ Snapshot Result) (envelope : Envelope Snapshot)
    (authentic : Bool) : Except String Unit :=
  if ¬ authentic then .error "replication authentication failed"
  else if envelope.revision ≠ N.api.snapshotRevision envelope.snapshot then
    .error "replication revision does not match snapshot"
  else .ok ()

/-- A pass of the MIDI loop comes to a place where it executes actions under the lock, if there are
any, and goes on otherwise. -/
def midiThread (origin : MidiOrigin) (idle : Thread σ Snapshot Result) :
    Option (σ → σ × Except String Unit) → Thread σ Snapshot Result
  | some actions => .waiting (.midi origin actions)
  | none => idle

/-- One step of the node; `none` when the action is not possible. -/
def NodeSetup.step (N : NodeSetup σ Snapshot Result) (rt : Runtime σ Snapshot Result) :
    RuntimeAction σ Snapshot Result → Option (Runtime σ Snapshot Result)
  | .tick ms => some { rt with now := rt.now + ms }
  | .setNodeRole request eligible grant => some (rt.setNodeRole N request eligible grant).1
  | .witnessTick eligible grant =>
    if N.witness.configured ∧ rt.mutationLock = none then some (rt.witnessTick N eligible grant)
    else none
  | .callMutate commandId operation =>
    if rt.hasAuthority N then some (rt.spawn (.mutateChecked commandId operation))
    else if ¬ rt.replication.isPrimary then
      some (rt.spawn (.raised
        "standby node is read-only; apply replicated state or promote authority first"))
    else some (rt.spawn (.raised "primary node lacks witness quorum lease"))
  | .lookup i =>
    match rt.threads[i]? with
    | some (.mutateChecked commandId operation) =>
      let id := Runtime.normalizeCommandId commandId
      match id.bind fun k => (OrderedDict.get? rt.commandResults k).map fun r => (k, r) with
      | some (k, result) => some ((rt.reuse k result).setThread i .returned)
      | none => some (rt.setThread i (.waiting (.mutate id operation)))
    | _ => none
  | .callPump actions => some (rt.spawn (.waiting (.midi .pump actions)))
  | .loopPass => if rt.replication.isPrimary then some (rt.spawn .loopChecked) else some rt
  | .loopPump i actions =>
    match rt.threads[i]? with
    | some .loopChecked => some (rt.setThread i (midiThread .loopPump .loopPumped actions))
    | _ => none
  | .loopDue i actions =>
    match rt.threads[i]? with
    | some .loopPumped => some (rt.setThread i (midiThread .loopDue .returned actions))
    | _ => none
  | .callApply envelope authentic =>
    match N.verifyEnvelope envelope authentic with
    | .ok () => some (rt.spawn (.applyVerified envelope))
    | .error reason => some (rt.spawn (.raised reason))
  | .checkApply i =>
    match rt.threads[i]? with
    | some (.applyVerified envelope) =>
      let decision := rt.replication.canApply envelope
      if decision.accepted then some (rt.setThread i (.waiting (.apply envelope)))
      else some (rt.setThread i (.raised decision.reason))
    | _ => none
  | .lock i =>
    match rt.threads[i]?, rt.mutationLock with
    | some (.waiting job), none =>
      some { rt.setThread i (.running job) with mutationLock := some i }
    | _, _ => none
  | .run i persistFails =>
    match rt.threads[i]? with
    | some (.running (.mutate commandId operation)) =>
      some (rt.mutateBody N i commandId operation persistFails)
    | some (.running (.midi origin actions)) => some (rt.midiBody N i origin actions persistFails)
    | some (.running (.apply envelope)) => some (rt.restoreBody N i envelope)
    | _ => none
  | .save i fails =>
    match rt.threads[i]? with
    | some (.applyRestored envelope) =>
      if fails then some (rt.release i (.raised "saving the snapshot failed"))
      else some (rt.saveBody i envelope)
    | _ => none
  | .mark i fails =>
    match rt.threads[i]? with
    | some (.applySaved envelope) =>
      if fails then some (rt.release i (.raised "refreshing the devices failed"))
      else some (rt.markBody i envelope)
    | _ => none

/-! ## Threads -/

namespace Runtime

variable {rt : Runtime σ Snapshot Result} {i j : ℕ} {thread t : Thread σ Snapshot Result}

lemma mem_spawn (h : t ∈ (rt.spawn thread).threads) : t ∈ rt.threads ∨ t = thread := by
  simpa [spawn] using h

lemma getElem?_setThread (rt : Runtime σ Snapshot Result)
    (h : (rt.setThread i thread).threads[j]? = some t) :
    (j = i ∧ t = thread) ∨ (j ≠ i ∧ rt.threads[j]? = some t) := by
  simp only [setThread] at h
  by_cases hj : j = i
  · subst hj
    have hlt : j < (rt.threads.set j thread).length := by
      by_contra hge
      rw [List.getElem?_eq_none (not_lt.mp hge)] at h
      cases h
    rw [List.length_set] at hlt
    rw [List.getElem?_set_self hlt, Option.some.injEq] at h
    exact Or.inl ⟨rfl, h.symm⟩
  · rw [List.getElem?_set_ne (Ne.symm hj)] at h
    exact Or.inr ⟨hj, h⟩

lemma getElem?_spawn (h : (rt.spawn thread).threads[j]? = some t) :
    (j = rt.threads.length ∧ t = thread) ∨ rt.threads[j]? = some t := by
  simp only [spawn, List.getElem?_append] at h
  split at h
  · exact Or.inr h
  · rename_i hge
    have hj : j - rt.threads.length = 0 := by
      by_contra hpos
      rw [List.getElem?_eq_none (by simp; omega)] at h
      cases h
    rw [hj] at h
    simp only [List.getElem?_cons_zero, Option.some.injEq] at h
    exact Or.inl ⟨by omega, h.symm⟩

end Runtime

/-! ## Effects -/

inductive Effect (N : NodeSetup σ Snapshot Result) (rt : Runtime σ Snapshot Result) :
    RuntimeAction σ Snapshot Result → Runtime σ Snapshot Result → Prop
  | tick (ms : ℕ) : Effect N rt (.tick ms) { rt with now := rt.now + ms }
  | role (request : RoleRequest) (eligible : Bool) (grant : Option LeaseGrant) :
      Effect N rt (.setNodeRole request eligible grant) (rt.setNodeRole N request eligible grant).1
  | witness (eligible : Bool) (grant : Option LeaseGrant) : rt.mutationLock = none →
      Effect N rt (.witnessTick eligible grant) (rt.witnessTick N eligible grant)
  | admitted (commandId : Option String) (operation : σ → σ × Except String Result) :
      rt.hasAuthority N = true →
      Effect N rt (.callMutate commandId operation) (rt.spawn (.mutateChecked commandId operation))
  | notAdmitted (commandId : Option String) (operation : σ → σ × Except String Result)
      (reason : String) :
      Effect N rt (.callMutate commandId operation) (rt.spawn (.raised reason))
  | hit {i : ℕ} {commandId : Option String} {operation : σ → σ × Except String Result}
      {k : String} {result : Result} :
      rt.threads[i]? = some (.mutateChecked commandId operation) →
      Runtime.normalizeCommandId commandId = some k →
      OrderedDict.get? rt.commandResults k = some result →
      Effect N rt (.lookup i) ((rt.reuse k result).setThread i .returned)
  | missed {i : ℕ} {commandId : Option String} {operation : σ → σ × Except String Result} :
      rt.threads[i]? = some (.mutateChecked commandId operation) →
      (∀ k, Runtime.normalizeCommandId commandId = some k →
        OrderedDict.get? rt.commandResults k = none) →
      Effect N rt (.lookup i)
        (rt.setThread i (.waiting (.mutate (Runtime.normalizeCommandId commandId) operation)))
  | pump (actions : σ → σ × Except String Unit) :
      Effect N rt (.callPump actions) (rt.spawn (.waiting (.midi .pump actions)))
  | loopPass : rt.replication.isPrimary = true → Effect N rt .loopPass (rt.spawn .loopChecked)
  | loopSkip : Effect N rt .loopPass rt
  | loopPump {i : ℕ} (actions : Option (σ → σ × Except String Unit)) :
      rt.threads[i]? = some .loopChecked →
      Effect N rt (.loopPump i actions) (rt.setThread i (midiThread .loopPump .loopPumped actions))
  | loopDue {i : ℕ} (actions : Option (σ → σ × Except String Unit)) :
      rt.threads[i]? = some .loopPumped →
      Effect N rt (.loopDue i actions) (rt.setThread i (midiThread .loopDue .returned actions))
  | verified (envelope : Envelope Snapshot) (authentic : Bool) :
      envelope.revision = N.api.snapshotRevision envelope.snapshot →
      Effect N rt (.callApply envelope authentic) (rt.spawn (.applyVerified envelope))
  | rejected (envelope : Envelope Snapshot) (authentic : Bool) (reason : String) :
      Effect N rt (.callApply envelope authentic) (rt.spawn (.raised reason))
  | accepted {i : ℕ} {envelope : Envelope Snapshot} :
      rt.threads[i]? = some (.applyVerified envelope) →
      (rt.replication.canApply envelope).accepted = true →
      Effect N rt (.checkApply i) (rt.setThread i (.waiting (.apply envelope)))
  | refused {i : ℕ} {envelope : Envelope Snapshot} (reason : String) :
      rt.threads[i]? = some (.applyVerified envelope) →
      Effect N rt (.checkApply i) (rt.setThread i (.raised reason))
  | locked {i : ℕ} {job : Job σ Snapshot Result} :
      rt.threads[i]? = some (.waiting job) → rt.mutationLock = none →
      Effect N rt (.lock i) { rt.setThread i (.running job) with mutationLock := some i }
  | mutate {i : ℕ} {commandId : Option String} {operation : σ → σ × Except String Result}
      (persistFails : Bool) :
      rt.threads[i]? = some (.running (.mutate commandId operation)) →
      Effect N rt (.run i persistFails) (rt.mutateBody N i commandId operation persistFails)
  | midi {i : ℕ} {origin : MidiOrigin} {actions : σ → σ × Except String Unit}
      (persistFails : Bool) :
      rt.threads[i]? = some (.running (.midi origin actions)) →
      Effect N rt (.run i persistFails) (rt.midiBody N i origin actions persistFails)
  | restore {i : ℕ} {envelope : Envelope Snapshot} (persistFails : Bool) :
      rt.threads[i]? = some (.running (.apply envelope)) →
      Effect N rt (.run i persistFails) (rt.restoreBody N i envelope)
  | saved {i : ℕ} {envelope : Envelope Snapshot} : rt.threads[i]? = some (.applyRestored envelope) →
      Effect N rt (.save i false) (rt.saveBody i envelope)
  | notSaved {i : ℕ} {envelope : Envelope Snapshot} (reason : String) :
      rt.threads[i]? = some (.applyRestored envelope) →
      Effect N rt (.save i true) (rt.release i (.raised reason))
  | marked {i : ℕ} {envelope : Envelope Snapshot} : rt.threads[i]? = some (.applySaved envelope) →
      Effect N rt (.mark i false) (rt.markBody i envelope)
  | notMarked {i : ℕ} {envelope : Envelope Snapshot} (reason : String) :
      rt.threads[i]? = some (.applySaved envelope) →
      Effect N rt (.mark i true) (rt.release i (.raised reason))

open NodeSetup

/-- **The step function does nothing else.** -/
theorem effect_of_step {N : NodeSetup σ Snapshot Result} {rt rt' : Runtime σ Snapshot Result}
    {a : RuntimeAction σ Snapshot Result} (h : N.step rt a = some rt') : Effect N rt a rt' := by
  cases a with
  | tick ms =>
    simp only [NodeSetup.step, Option.some.injEq] at h
    exact h ▸ .tick ms
  | setNodeRole request eligible grant =>
    simp only [NodeSetup.step, Option.some.injEq] at h
    exact h ▸ .role request eligible grant
  | witnessTick eligible grant =>
    simp only [NodeSetup.step, Option.ite_none_right_eq_some, Option.some.injEq] at h
    exact h.2 ▸ .witness eligible grant h.1.2
  | callMutate commandId operation =>
    simp only [NodeSetup.step] at h
    split at h
    · rename_i hauth
      simp only [Option.some.injEq] at h
      exact h ▸ .admitted commandId operation hauth
    · split at h <;>
      · simp only [Option.some.injEq] at h
        exact h ▸ .notAdmitted commandId operation _
  | lookup i =>
    simp only [NodeSetup.step] at h
    split at h
    · rename_i commandId operation hi
      split at h
      · rename_i k result hfound
        simp only [Option.some.injEq] at h
        simp only [Option.bind_eq_some_iff, Option.map_eq_some_iff, Prod.mk.injEq] at hfound
        obtain ⟨k', hk, r', hr, rfl, rfl⟩ := hfound
        exact h ▸ .hit hi hk hr
      · rename_i hmiss
        simp only [Option.some.injEq] at h
        refine h ▸ .missed hi fun k hk => ?_
        simpa [hk] using hmiss
    · cases h
  | callPump actions =>
    simp only [NodeSetup.step, Option.some.injEq] at h
    exact h ▸ .pump actions
  | loopPass =>
    simp only [NodeSetup.step] at h
    split at h
    · rename_i hprimary
      simp only [Option.some.injEq] at h
      exact h ▸ .loopPass hprimary
    · simp only [Option.some.injEq] at h
      exact h ▸ .loopSkip
  | loopPump i actions =>
    simp only [NodeSetup.step] at h
    split at h
    · rename_i hi
      simp only [Option.some.injEq] at h
      exact h ▸ .loopPump actions hi
    · cases h
  | loopDue i actions =>
    simp only [NodeSetup.step] at h
    split at h
    · rename_i hi
      simp only [Option.some.injEq] at h
      exact h ▸ .loopDue actions hi
    · cases h
  | callApply envelope authentic =>
    simp only [NodeSetup.step] at h
    split at h
    · rename_i hok
      simp only [Option.some.injEq] at h
      refine h ▸ .verified envelope authentic ?_
      unfold verifyEnvelope at hok
      split at hok
      · cases hok
      · split at hok
        · cases hok
        · rename_i hsame
          exact not_not.mp hsame
    · rename_i reason _
      simp only [Option.some.injEq] at h
      exact h ▸ .rejected envelope authentic reason
  | checkApply i =>
    simp only [NodeSetup.step] at h
    split at h
    · rename_i envelope hi
      split at h
      · rename_i haccepted
        simp only [Option.some.injEq] at h
        exact h ▸ .accepted hi haccepted
      · simp only [Option.some.injEq] at h
        exact h ▸ .refused _ hi
    · cases h
  | lock i =>
    simp only [NodeSetup.step] at h
    split at h
    · rename_i job hi hfree
      simp only [Option.some.injEq] at h
      exact h ▸ .locked hi hfree
    · exact absurd h (by simp)
  | run i persistFails =>
    simp only [NodeSetup.step] at h
    split at h
    · rename_i commandId operation hi
      simp only [Option.some.injEq] at h
      exact h ▸ .mutate persistFails hi
    · rename_i origin actions hi
      simp only [Option.some.injEq] at h
      exact h ▸ .midi persistFails hi
    · rename_i envelope hi
      simp only [Option.some.injEq] at h
      exact h ▸ .restore persistFails hi
    · exact absurd h (by simp)
  | save i fails =>
    simp only [NodeSetup.step] at h
    split at h
    · rename_i envelope hi
      cases fails with
      | true =>
        simp only [if_true, Option.some.injEq] at h
        exact h ▸ .notSaved _ hi
      | false =>
        simp only [Bool.false_eq_true, if_false, Option.some.injEq] at h
        exact h ▸ .saved hi
    · exact absurd h (by simp)
  | mark i fails =>
    simp only [NodeSetup.step] at h
    split at h
    · rename_i envelope hi
      cases fails with
      | true =>
        simp only [if_true, Option.some.injEq] at h
        exact h ▸ .notMarked _ hi
      | false =>
        simp only [Bool.false_eq_true, if_false, Option.some.injEq] at h
        exact h ▸ .marked hi
    · exact absurd h (by simp)

/-! ## How a call moves on -/

/-- From one point of a call to the next. -/
inductive Thread.Advance : Thread σ Snapshot Result → Thread σ Snapshot Result → Prop
  | returned (thread : Thread σ Snapshot Result) : Advance thread .returned
  | raised (thread : Thread σ Snapshot Result) (reason : String) : Advance thread (.raised reason)
  | lookedUp (commandId : Option String) (operation : σ → σ × Except String Result) :
      Advance (.mutateChecked commandId operation)
        (.waiting (.mutate (Runtime.normalizeCommandId commandId) operation))
  | pumping (actions : σ → σ × Except String Unit) :
      Advance .loopChecked (.waiting (.midi .loopPump actions))
  | nothingPumped : Advance .loopChecked .loopPumped
  | due (actions : σ → σ × Except String Unit) :
      Advance .loopPumped (.waiting (.midi .loopDue actions))
  | checked (envelope : Envelope Snapshot) :
      Advance (.applyVerified envelope) (.waiting (.apply envelope))
  | locked (job : Job σ Snapshot Result) : Advance (.waiting job) (.running job)
  | pumped (origin : MidiOrigin) (actions : σ → σ × Except String Unit) :
      Advance (.running (.midi origin actions)) .loopPumped
  | restored (envelope : Envelope Snapshot) :
      Advance (.running (.apply envelope)) (.applyRestored envelope)
  | saved (envelope : Envelope Snapshot) : Advance (.applyRestored envelope) (.applySaved envelope)

inductive RuntimeAction.Begins (N : NodeSetup σ Snapshot Result) (rt : Runtime σ Snapshot Result) :
    RuntimeAction σ Snapshot Result → Thread σ Snapshot Result → Prop
  | mutate (commandId : Option String) (operation : σ → σ × Except String Result) :
      rt.hasAuthority N = true →
      Begins N rt (.callMutate commandId operation) (.mutateChecked commandId operation)
  | pump (actions : σ → σ × Except String Unit) :
      Begins N rt (.callPump actions) (.waiting (.midi .pump actions))
  | loopPass : rt.replication.isPrimary = true → Begins N rt .loopPass .loopChecked
  | apply (envelope : Envelope Snapshot) (authentic : Bool) :
      envelope.revision = N.api.snapshotRevision envelope.snapshot →
      Begins N rt (.callApply envelope authentic) (.applyVerified envelope)
  | refused (a : RuntimeAction σ Snapshot Result) (reason : String) : Begins N rt a (.raised reason)

/-- What a step does to the threads: nothing, one more, or one that moves on. -/
inductive ThreadsMove (N : NodeSetup σ Snapshot Result) (rt : Runtime σ Snapshot Result)
    (a : RuntimeAction σ Snapshot Result) : List (Thread σ Snapshot Result) → Prop
  | stay : ThreadsMove N rt a rt.threads
  | begins {thread : Thread σ Snapshot Result} :
      a.Begins N rt thread → ThreadsMove N rt a (rt.threads ++ [thread])
  | moves {i : ℕ} {thread thread' : Thread σ Snapshot Result} :
      rt.threads[i]? = some thread → thread.Advance thread' →
      ThreadsMove N rt a (rt.threads.set i thread')

section

variable {N : NodeSetup σ Snapshot Result} {rt rt' : Runtime σ Snapshot Result} {i : ℕ}
  {a : RuntimeAction σ Snapshot Result}

variable (rt : Runtime σ Snapshot Result)

@[simp] lemma Runtime.threads_remember (id : Option String)
    (result : Result) : (rt.remember id result).threads = rt.threads := by
  cases id <;> simp [remember]

/-- Only the authority of the node changed. -/
structure Runtime.AuthorityStep (rt rt' : Runtime σ Snapshot Result) : Prop where
  rest : rt' = { rt with replication := rt'.replication, witness := rt'.witness }
  applied : rt'.replication.appliedMark = rt.replication.appliedMark

lemma Runtime.authorityStep_setNodeRole (request : RoleRequest)
    (eligible : Bool) (grant : Option LeaseGrant) :
    rt.AuthorityStep (rt.setNodeRole N request eligible grant).1 := by
  simp only [setNodeRole]
  repeat' split
  all_goals exact ⟨rfl, by simp⟩

lemma Runtime.authorityStep_witnessTick (eligible : Bool)
    (grant : Option LeaseGrant) : rt.AuthorityStep (rt.witnessTick N eligible grant) := by
  simp only [witnessTick]
  repeat' split
  all_goals exact ⟨rfl, by simp⟩

lemma Runtime.AuthorityStep.threads (h : rt.AuthorityStep rt') : rt'.threads = rt.threads := by
  rw [h.rest]

lemma Runtime.threads_mutateBody (i : ℕ) (id : Option String)
    (operation : σ → σ × Except String Result) (persistFails : Bool) :
    (rt.mutateBody N i id operation persistFails).threads = rt.threads.set i .returned ∨
      ∃ reason, (rt.mutateBody N i id operation persistFails).threads
        = rt.threads.set i (.raised reason) := by
  unfold mutateBody
  simp only
  split
  · exact Or.inr ⟨_, rfl⟩
  · split
    · split
      · exact Or.inr ⟨_, rfl⟩
      · exact Or.inl (by simp [release, setThread])
    · exact Or.inl (by simp [release, setThread])

lemma Runtime.threads_midiBody (i : ℕ) (origin : MidiOrigin)
    (actions : σ → σ × Except String Unit) (persistFails : Bool) :
    (rt.midiBody N i origin actions persistFails).threads = rt.threads.set i .returned ∨
      (rt.midiBody N i origin actions persistFails).threads = rt.threads.set i .loopPumped ∨
      ∃ reason, (rt.midiBody N i origin actions persistFails).threads
        = rt.threads.set i (.raised reason) := by
  unfold midiBody
  simp only
  split
  · exact Or.inr (Or.inr ⟨_, rfl⟩)
  · split
    · split
      · exact Or.inr (Or.inr ⟨_, rfl⟩)
      · by_cases h : origin = .loopPump <;> simp [release, setThread, h]
    · by_cases h : origin = .loopPump <;> simp [release, setThread, h]

/-- **Restoring a replica**: it is turned away when its revision is behind that of the show, and
replaces the show otherwise. -/
lemma Runtime.restoreBody_cases (i : ℕ)
    (envelope : Envelope Snapshot) :
    (∃ reason, rt.restoreBody N i envelope = rt.release i (.raised reason)) ∨
      (N.api.revision rt.state ≤ N.api.snapshotRevision envelope.snapshot ∧
        rt.restoreBody N i envelope = { rt.setThread i (.applyRestored envelope) with
            state := N.api.restore rt.state envelope.snapshot
            history := { rt.history with
              applications := ⟨envelope, rt.replication.role,
                N.api.restore rt.state envelope.snapshot⟩ :: rt.history.applications } }) := by
  by_cases hbehind : N.api.snapshotRevision envelope.snapshot < N.api.revision rt.state
  · left
    simp only [restoreBody, ShowApi.applyReplicaSnapshot, hbehind, if_true]
    exact ⟨_, rfl⟩
  · right
    refine ⟨not_lt.mp hbehind, ?_⟩
    simp only [restoreBody, ShowApi.applyReplicaSnapshot, hbehind, if_false]

/-- **Calls move one at a time.** -/
theorem Effect.threadsMove (h : Effect N rt a rt') : ThreadsMove N rt a rt'.threads := by
  cases h with
  | tick ms => exact .stay
  | role request eligible grant =>
    rw [(rt.authorityStep_setNodeRole request eligible grant).threads]
    exact .stay
  | witness eligible grant hfree =>
    rw [(rt.authorityStep_witnessTick eligible grant).threads]
    exact .stay
  | admitted commandId operation hauth => exact .begins (.mutate commandId operation hauth)
  | notAdmitted commandId operation reason => exact .begins (.refused _ reason)
  | hit hi hk hr => exact .moves hi (.returned _)
  | missed hi hmiss => exact .moves hi (.lookedUp _ _)
  | pump actions => exact .begins (.pump actions)
  | loopPass hprimary => exact .begins (.loopPass hprimary)
  | loopSkip => exact .stay
  | loopPump actions hi =>
    cases actions with
    | none => exact .moves hi .nothingPumped
    | some actions => exact .moves hi (.pumping actions)
  | loopDue actions hi =>
    cases actions with
    | none => exact .moves hi (.returned _)
    | some actions => exact .moves hi (.due actions)
  | verified envelope authentic hrev => exact .begins (.apply envelope authentic hrev)
  | rejected envelope authentic reason => exact .begins (.refused _ reason)
  | accepted hi hok => exact .moves hi (.checked _)
  | refused reason hi => exact .moves hi (.raised _ reason)
  | locked hi hfree => exact .moves hi (.locked _)
  | mutate persistFails hi =>
    rcases rt.threads_mutateBody (N := N) _ _ _ persistFails with ht | ⟨reason, ht⟩ <;> rw [ht]
    · exact .moves hi (.returned _)
    · exact .moves hi (.raised _ reason)
  | midi persistFails hi =>
    rcases rt.threads_midiBody (N := N) _ _ _ persistFails with ht | ht | ⟨reason, ht⟩ <;> rw [ht]
    · exact .moves hi (.returned _)
    · exact .moves hi (.pumped _ _)
    · exact .moves hi (.raised _ reason)
  | restore persistFails hi =>
    rcases rt.restoreBody_cases (N := N) _ _ with ⟨reason, heq⟩ | ⟨-, heq⟩ <;> rw [heq]
    · exact .moves hi (.raised _ reason)
    · exact .moves hi (.restored _)
  | saved hi => exact .moves hi (.saved _)
  | notSaved reason hi => exact .moves hi (.raised _ reason)
  | marked hi => exact .moves hi (.returned _)
  | notMarked reason hi => exact .moves hi (.raised _ reason)

end

/-! ## The mutation lock -/

/-- The call is inside `with self._mutation_lock`. -/
def Thread.holdsLock : Thread σ Snapshot Result → Bool
  | .running _ => true
  | .applyRestored _ => true
  | .applySaved _ => true
  | _ => false

def LockOwned (rt : Runtime σ Snapshot Result) : Prop :=
  ∀ (j : ℕ) (t : Thread σ Snapshot Result), rt.threads[j]? = some t → t.holdsLock = true →
    rt.mutationLock = some j

section

variable {N : NodeSetup σ Snapshot Result} {rt rt' : Runtime σ Snapshot Result} {i : ℕ}
  {a : RuntimeAction σ Snapshot Result} {thread thread' : Thread σ Snapshot Result}

lemma LockOwned.unique {j : ℕ} (h : LockOwned rt) (hi : rt.threads[i]? = some thread)
    (hj : rt.threads[j]? = some thread') (hthread : thread.holdsLock = true)
    (hthread' : thread'.holdsLock = true) : i = j := by
  have heq := (h i thread hi hthread).symm.trans (h j thread' hj hthread')
  simpa using heq

lemma LockOwned.unique_thread {j : ℕ} (h : LockOwned rt) (hi : rt.threads[i]? = some thread)
    (hj : rt.threads[j]? = some thread') (hthread : thread.holdsLock = true)
    (hthread' : thread'.holdsLock = true) : thread = thread' := by
  obtain rfl := h.unique hi hj hthread hthread'
  rwa [hi, Option.some.injEq] at hj

lemma LockOwned.same (h : LockOwned rt) (hthreads : rt'.threads = rt.threads)
    (hlock : rt'.mutationLock = rt.mutationLock) : LockOwned rt' := by
  intro j t hj ht
  rw [hthreads] at hj
  rw [hlock]
  exact h j t hj ht

lemma LockOwned.spawn (h : LockOwned rt) (hnew : thread.holdsLock = false) :
    LockOwned (rt.spawn thread) := by
  intro j t hj ht
  rcases Runtime.getElem?_spawn hj with ⟨-, rfl⟩ | hold
  · rw [hnew] at ht
    cases ht
  · exact h j t hold ht

lemma LockOwned.set (h : LockOwned rt) (hi : rt.threads[i]? = some thread)
    (hthreads : rt'.threads = rt.threads.set i thread')
    (hlock : rt'.mutationLock = rt.mutationLock)
    (hin : thread'.holdsLock = true → thread.holdsLock = true) : LockOwned rt' := by
  intro j t hj ht
  rw [hthreads] at hj
  rw [hlock]
  rcases rt.getElem?_setThread hj with ⟨rfl, rfl⟩ | ⟨-, hold⟩
  · exact h j thread hi (hin ht)
  · exact h j t hold ht

lemma LockOwned.leave (thread' : Thread σ Snapshot Result) (h : LockOwned rt)
    (hi : rt.threads[i]? = some thread)
    (hin : thread.holdsLock = true) (hthreads : rt'.threads = rt.threads.set i thread')
    (hout : thread'.holdsLock = false) : LockOwned rt' := by
  intro j t hj ht
  rw [hthreads] at hj
  rcases rt.getElem?_setThread hj with ⟨-, rfl⟩ | ⟨hne, hold⟩
  · rw [hout] at ht
    cases ht
  · exact absurd (h.unique hold hi ht hin) hne

/-- **The lock has one owner.** -/
theorem lockOwned_step (h : LockOwned rt) (hs : N.step rt a = some rt') : LockOwned rt' := by
  cases effect_of_step hs with
  | tick ms => exact h.same rfl rfl
  | role request eligible grant =>
    have hstep := rt.authorityStep_setNodeRole (N := N) request eligible grant
    rw [hstep.rest]
    exact h.same rfl rfl
  | witness eligible grant hfree =>
    have hstep := rt.authorityStep_witnessTick (N := N) eligible grant
    rw [hstep.rest]
    exact h.same rfl rfl
  | admitted => exact h.spawn rfl
  | notAdmitted => exact h.spawn rfl
  | hit hi => exact h.set hi rfl rfl (by simp [Thread.holdsLock])
  | missed hi => exact h.set hi rfl rfl (by simp [Thread.holdsLock])
  | pump => exact h.spawn rfl
  | loopPass => exact h.spawn rfl
  | loopSkip => exact h
  | loopPump actions hi =>
    refine h.set hi rfl rfl ?_
    cases actions <;> simp [midiThread, Thread.holdsLock]
  | loopDue actions hi =>
    refine h.set hi rfl rfl ?_
    cases actions <;> simp [midiThread, Thread.holdsLock]
  | verified => exact h.spawn rfl
  | rejected => exact h.spawn rfl
  | accepted hi => exact h.set hi rfl rfl (by simp [Thread.holdsLock])
  | refused reason hi => exact h.set hi rfl rfl (by simp [Thread.holdsLock])
  | @locked i job hi hfree =>
    intro j t hj ht
    rcases rt.getElem?_setThread hj with ⟨rfl, -⟩ | ⟨-, hold⟩
    · rfl
    · rw [h j t hold ht] at hfree
      cases hfree
  | mutate persistFails hi =>
    rcases rt.threads_mutateBody (N := N) _ _ _ persistFails with ht | ⟨reason, ht⟩
    · exact h.leave _ hi rfl ht rfl
    · exact h.leave _ hi rfl ht rfl
  | midi persistFails hi =>
    rcases rt.threads_midiBody (N := N) _ _ _ persistFails with ht | ht | ⟨reason, ht⟩
    · exact h.leave _ hi rfl ht rfl
    · exact h.leave _ hi rfl ht rfl
    · exact h.leave _ hi rfl ht rfl
  | restore persistFails hi =>
    rcases rt.restoreBody_cases (N := N) _ _ with ⟨reason, heq⟩ | ⟨-, heq⟩ <;> rw [heq]
    · exact h.leave (.raised reason) hi rfl rfl rfl
    · exact h.set hi rfl rfl fun _ => rfl
  | saved hi => exact h.set hi rfl rfl fun _ => rfl
  | notSaved reason hi => exact h.leave (.raised reason) hi rfl rfl rfl
  | marked hi => exact h.leave .returned hi rfl rfl rfl
  | notMarked reason hi => exact h.leave (.raised reason) hi rfl rfl rfl

end

end StageForge
