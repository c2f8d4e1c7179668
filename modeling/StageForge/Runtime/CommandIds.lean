import StageForge.Runtime.Authority

/-!
# Command ids are applied at most once

A client that does not hear back retries with the same command id, and `mutate` should give it the
result of the first execution instead of executing the command again.
-/

namespace StageForge

open TransitionSystem

variable {σ Snapshot Result : Type} {N : NodeSetup σ Snapshot Result}
  {rt rt' : Runtime σ Snapshot Result} {a : RuntimeAction σ Snapshot Result} {k : String}

/-! ## The law -/

/-- The execution was one for the id `k`, and it changed the show or gave a result. -/
def Execution.Effective (k : String) (e : Execution σ Result) : Prop :=
  e.commandId = some k ∧ (e.after ≠ e.before ∨ e.result.isSome = true)

/-- At most one execution for the id took effect, and every call that returned gave its result. -/
structure AppliedOnce (k : String) (rt : Runtime σ Snapshot Result) : Prop where
  once : rt.history.executions.Pairwise fun later earlier =>
    ¬ (later.Effective k ∧ earlier.Effective k)
  results : ∀ result, (some k, result) ∈ rt.history.returns →
    ∃ e ∈ rt.history.executions, e.commandId = some k ∧ e.result = some result

/-! ## The condition -/

/-- The call has missed the cache with the id `k` and has not executed. -/
def Thread.inFlight (k : String) : Thread σ Snapshot Result → Bool
  | .waiting (.mutate commandId _) => commandId = some k
  | .running (.mutate commandId _) => commandId = some k
  | _ => false

def RuntimeAction.looksUp (rt : Runtime σ Snapshot Result) :
    RuntimeAction σ Snapshot Result → Option String
  | .lookup i =>
    match rt.threads[i]? with
    | some (.mutateChecked commandId _) => Runtime.normalizeCommandId commandId
    | _ => none
  | _ => none

/-- The section of `mutate` that a step executes: its id, its operation, and whether persistence
fails. -/
def RuntimeAction.executes (rt : Runtime σ Snapshot Result) : RuntimeAction σ Snapshot Result →
      Option (Option String × (σ → σ × Except String Result) × Bool)
  | .run i persistFails =>
    match rt.threads[i]? with
    | some (.running (.mutate commandId operation)) => some (commandId, operation, persistFails)
    | _ => none
  | _ => none

/-- The section raises: the operation does, or persisting what it changed. -/
def Raises (N : NodeSetup σ Snapshot Result) (rt : Runtime σ Snapshot Result)
    (operation : σ → σ × Except String Result) (persistFails : Bool) : Bool :=
  match (operation rt.state).2 with
  | .error _ => true
  | .ok result => decide (N.api.resultRevision result ≠ N.api.revision rt.state) && persistFails

/-- A lookup that misses finds nobody else with the id between lookup and execution. -/
def NoOverlap (k : String) (rt : Runtime σ Snapshot Result) (a : RuntimeAction σ Snapshot Result) :
    Prop :=
  a.looksUp rt = some k → OrderedDict.get? rt.commandResults k = none →
    ∀ thread ∈ rt.threads, thread.inFlight k = false

/-- A section for the id that raises has not changed the show. -/
def NoLateFailure (N : NodeSetup σ Snapshot Result) (k : String) (rt : Runtime σ Snapshot Result)
    (a : RuntimeAction σ Snapshot Result) : Prop :=
  ∀ e ∈ a.executes rt, e.1 = some k → Raises N rt e.2.1 e.2.2 = true → (e.2.1 rt.state).1 = rt.state

/-- When another id is remembered, fewer than 256 different ids, itself included, have been
remembered or found since the id `k` was. -/
def FewOtherIds (k : String) (rt : Runtime σ Snapshot Result)
    (a : RuntimeAction σ Snapshot Result) : Prop :=
  ∀ e ∈ a.executes rt, ∀ j ∈ e.1, j ≠ k → k ∈ rt.history.uses →
    ((j :: rt.history.uses).takeWhile (· ≠ k)).dedup.length < Runtime.rememberedResults

/-- **The condition on runs.** -/
def CommandCondition (N : NodeSetup σ Snapshot Result) (k : String)
    (rt : Runtime σ Snapshot Result) (a : RuntimeAction σ Snapshot Result) : Prop :=
  NoOverlap k rt a ∧ NoLateFailure N k rt a ∧ FewOtherIds k rt a

instance (k : String) (rt : Runtime σ Snapshot Result) (a : RuntimeAction σ Snapshot Result) :
    Decidable (NoOverlap k rt a) :=
  inferInstanceAs (Decidable (_ → _ → ∀ thread ∈ rt.threads, _ = false))

instance [DecidableEq σ] (N : NodeSetup σ Snapshot Result) (k : String)
    (rt : Runtime σ Snapshot Result) (a : RuntimeAction σ Snapshot Result) :
    Decidable (NoLateFailure N k rt a) :=
  inferInstanceAs (Decidable (∀ e ∈ a.executes rt, _ → _ → _ = rt.state))

instance (k : String) (rt : Runtime σ Snapshot Result) (a : RuntimeAction σ Snapshot Result) :
    Decidable (FewOtherIds k rt a) :=
  inferInstanceAs (Decidable (∀ e ∈ a.executes rt, ∀ j ∈ e.1, _ → _ → _ < _))

instance [DecidableEq σ] (N : NodeSetup σ Snapshot Result) (k : String)
    (rt : Runtime σ Snapshot Result) (a : RuntimeAction σ Snapshot Result) :
    Decidable (CommandCondition N k rt a) :=
  inferInstanceAs (Decidable (_ ∧ _ ∧ _))

/-! ## What a step does for one id -/

/-- The parts of the state that command ids are about. -/
structure SameCommands (rt rt' : Runtime σ Snapshot Result) : Prop where
  results : rt'.commandResults = rt.commandResults
  executions : rt'.history.executions = rt.history.executions
  returns : rt'.history.returns = rt.history.returns
  uses : rt'.history.uses = rt.history.uses

/-- Nobody comes into flight with the id `k`. -/
def NoNewFlight (k : String) (rt rt' : Runtime σ Snapshot Result) : Prop :=
  ∀ (j : ℕ) (thread' : Thread σ Snapshot Result), rt'.threads[j]? = some thread' →
    thread'.inFlight k = true →
      ∃ thread : Thread σ Snapshot Result, rt.threads[j]? = some thread ∧ thread.inFlight k = true

section

variable {i : ℕ} {thread thread' : Thread σ Snapshot Result}

lemma noNewFlight_same (h : rt'.threads = rt.threads) : NoNewFlight k rt rt' :=
  fun _ thread' ht hf => ⟨thread', by rwa [h] at ht, hf⟩

lemma noNewFlight_spawn (hnew : thread.inFlight k = false) :
    NoNewFlight k rt (rt.spawn thread) := by
  intro j thread' ht hf
  rcases Runtime.getElem?_spawn ht with ⟨-, rfl⟩ | hold
  · rw [hnew] at hf
    cases hf
  · exact ⟨thread', hold, hf⟩

lemma noNewFlight_set (thread' : Thread σ Snapshot Result)
    (hthreads : rt'.threads = rt.threads.set i thread')
    (hi : rt.threads[i]? = some thread)
    (hadv : thread'.inFlight k = true → thread.inFlight k = true) : NoNewFlight k rt rt' := by
  intro j t ht hf
  rw [hthreads] at ht
  rcases rt.getElem?_setThread ht with ⟨rfl, rfl⟩ | ⟨-, hold⟩
  · exact ⟨thread, hi, hadv hf⟩
  · exact ⟨t, hold, hf⟩

end

/-- **The section of `mutate`**: it raises, and leaves what the operation left, or it remembers and
returns the result. -/
lemma Runtime.mutateBody_cases (rt : Runtime σ Snapshot Result) (i : ℕ) (id : Option String)
    (operation : σ → σ × Except String Result) (persistFails : Bool) :
    (Raises N rt operation persistFails = true ∧ ∃ reason,
      rt.mutateBody N i id operation persistFails = ({ rt with
           state := (operation rt.state).1
           history := { rt.history with
             executions := ⟨id, rt.state, (operation rt.state).1, none⟩ ::
               rt.history.executions } } : Runtime σ Snapshot Result).release i (.raised reason)) ∨
    (∃ result saved, (operation rt.state).2 = .ok result ∧
      rt.mutateBody N i id operation persistFails = (({ rt with
            state := (operation rt.state).1
            saved := saved
            history := { rt.history with
              executions := ⟨id, rt.state, (operation rt.state).1, some result⟩ ::
                rt.history.executions } } : Runtime σ Snapshot Result).remember id result).release i
          .returned) := by
  cases hout : (operation rt.state).2 with
  | error reason => exact Or.inl ⟨by simp [Raises, hout], reason, by simp [mutateBody, hout]⟩
  | ok result =>
    by_cases hchanged : N.api.resultRevision result = N.api.revision rt.state
    · exact Or.inr ⟨result, rt.saved, rfl, by simp [mutateBody, hout, hchanged]⟩
    · cases persistFails with
      | true =>
        exact Or.inl ⟨by simp [Raises, hout, hchanged], "persistence failed",
          by simp [mutateBody, hout, hchanged]⟩
      | false =>
        exact Or.inr ⟨result, (operation rt.state).1, rfl, by simp [mutateBody, hout, hchanged]⟩

lemma sameCommands_midiBody (rt : Runtime σ Snapshot Result) (i : ℕ) (origin : MidiOrigin)
    (actions : σ → σ × Except String Unit) (persistFails : Bool) :
    SameCommands rt (rt.midiBody N i origin actions persistFails) := by
  simp only [Runtime.midiBody]
  repeat' split
  all_goals exact ⟨rfl, rfl, rfl, rfl⟩

/-- What the steps of the node do for command ids: nothing, or a lookup, or an execution. -/
inductive CommandStep (N : NodeSetup σ Snapshot Result) (k : String)
    (rt : Runtime σ Snapshot Result) : RuntimeAction σ Snapshot Result → Runtime σ Snapshot Result →
      Prop
  | quiet {a : RuntimeAction σ Snapshot Result} {rt' : Runtime σ Snapshot Result} :
      SameCommands rt rt' → NoNewFlight k rt rt' → CommandStep N k rt a rt'
  | missed {i : ℕ} {commandId : Option String} {operation : σ → σ × Except String Result} :
      rt.threads[i]? = some (.mutateChecked commandId operation) →
      Runtime.normalizeCommandId commandId = some k →
      OrderedDict.get? rt.commandResults k = none →
      CommandStep N k rt (.lookup i) (rt.setThread i (.waiting (.mutate (some k) operation)))
  | hit {i : ℕ} {commandId : Option String} {operation : σ → σ × Except String Result}
      {j : String} {result : Result} :
      rt.threads[i]? = some (.mutateChecked commandId operation) →
      OrderedDict.get? rt.commandResults j = some result →
      CommandStep N k rt (.lookup i) ((rt.reuse j result).setThread i .returned)
  | executed {i : ℕ} {id : Option String} {operation : σ → σ × Except String Result}
      {persistFails : Bool} :
      rt.threads[i]? = some (.running (.mutate id operation)) →
      CommandStep N k rt (.run i persistFails) (rt.mutateBody N i id operation persistFails)

lemma Effect.commandStep (k : String) (h : Effect N rt a rt') : CommandStep N k rt a rt' := by
  cases h with
  | tick ms => exact .quiet ⟨rfl, rfl, rfl, rfl⟩ (noNewFlight_same rfl)
  | role request eligible grant =>
    have hstep := rt.authorityStep_setNodeRole (N := N) request eligible grant
    rw [hstep.rest]
    exact .quiet ⟨rfl, rfl, rfl, rfl⟩ (noNewFlight_same rfl)
  | witness eligible grant hfree =>
    have hstep := rt.authorityStep_witnessTick (N := N) eligible grant
    rw [hstep.rest]
    exact .quiet ⟨rfl, rfl, rfl, rfl⟩ (noNewFlight_same rfl)
  | admitted => exact .quiet ⟨rfl, rfl, rfl, rfl⟩ (noNewFlight_spawn rfl)
  | notAdmitted => exact .quiet ⟨rfl, rfl, rfl, rfl⟩ (noNewFlight_spawn rfl)
  | hit hi hk hr => exact .hit hi hr
  | @missed i commandId operation hi hmiss =>
    by_cases hk : Runtime.normalizeCommandId commandId = some k
    · rw [hk]
      exact .missed hi hk (hmiss k hk)
    · refine .quiet ⟨rfl, rfl, rfl, rfl⟩ (noNewFlight_set _ rfl hi fun hf => ?_)
      exact absurd (by simpa [Thread.inFlight] using hf) hk
  | pump => exact .quiet ⟨rfl, rfl, rfl, rfl⟩ (noNewFlight_spawn rfl)
  | loopPass => exact .quiet ⟨rfl, rfl, rfl, rfl⟩ (noNewFlight_spawn rfl)
  | loopSkip => exact .quiet ⟨rfl, rfl, rfl, rfl⟩ (noNewFlight_same rfl)
  | loopPump actions hi =>
    refine .quiet ⟨rfl, rfl, rfl, rfl⟩ (noNewFlight_set _ rfl hi ?_)
    cases actions <;> simp [midiThread, Thread.inFlight]
  | loopDue actions hi =>
    refine .quiet ⟨rfl, rfl, rfl, rfl⟩ (noNewFlight_set _ rfl hi ?_)
    cases actions <;> simp [midiThread, Thread.inFlight]
  | verified => exact .quiet ⟨rfl, rfl, rfl, rfl⟩ (noNewFlight_spawn rfl)
  | rejected => exact .quiet ⟨rfl, rfl, rfl, rfl⟩ (noNewFlight_spawn rfl)
  | accepted hi hok =>
    exact .quiet ⟨rfl, rfl, rfl, rfl⟩ (noNewFlight_set _ rfl hi (by simp [Thread.inFlight]))
  | refused reason hi =>
    exact .quiet ⟨rfl, rfl, rfl, rfl⟩ (noNewFlight_set _ rfl hi (by simp [Thread.inFlight]))
  | @locked i job hi hfree =>
    refine .quiet ⟨rfl, rfl, rfl, rfl⟩ (noNewFlight_set _ rfl hi fun hf => ?_)
    cases job <;> exact hf
  | mutate persistFails hi => exact .executed hi
  | midi persistFails hi =>
    refine .quiet (sameCommands_midiBody _ _ _ _ _) ?_
    rcases rt.threads_midiBody (N := N) _ _ _ persistFails with ht | ht | ⟨reason, ht⟩
    · exact noNewFlight_set _ ht hi (by simp [Thread.inFlight])
    · exact noNewFlight_set _ ht hi (by simp [Thread.inFlight])
    · exact noNewFlight_set _ ht hi (by simp [Thread.inFlight])
  | restore persistFails hi =>
    rcases rt.restoreBody_cases (N := N) _ _ with ⟨reason, heq⟩ | ⟨-, heq⟩ <;> rw [heq]
    · exact .quiet ⟨rfl, rfl, rfl, rfl⟩ (noNewFlight_set _ rfl hi (by simp [Thread.inFlight]))
    · exact .quiet ⟨rfl, rfl, rfl, rfl⟩ (noNewFlight_set _ rfl hi (by simp [Thread.inFlight]))
  | saved hi =>
    exact .quiet ⟨rfl, rfl, rfl, rfl⟩ (noNewFlight_set _ rfl hi (by simp [Thread.inFlight]))
  | notSaved reason hi =>
    exact .quiet ⟨rfl, rfl, rfl, rfl⟩ (noNewFlight_set _ rfl hi (by simp [Thread.inFlight]))
  | marked hi =>
    exact .quiet ⟨rfl, rfl, rfl, rfl⟩ (noNewFlight_set _ rfl hi (by simp [Thread.inFlight]))
  | notMarked reason hi =>
    exact .quiet ⟨rfl, rfl, rfl, rfl⟩ (noNewFlight_set _ rfl hi (by simp [Thread.inFlight]))

/-! ## The invariant -/

/-- No execution for the id has taken effect, and nothing is remembered of it. -/
structure Untouched (k : String) (rt : Runtime σ Snapshot Result) : Prop where
  ineffective : ∀ e ∈ rt.history.executions, ¬ e.Effective k
  unknown : OrderedDict.get? rt.commandResults k = none
  unreturned : ∀ result, (some k, result) ∉ rt.history.returns
  unused : k ∉ rt.history.uses

/-- The one execution for the id gave this result, which is in the cache, and no call with the id
is going to execute. -/
structure Settled (k : String) (result : Result) (rt : Runtime σ Snapshot Result) : Prop where
  remembered : OrderedDict.Recent rt.commandResults k result (rt.history.uses.takeWhile (· ≠ k))
  used : k ∈ rt.history.uses
  grounded : ∀ thread ∈ rt.threads, thread.inFlight k = false
  once : rt.history.executions.Pairwise fun later earlier =>
    ¬ (later.Effective k ∧ earlier.Effective k)
  executed : ∃ e ∈ rt.history.executions, e.commandId = some k ∧ e.result = some result
  returned : ∀ other, (some k, other) ∈ rt.history.returns → other = result

/-- **The invariant for one id.** -/
structure CommandInv (k : String) (rt : Runtime σ Snapshot Result) : Prop where
  nodup : (rt.commandResults.map (·.1)).Nodup
  alone : ∀ (i j : ℕ) (t t' : Thread σ Snapshot Result), rt.threads[i]? = some t →
    rt.threads[j]? = some t' → t.inFlight k = true → t'.inFlight k = true → i = j
  phase : Untouched k rt ∨ ∃ result, Settled k result rt

lemma CommandInv.appliedOnce (h : CommandInv k rt) : AppliedOnce k rt := by
  rcases h.phase with hfresh | ⟨result, hdone⟩
  · refine ⟨List.pairwise_of_forall_mem_list fun later hlater _ _ hboth => ?_, ?_⟩
    · exact hfresh.ineffective later hlater hboth.1
    · intro result hmem
      exact absurd hmem (hfresh.unreturned result)
  · refine ⟨hdone.once, fun other hmem => ?_⟩
    rw [hdone.returned other hmem]
    exact hdone.executed

section

variable {i : ℕ} {thread thread' : Thread σ Snapshot Result} {result : Result}

lemma NoNewFlight.alone (hflight : NoNewFlight k rt rt') (h : CommandInv k rt) :
    ∀ (i j : ℕ) (t t' : Thread σ Snapshot Result), rt'.threads[i]? = some t →
      rt'.threads[j]? = some t' → t.inFlight k = true → t'.inFlight k = true → i = j := by
  intro i j t t' hi hj ht ht'
  obtain ⟨t₀, hi₀, ht₀⟩ := hflight i t hi ht
  obtain ⟨t₁, hj₁, ht₁⟩ := hflight j t' hj ht'
  exact h.alone i j t₀ t₁ hi₀ hj₁ ht₀ ht₁

lemma NoNewFlight.grounded (hflight : NoNewFlight k rt rt')
    (h : ∀ thread ∈ rt.threads, thread.inFlight k = false) :
    ∀ thread ∈ rt'.threads, thread.inFlight k = false := by
  intro thread hmem
  by_contra hf
  rw [Bool.not_eq_false] at hf
  obtain ⟨j, hj⟩ := List.mem_iff_getElem?.mp hmem
  obtain ⟨t, ht, hft⟩ := hflight j thread hj hf
  rw [h t (List.mem_of_getElem? ht)] at hft
  cases hft

lemma CommandInv.quiet (h : CommandInv k rt) (hsame : SameCommands rt rt')
    (hflight : NoNewFlight k rt rt') : CommandInv k rt' := by
  refine ⟨by rw [hsame.results]; exact h.nodup, hflight.alone h, ?_⟩
  rcases h.phase with hfresh | ⟨result, hdone⟩
  · refine Or.inl ⟨?_, ?_, ?_, ?_⟩
    · rw [hsame.executions]; exact hfresh.ineffective
    · rw [hsame.results]; exact hfresh.unknown
    · rw [hsame.returns]; exact hfresh.unreturned
    · rw [hsame.uses]; exact hfresh.unused
  · refine Or.inr ⟨result, ?_, ?_, hflight.grounded hdone.grounded, ?_, ?_, ?_⟩
    · rw [hsame.results, hsame.uses]; exact hdone.remembered
    · rw [hsame.uses]; exact hdone.used
    · rw [hsame.executions]; exact hdone.once
    · rw [hsame.executions]; exact hdone.executed
    · rw [hsame.returns]; exact hdone.returned

open OrderedDict

lemma CommandInv.missed (h : CommandInv k rt) (hmiss : get? rt.commandResults k = none)
    (hfree : ∀ thread ∈ rt.threads, thread.inFlight k = false) :
    CommandInv k (rt.setThread i thread) := by
  refine ⟨h.nodup, ?_, ?_⟩
  · intro j j' t t' hj hj' ht ht'
    have honly : ∀ (j : ℕ) (t : Thread σ Snapshot Result),
        (rt.setThread i thread).threads[j]? = some t → t.inFlight k = true → j = i := by
      intro j t hj ht
      rcases rt.getElem?_setThread hj with ⟨rfl, -⟩ | ⟨-, hold⟩
      · rfl
      · rw [hfree t (List.mem_of_getElem? hold)] at ht
        cases ht
    rw [honly j t hj ht, honly j' t' hj' ht']
  · rcases h.phase with hfresh | ⟨result, hdone⟩
    · exact Or.inl ⟨hfresh.ineffective, hfresh.unknown, hfresh.unreturned, hfresh.unused⟩
    · rw [hdone.remembered.get?] at hmiss
      cases hmiss

lemma CommandInv.setThread (h : CommandInv k rt) (hthread : rt.threads[i]? = some thread)
    (hnext : thread'.inFlight k = false) : CommandInv k (rt.setThread i thread') :=
  h.quiet ⟨rfl, rfl, rfl, rfl⟩ (noNewFlight_set _ rfl hthread (by simp [hnext]))

lemma CommandInv.release (h : CommandInv k rt) (hthread : rt.threads[i]? = some thread)
    (hnext : thread'.inFlight k = false) : CommandInv k (rt.release i thread') :=
  h.quiet ⟨rfl, rfl, rfl, rfl⟩ (noNewFlight_set _ rfl hthread (by simp [hnext]))

lemma CommandInv.addIneffective (e : Execution σ Result) (h : CommandInv k rt) (state saved : σ)
    (he : ¬ e.Effective k) :
    CommandInv k { rt with
      state := state
      saved := saved
      history := { rt.history with executions := e :: rt.history.executions } } := by
  refine ⟨h.nodup, h.alone, ?_⟩
  rcases h.phase with hfresh | ⟨result, hdone⟩
  · refine Or.inl ⟨?_, hfresh.unknown, hfresh.unreturned, hfresh.unused⟩
    intro e' hmem
    rcases List.mem_cons.mp hmem with rfl | hmem
    · exact he
    · exact hfresh.ineffective e' hmem
  · obtain ⟨e', hmem, hid, hresult⟩ := hdone.executed
    refine Or.inr ⟨result, hdone.remembered, hdone.used, hdone.grounded, ?_,
      ⟨e', List.mem_cons_of_mem _ hmem, hid, hresult⟩, hdone.returned⟩
    exact List.pairwise_cons.mpr ⟨fun _ _ hboth => he hboth.1, hdone.once⟩

/-- A result is returned for another id, whose entry becomes the most recent one of a dictionary
that still has what was recent. -/
lemma CommandInv.useOther {j : String} {d : List (String × Result)} (h : CommandInv k rt)
    (hj : j ≠ k) (hnodup : (d.map (·.1)).Nodup)
    (hunknown : get? rt.commandResults k = none → get? d k = none)
    (hrecent : ∀ r, k ∈ rt.history.uses →
      OrderedDict.Recent rt.commandResults k r (rt.history.uses.takeWhile (· ≠ k)) →
        OrderedDict.Recent d k r (j :: rt.history.uses.takeWhile (· ≠ k))) :
    CommandInv k { rt with
      commandResults := d
      history := { rt.history with
        returns := (some j, result) :: rt.history.returns
        uses := j :: rt.history.uses } } := by
  have hreturns : ∀ other, (some k, other) ∈ (some j, result) :: rt.history.returns →
      (some k, other) ∈ rt.history.returns := by
    intro other hmem
    rcases List.mem_cons.mp hmem with heq | hmem
    · simp only [Prod.mk.injEq, Option.some.injEq] at heq
      exact absurd heq.1.symm hj
    · exact hmem
  refine ⟨hnodup, h.alone, ?_⟩
  rcases h.phase with hfresh | ⟨result', hdone⟩
  · refine Or.inl ⟨hfresh.ineffective, hunknown hfresh.unknown, ?_, ?_⟩
    · exact fun other hmem => hfresh.unreturned other (hreturns other hmem)
    · simp only [List.mem_cons, not_or]
      exact ⟨Ne.symm hj, hfresh.unused⟩
  · refine Or.inr ⟨result', ?_, List.mem_cons_of_mem _ hdone.used, hdone.grounded, hdone.once,
      hdone.executed, fun other hmem => hdone.returned other (hreturns other hmem)⟩
    simpa [hj] using hrecent result' hdone.used hdone.remembered

lemma CommandInv.reuse {j : String} (h : CommandInv k rt)
    (hfound : get? rt.commandResults j = some result) :
    CommandInv k (rt.reuse j result) := by
  by_cases hj : j = k
  · subst hj
    rcases h.phase with hfresh | ⟨result', hdone⟩
    · rw [hfresh.unknown] at hfound
      cases hfound
    · have hresult : result' = result := by
        have hget := hdone.remembered.get?
        rw [hfound, Option.some.injEq] at hget
        exact hget.symm
      subst hresult
      refine ⟨nodup_put h.nodup, h.alone, Or.inr ⟨result', ?_, List.mem_cons_self,
        hdone.grounded, hdone.once, hdone.executed, ?_⟩⟩
      · have hrecent := OrderedDict.Recent.of_put (k := j) (v := result') h.nodup
        simpa [Runtime.reuse] using hrecent
      · intro other hmem
        rcases List.mem_cons.mp hmem with heq | hmem
        · simp only [Prod.mk.injEq] at heq
          exact heq.2
        · exact hdone.returned other hmem
  · refine h.useOther hj (nodup_put h.nodup) ?_ fun r _ hrecent => hrecent.put hj
    exact fun hunknown => (get?_put_ne (Ne.symm hj)).trans hunknown

lemma CommandInv.rememberOther {id : Option String} (h : CommandInv k rt) (result : Result)
    (hid : id ≠ some k)
    (hfew : ∀ j ∈ id, j ≠ k → k ∈ rt.history.uses →
      ((j :: rt.history.uses).takeWhile (· ≠ k)).dedup.length < Runtime.rememberedResults) :
    CommandInv k (rt.remember id result) := by
  cases id with
  | none =>
    have hreturns : ∀ other, (some k, other) ∈ (none, result) :: rt.history.returns →
        (some k, other) ∈ rt.history.returns := by
      intro other hmem
      simpa using hmem
    refine ⟨h.nodup, h.alone, ?_⟩
    rcases h.phase with hfresh | ⟨result', hdone⟩
    · exact Or.inl ⟨hfresh.ineffective, hfresh.unknown,
        fun other hmem => hfresh.unreturned other (hreturns other hmem), hfresh.unused⟩
    · exact Or.inr ⟨result', hdone.remembered, hdone.used, hdone.grounded, hdone.once,
        hdone.executed, fun other hmem => hdone.returned other (hreturns other hmem)⟩
  | some j =>
    have hj : j ≠ k := fun heq => hid (by rw [heq])
    refine h.useOther hj (nodup_trim (nodup_put h.nodup)) ?_ ?_
    · intro hunknown
      refine get?_trim_of_none ?_
      rw [get?_put_ne (Ne.symm hj)]
      exact hunknown
    · -- the entry of `k` moves towards the front, and is not dropped
      intro r hused hrecent
      have hlimit := hfew j rfl hj hused
      have huses : (j :: rt.history.uses).takeWhile (· ≠ k)
          = j :: rt.history.uses.takeWhile (· ≠ k) := by
        simp [hj]
      rw [huses] at hlimit
      exact (hrecent.put hj).trim hlimit

/-- **The one execution.** The call was in flight, so nothing had taken effect before. -/
lemma CommandInv.executed {e : Execution σ Result} {state saved : σ} (h : CommandInv k rt)
    (hthread : rt.threads[i]? = some thread) (hflying : thread.inFlight k = true)
    (hid : e.commandId = some k) (hresult : e.result = some result) :
    CommandInv k ((({ rt with
      state := state
      saved := saved
      history := { rt.history with executions := e :: rt.history.executions } } :
        Runtime σ Snapshot Result).remember (some k) result).release i .returned) := by
  set rt₁ : Runtime σ Snapshot Result := { rt with
    state := state
    saved := saved
    history := { rt.history with executions := e :: rt.history.executions } }
  have hcache : ((rt₁.remember (some k) result).release i .returned).commandResults =
      trim Runtime.rememberedResults (put rt.commandResults k result) :=
    rt₁.commandResults_remember k result
  have hthreads : ((rt₁.remember (some k) result).release i .returned).threads
      = rt.threads.set i .returned := by
    simp [Runtime.release, Runtime.setThread, rt₁]
  have hfresh : Untouched k rt := by
    rcases h.phase with hfresh | ⟨result', hdone⟩
    · exact hfresh
    · rw [hdone.grounded thread (List.mem_of_getElem? hthread)] at hflying
      cases hflying
  refine ⟨?_, (noNewFlight_set .returned hthreads hthread
    (by simp [Thread.inFlight])).alone h, Or.inr ⟨result, ?_⟩⟩
  · rw [hcache]
    exact nodup_trim (nodup_put h.nodup)
  refine ⟨?_, List.mem_cons_self, ?_, ?_, ⟨e, List.mem_cons_self, hid, hresult⟩, ?_⟩
  · have hrecent := OrderedDict.Recent.of_put (k := k) (v := result) h.nodup
    have huses : (k :: rt.history.uses).takeWhile (· ≠ k) = [] := by simp
    rw [← huses] at hrecent
    rw [hcache]
    exact hrecent.trim (by rw [huses]; simp [Runtime.rememberedResults])
  · -- nobody else was in flight, and this call has returned
    intro t hmem
    rw [hthreads] at hmem
    obtain ⟨j, hj⟩ := List.mem_iff_getElem?.mp hmem
    by_contra hf
    rw [Bool.not_eq_false] at hf
    rcases rt.getElem?_setThread hj with ⟨-, rfl⟩ | ⟨hne, hold⟩
    · simp [Thread.inFlight] at hf
    · exact hne (h.alone j i t thread hold hthread hf hflying)
  · refine List.pairwise_cons.mpr ⟨fun earlier hmem hboth => ?_, ?_⟩
    · exact hfresh.ineffective earlier hmem hboth.2
    · exact List.pairwise_of_forall_mem_list fun later hlater _ _ hboth =>
        hfresh.ineffective later hlater hboth.1
  · intro other hmem
    rcases List.mem_cons.mp hmem with heq | hmem
    · simp only [Prod.mk.injEq] at heq
      exact heq.2
    · exact absurd hmem (hfresh.unreturned other)

/-- **The step lemma.** -/
theorem commandInv_step (h : CommandInv k rt) (hok : CommandCondition N k rt a)
    (hs : N.step rt a = some rt') : CommandInv k rt' := by
  obtain ⟨hoverlap, hlate, hfew⟩ := hok
  cases (effect_of_step hs).commandStep k with
  | quiet hsame hflight => exact h.quiet hsame hflight
  | missed hi hk hmiss =>
    exact h.missed hmiss (hoverlap (by simp [RuntimeAction.looksUp, hi, hk]) hmiss)
  | hit hi hfound => exact (h.reuse hfound).setThread hi rfl
  | @executed i id operation persistFails hi =>
    have hexecutes : (id, operation, persistFails) ∈
        (RuntimeAction.run i persistFails : RuntimeAction σ Snapshot Result).executes rt := by
      simp [RuntimeAction.executes, hi]
    rcases rt.mutateBody_cases (N := N) i id operation persistFails with
      ⟨hraises, reason, heq⟩ | ⟨result, saved, -, heq⟩
    · rw [heq]
      refine (h.addIneffective _ _ _ fun heff => ?_).release hi rfl
      rcases heff.2 with hchanged | hreturned
      · exact hchanged (hlate _ hexecutes heff.1 hraises)
      · simp at hreturned
    · rw [heq]
      by_cases hid : id = some k
      · subst hid
        exact h.executed hi (by simp [Thread.inFlight]) rfl rfl
      · have hother := (h.addIneffective
          ⟨id, rt.state, (operation rt.state).1, some result⟩ (operation rt.state).1 saved
          fun heff => hid heff.1).rememberOther result hid fun j hj => hfew _ hexecutes j hj
        exact hother.release (by simpa using hi) rfl

end

/-- **Command ids are applied at most once.** In every run that meets the condition, at most one
execution for the id takes effect, and every call that returns gives its result. -/
theorem command_applied_once {now : Int} {replication : ReplicationTracker}
    {witness : WitnessQuorumClient} {state : σ} {as : List (RuntimeAction σ Snapshot Result)}
    (h : Reaches N.step (CommandCondition N k) (.start now replication witness state) as rt) :
    AppliedOnce k rt := by
  have hstart :
      CommandInv k (.start now replication witness state : Runtime σ Snapshot Result) := by
    refine ⟨?_, ?_, Or.inl ⟨?_, rfl, ?_, ?_⟩⟩ <;> simp [Runtime.start]
  exact (h.invariant hstart fun _ _ _ hinv hok hs => commandInv_step hinv hok hs).appliedOnce

/-! ## A retry, an overlap and a full disk -/

/-- A command, and a retry after it has returned. -/
def retriedCommand : List (RuntimeAction Int Int Int) :=
  [.callMutate (some "cmd-1") bump, .lookup 0, .lock 0, .run 0 false,
    .callMutate (some " cmd-1 ") bump, .lookup 1]

theorem command_applied_once_retriedCommand :
    ∃ rt, Reaches witnessedNode.step (CommandCondition witnessedNode "cmd-1") leasedPrimary
        retriedCommand rt ∧
      (rt.state = 2 ∧ rt.history.returns = [(some "cmd-1", 2), (some "cmd-1", 2)]) ∧
      AppliedOnce "cmd-1" rt := by
  have hrun : (run (fun rt a => if CommandCondition witnessedNode "cmd-1" rt a
      then witnessedNode.step rt a else none) leasedPrimary retriedCommand).any (fun rt =>
        rt.state = 2 ∧ rt.history.returns = [(some "cmd-1", 2), (some "cmd-1", 2)]) = true := by
    decide +kernel
  obtain ⟨rt, hrt, hresult⟩ := (Option.any_eq_true _ _).mp hrun
  exact ⟨rt, reaches_of_run hrt, of_decide_eq_true hresult,
    command_applied_once (reaches_of_run hrt)⟩

/-- Two calls with one id look it up before either has executed. -/
def overlappingCommands : List (RuntimeAction Int Int Int) :=
  [.callMutate (some "cmd-1") bump, .callMutate (some "cmd-1") bump, .lookup 0, .lookup 1,
    .lock 0, .run 0 false, .lock 1, .run 1 false]

/-- The disk is full when the first call persists its change; the client retries. -/
def failedPersistence : List (RuntimeAction Int Int Int) :=
  [.callMutate (some "cmd-1") bump, .lookup 0, .lock 0, .run 0 true,
    .callMutate (some "cmd-1") bump, .lookup 1, .lock 1, .run 1 false]

lemma not_appliedOnce_of_run {as : List (RuntimeAction Int Int Int)}
    (hrun : (run witnessedNode.step leasedPrimary as).any (fun rt =>
      rt.history.executions.map (fun e => (e.commandId, e.before, e.after))
        = [(some "cmd-1", 2, 3), (some "cmd-1", 1, 2)]) = true) :
    ∃ rt, Reaches witnessedNode.step Always leasedPrimary as rt ∧ ¬ AppliedOnce "cmd-1" rt := by
  obtain ⟨rt, hrt, hexecutions⟩ := (Option.any_eq_true _ _).mp hrun
  refine ⟨rt, reaches_always_of_run hrt, fun honce => ?_⟩
  have hshape := of_decide_eq_true hexecutions
  obtain ⟨later, rest, hlist, hlater, hrest⟩ := List.map_eq_cons_iff.mp hshape
  obtain ⟨earlier, rest', rfl, hearlier, -⟩ := List.map_eq_cons_iff.mp hrest
  simp only [Prod.mk.injEq] at hlater hearlier
  obtain ⟨hid, hbefore, hafter⟩ := hlater
  obtain ⟨hid', hbefore', hafter'⟩ := hearlier
  have hpair := honce.once
  rw [hlist] at hpair
  refine (List.pairwise_cons.mp hpair).1 earlier List.mem_cons_self
    ⟨⟨hid, Or.inl ?_⟩, hid', Or.inl ?_⟩
  · rw [hbefore, hafter]; decide
  · rw [hbefore', hafter']; decide

/-- **A command is applied twice**, by two calls that overlap and by a retry after a full disk. -/
theorem command_applied_twice :
    (∃ rt, Reaches witnessedNode.step Always leasedPrimary overlappingCommands rt ∧
      ¬ AppliedOnce "cmd-1" rt) ∧
    ∃ rt, Reaches witnessedNode.step Always leasedPrimary failedPersistence rt ∧
      ¬ AppliedOnce "cmd-1" rt :=
  ⟨not_appliedOnce_of_run (by decide +kernel), not_appliedOnce_of_run (by decide +kernel)⟩

end StageForge
