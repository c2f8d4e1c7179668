import StageForge.Runtime.Authority

/-!
# The mutation lock

Calls, roles and leases may change in any order: the lock has one owner at a time, which stands inside
its section, and whoever waits for the lock gets it once the owner has gone on to the end.
-/

namespace StageForge

open TransitionSystem

variable {σ Snapshot Result : Type} {N : NodeSetup σ Snapshot Result}
  {rt rt' : Runtime σ Snapshot Result} {i j : ℕ} {a : RuntimeAction σ Snapshot Result}
  {thread thread' : Thread σ Snapshot Result}

/-! ## The owner -/

def LockHeld (rt : Runtime σ Snapshot Result) : Prop :=
  ∀ i, rt.mutationLock = some i → ∃ thread, rt.threads[i]? = some thread ∧ thread.holdsLock = true

lemma LockHeld.of_free (h : rt.mutationLock = none) : LockHeld rt := fun _ hi => by simp [h] at hi

lemma LockHeld.spawn (h : LockHeld rt) (thread : Thread σ Snapshot Result) :
    LockHeld (rt.spawn thread) := by
  intro i hi
  obtain ⟨owner, howner, hholds⟩ := h i hi
  refine ⟨owner, ?_, hholds⟩
  exact (List.getElem?_append_left (List.getElem?_eq_some_iff.mp howner).1).trans howner

lemma LockHeld.set (h : LockHeld rt) (hi : rt.threads[i]? = some thread)
    (hthreads : rt'.threads = rt.threads.set i thread') (hlock : rt'.mutationLock = rt.mutationLock)
    (hstays : thread.holdsLock = true → thread'.holdsLock = true) : LockHeld rt' := by
  intro j hj
  obtain ⟨owner, howner, hholds⟩ := h j (hlock ▸ hj)
  rw [hthreads]
  by_cases heq : i = j
  · subst heq
    obtain rfl := Option.some.inj (hi.symm.trans howner)
    exact ⟨thread', List.getElem?_set_self (List.getElem?_eq_some_iff.mp hi).1, hstays hholds⟩
  · exact ⟨owner, (List.getElem?_set_ne heq).trans howner, hholds⟩

lemma Runtime.mutateBody_free (rt : Runtime σ Snapshot Result) (i : ℕ) (id : Option String)
    (operation : σ → σ × Except String Result) (persistFails : Bool) :
    (rt.mutateBody N i id operation persistFails).mutationLock = none := by
  unfold mutateBody
  dsimp only
  split
  · rfl
  · split_ifs <;> rfl

lemma Runtime.midiBody_free (rt : Runtime σ Snapshot Result) (i : ℕ) (origin : MidiOrigin)
    (actions : σ → σ × Except String Unit) (persistFails : Bool) :
    (rt.midiBody N i origin actions persistFails).mutationLock = none := by
  unfold midiBody
  dsimp only
  split
  · rfl
  · split_ifs <;> rfl

/-- **The owner of the lock stands inside its section.** -/
lemma lockHeld_step (h : LockHeld rt) (hs : N.step rt a = some rt') : LockHeld rt' := by
  cases effect_of_step hs with
  | tick => exact h
  | role request eligible grant =>
    rw [(rt.authorityStep_setNodeRole (N := N) request eligible grant).rest]
    exact h
  | witness eligible grant =>
    rw [(rt.authorityStep_witnessTick (N := N) eligible grant).rest]
    exact h
  | admitted => exact h.spawn _
  | notAdmitted => exact h.spawn _
  | hit hi => exact h.set hi rfl rfl (by simp [Thread.holdsLock])
  | missed hi => exact h.set hi rfl rfl (by simp [Thread.holdsLock])
  | pump => exact h.spawn _
  | loopPass => exact h.spawn _
  | loopSkip => exact h
  | loopPump actions hi => exact h.set hi rfl rfl (by simp [Thread.holdsLock])
  | loopDue actions hi => exact h.set hi rfl rfl (by simp [Thread.holdsLock])
  | verified => exact h.spawn _
  | rejected => exact h.spawn _
  | accepted hi => exact h.set hi rfl rfl (by simp [Thread.holdsLock])
  | refused reason hi => exact h.set hi rfl rfl (by simp [Thread.holdsLock])
  | locked hi =>
    intro j hj
    cases hj
    exact ⟨_, List.getElem?_set_self (List.getElem?_eq_some_iff.mp hi).1, rfl⟩
  | mutate persistFails => exact .of_free (rt.mutateBody_free _ _ _ persistFails)
  | midi persistFails => exact .of_free (rt.midiBody_free _ _ _ persistFails)
  | restore persistFails hi =>
    rcases rt.restoreBody_cases (N := N) _ _ with ⟨reason, heq⟩ | ⟨-, heq⟩ <;> rw [heq]
    · exact .of_free rfl
    · exact h.set hi rfl rfl fun _ => rfl
  | saved hi => exact h.set hi rfl rfl fun _ => rfl
  | notSaved => exact .of_free rfl
  | marked => exact .of_free rfl
  | notMarked => exact .of_free rfl

/-! ## Progress -/

/-- The thread can go on by itself until the lock is free, and nobody else has moved. -/
def CanRelease (N : NodeSetup σ Snapshot Result) (i : ℕ) (rt : Runtime σ Snapshot Result) : Prop :=
  ∃ actions rt', Reaches N.step Always rt actions rt' ∧ rt'.mutationLock = none ∧
    ∀ j, j ≠ i → rt'.threads[j]? = rt.threads[j]?

lemma CanRelease.of_step (hs : N.step rt a = some rt') (hthreads : rt'.threads = rt.threads.set i thread)
    (h : rt'.mutationLock = none ∨ CanRelease N i rt') : CanRelease N i rt := by
  have hothers : ∀ j, j ≠ i → rt'.threads[j]? = rt.threads[j]? := fun j hj => by
    rw [hthreads, List.getElem?_set_ne (Ne.symm hj)]
  have hone : Reaches N.step Always rt ([] ++ [a]) rt' := .snoc .refl trivial hs
  rcases h with hfree | ⟨actions, u, hrun, hfree, hsame⟩
  · exact ⟨_, rt', hone, hfree, hothers⟩
  · exact ⟨_, u, hone.append hrun, hfree, fun j hj => (hsame j hj).trans (hothers j hj)⟩

lemma canRelease_of_holds (hi : rt.threads[i]? = some thread) (h : thread.holdsLock = true) :
    CanRelease N i rt := by
  have hsaved : ∀ {rt : Runtime σ Snapshot Result} {envelope : Envelope Snapshot},
      rt.threads[i]? = some (.applySaved envelope) → CanRelease N i rt := fun hi =>
    .of_step (a := .mark i false) (by simp [NodeSetup.step, hi]; rfl) rfl (.inl rfl)
  have hself : ∀ {rt : Runtime σ Snapshot Result} {t t' : Thread σ Snapshot Result},
      rt.threads[i]? = some t → (rt.threads.set i t')[i]? = some t' := fun hi =>
    List.getElem?_set_self (List.getElem?_eq_some_iff.mp hi).1
  have hrestored : ∀ {rt : Runtime σ Snapshot Result} {envelope : Envelope Snapshot},
      rt.threads[i]? = some (.applyRestored envelope) → CanRelease N i rt := fun hi =>
    .of_step (a := .save i false) (by simp [NodeSetup.step, hi]; rfl) rfl (.inr (hsaved (hself hi)))
  cases thread with
  | applySaved envelope => exact hsaved hi
  | applyRestored envelope => exact hrestored hi
  | running job =>
    cases job with
    | mutate id operation =>
      have hstep : N.step rt (.run i false) = some (rt.mutateBody N i id operation false) := by
        simp [NodeSetup.step, hi]
      rcases rt.threads_mutateBody (N := N) i id operation false with ht | ⟨reason, ht⟩
      · exact .of_step hstep ht (.inl (rt.mutateBody_free _ _ _ _))
      · exact .of_step hstep ht (.inl (rt.mutateBody_free _ _ _ _))
    | midi origin actions =>
      have hstep : N.step rt (.run i false) = some (rt.midiBody N i origin actions false) := by
        simp [NodeSetup.step, hi]
      rcases rt.threads_midiBody (N := N) i origin actions false with ht | ht | ⟨reason, ht⟩
      · exact .of_step hstep ht (.inl (rt.midiBody_free _ _ _ _))
      · exact .of_step hstep ht (.inl (rt.midiBody_free _ _ _ _))
      · exact .of_step hstep ht (.inl (rt.midiBody_free _ _ _ _))
    | apply envelope =>
      have hstep : N.step rt (.run i false) = some (rt.restoreBody N i envelope) := by
        simp [NodeSetup.step, hi]
      rcases rt.restoreBody_cases (N := N) i envelope with ⟨reason, heq⟩ | ⟨-, heq⟩ <;> rw [heq] at hstep
      · exact .of_step hstep rfl (.inl rfl)
      · exact .of_step hstep rfl (.inr (hrestored (hself hi)))
  | _ => cases h

end StageForge
