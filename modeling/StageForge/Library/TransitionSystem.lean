import Mathlib.Data.List.Basic

/-!
# Runs of a labelled transition system

A system is a partial step function `step : σ → α → Option σ`: `step s a = some t` says that the
action `a` is enabled in `s` and leads to `t`. Everything here is over arbitrary state and action
types.
-/

namespace TransitionSystem

universe u v

variable {σ : Type u} {α : Type v}

def run (step : σ → α → Option σ) : σ → List α → Option σ
  | s, [] => some s
  | s, a :: as => (step s a).bind fun t => run step t as

def Always : σ → α → Prop := fun _ _ => True

/-- `as` is a run from `s` to `t`, every step of which was taken in a state that meets `ok`. -/
inductive Reaches (step : σ → α → Option σ) (ok : σ → α → Prop) (s : σ) : List α → σ → Prop
  | refl : Reaches step ok s [] s
  | snoc {as : List α} {t u : σ} {a : α} :
      Reaches step ok s as t → ok t a → step t a = some u → Reaches step ok s (as ++ [a]) u

variable {step : σ → α → Option σ} {ok ok' : σ → α → Prop} {s t u : σ} {as bs : List α}

/-- **The invariant rule.** -/
theorem Reaches.invariant {I : σ → Prop} (h0 : I s)
    (hstep : ∀ t a u, I t → ok t a → step t a = some u → I u)
    (h : Reaches step ok s as t) : I t := by
  induction h with
  | refl => exact h0
  | snoc _ hok hs ih => exact hstep _ _ _ ih hok hs

theorem Reaches.mono (hok : ∀ t a, ok t a → ok' t a) (h : Reaches step ok s as t) :
    Reaches step ok' s as t := by
  induction h with
  | refl => exact .refl
  | snoc _ ha hs ih => exact .snoc ih (hok _ _ ha) hs

/-- An invariant of the run may be read off in every state the run passes through. -/
theorem Reaches.assuming {I : σ → Prop} (h0 : I s)
    (hstep : ∀ t a u, I t → ok t a → step t a = some u → I u)
    (h : Reaches step ok s as t) : Reaches step (fun t a => ok t a ∧ I t) s as t := by
  induction h with
  | refl => exact .refl
  | snoc hr ha hs ih => exact .snoc ih ⟨ha, hr.invariant h0 hstep⟩ hs

theorem Reaches.append (h₁ : Reaches step ok s as t) (h₂ : Reaches step ok t bs u) :
    Reaches step ok s (as ++ bs) u := by
  induction h₂ with
  | refl => simpa using h₁
  | snoc _ ha hs ih =>
    rw [← List.append_assoc]
    exact .snoc ih ha hs

/-- What `run` computes, step by step and under a decided side condition, is a run. -/
theorem reaches_of_run [∀ s a, Decidable (ok s a)] : ∀ {as : List α} {s t : σ},
      run (fun s a => if ok s a then step s a else none) s as = some t → Reaches step ok s as t
  | [], s, t, h => by
    simp only [run, Option.some.injEq] at h
    subst h
    exact .refl
  | a :: as, s, t, h => by
    simp only [run, Option.bind_eq_some_iff] at h
    obtain ⟨m, hm, hrest⟩ := h
    split at hm
    · rename_i hok
      have hone : Reaches step ok s ([] ++ [a]) m := .snoc .refl hok hm
      exact hone.append (reaches_of_run hrest)
    · cases hm

theorem reaches_always_of_run :
    ∀ {as : List α} {s t : σ}, run step s as = some t → Reaches step Always s as t
  | [], s, t, h => by
    simp only [run, Option.some.injEq] at h
    subst h
    exact .refl
  | a :: as, s, t, h => by
    simp only [run, Option.bind_eq_some_iff] at h
    obtain ⟨m, hm, hrest⟩ := h
    have hone : Reaches step Always s ([] ++ [a]) m := .snoc .refl trivial hm
    exact hone.append (reaches_always_of_run hrest)

/-- A state that a schedule leads to, and what has been decided about it. -/
lemma reaches_always_of_any {P : σ → Prop} [DecidablePred P]
    (h : (run step s as).any (fun t => decide (P t)) = true) :
    ∃ t, Reaches step Always s as t ∧ P t := by
  cases hrun : run step s as with
  | none => simp [hrun] at h
  | some t =>
    rw [hrun, Option.any_some] at h
    exact ⟨t, reaches_always_of_run hrun, of_decide_eq_true h⟩

end TransitionSystem
