import Mathlib.Data.List.Basic

/-!
# What a machine puts out

A machine is a total step function `step : σ → α → σ × List β`: a call `a` in state `s` leads to a
state and puts out a list of values. States, calls and outputs are of any type.
-/

namespace OutputTraces

universe u v w

variable {σ : Type u} {α : Type v} {β : Type w} {step : σ → α → σ × List β}

def after (step : σ → α → σ × List β) : σ → List α → σ
  | s, [] => s
  | s, a :: as => after step (step s a).1 as

def trace (step : σ → α → σ × List β) : σ → List α → List β
  | _, [] => []
  | s, a :: as => (step s a).2 ++ trace step (step s a).1 as

@[simp] lemma trace_nil (s : σ) : trace step s [] = [] := rfl

@[simp] lemma trace_cons (s : σ) (a : α) (as : List α) :
    trace step s (a :: as) = (step s a).2 ++ trace step (step s a).1 as := rfl

lemma trace_append (s : σ) (as bs : List α) :
    trace step s (as ++ bs) = trace step s as ++ trace step (after step s as) bs := by
  induction as generalizing s with
  | nil => rfl
  | cons a as ih =>
    rw [List.cons_append, trace_cons, trace_cons, ih, List.append_assoc]
    rfl

/-- No call tells apart two states that `R` relates. -/
structure Unnoticed (step : σ → α → σ × List β) (R : σ → σ → Prop) : Prop where
  output : ∀ {s t : σ} (a : α), R s t → (step s a).2 = (step t a).2
  next : ∀ {s t : σ} (a : α), R s t → R (step s a).1 (step t a).1

namespace Unnoticed

variable {R : σ → σ → Prop} (h : Unnoticed step R)

include h

theorem trace_eq {s t : σ} (hst : R s t) (as : List α) : trace step s as = trace step t as := by
  induction as generalizing s t with
  | nil => rfl
  | cons a as ih => rw [trace_cons, trace_cons, h.output a hst, ih (h.next a hst)]

/-- **A call that goes unnoticed can be left out.** -/
theorem trace_without {s : σ} {before : List α} {a : α}
    (hsilent : (step (after step s before) a).2 = [])
    (hsame : R (step (after step s before) a).1 (after step s before)) (later : List α) :
    trace step s (before ++ a :: later) = trace step s (before ++ later) := by
  rw [trace_append, trace_append, trace_cons, hsilent, List.nil_append, h.trace_eq hsame]

end Unnoticed

end OutputTraces
