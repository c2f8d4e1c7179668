import Mathlib.Order.Basic

/-!
# Scripts of guarded assignments

A call that validates and assigns one field after the other, on a value that is live all the time.
An `Item` either is rejected, and then leaves the value as it is, or takes the value to the next one.
`run` performs items up to the first that is rejected.
-/

namespace Script

universe u v

variable {ε : Type u} {α β : Type v}

/-- A validation with the assignment that follows it. -/
abbrev Item (ε : Type u) (α : Type v) := α → Except ε α

def run : List (Item ε α) → α → α × Except ε Unit
  | [], a => (a, .ok ())
  | item :: items, a =>
    match item a with
    | .error e => (a, .error e)
    | .ok b => run items b

variable {items before after : List (Item ε α)} {item : Item ε α} {a b : α} {e : ε}

lemma run_append : run (before ++ after) a = match run before a with
      | (b, .ok _) => run after b
      | (b, .error e) => (b, .error e) := by
  induction before generalizing a with
  | nil => rfl
  | cons item items ih =>
    simp only [List.cons_append, run]
    cases item a with
    | error e => rfl
    | ok b => exact ih

/-- An accepted script performs its first item and then the others. -/
lemma run_cons_ok (h : (run (item :: items) a).2 = .ok ()) :
    ∃ b, item a = .ok b ∧ (run items b).2 = .ok () ∧ run (item :: items) a = run items b := by
  simp only [run] at h ⊢
  cases hresult : item a with
  | error e => simp [hresult] at h
  | ok b => exact ⟨b, rfl, by simpa [hresult] using h, rfl⟩

lemma run_invariant {I : α → Prop} (hitem : ∀ item ∈ items, ∀ a b, I a → item a = .ok b → I b)
    (h0 : I a) : I (run items a).1 := by
  induction items generalizing a with
  | nil => exact h0
  | cons item items ih =>
    simp only [run]
    cases hresult : item a with
    | error e => exact h0
    | ok b =>
      refine ih (fun i hi => hitem i (List.mem_cons_of_mem _ hi)) ?_
      exact hitem item List.mem_cons_self a b h0 hresult

/-- An item is rejected after earlier ones have changed what `view` shows. -/
def RejectsLate (view : α → β) (items : List (Item ε α)) (a : α) : Prop :=
  ∃ before item after b e, items = before ++ item :: after ∧ run before a = (b, .ok ()) ∧
    item b = .error e ∧ view b ≠ view a

lemma exists_rejected (h : (run items a).2 = .error e) :
    ∃ before item after, items = before ++ item :: after ∧
      run before a = ((run items a).1, .ok ()) ∧ item (run items a).1 = .error e := by
  induction items generalizing a with
  | nil => simp [run] at h
  | cons item items ih =>
    simp only [run] at h ⊢
    cases hresult : item a with
    | error e' =>
      rw [hresult] at h
      obtain rfl : e' = e := by simpa using h
      exact ⟨[], item, items, rfl, rfl, hresult⟩
    | ok b =>
      rw [hresult] at h
      obtain ⟨before, other, after, hitems, hbefore, hrejected⟩ := ih h
      refine ⟨item :: before, other, after, by rw [hitems]; rfl, ?_, hrejected⟩
      simpa only [run, hresult] using hbefore

lemma run_of_rejected (hbefore : run before a = (b, .ok ())) (hitem : item b = .error e) :
    run (before ++ item :: after) a = (b, .error e) := by
  rw [run_append, hbefore]
  simp only [run, hitem]

variable {view : α → β}

/-- **Atomic or late.** -/
theorem atomic_iff : (∀ e, (run items a).2 = .error e → view (run items a).1 = view a) ↔
      ¬ RejectsLate view items a := by
  constructor
  · rintro hatomic ⟨before, item, after, b, e, rfl, hbefore, hitem, hne⟩
    rw [run_of_rejected hbefore hitem] at hatomic
    exact hne (hatomic e rfl)
  · intro hlate e he
    obtain ⟨before, item, after, hitems, hbefore, hrejected⟩ := exists_rejected he
    by_contra hne
    exact hlate ⟨before, item, after, _, e, hitems, hbefore, hrejected, hne⟩

/-! ## Changes that are undone -/

/-- The second part of the script undoes what the first has changed. -/
def SetsBack (view : α → β) (items : List (Item ε α)) (a : α) : Prop :=
  ∃ before after b, items = before ++ after ∧ run before a = (b, .ok ()) ∧ view b ≠ view a ∧
    view (run after b).1 = view a

/-- If each item that writes to the log changes something, and in the end nothing has changed, then
something has been set back. -/
theorem setsBack_of_logged {γ : Type v} {log : α → γ}
    (hitem : ∀ item ∈ items, ∀ a b, item a = .ok b → log b = log a ∨ view b ≠ view a)
    (haccept : (run items a).2 = .ok ()) (hsame : view (run items a).1 = view a)
    (hlog : log (run items a).1 ≠ log a) : SetsBack view items a := by
  induction items generalizing a with
  | nil => exact absurd rfl hlog
  | cons item items ih =>
    obtain ⟨b, hb, hrest, hrun⟩ := run_cons_ok haccept
    rw [hrun] at hsame hlog
    have hfirst : run [item] a = (b, .ok ()) := by simp only [run, hb]
    by_cases hview : view b = view a
    · -- The first item has changed nothing, so it has not written to the log.
      have hsilent : log b = log a :=
        (hitem item List.mem_cons_self a b hb).resolve_right (not_not.mpr hview)
      rw [← hview] at hsame
      rw [← hsilent] at hlog
      obtain ⟨before, after, c, rfl, hbefore, hne, hback⟩ :=
        ih (fun i hi => hitem i (List.mem_cons_of_mem _ hi)) hrest hsame hlog
      refine ⟨item :: before, after, c, rfl, ?_, hview ▸ hne, hview ▸ hback⟩
      simp only [run, hb, hbefore]
    · exact ⟨[item], items, b, rfl, hfirst, hview, hsame⟩

/-- An accepted run that ends as it began has done nothing. -/
def Persistent (view : α → β) (items : List (Item ε α)) : Prop :=
  ∀ a, (run items a).2 = .ok () → view (run items a).1 = view a → (run items a).1 = a

lemma persistent_nil : Persistent view ([] : List (Item ε α)) := fun _ _ _ => rfl

lemma persistent_cons {γ : Type v} (part : β → γ)
    (hitem : ∀ a b, item a = .ok b → b = a ∨ part (view b) ≠ part (view a))
    (hkeep : ∀ i ∈ items, ∀ a b, i a = .ok b → part (view b) = part (view a))
    (h : Persistent view items) : Persistent view (item :: items) := by
  intro a haccept hsame
  obtain ⟨b, hb, hrest, hrun⟩ := run_cons_ok haccept
  rw [hrun] at hsame ⊢
  rcases hitem a b hb with rfl | hne
  · exact h b hrest hsame
  · have hpart : part (view (run items b).1) = part (view b) :=
      run_invariant (I := fun c => part (view c) = part (view b))
        (fun i hi c d hc hd => (hkeep i hi c d hd).trans hc) rfl
    rw [hsame] at hpart
    exact absurd hpart.symm hne

end Script
