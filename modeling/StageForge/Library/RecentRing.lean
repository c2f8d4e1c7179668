import Mathlib

/-!
# A ring that remembers the most recent values

`n` cells and a cursor: each value is written where the cursor stands, and the cursor moves on by
one, round and round. So a ring never grows, and never asks whether the value it overwrites is
still wanted.
-/

universe u

/-- A ring of `n` cells. -/
structure RecentRing (α : Type u) (n : ℕ) where
  cells : Fin n → Option α
  cursor : Fin n

namespace RecentRing

variable {α : Type u} {n : ℕ} [NeZero n] {r : RecentRing α n} {log : List α} {x : α} {p : α → Bool}

def empty : RecentRing α n where
  cells := fun _ => none
  cursor := 0

/-- Write `x` and move on. -/
def push (r : RecentRing α n) (x : α) : RecentRing α n where
  cells := Function.update r.cells r.cursor (some x)
  cursor := r.cursor + 1

/-- The first value, cell by cell, that satisfies `p`. -/
def find? (r : RecentRing α n) (p : α → Bool) : Option α :=
  (List.finRange n).findSome? fun i => (r.cells i).filter p

/-- The cell `k + 1` steps back from the cursor. -/
def back (r : RecentRing α n) (k : ℕ) : Fin n := r.cursor - Fin.ofNat n (k + 1)

/-- `r` is the ring after the values of `log` have been written, the newest first. -/
def Holds (r : RecentRing α n) (log : List α) : Prop := ∀ k < n, r.cells (r.back k) = log[k]?

lemma holds_empty : (empty : RecentRing α n).Holds [] := by
  intro k _
  simp [empty]

lemma ofNat_succ (k : ℕ) : Fin.ofNat n (k + 1) = Fin.ofNat n k + 1 := by
  apply Fin.ext
  simp [Fin.val_add, Nat.add_mod]

lemma back_push_zero (x : α) : (r.push x).back 0 = r.cursor := by
  have hone : Fin.ofNat n (0 + 1) = 1 := by
    rw [ofNat_succ]
    simp
  rw [back, hone]
  exact add_sub_cancel_right r.cursor 1

lemma back_push_succ (x : α) (k : ℕ) : (r.push x).back (k + 1) = r.back k := by
  rw [back, back, ofNat_succ (k + 1)]
  exact add_sub_add_right_eq_sub r.cursor (Fin.ofNat n (k + 1)) 1

lemma back_ne_cursor {k : ℕ} (h : k + 1 < n) : r.back k ≠ r.cursor := by
  intro heq
  have hzero : Fin.ofNat n (k + 1) = 0 := sub_eq_self.mp heq
  have hval : (k + 1) % n = 0 := by simpa using congrArg Fin.val hzero
  rw [Nat.mod_eq_of_lt h] at hval
  omega

lemma exists_back (i : Fin n) : ∃ k < n, r.back k = i := by
  refine ⟨(r.cursor - i - 1).val, (r.cursor - i - 1).isLt, ?_⟩
  have hsteps : Fin.ofNat n ((r.cursor - i - 1).val + 1) = r.cursor - i := by
    rw [ofNat_succ]
    simp
  rw [back, hsteps]
  exact sub_sub_cancel r.cursor i

/-- **Writing a value** puts it in front of what has been written. -/
theorem Holds.push (h : r.Holds log) (x : α) : (r.push x).Holds (x :: log) := by
  intro k hk
  cases k with
  | zero =>
    rw [back_push_zero]
    simp [RecentRing.push]
  | succ k =>
    rw [back_push_succ, List.getElem?_cons_succ, ← h k (by omega)]
    exact Function.update_of_ne (back_ne_cursor hk) _ _

omit [NeZero n] in
lemma mem_take_iff : x ∈ log.take n ↔ ∃ k < n, log[k]? = some x := by
  rw [List.mem_iff_getElem?]
  constructor
  · rintro ⟨k, hk⟩
    rw [List.getElem?_take] at hk
    split at hk
    · exact ⟨k, ‹k < n›, hk⟩
    · cases hk
  · rintro ⟨k, hk, hx⟩
    exact ⟨k, by rw [List.getElem?_take, if_pos hk, hx]⟩

/-- **The cells hold the last `n` values that have been written.** -/
theorem Holds.mem_iff (h : r.Holds log) : (∃ i, r.cells i = some x) ↔ x ∈ log.take n := by
  constructor
  · rintro ⟨i, hi⟩
    obtain ⟨k, hk, rfl⟩ := exists_back (r := r) i
    rw [h k hk] at hi
    exact mem_take_iff.mpr ⟨k, hk, hi⟩
  · intro hx
    obtain ⟨k, hk, hx⟩ := mem_take_iff.mp hx
    exact ⟨r.back k, by rw [h k hk, hx]⟩

lemma Holds.of_find? (h : r.Holds log) (hx : r.find? p = some x) : x ∈ log.take n ∧ p x = true := by
  obtain ⟨i, -, hi⟩ := List.exists_of_findSome?_eq_some hx
  obtain ⟨hcell, hp⟩ := Option.filter_eq_some_iff.mp hi
  exact ⟨h.mem_iff.mp ⟨i, hcell⟩, hp⟩

/-- Nothing is found if and only if none of the last `n` values would do. -/
lemma Holds.find?_eq_none (h : r.Holds log) : r.find? p = none ↔ ∀ x ∈ log.take n, p x = false := by
  rw [find?, List.findSome?_eq_none_iff]
  constructor
  · intro hnone x hx
    obtain ⟨i, hi⟩ := h.mem_iff.mpr hx
    have hcell := hnone i (List.mem_finRange i)
    rw [hi] at hcell
    simpa [Option.filter] using hcell
  · intro hall i _
    cases hi : r.cells i with
    | none => rfl
    | some x => simp [Option.filter, hall x (h.mem_iff.mp ⟨i, hi⟩)]

end RecentRing
