import Mathlib.Data.Nat.ModEq
import Mathlib.Tactic.Ring

/-!
# Circular buffers

The items of a stream are written one after the other, each in the place of its number modulo the capacity.
-/

universe u

namespace CircularBuffer

variable {α : Type u} {capacity lo lo' hi i j : ℕ} {buffer stream stream' : ℕ → α}

/-- Two numbers that are closer than the capacity have different places. -/
lemma mod_ne_of_lt (h : i < j) (hclose : j < i + capacity) : i % capacity ≠ j % capacity := by
  intro hsame
  have hdvd : capacity ∣ j - i := (Nat.modEq_iff_dvd' h.le).mp hsame
  have hle := Nat.le_of_dvd (Nat.sub_pos_of_lt h) hdvd
  omega

/-- The items from `lo` up to `hi` are in their places. -/
def Keeps (capacity : ℕ) (buffer stream : ℕ → α) (lo hi : ℕ) : Prop :=
  ∀ n, lo ≤ n → n < hi → buffer (n % capacity) = stream n

lemma Keeps.mono (h : Keeps capacity buffer stream lo hi) (hlo : lo ≤ lo') : Keeps capacity buffer stream lo' hi :=
  fun n hn => h n (hlo.trans hn)

lemma Keeps.congr (h : Keeps capacity buffer stream lo hi) (hsame : ∀ n, lo ≤ n → n < hi → stream n = stream' n) :
    Keeps capacity buffer stream' lo hi :=
  fun n hlo hhi => (h n hlo hhi).trans (hsame n hlo hhi)

/-- The next item is written in its place; the items from `lo` on have to be within the capacity of it. -/
lemma Keeps.write (h : Keeps capacity buffer stream lo hi) (hroom : hi < lo + capacity) :
    Keeps capacity (Function.update buffer (hi % capacity) (stream hi)) stream lo (hi + 1) := by
  intro n hlo hhi
  rcases Nat.lt_succ_iff_lt_or_eq.mp hhi with hold | rfl
  · have hother : n % capacity ≠ hi % capacity := mod_ne_of_lt hold (by omega)
    rw [Function.update_of_ne hother]
    exact h n hlo hold
  · rw [Function.update_self]

end CircularBuffer
