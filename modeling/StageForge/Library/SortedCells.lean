import Mathlib

/-!
# Sorted values in the first cells of an array

An array whose first `n` cells hold values in increasing order of a rank. A value is put into its
place by moving greater ones up, from the last one on, and a value is taken out by moving those
behind it down. Both are loops over the cells, as a program without lists has them.
-/

universe u v

namespace SortedCells

variable {α : Type u} {cells : ℕ → α} {n k : ℕ} {x : α} {p : α → Bool}

/-- The first `n` cells. -/
def taken (cells : ℕ → α) (n : ℕ) : List α := (List.range n).map cells

/-- Going down from cell `n`, move up the values that satisfy `p`; where that ends. -/
def raise (p : α → Bool) : ℕ → (ℕ → α) → (ℕ → α) × ℕ
  | 0, cells => (cells, 0)
  | n + 1, cells =>
    if p (cells n) then raise p n (Function.update cells (n + 1) (cells n)) else (cells, n + 1)

/-- Put `x` in front of the last values that satisfy `p`. -/
def insert (p : α → Bool) (n : ℕ) (x : α) (cells : ℕ → α) : ℕ → α :=
  Function.update (raise p n cells).1 (raise p n cells).2 x

/-- Move `n` values down by one, from cell `i` on. -/
def lower : ℕ → ℕ → (ℕ → α) → ℕ → α
  | _, 0, cells => cells
  | i, n + 1, cells => lower (i + 1) n (Function.update cells (i - 1) (cells i))

@[simp] lemma length_taken : (taken cells n).length = n := by
  rw [taken, List.length_map, List.length_range]

lemma getElem_taken {i : ℕ} (h : i < (taken cells n).length) : (taken cells n)[i] = cells i := by
  simp [taken]

@[simp] lemma taken_zero : taken cells 0 = [] := rfl

lemma taken_succ : taken cells (n + 1) = cells 0 :: taken (fun i => cells (i + 1)) n := by
  unfold taken
  rw [List.range_succ_eq_map, List.map_cons, List.map_map]
  rfl

/-- What the loop that moves up leaves in the cells. -/
structure Raised (p : α → Bool) (n : ℕ) (cells cells' : ℕ → α) (k : ℕ) : Prop where
  le : k ≤ n
  below : ∀ i < k, cells' i = cells i
  moved : ∀ i, k ≤ i → i < n → cells' (i + 1) = cells i
  above : ∀ i, n < i → cells' i = cells i
  holds : ∀ i, k ≤ i → i < n → p (cells i) = true
  stops : ∀ i, i + 1 = k → p (cells i) = false

lemma raised (p : α → Bool) (n : ℕ) :
    ∀ cells : ℕ → α, Raised p n cells (raise p n cells).1 (raise p n cells).2 := by
  induction n with
  | zero =>
    intro cells
    exact ⟨le_rfl, fun _ _ => rfl, by omega, fun _ _ => rfl, by omega, by simp [raise]⟩
  | succ n ih =>
    intro cells
    by_cases hp : p (cells n) = true
    · obtain ⟨hle, hbelow, hmoved, habove, hholds, hstops⟩ :=
        ih (Function.update cells (n + 1) (cells n))
      have hother : ∀ i, i ≠ n + 1 → Function.update cells (n + 1) (cells n) i = cells i :=
        fun i hi => Function.update_of_ne hi _ _
      rw [raise, if_pos hp]
      refine ⟨by omega, ?_, ?_, ?_, ?_, ?_⟩
      · intro i hi
        rw [hbelow i hi, hother i (by omega)]
      · intro i hk hi
        rcases Nat.lt_succ_iff_lt_or_eq.mp hi with hlt | rfl
        · rw [hmoved i hk hlt, hother i (by omega)]
        · rw [habove (i + 1) (by omega), Function.update_self]
      · intro i hi
        rw [habove i (by omega), hother i (by omega)]
      · intro i hk hi
        rcases Nat.lt_succ_iff_lt_or_eq.mp hi with hlt | rfl
        · rw [← hholds i hk hlt, hother i (by omega)]
        · exact hp
      · intro i hi
        rw [← hstops i hi, hother i (by omega)]
    · rw [raise, if_neg hp]
      refine ⟨le_rfl, fun _ _ => rfl, by omega, fun _ _ => rfl, by omega, ?_⟩
      intro i hi
      obtain rfl : i = n := by omega
      simpa using hp

/-- **Where `x` is put**: behind a value that does not satisfy `p`, in front of values that do. -/
lemma taken_insert (p : α → Bool) (n : ℕ) (x : α) (cells : ℕ → α) :
    ∃ front back, taken cells n = front ++ back ∧
      taken (insert p n x cells) (n + 1) = front ++ x :: back ∧
      (∀ y ∈ back, p y = true) ∧ ∀ y ∈ front.getLast?, p y = false := by
  obtain ⟨hle, hbelow, hmoved, -, hholds, hstops⟩ := raised p n cells
  generalize hk : (raise p n cells).2 = k at hle hbelow hmoved hholds hstops
  generalize hcells : (raise p n cells).1 = cells' at hbelow hmoved
  obtain ⟨m, rfl⟩ : ∃ m, n = k + m := ⟨n - k, by omega⟩
  refine ⟨taken cells k, (List.range m).map fun i => cells (k + i), ?_, ?_, ?_, ?_⟩
  · rw [taken, taken, List.range_add, List.map_append, List.map_map]
    rfl
  · unfold insert taken
    rw [hk, hcells, show k + m + 1 = k + (m + 1) by omega, List.range_add, List.map_append,
      List.range_succ_eq_map, List.map_cons, List.map_cons, List.map_map, List.map_map]
    congr 1
    · refine List.map_congr_left ?_
      intro i hi
      have hlt := List.mem_range.mp hi
      rw [Function.update_of_ne (by omega), hbelow i hlt]
    · rw [Nat.add_zero, Function.update_self]
      congr 1
      refine List.map_congr_left ?_
      intro i hi
      have hlt := List.mem_range.mp hi
      simp only [Function.comp_apply, Nat.succ_eq_add_one]
      rw [Function.update_of_ne (by omega), show k + (i + 1) = k + i + 1 by omega,
        hmoved (k + i) (by omega) (by omega)]
  · intro y hy
    obtain ⟨i, hi, rfl⟩ := List.mem_map.mp hy
    exact hholds (k + i) (by omega) (by have := List.mem_range.mp hi; omega)
  · intro y hy
    cases k with
    | zero => simp at hy
    | succ k =>
      rw [taken, List.range_succ, List.map_append, List.map_singleton, List.getLast?_concat,
        Option.mem_some_iff] at hy
      subst hy
      exact hstops k rfl

theorem perm_insert (p : α → Bool) (n : ℕ) (x : α) (cells : ℕ → α) :
    (taken (insert p n x cells) (n + 1)).Perm (x :: taken cells n) := by
  obtain ⟨front, back, hbefore, hafter, -, -⟩ := taken_insert p n x cells
  rw [hbefore, hafter]
  exact List.perm_middle

section

variable {β : Type v} [LinearOrder β] {rank : α → β}

/-- **An insertion keeps the order**, if what is moved up are the greater values. -/
theorem sorted_insert (hp : ∀ y, p y = true ↔ rank x < rank y)
    (h : (taken cells n).Pairwise fun y z => rank y ≤ rank z) :
    (taken (insert p n x cells) (n + 1)).Pairwise fun y z => rank y ≤ rank z := by
  obtain ⟨front, back, hbefore, hafter, hback, hfront⟩ := taken_insert p n x cells
  rw [hbefore] at h
  obtain ⟨hpairs, hrest, hcross⟩ := List.pairwise_append.mp h
  have hbelow : ∀ y ∈ front, rank y ≤ rank x := by
    intro y hy
    rcases List.eq_nil_or_concat' front with rfl | ⟨init, last, rfl⟩
    · simp at hy
    · have hlast : rank last ≤ rank x := by
        have hno := hfront last (by simp)
        by_contra hlt
        rw [(hp last).mpr (not_le.mp hlt)] at hno
        cases hno
      rcases List.mem_append.mp hy with hinit | hend
      · exact ((List.pairwise_append.mp hpairs).2.2 y hinit last (by simp)).trans hlast
      · obtain rfl : y = last := List.mem_singleton.mp hend
        exact hlast
  have habove : ∀ z ∈ back, rank x ≤ rank z := fun z hz => ((hp z).mp (hback z hz)).le
  rw [hafter]
  refine List.pairwise_append.mpr ⟨hpairs, List.pairwise_cons.mpr ⟨habove, hrest⟩, ?_⟩
  intro y hy z hz
  rcases List.mem_cons.mp hz with rfl | hz
  · exact hbelow y hy
  · exact hcross y hy z hz

end

lemma lower_apply (n : ℕ) : ∀ (i : ℕ) (cells : ℕ → α) (j : ℕ), 0 < i →
    lower i n cells j = if i ≤ j + 1 ∧ j + 1 < i + n then cells (j + 1) else cells j := by
  induction n with
  | zero =>
    intro i cells j _
    rw [lower, if_neg (by omega)]
  | succ n ih =>
    intro i cells j hi
    rw [lower, ih (i + 1) _ j (by omega)]
    by_cases hfirst : j + 1 = i
    · subst hfirst
      rw [if_neg (by omega), if_pos (by omega), Nat.add_sub_cancel, Function.update_self]
    · have hj : j ≠ i - 1 := by omega
      rw [Function.update_of_ne hj]
      by_cases hmoved : i + 1 ≤ j + 1 ∧ j + 1 < i + 1 + n
      · rw [if_pos hmoved, if_pos (by omega), Function.update_of_ne (by omega)]
      · rw [if_neg hmoved, if_neg (by omega)]

/-- **Moving down** takes out the value of the cell in front. -/
theorem taken_lower (h : k < n) :
    taken (lower (k + 1) (n - 1 - k) cells) (n - 1) = (taken cells n).eraseIdx k := by
  refine List.ext_getElem ?_ ?_
  · rw [List.length_eraseIdx_of_lt (by simpa using h), length_taken, length_taken]
  · intro i hi _
    rw [length_taken] at hi
    rw [getElem_taken, List.getElem_eraseIdx, lower_apply _ _ _ _ (by omega)]
    split_ifs with hmoved hk hk
    · omega
    · rw [getElem_taken]
    · rw [getElem_taken]
    · omega

end SortedCells
