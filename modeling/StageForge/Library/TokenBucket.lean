import Mathlib.Algebra.Order.Field.Basic
import Mathlib.Tactic.Linarith
import Mathlib.Tactic.Ring

/-!
# Token buckets

A bucket has tokens at a time and gains them at a rate, up to a burst. A request takes a token where there
is one, or only brings the bucket up to date, or leaves it alone.
-/

namespace TokenBucket

universe u

variable {α : Type u} [Field α] [LinearOrder α] [IsStrictOrderedRing α]

structure Bucket (α : Type u) where
  tokens : α
  stamp : α

inductive Use
  | skip
  | keep
  | take
  deriving DecidableEq

variable (burst rate : α)

namespace Bucket

/-- The tokens at a later time, however many there may be. -/
def gained (b : Bucket α) (now : α) : α := b.tokens + max 0 (now - b.stamp) * rate

def level (b : Bucket α) (now : α) : α := min burst (b.gained rate now)

def use (b : Bucket α) (now : α) : Use → Bucket α
  | .skip => b
  | .keep => ⟨b.level burst rate now, now⟩
  | .take => ⟨b.level burst rate now - 1, now⟩

end Bucket

/-- Requests one after the other, of which those that take a token find one. -/
def Admissible : Bucket α → α → List (α × Use) → Prop
  | _, _, [] => True
  | b, t, (now, u) :: rest =>
    t ≤ now ∧ (u = .take → 1 ≤ b.level burst rate now) ∧ Admissible (b.use burst rate now u) now rest

def takenIn (s e : α) (uses : List (α × Use)) : ℕ :=
  uses.countP fun use => use.2 = .take ∧ s ≤ use.1 ∧ use.1 ≤ e

variable {burst rate} {b : Bucket α} {t t' s e now : α} {uses : List (α × Use)} {u : Use}

namespace Bucket

omit [IsStrictOrderedRing α] in
lemma level_le_burst : b.level burst rate t ≤ burst := min_le_left _ _

omit [IsStrictOrderedRing α] in
lemma level_self (x : α) : (⟨x, t⟩ : Bucket α).level burst rate t = min burst x := by
  simp [level, gained]

lemma level_le_add (hrate : 0 ≤ rate) (hstamp : b.stamp ≤ t) (hle : t ≤ t') :
    b.level burst rate t' ≤ b.level burst rate t + rate * (t' - t) := by
  have hgain : 0 ≤ rate * (t' - t) := mul_nonneg hrate (sub_nonneg.mpr hle)
  have hgained : b.gained rate t' = b.gained rate t + rate * (t' - t) := by
    unfold gained
    rw [max_eq_right (sub_nonneg.mpr hstamp), max_eq_right (sub_nonneg.mpr (hstamp.trans hle))]
    ring
  unfold level
  rw [hgained]
  rcases le_total burst (b.gained rate t) with h | h
  · rw [min_eq_left h]
    exact (min_le_left _ _).trans (le_add_of_nonneg_right hgain)
  · rw [min_eq_right h]
    exact min_le_right _ _

lemma gained_mono (hrate : 0 ≤ rate) (hle : t ≤ t') : b.gained rate t ≤ b.gained rate t' := by
  have hmax : max 0 (t - b.stamp) ≤ max 0 (t' - b.stamp) := max_le_max le_rfl (sub_le_sub_right hle _)
  exact add_le_add_right (mul_le_mul_of_nonneg_right hmax hrate) _

lemma level_use (hburst : 0 ≤ burst) (hlevel : 0 ≤ b.level burst rate now)
    (htake : u = .take → 1 ≤ b.level burst rate now) :
    0 ≤ (b.use burst rate now u).level burst rate now ∧
      (b.use burst rate now u).level burst rate now + (if u = .take then 1 else 0) ≤
        b.level burst rate now := by
  cases u with
  | skip => exact ⟨hlevel, by simp [use]⟩
  | keep =>
    have hsame : (b.use burst rate now .keep).level burst rate now = b.level burst rate now := by
      rw [use, level_self, min_eq_right level_le_burst]
    rw [hsame]
    exact ⟨hlevel, by simp⟩
  | take =>
    have hone := htake rfl
    rw [use, level_self, if_pos rfl]
    refine ⟨le_min hburst (sub_nonneg.mpr hone), ?_⟩
    have hmin : min burst (b.level burst rate now - 1) ≤ b.level burst rate now - 1 := min_le_right _ _
    linarith

omit [IsStrictOrderedRing α] in
lemma stamp_use (hstamp : b.stamp ≤ now) : (b.use burst rate now u).stamp ≤ now := by
  cases u with
  | skip => exact hstamp
  | keep => exact le_refl _
  | take => exact le_refl _

end Bucket

omit [IsStrictOrderedRing α] in
lemma takenIn_eq_zero (h : Admissible burst rate b t uses) (hlt : e < t) : takenIn s e uses = 0 := by
  induction uses generalizing b t with
  | nil => rfl
  | cons use rest ih =>
    obtain ⟨hle, -, hrest⟩ := h
    have hlater : e < use.1 := lt_of_lt_of_le hlt hle
    rw [takenIn, List.countP_cons_of_neg]
    · exact ih hrest hlater
    · simp [hlater]

/-- **A token that is taken was there, or was gained since.** By induction on the requests. -/
lemma takenIn_le (hrate : 0 ≤ rate) (hburst : 0 ≤ burst) (h : Admissible burst rate b t uses)
    (hstamp : b.stamp ≤ t) (hlevel : 0 ≤ b.level burst rate t) (hle : t ≤ e) :
    (takenIn s e uses : α) ≤ b.level burst rate t + rate * (e - t) := by
  induction uses generalizing b t with
  | nil =>
    have hgain : 0 ≤ rate * (e - t) := mul_nonneg hrate (sub_nonneg.mpr hle)
    simpa [takenIn] using add_nonneg hlevel hgain
  | cons use rest ih =>
    obtain ⟨hnow, htake, hrest⟩ := h
    obtain ⟨now, u⟩ := use
    have hgain := @Bucket.level_le_add _ _ _ _ burst _ _ _ _ hrate hstamp hnow
    have hmono : b.level burst rate t ≤ b.level burst rate now :=
      min_le_min le_rfl (Bucket.gained_mono hrate hnow)
    obtain ⟨hnonneg, hused⟩ := Bucket.level_use hburst (hlevel.trans hmono) htake
    rcases lt_or_ge e now with hlate | hearly
    · have hzero : takenIn s e ((now, u) :: rest) = 0 :=
        takenIn_eq_zero (t := now) ⟨le_refl now, htake, hrest⟩ hlate
      rw [hzero, Nat.cast_zero]
      exact add_nonneg hlevel (mul_nonneg hrate (sub_nonneg.mpr hle))
    · have hrestLe := ih hrest (Bucket.stamp_use (hstamp.trans hnow)) hnonneg hearly
      have hcount : (takenIn s e ((now, u) :: rest) : α) ≤
          takenIn s e rest + (if u = .take then 1 else 0) := by
        rw [takenIn, List.countP_cons]
        push_cast
        refine add_le_add le_rfl ?_
        by_cases hu : u = .take
        · split_ifs <;> simp
        · simp [hu]
      linarith

/-- **In a window of time no more is taken than the burst and the gain of the window.** -/
theorem taken_in_window_le (hrate : 0 ≤ rate) (hburst : 0 ≤ burst)
    (h : Admissible burst rate b t uses) (hstamp : b.stamp ≤ t) (hlevel : 0 ≤ b.level burst rate t)
    (hle : s ≤ e) : (takenIn s e uses : α) ≤ burst + rate * (e - s) := by
  have hbound : 0 ≤ burst + rate * (e - s) :=
    add_nonneg hburst (mul_nonneg hrate (sub_nonneg.mpr hle))
  induction uses generalizing b t with
  | nil => simpa [takenIn] using hbound
  | cons use rest ih =>
    obtain ⟨now, u⟩ := use
    obtain ⟨hnow, htake, hrest⟩ := h
    have hmono : b.level burst rate t ≤ b.level burst rate now :=
      min_le_min le_rfl (Bucket.gained_mono hrate hnow)
    rcases lt_or_ge now s with hbefore | hin
    · have hskip : takenIn s e ((now, u) :: rest) = takenIn s e rest := by
        rw [takenIn, List.countP_cons_of_neg]
        · rfl
        · simp [hbefore]
      rw [hskip]
      exact ih hrest (Bucket.stamp_use (hstamp.trans hnow))
        (Bucket.level_use hburst (hlevel.trans hmono) htake).1
    · rcases lt_or_ge e now with hlate | hearly
      · have hzero : takenIn s e ((now, u) :: rest) = 0 :=
          takenIn_eq_zero (t := now) ⟨le_refl now, htake, hrest⟩ hlate
        rw [hzero, Nat.cast_zero]
        exact hbound
      · have hused := takenIn_le (s := s) hrate hburst (t := now)
          (show Admissible burst rate b now ((now, u) :: rest) from ⟨le_refl now, htake, hrest⟩)
          (hstamp.trans hnow) (hlevel.trans hmono) hearly
        have hburst' : b.level burst rate now ≤ burst := Bucket.level_le_burst
        have hwindow : rate * (e - now) ≤ rate * (e - s) :=
          mul_le_mul_of_nonneg_left (sub_le_sub_left hin e) hrate
        linarith

end TokenBucket
