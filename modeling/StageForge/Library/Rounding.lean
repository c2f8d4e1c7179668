import StageForge.Library.PythonValue

/-!
# Rounding to the nearest number

`roundHalfEven` rounds to an integer and `round` to a number of decimals.
-/

namespace Python

variable {a b q : ℚ} {digits : ℕ}

lemma roundHalfEven_error (q : ℚ) : |(roundHalfEven q : ℚ) - q| ≤ 1 / 2 := by
  have hle := Int.floor_le q
  have hlt := Int.lt_floor_add_one q
  rw [abs_le]
  unfold roundHalfEven
  dsimp only
  split_ifs with hbelow habove
  · constructor <;> linarith
  · push_cast
    constructor <;> linarith
  · constructor <;> linarith
  · push_cast
    constructor <;> linarith

/-- Of two numbers that are rounded the wrong way round both would lie half way. -/
lemma roundHalfEven_mono (h : a ≤ b) : roundHalfEven a ≤ roundHalfEven b := by
  by_contra hlt
  have hsucc : roundHalfEven b + 1 ≤ roundHalfEven a := not_le.mp hlt
  have hcast : (roundHalfEven b : ℚ) + 1 ≤ roundHalfEven a := by exact_mod_cast hsucc
  have ha := (abs_le.mp (roundHalfEven_error a)).2
  have hb := (abs_le.mp (roundHalfEven_error b)).1
  obtain rfl : a = b := le_antisymm h (by linarith)
  exact hlt (le_refl _)

lemma roundHalfEven_intCast (n : ℤ) : roundHalfEven n = n := by
  simp [roundHalfEven]

lemma round_mono (h : a ≤ b) : round a digits ≤ round b digits := by
  have hscaled : a * 10 ^ digits ≤ b * 10 ^ digits := by gcongr
  have hrounded : (roundHalfEven (a * 10 ^ digits) : ℚ) ≤ roundHalfEven (b * 10 ^ digits) := by
    exact_mod_cast roundHalfEven_mono hscaled
  unfold round
  gcongr

lemma round_error (q : ℚ) (digits : ℕ) : |round q digits - q| ≤ 1 / (2 * 10 ^ digits) := by
  have hpos : (0 : ℚ) < 10 ^ digits := by positivity
  have heq : round q digits - q = (roundHalfEven (q * 10 ^ digits) - q * 10 ^ digits) / 10 ^ digits := by
    unfold round
    field_simp
  rw [heq, abs_div, abs_of_pos hpos, div_le_div_iff₀ hpos (by positivity)]
  have herror := roundHalfEven_error (q * 10 ^ digits)
  nlinarith

lemma round_intCast (n : ℤ) (digits : ℕ) : round n digits = n := by
  have hscaled : (n : ℚ) * 10 ^ digits = ((n * 10 ^ digits : ℤ) : ℚ) := by push_cast; rfl
  unfold round
  rw [hscaled, roundHalfEven_intCast]
  push_cast
  field_simp

lemma round_nonneg (h : 0 ≤ q) : 0 ≤ round q digits := by
  simpa using (round_intCast 0 digits).symm.trans_le (round_mono (by simpa using h))

lemma round_le_one (h : q ≤ 1) : round q digits ≤ 1 := by
  have hround : round q digits ≤ round 1 digits := round_mono h
  exact hround.trans_eq (by simpa using round_intCast 1 digits)

end Python
