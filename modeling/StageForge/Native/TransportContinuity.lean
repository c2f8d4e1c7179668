import Mathlib
import StageForge.Native.TransportClock

/-!
# The show position

Every control call that the transport clock takes, with the instant at which the clock reads the
time, and what a run of them does to the position of the show.
-/

namespace StageForge

/-! ## Exact numbers -/

/-- Rational numbers, and `none` for all that is not finite. -/
def FloatType.exact : FloatType where
  Carrier := Option ℚ
  literal := some
  finite := Option.isSome
  equal a b := a.isSome && decide (a = b)
  less a b := (Option.map₂ (fun x y => decide (x < y)) a b).getD false
  add := Option.map₂ (· + ·)
  sub := Option.map₂ (· - ·)
  mul := Option.map₂ (· * ·)
  div := Option.map₂ (· / ·)
  abs := Option.map fun x => |x|

/-- Arithmetic that does not round, on numbers that may fail to be finite. -/
def NativeFloats.exact : NativeFloats where
  double := .exact
  single := .exact
  toSingle x := x
  toDouble x := x
  ofInt n := some (n : ℚ)

/-! ## The control calls -/

namespace TransportClock

variable {S : NativeFloats} (c : TransportClock S)

def setSampleRate (sampleRate : S.Double) : TransportClock S :=
  { c with sampleRate := clamp sampleRate (S.double.literal 8000) (S.double.literal 768000) }

def setClockRate (rate : S.Double) (now : ℤ) : TransportClock S :=
  let c' := if c.running then { c with elapsedSeconds := c.showSeconds now, startedAtNs := now } else c
  { c' with
    clockRate := clamp (if S.double.finite rate then rate else S.double.literal 1)
      (S.double.literal (9995 / 10000)) (S.double.literal (10005 / 10000)) }

end TransportClock

inductive TransportCall (S : NativeFloats)
  | play
  | pause
  | stop
  | rewind
  | setBpm (bpm : S.Double)
  | setSampleRate (sampleRate : S.Double)
  | setClockRate (rate : S.Double)
  | seekSeconds (seconds : S.Double)

/-- All calls but `stop`, `rewind` and `seek_seconds`. -/
def TransportCall.keepsPosition {S : NativeFloats} : TransportCall S → Bool
  | .stop | .rewind | .seekSeconds _ => false
  | .play | .pause | .setBpm _ | .setSampleRate _ | .setClockRate _ => true

namespace TransportClock

/-- A call, when the clock reads `now`. -/
def call {S : NativeFloats} (c : TransportClock S) (now : ℤ) : TransportCall S → TransportClock S
  | .play => c.play now
  | .pause => c.pause now
  | .stop => c.stop now
  | .rewind => c.rewind now
  | .setBpm bpm => c.setBpm bpm
  | .setSampleRate sampleRate => c.setSampleRate sampleRate
  | .setClockRate rate => c.setClockRate rate now
  | .seekSeconds seconds => c.seekSeconds seconds now

/-- Calls one after the other, each with its instant. -/
def run {S : NativeFloats} (c : TransportClock S) (calls : List (ℤ × TransportCall S)) :
    TransportClock S :=
  calls.foldl (fun c timed => c.call timed.1 timed.2) c

/-- Calls whose instants do not go back, from `now` on. -/
def InOrder {S : NativeFloats} (now : ℤ) (calls : List (ℤ × TransportCall S)) : Prop :=
  (now :: calls.map Prod.fst).Pairwise (· ≤ ·)

instance {S : NativeFloats} (now : ℤ) (calls : List (ℤ × TransportCall S)) :
    Decidable (InOrder now calls) :=
  inferInstanceAs (Decidable (List.Pairwise _ _))

def lastInstant {S : NativeFloats} (now : ℤ) (calls : List (ℤ × TransportCall S)) : ℤ :=
  calls.foldl (fun _ timed => timed.1) now

/-! ## The invariant -/

def pace (c : TransportClock .exact) : ℚ := if c.running then (c.clockRate : Option ℚ).getD 0 else 0

/-- What the clock adds to the position from one instant to another. -/
def advance (c : TransportClock .exact) (since till : ℤ) : ℚ :=
  ((till - since : ℤ) : ℚ) / 1000000000 * c.pace

/-- What it adds over calls, up to the instant of the last of them. -/
def gained (c : TransportClock .exact) (now : ℤ) : List (ℤ × TransportCall .exact) → ℚ
  | [] => 0
  | (atNs, k) :: rest => c.advance now atNs + gained (c.call atNs k) atNs rest

/-- The clock is anchored by `now`. -/
structure Anchored (c : TransportClock .exact) (now : ℤ) : Prop where
  elapsed : ∃ q : ℚ, c.elapsedSeconds = some q
  rate : ∃ r : ℚ, c.clockRate = some r ∧ 0 < r
  started : c.startedAtNs ≤ now

variable {c : TransportClock .exact} {now since till : ℤ} {k : TransportCall .exact}

lemma clamp_exact {low high : ℚ} (hle : low ≤ high) (value : Option ℚ) :
    ∃ q : ℚ, clamp (S := .exact) value (some low) (some high) = some q ∧ low ≤ q := by
  cases value with
  | none => exact ⟨low, rfl, le_refl low⟩
  | some x =>
    change ∃ q : ℚ, (if true = false then some low else if decide (x < low) = true then some low
      else if decide (high < x) = true then some high else some x) = some q ∧ low ≤ q
    rw [if_neg (by decide)]
    split_ifs with hlow hhigh
    · exact ⟨low, rfl, le_refl low⟩
    · exact ⟨high, rfl, hle⟩
    · exact ⟨x, rfl, not_lt.mp (mt decide_eq_true hlow)⟩

lemma anchored_start (sampleRate bpm : Option ℚ) :
    Anchored (start (S := .exact) sampleRate bpm now) now :=
  ⟨⟨0, rfl⟩, ⟨1, rfl, one_pos⟩, le_refl now⟩

namespace Anchored

lemma mono (h : Anchored c now) (hle : now ≤ since) : Anchored c since :=
  ⟨h.elapsed, h.rate, h.started.trans hle⟩

lemma pace_nonneg (h : Anchored c now) : 0 ≤ c.pace := by
  obtain ⟨r, hr, hpos⟩ := h.rate
  unfold pace
  split_ifs
  · rw [hr]
    exact hpos.le
  · exact le_refl 0

lemma advance_nonneg (h : Anchored c now) (hle : since ≤ till) : 0 ≤ c.advance since till := by
  have helapsed : (0 : ℚ) ≤ ((till - since : ℤ) : ℚ) := by exact_mod_cast sub_nonneg.mpr hle
  exact mul_nonneg (div_nonneg helapsed (by norm_num)) h.pace_nonneg

lemma showSeconds_eq (h : Anchored c now) {q : ℚ} (hq : c.elapsedSeconds = some q)
    (hnow : now ≤ since) : c.showSeconds since = some (q + c.advance c.startedAtNs since) := by
  obtain ⟨r, hr, -⟩ := h.rate
  unfold showSeconds advance pace
  by_cases hrunning : c.running = true
  · have hdelta : (if c.startedAtNs < since then since - c.startedAtNs else 0) =
        since - c.startedAtNs := by
      have := h.started
      split_ifs
      · rfl
      · omega
    rw [if_pos hrunning, if_pos hrunning, hdelta, hq, hr]
    rfl
  · rw [if_neg hrunning, if_neg hrunning, mul_zero, add_zero, hq]

lemma showSeconds_advance (h : Anchored c now) (hnow : now ≤ since) (hle : since ≤ till) :
    ∃ p : ℚ, c.showSeconds since = some p ∧ c.showSeconds till = some (p + c.advance since till) := by
  obtain ⟨q, hq⟩ := h.elapsed
  refine ⟨_, h.showSeconds_eq hq hnow, ?_⟩
  refine (h.showSeconds_eq hq (hnow.trans hle)).trans (congrArg some ?_)
  unfold advance
  push_cast
  ring

lemma showSeconds_started (h : Anchored c now) (hnow : c.startedAtNs = now) :
    c.showSeconds now = c.elapsedSeconds := by
  obtain ⟨q, hq⟩ := h.elapsed
  rw [h.showSeconds_eq hq (le_refl now), hq, hnow, advance, sub_self, Int.cast_zero, zero_div,
    zero_mul, add_zero]

lemma call (h : Anchored c now) : Anchored (c.call now k) now := by
  obtain ⟨q, hq⟩ := h.elapsed
  have hshown := h.showSeconds_eq hq (le_refl now)
  cases k with
  | play =>
    unfold TransportClock.call TransportClock.play
    split_ifs
    · exact h
    · exact ⟨h.elapsed, h.rate, le_refl now⟩
  | pause =>
    unfold TransportClock.call TransportClock.pause
    split_ifs
    · exact ⟨⟨_, hshown⟩, h.rate, le_refl now⟩
    · exact h
  | stop => exact ⟨⟨0, rfl⟩, h.rate, le_refl now⟩
  | rewind => exact ⟨⟨0, rfl⟩, h.rate, le_refl now⟩
  | setBpm bpm => exact ⟨h.elapsed, h.rate, h.started⟩
  | setSampleRate sampleRate => exact ⟨h.elapsed, h.rate, h.started⟩
  | setClockRate rate =>
    have hrate := clamp_exact (by norm_num : (9995 / 10000 : ℚ) ≤ 10005 / 10000)
      (if rate.isSome then rate else some 1)
    obtain ⟨r, hr, hlow⟩ := hrate
    have hpos : 0 < r := lt_of_lt_of_le (by norm_num) hlow
    unfold TransportClock.call TransportClock.setClockRate
    split_ifs
    · exact ⟨⟨_, hshown⟩, ⟨r, hr, hpos⟩, le_refl now⟩
    · exact ⟨h.elapsed, ⟨r, hr, hpos⟩, h.started⟩
  | seekSeconds seconds =>
    obtain ⟨p, hp, -⟩ := clamp_exact (by norm_num : (0 : ℚ) ≤ 604800) seconds
    exact ⟨⟨p, hp⟩, h.rate, le_refl now⟩

lemma showSeconds_call (h : Anchored c now) (hk : k.keepsPosition = true) :
    (c.call now k).showSeconds now = c.showSeconds now := by
  have hafter : Anchored (c.call now k) now := h.call
  cases k with
  | play =>
    unfold TransportClock.call TransportClock.play at hafter ⊢
    split_ifs at hafter ⊢ with hrunning
    · rfl
    · rw [hafter.showSeconds_started rfl]
      exact (if_neg hrunning).symm
  | pause =>
    unfold TransportClock.call TransportClock.pause
    split_ifs
    · rfl
    · rfl
  | stop => cases hk
  | rewind => cases hk
  | setBpm bpm => rfl
  | setSampleRate sampleRate => rfl
  | setClockRate rate =>
    unfold TransportClock.call TransportClock.setClockRate at hafter ⊢
    split_ifs at hafter ⊢ with hrunning
    · exact hafter.showSeconds_started rfl
    · exact (if_neg hrunning).trans (if_neg hrunning).symm
  | seekSeconds seconds => cases hk

end Anchored

/-! ## Runs -/

lemma inOrder_cons {atNs : ℤ} {rest : List (ℤ × TransportCall .exact)} :
    InOrder now ((atNs, k) :: rest) ↔ now ≤ atNs ∧ InOrder atNs rest := by
  unfold InOrder
  rw [List.map_cons, List.pairwise_cons, List.forall_mem_cons, List.pairwise_cons]
  constructor
  · rintro ⟨⟨hle, -⟩, hrest⟩
    exact ⟨hle, hrest⟩
  · rintro ⟨hle, hrest⟩
    exact ⟨⟨hle, fun b hb => hle.trans (hrest.1 b hb)⟩, hrest⟩

lemma Anchored.run {calls : List (ℤ × TransportCall .exact)} (h : Anchored c now)
    (hcalls : InOrder now calls) : Anchored (c.run calls) (lastInstant now calls) := by
  induction calls generalizing c now with
  | nil => exact h
  | cons timed rest ih =>
    obtain ⟨hle, hrest⟩ := inOrder_cons.mp hcalls
    exact ih (h.mono hle).call hrest

/-- **Over calls that keep the position it goes on by what the clock adds between them.** -/
theorem Anchored.position_run {calls : List (ℤ × TransportCall .exact)} (h : Anchored c now)
    (hcalls : InOrder now calls) (hkeep : ∀ timed ∈ calls, timed.2.keepsPosition = true) {p : ℚ}
    (hp : c.showSeconds now = some p) :
    (c.run calls).showSeconds (lastInstant now calls) = some (p + c.gained now calls) ∧
      0 ≤ c.gained now calls := by
  induction calls generalizing c now p with
  | nil => exact ⟨hp.trans (by rw [gained, add_zero]), le_refl 0⟩
  | cons timed rest ih =>
    obtain ⟨atNs, k⟩ := timed
    obtain ⟨hle, hrest⟩ := inOrder_cons.mp hcalls
    obtain ⟨hk, hkeep⟩ := List.forall_mem_cons.mp hkeep
    obtain ⟨p', hp', hadvanced⟩ := h.showSeconds_advance (le_refl now) hle
    obtain rfl := Option.some.inj (hp'.symm.trans hp)
    have hthere := ((h.mono hle).showSeconds_call hk).trans hadvanced
    obtain ⟨hshown, hgained⟩ := ih (h.mono hle).call hrest hkeep hthere
    refine ⟨hshown.trans ?_, add_nonneg (h.advance_nonneg hle) hgained⟩
    rw [gained, add_assoc]

/-- **The position is continuous over every run of control calls.** -/
theorem position_continuous (sampleRate bpm : Option ℚ) (made : ℤ)
    (calls : List (ℤ × TransportCall .exact)) (hcalls : InOrder made calls) :
    let c := (start (S := .exact) sampleRate bpm made).run calls
    let now := lastInstant made calls
    (∀ atNs, now ≤ atNs → ∃ p : ℚ, c.showSeconds atNs = some p ∧
        ∀ k : TransportCall .exact, k.keepsPosition = true →
          (c.call atNs k).showSeconds atNs = some p) ∧
      (∀ since till, now ≤ since → since ≤ till →
        ∃ p q r : ℚ, c.showSeconds since = some p ∧ c.showSeconds till = some q ∧
          c.clockRate = some r ∧ p ≤ q ∧
          q = p + if c.running then ((till - since : ℤ) : ℚ) / 1000000000 * r else 0) ∧
      ∀ more, InOrder now more → (∀ timed ∈ more, timed.2.keepsPosition = true) →
        ∃ p q : ℚ, c.showSeconds now = some p ∧
          (c.run more).showSeconds (lastInstant now more) = some q ∧
          p ≤ q ∧ q = p + c.gained now more := by
  intro c now
  have h : Anchored c now := (anchored_start sampleRate bpm).run hcalls
  refine ⟨fun atNs hatNs => ?_, fun since till hsince htill => ?_, fun more hmore hkeep => ?_⟩
  · obtain ⟨p, hp, -⟩ := h.showSeconds_advance hatNs (le_refl atNs)
    exact ⟨p, hp, fun k hk => ((h.mono hatNs).showSeconds_call hk).trans hp⟩
  · obtain ⟨p, hp, hq⟩ := h.showSeconds_advance hsince htill
    obtain ⟨r, hr, -⟩ := h.rate
    refine ⟨p, _, r, hp, hq, hr, le_add_of_nonneg_right (h.advance_nonneg htill), ?_⟩
    unfold advance pace
    rw [hr]
    split_ifs
    · rfl
    · rw [mul_zero]
  · obtain ⟨p, hp, -⟩ := h.showSeconds_advance (le_refl now) (le_refl now)
    obtain ⟨hq, hgained⟩ := h.position_run hmore hkeep hp
    exact ⟨p, _, hp, hq, le_add_of_nonneg_right hgained, rfl⟩

theorem position_continuous_rate_change :
    InOrder (S := .exact) 0 [(0, .play), (2000000000, .setClockRate (some (1 / 2)))] ∧
      ∃ p : ℚ, ((start (S := .exact) (some 48000) (some 120) 0).run
        [(0, .play), (2000000000, .setClockRate (some (1 / 2)))]).showSeconds 2000000000 = some p :=
  have hcalls : InOrder (S := .exact) 0
      [(0, .play), (2000000000, .setClockRate (some (1 / 2)))] := by decide
  ⟨hcalls, (((position_continuous (some 48000) (some 120) 0 _ hcalls).1 2000000000
    (le_refl _)).imp fun _ h => h.1)⟩

end TransportClock

end StageForge
