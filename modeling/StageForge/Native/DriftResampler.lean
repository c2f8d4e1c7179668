import Mathlib.Data.Rat.Floor

/-!
# Drift correction of an audio output

`AdaptiveDriftController` of `native/include/stageforge/adaptive_drift_resampler.hpp` says how many frames an output
takes from its sources for a block of the hardware. Arithmetic is exact.
-/

namespace StageForge

structure AdaptiveDriftConfig where
  maxCorrectionPpm : ℚ
  queueGainPpm : ℚ
  smoothing : ℚ

/-- The command `AUDIO_DRIFT_CONFIG`, whose configuration is refused outside the bounds. -/
def audioDriftConfig (maxPpm queueGainPpm : ℚ) : Option AdaptiveDriftConfig :=
  if maxPpm < 0 ∨ 10000 < maxPpm ∨ queueGainPpm < 0 ∨ 10000 < queueGainPpm then none
  else some ⟨maxPpm, queueGainPpm, 1 / 20⟩

structure AdaptiveDriftController where
  config : AdaptiveDriftConfig
  correctionPpm : ℚ
  frameFraction : ℚ
  compensatedBlocks : ℕ

namespace AdaptiveDriftController

/-- The controller of a configuration, as the constructor, `configure` and `reset` leave it. -/
def configure (config : AdaptiveDriftConfig) : AdaptiveDriftController := ⟨config, 0, 0, 0⟩

def clamp {α : Type} [LinearOrder α] (value low high : α) : α :=
  if value < low then low else if high < value then high else value

/-- The correction that `update` moves towards; a rate that is not finite is `none`. -/
def desired (c : AdaptiveDriftController) (measuredRatePpm : Option ℚ) (rateValid : Bool)
    (queuedFrames targetFrames : ℕ) : ℚ :=
  let target : ℚ := (max 1 targetFrames : ℕ)
  let queueError := clamp ((queuedFrames - target) / target) (-2) 2
  let rateTerm := match measuredRatePpm with
    | some rate => if rateValid then -rate else 0
    | none => 0
  clamp (rateTerm + queueError * c.config.queueGainPpm) (-|c.config.maxCorrectionPpm|) |c.config.maxCorrectionPpm|

def update (c : AdaptiveDriftController) (measuredRatePpm : Option ℚ) (rateValid : Bool)
    (queuedFrames targetFrames : ℕ) : AdaptiveDriftController :=
  let alpha := clamp c.config.smoothing (1 / 1000) 1
  { c with
    correctionPpm := c.correctionPpm +
      (c.desired measuredRatePpm rateValid queuedFrames targetFrames - c.correctionPpm) * alpha }

def ratio (c : AdaptiveDriftController) : ℚ := max (1 / 2) (1 + c.correctionPpm / 1000000)

/-- What a block is worth in frames of the sources, with the fraction that is carried. -/
def exactFrames (c : AdaptiveDriftController) (outputFrames : ℕ) : ℚ := outputFrames * c.ratio + c.frameFraction

def sourceFramesFor (c : AdaptiveDriftController) (outputFrames : ℕ) : AdaptiveDriftController × ℕ :=
  if outputFrames = 0 then (c, 0)
  else
    let wholeFrames := ⌊c.exactFrames outputFrames⌋₊
    let low := if 8 < outputFrames then outputFrames - 8 else 1
    let high := outputFrames + 8
    let sourceFrames := clamp wholeFrames low high
    ({ c with
        frameFraction := c.exactFrames outputFrames - wholeFrames
        compensatedBlocks := if sourceFrames ≠ outputFrames then c.compensatedBlocks + 1 else c.compensatedBlocks },
      sourceFrames)

inductive Call
  | update (measuredRatePpm : Option ℚ) (rateValid : Bool) (queuedFrames targetFrames : ℕ)
  | sourceFramesFor (outputFrames : ℕ)

/-- The blocks that are asked for, each with the controller that it finds. -/
def blocks (c : AdaptiveDriftController) : List Call → List (AdaptiveDriftController × ℕ)
  | [] => []
  | .update rate valid queued target :: calls => (c.update rate valid queued target).blocks calls
  | .sourceFramesFor outputFrames :: calls => (c, outputFrames) :: (c.sourceFramesFor outputFrames).1.blocks calls

/-- The frames that a call returns more than the whole frames that its block is worth, were it not for the guard:
negative where the guard cuts frames off. -/
def guarded (c : AdaptiveDriftController) (outputFrames : ℕ) : ℤ :=
  (c.sourceFramesFor outputFrames).2 - if outputFrames = 0 then 0 else (⌊c.exactFrames outputFrames⌋₊ : ℤ)

def sumOver {α : Type} [Add α] [Zero α] (f : AdaptiveDriftController → ℕ → α)
    (blocks : List (AdaptiveDriftController × ℕ)) : α :=
  (blocks.map fun block => f block.1 block.2).sum

/-- The frames that were taken from the sources. -/
def sourceTotal (blocks : List (AdaptiveDriftController × ℕ)) : ℕ :=
  sumOver (fun c n => (c.sourceFramesFor n).2) blocks

/-- The output frames, each times the ratio of its time. -/
def exactTotal (blocks : List (AdaptiveDriftController × ℕ)) : ℚ := sumOver (fun c n => n * c.ratio) blocks

def guardedTotal (blocks : List (AdaptiveDriftController × ℕ)) : ℤ := sumOver guarded blocks

/-- A block whose correction is within eight frames, and that does not lose its only frame. -/
def Within (c : AdaptiveDriftController) (outputFrames : ℕ) : Prop :=
  outputFrames * |c.correctionPpm| ≤ 8000000 ∧ (outputFrames = 1 → 0 ≤ c.correctionPpm)

variable {c : AdaptiveDriftController} {config : AdaptiveDriftConfig} {calls : List Call} {n : ℕ}

lemma clamp_of_mem {α : Type} [LinearOrder α] {value low high : α} (hlow : low ≤ value) (hhigh : value ≤ high) :
    clamp value low high = value := by
  unfold clamp
  rw [if_neg (not_lt.mpr hlow), if_neg (not_lt.mpr hhigh)]

lemma clamp_mem {α : Type} [LinearOrder α] {low high : α} (value : α) (h : low ≤ high) :
    low ≤ clamp value low high ∧ clamp value low high ≤ high := by
  unfold clamp
  split_ifs with hbelow habove
  · exact ⟨le_refl _, h⟩
  · exact ⟨h, le_refl _⟩
  · exact ⟨not_lt.mp hbelow, not_lt.mp habove⟩

section

variable {α : Type} [AddMonoid α] {f : AdaptiveDriftController → ℕ → α} {block : AdaptiveDriftController × ℕ}
  {blocks : List (AdaptiveDriftController × ℕ)}

@[simp] lemma sumOver_nil : sumOver f [] = 0 := rfl

@[simp] lemma sumOver_cons : sumOver f (block :: blocks) = f block.1 block.2 + sumOver f blocks := by
  simp [sumOver]

end

/-! ## The correction -/

@[simp] lemma sourceFramesFor_config : (c.sourceFramesFor n).1.config = c.config := by
  unfold sourceFramesFor
  split_ifs <;> rfl

@[simp] lemma sourceFramesFor_correctionPpm : (c.sourceFramesFor n).1.correctionPpm = c.correctionPpm := by
  unfold sourceFramesFor
  split_ifs <;> rfl

lemma desired_le_max (rate : Option ℚ) (valid : Bool) (queued target : ℕ) :
    |c.desired rate valid queued target| ≤ |c.config.maxCorrectionPpm| :=
  abs_le.mpr (clamp_mem _ (neg_le_self (abs_nonneg _)))

lemma update_correction_le (rate : Option ℚ) (valid : Bool) (queued target : ℕ)
    (h : |c.correctionPpm| ≤ |c.config.maxCorrectionPpm|) :
    |(c.update rate valid queued target).correctionPpm| ≤ |c.config.maxCorrectionPpm| := by
  have hdesired := desired_le_max (c := c) rate valid queued target
  obtain ⟨hlow, hhigh⟩ := clamp_mem c.config.smoothing (show (1 / 1000 : ℚ) ≤ 1 by norm_num)
  unfold update
  set alpha := clamp c.config.smoothing (1 / 1000) 1
  set desired := c.desired rate valid queued target
  have hpos : 0 ≤ alpha := by linarith
  have hrest : 0 ≤ 1 - alpha := by linarith
  calc |c.correctionPpm + (desired - c.correctionPpm) * alpha|
      = |(1 - alpha) * c.correctionPpm + alpha * desired| := by ring_nf
    _ ≤ |(1 - alpha) * c.correctionPpm| + |alpha * desired| := abs_add_le _ _
    _ = (1 - alpha) * |c.correctionPpm| + alpha * |desired| := by
        rw [abs_mul, abs_mul, abs_of_nonneg hrest, abs_of_nonneg hpos]
    _ ≤ (1 - alpha) * |c.config.maxCorrectionPpm| + alpha * |c.config.maxCorrectionPpm| := by gcongr
    _ = |c.config.maxCorrectionPpm| := by ring

lemma correction_le_of_mem_blocks (h : |c.correctionPpm| ≤ |c.config.maxCorrectionPpm|) :
    ∀ block ∈ c.blocks calls, |block.1.correctionPpm| ≤ |c.config.maxCorrectionPpm| := by
  induction calls generalizing c with
  | nil => simp [blocks]
  | cons call calls ih =>
    cases call with
    | update rate valid queued target =>
      exact ih (c := c.update rate valid queued target) (update_correction_le rate valid queued target h)
    | sourceFramesFor n =>
      have hrest := ih (c := (c.sourceFramesFor n).1) (by simpa using h)
      rw [sourceFramesFor_config] at hrest
      simpa [blocks] using ⟨h, fun a b => hrest (a, b)⟩

/-! ## The frames -/

lemma half_le_ratio (c : AdaptiveDriftController) : 1 / 2 ≤ c.ratio := le_max_left _ _

def Carries (c : AdaptiveDriftController) : Prop := 0 ≤ c.frameFraction ∧ c.frameFraction < 1

lemma Carries.exactFrames_nonneg (h : c.Carries) (n : ℕ) : 0 ≤ c.exactFrames n := by
  have hratio := half_le_ratio c
  have hmul : 0 ≤ (n : ℚ) * c.ratio := by positivity
  unfold exactFrames
  linarith [h.1]

lemma Carries.sourceFramesFor (h : c.Carries) (n : ℕ) : (c.sourceFramesFor n).1.Carries := by
  by_cases hzero : n = 0
  · simpa [AdaptiveDriftController.sourceFramesFor, hzero] using h
  · have hfraction : (c.sourceFramesFor n).1.frameFraction = c.exactFrames n - ⌊c.exactFrames n⌋₊ := by
      simp [AdaptiveDriftController.sourceFramesFor, hzero]
    have hle := Nat.floor_le (h.exactFrames_nonneg n)
    have hlt := Nat.lt_floor_add_one (c.exactFrames n)
    unfold Carries
    rw [hfraction]
    constructor <;> linarith

lemma frames_conserved (c : AdaptiveDriftController) (n : ℕ) :
    ((c.sourceFramesFor n).2 : ℚ) - (c.guarded n : ℚ) + (c.sourceFramesFor n).1.frameFraction =
      n * c.ratio + c.frameFraction := by
  unfold guarded
  by_cases hzero : n = 0
  · subst hzero
    simp [AdaptiveDriftController.sourceFramesFor]
  · simp only [AdaptiveDriftController.sourceFramesFor, if_neg hzero]
    push_cast
    unfold exactFrames
    ring

lemma total_conserved (calls : List Call) (h : c.Carries) :
    ∃ fraction : ℚ, 0 ≤ fraction ∧ fraction < 1 ∧
      (sourceTotal (c.blocks calls) : ℚ) - guardedTotal (c.blocks calls) + fraction =
        exactTotal (c.blocks calls) + c.frameFraction := by
  induction calls generalizing c with
  | nil => exact ⟨c.frameFraction, h.1, h.2, by simp [sourceTotal, guardedTotal, exactTotal, blocks]⟩
  | cons call calls ih =>
    cases call with
    | update rate valid queued target => exact ih (c := c.update rate valid queued target) h
    | sourceFramesFor n =>
      obtain ⟨fraction, hnonneg, hlt, hrest⟩ := ih (h.sourceFramesFor n)
      have hcall := frames_conserved c n
      refine ⟨fraction, hnonneg, hlt, ?_⟩
      simp only [blocks, sourceTotal, guardedTotal, exactTotal, sumOver_cons] at hrest ⊢
      push_cast
      linarith

lemma guarded_of_within (hcarries : c.Carries) (h : c.Within n) : c.guarded n = 0 := by
  by_cases hzero : n = 0
  · simp [guarded, sourceFramesFor, hzero]
  obtain ⟨hfraction, hfraction'⟩ := hcarries
  obtain ⟨hlower, hupper⟩ := abs_le.mp (show |(n : ℚ) * c.correctionPpm| ≤ 8000000 by
    rw [abs_mul, abs_of_nonneg (by linarith : (0 : ℚ) ≤ n)]
    exact h.1)
  have hratio : (n : ℚ) * (1 + c.correctionPpm / 1000000) ≤ n * c.ratio := by
    gcongr
    exact le_max_right _ _
  -- The ratio is cut to a half only where this lowers it no further.
  have hhalf : (n : ℚ) * (1 / 2) ≤ n * c.ratio := by
    gcongr
    exact half_le_ratio c
  have hle : (n : ℚ) * c.ratio ≤ n + 8 := by
    unfold ratio
    rcases le_total (1 / 2 : ℚ) (1 + c.correctionPpm / 1000000) with hmax | hmax
    · rw [max_eq_right hmax]
      linarith
    · rw [max_eq_left hmax]
      linarith
  have hhigh : ⌊c.exactFrames n⌋₊ ≤ n + 8 := by
    refine Nat.lt_add_one_iff.mp ((Nat.floor_lt' (by omega)).mpr ?_)
    unfold exactFrames
    push_cast
    linarith
  have hlow : (if 8 < n then n - 8 else 1) ≤ ⌊c.exactFrames n⌋₊ := by
    refine Nat.le_floor ?_
    unfold exactFrames
    split_ifs with hlarge
    · rw [Nat.cast_sub hlarge.le]
      push_cast
      linarith
    · rcases Nat.lt_or_ge 1 n with hmany | hone
      · have htwo : (2 : ℚ) ≤ n := by exact_mod_cast hmany
        push_cast
        linarith
      · obtain rfl : n = 1 := by omega
        have hup := h.2 rfl
        push_cast at hratio ⊢
        linarith
  unfold guarded sourceFramesFor
  rw [if_neg hzero, if_neg hzero]
  dsimp only
  rw [clamp_of_mem hlow hhigh, sub_self]

lemma guardedTotal_of_within (hcarries : c.Carries) (h : ∀ block ∈ c.blocks calls, block.1.Within block.2) :
    guardedTotal (c.blocks calls) = 0 := by
  induction calls generalizing c with
  | nil => rfl
  | cons call calls ih =>
    cases call with
    | update rate valid queued target => exact ih (c := c.update rate valid queued target) hcarries h
    | sourceFramesFor n =>
      simp only [blocks, List.forall_mem_cons] at h
      have hrest := ih (hcarries.sourceFramesFor n) h.2
      simp only [guardedTotal] at hrest
      simp only [blocks, guardedTotal, sumOver_cons, guarded_of_within hcarries h.1, hrest, add_zero]

/-- The frames that a controller takes are accounted for: with those that the guard changes they are what the
blocks are worth, up to less than one, and the guard changes none where the correction of each block is within
eight frames. -/
theorem frames_accounted (config : AdaptiveDriftConfig) (calls : List Call) :
    (∀ block ∈ (configure config).blocks calls, |block.1.correctionPpm| ≤ |config.maxCorrectionPpm|) ∧
      |(sourceTotal ((configure config).blocks calls) : ℚ) - guardedTotal ((configure config).blocks calls) -
        exactTotal ((configure config).blocks calls)| < 1 ∧
      ((∀ block ∈ (configure config).blocks calls, block.1.Within block.2) →
        |(sourceTotal ((configure config).blocks calls) : ℚ) -
          exactTotal ((configure config).blocks calls)| < 1) := by
  have hcarries : (configure config).Carries := ⟨le_refl _, by norm_num [configure]⟩
  obtain ⟨fraction, hnonneg, hlt, htotal⟩ := total_conserved calls hcarries
  have hstart : (configure config).frameFraction = 0 := rfl
  refine ⟨correction_le_of_mem_blocks (by simp [configure]), ?_, fun hwithin => ?_⟩
  · rw [abs_lt]
    constructor <;> linarith
  · have hguarded : (guardedTotal ((configure config).blocks calls) : ℚ) = 0 := by
      exact_mod_cast guardedTotal_of_within hcarries hwithin
    rw [abs_lt]
    constructor <;> linarith

theorem frames_accounted_blocks :
    |(sourceTotal ((configure ⟨10000, 1000, 1⟩).blocks
          [.update (some (-10000)) true 512 512, .sourceFramesFor 512, .sourceFramesFor 512]) : ℚ) -
        exactTotal ((configure ⟨10000, 1000, 1⟩).blocks
          [.update (some (-10000)) true 512 512, .sourceFramesFor 512, .sourceFramesFor 512])| < 1 :=
  (frames_accounted ⟨10000, 1000, 1⟩
    [.update (some (-10000)) true 512 512, .sourceFramesFor 512, .sourceFramesFor 512]).2.2 (by
      have hcorrection :
          ((configure ⟨10000, 1000, 1⟩).update (some (-10000)) true 512 512).correctionPpm = 10000 := by
        norm_num [configure, update, desired, clamp]
      simp [blocks, Within, hcorrection]
      norm_num)

/-- Large blocks at the largest correction: the guard keeps the third block to 8200 frames, and what it cuts off
is not carried. -/
theorem guard_loses_frames :
    ¬ ∀ (maxPpm queueGainPpm : ℚ) (config : AdaptiveDriftConfig) (calls : List Call),
      audioDriftConfig maxPpm queueGainPpm = some config →
        (∀ block ∈ (configure config).blocks calls, block.2 ≤ 8192) →
          |(sourceTotal ((configure config).blocks calls) : ℚ) - exactTotal ((configure config).blocks calls)| < 1 := by
  intro h
  have hlost := h 10000 1000 ⟨10000, 1000, 1 / 20⟩
    [.update (some (-10000)) true 8192 8192, .sourceFramesFor 8192,
      .update (some (-10000)) true 8192 8192, .sourceFramesFor 8192,
      .update (some (-10000)) true 8192 8192, .sourceFramesFor 8192] (by norm_num [audioDriftConfig]) (by simp [blocks])
  revert hlost
  decide +kernel

end AdaptiveDriftController

end StageForge
