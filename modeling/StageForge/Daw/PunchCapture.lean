import Mathlib
import StageForge.Library.PythonValue

/-!
# The gate of punch and loop capture

Blocks of a capture stream come in one after the other. The gate shifts each of them by the latency
of the input, cuts it to the window of the take and cuts what is left at the ends of loop passes.
-/

namespace StageForge

open Python

/-! ## The gate -/

def maxPreRollFrames : Int := 65536

def maxLoopPasses : Int := 128

structure CaptureSlice where
  offset : Int
  frames : Int
  correctedStartFrame : Int
  loopPass : Int
  deriving DecidableEq

/-- A block from the queue; what is not in it has a default. -/
structure CaptureBlock where
  generation : Option Int
  frames : Option Int
  showFrame : Option Int
  deriving DecidableEq

structure CaptureArguments where
  generation : Int
  punchInFrame : Int := 0
  punchOutFrame : Option Int := none
  preRollFrames : Int := 0
  latencyCompensationFrames : Int := 0
  loopStartFrame : Option Int := none
  loopEndFrame : Option Int := none
  maximumPasses : Int := 1

/-- The settings of a gate, which have passed the checks of the constructor. -/
structure CapturePlan where
  generation : Int
  punchIn : Int
  punchOut : Option Int
  preRoll : Int
  latency : Int
  /-- The first frame of the loop and the one after its last. -/
  loop : Option (Int × Int)
  maximumPasses : Int
  generation_pos : 1 ≤ generation
  preRoll_mem : 0 ≤ preRoll ∧ preRoll ≤ maxPreRollFrames
  latency_mem : 0 ≤ latency ∧ latency ≤ maxPreRollFrames
  punch_lt : 0 ≤ punchIn ∧ ∀ out ∈ punchOut, punchIn < out
  loop_lt : ∀ range ∈ loop, 0 ≤ range.1 ∧ range.1 < range.2
  passes_mem : 1 ≤ maximumPasses ∧ maximumPasses ≤ maxLoopPasses

namespace CapturePlan

/-- The loop of the arguments; `none` if one end is missing or they are in no order. -/
def loopOf : Option Int → Option Int → Option (Option { range : Int × Int // 0 ≤ range.1 ∧ range.1 < range.2 })
  | none, none => some none
  | some first, some last =>
    if h : 0 ≤ first ∧ first < last then some (some ⟨(first, last), h⟩) else none
  | _, _ => none

def init (a : CaptureArguments) : Except Error CapturePlan :=
  if hgeneration : 1 ≤ a.generation then
    if hpreRoll : 0 ≤ a.preRollFrames ∧ a.preRollFrames ≤ maxPreRollFrames then
      if hlatency : 0 ≤ a.latencyCompensationFrames ∧
          a.latencyCompensationFrames ≤ maxPreRollFrames then
        if hpunch : 0 ≤ a.punchInFrame ∧ ∀ out ∈ a.punchOutFrame, a.punchInFrame < out then
          match loopOf a.loopStartFrame a.loopEndFrame with
          | none => .error (.valueError "invalid loop capture range")
          | some loop =>
            if hpasses : 1 ≤ a.maximumPasses ∧ a.maximumPasses ≤ maxLoopPasses then
              .ok
                { generation := a.generation
                  punchIn := a.punchInFrame
                  punchOut := a.punchOutFrame
                  preRoll := a.preRollFrames
                  latency := a.latencyCompensationFrames
                  loop := loop.map Subtype.val
                  maximumPasses := a.maximumPasses
                  generation_pos := hgeneration
                  preRoll_mem := hpreRoll
                  latency_mem := hlatency
                  punch_lt := hpunch
                  loop_lt := by
                    intro range hrange
                    obtain ⟨checked, -, rfl⟩ := Option.map_eq_some_iff.mp hrange
                    exact checked.property
                  passes_mem := hpasses }
            else .error (.valueError "loop capture pass count is out of range")
        else .error (.valueError "invalid punch range")
      else .error (.valueError "latency compensation exceeds bounded capacity")
    else .error (.valueError "pre-roll exceeds bounded capacity")
  else .error (.valueError "capture generation must be positive")

variable (p : CapturePlan)

def captureStart : Int := max 0 (p.punchIn - p.preRoll)

/-- `capture_end`; none if the take is open. -/
def captureEnd : Option Int := match p.loop with
  | none => p.punchOut
  | some (first, last) => some (first + (last - first) * p.maximumPasses)

/-- The pass of a frame, and where the slice that begins with it ends. -/
def passAt (finish cursor : Int) : Int × Int := match p.loop with
  | none => (0, finish)
  | some (first, last) =>
    if cursor < first then (0, min finish first)
    else
      let pass := (cursor - first) / (last - first)
      (pass, min finish (first + (pass + 1) * (last - first)))

/-- The `while` loop, which goes on by at least a frame each time. -/
def slices (start finish : Int) : ℕ → Int → List CaptureSlice
  | 0, _ => []
  | fuel + 1, cursor =>
    if cursor < finish then
      let (pass, boundary) := p.passAt finish cursor
      ⟨cursor - start, boundary - cursor, cursor, pass⟩ :: slices start finish fuel boundary
    else []

end CapturePlan

structure PunchCaptureGate where
  plan : CapturePlan
  selectedFrames : Int := 0
  discardedFrames : Int := 0
  staleBlocks : ℕ := 0
  loopPasses : Finset Int := ∅
  complete : Bool := false

namespace PunchCaptureGate

variable (g : PunchCaptureGate)

/-- The passes that the slices of a block have entered. -/
def passesOf (slices : List CaptureSlice) : Finset Int := match g.plan.loop with
  | none => ∅
  | some (first, _) =>
    ((slices.filter fun s => first ≤ s.correctedStartFrame).map CaptureSlice.loopPass).toFinset

def select (block : CaptureBlock) : PunchCaptureGate × List CaptureSlice :=
  if block.generation.getD g.plan.generation ≠ g.plan.generation then
    ({ g with staleBlocks := g.staleBlocks + 1 }, [])
  else
    let frames := block.frames.getD 0
    let start := max 0 (block.showFrame.getD 0 - g.plan.latency)
    let stop := start + frames
    let first := max start g.plan.captureStart
    let finish := min stop (g.plan.captureEnd.getD stop)
    let complete := g.plan.captureEnd.any fun captureEnd => captureEnd ≤ stop
    if finish ≤ first then
      ({ g with discardedFrames := g.discardedFrames + frames, complete }, [])
    else
      let slices := g.plan.slices start finish (finish - first).toNat first
      let selected := (slices.map CaptureSlice.frames).sum
      ({ g with
          selectedFrames := g.selectedFrames + selected
          discardedFrames := g.discardedFrames + (frames - selected)
          loopPasses := g.loopPasses ∪ g.passesOf slices
          complete }, slices)

end PunchCaptureGate

/-! ## Where the frames go -/

/-- A frame of the stream, the frame of the take that it becomes, and the pass. -/
structure PlacedFrame where
  raw : Int
  corrected : Int
  loopPass : Int
  deriving DecidableEq

/-- The frames of a slice of a block that begins at `raw`. -/
def CaptureSlice.placed (raw : Int) (s : CaptureSlice) : List PlacedFrame :=
  (List.range s.frames.toNat).map fun k : ℕ =>
    ⟨raw + s.offset + k, s.correctedStartFrame + k, s.loopPass⟩

namespace CapturePlan

variable (p : CapturePlan)

def passOf (frame : Int) : Int := match p.loop with
  | none => 0
  | some (first, last) => if frame < first then 0 else (frame - first) / (last - first)

def InWindow (frame : Int) : Prop :=
  p.captureStart ≤ frame ∧ ∀ captureEnd ∈ p.captureEnd, frame < captureEnd

instance : DecidablePred p.InWindow := fun _ => inferInstanceAs (Decidable (_ ∧ _))

/-- A contiguous stream of the generation of the take, in blocks of some sizes. -/
def stream (start : Int) : List ℕ → List CaptureBlock
  | [] => []
  | frames :: sizes =>
    ⟨some p.generation, some frames, some start⟩ :: stream (start + frames) sizes

/-- A block that begins before the latency has passed and reaches into the window. -/
def reachesEarly (block : CaptureBlock) : Bool :=
  block.showFrame.getD 0 < p.latency ∧ p.captureStart < block.frames.getD 0 ∧
    p.captureEnd.all fun captureEnd => p.captureStart < captureEnd

variable {p} {start finish cursor raw : Int}

lemma captureStart_nonneg (p : CapturePlan) : 0 ≤ p.captureStart := le_max_left _ _

lemma passAt_spec (h : cursor < finish) :
    cursor < (p.passAt finish cursor).2 ∧ (p.passAt finish cursor).2 ≤ finish ∧
      ∀ frame, cursor ≤ frame → frame < (p.passAt finish cursor).2 →
        p.passOf frame = (p.passAt finish cursor).1 := by
  unfold passAt passOf
  cases hloop : p.loop with
  | none => exact ⟨h, le_refl _, fun _ _ _ => rfl⟩
  | some range =>
    obtain ⟨first, last⟩ := range
    have hlength : 0 < last - first := by
      have hlt := (p.loop_lt _ hloop).2
      omega
    simp only
    by_cases hbefore : cursor < first
    · rw [if_pos hbefore]
      refine ⟨lt_min h hbefore, min_le_left _ _, fun frame _ hframe => ?_⟩
      exact if_pos (lt_of_lt_of_le hframe (min_le_right _ _))
    · rw [if_neg hbefore]
      simp only
      have hpass := Int.lt_ediv_add_one_mul_self (cursor - first) hlength
      have hfloor := Int.ediv_mul_le (cursor - first) hlength.ne'
      refine ⟨lt_min h (by omega), min_le_left _ _, fun frame hfrom hframe => ?_⟩
      rw [if_neg (by omega)]
      refine le_antisymm ?_ ?_
      · exact Int.lt_add_one_iff.mp ((Int.ediv_lt_iff_lt_mul hlength).mpr (by omega))
      · exact (Int.le_ediv_iff_mul_le hlength).mpr (by omega)

/-- **The slices of a window cover it once, in order.** By induction on the fuel; a frame for each
turn of the loop is enough. -/
lemma slices_placed (start raw : Int) : ∀ {fuel : ℕ} {cursor : Int},
    (finish - cursor).toNat ≤ fuel →
      (p.slices start finish fuel cursor).flatMap (CaptureSlice.placed raw) =
        (List.range (finish - cursor).toNat).map fun k : ℕ =>
          ⟨raw + (cursor - start) + k, cursor + k, p.passOf (cursor + k)⟩
  | 0, cursor, hfuel => by
    rw [Nat.le_zero.mp hfuel]
    rfl
  | fuel + 1, cursor, hfuel => by
    rw [slices]
    by_cases h : cursor < finish
    · obtain ⟨hlt, hle, hpass⟩ := passAt_spec (p := p) h
      rw [if_pos h]
      generalize hat : p.passAt finish cursor = at' at hlt hle hpass
      obtain ⟨pass, boundary⟩ := at'
      simp only at hlt hle hpass ⊢
      have hsum : (finish - cursor).toNat =
          (boundary - cursor).toNat + (finish - boundary).toNat := by omega
      rw [List.flatMap_cons, slices_placed start raw (by omega), hsum, List.range_add,
        List.map_append, List.map_map]
      refine congrArg₂ _ ?_ ?_
      · rw [CaptureSlice.placed]
        dsimp only
        refine List.map_congr_left fun k hk => ?_
        have hk := List.mem_range.mp hk
        rw [hpass (cursor + k) (by omega) (by omega)]
      · refine List.map_congr_left fun k _ => ?_
        have hcast : ((boundary - cursor).toNat : Int) = boundary - cursor := by omega
        simp only [Function.comp_apply, Nat.cast_add, hcast]
        refine congrArg₂ (fun raw corrected => PlacedFrame.mk raw corrected (p.passOf corrected))
          (by omega) (by omega)
    · rw [if_neg h, Int.toNat_of_nonpos (by omega)]
      rfl

/-- What the take has of a stream of so many frames, however it is cut into blocks. -/
def frames (p : CapturePlan) (start : Int) (count : ℕ) : List PlacedFrame :=
  ((List.range count).map fun k : ℕ =>
    (⟨start + k, start + k - p.latency, p.passOf (start + k - p.latency)⟩ : PlacedFrame)).filter
      fun f => p.InWindow f.corrected

lemma mem_frames {count : ℕ} {f : PlacedFrame} : f ∈ p.frames start count ↔
      (start ≤ f.raw ∧ f.raw < start + count) ∧ p.InWindow (f.raw - p.latency) ∧
        f.corrected = f.raw - p.latency ∧ f.loopPass = p.passOf f.corrected := by
  obtain ⟨raw, corrected, pass⟩ := f
  rw [frames, List.mem_filter, List.mem_map, decide_eq_true_iff]
  constructor
  · rintro ⟨⟨k, hk, heq⟩, hwindow⟩
    have hk := List.mem_range.mp hk
    obtain ⟨rfl, rfl, rfl⟩ := PlacedFrame.mk.injEq .. ▸ heq
    exact ⟨⟨by simp, by simpa using hk⟩, hwindow, rfl, rfl⟩
  · rintro ⟨⟨hfrom, hto⟩, hwindow, hcorrected, hpass⟩
    simp only at hfrom hto hwindow hcorrected hpass
    have hk : start + ((raw - start).toNat : Int) = raw := by omega
    refine ⟨⟨(raw - start).toNat, List.mem_range.mpr (by omega), ?_⟩, hcorrected ▸ hwindow⟩
    rw [hk, hpass, hcorrected]

lemma frames_pairwise (count : ℕ) :
    (p.frames start count).Pairwise fun f f' => f.corrected < f'.corrected := by
  refine List.Pairwise.filter _ (List.pairwise_map.mpr ?_)
  refine List.pairwise_lt_range.imp fun hlt => ?_
  simp only
  omega

lemma frames_add (a b : ℕ) :
    p.frames start (a + b) = p.frames start a ++ p.frames (start + a) b := by
  rw [frames, frames, frames, List.range_add, List.map_append, List.filter_append, List.map_map]
  refine congrArg (_ ++ ·) (congrArg (List.filter _) (List.map_congr_left fun k _ => ?_))
  simp only [Function.comp_apply, Nat.cast_add, ← add_assoc]

end CapturePlan

namespace PunchCaptureGate

open CapturePlan

def captured (g : PunchCaptureGate) : List CaptureBlock → List PlacedFrame
  | [] => []
  | block :: blocks =>
    (g.select block).2.flatMap (CaptureSlice.placed (block.showFrame.getD 0)) ++
      captured (g.select block).1 blocks

variable {g : PunchCaptureGate} {start : Int} {sizes : List ℕ}

lemma select_plan (block : CaptureBlock) : (g.select block).1.plan = g.plan := by
  unfold select
  split
  · rfl
  · dsimp only
    split <;> rfl

lemma select_slices {g' : PunchCaptureGate} (h : g'.plan = g.plan) (block : CaptureBlock) :
    (g'.select block).2 = (g.select block).2 := by
  unfold select
  rw [h]
  split
  · rfl
  · dsimp only
    split <;> rfl

lemma captured_eq (g : PunchCaptureGate) (blocks : List CaptureBlock) :
    g.captured blocks = blocks.flatMap fun block =>
      (g.select block).2.flatMap (CaptureSlice.placed (block.showFrame.getD 0)) := by
  suffices ∀ g' : PunchCaptureGate, g'.plan = g.plan → g'.captured blocks = blocks.flatMap
      fun block => (g.select block).2.flatMap (CaptureSlice.placed (block.showFrame.getD 0)) from
    this g rfl
  induction blocks with
  | nil => exact fun _ _ => rfl
  | cons block blocks ih =>
    intro g' hplan
    rw [captured, List.flatMap_cons, select_slices hplan, ih _ ((select_plan block).trans hplan)]

lemma select_placed (g : PunchCaptureGate) (raw : Int) (n : ℕ) :
    let start := max 0 (raw - g.plan.latency)
    let first := max start g.plan.captureStart
    let finish := min (start + n) (g.plan.captureEnd.getD (start + n))
    (g.select ⟨some g.plan.generation, some n, some raw⟩).2.flatMap (CaptureSlice.placed raw) =
      (List.range (finish - first).toNat).map fun k : ℕ =>
        ⟨raw + (first - start) + k, first + k, g.plan.passOf (first + k)⟩ := by
  intro start first finish
  rw [select, Option.getD_some, if_neg (fun h => h rfl)]
  simp only [Option.getD_some]
  by_cases hempty : finish ≤ first
  · rw [if_pos hempty, Int.toNat_of_nonpos (by omega)]
    rfl
  · rw [if_neg hempty]
    exact slices_placed start raw (le_refl _)

lemma mem_select_placed {raw : Int} {n : ℕ} {f : PlacedFrame} :
    f ∈ (g.select ⟨some g.plan.generation, some n, some raw⟩).2.flatMap (CaptureSlice.placed raw) ↔
      (raw ≤ f.raw ∧ f.raw < raw + n) ∧ g.plan.InWindow f.corrected ∧
        f.corrected = max 0 (raw - g.plan.latency) + (f.raw - raw) ∧
          f.loopPass = g.plan.passOf f.corrected := by
  obtain ⟨r, corrected, pass⟩ := f
  rw [select_placed, List.mem_map, InWindow]
  generalize hstart : max 0 (raw - g.plan.latency) = start
  constructor
  · rintro ⟨k, hk, heq⟩
    have hk := List.mem_range.mp hk
    obtain ⟨rfl, rfl, rfl⟩ := PlacedFrame.mk.injEq .. ▸ heq
    refine ⟨⟨?_, ?_⟩, ⟨?_, ?_⟩, ?_, rfl⟩
    · simp only
      omega
    · simp only
      omega
    · simp only
      omega
    · intro captureEnd hend
      rw [Option.mem_def.mp hend, Option.getD_some] at hk
      simp only
      omega
    · simp only
      omega
  · rintro ⟨⟨hfrom, hto⟩, ⟨hafter, hbefore⟩, hcorrected, hpass⟩
    simp only at hfrom hto hafter hbefore hcorrected hpass
    have hfinish : corrected < g.plan.captureEnd.getD (start + n) := by
      cases hend : g.plan.captureEnd with
      | none => exact (by omega : corrected < start + n)
      | some captureEnd => exact hbefore captureEnd hend
    refine ⟨(corrected - max start g.plan.captureStart).toNat, List.mem_range.mpr (by omega), ?_⟩
    have hk : max start g.plan.captureStart +
        ((corrected - max start g.plan.captureStart).toNat : Int) = corrected := by omega
    rw [hk, hpass]
    refine congrArg (PlacedFrame.mk · _ _) ?_
    omega

lemma select_placed_of_not_early {raw : Int} {n : ℕ}
    (h : g.plan.reachesEarly ⟨some g.plan.generation, some n, some raw⟩ = false) :
    (g.select ⟨some g.plan.generation, some n, some raw⟩).2.flatMap (CaptureSlice.placed raw) =
      g.plan.frames raw n := by
  have hsorted : ((g.select ⟨some g.plan.generation, some n, some raw⟩).2.flatMap
      (CaptureSlice.placed raw)).Pairwise fun f f' => f.corrected < f'.corrected := by
    rw [select_placed]
    refine List.pairwise_map.mpr (List.pairwise_lt_range.imp fun hlt => ?_)
    simp only
    omega
  refine List.Pairwise.eq_of_mem_iff hsorted (frames_pairwise n) fun f => ?_
  rw [mem_select_placed, mem_frames]
  rw [reachesEarly, decide_eq_false_iff_not, Option.getD_some, Option.getD_some,
    Option.all_eq_true] at h
  refine and_congr_right fun ⟨hfrom, hto⟩ => ?_
  by_cases hearly : raw < g.plan.latency
  · rw [max_eq_left (by omega)]
    constructor
    · rintro ⟨⟨hafter, hbefore⟩, hcorrected, -⟩
      refine absurd ⟨hearly, by omega, fun captureEnd hend => ?_⟩ h
      exact decide_eq_true (lt_of_le_of_lt hafter (hbefore captureEnd hend))
    · rintro ⟨⟨hafter, hbefore⟩, -, -⟩
      refine absurd ⟨hearly, by omega, fun captureEnd hend => ?_⟩ h
      exact decide_eq_true (lt_of_le_of_lt hafter (hbefore captureEnd hend))
  · rw [max_eq_right (by omega), show raw - g.plan.latency + (f.raw - raw) =
      f.raw - g.plan.latency by omega]
    constructor
    · rintro ⟨hwindow, hcorrected, hpass⟩
      exact ⟨hcorrected ▸ hwindow, hcorrected, hpass⟩
    · rintro ⟨hwindow, hcorrected, hpass⟩
      exact ⟨hcorrected ▸ hwindow, hcorrected, hpass⟩

lemma mem_stream {block : CaptureBlock} (h : block ∈ g.plan.stream start sizes) :
    ∃ (raw : Int) (n : ℕ), block = ⟨some g.plan.generation, some n, some raw⟩ ∧
      start ≤ raw ∧ raw + n ≤ start + sizes.sum := by
  induction sizes generalizing start with
  | nil => exact absurd h (List.not_mem_nil)
  | cons n sizes ih =>
    rw [List.sum_cons, Nat.cast_add]
    rcases List.mem_cons.mp h with rfl | h
    · exact ⟨start, n, rfl, le_refl _, by omega⟩
    · obtain ⟨raw, n', rfl, hfrom, hto⟩ := ih h
      exact ⟨raw, n', rfl, by omega, by omega⟩

/-- **Every frame of the window of the take is captured once, in its place.** -/
structure PlacedOnce (g : PunchCaptureGate) (start : Int) (sizes : List ℕ) : Prop where
  /-- The frame `raw` is captured exactly when `raw - latency` lies in the window, there and with the
  pass of that frame. -/
  exact : ∀ f : PlacedFrame, f ∈ g.captured (g.plan.stream start sizes) ↔
    (start ≤ f.raw ∧ f.raw < start + sizes.sum) ∧ g.plan.InWindow (f.raw - g.plan.latency) ∧
      f.corrected = f.raw - g.plan.latency ∧ f.loopPass = g.plan.passOf f.corrected
  once : ((g.captured (g.plan.stream start sizes)).map PlacedFrame.corrected).Nodup
  /-- What is captured has nothing to do with the sizes of the blocks. -/
  uncut : g.captured (g.plan.stream start sizes) = g.plan.frames start sizes.sum

lemma captured_of_not_early
    (h : ∀ block ∈ g.plan.stream start sizes, g.plan.reachesEarly block = false) :
    g.captured (g.plan.stream start sizes) = g.plan.frames start sizes.sum := by
  rw [captured_eq]
  induction sizes generalizing start with
  | nil => rfl
  | cons n sizes ih =>
    obtain ⟨hfirst, hrest⟩ := List.forall_mem_cons.mp h
    rw [stream, List.flatMap_cons, ih hrest, List.sum_cons, frames_add]
    exact congrArg (· ++ _) (select_placed_of_not_early hfirst)

lemma misplaced_of_early {block : CaptureBlock} (hblock : block ∈ g.plan.stream start sizes)
    (hearly : g.plan.reachesEarly block = true) :
    ∃ f ∈ g.captured (g.plan.stream start sizes), f.corrected ≠ f.raw - g.plan.latency := by
  obtain ⟨raw, n, rfl, -, -⟩ := mem_stream hblock
  rw [reachesEarly, decide_eq_true_iff, Option.getD_some, Option.getD_some,
    Option.all_eq_true] at hearly
  obtain ⟨hbefore, hreaches, hopen⟩ := hearly
  have hstart := captureStart_nonneg g.plan
  refine ⟨⟨raw + g.plan.captureStart, g.plan.captureStart, g.plan.passOf g.plan.captureStart⟩,
    ?_, ?_⟩
  · rw [captured_eq]
    refine List.mem_flatMap.mpr ⟨_, hblock, mem_select_placed.mpr ⟨⟨?_, ?_⟩, ⟨le_refl _, ?_⟩, ?_, rfl⟩⟩
    · simp only [Option.getD_some]
      omega
    · simp only [Option.getD_some]
      omega
    · exact fun captureEnd hend => of_decide_eq_true (hopen captureEnd hend)
    · simp only [Option.getD_some]
      omega
  · simp only
    omega

/-- **When every frame is placed once.** For every gate and every stream of its generation, cut into any
blocks: if and only if no block that begins before the latency has passed reaches into the window. -/
theorem placed_once_iff (g : PunchCaptureGate) (start : Int) (sizes : List ℕ) :
    g.PlacedOnce start sizes ↔
      ∀ block ∈ g.plan.stream start sizes, g.plan.reachesEarly block = false := by
  constructor
  · intro hplaced block hblock
    by_contra hearly
    obtain ⟨f, hf, hne⟩ := misplaced_of_early hblock (Bool.not_eq_false _ ▸ hearly)
    exact hne ((hplaced.exact f).mp hf).2.2.1
  · intro h
    have hcaptured := captured_of_not_early h
    refine ⟨fun f => ?_, ?_, hcaptured⟩
    · rw [hcaptured, mem_frames]
    · rw [hcaptured]
      exact List.Pairwise.imp ne_of_lt (List.pairwise_map.mpr (frames_pairwise _))

/-- A gate that corrects a latency of 10 frames. -/
def earlyGate : PunchCaptureGate where
  plan :=
    { generation := 1
      punchIn := 0
      punchOut := none
      preRoll := 0
      latency := 10
      loop := none
      maximumPasses := 1
      generation_pos := by decide
      preRoll_mem := by decide
      latency_mem := by decide
      punch_lt := by decide
      loop_lt := by decide
      passes_mem := by decide }

/-- Two blocks of 20 frames from frame 0 on. The first is not shifted, so the frames 10 to 19 of the take
are captured twice, and as one block the same stream gives something else. -/
theorem first_block_misplaced :
    ¬ earlyGate.PlacedOnce 0 [20, 20] ∧ ((earlyGate.captured (earlyGate.plan.stream 0 [20, 20])).map
        PlacedFrame.corrected).count 10 = 2 ∧
      earlyGate.captured (earlyGate.plan.stream 0 [20, 20]) ≠
        earlyGate.captured (earlyGate.plan.stream 0 [40]) := by
  refine ⟨fun h => ?_, by decide +kernel, by decide +kernel⟩
  have htwice : ¬ ((earlyGate.captured (earlyGate.plan.stream 0 [20, 20])).map
      PlacedFrame.corrected).Nodup := by decide +kernel
  exact htwice h.once

end PunchCaptureGate

end StageForge
