import StageForge.Daw.Session
import StageForge.Library.Bisect

/-!
# Automation lanes

The value of a lane at a frame, looked up from all its points, and a lane that is prepared once and
then read block by block: a search finds the segment where the block starts, and a cursor goes on
from segment to segment.
-/

namespace StageForge

open Python

/-! ## The plain lookup -/

def AutomationPoint.towards (left right : AutomationPoint) (frame : ℤ) : ℚ :=
  let ratio := ((frame - left.frame : ℤ) : ℚ) / (max 1 (right.frame - left.frame) : ℤ)
  left.value + (right.value - left.value) * ratio

/-- The value at a frame that does not lie before the first of the points. -/
def lookUp (ordered : List AutomationPoint) (frame : ℤ) (default : ℚ) : ℚ :=
  match (ordered.zip ordered.tail).find? fun pair => decide (frame ≤ pair.2.frame) with
  | some (left, right) => left.towards right frame
  | none => (ordered.getLast?.map AutomationPoint.value).getD default

/-- There is no point, or the first comes later. -/
def startsAfter (ordered : List AutomationPoint) (frame : ℤ) : Bool :=
  ordered.head?.all fun first => decide (frame < first.frame)

def automationValue (points : List AutomationPoint) (frame : ℤ) (default : ℚ) : ℚ :=
  let ordered := sortOn AutomationPoint.frame points
  if startsAfter ordered frame then default else lookUp ordered frame default

/-! ## Prepared lanes -/

structure PreparedAutomation where
  points : List AutomationPoint
  default : ℚ
  sorted : points.Pairwise fun a b => a.frame ≤ b.frame

namespace PreparedAutomation

/-- `PreparedAutomation(points, default)`. -/
def prepare (points : List AutomationPoint) (default : ℚ) : PreparedAutomation where
  points := sortOn AutomationPoint.frame points
  default := default
  sorted := sortOn_pairwise

variable (lane : PreparedAutomation)

/-- The loop that moves the cursor on to the segment of a frame. -/
def seek (frame : ℤ) (segment : ℕ) : ℕ := if h : segment + 1 < lane.points.length then
    if lane.points[segment + 1].frame < frame then seek frame (segment + 1) else segment
  else segment
termination_by lane.points.length - segment

/-- What is yielded for a frame when the cursor stands at `segment`. -/
def valueAt (segment : ℕ) (frame : ℤ) : ℚ :=
  match lane.points[segment]?, lane.points[segment + 1]? with
  | some left, some right => left.towards right frame
  | _, _ => (lane.points.getLast?.map AutomationPoint.value).getD lane.default

/-- What is yielded for frames, from a cursor on. -/
def yieldFrom : ℕ → List ℤ → List ℚ
  | _, [] => []
  | segment, frame :: frames =>
    if startsAfter lane.points frame then lane.default :: yieldFrom segment frames
    else lane.valueAt (lane.seek frame segment) frame :: yieldFrom (lane.seek frame segment) frames

def block (start count : ℤ) : List ℚ :=
  lane.yieldFrom (bisectLeft AutomationPoint.frame lane.points start - 1)
    (Int.range start (start + count))

end PreparedAutomation

def automationBlock (points : List AutomationPoint) (start count : ℤ) (default : ℚ) : List ℚ :=
  (PreparedAutomation.prepare points default).block start count

/-! ## The cursor -/

namespace PreparedAutomation

variable {lane : PreparedAutomation} {frame : ℤ} {segment : ℕ}

/-- The points up to the cursor, but for the first, lie before the frame. -/
def Behind (lane : PreparedAutomation) (frame : ℤ) (segment : ℕ) : Prop :=
  ∀ i (h : i + 1 < lane.points.length), i < segment → lane.points[i + 1].frame < frame

lemma Behind.mono {later : ℤ} (h : lane.Behind frame segment) (hle : frame ≤ later) :
    lane.Behind later segment :=
  fun i hi hlt => (h i hi hlt).trans_le hle

lemma behind_bisectLeft (start : ℤ) :
    lane.Behind start (bisectLeft AutomationPoint.frame lane.points start - 1) :=
  fun i hi hlt => (bisectLeft_spec lane.sorted).2.before (i + 1) hi (by omega)

lemma seek_spec (h : lane.Behind frame segment) : lane.Behind frame (lane.seek frame segment) ∧
      ∀ hnext : lane.seek frame segment + 1 < lane.points.length,
        frame ≤ lane.points[lane.seek frame segment + 1].frame := by
  induction hleft : lane.points.length - segment using Nat.strong_induction_on
    generalizing segment with
  | h left ih =>
    rw [seek]
    by_cases hnext : segment + 1 < lane.points.length
    · rw [dif_pos hnext]
      by_cases hpast : lane.points[segment + 1].frame < frame
      · rw [if_pos hpast]
        refine ih (lane.points.length - (segment + 1)) (by omega) (fun i hi hlt => ?_) rfl
        rcases Nat.lt_succ_iff_lt_or_eq.mp hlt with hlt | rfl
        · exact h i hi hlt
        · exact hpast
      · rw [if_neg hpast]
        exact ⟨h, fun _ => not_lt.mp hpast⟩
    · rw [dif_neg hnext]
      exact ⟨h, fun hnext' => absurd hnext' hnext⟩

lemma valueAt_eq_lookUp (hbehind : lane.Behind frame segment)
    (hstop : ∀ hnext : segment + 1 < lane.points.length, frame ≤ lane.points[segment + 1].frame) :
    lane.valueAt segment frame = lookUp lane.points frame lane.default := by
  unfold valueAt lookUp
  by_cases hnext : segment + 1 < lane.points.length
  · have hthis : segment < lane.points.length := by omega
    have hfind : ((lane.points.zip lane.points.tail).find?
        fun pair => decide (frame ≤ pair.2.frame)) =
        some (lane.points[segment], lane.points[segment + 1]) := by
      rw [List.find?_eq_some_iff_getElem]
      refine ⟨decide_eq_true (hstop hnext), segment, ?_, ?_, fun i hi => ?_⟩
      · rw [List.length_zip, List.length_tail]
        omega
      · rw [List.getElem_zip, List.getElem_tail]
      · rw [List.getElem_zip, List.getElem_tail, Bool.not_eq_true', decide_eq_false_iff_not, not_le]
        exact hbehind i (by omega) hi
    rw [List.getElem?_eq_getElem hthis, List.getElem?_eq_getElem hnext, hfind]
  · have hfind : ((lane.points.zip lane.points.tail).find?
        fun pair => decide (frame ≤ pair.2.frame)) = none := by
      rw [List.find?_eq_none]
      intro pair hpair
      obtain ⟨i, hi, rfl⟩ := List.getElem_of_mem hpair
      rw [List.length_zip, List.length_tail] at hi
      rw [List.getElem_zip, List.getElem_tail, decide_eq_true_eq, not_le]
      exact hbehind i (by omega) (by omega)
    rw [hfind, List.getElem?_eq_none (not_lt.mp hnext)]
    cases lane.points[segment]? with
    | none => rfl
    | some last => rfl

lemma yieldFrom_eq {frames : List ℤ} (hframes : frames.Pairwise (· ≤ ·))
    (hbehind : ∀ frame ∈ frames, lane.Behind frame segment) :
    lane.yieldFrom segment frames = frames.map fun frame =>
      if startsAfter lane.points frame then lane.default
      else lookUp lane.points frame lane.default := by
  induction frames generalizing segment with
  | nil => rfl
  | cons frame frames ih =>
    obtain ⟨hlater, hrest⟩ := List.pairwise_cons.mp hframes
    obtain ⟨hthis, hothers⟩ := List.forall_mem_cons.mp hbehind
    rw [yieldFrom, List.map_cons]
    by_cases hafter : startsAfter lane.points frame = true
    · rw [if_pos hafter, if_pos hafter, ih hrest hothers]
    · obtain ⟨hseek, hstop⟩ := seek_spec hthis
      rw [if_neg hafter, if_neg hafter, valueAt_eq_lookUp hseek hstop,
        ih hrest fun later hmem => hseek.mono (hlater later hmem)]

/-- **A block of a prepared lane has what the plain lookup gives.** -/
theorem block_eq (points : List AutomationPoint) (default : ℚ) (start count : ℤ) :
    (prepare points default).block start count =
      (Int.range start (start + count)).map fun frame => automationValue points frame default := by
  have hfrom : ∀ frame ∈ Int.range start (start + count), start ≤ frame := fun frame hmem =>
    (Int.mem_range_iff.mp hmem).1
  have hsorted : (Int.range start (start + count)).Pairwise (· ≤ ·) := by
    refine List.pairwise_map.mpr (List.pairwise_lt_range.imp fun hlt => ?_)
    omega
  exact yieldFrom_eq hsorted fun frame hmem => (behind_bisectLeft start).mono (hfrom frame hmem)

/-- **The `k`-th value of a block is the one at its `k`-th frame.** -/
theorem block_getElem? (points : List AutomationPoint) (default : ℚ) (start count : ℤ) (k : ℕ) :
    ((prepare points default).block start count)[k]? =
      if (k : ℤ) < count then some (automationValue points (start + k) default) else none := by
  rw [block_eq, List.getElem?_map, Int.range, List.getElem?_map, add_sub_cancel_left]
  by_cases hk : (k : ℤ) < count
  · rw [List.getElem?_range (by omega), if_pos hk]
    rfl
  · rw [List.getElem?_eq_none (by rw [List.length_range]; omega), if_neg hk]
    rfl

end PreparedAutomation

end StageForge
