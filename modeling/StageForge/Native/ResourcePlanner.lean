import StageForge.Native.ShowEvents

/-!
# The resource planner

`CoreResourcePlanner::plan` goes through the requests once and gives each of them all of the processor time it
asks for, a part of it, or none, with a running total of what has been given. Loads are exact numbers.
-/

namespace StageForge

inductive CoreOperatingMode
  | full
  | reduced
  | safeShow
  | audioOnly
  deriving DecidableEq

inductive CoreResourceAction
  | full
  | degraded
  | suspended
  | unavailable
  deriving DecidableEq

inductive CoreResourceReason
  | withinBudget
  | unhealthy
  | disabledByMode
  | protectedUnderPressure
  | suspendedForHeadroom
  | cannotFit
  deriving DecidableEq

structure CoreResourceRequest where
  priority : ShowPriority := .background
  estimatedCpuPercent : ℚ := 0
  healthy : Bool := true
  canDegrade : Bool := false
  canSuspend : Bool := true
  degradedCpuFraction : ℚ := 35 / 100

structure CoreResourceDecision where
  action : CoreResourceAction
  reason : CoreResourceReason
  allocatedCpuPercent : ℚ
  deriving DecidableEq

structure CoreResourcePlanSummary where
  capacityPercent : ℚ
  usedPercent : ℚ := 0
  headroomPercent : ℚ := 0
  fullCount : ℕ := 0
  degradedCount : ℕ := 0
  suspendedCount : ℕ := 0
  unavailableCount : ℕ := 0
  deriving DecidableEq

namespace CoreResourcePlanner

def clamp (v lo hi : ℚ) : ℚ := if v < lo then lo else if hi < v then hi else v

def maxPriority : CoreOperatingMode → ShowPriority
  | .full => .background
  | .reduced => .visual
  | .safeShow => .production
  | .audioOnly => .critical

def requestedCpu (request : CoreResourceRequest) : ℚ := clamp request.estimatedCpuPercent 0 100

def degradedAllocation (request : CoreResourceRequest) (requestedCpu remaining : ℚ) : ℚ :=
  let fraction := clamp request.degradedCpuFraction (5 / 100) 1
  let desired := max 1 (requestedCpu * fraction)
  clamp desired 0 (max 0 remaining)

section

variable (summary : CoreResourcePlanSummary)

def giveFull (requestedCpu : ℚ) : CoreResourcePlanSummary × CoreResourceDecision := ({ summary with
      usedPercent := summary.usedPercent + requestedCpu
      fullCount := summary.fullCount + 1 },
    ⟨.full, .withinBudget, requestedCpu⟩)

def giveDegraded (request : CoreResourceRequest) (reason : CoreResourceReason) :
    CoreResourcePlanSummary × CoreResourceDecision :=
  let allocation := degradedAllocation request (requestedCpu request)
    (summary.capacityPercent - summary.usedPercent)
  ({ summary with
      usedPercent := summary.usedPercent + allocation
      degradedCount := summary.degradedCount + 1 },
    ⟨.degraded, reason, allocation⟩)

def suspend (reason : CoreResourceReason) : CoreResourcePlanSummary × CoreResourceDecision :=
  ({ summary with suspendedCount := summary.suspendedCount + 1 }, ⟨.suspended, reason, 0⟩)

def refuse (reason : CoreResourceReason) : CoreResourcePlanSummary × CoreResourceDecision :=
  ({ summary with unavailableCount := summary.unavailableCount + 1 }, ⟨.unavailable, reason, 0⟩)

end

/-- The body of the loop of `plan`. -/
def planRequest (maximumPriority : ShowPriority) (summary : CoreResourcePlanSummary)
    (request : CoreResourceRequest) : CoreResourcePlanSummary × CoreResourceDecision :=
  if request.healthy = false then refuse summary .unhealthy
  else if maximumPriority.code < request.priority.code then
    if request.canSuspend = true then suspend summary .disabledByMode
    else if request.canDegrade = true then giveDegraded summary request .disabledByMode
    else refuse summary .disabledByMode
  else if summary.usedPercent + requestedCpu request ≤ summary.capacityPercent then
    giveFull summary (requestedCpu request)
  else if request.priority.code ≤ ShowPriority.forShow.code ∧ request.canDegrade = true then
    giveDegraded summary request .protectedUnderPressure
  else if request.canSuspend = true then suspend summary .suspendedForHeadroom
  else if request.canDegrade = true then giveDegraded summary request .protectedUnderPressure
  else refuse summary .cannotFit

def planRequests (maximumPriority : ShowPriority) : CoreResourcePlanSummary →
    List CoreResourceRequest → CoreResourcePlanSummary × List CoreResourceDecision
  | summary, [] => (summary, [])
  | summary, request :: requests =>
    let (summary, decision) := planRequest maximumPriority summary request
    let (summary, decisions) := planRequests maximumPriority summary requests
    (summary, decision :: decisions)

/-- `plan`, with so much room for decisions. -/
def plan (capacityPercent : ℚ) (mode : CoreOperatingMode) (requests : List CoreResourceRequest)
    (room : ℕ) : CoreResourcePlanSummary × List CoreResourceDecision :=
  let count := min requests.length room
  let (summary, decisions) := planRequests (maxPriority mode)
    { capacityPercent := clamp capacityPercent 0 100 } (requests.take count)
  let usedPercent := clamp summary.usedPercent 0 summary.capacityPercent
  ({ summary with
      usedPercent
      headroomPercent := max 0 (summary.capacityPercent - usedPercent) }, decisions)

/-! ## A step -/

def counted (summary : CoreResourcePlanSummary) : ℕ :=
  summary.fullCount + summary.degradedCount + summary.suspendedCount + summary.unavailableCount

/-- What a decision gives a request: no more than it asks for, but for the floor of a degraded allocation where
the mode disables it, and nothing if it is not healthy. -/
structure Fits (request : CoreResourceRequest) (decision : CoreResourceDecision) : Prop where
  nonneg : 0 ≤ decision.allocatedCpuPercent
  within : decision.allocatedCpuPercent ≤ requestedCpu request ∨
    decision.action = .degraded ∧ decision.reason = .disabledByMode ∧
      decision.allocatedCpuPercent ≤ 1
  unhealthy : request.healthy = false →
    decision.action = .unavailable ∧ decision.allocatedCpuPercent = 0

/-- What the loop keeps: the total lies between nothing and the capacity. -/
structure WithinCapacity (summary : CoreResourcePlanSummary) : Prop where
  nonneg : 0 ≤ summary.usedPercent
  le : summary.usedPercent ≤ summary.capacityPercent

/-- What a step does: it gives the request an allocation that fits, and adds it to the total. -/
structure Plans (summary : CoreResourcePlanSummary) (request : CoreResourceRequest)
    (result : CoreResourcePlanSummary × CoreResourceDecision) : Prop where
  fits : Fits request result.2
  capacity : result.1.capacityPercent = summary.capacityPercent
  used : result.1.usedPercent = summary.usedPercent + result.2.allocatedCpuPercent
  within : WithinCapacity result.1
  counted : counted result.1 = counted summary + 1

lemma clamp_bounds {v lo hi : ℚ} (h : lo ≤ hi) : lo ≤ clamp v lo hi ∧ clamp v lo hi ≤ hi := by
  unfold clamp
  split_ifs with hlow hhigh
  · exact ⟨le_rfl, h⟩
  · exact ⟨h, le_rfl⟩
  · exact ⟨not_lt.mp hlow, not_lt.mp hhigh⟩

lemma clamp_of_mem {v lo hi : ℚ} (hlo : lo ≤ v) (hhi : v ≤ hi) : clamp v lo hi = v := by
  rw [clamp, if_neg (not_lt.mpr hlo), if_neg (not_lt.mpr hhi)]

lemma requestedCpu_nonneg (request : CoreResourceRequest) : 0 ≤ requestedCpu request :=
  (clamp_bounds (by norm_num)).1

lemma clamp_le_self {v hi : ℚ} (h : 0 ≤ v) : clamp v 0 hi ≤ v := by
  unfold clamp
  split_ifs with hlow hhigh
  · exact h
  · exact hhigh.le
  · exact le_rfl

/-- A degraded allocation takes no more than what is left, and beyond the floor no more than what is asked
for. -/
lemma degradedAllocation_bounds (request : CoreResourceRequest) {remaining : ℚ}
    (h : 0 ≤ remaining) :
    0 ≤ degradedAllocation request (requestedCpu request) remaining ∧
      degradedAllocation request (requestedCpu request) remaining ≤ remaining ∧
      degradedAllocation request (requestedCpu request) remaining ≤
        max 1 (requestedCpu request) := by
  have hfraction : clamp request.degradedCpuFraction (5 / 100) 1 ≤ 1 :=
    (clamp_bounds (by norm_num)).2
  have hdesired : max 1 (requestedCpu request * clamp request.degradedCpuFraction (5 / 100) 1) ≤
      max 1 (requestedCpu request) :=
    max_le_max le_rfl (mul_le_of_le_one_right (requestedCpu_nonneg request) hfraction)
  unfold degradedAllocation
  simp only [max_eq_right h]
  exact ⟨(clamp_bounds h).1, (clamp_bounds h).2,
    (clamp_le_self (zero_le_one.trans (le_max_left _ _))).trans hdesired⟩

variable {summary : CoreResourcePlanSummary} {request : CoreResourceRequest}

lemma plans_refuse (h : WithinCapacity summary) (reason : CoreResourceReason) :
    Plans summary request (refuse summary reason) where
  fits := ⟨le_rfl, .inl (requestedCpu_nonneg request), fun _ => ⟨rfl, rfl⟩⟩
  capacity := rfl
  used := (add_zero _).symm
  within := ⟨h.nonneg, h.le⟩
  counted := by simp only [counted, refuse]; omega

lemma plans_suspend (h : WithinCapacity summary) (hhealthy : request.healthy ≠ false)
    (reason : CoreResourceReason) : Plans summary request (suspend summary reason) where
  fits := ⟨le_rfl, .inl (requestedCpu_nonneg request), fun hill => absurd hill hhealthy⟩
  capacity := rfl
  used := (add_zero _).symm
  within := ⟨h.nonneg, h.le⟩
  counted := by simp only [counted, suspend]; omega

lemma plans_giveFull (h : WithinCapacity summary) (hhealthy : request.healthy ≠ false)
    (hroom : summary.usedPercent + requestedCpu request ≤ summary.capacityPercent) :
    Plans summary request (giveFull summary (requestedCpu request)) where
  fits := ⟨requestedCpu_nonneg request, .inl le_rfl, fun hill => absurd hill hhealthy⟩
  capacity := rfl
  used := rfl
  within := ⟨add_nonneg h.nonneg (requestedCpu_nonneg request), hroom⟩
  counted := by simp only [counted, giveFull]; omega

lemma plans_giveDegraded (h : WithinCapacity summary) (hhealthy : request.healthy ≠ false)
    {reason : CoreResourceReason} (hreason : reason = .disabledByMode ∨
      ¬ summary.usedPercent + requestedCpu request ≤ summary.capacityPercent) :
    Plans summary request (giveDegraded summary request reason) := by
  obtain ⟨hnonneg, hremaining, hasked⟩ := degradedAllocation_bounds request (sub_nonneg.mpr h.le)
  refine ⟨⟨hnonneg, ?_, fun hill => absurd hill hhealthy⟩, rfl, rfl,
    ⟨add_nonneg h.nonneg hnonneg, ?_⟩, ?_⟩
  · rcases hreason with rfl | hfull
    · rcases le_max_iff.mp hasked with hfloor | hwithin
      · exact .inr ⟨rfl, rfl, hfloor⟩
      · exact .inl hwithin
    · refine .inl (hremaining.trans ?_)
      linarith
  · simp only [giveDegraded]
    linarith
  · simp only [counted, giveDegraded]
    omega

/-- **A step of the plan.** -/
lemma planRequest_spec (maximumPriority : ShowPriority) (h : WithinCapacity summary) :
    Plans summary request (planRequest maximumPriority summary request) := by
  unfold planRequest
  split_ifs with hill hmode hsuspend hdegrade hroom hprotected hsuspend hdegrade
  · exact plans_refuse h _
  · exact plans_suspend h hill _
  · exact plans_giveDegraded h hill (.inl rfl)
  · exact plans_refuse h _
  · exact plans_giveFull h hill hroom
  · exact plans_giveDegraded h hill (.inr hroom)
  · exact plans_suspend h hill _
  · exact plans_giveDegraded h hill (.inr hroom)
  · exact plans_refuse h _

/-! ## The plan -/

def allocated (decisions : List CoreResourceDecision) : ℚ :=
  (decisions.map CoreResourceDecision.allocatedCpuPercent).sum

/-- **The loop**, by induction on the requests: the total goes up by what is allocated. -/
lemma planRequests_spec (maximumPriority : ShowPriority) :
    ∀ (requests : List CoreResourceRequest) {summary : CoreResourcePlanSummary},
      WithinCapacity summary →
      let result := planRequests maximumPriority summary requests
      List.Forall₂ Fits requests result.2 ∧ WithinCapacity result.1 ∧
        result.1.capacityPercent = summary.capacityPercent ∧
        result.1.usedPercent = summary.usedPercent + allocated result.2 ∧
        counted result.1 = counted summary + requests.length
  | [], summary, h => ⟨.nil, h, rfl, (add_zero _).symm, rfl⟩
  | request :: requests, summary, h => by
    have hstep := @planRequest_spec summary request maximumPriority h
    obtain ⟨hfits, hwithin, hcapacity, hused, hcounted⟩ :=
      planRequests_spec maximumPriority requests hstep.within
    refine ⟨.cons hstep.fits hfits, hwithin, hcapacity.trans hstep.capacity, ?_, ?_⟩
    · simp only [planRequests, allocated, List.map_cons, List.sum_cons]
      rw [hused, hstep.used, add_assoc]
      rfl
    · simp only [planRequests, List.length_cons]
      rw [hcounted, hstep.counted]
      omega

/-- **A plan fits.** What is allocated comes to the used percent of the summary, which is at most the clamped
capacity. A request gets at most what it asks for, or at most the one percent of the floor where the mode
disables it; it gets nothing if it is not healthy. The counters add up to the requests there is room to decide. -/
theorem plans_fit (capacityPercent : ℚ) (mode : CoreOperatingMode)
    (requests : List CoreResourceRequest) (room : ℕ) :
    let result := plan capacityPercent mode requests room
    allocated result.2 ≤ clamp capacityPercent 0 100 ∧ result.1.usedPercent = allocated result.2 ∧
      List.Forall₂ Fits (requests.take room) result.2 ∧
      counted result.1 = min requests.length room := by
  have hstart : WithinCapacity { capacityPercent := clamp capacityPercent 0 100 } :=
    ⟨le_rfl, (clamp_bounds (by norm_num)).1⟩
  have htake : requests.take (min requests.length room) = requests.take room := by
    rw [min_comm, ← List.take_take, List.take_length]
  obtain ⟨hfits, hwithin, hcapacity, hused, hcounted⟩ :=
    planRequests_spec (maxPriority mode) (requests.take room) hstart
  simp only [zero_add] at hused
  have hle := hwithin.le
  rw [hused, hcapacity] at hle
  refine ⟨?_, ?_, ?_, ?_⟩
  · simp only [plan, htake]
    exact hle
  · simp only [plan, htake]
    rw [clamp_of_mem hwithin.nonneg hwithin.le, hused]
  · simp only [plan, htake]
    exact hfits
  · simp only [plan, htake, counted] at hcounted ⊢
    rw [hcounted, List.length_take, min_comm]
    exact zero_add _

/-- A visual effect that asks for half a percent and can only be degraded. -/
def smallRequest : CoreResourceRequest where
  priority := .visual
  estimatedCpuPercent := 1 / 2
  canDegrade := true
  canSuspend := false

/-- **A small request gets the floor.** In the mode of a safe show the effect gets a percent, twice of what it
asks for. Besides, without room for decisions nothing is counted. -/
theorem small_request_gets_floor :
    (plan 100 .safeShow [smallRequest] 1).2 = [⟨.degraded, .disabledByMode, 1⟩] ∧
      requestedCpu smallRequest = 1 / 2 ∧
      ¬ (1 : ℚ) ≤ requestedCpu smallRequest ∧
      counted (plan 100 .safeShow [smallRequest] 0).1 = 0 := by
  decide +kernel

end CoreResourcePlanner

end StageForge
