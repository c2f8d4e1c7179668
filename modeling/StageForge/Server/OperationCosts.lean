import Mathlib.Data.List.Perm.Basic
import StageForge.Library.TransitionSystem

/-!
# Slots for expensive operations

`OperationCostLimiter` of `backend/dev_server.py`: an operation takes a slot of all and then one of its
class, without waiting, and is counted under the lock. Calls interleave between these.
-/

namespace StageForge

open TransitionSystem

/-- Where a call of `acquire` or `release` stands. -/
inductive CostStage (κ : Type)
  | takeSlot (kind : κ)
  | countActive (kind : κ)
  | giveBackTotal (kind : κ)
  | countRejected (kind : κ)
  | releaseSlot (kind : κ)
  | releaseTotal
  deriving DecidableEq

inductive CostAction (κ : Type)
  | acquire (kind : κ)
  | release (kind : κ)
  | goOn (stage : CostStage κ)

/-- The semaphore of all operations is `none`, and what it has left is the number of its slots. The counts
of active and of rejected operations are lists of their classes. -/
structure OperationCostLimiter (κ : Type) where
  slots : Option κ → ℕ
  active : List κ := []
  rejected : List κ := []
  calls : List (CostStage κ) := []
  /-- A semaphore has refused a release. -/
  overReleased : Bool := false

variable {κ : Type} [DecidableEq κ]

namespace OperationCostLimiter

variable (limits : Option κ → ℕ) (s : OperationCostLimiter κ)

def giveBack (slot : Option κ) (next : List (CostStage κ)) : OperationCostLimiter κ :=
  if s.slots slot < limits slot then
    { s with slots := Function.update s.slots slot (s.slots slot + 1), calls := next ++ s.calls }
  else { s with overReleased := true }

def goOn : CostStage κ → OperationCostLimiter κ
  | .takeSlot kind =>
    if s.slots (some kind) = 0 then { s with calls := .giveBackTotal kind :: s.calls }
    else
      { s with
        slots := Function.update s.slots (some kind) (s.slots (some kind) - 1)
        calls := .countActive kind :: s.calls }
  | .countActive kind => { s with active := kind :: s.active }
  | .giveBackTotal kind => s.giveBack limits none [.countRejected kind]
  | .countRejected kind => { s with rejected := kind :: s.rejected }
  | .releaseSlot kind => s.giveBack limits (some kind) [.releaseTotal]
  | .releaseTotal => s.giveBack limits none []

/-- A release of a class in which nothing is active raises, and does nothing else. -/
def step : CostAction κ → Option (OperationCostLimiter κ)
  | .acquire kind =>
    if s.slots none = 0 then some { s with calls := .countRejected kind :: s.calls }
    else
      some { s with
        slots := Function.update s.slots none (s.slots none - 1)
        calls := .takeSlot kind :: s.calls }
  | .release kind =>
    if kind ∈ s.active then
      some { s with active := s.active.erase kind, calls := .releaseSlot kind :: s.calls }
    else some s
  | .goOn stage =>
    if stage ∈ s.calls then some ({ s with calls := s.calls.erase stage }.goOn limits stage) else none

end OperationCostLimiter

/-! ## Who has the slots -/

def covers : Option κ → κ → Bool
  | none, _ => true
  | some k, kind => kind = k

def CostStage.holds (o : Option κ) : CostStage κ → Bool
  | .countRejected _ => false
  | .countActive kind | .releaseSlot kind => covers o kind
  | _ => o = none

/-- Each slot is left, or is that of an active operation or of a call. -/
structure SlotsKept (limits : Option κ → ℕ) (s : OperationCostLimiter κ) : Prop where
  slots : ∀ o, s.slots o + s.active.countP (covers o) + s.calls.countP (CostStage.holds o) = limits o
  overReleased : s.overReleased = false

variable {limits : Option κ → ℕ} {s t : OperationCostLimiter κ}

lemma countP_erase {α : Type} [DecidableEq α] {items : List α} {a : α} (h : a ∈ items) (p : α → Bool) :
    items.countP p = (items.erase a).countP p + if p a then 1 else 0 := by
  rw [(List.perm_cons_erase h).countP_eq, List.countP_cons]

lemma slotsKept_goOn (h : SlotsKept limits s) {stage : CostStage κ} (hstage : stage ∈ s.calls) :
    SlotsKept limits ({ s with calls := s.calls.erase stage }.goOn limits stage) := by
  obtain ⟨hslots, hfine⟩ := h
  simp only [countP_erase hstage] at hslots
  have hgiveBack : ∀ slot next, (∀ o, (if stage.holds o then 1 else 0) =
      next.countP (CostStage.holds o) + if o = slot then 1 else 0) →
      SlotsKept limits ({ s with calls := s.calls.erase stage }.giveBack limits slot next) := by
    intro slot next hnext
    have hroom : s.slots slot < limits slot := by
      have := hslots slot
      rw [hnext, if_pos rfl] at this
      omega
    rw [OperationCostLimiter.giveBack, if_pos hroom]
    refine ⟨fun o => ?_, hfine⟩
    have := hslots o
    rw [hnext] at this
    simp only [List.countP_append, Function.update_apply]
    split_ifs at this ⊢ with ho
    · subst ho
      omega
    · omega
  cases stage with
  | takeSlot kind =>
    simp only [OperationCostLimiter.goOn]
    split_ifs with hnone
    · exact ⟨fun o => by simpa [List.countP_cons, CostStage.holds] using hslots o, hfine⟩
    · refine ⟨fun o => ?_, hfine⟩
      have := hslots o
      cases o <;> simp [CostStage.holds, covers, Function.update_apply, List.countP_cons] at this ⊢ <;> grind
  | countActive kind =>
    refine ⟨fun o => ?_, hfine⟩
    have := hslots o
    cases hcovers : covers o kind <;>
      simp [OperationCostLimiter.goOn, CostStage.holds, hcovers] at this ⊢ <;> omega
  | giveBackTotal kind => exact hgiveBack none _ fun o => by simp [CostStage.holds]
  | countRejected kind => exact ⟨hslots, hfine⟩
  | releaseSlot kind =>
    refine hgiveBack (some kind) _ fun o => ?_
    cases o <;> simp [CostStage.holds, covers, eq_comm]
  | releaseTotal => exact hgiveBack none _ fun o => by simp [CostStage.holds]

/-- **Every step keeps the slots.** -/
lemma slotsKept_step {a : CostAction κ} (h : SlotsKept limits s) (hstep : s.step limits a = some t) :
    SlotsKept limits t := by
  cases a with
  | acquire kind =>
    simp only [OperationCostLimiter.step] at hstep
    split_ifs at hstep with hnone <;> obtain rfl := Option.some.inj hstep
    · exact ⟨h.slots, h.overReleased⟩
    · refine ⟨fun o => ?_, h.overReleased⟩
      have := h.slots o
      simp only [CostStage.holds, Function.update_apply, List.countP_cons]
      split_ifs <;> simp_all
      omega
  | release kind =>
    simp only [OperationCostLimiter.step] at hstep
    split_ifs at hstep with hactive <;> obtain rfl := Option.some.inj hstep
    · refine ⟨fun o => ?_, h.overReleased⟩
      have := h.slots o
      rw [countP_erase hactive] at this
      cases hcovers : covers o kind <;> simp [CostStage.holds, hcovers] at this ⊢ <;> omega
    · exact h
  | goOn stage =>
    simp only [OperationCostLimiter.step] at hstep
    split_ifs at hstep with hstage
    exact Option.some.inj hstep ▸ slotsKept_goOn h hstage

/-- **No slot is lost or given back twice.** However `acquire` and `release` interleave, also releases of
what was not acquired: no semaphore refuses a release, what is active stays within the limits, and when no
call is on its way each slot is left or is that of an active operation. -/
theorem operation_slots_kept {actions : List (CostAction κ)}
    (h : Reaches (OperationCostLimiter.step limits) Always { slots := limits } actions s) :
    s.overReleased = false ∧ s.active.length ≤ limits none ∧
      (∀ kind, s.active.count kind ≤ limits (some kind)) ∧
      (s.calls = [] → s.slots none + s.active.length = limits none ∧
        ∀ kind, s.slots (some kind) + s.active.count kind = limits (some kind)) := by
  have hstart : SlotsKept limits { slots := limits } := ⟨fun _ => rfl, rfl⟩
  obtain ⟨hslots, hfine⟩ := h.invariant hstart fun _ _ _ h _ hstep => slotsKept_step h hstep
  have hall : s.active.countP (covers none) = s.active.length := List.countP_eq_length.mpr fun _ _ => rfl
  have hcount : ∀ kind, s.active.countP (covers (some kind)) = s.active.count kind := fun kind =>
    List.countP_congr fun _ _ => by simp [covers]
  refine ⟨hfine, ?_, fun kind => ?_, fun hidle => ⟨?_, fun kind => ?_⟩⟩
  · have := hslots none
    omega
  · have := hslots (some kind)
    rw [hcount] at this
    omega
  · simpa [hidle, hall] using hslots none
  · simpa [hidle, hcount] using hslots (some kind)

/-- A release is on its way while the operation is not counted any more. -/
theorem operation_slots_kept_releasing : ∃ s,
    Reaches (OperationCostLimiter.step fun _ : Option Bool => 2) Always { slots := fun _ => 2 }
      [.acquire true, .goOn (.takeSlot true), .goOn (.countActive true), .release true] s ∧
    s.overReleased = false := by
  obtain ⟨s, hs, -⟩ := @reaches_always_of_any _ _ (OperationCostLimiter.step fun _ : Option Bool => 2)
    { slots := fun _ => 2 }
    [.acquire true, .goOn (.takeSlot true), .goOn (.countActive true), .release true]
    (fun s => s.slots none = 1) _ (by decide)
  exact ⟨s, hs, (operation_slots_kept hs).1⟩

end StageForge
