import Mathlib.Data.List.Nodup
import Mathlib.Data.List.Perm.Subperm

/-!
# Voter sets that must intersect

Voters are the members of a list `U`. `BackedBy U q P` says that at least `q` different voters
satisfy `P`. Two such statements whose sizes add up to more than the number of voters share a
voter (`BackedBy.inter`), which for majorities is the whole quorum-intersection argument.
-/

namespace Quorum

universe u

variable {β : Type u} {U : List β} {P Q : β → Prop} {q r : ℕ}

/-- At least `q` different members of `U` satisfy `P`. -/
def BackedBy (U : List β) (q : ℕ) (P : β → Prop) : Prop :=
  ∃ S : List β, S.Nodup ∧ S ⊆ U ∧ q ≤ S.length ∧ ∀ w ∈ S, P w

/-- Two duplicate-free lists drawn from `U` that together are longer than `U` have a common
member. -/
lemma exists_mem_of_length_lt {A B : List β} (hA : A.Nodup) (hB : B.Nodup) (hAU : A ⊆ U)
    (hBU : B ⊆ U) (hlen : U.length < A.length + B.length) : ∃ w, w ∈ A ∧ w ∈ B := by
  by_contra hno
  push Not at hno
  have hdis : A.Disjoint B := fun w ha hb => hno w ha hb
  have hnodup : (A ++ B).Nodup := hA.append hB hdis
  have hsub : A ++ B ⊆ U := List.append_subset.mpr ⟨hAU, hBU⟩
  have hle := (List.subperm_of_subset hnodup hsub).length_le
  rw [List.length_append] at hle
  omega

/-- **Quorum intersection.** -/
theorem BackedBy.inter (hlen : U.length < q + r) (hP : BackedBy U q P) (hQ : BackedBy U r Q) :
    ∃ w ∈ U, P w ∧ Q w := by
  obtain ⟨A, hA, hAU, hAq, hAP⟩ := hP
  obtain ⟨B, hB, hBU, hBr, hBQ⟩ := hQ
  obtain ⟨w, hwA, hwB⟩ := exists_mem_of_length_lt hA hB hAU hBU (by omega)
  exact ⟨w, hAU hwA, hAP w hwA, hBQ w hwB⟩

theorem BackedBy.imp (h : BackedBy U q P) (himp : ∀ w ∈ U, P w → Q w) : BackedBy U q Q := by
  obtain ⟨S, hS, hSU, hq, hSP⟩ := h
  exact ⟨S, hS, hSU, hq, fun w hw => himp w (hSU hw) (hSP w hw)⟩

end Quorum
