import Mathlib.Order.WellFoundedSet

/-!
# Acyclic relations and the removal of free nodes

A relation `edge y x` is *acyclic* when no node leads back to itself. A search for cycles takes away,
again and again, a node with no edge from a node that is left.
-/

variable {α : Type*} {edge : α → α → Prop}

def Acyclic (edge : α → α → Prop) : Prop := ∀ x, ¬ Relation.TransGen edge x x

namespace Acyclic

lemma not_self_of_acc {r : α → α → Prop} {x : α} (h : Acc r x) : ¬ r x x := by
  induction h with
  | intro x _ ih => exact fun hself => ih x hself hself

theorem of_acc (h : ∀ y x, edge y x → Acc edge x) : Acyclic edge := by
  intro x hcycle
  obtain ⟨y, _, hyx⟩ := Relation.TransGen.tail'_iff.mp hcycle
  exact not_self_of_acc (h y x hyx).transGen hcycle

theorem exists_free (h : Acyclic edge) {s : Set α} (hfinite : s.Finite) (hsome : s.Nonempty) :
    ∃ x ∈ s, ∀ y ∈ s, ¬ edge y x := by
  have horder : IsStrictOrder α (Relation.TransGen edge) :=
    { irrefl := h, trans := fun _ _ _ => Relation.TransGen.trans }
  have hfounded := (hfinite.wellFoundedOn (r := Relation.TransGen edge))
  obtain ⟨x, _, hmin⟩ := WellFounded.has_min hfounded Set.univ ⟨⟨_, hsome.some_mem⟩, trivial⟩
  exact ⟨x, x.2, fun y hy hyx => hmin ⟨y, hy⟩ trivial (.single hyx)⟩

end Acyclic
