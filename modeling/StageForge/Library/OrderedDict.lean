import Mathlib.Data.List.Dedup
import Mathlib.Data.List.Perm.Subperm

/-!
# Dictionaries in order of recent use

A bounded result cache kept as an ordered dictionary: the entries from the least to the most
recently used one. `put` stores a value and makes its key the most recent, `trim n` drops the least
recent entries until `n` are left.
-/

namespace OrderedDict

universe u v

variable {α : Type u} {β : Type v} [DecidableEq α]

def get? (d : List (α × β)) (k : α) : Option β := (d.find? fun entry => entry.1 = k).map (·.2)

/-- Store a value under a key and make it the most recent entry. -/
def put (d : List (α × β)) (k : α) (v : β) : List (α × β) :=
  (d.filter fun entry => entry.1 ≠ k) ++ [(k, v)]

/-- Drop the least recent entries until at most `n` are left. -/
def trim (n : ℕ) (d : List (α × β)) : List (α × β) := d.drop (d.length - n)

variable {d : List (α × β)} {k j : α} {v w : β} {used : List α} {n : ℕ}

lemma get?_eq_none_iff : get? d k = none ↔ k ∉ d.map (·.1) := by
  rw [get?, Option.map_eq_none_iff, List.find?_eq_none]
  constructor
  · intro h hmem
    obtain ⟨entry, hentry, heq⟩ := List.mem_map.mp hmem
    exact h entry hentry (by simpa using heq)
  · intro h entry hentry heq
    exact h (List.mem_map.mpr ⟨entry, hentry, by simpa using heq⟩)

lemma get?_put_ne (h : k ≠ j) : get? (put d j w) k = get? d k := by
  have hskip : (d.filter fun entry => entry.1 ≠ j).find? (fun entry => entry.1 = k)
      = d.find? fun entry => entry.1 = k := by
    rw [List.find?_filter]
    congr 1
    funext entry
    by_cases hk : entry.1 = k
    · simp [hk, h]
    · simp [hk]
  rw [get?, get?, put, List.find?_append, hskip]
  simp [h.symm]

lemma get?_trim_of_none (h : get? d k = none) : get? (trim n d) k = none := by
  rw [get?_eq_none_iff] at h ⊢
  intro hmem
  exact h ((List.drop_sublist _ _).map _ |>.subset hmem)

lemma nodup_put (h : (d.map (·.1)).Nodup) : ((put d k v).map (·.1)).Nodup := by
  rw [put, List.map_append]
  refine List.Nodup.append (h.sublist (List.filter_sublist.map _)) (by simp) ?_
  intro x hx hk
  simp only [List.map_cons, List.map_nil, List.mem_singleton] at hk
  subst hk
  simp at hx

omit [DecidableEq α] in
lemma nodup_trim (h : (d.map (·.1)).Nodup) : ((trim n d).map (·.1)).Nodup :=
  h.sublist ((List.drop_sublist _ _).map _)

/-- `k ↦ v` is stored, and what is more recent is in `used`. -/
structure Recent (d : List (α × β)) (k : α) (v : β) (used : List α) : Prop where
  nodup : (d.map (·.1)).Nodup
  split : ∃ before after, d = before ++ (k, v) :: after ∧ ∀ entry ∈ after, entry.1 ∈ used

lemma Recent.get? (h : Recent d k v used) : get? d k = some v := by
  obtain ⟨before, after, rfl, -⟩ := h.split
  have hnodup := h.nodup
  rw [List.map_append, List.map_cons, List.nodup_middle, List.nodup_cons] at hnodup
  have hbefore : before.find? (fun entry => entry.1 = k) = none := by
    rw [List.find?_eq_none]
    intro entry hentry heq
    refine hnodup.1 (List.mem_append_left _ (List.mem_map.mpr ⟨entry, hentry, ?_⟩))
    simpa using heq
  simp [OrderedDict.get?, List.find?_append, hbefore]

lemma Recent.of_put (h : (d.map (·.1)).Nodup) : Recent (put d k v) k v [] :=
  ⟨nodup_put h, _, [], rfl, by simp⟩

/-- Storing under another key makes that key one of those used since. -/
lemma Recent.put (h : Recent d k v used) (hne : j ≠ k) : Recent (put d j w) k v (j :: used) := by
  refine ⟨nodup_put h.nodup, ?_⟩
  obtain ⟨before, after, rfl, hafter⟩ := h.split
  refine ⟨before.filter fun entry => entry.1 ≠ j,
    (after.filter fun entry => entry.1 ≠ j) ++ [(j, w)], ?_, ?_⟩
  · simp [OrderedDict.put, List.filter_append, hne.symm]
  · intro entry hentry
    rw [List.mem_append, List.mem_singleton] at hentry
    rcases hentry with hentry | rfl
    · exact List.mem_cons_of_mem _ (hafter entry (List.mem_of_mem_filter hentry))
    · exact List.mem_cons_self

/-- **Trimming spares the recent.** With fewer than `n` different keys used since, the entry stays
when only `n` are kept. -/
lemma Recent.trim (h : Recent d k v used) (hfew : used.dedup.length < n) :
    Recent (trim n d) k v used := by
  refine ⟨nodup_trim h.nodup, ?_⟩
  obtain ⟨before, after, rfl, hafter⟩ := h.split
  have hnodup := h.nodup
  rw [List.map_append, List.map_cons, List.nodup_middle, List.nodup_cons,
    List.nodup_append] at hnodup
  have hcount : after.length ≤ used.dedup.length := by
    have hsub : after.map (·.1) ⊆ used.dedup := by
      intro x hx
      obtain ⟨entry, hentry, rfl⟩ := List.mem_map.mp hx
      exact List.mem_dedup.mpr (hafter entry hentry)
    have hle := (List.subperm_of_subset hnodup.2.2.1 hsub).length_le
    rwa [List.length_map] at hle
  refine ⟨before.drop ((before ++ (k, v) :: after).length - n), after, ?_, hafter⟩
  rw [OrderedDict.trim, List.drop_append_of_le_length]
  simp only [List.length_append, List.length_cons]
  omega

end OrderedDict
