import StageForge.Library.PythonList

/-!
# Lists of items that have keys

Where items with the same key are the same, an item is found by its key.
-/

namespace Python

section

variable {α κ : Type} [DecidableEq κ] {key : α → κ} {items : List α} {a b : α}

lemma find?_key_iff (hkeys : (items.map key).Nodup) {k : κ} :
    (items.find? fun b => key b = k) = some a ↔ a ∈ items ∧ key a = k := by
  constructor
  · intro h
    exact ⟨List.mem_of_find?_eq_some h, by simpa using List.find?_some h⟩
  · rintro ⟨hmem, rfl⟩
    cases hfind : items.find? fun b => key b = key a with
    | none => exact absurd (decide_eq_true rfl) (List.find?_eq_none.mp hfind a hmem)
    | some b =>
      have hkey : key b = key a := by simpa using List.find?_some hfind
      exact congrArg some
        (List.inj_on_of_nodup_map hkeys (List.mem_of_find?_eq_some hfind) hmem hkey)

def Agree (key : α → κ) (items : List α) : Prop := ∀ a ∈ items, ∀ b ∈ items, key a = key b → a = b

lemma map_putByKey {kept : List α} : (putByKey key kept a).map key =
    if key a ∈ kept.map key then kept.map key else kept.map key ++ [key a] := by
  have hany : (kept.any fun b => key b = key a) ↔ key a ∈ kept.map key := by
    rw [List.any_eq_true, List.mem_map]
    simp only [decide_eq_true_eq]
  unfold putByKey
  by_cases hmem : key a ∈ kept.map key
  · rw [if_pos (hany.mpr hmem), if_pos hmem, List.map_map]
    refine List.map_congr_left fun b _ => ?_
    by_cases hb : key b = key a
    · rw [Function.comp_apply, if_pos hb, hb]
    · rw [Function.comp_apply, if_neg hb]
  · rw [if_neg (mt hany.mp hmem), if_neg hmem, List.map_append, List.map_singleton]

lemma keys_lastPerKey (items : List α) : ((lastPerKey key items).map key).Nodup ∧
    ∀ k, k ∈ (lastPerKey key items).map key ↔ k ∈ items.map key := by
  have hfold : ∀ rest kept : List α, (kept.map key).Nodup →
      ((rest.foldl (putByKey key) kept).map key).Nodup ∧
        ∀ k, k ∈ (rest.foldl (putByKey key) kept).map key ↔ k ∈ kept.map key ∨ k ∈ rest.map key := by
    intro rest
    induction rest with
    | nil => exact fun kept hnodup => ⟨hnodup, fun k => (or_iff_left List.not_mem_nil).symm⟩
    | cons a rest ih =>
      intro kept hnodup
      have hput : ((putByKey key kept a).map key).Nodup ∧
          ∀ k, k ∈ (putByKey key kept a).map key ↔ k ∈ kept.map key ∨ k = key a := by
        rw [map_putByKey]
        split_ifs with hmem
        · refine ⟨hnodup, fun k => ⟨Or.inl, fun hk => hk.elim id fun hk => hk ▸ hmem⟩⟩
        · refine ⟨List.nodup_append.mpr ⟨hnodup, List.nodup_singleton _, ?_⟩, fun k => ?_⟩
          · rintro x hx y hy rfl
            exact hmem (List.mem_singleton.mp hy ▸ hx)
          · rw [List.mem_append, List.mem_singleton]
      obtain ⟨hrest, hkeys⟩ := ih _ hput.1
      refine ⟨hrest, fun k => ?_⟩
      rw [List.foldl_cons, hkeys, hput.2, List.map_cons, List.mem_cons, or_assoc]
  obtain ⟨hnodup, hkeys⟩ := hfold items [] List.nodup_nil
  exact ⟨hnodup, fun k => (hkeys k).trans (or_iff_right List.not_mem_nil)⟩

lemma lastPerKey_nodup : (lastPerKey key items).Nodup := (keys_lastPerKey items).1.of_map key

lemma mem_lastPerKey_iff (hagree : Agree key items) : b ∈ lastPerKey key items ↔ b ∈ items := by
  refine ⟨mem_of_mem_lastPerKey, fun hb => ?_⟩
  obtain ⟨c, hc, hkey⟩ := List.mem_map.mp
    (((keys_lastPerKey items).2 (key b)).mpr (List.mem_map_of_mem hb))
  exact hagree c (mem_of_mem_lastPerKey hc) b hb hkey ▸ hc

omit [DecidableEq κ] in
lemma Agree.perm {items' : List α} (hagree : Agree key items) (h : items'.Perm items) :
    Agree key items' := fun a ha b hb => hagree a (h.mem_iff.mp ha) b (h.mem_iff.mp hb)

lemma lastPerKey_perm {items' : List α} (hagree : Agree key items) (h : items'.Perm items) :
    (lastPerKey key items').Perm (lastPerKey key items) := by
  refine (List.perm_ext_iff_of_nodup lastPerKey_nodup lastPerKey_nodup).mpr fun b => ?_
  rw [mem_lastPerKey_iff hagree, mem_lastPerKey_iff (hagree.perm h), h.mem_iff]

/-- An item that is the last one of its key, which comes before all others, stands in front. -/
lemma lastPerKey_front {before after : List α} (hbefore : ∀ b ∈ before, key b = key a)
    (hafter : ∀ b ∈ after, key b ≠ key a) :
    ∃ rest, lastPerKey key (before ++ a :: after) = a :: rest := by
  have hfirst : ∀ (rest kept : List α), (∀ b ∈ rest, key b = key a) →
      putByKey key kept a = [a] → putByKey key (rest.foldl (putByKey key) kept) a = [a] := by
    intro rest
    induction rest with
    | nil => exact fun kept _ hkept => hkept
    | cons b rest ih =>
      intro kept hrest hkept
      obtain ⟨hb, hrest⟩ := List.forall_mem_cons.mp hrest
      refine ih _ hrest ?_
      have hkeys : (putByKey key kept b).map key = [key a] := by
        have hmapped := congrArg (List.map key) hkept
        rw [map_putByKey] at hmapped
        rw [map_putByKey, hb]
        exact hmapped
      obtain ⟨c, hc, hkey⟩ := List.map_eq_singleton_iff.mp hkeys
      rw [hc, putByKey, if_pos (by simp [hkey]), List.map_singleton, if_pos hkey]
  have hstays : ∀ (rest kept : List α), (∀ b ∈ rest, key b ≠ key a) →
      ∃ kept', rest.foldl (putByKey key) (a :: kept) = a :: kept' := by
    intro rest
    induction rest with
    | nil => exact fun kept _ => ⟨kept, rfl⟩
    | cons b rest ih =>
      intro kept hrest
      obtain ⟨hb, hrest⟩ := List.forall_mem_cons.mp hrest
      have hput : ∃ kept', putByKey key (a :: kept) b = a :: kept' := by
        unfold putByKey
        split_ifs
        · exact ⟨_, by rw [List.map_cons, if_neg (Ne.symm hb)]⟩
        · exact ⟨kept ++ [b], rfl⟩
      obtain ⟨kept', hkept'⟩ := hput
      rw [List.foldl_cons, hkept']
      exact ih kept' hrest
  obtain ⟨rest, hrest⟩ := hstays after [] hafter
  refine ⟨rest, ?_⟩
  rw [lastPerKey, List.foldl_append, List.foldl_cons, hfirst before [] hbefore rfl]
  exact hrest

/-- Two sorted lists of the same items with different keys are the same. -/
lemma sortOn_eq_of_perm {α κ : Type} [LinearOrder κ] {key : α → κ} {items items' : List α}
    (h : items'.Perm items) (hkeys : (items.map key).Nodup) : sortOn key items' = sortOn key items := by
  refine List.Perm.eq_of_pairwise (fun a b ha hb hab hba => ?_) sortOn_pairwise sortOn_pairwise
    (sortOn_perm.trans (h.trans sortOn_perm.symm))
  exact List.inj_on_of_nodup_map hkeys (h.mem_iff.mp (mem_sortOn.mp ha)) (mem_sortOn.mp hb)
    (le_antisymm hab hba)

end

end Python
