import Mathlib

/-!
# The best item of each key

Items that have a key and a rank go into a dictionary one after the other, and an item takes the place of
another one only if its rank is higher. So the first of the best items of each key is kept, at the place
of the first item with the key.
-/

universe u v w

section

variable {α : Type u} {κ : Type v} {ρ : Type w} [DecidableEq κ] [LinearOrder ρ]
  (key : α → κ) (rank : α → ρ)

/-- The item in the dictionary, or the new one if it is better. -/
def better (kept item : α) : α := if rank kept < rank item then item else kept

def putBest (kept : List α) (item : α) : List α := if kept.any fun b => key b = key item then
    kept.map fun b => if key b = key item then better rank b item else b
  else kept ++ [item]

def bestPerKey (items : List α) : List α := items.foldl (putBest key rank) []

def IsBest (items : List α) (a : α) : Prop := ∀ b ∈ items, key b = key a → rank b ≤ rank a

/-- No item with the key has a higher rank, and none before it has the same. -/
def IsFirstBest (items : List α) (a : α) : Prop :=
  ∃ i : ℕ, items[i]? = some a ∧ ∀ (j : ℕ) b, items[j]? = some b → key b = key a →
    rank b < rank a ∨ rank b = rank a ∧ i ≤ j

variable {key rank} {items kept : List α} {a b : α}

omit [DecidableEq κ] in
lemma IsBest.perm {items' : List α} (h : items'.Perm items) :
    IsBest key rank items' a ↔ IsBest key rank items a :=
  ⟨fun hbest b hb => hbest b (h.mem_iff.mpr hb), fun hbest b hb => hbest b (h.mem_iff.mp hb)⟩

omit [DecidableEq κ] in
lemma key_better (h : key a = key b) : key (better rank a b) = key a := by
  unfold better
  split_ifs
  · exact h.symm
  · rfl

lemma bestPerKey_concat (items : List α) (a : α) :
    bestPerKey key rank (items ++ [a]) = putBest key rank (bestPerKey key rank items) a := by
  rw [bestPerKey, List.foldl_append]
  rfl

/-- The keys after an item is put: none is lost, and at most that of the item is new. -/
lemma keys_putBest (kept : List α) (a : α) : (putBest key rank kept a).map key =
      if key a ∈ kept.map key then kept.map key else kept.map key ++ [key a] := by
  have hany : (kept.any fun b => key b = key a) = true ↔ key a ∈ kept.map key := by
    simp only [List.any_eq_true, decide_eq_true_eq, List.mem_map]
  unfold putBest
  by_cases h : key a ∈ kept.map key
  · rw [if_pos (hany.mpr h), if_pos h, List.map_map]
    refine List.map_congr_left fun b _ => ?_
    dsimp only [Function.comp_apply]
    split_ifs with heq
    · exact key_better heq
    · rfl
  · rw [if_neg (mt hany.mp h), if_neg h, List.map_append, List.map_singleton]

lemma keys_nodup : ((bestPerKey key rank items).map key).Nodup := by
  induction items using List.reverseRecOn with
  | nil => exact List.nodup_nil
  | append_singleton items a ih =>
    rw [bestPerKey_concat, keys_putBest]
    split_ifs with h
    · exact ih
    · exact List.nodup_append.mpr ⟨ih, List.nodup_singleton _, fun k hk k' hk' heq => h (by
        rw [← List.mem_singleton.mp hk', ← heq]
        exact hk)⟩

lemma mem_keys_bestPerKey {k : κ} : k ∈ (bestPerKey key rank items).map key ↔ k ∈ items.map key := by
  induction items using List.reverseRecOn with
  | nil => exact Iff.rfl
  | append_singleton items a ih =>
    rw [bestPerKey_concat, keys_putBest, List.map_append, List.map_singleton, List.mem_append,
      List.mem_singleton]
    split_ifs with h
    · rw [ih]
      refine ⟨Or.inl, ?_⟩
      rintro (hk | rfl)
      · exact hk
      · exact ih.mp h
    · rw [List.mem_append, List.mem_singleton, ih]

lemma exists_mem_bestPerKey (h : a ∈ items) : ∃ b ∈ bestPerKey key rank items, key b = key a :=
  List.mem_map.mp (mem_keys_bestPerKey.mpr (List.mem_map_of_mem h))

lemma eq_of_key_eq (ha : a ∈ bestPerKey key rank items) (hb : b ∈ bestPerKey key rank items)
    (h : key a = key b) : a = b := List.inj_on_of_nodup_map keys_nodup ha hb h

lemma mem_putBest (h : b ∈ putBest key rank kept a) :
    (b ∈ kept ∧ key b ≠ key a) ∨ (∃ c ∈ kept, key c = key a ∧ b = better rank c a) ∨
      b = a ∧ key a ∉ kept.map key := by
  unfold putBest at h
  split_ifs at h with hany
  · obtain ⟨c, hc, rfl⟩ := List.mem_map.mp h
    by_cases heq : key c = key a
    · rw [if_pos heq]
      exact Or.inr (Or.inl ⟨c, hc, heq, rfl⟩)
    · rw [if_neg heq]
      exact Or.inl ⟨hc, heq⟩
  · have hnew : key a ∉ kept.map key := by
      simpa only [List.any_eq_true, decide_eq_true_eq, List.mem_map] using hany
    rcases List.mem_append.mp h with hb | hb
    · exact Or.inl ⟨hb, fun heq => hnew (heq ▸ List.mem_map_of_mem hb)⟩
    · exact Or.inr (Or.inr ⟨List.mem_singleton.mp hb, hnew⟩)

/-- **What is kept is one of the items, and a best one of its key.** -/
theorem best_of_mem (h : b ∈ bestPerKey key rank items) : b ∈ items ∧ IsBest key rank items b := by
  induction items using List.reverseRecOn generalizing b with
  | nil => exact absurd h List.not_mem_nil
  | append_singleton items a ih =>
    rw [bestPerKey_concat] at h
    rcases mem_putBest h with ⟨hb, hne⟩ | ⟨c, hc, heq, rfl⟩ | ⟨rfl, hnew⟩
    · obtain ⟨hmem, hbest⟩ := ih hb
      refine ⟨List.mem_append_left _ hmem, fun d hd hkey => ?_⟩
      rcases List.mem_append.mp hd with hd | hd
      · exact hbest d hd hkey
      · rw [List.mem_singleton.mp hd] at hkey
        exact absurd hkey.symm hne
    · obtain ⟨hmem, hbest⟩ := ih hc
      unfold better
      split_ifs with hlt
      · refine ⟨List.mem_append_right _ List.mem_cons_self, fun d hd hkey => ?_⟩
        rcases List.mem_append.mp hd with hd | hd
        · exact (hbest d hd (hkey.trans heq.symm)).trans hlt.le
        · rw [List.mem_singleton.mp hd]
      · refine ⟨List.mem_append_left _ hmem, fun d hd hkey => ?_⟩
        rcases List.mem_append.mp hd with hd | hd
        · exact hbest d hd hkey
        · rw [List.mem_singleton.mp hd]
          exact not_lt.mp hlt
    · refine ⟨List.mem_append_right _ List.mem_cons_self, fun d hd hkey => ?_⟩
      rcases List.mem_append.mp hd with hd | hd
      · exact absurd (mem_keys_bestPerKey.mpr (hkey ▸ List.mem_map_of_mem hd)) hnew
      · rw [List.mem_singleton.mp hd]

lemma mem_putBest_of_best (hb : b ∈ kept) (h : key a = key b → rank a ≤ rank b) :
    b ∈ putBest key rank kept a := by
  unfold putBest
  split_ifs
  · refine List.mem_map.mpr ⟨b, hb, ?_⟩
    split_ifs with heq
    · rw [better, if_neg (not_lt.mpr (h heq.symm))]
    · rfl
  · exact List.mem_append_left _ hb

/-- **A best item that comes first is kept.** -/
theorem mem_bestPerKey_cons (h : IsBest key rank (a :: items) a) :
    a ∈ bestPerKey key rank (a :: items) := by
  have hfold : ∀ rest kept : List α, (∀ b ∈ rest, key b = key a → rank b ≤ rank a) → a ∈ kept →
      a ∈ rest.foldl (putBest key rank) kept := by
    intro rest
    induction rest with
    | nil => exact fun kept _ ha => ha
    | cons b rest ih =>
      intro kept hrest ha
      rw [List.forall_mem_cons] at hrest
      exact ih _ hrest.2 (mem_putBest_of_best ha hrest.1)
  exact hfold items [a] (fun b hb => h b (List.mem_cons_of_mem _ hb)) List.mem_cons_self

lemma head_bestPerKey (a : α) (items : List α) :
    ∃ b rest, bestPerKey key rank (a :: items) = b :: rest ∧ key b = key a := by
  induction items using List.reverseRecOn with
  | nil => exact ⟨a, [], rfl, rfl⟩
  | append_singleton items c ih =>
    obtain ⟨b, rest, heq, hkey⟩ := ih
    rw [← List.cons_append, bestPerKey_concat, heq, putBest]
    split_ifs
    · rw [List.map_cons]
      refine ⟨_, _, rfl, ?_⟩
      split_ifs with hsame
      · rw [key_better hsame, hkey]
      · exact hkey
    · exact ⟨b, rest ++ [c], rfl, hkey⟩

/-! ## The first of the best -/

omit [DecidableEq κ] in
lemma IsFirstBest.mem (h : IsFirstBest key rank items a) : a ∈ items := by
  obtain ⟨i, hi, -⟩ := h
  exact List.mem_of_getElem? hi

omit [DecidableEq κ] in
lemma IsFirstBest.unique (ha : IsFirstBest key rank items a) (hb : IsFirstBest key rank items b)
    (h : key a = key b) : a = b := by
  obtain ⟨i, hi, hbesti⟩ := ha
  obtain ⟨j, hj, hbestj⟩ := hb
  rcases hbesti j b hj h.symm with hlt | ⟨-, hij⟩
  · rcases hbestj i a hi h with hlt' | ⟨heq, -⟩
    · exact absurd hlt (lt_asymm hlt')
    · exact absurd hlt heq.not_gt
  · rcases hbestj i a hi h with hlt | ⟨-, hji⟩
    · rcases hbesti j b hj h.symm with hlt' | ⟨heq, -⟩
      · exact absurd hlt (lt_asymm hlt')
      · exact absurd hlt heq.not_gt
    · rw [le_antisymm hij hji, hj] at hi
      exact (Option.some.inj hi).symm

omit [DecidableEq κ] in
lemma getElem?_concat {items : List α} {j : ℕ} (h : (items ++ [a])[j]? = some b) :
    items[j]? = some b ∧ j < items.length ∨ b = a ∧ j = items.length := by
  rcases lt_trichotomy j items.length with hlt | heq | hgt
  · rw [List.getElem?_append_left hlt] at h
    exact Or.inl ⟨h, hlt⟩
  · rw [heq, List.getElem?_concat_length] at h
    exact Or.inr ⟨(Option.some.inj h).symm, heq⟩
  · rw [List.getElem?_eq_none (by simpa using hgt)] at h
    cases h

lemma isFirstBest_of_mem (h : b ∈ bestPerKey key rank items) : IsFirstBest key rank items b := by
  induction items using List.reverseRecOn generalizing b with
  | nil => exact absurd h List.not_mem_nil
  | append_singleton items a ih =>
    rw [bestPerKey_concat] at h
    rcases mem_putBest h with ⟨hb, hne⟩ | ⟨c, hc, heq, rfl⟩ | ⟨rfl, hnew⟩
    · obtain ⟨i, hi, hbest⟩ := ih hb
      have hlt := (List.getElem?_eq_some_iff.mp hi).1
      refine ⟨i, by rw [List.getElem?_append_left hlt, hi], fun j d hj hkey => ?_⟩
      rcases getElem?_concat hj with ⟨hd, -⟩ | ⟨rfl, -⟩
      · exact hbest j d hd hkey
      · exact absurd hkey.symm hne
    · obtain ⟨i, hi, hbest⟩ := ih hc
      have hlt := (List.getElem?_eq_some_iff.mp hi).1
      unfold better
      split_ifs with hbetter
      · refine ⟨items.length, List.getElem?_concat_length, fun j d hj hkey => ?_⟩
        rcases getElem?_concat hj with ⟨hd, -⟩ | ⟨rfl, hlast⟩
        · rcases hbest j d hd (hkey.trans heq.symm) with hless | ⟨hsame, -⟩
          · exact Or.inl (hless.trans hbetter)
          · exact Or.inl (hsame.trans_lt hbetter)
        · exact Or.inr ⟨rfl, hlast.ge⟩
      · refine ⟨i, by rw [List.getElem?_append_left hlt, hi], fun j d hj hkey => ?_⟩
        rcases getElem?_concat hj with ⟨hd, -⟩ | ⟨rfl, hlast⟩
        · exact hbest j d hd hkey
        · rcases (not_lt.mp hbetter).lt_or_eq with hless | hsame
          · exact Or.inl hless
          · exact Or.inr ⟨hsame, hlast ▸ hlt.le⟩
    · refine ⟨items.length, List.getElem?_concat_length, fun j d hj hkey => ?_⟩
      rcases getElem?_concat hj with ⟨hd, -⟩ | ⟨rfl, hlast⟩
      · have hmem : key b ∈ items.map key := hkey ▸ List.mem_map_of_mem (List.mem_of_getElem? hd)
        exact absurd (mem_keys_bestPerKey.mpr hmem) hnew
      · exact Or.inr ⟨rfl, hlast.ge⟩

/-- **What is kept is the first of the best items of its key.** -/
theorem mem_bestPerKey_iff : a ∈ bestPerKey key rank items ↔ IsFirstBest key rank items a := by
  refine ⟨isFirstBest_of_mem, fun h => ?_⟩
  obtain ⟨b, hb, hkey⟩ := @exists_mem_bestPerKey _ _ _ _ _ key rank _ _ h.mem
  obtain rfl := h.unique (isFirstBest_of_mem hb) hkey.symm
  exact hb

end
