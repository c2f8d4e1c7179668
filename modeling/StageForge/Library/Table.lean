import Mathlib.Data.List.Dedup

/-!
# Tables and dictionaries in order of insertion

A table is a list of rows, each of which has a key, and no two the same. `put` overwrites the row
with the key of the new one, where it stands, or appends; `remove` drops the row of a key.

A dictionary is a table of pairs under their first component.
-/

universe u v

variable {α : Type u} {κ : Type v}

structure Table (key : α → κ) where
  rows : List α
  nodup : (rows.map key).Nodup

namespace Table

variable {key : α → κ}

@[ext] lemma ext {t t' : Table key} (h : t.rows = t'.rows) : t = t' := by
  cases t
  cases t'
  simpa using h

instance [DecidableEq α] : DecidableEq (Table key) := fun t t' =>
  decidable_of_iff (t.rows = t'.rows) ⟨ext, congrArg rows⟩

def empty : Table key := ⟨[], List.nodup_nil⟩

def keys (t : Table key) : List κ := t.rows.map key

lemma mem_keys_of_mem {t : Table key} {a : α} (h : a ∈ t.rows) : key a ∈ t.keys :=
  List.mem_map_of_mem h

lemma eq_of_mem {t : Table key} {a b : α} (ha : a ∈ t.rows) (hb : b ∈ t.rows)
    (h : key a = key b) : a = b :=
  List.inj_on_of_nodup_map t.nodup ha hb h

variable [DecidableEq κ] {t : Table key} {k : κ} {a b : α}

def find? (t : Table key) (k : κ) : Option α := t.rows.find? fun a => key a = k

/-- The rows with the one under the key of `a` replaced by `a`. -/
def replace (key : α → κ) (a : α) (rows : List α) : List α :=
  rows.map fun b => if key b = key a then a else b

lemma keys_replace (rows : List α) : (replace key a rows).map key = rows.map key := by
  simp only [replace, List.map_map]
  refine List.map_congr_left fun b _ => ?_
  by_cases h : key b = key a
  · simp [h]
  · simp [h]

def put (t : Table key) (a : α) : Table key :=
  if h : key a ∈ t.keys then ⟨replace key a t.rows, by rw [keys_replace]; exact t.nodup⟩
  else ⟨t.rows ++ [a], by
    rw [List.map_append]
    refine List.Nodup.append t.nodup (by simp) ?_
    intro k hk hnew
    obtain rfl : k = key a := by simpa using hnew
    exact h hk⟩

lemma rows_put_of_new (h : key a ∉ t.keys) : (t.put a).rows = t.rows ++ [a] := by
  rw [put, dif_neg h]

/-- A row that replaces another with the same value of `f` leaves these values as they were. -/
lemma map_put_of_mem {β : Type u} {f : α → β} {a' : α} (ha : a ∈ t.rows) (hkey : key a' = key a)
    (hf : f a' = f a) : (t.put a').rows.map f = t.rows.map f := by
  rw [put, dif_pos (hkey ▸ mem_keys_of_mem ha)]
  simp only [replace, List.map_map]
  refine List.map_congr_left fun b hb => ?_
  by_cases h : key b = key a'
  · rw [eq_of_mem hb ha (h.trans hkey)]
    simp [hkey, hf]
  · simp [h]

def remove (t : Table key) (k : κ) : Table key :=
  ⟨t.rows.filter fun a => key a ≠ k, t.nodup.sublist (List.filter_sublist.map _)⟩

lemma find?_eq_some : t.find? k = some a ↔ a ∈ t.rows ∧ key a = k := by
  constructor
  · intro h
    exact ⟨List.mem_of_find?_eq_some h, by simpa using List.find?_some h⟩
  · rintro ⟨hmem, rfl⟩
    cases hfind : t.find? (key a) with
    | none => exact absurd (decide_eq_true rfl) (List.find?_eq_none.mp hfind a hmem)
    | some b =>
      have hkey : key b = key a := by simpa using List.find?_some hfind
      rw [eq_of_mem (List.mem_of_find?_eq_some hfind) hmem hkey]

lemma find?_eq_none : t.find? k = none ↔ k ∉ t.keys := by
  rw [find?, List.find?_eq_none]
  constructor
  · intro h hmem
    obtain ⟨a, ha, hkey⟩ := List.mem_map.mp hmem
    exact h a ha (decide_eq_true hkey)
  · intro h a ha hkey
    exact h (List.mem_map.mpr ⟨a, ha, of_decide_eq_true hkey⟩)

lemma mem_put : b ∈ (t.put a).rows ↔ b = a ∨ (key b ≠ key a ∧ b ∈ t.rows) := by
  unfold put
  split_ifs with h
  · simp only [replace, List.mem_map]
    constructor
    · rintro ⟨c, hc, rfl⟩
      by_cases hk : key c = key a
      · exact .inl (if_pos hk)
      · rw [if_neg hk]
        exact .inr ⟨hk, hc⟩
    · rintro (rfl | ⟨hne, hmem⟩)
      · obtain ⟨c, hc, hkey⟩ := List.mem_map.mp h
        exact ⟨c, hc, if_pos hkey⟩
      · exact ⟨b, hmem, if_neg hne⟩
  · rw [List.mem_append, List.mem_singleton]
    constructor
    · rintro (hmem | rfl)
      · exact .inr ⟨fun hk => h (hk ▸ mem_keys_of_mem hmem), hmem⟩
      · exact .inl rfl
    · rintro (rfl | ⟨-, hmem⟩)
      · exact .inr rfl
      · exact .inl hmem

lemma mem_remove : b ∈ (t.remove k).rows ↔ key b ≠ k ∧ b ∈ t.rows := by
  simp [remove, and_comm]

lemma find?_put : (t.put a).find? k = if key a = k then some a else t.find? k := by
  refine Option.ext fun b => ?_
  rw [find?_eq_some, mem_put]
  split_ifs with h
  · rw [Option.some.injEq]
    constructor
    · rintro ⟨rfl | ⟨hne, -⟩, hk⟩
      · rfl
      · exact absurd (hk.trans h.symm) hne
    · rintro rfl
      exact ⟨.inl rfl, h⟩
  · rw [find?_eq_some]
    constructor
    · rintro ⟨rfl | ⟨-, hmem⟩, hk⟩
      · exact absurd hk h
      · exact ⟨hmem, hk⟩
    · rintro ⟨hmem, hk⟩
      exact ⟨.inr ⟨fun heq => h (heq.symm.trans hk), hmem⟩, hk⟩

lemma find?_remove {j : κ} : (t.remove k).find? j = if j = k then none else t.find? j := by
  refine Option.ext fun b => ?_
  rw [find?_eq_some, mem_remove]
  split_ifs with h
  · constructor
    · rintro ⟨⟨hne, -⟩, hk⟩
      exact absurd (hk.trans h) hne
    · exact fun hnone => absurd hnone (by simp)
  · rw [find?_eq_some]
    constructor
    · rintro ⟨⟨-, hmem⟩, hk⟩
      exact ⟨hmem, hk⟩
    · rintro ⟨hmem, rfl⟩
      exact ⟨⟨h, hmem⟩, rfl⟩

lemma put_eq_self (h : a ∈ t.rows) : t.put a = t := by
  unfold put
  rw [dif_pos (mem_keys_of_mem h)]
  refine Table.ext ?_
  conv_rhs => rw [← List.map_id t.rows]
  refine List.map_congr_left fun b hb => ?_
  split_ifs with hk
  · exact eq_of_mem h hb hk.symm
  · rfl

lemma put_eq_self_iff (ha : a ∈ t.rows) (hkey : key b = key a) : t.put b = t ↔ b = a := by
  refine ⟨fun h => ?_, fun h => h ▸ put_eq_self ha⟩
  have hb : b ∈ t.rows := h ▸ mem_put.mpr (.inl rfl)
  exact eq_of_mem hb ha hkey

end Table

abbrev Dict (κ : Type v) (α : Type u) := Table (Prod.fst : κ × α → κ)

namespace Dict

variable [DecidableEq κ]

def get? (d : Dict κ α) (k : κ) : Option α := (d.find? k).map Prod.snd

def set (d : Dict κ α) (k : κ) (v : α) : Dict κ α := d.put (k, v)

def erase (d : Dict κ α) (k : κ) : Dict κ α := d.remove k

variable {d : Dict κ α} {k j : κ} {v : α}

lemma get?_set : (d.set k v).get? j = if k = j then some v else d.get? j := by
  unfold get? set
  rw [Table.find?_put]
  by_cases h : k = j
  · simp [h]
  · simp [h]

lemma get?_erase : (d.erase k).get? j = if j = k then none else d.get? j := by
  unfold get? erase
  rw [Table.find?_remove]
  by_cases h : j = k
  · simp [h]
  · simp [h]

end Dict
