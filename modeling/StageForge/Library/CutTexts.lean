import StageForge.Library.PythonList

/-!
# Texts that are stripped and then cut

`s.strip()[:n]` is a projection on most texts only: a cut may leave white space at the end, which the
next strip takes away. `CutsCleanly n s` says that the last character that is kept is none, and this
is exactly when doing both again changes nothing (`strip_clip_iff`, `clip_strip_iff`).
-/

namespace Python

variable {n : ℕ} {s : String}

/-- What is left of the text, stripped and cut, does not end in white space. -/
def CutsCleanly (n : ℕ) (s : String) : Prop :=
  ∀ c ∈ (clip n (strip s)).toList.getLast?, isSpace c = false

instance (n : ℕ) (s : String) : Decidable (CutsCleanly n s) :=
  decidable_of_iff ((clip n (strip s)).toList.getLast?.all (fun c => !isSpace c) = true) (by
    unfold CutsCleanly
    cases (clip n (strip s)).toList.getLast? <;> simp)

lemma dropWhile_take {α : Type} {p : α → Bool} {l : List α} (h : l.dropWhile p = l) :
    (l.take n).dropWhile p = l.take n := by
  rw [List.dropWhile_eq_self_iff] at h ⊢
  intro hlength
  have hl : 0 < l.length := hlength.trans_le (List.length_take_le' n l)
  rw [List.getElem_take]
  exact h hl

lemma dropWhile_clip_strip :
    ((clip n (strip s)).toList).dropWhile isSpace = (clip n (strip s)).toList := by
  rw [clip, String.toList_ofList, strip_eq, String.toList_ofList]
  exact dropWhile_take (dropWhile_rdropWhile (List.dropWhile_idempotent isSpace s.toList))

lemma strip_clip_iff : strip (clip n (strip s)) = clip n (strip s) ↔ CutsCleanly n s := by
  rw [strip_eq, dropWhile_clip_strip, ← String.toList_inj, String.toList_ofList, List.rdropWhile_eq_self_iff]
  constructor
  · intro hlast c hc
    obtain ⟨hne, rfl⟩ := List.mem_getLast?_eq_getLast hc
    exact Bool.eq_false_of_not_eq_true (hlast hne)
  · intro hlast hne
    rw [hlast _ (List.getLast?_eq_some_getLast hne)]
    exact Bool.false_ne_true

lemma clip_strip_iff : clip n (strip (clip n (strip s))) = clip n (strip s) ↔ CutsCleanly n s := by
  have hshort : (strip (clip n (strip s))).length ≤ n :=
    (length_strip_le _).trans (length_clip_le n _)
  rw [clip_eq_self hshort, strip_clip_iff]

lemma clip_strip_eq_empty (h : clip n (strip (clip n (strip s))) = "") : clip n (strip s) = "" := by
  rw [clip, strip_eq (clip n (strip s)), dropWhile_clip_strip, String.toList_ofList, ← String.toList_inj,
    String.toList_ofList, String.toList_empty, List.take_eq_nil_iff] at h
  rcases h with rfl | hnil
  · rfl
  · have hempty := List.dropWhile_eq_nil_iff.mpr (List.rdropWhile_eq_nil_iff.mp hnil)
    rw [dropWhile_clip_strip] at hempty
    exact String.toList_eq_nil_iff.mp hempty

lemma cutsCleanly_of_length_le (h : s.length ≤ n) : CutsCleanly n s := by
  rw [← strip_clip_iff, clip_eq_self ((length_strip_le s).trans h), strip_strip]

/-! ## A text that is not cut cleanly -/

/-- A text with white space after its first characters. -/
def spacedText (k : ℕ) : String := String.ofList (List.replicate (k + 1) 'a' ++ [' ', 'b'])

lemma clip_strip_spacedText (k : ℕ) :
    clip (k + 2) (strip (spacedText k)) = String.ofList (List.replicate (k + 1) 'a' ++ [' ']) := by
  have hfront : (List.replicate (k + 1) 'a' ++ [' ', 'b']).dropWhile isSpace =
      List.replicate (k + 1) 'a' ++ [' ', 'b'] := by
    rw [List.replicate_succ, List.cons_append]
    exact List.dropWhile_cons_of_neg (by decide)
  have hback : (List.replicate (k + 1) 'a' ++ [' ', 'b']).reverse.dropWhile isSpace =
      (List.replicate (k + 1) 'a' ++ [' ', 'b']).reverse := by
    rw [List.reverse_append]
    exact List.dropWhile_cons_of_neg (by decide)
  have htake : (List.replicate (k + 1) 'a' ++ [' ', 'b']).take (k + 2) =
      List.replicate (k + 1) 'a' ++ [' '] := by
    rw [List.take_append, List.length_replicate,
      List.take_of_length_le (by rw [List.length_replicate]; omega)]
    have hone : k + 2 - (k + 1) = 1 := by omega
    rw [hone]
    rfl
  rw [clip, strip, spacedText, String.toList_ofList, String.toList_ofList, hfront, hback,
    List.reverse_reverse, htake]

lemma clip_strip_spacedText_ne (k : ℕ) : clip (k + 2) (strip (spacedText k)) ≠ "" := by
  rw [clip_strip_spacedText, Ne, ← String.toList_eq_nil_iff, String.toList_ofList]
  exact fun hnil => absurd (List.append_eq_nil_iff.mp hnil).2 (List.cons_ne_nil _ _)

lemma not_cutsCleanly_spacedText (k : ℕ) : ¬ CutsCleanly (k + 2) (spacedText k) := by
  intro hclean
  have hlast : ' ' ∈ (clip (k + 2) (strip (spacedText k))).toList.getLast? := by
    rw [clip_strip_spacedText, String.toList_ofList, List.getLast?_append]
    exact rfl
  exact absurd (hclean ' ' hlast) (by decide)

end Python
