import StageForge.Daw.Stability

/-!
# Moving a group of clips

`moveMany` moves the clips of a group by as much as brings the earliest of them onto the grid.
-/

namespace StageForge

open Python

variable {C : Conversions}

/-! ## The move -/

/-- A clip whose id is one of the group is moved. -/
def DawClip.movedBy (ids : List String) (shift : Int) (clip : DawClip) : DawClip :=
  if clip.clipId ∈ ids then { clip with startFrame := clip.startFrame + shift } else clip

def selectedClips (ids : List String) (tracks : List DawTrack) : List DawClip :=
  (tracks.flatMap DawTrack.clips).filter fun clip => clip.clipId ∈ ids

/-- A track after the move: its clips are those from before, moved, and all else is the same. -/
structure DawTrack.RigidlyMoved (ids : List String) (shift : Int) (before after : DawTrack) : Prop where
  same : after = { before with clips := after.clips }
  clips : after.clips.Perm (before.clips.map (DawClip.movedBy ids shift))

/-- The group is there as a whole, it is moved by as much in every track, no start is negative, and the
earliest clip of the group is brought onto the grid. -/
structure RigidMove (ids : List String) (snap shift : Int) (before after : List DawTrack) : Prop where
  selected : (selectedClips ids before).length = ids.length
  tracks : List.Forall₂ (DawTrack.RigidlyMoved ids shift) before after
  starts : ∀ clip ∈ selectedClips ids before, 0 ≤ clip.startFrame + shift
  grid : ∃ anchor ∈ selectedClips ids before,
    (∀ clip ∈ selectedClips ids before, anchor.startFrame ≤ clip.startFrame) ∧
      snap ∣ anchor.startFrame + shift

lemma length_of_mapM {α β : Type} {f : α → Option β} : ∀ {items : List α} {results : List β},
    items.mapM f = some results → results.length = items.length
  | [], results, h => by
    cases h
    rfl
  | item :: items, results, h => by
    rw [List.mapM_cons] at h
    obtain ⟨result, -, h⟩ := Option.bind_eq_some_iff.mp h
    obtain ⟨rest, hrest, h⟩ := Option.bind_eq_some_iff.mp h
    cases h
    rw [List.length_cons, length_of_mapM hrest, List.length_cons]

lemma groupIds_length {value : Value} {ids : List String} (h : groupIds value = .ok ids) :
    2 ≤ ids.length := by
  unfold groupIds at h
  cases value with
  | list items =>
    dsimp only at h
    split_ifs at h with hlength
    split at h
    · cases h
    · rename_i hmap
      split_ifs at h
      cases h
      have hsame := length_of_mapM hmap
      omega
  | _ => cases h

def groupShift (clips : List DawClip) (delta snap : Int) : Int :=
  let anchor := (clips.map DawClip.startFrame).min?.getD 0
  snapped (anchor + delta) snap - anchor

lemma exists_anchor {clips : List DawClip} (hclips : clips ≠ []) :
    ∃ anchor ∈ clips, (clips.map DawClip.startFrame).min?.getD 0 = anchor.startFrame ∧
      ∀ clip ∈ clips, anchor.startFrame ≤ clip.startFrame := by
  cases hmin : (clips.map DawClip.startFrame).min? with
  | none =>
    rw [List.min?_eq_none_iff, List.map_eq_nil_iff] at hmin
    exact absurd hmin hclips
  | some least =>
    obtain ⟨hmem, hleast⟩ := List.min?_eq_some_iff.mp hmin
    obtain ⟨anchor, hanchor, rfl⟩ := List.mem_map.mp hmem
    exact ⟨anchor, hanchor, rfl, fun clip hclip =>
      hleast _ (List.mem_map_of_mem hclip)⟩

/-- **A group is moved as a whole.** -/
lemma rigidMove_of_moveMany {operation : Entries} {tracks tracks' : List DawTrack}
    (h : moveMany operation tracks = .ok tracks') :
    ∃ ids snap shift, groupIds (operation.get "clipIds" .none) = .ok ids ∧
      snapOf? operation = some snap ∧ RigidMove ids snap shift tracks tracks' := by
  obtain ⟨ids, hids, h⟩ := bind_eq_ok.mp h
  split at h
  · cases h
  · split at h
    · cases h
    · rename_i delta hdelta _ snap hsnap
      dsimp only at h
      split_ifs at h with hcount hearly
      cases h
      have hne : selectedClips ids tracks ≠ [] := by
        intro hnil
        have hlength := groupIds_length hids
        rw [not_not] at hcount
        change (selectedClips ids tracks).length = ids.length at hcount
        rw [hnil, List.length_nil] at hcount
        omega
      obtain ⟨anchor, hanchor, hmin, hleast⟩ := exists_anchor hne
      refine ⟨ids, snap, groupShift (selectedClips ids tracks) delta snap, hids, hsnap,
        not_not.mp hcount, ?_, ?_, anchor, hanchor, hleast, ?_⟩
      · rw [List.forall₂_map_right_iff]
        exact List.forall₂_same.mpr fun t _ => ⟨rfl, sortOn_perm⟩
      · intro clip hclip
        refine not_lt.mp fun hneg => hearly ?_
        exact List.any_eq_true.mpr ⟨clip, hclip, decide_eq_true hneg⟩
      · rw [groupShift, hmin, add_sub_cancel]
        exact Dvd.intro_left _ rfl

/-! ## What is stored -/

/-- The session file, if there is one, was written by `save`. -/
def DawSessionStore.Written (C : Conversions) (store : DawSessionStore) : Prop :=
  ∀ value ∈ store.sessionFile, ∃ raw s, normalizeSession C raw = .ok s ∧ value = s.document

namespace DawSessionStore

variable {store store' : DawSessionStore} {s before : DawSession}

lemma normal_of_load (hstore : store.Written C) (h : store.load C = .ok s) : s.Normal C := by
  unfold load at h
  split at h
  · have hempty := load_none (C := C) store.historyFile
    obtain rfl := Except.ok.inj (h.symm.trans hempty)
    exact normal_emptySession
  · rename_i value hvalue
    obtain ⟨raw, written, hread, rfl⟩ := hstore value hvalue
    exact (DawSession.normal_of_document (normalizeSession_sound hread) h).1

lemma save_cases (store : DawSessionStore) (value : Value) :
    (∃ error, store.save C value = (store, .error error)) ∨
      ∃ store' s, store.save C value = (store', .ok s) ∧ normalizeSession C value = .ok s := by
  unfold save
  cases hvalue : normalizeSession C value with
  | error error => exact Or.inl ⟨error, rfl⟩
  | ok s =>
    cases store.load C with
    | error error => exact Or.inl ⟨error, rfl⟩
    | ok current =>
      dsimp only
      split_ifs
      · exact Or.inl ⟨_, rfl⟩
      · exact Or.inr ⟨_, s, rfl, rfl⟩

lemma saveBoth_cases (store : DawSessionStore) (value : Value) (history : DawHistory) :
    (∃ error, store.saveBoth C value history = (store, .error error)) ∨
      ∃ store' s, store.saveBoth C value history = (store', .ok s) ∧
        normalizeSession C value = .ok s := by
  unfold saveBoth
  obtain ⟨error, hsave⟩ | ⟨store', s, hsave, hread⟩ := save_cases store value
  · rw [hsave]
    exact Or.inl ⟨error, rfl⟩
  · rw [hsave]
    exact Or.inr ⟨_, s, rfl, hread⟩

lemma edit_cases (store : DawSessionStore) (e : DawEdit) :
    (∃ error, store.edit C e = (store, .error error)) ∨
      ∃ store' s before after, store.edit C e = (store', .ok s) ∧ store.load C = .ok before ∧
        e.apply C before = .ok after ∧
          normalizeSession C (after.revised (before.revision + 1)).document = .ok s := by
  unfold edit
  cases store.load C with
  | error error => exact Or.inl ⟨error, rfl⟩
  | ok before =>
    dsimp only
    split_ifs
    · exact Or.inl ⟨_, rfl⟩
    · cases hafter : e.apply C before with
      | error error => exact Or.inl ⟨error, rfl⟩
      | ok after =>
        unfold commitEdit
        cases store.readHistory with
        | error error => exact Or.inl ⟨error, rfl⟩
        | ok history =>
          refine (saveBoth_cases store _ _).imp id fun hsaved => ?_
          obtain ⟨store', s, hsave, hread⟩ := hsaved
          exact ⟨store', s, before, after, hsave, rfl, hafter, hread⟩

end DawSessionStore

/-! ## The edit -/

lemma exists_of_forall₂_right {α β : Type} {r : α → β → Prop} {xs : List α} {ys : List β}
    (h : List.Forall₂ r xs ys) : ∀ b ∈ ys, ∃ a ∈ xs, r a b := by
  induction h with
  | nil => exact List.forall_mem_nil _
  | cons hab _ ih =>
    refine List.forall_mem_cons.mpr ⟨⟨_, List.mem_cons_self, hab⟩, fun b hb => ?_⟩
    obtain ⟨a, ha, hr⟩ := ih b hb
    exact ⟨a, List.mem_cons_of_mem _ ha, hr⟩

lemma tidied_of_rigidlyMoved {ids : List String} {shift : Int} {t t' : DawTrack}
    (htidy : t.tidied = t) (h : t.RigidlyMoved ids shift t') : t'.tidied = t' := by
  obtain ⟨hid, -, -, -, -, -, -, -, -, -, hclipsTidy, -⟩ :=
    (DawTrack.mk.injEq ..).mp ((DawTrack.tidied.eq_1 t).symm.trans htidy)
  have hclips : ∀ c ∈ t.clips, c.tidied = c := map_eq_self_iff.mp hclipsTidy
  have hmoved : t'.clips.map DawClip.tidied = t'.clips := by
    rw [map_eq_self_iff]
    intro c hc
    obtain ⟨c', hc', rfl⟩ := List.mem_map.mp (h.clips.mem_iff.mp hc)
    have hclip : tidyText c'.clipId = c'.clipId :=
      ((DawClip.mk.injEq ..).mp ((DawClip.tidied.eq_1 c').symm.trans (hclips c' hc'))).1
    unfold DawClip.movedBy
    split_ifs
    · rw [DawClip.tidied, hclip]
    · exact hclips c' hc'
  have hid' : t'.trackId = t.trackId := by rw [h.same]
  rw [DawTrack.tidied, hmoved, hid', hid, ← hid']

end StageForge
