import StageForge.Daw.History
import StageForge.Daw.RenderPlan

/-!
# Edits of clips destroy nothing

A clip is a view of its source. To split, trim or resize it moves the ends of the view, and the rest of
what is heard stays.
-/

namespace StageForge

open Python

/-! ## The place of a clip -/

namespace ClipPlace

variable (p : ClipPlace)

def solo : Bool := (p.withClips []).any DawTrack.solo

def others : List DawClip := p.tracksBefore.flatMap DawTrack.clips ++ p.clipsBefore ++
    (p.clipsAfter ++ p.tracksAfter.flatMap DawTrack.clips)

noncomputable def heardOthers (frame : Int) : List Heard :=
  p.tracksBefore.flatMap (DawTrack.heardAt p.solo frame) ++
      p.clipsBefore.filterMap (DawClip.heardAt? p.solo p.track frame) ++
    (p.clipsAfter.filterMap (DawClip.heardAt? p.solo p.track frame) ++
      p.tracksAfter.flatMap (DawTrack.heardAt p.solo frame))

lemma solo_withClips (clips : List DawClip) : (p.withClips clips).any DawTrack.solo = p.solo := by
  simp only [solo, withClips, List.any_append, List.any_cons]

lemma clips_withClips (clips : List DawClip) :
    ((p.withClips clips).flatMap DawTrack.clips).Perm (clips ++ p.others) := by
  rw [withClips, List.flatMap_append, List.flatMap_cons, others]
  simp only [List.append_assoc]
  rw [← List.append_assoc, ← List.append_assoc _ p.clipsBefore]
  exact List.perm_append_comm_assoc _ _ _

lemma heardAt_withClips (s : DawSession) (clips : List DawClip) (frame : Int) :
    (({ s with tracks := p.withClips clips } : DawSession).heardAt frame).Perm
      (clips.filterMap (DawClip.heardAt? p.solo p.track frame) ++ p.heardOthers frame) := by
  have htrack : DawTrack.heardAt p.solo frame
      { p.track with clips := p.clipsBefore ++ clips ++ p.clipsAfter } =
        p.clipsBefore.filterMap (DawClip.heardAt? p.solo p.track frame) ++
          clips.filterMap (DawClip.heardAt? p.solo p.track frame) ++
          p.clipsAfter.filterMap (DawClip.heardAt? p.solo p.track frame) := by
    rw [DawTrack.heardAt, List.filterMap_append, List.filterMap_append]
    rfl
  rw [DawSession.heardAt, p.solo_withClips clips, withClips, List.flatMap_append, List.flatMap_cons,
    htrack, heardOthers]
  simp only [List.append_assoc]
  rw [← List.append_assoc, ← List.append_assoc _ (p.clipsBefore.filterMap _)]
  exact List.perm_append_comm_assoc _ _ _

end ClipPlace

def Heard.dry (h : Heard) : DrySound := h.toDrySound

variable {frame : Int}

lemma clipId_of_heardAt? {solo : Bool} {t : DawTrack} {c : DawClip} {h : Heard}
    (hheard : DawClip.heardAt? solo t frame c = some h) : h.clipId = c.clipId := by
  unfold DawClip.heardAt? at hheard
  split at hheard
  · cases hheard
    rfl
  · cases hheard

lemma clipId_of_heardAt {solo : Bool} {tracks : List DawTrack} {h : Heard}
    (hheard : h ∈ tracks.flatMap (DawTrack.heardAt solo frame)) :
    ∃ c ∈ tracks.flatMap DawTrack.clips, h.clipId = c.clipId := by
  obtain ⟨t, ht, hheard⟩ := List.mem_flatMap.mp hheard
  obtain ⟨c, hc, hheard⟩ := List.mem_filterMap.mp hheard
  exact ⟨c, List.mem_flatMap_of_mem ht hc, clipId_of_heardAt? hheard⟩

lemma ClipPlace.clipId_of_heardOthers {p : ClipPlace} {h : Heard}
    (hheard : h ∈ p.heardOthers frame) : ∃ c ∈ p.others, h.clipId = c.clipId := by
  simp only [heardOthers, List.mem_append] at hheard
  simp only [others, List.mem_append]
  rcases hheard with (hheard | hheard) | hheard | hheard
  · obtain ⟨c, hc, hid⟩ := clipId_of_heardAt hheard
    exact ⟨c, Or.inl (Or.inl hc), hid⟩
  · obtain ⟨c, hc, hheard⟩ := List.mem_filterMap.mp hheard
    exact ⟨c, Or.inl (Or.inr hc), clipId_of_heardAt? hheard⟩
  · obtain ⟨c, hc, hheard⟩ := List.mem_filterMap.mp hheard
    exact ⟨c, Or.inr (Or.inl hc), clipId_of_heardAt? hheard⟩
  · obtain ⟨c, hc, hid⟩ := clipId_of_heardAt hheard
    exact ⟨c, Or.inr (Or.inr hc), hid⟩

/-! ## Tidy names -/

def Heard.tidied (h : Heard) : Heard := { h with clipId := tidyText h.clipId }

lemma toFadedSound_tidied : Heard.toFadedSound ∘ Heard.tidied = Heard.toFadedSound := by
  funext h
  unfold Heard.tidied
  rfl

lemma dry_tidied : Heard.dry ∘ Heard.tidied = Heard.dry := by
  funext h
  unfold Heard.tidied Heard.dry
  rfl

lemma heardAt?_tidied (solo : Bool) (t : DawTrack) (frame : Int) (c : DawClip) :
    DawClip.heardAt? solo t.tidied frame c.tidied =
      (DawClip.heardAt? solo t frame c).map Heard.tidied := by
  unfold DawClip.heardAt? DawTrack.audible DawTrack.tidied DawClip.tidied
  split
  · simp only [Option.map_some, Heard.tidied]
  · simp only [Option.map_none]

lemma heardAt_tidied (s : DawSession) (frame : Int) :
    s.tidied.heardAt frame = (s.heardAt frame).map Heard.tidied := by
  have hsolo : (s.tracks.map DawTrack.tidied).any DawTrack.solo = s.tracks.any DawTrack.solo := by
    rw [List.any_map]
    unfold DawTrack.tidied Function.comp
    dsimp only
  have htrack (solo : Bool) (t : DawTrack) : DawTrack.heardAt solo frame t.tidied =
      (DawTrack.heardAt solo frame t).map Heard.tidied := by
    rw [DawTrack.heardAt, DawTrack.heardAt, List.map_filterMap]
    simp only [← heardAt?_tidied]
    unfold DawTrack.tidied
    rw [List.filterMap_map]
    rfl
  unfold DawSession.heardAt DawSession.tidied
  rw [hsolo, List.flatMap_map, List.map_flatMap]
  simp only [htrack]

lemma DawClip.clipId_tidied (c : DawClip) : c.tidied.clipId = tidyText c.clipId := by
  rfl

lemma DawTrack.clips_tidied (t : DawTrack) : t.tidied.clips = t.clips.map DawClip.tidied := by
  rfl

lemma DawSession.tracks_tidied (s : DawSession) :
    s.tidied.tracks = s.tracks.map DawTrack.tidied := by
  rfl

lemma tidyText_clipId {C : Conversions} {s : DawSession} (hs : s.Normal C) {c : DawClip}
    (hc : c ∈ s.tracks.flatMap DawTrack.clips) : tidyText c.clipId = c.clipId := by
  obtain ⟨t, ht, hc⟩ := List.mem_flatMap.mp hc
  have htracks : s.tracks.map DawTrack.tidied = s.tracks.map id := by
    rw [List.map_id, ← s.tracks_tidied, (DawSession.normal_iff.mp hs).2.1]
  have htrack : t.tidied = t := List.map_inj_left.mp htracks t ht
  have hclips : t.clips.map DawClip.tidied = t.clips.map id := by
    rw [List.map_id, ← t.clips_tidied, htrack]
  have hclip : c.tidied = c := List.map_inj_left.mp hclips c hc
  rw [← c.clipId_tidied, hclip]

/-! ## Names of clips -/

lemma DawClip.pairwise_of_fits {others clips : List DawClip}
    (h : FitsAll (DawClip.Fits others) [] clips) :
    (∀ c ∈ clips, ∀ d ∈ others, d.clipId ≠ c.clipId) ∧
      clips.Pairwise fun d c => d.clipId ≠ c.clipId := by
  have hnew : FitsAll (fun seen c => (∀ d ∈ others, d.clipId ≠ c.clipId) ∧
      ∀ d ∈ seen, d.clipId ≠ c.clipId) [] clips :=
    h.imp fun _ _ hfits => List.forall_mem_append.mp hfits.2.1
  obtain ⟨hothers, -, hpairwise⟩ := fitsAll_iff_pairwise.mp hnew
  exact ⟨hothers, hpairwise⟩

lemma DawTrack.pairwise_of_fits : ∀ {tracks seen : List DawTrack}, FitsAll DawTrack.Fits seen tracks →
    (∀ c ∈ tracks.flatMap DawTrack.clips, ∀ d ∈ seen.flatMap DawTrack.clips, d.clipId ≠ c.clipId) ∧
      (tracks.flatMap DawTrack.clips).Pairwise fun d c => d.clipId ≠ c.clipId
  | [], _, _ => ⟨fun _ hc => absurd hc List.not_mem_nil, List.Pairwise.nil⟩
  | t :: tracks, seen, ⟨hfits, hrest⟩ => by
    obtain ⟨hothers, hpairwise⟩ := DawClip.pairwise_of_fits hfits.2.1
    obtain ⟨hseen, hpairwise'⟩ := DawTrack.pairwise_of_fits hrest
    simp only [List.flatMap_cons, List.forall_mem_append] at hseen ⊢
    refine ⟨⟨hothers, fun c hc => (hseen c hc).2⟩, List.pairwise_append.mpr ⟨hpairwise, hpairwise', ?_⟩⟩
    exact fun d hd c hc => (hseen c hc).1 d hd

lemma DawSession.clipIds_nodup {C : Conversions} {s : DawSession} (hs : s.Normal C) :
    ((s.tracks.flatMap DawTrack.clips).map DawClip.clipId).Nodup :=
  List.pairwise_map.mpr (DawTrack.pairwise_of_fits (DawSession.normal_iff.mp hs).2.2.tracks).2

/-! ## Views of a clip -/

section

variable {C : Conversions} {operation : Entries} {solo : Bool} {t : DawTrack} {frame : Int}
  {c : DawClip}

lemma ClipFades.level_spanned (f : ClipFades) (length length' position : Int) :
    (f.spanned length).level length' position = f.level length position := by
  obtain ⟨fadeIn, fadeOut, curve, range⟩ := f
  cases range <;> rfl

lemma ClipFades.level_shifted_spanned (f : ClipFades) (length length' frames position : Int) :
    ((f.spanned length).shifted frames).level length' (position - frames) =
      f.level length position := by
  rw [← f.level_spanned length length']
  simp only [level, shifted, spanned, offset, span, Option.map_some, Option.getD_some, add_assoc,
    add_sub_cancel]

lemma heard_parts {newClipId : String} {relative : Int} (hpos : 0 < relative)
    (hlt : relative < c.lengthFrames) :
    ([c.leftPart relative, c.rightPart newClipId relative].filterMap
        (DawClip.heardAt? solo t frame)).map Heard.toFadedSound =
      ([c].filterMap (DawClip.heardAt? solo t frame)).map Heard.toFadedSound := by
  have hoffset : frame - (c.startFrame + relative) = frame - c.startFrame - relative := by omega
  simp only [List.filterMap_cons, List.filterMap_nil, DawClip.heardAt?, DawClip.leftPart,
    DawClip.rightPart, hoffset, ClipFades.level_spanned, ClipFades.level_shifted_spanned]
  by_cases hheard : t.audible solo && !c.muted
  · simp only [hheard, Bool.true_and, decide_eq_true_eq]
    by_cases hinside : c.startFrame ≤ frame ∧ frame < c.startFrame + c.lengthFrames
    · rw [if_pos hinside]
      by_cases hleft : frame < c.startFrame + relative
      · rw [if_pos ⟨hinside.1, hleft⟩, if_neg (by omega)]
        rfl
      · have hsource : c.sourceOffsetFrames + relative + (frame - c.startFrame - relative) =
            c.sourceOffsetFrames + (frame - c.startFrame) := by omega
        rw [if_neg (by omega), if_pos (by omega), hsource]
        rfl
    · rw [if_neg hinside, if_neg (by omega), if_neg (by omega)]
  · simp only [hheard, Bool.false_and, Bool.false_eq_true, if_false]

lemma heard_trimmed {first last : Int} (hfirst : 0 ≤ first) (hlast : 0 ≤ last) :
    (DawClip.heardAt? solo t frame (c.trimmed first last)).map Heard.dry =
      if c.startFrame + first ≤ frame ∧ frame < c.startFrame + c.lengthFrames - last then
        (DawClip.heardAt? solo t frame c).map Heard.dry
      else none := by
  have hmuted : (c.trimmed first last).muted = c.muted := rfl
  simp only [DawClip.heardAt?, hmuted]
  by_cases hheard : t.audible solo && !c.muted
  · simp only [hheard, Bool.true_and, decide_eq_true_eq]
    unfold DawClip.trimmed
    dsimp only
    by_cases hkept : c.startFrame + first ≤ frame ∧ frame < c.startFrame + c.lengthFrames - last
    · have hsource : c.sourceOffsetFrames + first + (frame - (c.startFrame + first)) =
          c.sourceOffsetFrames + (frame - c.startFrame) := by omega
      rw [if_pos hkept, if_pos (by omega), if_pos (by omega), hsource]
      rfl
    · rw [if_neg hkept, if_neg (by omega)]
      rfl
  · simp only [hheard, Bool.false_and, Bool.false_eq_true, if_false, Option.map_none, ite_self]

end

/-! ## Other clips in the place of one -/

/-- One session comes from the other by putting clips in the place of a clip. -/
structure ClipsReplaced (C : Conversions) (s s' : DawSession) (p : ClipPlace) (clips : List DawClip) :
    Prop where
  normal : s.Normal C
  normal' : s'.Normal C
  tracks_eq : s.tracks = p.withClips [p.clip]
  eq_tidied : s' = ({ s with tracks := p.withClips clips } : DawSession).tidied

namespace ClipPlace

variable (p : ClipPlace) (frame : Int)

/-- What is heard of clips in the place, under their tidy names. -/
noncomputable def heard (clips : List DawClip) : Multiset Heard :=
  ((clips.filterMap (DawClip.heardAt? p.solo p.track frame)).map Heard.tidied : List Heard)

noncomputable def around : Multiset Heard := ((p.heardOthers frame).map Heard.tidied : List Heard)

lemma heardAt_tidied_withClips (s : DawSession) (clips : List DawClip) :
    (({ s with tracks := p.withClips clips } : DawSession).tidied.heardAt frame : Multiset Heard) =
      p.heard frame clips + p.around frame := by
  rw [heardAt_tidied, heard, around, Multiset.coe_add, ← List.map_append]
  exact Multiset.coe_eq_coe.mpr ((p.heardAt_withClips s clips frame).map _)

variable {p frame}

lemma clipId_of_heard {clips : List DawClip} {h : Heard} (hheard : h ∈ p.heard frame clips) :
    ∃ c ∈ clips, h.clipId = tidyText c.clipId := by
  obtain ⟨h, hmem, rfl⟩ := List.mem_map.mp (Multiset.mem_coe.mp hheard)
  obtain ⟨c, hc, hheard⟩ := List.mem_filterMap.mp hmem
  exact ⟨c, hc, congrArg tidyText (clipId_of_heardAt? hheard)⟩

lemma clipId_of_around {h : Heard} (hheard : h ∈ p.around frame) :
    ∃ c ∈ p.others, h.clipId = tidyText c.clipId := by
  obtain ⟨h, hmem, rfl⟩ := List.mem_map.mp (Multiset.mem_coe.mp hheard)
  obtain ⟨c, hc, hid⟩ := clipId_of_heardOthers hmem
  exact ⟨c, hc, congrArg tidyText hid⟩

lemma tidyText_ne {C : Conversions} {s : DawSession} {clips : List DawClip}
    (h : ({ s with tracks := p.withClips clips } : DawSession).tidied.Normal C) :
    ∀ c ∈ clips, ∀ d ∈ p.others, tidyText c.clipId ≠ tidyText d.clipId := by
  have htidied (tracks : List DawTrack) : (tracks.map DawTrack.tidied).flatMap DawTrack.clips =
      (tracks.flatMap DawTrack.clips).map DawClip.tidied := by
    rw [List.flatMap_map, List.map_flatMap]
    rfl
  have hnodup := DawSession.clipIds_nodup h
  unfold DawSession.tidied at hnodup
  rw [htidied, List.map_map, ((p.clips_withClips clips).map _).nodup_iff, List.map_append] at hnodup
  intro c hc d hd
  exact (List.nodup_append.mp hnodup).2.2 _ (List.mem_map_of_mem hc) _ (List.mem_map_of_mem hd)

end ClipPlace

namespace ClipsReplaced

variable {C : Conversions} {s s' : DawSession} {p : ClipPlace} {clips : List DawClip} {frame : Int}
  (h : ClipsReplaced C s s' p clips)

include h

lemma tidied_eq : ({ s with tracks := p.withClips [p.clip] } : DawSession).tidied = s := by
  rw [← h.tracks_eq]
  exact (DawSession.normal_iff.mp h.normal).2.1

lemma heard_before :
    (s.heardAt frame : Multiset Heard) = p.heard frame [p.clip] + p.around frame := by
  rw [← p.heardAt_tidied_withClips, h.tidied_eq]

lemma heard_after : (s'.heardAt frame : Multiset Heard) = p.heard frame clips + p.around frame := by
  rw [← p.heardAt_tidied_withClips, ← h.eq_tidied]

lemma ne_of_around {heard : Heard} (hheard : heard ∈ p.around frame) {c : DawClip}
    (hc : c ∈ clips ∨ c = p.clip) : heard.clipId ≠ tidyText c.clipId := by
  obtain ⟨d, hd, hid⟩ := ClipPlace.clipId_of_around hheard
  rw [hid]
  rcases hc with hc | rfl
  · have hnormal := h.normal'
    rw [h.eq_tidied] at hnormal
    exact (ClipPlace.tidyText_ne hnormal c hc d hd).symm
  · have hnormal := h.normal
    rw [← h.tidied_eq] at hnormal
    exact (ClipPlace.tidyText_ne hnormal p.clip List.mem_cons_self d hd).symm

lemma filter_after {q : Heard → Prop} [DecidablePred q] (hclips : ∀ k ∈ p.heard frame clips, q k)
    (haround : ∀ k ∈ p.around frame, ¬ q k) :
    (s'.heardAt frame : Multiset Heard).filter q = p.heard frame clips ∧
      (s'.heardAt frame : Multiset Heard).filter (fun k => ¬ q k) = p.around frame := by
  rw [h.heard_after, Multiset.filter_add, Multiset.filter_add, Multiset.filter_eq_self.mpr hclips,
    Multiset.filter_eq_nil.mpr haround, Multiset.filter_eq_self.mpr haround,
    Multiset.filter_eq_nil.mpr fun k hk => not_not.mpr (hclips k hk), add_zero, zero_add]
  exact ⟨rfl, rfl⟩

lemma mem_clips : p.clip ∈ s.tracks.flatMap DawTrack.clips := by
  rw [h.tracks_eq, (p.clips_withClips [p.clip]).mem_iff]
  exact List.mem_append_left _ List.mem_cons_self

lemma tidyText_clip : tidyText p.clip.clipId = p.clip.clipId := tidyText_clipId h.normal h.mem_clips

lemma filter_before :
    (s.heardAt frame : Multiset Heard).filter (fun k => k.clipId = p.clip.clipId) =
        p.heard frame [p.clip] ∧
      (s.heardAt frame : Multiset Heard).filter (fun k => ¬ k.clipId = p.clip.clipId) =
        p.around frame := by
  have hself : ClipsReplaced C s s p [p.clip] := ⟨h.normal, h.normal, h.tracks_eq, h.tidied_eq.symm⟩
  refine hself.filter_after (fun k hk => ?_) fun k hk => ?_
  · obtain ⟨c, hc, hid⟩ := ClipPlace.clipId_of_heard hk
    obtain rfl := List.mem_singleton.mp hc
    rw [hid, h.tidyText_clip]
  · rw [← h.tidyText_clip]
    exact h.ne_of_around hk (Or.inr rfl)

end ClipsReplaced

/-! ## What the edits keep -/

/-- The plan is for a window that has the frame. -/
def PlanAt (C : Conversions) (s : DawSession) (frame : Int) (plan : RenderPlan) : Prop :=
  ∃ start stop, renderPlan C s.document start stop = .ok plan ∧ max 0 start ≤ frame ∧ frame < stop

/-- A split leaves what is heard at a frame: all of it as a whole, and the clips that are not split one
by one. -/
structure SplitKeeps (clipId newClipId : String) (before after : Multiset Heard) : Prop where
  sounds : after.map Heard.toFadedSound = before.map Heard.toFadedSound
  others : after.filter (fun k => ¬ (k.clipId = clipId ∨ k.clipId = newClipId)) =
    before.filter fun k => ¬ k.clipId = clipId

/-- A trim or resize leaves what is heard of the clip at a frame that is kept, and nothing of it at any
other frame; other clips stay. -/
structure CutKeeps (clipId : String) (kept : Prop) (before after : Multiset Heard) : Prop where
  surviving : kept → (after.filter fun k => k.clipId = clipId).map Heard.dry =
    (before.filter fun k => k.clipId = clipId).map Heard.dry
  removed : ¬ kept → after.filter (fun k => k.clipId = clipId) = 0
  others : after.filter (fun k => ¬ k.clipId = clipId) = before.filter fun k => ¬ k.clipId = clipId

def splitName (C : Conversions) (operation : Entries) : String :=
  tidyText (clip 128 (C.str (operation.get "newClipId"
    (.str (C.str (operation.get "clipId" (.str "")) ++ "-split")))))

/-- The frames that a trim or resize leaves of a clip, from one to another. -/
def keptFrames? (C : Conversions) (operation : Entries) (clip : DawClip) : Option (Int × Int) :=
  if C.str (operation.get "op" (.str "")) = "trim" then
    match C.int (operation.get "trimStartFrames" (.int 0)),
        C.int (operation.get "trimEndFrames" (.int 0)) with
    | .ok first, .ok last =>
      some (clip.startFrame + max 0 first, clip.startFrame + clip.lengthFrames - max 0 last)
    | _, _ => none
  else
    match integerOf? (operation.get "startFrame" .none), integerOf? (operation.get "endFrame" .none),
        snapOf? operation with
    | some start, some stop, some snap => some (snapped start snap, snapped stop snap)
    | _, _, _ => none

section

variable {C : Conversions} {operation : Entries} {s s' : DawSession} {p : ClipPlace} {frame : Int}

lemma splitKeeps_of_parts {relative : Int} {name : String} (hpos : 0 < relative)
    (hlt : relative < p.clip.lengthFrames)
    (h : ClipsReplaced C s s' p [p.clip.leftPart relative, p.clip.rightPart name relative]) :
    SplitKeeps p.clip.clipId (tidyText name) (s.heardAt frame) (s'.heardAt frame) where
  sounds := by
    rw [h.heard_before, h.heard_after, Multiset.map_add, Multiset.map_add]
    have hmap (clips : List DawClip) : (p.heard frame clips).map Heard.toFadedSound =
        (((clips.filterMap (DawClip.heardAt? p.solo p.track frame)).map Heard.toFadedSound :
          List FadedSound) : Multiset FadedSound) := by
      rw [ClipPlace.heard, Multiset.map_coe, List.map_map, toFadedSound_tidied]
    rw [hmap, hmap, heard_parts hpos hlt]
  others := by
    rw [h.filter_before.2]
    refine (h.filter_after (fun k hk => ?_) fun k hk => ?_).2
    · obtain ⟨c, hc, hid⟩ := ClipPlace.clipId_of_heard hk
      rcases List.mem_pair.mp hc with rfl | rfl
      · exact Or.inl (hid.trans h.tidyText_clip)
      · exact Or.inr hid
    · rintro (hid | hid)
      · exact h.ne_of_around hk (Or.inr rfl) (hid.trans h.tidyText_clip.symm)
      · exact h.ne_of_around hk (Or.inl (List.mem_cons_of_mem _ List.mem_cons_self)) hid

lemma cutKeeps_of_trimmed {first last : Int} (hfirst : 0 ≤ first) (hlast : 0 ≤ last)
    (h : ClipsReplaced C s s' p [p.clip.trimmed first last]) :
    CutKeeps p.clip.clipId (p.clip.startFrame + first ≤ frame ∧
      frame < p.clip.startFrame + p.clip.lengthFrames - last) (s.heardAt frame) (s'.heardAt frame) := by
  have hfilter : (s'.heardAt frame : Multiset Heard).filter (fun k => k.clipId = p.clip.clipId) =
        p.heard frame [p.clip.trimmed first last] ∧
      (s'.heardAt frame : Multiset Heard).filter (fun k => ¬ k.clipId = p.clip.clipId) =
        p.around frame := by
    refine h.filter_after (fun k hk => ?_) fun k hk hid => ?_
    · obtain ⟨c, hc, hid⟩ := ClipPlace.clipId_of_heard hk
      obtain rfl := List.mem_singleton.mp hc
      exact hid.trans h.tidyText_clip
    · exact h.ne_of_around hk (Or.inr rfl) (hid.trans h.tidyText_clip.symm)
  have hmap (c : DawClip) : (p.heard frame [c]).map Heard.dry =
      (((DawClip.heardAt? p.solo p.track frame c).map Heard.dry).toList : List DrySound) := by
    rw [ClipPlace.heard, Multiset.map_coe, List.map_map, dry_tidied, List.filterMap_cons,
      List.filterMap_nil]
    cases DawClip.heardAt? p.solo p.track frame c <;> rfl
  refine ⟨fun hkept => ?_, fun hkept => ?_, ?_⟩
  · rw [hfilter.1, h.filter_before.1, hmap, hmap, heard_trimmed hfirst hlast, if_pos hkept]
  · rw [hfilter.1, ← Multiset.map_eq_zero (f := Heard.dry), hmap, heard_trimmed hfirst hlast,
      if_neg hkept]
    rfl
  · rw [hfilter.2, h.filter_before.2]

end

/-! ## Runs of edits -/

def DawSession.afterEdits (C : Conversions) (edits : List DawEdit) (s : DawSession) :
    Option DawSession :=
  edits.foldlM (fun s e => DawSession.edited C e s) s

section

variable {C : Conversions} {operation : Entries} {s s₁ s' : DawSession} {frame : Int}

lemma DawSession.normal_edited {e : DawEdit} (hs : s.Normal C) (h : s.edited C e = some s') :
    s'.Normal C := by
  obtain ⟨after, happly, hread⟩ := DawSession.edited_eq_some.mp h
  exact (DawSession.normal_of_document
    (DawEdit.sound_apply (DawSession.normal_iff.mp hs).1 happly) hread).1

lemma DawSession.normal_afterEdits (edits : List DawEdit) (hs : s.Normal C)
    (h : s.afterEdits C edits = some s') : s'.Normal C := by
  induction edits generalizing s with
  | nil =>
    cases h
    exact hs
  | cons e edits ih =>
    obtain ⟨next, hnext, hrest⟩ := Option.bind_eq_some_iff.mp h
    exact ih (DawSession.normal_edited hs hnext) hrest

lemma exists_planAt (hs : s.Normal C) (hframe : 0 ≤ frame) : ∃ plan, PlanAt C s frame plan := by
  obtain ⟨plan, hplan⟩ := renderPlan_ok hs hframe
  exact ⟨plan, frame, frame + 1, hplan, max_le hframe le_rfl, by omega⟩

lemma edited_place (hs : s.Normal C) (h : s.edited C (.clip operation) = some s')
    (hop : C.str (operation.get "op" (.str "")) ≠ "moveMany") :
    ∃ p tracks, findClip (C.str (operation.get "clipId" (.str ""))) s.tracks = some p ∧
      editPlace C operation p = .ok tracks ∧
      s' = ({ s with tracks := tracks } : DawSession).tidied := by
  obtain ⟨after, happly, hread⟩ := DawSession.edited_eq_some.mp h
  have hsound := DawEdit.sound_apply (DawSession.normal_iff.mp hs).1 happly
  obtain ⟨tracks, htracks, rfl⟩ := map_eq_ok.mp happly
  rw [editTracks, if_neg hop] at htracks
  split at htracks
  · cases htracks
  · rename_i p hp
    exact ⟨p, tracks, hp, htracks, (DawSession.normal_of_document hsound hread).2⟩

lemma clipsReplaced_of_edited {p : ClipPlace} {clips : List DawClip} (hs : s.Normal C)
    (h : s.edited C (.clip operation) = some s') (htracks : s.tracks = p.withClips [p.clip])
    (heq : s' = ({ s with tracks := p.withClips clips } : DawSession).tidied) :
    ClipsReplaced C s s' p clips := ⟨hs, DawSession.normal_edited hs h, htracks, heq⟩

lemma splitClip_eq_ok {clip : DawClip} {clips : List DawClip}
    (h : splitClip C operation clip = .ok clips) :
    ∃ relative name, 0 < relative ∧ relative < clip.lengthFrames ∧
      tidyText name = splitName C operation ∧
      clips = [clip.leftPart relative, clip.rightPart name relative] := by
  obtain ⟨splitFrame, -, h⟩ := bind_eq_ok.mp h
  dsimp only at h
  split_ifs at h with hbad
  cases h
  exact ⟨splitFrame - clip.startFrame, _, by omega, by omega, by rw [splitName], rfl⟩

lemma cut_eq_ok {p : ClipPlace} {tracks : List DawTrack}
    (hop : C.str (operation.get "op" (.str "")) = "trim" ∨
      C.str (operation.get "op" (.str "")) = "resize")
    (h : editPlace C operation p = .ok tracks) :
    ∃ first last, 0 ≤ first ∧ 0 ≤ last ∧ tracks = p.withClips [p.clip.trimmed first last] ∧
      keptFrames? C operation p.clip = some (p.clip.startFrame + first,
        p.clip.startFrame + p.clip.lengthFrames - last) := by
  rcases hop with hop | hop
  · rw [editPlace, hop, if_pos rfl] at h
    obtain ⟨clips, hclips, rfl⟩ := map_eq_ok.mp h
    obtain ⟨first, hfirst, hclips⟩ := bind_eq_ok.mp hclips
    obtain ⟨last, hlast, hclips⟩ := bind_eq_ok.mp hclips
    split_ifs at hclips
    cases hclips
    refine ⟨max 0 first, max 0 last, le_max_left _ _, le_max_left _ _, rfl, ?_⟩
    rw [keptFrames?, if_pos hop, hfirst, hlast]
  · rw [editPlace, hop] at h
    simp only [String.reduceEq, reduceIte] at h
    obtain ⟨clips, hclips, rfl⟩ := map_eq_ok.mp h
    unfold resizeClip at hclips
    split at hclips
    · rename_i start stop hstart hstop
      split at hclips
      · cases hclips
      · rename_i snap hsnap
        dsimp only at hclips
        split_ifs at hclips with hbad
        cases hclips
        refine ⟨_, _, ?_, ?_, rfl, ?_⟩
        · omega
        · omega
        · rw [keptFrames?, hop, if_neg (by decide), hstart, hstop, hsnap]
          simp only [add_sub_cancel, sub_sub_cancel]
    · cases hclips

/-- **Splits, trims and resizes destroy nothing.** After any run of edits of a normal session that
succeed, a split leaves every frame as it was, and a trim or resize every frame but those it cuts off. -/
theorem clip_edits_keep {edits : List DawEdit} (hs : s.Normal C)
    (hrun : s.afterEdits C edits = some s₁)
    (hedit : s₁.edited C (.clip operation) = some s') :
    (C.str (operation.get "op" (.str "")) = "split" →
      ∀ frame plan plan', PlanAt C s₁ frame plan → PlanAt C s' frame plan' →
        SplitKeeps (C.str (operation.get "clipId" (.str ""))) (splitName C operation)
          (plan.heardAt frame) (plan'.heardAt frame)) ∧
    (C.str (operation.get "op" (.str "")) = "trim" ∨
        C.str (operation.get "op" (.str "")) = "resize" →
      ∃ clip ∈ s₁.tracks.flatMap DawTrack.clips,
        clip.clipId = C.str (operation.get "clipId" (.str "")) ∧
        ∃ first last, keptFrames? C operation clip = some (first, last) ∧
          ∀ frame plan plan', PlanAt C s₁ frame plan → PlanAt C s' frame plan' →
            CutKeeps clip.clipId (first ≤ frame ∧ frame < last) (plan.heardAt frame)
              (plan'.heardAt frame)) := by
  have hs₁ := DawSession.normal_afterEdits edits hs hrun
  have hs' := DawSession.normal_edited hs₁ hedit
  have hheard {t : DawSession} (ht : t.Normal C) {frame : Int} {plan : RenderPlan}
      (hplan : PlanAt C t frame plan) : plan.heardAt frame = t.heardAt frame := by
    obtain ⟨start, stop, hplan, hstart, hstop⟩ := hplan
    exact heardAt_renderPlan ht hplan hstart hstop
  refine ⟨fun hop => ?_, fun hop => ?_⟩
  · obtain ⟨p, tracks, hp, htracks, heq⟩ := edited_place hs₁ hedit (by rw [hop]; decide)
    obtain ⟨hplace, -, -, hid⟩ := findClip_eq_some hp
    rw [editPlace, hop] at htracks
    simp only [String.reduceEq, reduceIte] at htracks
    obtain ⟨clips, hclips, rfl⟩ := map_eq_ok.mp htracks
    obtain ⟨relative, name, hpos, hlt, hname, rfl⟩ := splitClip_eq_ok hclips
    intro frame plan plan' hplan hplan'
    rw [hheard hs₁ hplan, hheard hs' hplan', ← hid, ← hname]
    exact splitKeeps_of_parts hpos hlt (clipsReplaced_of_edited hs₁ hedit hplace heq)
  · obtain ⟨p, tracks, hp, htracks, heq⟩ := edited_place hs₁ hedit (by
      rcases hop with hop | hop <;> rw [hop] <;> decide)
    obtain ⟨hplace, -, -, hid⟩ := findClip_eq_some hp
    obtain ⟨first, last, hfirst, hlast, rfl, hkept⟩ := cut_eq_ok hop htracks
    have hreplaced := clipsReplaced_of_edited hs₁ hedit hplace heq
    refine ⟨p.clip, hreplaced.mem_clips, hid, _, _, hkept, fun frame plan plan' hplan hplan' => ?_⟩
    rw [hheard hs₁ hplan, hheard hs' hplan']
    exact cutKeeps_of_trimmed hfirst hlast hreplaced

def fadedSession : DawSession where
  minimumReaderSchemaVersion := 1
  sessionId := "default"
  revision := 0
  tempoMap := [defaultTempo]
  markers := []
  tracks :=
    [{ trackId := "t"
       kind := .audio
       name := "t"
       gain := 1
       pan := 0
       muted := false
       solo := false
       outputBus := "main"
       sends := []
       automation := []
       clips :=
         [{ clipId := "a"
            startFrame := 0
            lengthFrames := 100
            sourceOffsetFrames := 0
            source := ⟨.audioFile, []⟩
            muted := false
            fades := ⟨10, 20, .linear, none⟩
            extra := [] }]
       extra := [] }]
  extra := []

def trimTheStart : Entries :=
  [("op", .str "trim"), ("clipId", .str "a"), ("trimStartFrames", .int 10)]

def splitInTwo : Entries := [("op", .str "split"), ("clipId", .str "a"), ("splitFrame", .int 40)]

theorem clip_edits_keep_split : ∃ s₁ s',
    fadedSession.afterEdits plainConversions [.clip trimTheStart] = some s₁ ∧
      s₁.edited plainConversions (.clip splitInTwo) = some s' ∧
      ∀ frame plan plan', PlanAt plainConversions s₁ frame plan →
        PlanAt plainConversions s' frame plan' →
        SplitKeeps "a" "a-split" (plan.heardAt frame) (plan'.heardAt frame) := by
  have hboth : ((fadedSession.afterEdits plainConversions [.clip trimTheStart]).bind
      (DawSession.edited plainConversions (.clip splitInTwo))).isSome := by
    decide +kernel
  have hnormal : fadedSession.Normal plainConversions := by
    unfold DawSession.Normal
    decide +kernel
  have hid : plainConversions.str (splitInTwo.get "clipId" (.str "")) = "a" := by decide +kernel
  have hname : splitName plainConversions splitInTwo = "a-split" := by decide +kernel
  obtain ⟨s', hs'⟩ := Option.isSome_iff_exists.mp hboth
  obtain ⟨s₁, hrun, hedit⟩ := Option.bind_eq_some_iff.mp hs'
  have hkeep := (clip_edits_keep hnormal hrun hedit).1 (by decide +kernel)
  rw [hid, hname] at hkeep
  exact ⟨s₁, s', hrun, hedit, hkeep⟩

end

end StageForge
