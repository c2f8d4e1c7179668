import StageForge.Daw.History
import StageForge.Library.CutTexts

/-!
# Normalising a session twice

`normalize_session` strips the ids of tracks and clips, and the ids and names of markers, and cuts
them after that. All the rest of it is a projection.
-/

namespace StageForge

open Python

variable {C : Conversions}

/-! ## Texts that are stripped and cut -/

def fieldOr (value : Value) (key : String) (default : Value) : Value := match value with
  | .dict entries => Entries.get entries key default
  | _ => default

def sessionItems (value : Value) (key : String) : List Value :=
  match (fieldOr value key (.list [])).iterate with
  | .ok items => items
  | .error _ => []

namespace DawSession

def clipTexts (C : Conversions) (clip : Value) : List String :=
  [C.str (fieldOr clip "clipId" (.str ""))]

def trackTexts (C : Conversions) (track : Value) : List String :=
  C.str (fieldOr track "trackId" (.str "")) :: (sessionItems track "clips").flatMap (clipTexts C)

def markerTexts (C : Conversions) (marker : Value) : List String :=
  [C.str (fieldOr marker "markerId" (.str "")), C.str (fieldOr marker "name" (.str ""))]

def strippedTexts (C : Conversions) (session : Value) : List String :=
  (sessionItems session "tracks").flatMap (trackTexts C) ++
    (sessionItems session "markers").flatMap (markerTexts C)

/-- The ids of all tracks, of all clips, of all markers, and of the points of each track differ. -/
structure IdsUnique (s : DawSession) : Prop where
  tracks : (s.tracks.map DawTrack.trackId).Nodup
  clips : ((s.tracks.flatMap DawTrack.clips).map DawClip.clipId).Nodup
  markers : (s.markers.map DawMarker.markerId).Nodup
  points : ∀ t ∈ s.tracks, (t.automation.map AutomationPoint.pointId).Nodup

end DawSession

/-! ## What is read is distinct -/

section

variable {seen : List AutomationPoint} {value : Value}

lemma ClipFades.apart_of_normalize {f : ClipFades} {length : Int}
    (h : ClipFades.normalize C length value = .ok f) : f.Apart length := by
  obtain ⟨fades, hfades, h⟩ := bind_eq_ok.mp h
  obtain ⟨fadeIn, -, h⟩ := bind_eq_ok.mp h
  obtain ⟨fadeOut, -, h⟩ := bind_eq_ok.mp h
  obtain ⟨span, hspan, h⟩ := bind_eq_ok.mp h
  obtain ⟨fadeOffset, hoffset, h⟩ := bind_eq_ok.mp h
  by_cases hbad : span < length ∨ fadeOffset < 0 ∨ span < fadeOffset + length
  · rw [if_pos hbad] at h
    cases h
  rw [if_neg hbad] at h
  by_cases hcombined : span < max 0 fadeIn + max 0 fadeOut
  · rw [if_pos hcombined] at h
    cases h
  rw [if_neg hcombined] at h
  obtain ⟨curve, -, h⟩ := bind_eq_ok.mp h
  cases h
  unfold Apart ClipFades.span
  by_cases hrange : (fades.lookup "spanFrames").isSome ∨ (fades.lookup "offsetFrames").isSome
  · rw [if_pos hrange]
    exact not_lt.mp hcombined
  · -- Without a span of its own it is the length.
    have hnone : fades.lookup "spanFrames" = none := by
      rw [← Option.not_isSome_iff_eq_none]
      exact fun hsome => hrange (Or.inl hsome)
    have hlength : span = length := by
      unfold Entries.get at hspan
      rw [hnone] at hspan
      exact (Except.ok.inj hspan).symm
    rw [if_neg hrange, ← hlength]
    exact not_lt.mp hcombined

lemma DawClip.fits_of_normalize {c : DawClip} {others before : List DawClip}
    (h : DawClip.normalize C others before value = .ok c) : c.Fits others before := by
  rw [DawClip.normalize] at h
  split_ifs at h with hcount
  obtain ⟨raw, -, h⟩ := bind_eq_ok.mp h
  obtain ⟨start, -, h⟩ := bind_eq_ok.mp h
  obtain ⟨length, -, h⟩ := bind_eq_ok.mp h
  obtain ⟨offset, -, h⟩ := bind_eq_ok.mp h
  split_ifs at h with hbad
  obtain ⟨source, hsource, h⟩ := bind_eq_ok.mp h
  obtain ⟨fades, hfades, h⟩ := bind_eq_ok.mp h
  obtain rfl := Except.ok.inj h
  rw [not_or, not_or] at hbad
  exact ⟨hbad.1, fun d hd heq => hbad.2.1 ⟨d, hd, heq⟩, ClipFades.apart_of_normalize hfades,
    not_lt.mp hcount⟩

lemma AutomationPoint.fits_of_normalize {p : AutomationPoint}
    (h : AutomationPoint.normalize C seen value = .ok p) : p.Fits seen := by
  obtain ⟨raw, -, h⟩ := bind_eq_ok.mp h
  dsimp only at h
  split_ifs at h
  split at h
  · cases h
  · obtain ⟨volume, hvolume, h⟩ := bind_eq_ok.mp h
    split_ifs at h with hbad
    cases h
    rw [not_or] at hbad
    exact ⟨hbad.1, fun q hq => ⟨fun heq => hbad.2 ⟨q, hq, Or.inl heq⟩,
      fun heq => hbad.2 ⟨q, hq, Or.inr heq⟩⟩⟩

lemma fitsAll_points_perm {points points' : List AutomationPoint} (h : points.Perm points') :
    FitsAll AutomationPoint.Fits [] points ↔ FitsAll AutomationPoint.Fits [] points' := by
  have hpairwise : ∀ points : List AutomationPoint, FitsAll AutomationPoint.Fits [] points ↔
      (∀ p ∈ points, p.pointId ≠ "") ∧
        points.Pairwise fun q p => q.pointId ≠ p.pointId ∧ q.frame ≠ p.frame := by
    intro points
    refine fitsAll_iff_pairwise.trans (and_congr_right fun _ => and_iff_right ?_)
    exact fun _ _ _ hmem => absurd hmem List.not_mem_nil
  rw [hpairwise, hpairwise, h.pairwise_iff fun hne => ⟨hne.1.symm, hne.2.symm⟩]
  simp only [h.mem_iff]

lemma DawTrack.fits_of_normalize {t : DawTrack} {before : List DawTrack}
    (h : DawTrack.normalize C before value = .ok t) : t.Fits before := by
  obtain ⟨raw, -, h⟩ := bind_eq_ok.mp h
  dsimp only at h
  split_ifs at h with hbad
  obtain ⟨kind, -, h⟩ := bind_eq_ok.mp h
  obtain ⟨clipValues, -, h⟩ := bind_eq_ok.mp h
  obtain ⟨clips, hclips, h⟩ := bind_eq_ok.mp h
  obtain ⟨pointValues, hpointValues, h⟩ := bind_eq_ok.mp h
  obtain ⟨points, hpoints, h⟩ := bind_eq_ok.mp h
  obtain ⟨sends, -, h⟩ := bind_eq_ok.mp h
  obtain ⟨gain, -, h⟩ := bind_eq_ok.mp h
  obtain ⟨pan, -, h⟩ := bind_eq_ok.mp h
  obtain rfl := Except.ok.inj h
  rw [not_or] at hbad
  have hclip : ∀ seen value c,
      DawClip.normalize C (before.flatMap DawTrack.clips) seen value = .ok c →
        DawClip.Fits (before.flatMap DawTrack.clips) seen c :=
    fun _ _ _ => DawClip.fits_of_normalize
  have hpoint : ∀ seen value p, AutomationPoint.normalize C seen value = .ok p →
      AutomationPoint.Fits seen p := fun _ _ _ => AutomationPoint.fits_of_normalize
  have hallPoints : FitsAll AutomationPoint.Fits [] points := fitsAll_of_readAll hpoint hpoints
  exact ⟨⟨hbad.1, fun u hu heq => hbad.2 ⟨u, hu, heq⟩⟩, fitsAll_of_readAll hclip hclips,
    (fitsAll_points_perm sortOn_perm).mpr hallPoints⟩

lemma DawMarker.fits_of_normalize {m : DawMarker} {before : List DawMarker}
    (h : DawMarker.normalize C before value = .ok m) : m.Fits before := by
  obtain ⟨raw, -, h⟩ := bind_eq_ok.mp h
  dsimp only at h
  split_ifs at h with hbad
  split at h
  · cases h
  · obtain ⟨kind, -, h⟩ := bind_eq_ok.mp h
    obtain rfl := Except.ok.inj h
    rw [not_or] at hbad
    exact ⟨hbad.1, fun d hd heq => hbad.2 ⟨d, hd, heq⟩⟩

/-- **What is read is distinct.** -/
theorem normalizeSession_distinct {s : DawSession} (h : normalizeSession C value = .ok s) :
    s.Distinct := by
  obtain ⟨raw, -, h⟩ := bind_eq_ok.mp h
  obtain ⟨trackValues, htrackValues, h⟩ := bind_eq_ok.mp h
  obtain ⟨tracks, htracks, h⟩ := bind_eq_ok.mp h
  obtain ⟨tempo, htempo, h⟩ := bind_eq_ok.mp h
  obtain ⟨markerValues, hmarkerValues, h⟩ := bind_eq_ok.mp h
  obtain ⟨markers, hmarkers, h⟩ := bind_eq_ok.mp h
  obtain ⟨minimumReader, -, h⟩ := bind_eq_ok.mp h
  obtain ⟨revision, -, h⟩ := bind_eq_ok.mp h
  obtain rfl := Except.ok.inj h
  have hmarker : ∀ seen value m, DawMarker.normalize C seen value = .ok m →
      DawMarker.Fits seen m := fun _ _ _ => DawMarker.fits_of_normalize
  have htrack : ∀ seen value t, DawTrack.normalize C seen value = .ok t → DawTrack.Fits seen t :=
    fun _ _ _ => DawTrack.fits_of_normalize
  have hallMarkers : FitsAll DawMarker.Fits [] markers := fitsAll_of_readAll hmarker hmarkers
  exact ⟨(fitsAll_markers_perm sortOn_perm).mpr hallMarkers, fitsAll_of_readAll htrack htracks⟩

end

namespace DawSession

variable {s : DawSession} {value : Value}

lemma clips_of_fitsAll {others clips : List DawClip} (h : FitsAll (DawClip.Fits others) [] clips) :
    (clips.map DawClip.clipId).Nodup ∧ ∀ c ∈ clips, ∀ d ∈ others, d.clipId ≠ c.clipId := by
  have hfits : FitsAll (fun seen c => (∀ d ∈ others, d.clipId ≠ c.clipId) ∧
      ∀ d ∈ seen, d.clipId ≠ c.clipId) [] clips :=
    h.imp fun seen c hc => ⟨fun d hd => hc.2.1 d (List.mem_append_left _ hd),
      fun d hd => hc.2.1 d (List.mem_append_right _ hd)⟩
  obtain ⟨hothers, -, hpairwise⟩ := fitsAll_iff_pairwise.mp hfits
  exact ⟨List.pairwise_map.mpr hpairwise, hothers⟩

lemma points_of_fitsAll {points : List AutomationPoint}
    (h : FitsAll AutomationPoint.Fits [] points) :
    (points.map AutomationPoint.pointId).Nodup := by
  have hfits : FitsAll (fun seen p => True ∧ ∀ q ∈ seen, q.pointId ≠ p.pointId) [] points :=
    h.imp fun seen p hp => ⟨trivial, fun q hq => (hp.2 q hq).1⟩
  obtain ⟨-, -, hpairwise⟩ := fitsAll_iff_pairwise.mp hfits
  exact List.pairwise_map.mpr hpairwise

lemma idsUnique_of_distinct (h : s.Distinct) : s.IdsUnique := by
  have hfits : FitsAll (fun seen t =>
      ((t.clips.map DawClip.clipId).Nodup ∧ (t.automation.map AutomationPoint.pointId).Nodup) ∧
        ∀ u ∈ seen, u.trackId ≠ t.trackId ∧ ∀ c ∈ t.clips, ∀ d ∈ u.clips, d.clipId ≠ c.clipId)
      [] s.tracks := by
    refine h.tracks.imp fun seen t ht => ?_
    obtain ⟨⟨-, hid⟩, hclips, hpoints⟩ := ht
    obtain ⟨hnodup, hothers⟩ := clips_of_fitsAll hclips
    exact ⟨⟨hnodup, points_of_fitsAll hpoints⟩, fun u hu => ⟨hid u hu, fun c hc d hd =>
      hothers c hc d (List.mem_flatMap.mpr ⟨u, hu, hd⟩)⟩⟩
  obtain ⟨hown, -, hpairwise⟩ := fitsAll_iff_pairwise.mp hfits
  obtain ⟨-, -, hmarkers⟩ := fitsAll_iff_pairwise.mp h.markers
  refine ⟨List.pairwise_map.mpr (hpairwise.imp fun hne => hne.1), ?_,
    List.pairwise_map.mpr hmarkers, fun t ht => (hown t ht).2⟩
  rw [List.map_flatMap, List.nodup_flatMap]
  refine ⟨fun t ht => (hown t ht).1, hpairwise.imp fun hne => ?_⟩
  intro id hleft hright
  obtain ⟨d, hd, rfl⟩ := List.mem_map.mp hleft
  obtain ⟨c, hc, heq⟩ := List.mem_map.mp hright
  exact hne.2 c hc d hd heq.symm

end DawSession

/-! ## Reading again -/

lemma forall_readAll_iff {α : Type} {read : List α → Value → Except Error α} {q : Value → Prop}
    {p : α → Prop} (h : ∀ seen value item, read seen value = .ok item → (q value ↔ p item)) :
    ∀ {values : List Value} {seen items : List α}, readAll read seen values = .ok items →
      ((∀ value ∈ values, q value) ↔ ∀ item ∈ items, p item)
  | [], _, items, hread => by
    cases hread
    exact iff_of_true (List.forall_mem_nil q) (List.forall_mem_nil p)
  | value :: values, seen, items, hread => by
    obtain ⟨item, hitem, hread⟩ := bind_eq_ok.mp hread
    obtain ⟨rest, hrest, hread⟩ := bind_eq_ok.mp hread
    cases hread
    rw [List.forall_mem_cons, List.forall_mem_cons, h seen value item hitem,
      forall_readAll_iff h hrest]

lemma tidyText_clippedText (value : Value) :
    tidyText (clippedText C 128 value) = clippedText C 128 value ↔ CutsCleanly 128 (C.str value) :=
  clip_strip_iff

variable {value : Value} {raw : Entries}

lemma fieldOr_of_objectOf (h : objectOf value = .ok raw)
    (key : String) (default : Value) : fieldOr value key default = Entries.get raw key default := by
  cases value with
  | dict entries =>
    cases h
    rfl
  | _ => cases h

lemma DawClip.tidied_iff {c : DawClip} {others seen : List DawClip}
    (h : DawClip.normalize C others seen value = .ok c) :
    (∀ text ∈ DawSession.clipTexts C value, CutsCleanly 128 text) ↔ c.tidied = c := by
  rw [DawClip.normalize] at h
  split_ifs at h with hcount
  obtain ⟨raw, hraw, h⟩ := bind_eq_ok.mp h
  obtain ⟨start, -, h⟩ := bind_eq_ok.mp h
  obtain ⟨length, -, h⟩ := bind_eq_ok.mp h
  obtain ⟨offset, -, h⟩ := bind_eq_ok.mp h
  split_ifs at h with hbad
  obtain ⟨source, hsource, h⟩ := bind_eq_ok.mp h
  obtain ⟨fades, hfades, h⟩ := bind_eq_ok.mp h
  obtain rfl := Except.ok.inj h
  rw [DawSession.clipTexts, List.forall_mem_singleton, fieldOr_of_objectOf hraw,
    ← tidyText_clippedText, DawClip.tidied, DawClip.mk.injEq]
  exact ⟨fun htidy => ⟨htidy, rfl, rfl, rfl, rfl, rfl, rfl, rfl⟩, fun hall => hall.1⟩

lemma itemsOf_eq {key : String} {items : List Value} (hraw : objectOf value = .ok raw)
    (hitems : (Entries.get raw key (.list [])).iterate = .ok items) : sessionItems value key = items := by
  rw [sessionItems, fieldOr_of_objectOf hraw, hitems]

lemma map_eq_self_iff {α : Type} {tidy : α → α} {items : List α} :
    items.map tidy = items ↔ ∀ a ∈ items, tidy a = a := by
  induction items with
  | nil => exact iff_of_true rfl (List.forall_mem_nil _)
  | cons a items ih => rw [List.map_cons, List.cons.injEq, ih, List.forall_mem_cons]

lemma DawTrack.tidied_iff {t : DawTrack} {seen : List DawTrack}
    (h : DawTrack.normalize C seen value = .ok t) :
    (∀ text ∈ DawSession.trackTexts C value, CutsCleanly 128 text) ↔ t.tidied = t := by
  obtain ⟨raw, hraw, h⟩ := bind_eq_ok.mp h
  dsimp only at h
  split_ifs at h with hbad
  obtain ⟨kind, -, h⟩ := bind_eq_ok.mp h
  obtain ⟨clipValues, hclipValues, h⟩ := bind_eq_ok.mp h
  obtain ⟨clips, hclips, h⟩ := bind_eq_ok.mp h
  obtain ⟨pointValues, hpointValues, h⟩ := bind_eq_ok.mp h
  obtain ⟨points, hpoints, h⟩ := bind_eq_ok.mp h
  obtain ⟨sends, -, h⟩ := bind_eq_ok.mp h
  obtain ⟨gain, -, h⟩ := bind_eq_ok.mp h
  obtain ⟨pan, -, h⟩ := bind_eq_ok.mp h
  obtain rfl := Except.ok.inj h
  have hclean : (∀ text ∈ (sessionItems value "clips").flatMap (DawSession.clipTexts C),
      CutsCleanly 128 text) ↔ ∀ c ∈ clips, c.tidied = c := by
    have hclip : ∀ before item c,
        DawClip.normalize C (seen.flatMap DawTrack.clips) before item = .ok c →
          ((∀ text ∈ DawSession.clipTexts C item, CutsCleanly 128 text) ↔ c.tidied = c) :=
      fun _ _ _ => DawClip.tidied_iff
    rw [List.forall_mem_flatMap, itemsOf_eq hraw hclipValues]
    exact forall_readAll_iff hclip hclips
  rw [DawSession.trackTexts, List.forall_mem_cons, fieldOr_of_objectOf hraw,
    ← tidyText_clippedText, hclean, ← map_eq_self_iff, DawTrack.tidied, DawTrack.mk.injEq]
  exact ⟨fun hall => ⟨hall.1, rfl, rfl, rfl, rfl, rfl, rfl, rfl, rfl, rfl, hall.2, rfl⟩,
    fun hall => ⟨hall.1, hall.2.2.2.2.2.2.2.2.2.2.1⟩⟩

lemma fieldOr_of_objectElse {message : String}
    (h : objectElse message value = .ok raw) (key : String) (default : Value) :
    fieldOr value key default = Entries.get raw key default := by
  cases value with
  | dict entries =>
    cases h
    rfl
  | _ => cases h

lemma markerName_iff {id : String} (hid : tidyText id = id) :
    CutsCleanly 128 (C.str (raw.get "name" (.str ""))) ↔
      textOrDefault (tidyText (textOrDefault (clippedText C 128 (raw.get "name" (.str id))) id)) id =
        textOrDefault (clippedText C 128 (raw.get "name" (.str id))) id := by
  have hself : textOrDefault id id = id := ite_self _
  have hfallback : textOrDefault (tidyText id) id = id := by
    rw [hid, hself]
  unfold Entries.get
  cases hname : raw.lookup "name" with
  | none =>
    have hempty : CutsCleanly 128 (C.str (.str "")) := cutsCleanly_of_length_le (Nat.zero_le 128)
    have hsame : clippedText C 128 (.str id) = id := hid
    refine iff_of_true hempty ?_
    rw [Option.getD_none, hsame, hself, hfallback]
  | some name =>
    rw [Option.getD_some, Option.getD_some, ← tidyText_clippedText]
    by_cases hnone : clippedText C 128 name = ""
    · have hleft : tidyText (clippedText C 128 name) = clippedText C 128 name := by
        rw [hnone]
        rfl
      have hkept : textOrDefault (clippedText C 128 name) id = id := if_pos hnone
      refine iff_of_true hleft ?_
      rw [hkept, hfallback]
    · have hsome : tidyText (clippedText C 128 name) ≠ "" := fun h => hnone (clip_strip_eq_empty h)
      have hkept : textOrDefault (clippedText C 128 name) id = clippedText C 128 name := if_neg hnone
      rw [hkept, textOrDefault, if_neg hsome]

lemma DawMarker.tidied_iff {m : DawMarker} {seen : List DawMarker}
    (h : DawMarker.normalize C seen value = .ok m) :
    (∀ text ∈ DawSession.markerTexts C value, CutsCleanly 128 text) ↔ m.tidied = m := by
  obtain ⟨raw, hraw, h⟩ := bind_eq_ok.mp h
  dsimp only at h
  split_ifs at h with hbad
  split at h
  · cases h
  · obtain ⟨kind, -, h⟩ := bind_eq_ok.mp h
    obtain rfl := Except.ok.inj h
    rw [DawSession.markerTexts, List.forall_mem_cons, List.forall_mem_singleton,
      fieldOr_of_objectElse hraw, fieldOr_of_objectElse hraw, ← tidyText_clippedText,
      DawMarker.tidied, DawMarker.mk.injEq]
    dsimp only
    generalize clippedText C 128 (Entries.get raw "markerId" (.str "")) = id
    constructor
    · rintro ⟨hid, hname⟩
      refine ⟨hid, rfl, ?_, rfl, rfl⟩
      rw [hid]
      exact (markerName_iff hid).mp hname
    · rintro ⟨hid, -, hname, -⟩
      rw [hid] at hname
      exact ⟨hid, (markerName_iff hid).mpr hname⟩

namespace DawSession

variable {s : DawSession} {value : Value}

lemma sortOn_tidied_iff {markers : List DawMarker} (hsound : ∀ m ∈ markers, m.Sound) :
    sortOn DawMarker.key ((sortOn DawMarker.key markers).map DawMarker.tidied) =
      sortOn DawMarker.key markers ↔ ∀ m ∈ markers, m.tidied = m := by
  constructor
  · intro h m hm
    have hsorted : m ∈ sortOn DawMarker.key markers := mem_sortOn.mpr hm
    rw [← h, mem_sortOn] at hsorted
    obtain ⟨m', hm', rfl⟩ := List.mem_map.mp hsorted
    exact DawMarker.tidied_tidied (hsound m' (mem_sortOn.mp hm'))
  · intro h
    rw [map_eq_self_iff.mpr fun m hm => h m (mem_sortOn.mp hm), sortOn_sortOn]

variable {message : String} {items : List Value}

lemma listOfAtMost_eq {n : ℕ} {value : Value}
    (h : listOfAtMost n message value = .ok items) : value = .list items := by
  unfold listOfAtMost at h
  split at h
  · split_ifs at h
    exact congrArg Value.list (Except.ok.inj h)
  · cases h

lemma itemsOf_tracks {raw : Entries} {n : ℕ} (hraw : objectOf value = .ok raw)
    (hitems : listOfAtMost n message (Entries.get raw "tracks" (.list [])) = .ok items) :
    sessionItems value "tracks" = items := by
  refine itemsOf_eq hraw ?_
  rw [listOfAtMost_eq hitems]
  rfl

lemma itemsOf_markers {raw : Entries} {n : ℕ} (hraw : objectOf value = .ok raw)
    (hitems : listOfAtMost n message ((Entries.get raw "markers" .none).orElse (.list [])) =
      .ok items) : sessionItems value "markers" = items := by
  have hlist := listOfAtMost_eq hitems
  rw [sessionItems, fieldOr_of_objectOf hraw]
  unfold Entries.get Value.orElse at *
  cases hmarkers : raw.lookup "markers" with
  | none =>
    rw [hmarkers] at hlist
    exact (Value.list.inj hlist)
  | some markers =>
    rw [hmarkers, Option.getD_some] at hlist
    rw [Option.getD_some]
    split_ifs at hlist with htrue
    · rw [hlist]
      rfl
    · -- What is false has nothing to go through.
      obtain rfl := Value.list.inj hlist
      cases markers with
      | str text =>
        have htext : text = "" := by
          by_contra hne
          exact htrue (decide_eq_true hne)
        rw [htext]
        rfl
      | list items =>
        have hnil : items = [] := by
          by_contra hne
          exact htrue (decide_eq_true hne)
        rw [hnil]
        rfl
      | dict entries =>
        have hnil : entries = [] := by
          by_contra hne
          exact htrue (decide_eq_true hne)
        rw [hnil]
        rfl
      | _ => rfl

lemma tidied_iff (h : normalizeSession C value = .ok s) :
    (∀ text ∈ strippedTexts C value, CutsCleanly 128 text) ↔ s.tidied = s := by
  have hsound := normalizeSession_sound h
  obtain ⟨raw, hraw, h⟩ := bind_eq_ok.mp h
  obtain ⟨trackValues, htrackValues, h⟩ := bind_eq_ok.mp h
  obtain ⟨tracks, htracks, h⟩ := bind_eq_ok.mp h
  obtain ⟨tempo, htempo, h⟩ := bind_eq_ok.mp h
  obtain ⟨markerValues, hmarkerValues, h⟩ := bind_eq_ok.mp h
  obtain ⟨markers, hmarkers, h⟩ := bind_eq_ok.mp h
  obtain ⟨minimumReader, -, h⟩ := bind_eq_ok.mp h
  obtain ⟨revision, -, h⟩ := bind_eq_ok.mp h
  obtain rfl := Except.ok.inj h
  have htrackItems : sessionItems value "tracks" = trackValues := itemsOf_tracks hraw htrackValues
  have hmarkerItems : sessionItems value "markers" = markerValues := itemsOf_markers hraw hmarkerValues
  have htrack : ∀ seen item t, DawTrack.normalize C seen item = .ok t →
      ((∀ text ∈ trackTexts C item, CutsCleanly 128 text) ↔ t.tidied = t) :=
    fun _ _ _ => DawTrack.tidied_iff
  have hmarker : ∀ seen item m, DawMarker.normalize C seen item = .ok m →
      ((∀ text ∈ markerTexts C item, CutsCleanly 128 text) ↔ m.tidied = m) :=
    fun _ _ _ => DawMarker.tidied_iff
  have hmarkersSound : ∀ m ∈ markers, m.Sound := fun m hm => hsound.markers m (mem_sortOn.mpr hm)
  have hsplit : (∀ text ∈ strippedTexts C value, CutsCleanly 128 text) ↔
      (∀ t ∈ tracks, t.tidied = t) ∧ ∀ m ∈ markers, m.tidied = m := by
    rw [strippedTexts, List.forall_mem_append, List.forall_mem_flatMap, List.forall_mem_flatMap,
      htrackItems, hmarkerItems, forall_readAll_iff htrack htracks,
      forall_readAll_iff hmarker hmarkers]
  rw [hsplit, ← sortOn_tidied_iff hmarkersSound, ← map_eq_self_iff, tidied, DawSession.mk.injEq]
  exact ⟨fun hall => ⟨rfl, rfl, rfl, rfl, hall.2, hall.1, rfl⟩,
    fun hall => ⟨hall.2.2.2.2.2.1, hall.2.2.2.2.1⟩⟩

/-- **What was read is read again as it is if and only if every text was cut cleanly.** -/
lemma normal_iff_cutsCleanly (h : normalizeSession C value = .ok s) :
    s.Normal C ↔ ∀ text ∈ strippedTexts C value, CutsCleanly 128 text := by
  rw [normal_iff, tidied_iff h]
  exact ⟨fun hall => hall.2.1,
    fun htidy => ⟨normalizeSession_sound h, htidy, normalizeSession_distinct h⟩⟩

lemma load_of_save {store store' : DawSessionStore} (h : store.save C value = (store', .ok s)) :
    store'.load C = normalizeSession C s.document := by
  unfold DawSessionStore.save at h
  split at h
  · cases (Prod.mk.inj h).2
  · split at h
    · cases (Prod.mk.inj h).2
    · split_ifs at h
      · cases (Prod.mk.inj h).2
      · obtain ⟨rfl, hs⟩ := Prod.mk.inj h
        cases hs
        rfl

def oneTrack (trackId : String) : Value :=
  .dict [("tracks", .list [.dict [("trackId", .str trackId)]])]

lemma exists_read_oneTrack {trackId : String} (h : tidyText trackId ≠ "") :
    ∃ s, normalizeSession C (oneTrack trackId) = .ok s := by
  have hid : ¬ (clippedText C 128 (Entries.get [("trackId", Value.str trackId)] "trackId" (.str "")) = "" ∨
      ∃ t ∈ ([] : List DawTrack), t.trackId =
        clippedText C 128 (Entries.get [("trackId", Value.str trackId)] "trackId" (.str ""))) := by
    rintro (hempty | ⟨t, ht, -⟩)
    · exact h hempty
    · exact List.not_mem_nil ht
  have htrack : ∃ t, DawTrack.normalize C [] (.dict [("trackId", .str trackId)]) = .ok t := by
    unfold DawTrack.normalize
    simp only [objectOf, ok_bind]
    rw [if_neg hid]
    exact ⟨_, rfl⟩
  obtain ⟨t, ht⟩ := htrack
  have htracks : readAll (DawTrack.normalize C) [] [.dict [("trackId", .str trackId)]] = .ok [t] := by
    rw [readAll, ht]
    rfl
  have hlist : listOfAtMost maxTracks "tracks must contain at most 128 entries"
      (Entries.get [("tracks", .list [.dict [("trackId", .str trackId)]])] "tracks" (.list [])) =
        .ok [.dict [("trackId", .str trackId)]] := rfl
  unfold normalizeSession oneTrack
  simp only [objectOf, ok_bind, hlist, htracks]
  exact ⟨_, rfl⟩

end DawSession

end StageForge
