import StageForge.Daw.Session

/-!
# The normal form of a session

What is read from the document of a sound session is its own normal form.
-/

namespace StageForge

open Python

/-! ## Reading an object back -/

lemma listOfAtMost_list {n : ℕ} {message : String} {items : List Value} (h : items.length ≤ n) :
    listOfAtMost n message (.list items) = .ok items := if_pos h

/-- A name as it is read: stripped, and at most 128 characters of it. -/
def tidyText (s : String) : String := clip 128 (strip s)

lemma length_tidyText_le (s : String) : (tidyText s).length ≤ 128 := length_clip_le 128 _

lemma length_clippedText_le (C : Conversions) (n : ℕ) (value : Value) :
    (clippedText C n value).length ≤ n := length_clip_le n _

lemma tidyText_tidyText {s : String} (h : s.length ≤ 128) : tidyText (tidyText s) = tidyText s := by
  have hshort : clip 128 (strip s) = strip s := clip_eq_self ((length_strip_le s).trans h)
  rw [tidyText, tidyText, hshort, strip_strip, hshort]

/-! ## Sound fields -/

namespace ClipFades

def span (f : ClipFades) (length : Int) : Int := (f.range.map FadeRange.spanFrames).getD length

def offset (f : ClipFades) : Int := (f.range.map FadeRange.offsetFrames).getD 0

/-- The clip lies in the span of its fades. -/
structure Sound (f : ClipFades) (length : Int) : Prop where
  in_nonneg : 0 ≤ f.inFrames
  out_nonneg : 0 ≤ f.outFrames
  offset_nonneg : 0 ≤ f.offset
  inside : f.offset + length ≤ f.span length

def Apart (f : ClipFades) (length : Int) : Prop := f.inFrames + f.outFrames ≤ f.span length

end ClipFades

structure DawClip.Sound (c : DawClip) : Prop where
  clipId_le : c.clipId.length ≤ 128
  start_nonneg : 0 ≤ c.startFrame
  length_pos : 1 ≤ c.lengthFrames
  offset_nonneg : 0 ≤ c.sourceOffsetFrames
  source : ∀ e ∈ c.source.rest, e.1 ∉ ["type"]
  fades : c.fades.Sound c.lengthFrames
  extra : ∀ e ∈ c.extra, e.1 ∉ clipKeys

structure AutomationPoint.Sound (p : AutomationPoint) : Prop where
  pointId_le : p.pointId.length ≤ 128
  frame_nonneg : 0 ≤ p.frame
  value_mem : 0 ≤ p.value ∧ p.value ≤ 2
  extra : ∀ e ∈ p.extra, e.1 ∉ pointKeys

structure DawTrack.Sound (t : DawTrack) : Prop where
  trackId_le : t.trackId.length ≤ 128
  name_le : t.name.length ≤ 128
  gain_mem : 0 ≤ t.gain ∧ t.gain ≤ 4
  pan_mem : -1 ≤ t.pan ∧ t.pan ≤ 1
  outputBus_le : t.outputBus.length ≤ 128
  sends_le : t.sends.length ≤ maxSends
  points_le : t.automation.length ≤ maxAutomationPoints
  points : ∀ p ∈ t.automation, p.Sound
  points_sorted : t.automation.Pairwise fun p q => p.key ≤ q.key
  clips : ∀ c ∈ t.clips, c.Sound
  extra : ∀ e ∈ t.extra, e.1 ∉ trackKeys

structure DawMarker.Sound (m : DawMarker) : Prop where
  markerId_le : m.markerId.length ≤ 128
  name_le : m.name.length ≤ 128
  frame_nonneg : 0 ≤ m.frame
  extra : ∀ e ∈ m.extra, e.1 ∉ markerKeys

structure DawSession.Sound (s : DawSession) : Prop where
  sessionId_le : s.sessionId.length ≤ 128
  revision_nonneg : 0 ≤ s.revision
  tempo_ne : s.tempoMap ≠ []
  tempo_le : s.tempoMap.length ≤ maxTempos
  markers_le : s.markers.length ≤ maxMarkers
  markers : ∀ m ∈ s.markers, m.Sound
  tracks_le : s.tracks.length ≤ maxTracks
  tracks : ∀ t ∈ s.tracks, t.Sound
  extra : ∀ e ∈ s.extra, e.1 ∉ sessionKeys

/-! ## Tidy and distinct names -/

def DawClip.tidied (c : DawClip) : DawClip := { c with clipId := tidyText c.clipId }

def DawTrack.tidied (t : DawTrack) : DawTrack :=
  { t with trackId := tidyText t.trackId, clips := t.clips.map DawClip.tidied }

def DawMarker.tidied (m : DawMarker) : DawMarker := { m with
    markerId := tidyText m.markerId
    name := textOrDefault (tidyText m.name) (tidyText m.markerId) }

def DawSession.tidied (s : DawSession) : DawSession := { s with
    markers := sortOn DawMarker.key (s.markers.map DawMarker.tidied)
    tracks := s.tracks.map DawTrack.tidied }

/-- The clip has a name of its own and room for its fades, and there is room for it. -/
def DawClip.Fits (others seen : List DawClip) (c : DawClip) : Prop :=
  c.clipId ≠ "" ∧ (∀ d ∈ others ++ seen, d.clipId ≠ c.clipId) ∧ c.fades.Apart c.lengthFrames ∧
    (others ++ seen).length + 1 ≤ maxClips

def AutomationPoint.Fits (seen : List AutomationPoint) (p : AutomationPoint) : Prop :=
  p.pointId ≠ "" ∧ ∀ q ∈ seen, q.pointId ≠ p.pointId ∧ q.frame ≠ p.frame

def DawTrack.Fits (seen : List DawTrack) (t : DawTrack) : Prop :=
  (t.trackId ≠ "" ∧ ∀ u ∈ seen, u.trackId ≠ t.trackId) ∧
    FitsAll (DawClip.Fits (seen.flatMap DawTrack.clips)) [] t.clips ∧
      FitsAll AutomationPoint.Fits [] t.automation

def DawMarker.Fits (seen : List DawMarker) (m : DawMarker) : Prop :=
  m.markerId ≠ "" ∧ ∀ d ∈ seen, d.markerId ≠ m.markerId

structure DawSession.Distinct (s : DawSession) : Prop where
  markers : FitsAll DawMarker.Fits [] s.markers
  tracks : FitsAll DawTrack.Fits [] s.tracks

/-! ## Reading a document back -/

variable {C : Conversions}

lemma ClipFades.orElse_document (f : ClipFades) (w : Value) : f.document.orElse w = f.document := by
  obtain ⟨fadeIn, fadeOut, curve, range⟩ := f
  cases range <;> rfl

lemma ClipFades.normalize_document {f f' : ClipFades} {length : Int} (h : f.Sound length) :
    ClipFades.normalize C length f.document = .ok f' ↔ f' = f ∧ f.Apart length := by
  obtain ⟨hin, hout, hoffset, hinside⟩ := h
  obtain ⟨fadeIn, fadeOut, curve, range⟩ := f
  have hread : ClipFades.normalize C length (ClipFades.document ⟨fadeIn, fadeOut, curve, range⟩) =
      if (range.map FadeRange.spanFrames).getD length < fadeIn + fadeOut then
        .error (.valueError "combined fades exceed clip length")
      else .ok ⟨fadeIn, fadeOut, curve, range⟩ := by
    cases range with
    | none =>
      simp [ClipFades.normalize, ClipFades.document, dictCopy, valueIn, textIn]
      rw [max_eq_right hin, max_eq_right hout]
    | some range =>
      simp only [ClipFades.offset, ClipFades.span, Option.map_some, Option.getD_some] at *
      simp [ClipFades.normalize, ClipFades.document, dictCopy, valueIn, textIn]
      rw [max_eq_right hin, max_eq_right hout, if_neg (by omega)]
  rw [hread, ClipFades.Apart, ClipFades.span]
  by_cases hoverlap : (range.map FadeRange.spanFrames).getD length < fadeIn + fadeOut
  · rw [if_pos hoverlap]
    exact iff_of_false (by simp) fun ⟨_, h⟩ => absurd h (not_le.mpr hoverlap)
  · rw [if_neg hoverlap]
    exact ⟨fun heq => ⟨(Except.ok.inj heq).symm, not_lt.mp hoverlap⟩, fun ⟨heq, _⟩ => heq ▸ rfl⟩

lemma ClipSource.orElse_document (s : ClipSource) (w : Value) : s.document.orElse w = s.document :=
  rfl

lemma ClipSource.normalize_document {s : ClipSource} (h : ∀ e ∈ s.rest, e.1 ∉ ["type"]) :
    ClipSource.normalize s.document = .ok s := by
  simp [ClipSource.normalize, ClipSource.document, dictCopy, valueIn, textIn,
    unwritten_cons_of_mem, unwritten_eq_self h]

lemma DawClip.normalize_document {c c' : DawClip} {others seen : List DawClip} (h : c.Sound) :
    DawClip.normalize C others seen c.document = .ok c' ↔ c' = c.tidied ∧ c'.Fits others seen := by
  rw [DawClip.normalize, DawClip.document]
  by_cases hcount : maxClips < (others ++ seen).length + 1
  · rw [if_pos hcount]
    refine iff_of_false (by simp) fun hfits => ?_
    have hroom := hfits.2.2.2.2
    omega
  · rw [if_neg hcount]
    simp only [objectOf, ok_bind, List.cons_append, List.nil_append, Entries.get_cons, reduceIte,
      String.reduceEq, Conversions.int_int, ClipSource.orElse_document, ClipFades.orElse_document,
      ClipSource.normalize_document h.source]
    have hid : clippedText C 128 (.str c.clipId) = tidyText c.clipId := rfl
    rw [hid, max_eq_right h.start_nonneg, max_eq_right h.offset_nonneg]
    simp (disch := decide) only [unwritten_cons_of_mem]
    rw [unwritten_eq_self h.extra]
    by_cases hbad : tidyText c.clipId = "" ∨
        (∃ clip ∈ others ++ seen, clip.clipId = tidyText c.clipId) ∨ c.lengthFrames < 1
    · rw [if_pos hbad]
      refine iff_of_false (by simp) ?_
      rintro ⟨rfl, hne, hnew, -⟩
      rcases hbad with hempty | ⟨clip, hclip, heq⟩ | hlength
      · exact hne hempty
      · exact hnew clip hclip heq
      · exact absurd h.length_pos (by omega)
    · rw [if_neg hbad]
      constructor
      · intro hread
        obtain ⟨fades, hfades, hread⟩ := bind_eq_ok.mp hread
        obtain ⟨rfl, hapart⟩ := (ClipFades.normalize_document h.fades).mp hfades
        obtain rfl := Except.ok.inj hread
        refine ⟨rfl, fun hempty => hbad (Or.inl hempty), fun d hd heq => ?_, hapart, by omega⟩
        exact hbad (Or.inr (Or.inl ⟨d, hd, heq⟩))
      · rintro ⟨rfl, -, -, hapart, -⟩
        simp only [DawClip.tidied] at hapart
        have hfades := (ClipFades.normalize_document (C := C) h.fades).mpr ⟨rfl, hapart⟩
        rw [hfades]
        rfl

lemma AutomationPoint.normalize_document {p p' : AutomationPoint} {seen : List AutomationPoint}
    (h : p.Sound) :
    AutomationPoint.normalize C seen p.document = .ok p' ↔ p' = p ∧ p'.Fits seen := by
  rw [AutomationPoint.normalize, AutomationPoint.document]
  simp only [objectElse, ok_bind, List.cons_append, List.nil_append, Entries.get_cons, reduceIte,
    String.reduceEq, Conversions.str_str, frameOf?, volumeOf, h.frame_nonneg, h.value_mem,
    and_self, ne_eq, not_true]
  rw [clip_eq_self h.pointId_le]
  simp (disch := decide) only [unwritten_cons_of_mem]
  rw [unwritten_eq_self h.extra]
  by_cases hbad : p.pointId = "" ∨ ∃ q ∈ seen, q.pointId = p.pointId ∨ q.frame = p.frame
  · rw [if_pos hbad]
    refine iff_of_false (by simp) ?_
    rintro ⟨rfl, hne, hnew⟩
    rcases hbad with hempty | ⟨q, hq, hsame | hsame⟩
    · exact hne hempty
    · exact (hnew q hq).1 hsame
    · exact (hnew q hq).2 hsame
  · rw [if_neg hbad]
    constructor
    · intro heq
      cases heq
      refine ⟨rfl, fun hempty => hbad (Or.inl hempty), fun q hq => ⟨fun hsame => ?_, fun hsame => ?_⟩⟩
      · exact hbad (Or.inr ⟨q, hq, Or.inl hsame⟩)
      · exact hbad (Or.inr ⟨q, hq, Or.inr hsame⟩)
    · rintro ⟨rfl, -⟩
      rfl

lemma DawMarker.normalize_document {m m' : DawMarker} {seen : List DawMarker} (h : m.Sound) :
    DawMarker.normalize C seen m.document = .ok m' ↔ m' = m.tidied ∧ m'.Fits seen := by
  rw [DawMarker.normalize, DawMarker.document]
  simp only [objectElse, ok_bind, List.cons_append, List.nil_append, Entries.get_cons, reduceIte,
    String.reduceEq, Conversions.str_str, frameOf?, h.frame_nonneg, textIn,
    MarkerKind.ofText?_text]
  have hid : clippedText C 128 (.str m.markerId) = tidyText m.markerId := rfl
  have hname : clippedText C 128 (.str m.name) = tidyText m.name := rfl
  rw [hid, hname]
  simp (disch := decide) only [unwritten_cons_of_mem]
  rw [unwritten_eq_self h.extra]
  by_cases hbad : tidyText m.markerId = "" ∨ ∃ d ∈ seen, d.markerId = tidyText m.markerId
  · rw [if_pos hbad]
    refine iff_of_false (by simp) ?_
    rintro ⟨rfl, hne, hnew⟩
    rcases hbad with hempty | ⟨d, hd, hsame⟩
    · exact hne hempty
    · exact hnew d hd hsame
  · rw [if_neg hbad]
    constructor
    · intro heq
      obtain rfl := Except.ok.inj heq
      exact ⟨rfl, fun hempty => hbad (Or.inl hempty), fun d hd hsame => hbad (Or.inr ⟨d, hd, hsame⟩)⟩
    · rintro ⟨rfl, -⟩
      rfl

lemma readClips_document {others clips clips' : List DawClip} (h : ∀ c ∈ clips, c.Sound) :
    readAll (DawClip.normalize C others) [] (clips.map DawClip.document) = .ok clips' ↔
      clips' = clips.map DawClip.tidied ∧ FitsAll (DawClip.Fits others) [] clips' :=
  readAll_map_iff fun _ c hc _ => DawClip.normalize_document (h c hc)

lemma readPoints_document {points points' : List AutomationPoint} (h : ∀ p ∈ points, p.Sound) :
    readAll (AutomationPoint.normalize C) [] (points.map AutomationPoint.document) = .ok points' ↔
      points' = points ∧ FitsAll AutomationPoint.Fits [] points' := by
  have hread : readAll (AutomationPoint.normalize C) [] (points.map AutomationPoint.document) =
      .ok points' ↔ points' = points.map id ∧ FitsAll AutomationPoint.Fits [] points' :=
    readAll_map_iff fun _ p hp _ => AutomationPoint.normalize_document (h p hp)
  rwa [List.map_id] at hread

lemma readMarkers_document {markers markers' : List DawMarker} (h : ∀ m ∈ markers, m.Sound) :
    readAll (DawMarker.normalize C) [] (markers.map DawMarker.document) = .ok markers' ↔
      markers' = markers.map DawMarker.tidied ∧ FitsAll DawMarker.Fits [] markers' :=
  readAll_map_iff fun _ m hm _ => DawMarker.normalize_document (h m hm)

lemma clamp_eq_self {lo hi q : ℚ} (h : lo ≤ q ∧ q ≤ hi) : (Number.finite q).clamp lo hi = q := by
  rw [Number.clamp, min_eq_right h.2, max_eq_right h.1]

lemma DawTrack.normalize_document {t t' : DawTrack} {seen : List DawTrack} (h : t.Sound) :
    DawTrack.normalize C seen t.document = .ok t' ↔ t' = t.tidied ∧ t'.Fits seen := by
  have hpoints : (t.automation.map AutomationPoint.document).length ≤ maxAutomationPoints := by
    rw [List.length_map]
    exact h.points_le
  rw [DawTrack.normalize, DawTrack.document]
  simp only [objectOf, ok_bind, List.cons_append, List.nil_append, Entries.get_cons, reduceIte,
    String.reduceEq, Conversions.str_str, Conversions.float_float, textIn, TrackKind.ofText?_text,
    Value.iterate, orElse_list, listOfAtMost_list hpoints, clamp_eq_self h.gain_mem,
    clamp_eq_self h.pan_mem, clip_eq_self h.name_le, clip_eq_self h.outputBus_le,
    List.take_of_length_le h.sends_le]
  have hid : clippedText C 128 (.str t.trackId) = tidyText t.trackId := rfl
  rw [hid]
  simp (disch := decide) only [unwritten_cons_of_mem]
  rw [unwritten_eq_self h.extra]
  by_cases hbad : tidyText t.trackId = "" ∨ ∃ u ∈ seen, u.trackId = tidyText t.trackId
  · rw [if_pos hbad]
    refine iff_of_false (by simp) ?_
    rintro ⟨rfl, ⟨hne, hnew⟩, -⟩
    rcases hbad with hempty | ⟨u, hu, hsame⟩
    · exact hne hempty
    · exact hnew u hu hsame
  · rw [if_neg hbad]
    constructor
    · intro hread
      obtain ⟨clips, hclips, hread⟩ := bind_eq_ok.mp hread
      obtain ⟨points, hpoints, hread⟩ := bind_eq_ok.mp hread
      obtain rfl := Except.ok.inj hread
      obtain ⟨rfl, hclips⟩ := (readClips_document h.clips).mp hclips
      obtain ⟨rfl, hpoints⟩ := (readPoints_document h.points).mp hpoints
      rw [sortOn_eq_self h.points_sorted]
      refine ⟨rfl, ⟨fun hempty => hbad (Or.inl hempty), fun u hu hsame => ?_⟩, hclips, hpoints⟩
      exact hbad (Or.inr ⟨u, hu, hsame⟩)
    · rintro ⟨rfl, -, hclips, hpoints⟩
      simp only [DawTrack.tidied] at hclips hpoints
      have hreadClips := (readClips_document (C := C) h.clips).mpr ⟨rfl, hclips⟩
      have hreadPoints := (readPoints_document (C := C) h.points).mpr ⟨rfl, hpoints⟩
      rw [hreadClips, ok_bind, hreadPoints, ok_bind, sortOn_eq_self h.points_sorted]
      rfl

lemma readTracks_document {tracks tracks' : List DawTrack} (h : ∀ t ∈ tracks, t.Sound) :
    readAll (DawTrack.normalize C) [] (tracks.map DawTrack.document) = .ok tracks' ↔
      tracks' = tracks.map DawTrack.tidied ∧ FitsAll DawTrack.Fits [] tracks' :=
  readAll_map_iff fun _ t ht _ => DawTrack.normalize_document (h t ht)

lemma fitsAll_markers_perm {markers markers' : List DawMarker} (h : markers.Perm markers') :
    FitsAll DawMarker.Fits [] markers ↔ FitsAll DawMarker.Fits [] markers' := by
  have hpairwise : ∀ markers : List DawMarker, FitsAll DawMarker.Fits [] markers ↔
      (∀ m ∈ markers, m.markerId ≠ "") ∧ markers.Pairwise fun d m => d.markerId ≠ m.markerId := by
    intro markers
    refine fitsAll_iff_pairwise.trans (and_congr_right fun _ => and_iff_right ?_)
    exact fun _ _ _ hmem => absurd hmem List.not_mem_nil
  rw [hpairwise, hpairwise, h.pairwise_iff fun hne => hne.symm]
  simp only [h.mem_iff]

/-- **Reading a document back.** The document of a sound session reads as the session with tidy names,
if these are distinct. -/
theorem normalizeSession_document {s s' : DawSession} (h : s.Sound) :
    normalizeSession C s.document = .ok s' ↔ s' = s.tidied ∧ s'.Distinct := by
  have htracks : (s.tracks.map DawTrack.document).length ≤ maxTracks := by
    rw [List.length_map]
    exact h.tracks_le
  have hmarkers : (s.markers.map DawMarker.document).length ≤ maxMarkers := by
    rw [List.length_map]
    exact h.markers_le
  have htempo : (Value.list s.tempoMap).orElse (.list [defaultTempo]) = .list s.tempoMap :=
    if_pos (decide_eq_true h.tempo_ne)
  have hsorted : FitsAll DawMarker.Fits [] (s.markers.map DawMarker.tidied) ↔
      FitsAll DawMarker.Fits [] s.tidied.markers := fitsAll_markers_perm sortOn_perm.symm
  rw [normalizeSession, DawSession.document]
  simp only [objectOf, ok_bind, List.cons_append, List.nil_append, Entries.get_cons, reduceIte,
    String.reduceEq, Conversions.str_str, Conversions.int_int, listOfAtMost_list htracks,
    orElse_list, listOfAtMost_list hmarkers, htempo, Value.iterate, clip_eq_self h.sessionId_le,
    List.take_of_length_le h.tempo_le, max_eq_right h.revision_nonneg]
  simp (disch := decide) only [unwritten_cons_of_mem]
  rw [unwritten_eq_self h.extra]
  constructor
  · intro hread
    obtain ⟨tracks, htracks, hread⟩ := bind_eq_ok.mp hread
    obtain ⟨markers, hmarkers, hread⟩ := bind_eq_ok.mp hread
    cases hread
    obtain ⟨rfl, htracks⟩ := (readTracks_document h.tracks).mp htracks
    obtain ⟨rfl, hmarkers⟩ := (readMarkers_document h.markers).mp hmarkers
    exact ⟨rfl, hsorted.mp hmarkers, htracks⟩
  · rintro ⟨rfl, hdistinct⟩
    have hreadTracks := (readTracks_document (C := C) h.tracks).mpr ⟨rfl, hdistinct.tracks⟩
    have hreadMarkers := (readMarkers_document (C := C) h.markers).mpr
      ⟨rfl, hsorted.mpr hdistinct.markers⟩
    rw [hreadTracks, ok_bind, hreadMarkers, ok_bind]
    rfl

/-! ## Whatever is read is sound -/

section

variable {value : Value}

lemma ClipFades.sound_of_normalize {f : ClipFades} {length : Int}
    (h : ClipFades.normalize C length value = .ok f) : f.Sound length := by
  obtain ⟨fades, hfades, h⟩ := bind_eq_ok.mp h
  obtain ⟨fadeIn, -, h⟩ := bind_eq_ok.mp h
  obtain ⟨fadeOut, -, h⟩ := bind_eq_ok.mp h
  obtain ⟨span, hspan, h⟩ := bind_eq_ok.mp h
  obtain ⟨fadeOffset, hoffset, h⟩ := bind_eq_ok.mp h
  by_cases hbad : span < length ∨ fadeOffset < 0 ∨ span < fadeOffset + length
  · rw [if_pos hbad] at h
    cases h
  rw [if_neg hbad] at h
  by_cases hcombined : span < max 0 fadeIn + max 0 fadeOut
  · rw [if_pos hcombined] at h
    cases h
  rw [if_neg hcombined] at h
  obtain ⟨curve, -, h⟩ := bind_eq_ok.mp h
  cases h
  have hoffset_nonneg : 0 ≤ fadeOffset := by omega
  have hinside : fadeOffset + length ≤ span := by omega
  by_cases hrange : (fades.lookup "spanFrames").isSome ∨ (fades.lookup "offsetFrames").isSome
  · rw [if_pos hrange]
    exact ⟨le_max_left _ _, le_max_left _ _, hoffset_nonneg, hinside⟩
  · rw [if_neg hrange]
    exact ⟨le_max_left _ _, le_max_left _ _, le_refl 0, (zero_add length).le⟩

lemma ClipSource.rest_of_normalize {s : ClipSource}
    (h : ClipSource.normalize value = .ok s) : ∀ e ∈ s.rest, e.1 ∉ ["type"] := by
  obtain ⟨source, -, h⟩ := bind_eq_ok.mp h
  obtain ⟨type, -, h⟩ := bind_eq_ok.mp h
  cases h
  exact fun e he => mem_unwritten he

lemma DawClip.sound_of_normalize {c : DawClip} {others seen : List DawClip}
    (h : DawClip.normalize C others seen value = .ok c) : c.Sound := by
  rw [DawClip.normalize] at h
  split_ifs at h
  obtain ⟨raw, -, h⟩ := bind_eq_ok.mp h
  obtain ⟨start, -, h⟩ := bind_eq_ok.mp h
  obtain ⟨length, -, h⟩ := bind_eq_ok.mp h
  obtain ⟨offset, -, h⟩ := bind_eq_ok.mp h
  split_ifs at h with hbad
  obtain ⟨source, hsource, h⟩ := bind_eq_ok.mp h
  obtain ⟨fades, hfades, h⟩ := bind_eq_ok.mp h
  obtain rfl := Except.ok.inj h
  exact
    { clipId_le := length_clippedText_le C 128 _
      start_nonneg := le_max_left _ _
      length_pos := by
        simp only
        omega
      offset_nonneg := le_max_left _ _
      source := ClipSource.rest_of_normalize hsource
      fades := ClipFades.sound_of_normalize hfades
      extra := fun e he => mem_unwritten he }

lemma volumeOf_mem {q : ℚ} (h : volumeOf value = .ok q) : 0 ≤ q ∧ q ≤ 2 := by
  unfold volumeOf at h
  split at h
  · split_ifs at h with _ hmem
    cases h
    exact_mod_cast hmem
  · split_ifs at h with hmem
    cases h
    exact hmem
  · cases h

lemma frameOf?_nonneg {n : Int} (h : frameOf? value = some n) : 0 ≤ n := by
  unfold frameOf? at h
  split at h
  · split_ifs at h with hn
    exact Option.some.inj h ▸ hn
  · cases h

lemma AutomationPoint.sound_of_normalize {p : AutomationPoint} {seen : List AutomationPoint}
    (h : AutomationPoint.normalize C seen value = .ok p) : p.Sound := by
  obtain ⟨raw, -, h⟩ := bind_eq_ok.mp h
  dsimp only at h
  split_ifs at h
  split at h
  · cases h
  · rename_i frame hframe
    obtain ⟨volume, hvolume, h⟩ := bind_eq_ok.mp h
    split_ifs at h
    cases h
    exact
      { pointId_le := length_clip_le 128 _
        frame_nonneg := frameOf?_nonneg hframe
        value_mem := volumeOf_mem hvolume
        extra := fun e he => mem_unwritten he }

lemma clamp_mem {lo hi : ℚ} (h : lo ≤ hi) (x : Number) : lo ≤ x.clamp lo hi ∧ x.clamp lo hi ≤ hi := by
  cases x with
  | finite q => exact ⟨le_max_left _ _, max_le h (min_le_left _ _)⟩
  | inf => exact ⟨le_max_left _ _, max_le h (le_refl _)⟩
  | negInf => exact ⟨le_refl _, h⟩
  | nan => exact ⟨le_max_left _ _, max_le h (le_refl _)⟩

lemma length_of_listOfAtMost {n : ℕ} {message : String} {items : List Value}
    (h : listOfAtMost n message value = .ok items) : items.length ≤ n := by
  unfold listOfAtMost at h
  split at h
  · split_ifs at h with hn
    exact Except.ok.inj h ▸ hn
  · cases h

lemma DawTrack.sound_of_normalize {t : DawTrack} {seen : List DawTrack}
    (h : DawTrack.normalize C seen value = .ok t) : t.Sound := by
  obtain ⟨raw, -, h⟩ := bind_eq_ok.mp h
  dsimp only at h
  split_ifs at h
  obtain ⟨kind, -, h⟩ := bind_eq_ok.mp h
  obtain ⟨clipValues, -, h⟩ := bind_eq_ok.mp h
  obtain ⟨clips, hclips, h⟩ := bind_eq_ok.mp h
  obtain ⟨pointValues, hpointValues, h⟩ := bind_eq_ok.mp h
  obtain ⟨points, hpoints, h⟩ := bind_eq_ok.mp h
  obtain ⟨sends, -, h⟩ := bind_eq_ok.mp h
  obtain ⟨gain, -, h⟩ := bind_eq_ok.mp h
  obtain ⟨pan, -, h⟩ := bind_eq_ok.mp h
  obtain rfl := Except.ok.inj h
  exact
    { trackId_le := length_clippedText_le C 128 _
      name_le := length_clip_le 128 _
      gain_mem := clamp_mem (by norm_num) gain
      pan_mem := clamp_mem (by norm_num) pan
      outputBus_le := length_clip_le 128 _
      sends_le := List.length_take_le _ _
      points_le := by
        rw [sortOn_perm.length_eq, length_of_readAll hpoints]
        exact length_of_listOfAtMost hpointValues
      points := fun p hp =>
        forall_of_readAll (fun _ _ _ => AutomationPoint.sound_of_normalize) hpoints p (mem_sortOn.mp hp)
      points_sorted := sortOn_pairwise
      clips := forall_of_readAll (fun _ _ _ => DawClip.sound_of_normalize) hclips
      extra := fun e he => mem_unwritten he }

lemma length_textOrDefault_le {s fallback : String} (hs : s.length ≤ 128) (h : fallback.length ≤ 128) :
    (textOrDefault s fallback).length ≤ 128 := by
  unfold textOrDefault
  split_ifs
  exacts [h, hs]

lemma DawMarker.sound_of_normalize {m : DawMarker} {seen : List DawMarker}
    (h : DawMarker.normalize C seen value = .ok m) : m.Sound := by
  obtain ⟨raw, -, h⟩ := bind_eq_ok.mp h
  dsimp only at h
  split_ifs at h
  split at h
  · cases h
  · rename_i frame hframe
    obtain ⟨kind, -, h⟩ := bind_eq_ok.mp h
    obtain rfl := Except.ok.inj h
    have hid := length_clippedText_le C 128 (raw.get "markerId" (.str ""))
    have hname := length_clippedText_le C 128
      (raw.get "name" (.str (clippedText C 128 (raw.get "markerId" (.str "")))))
    refine ⟨hid, ?_, frameOf?_nonneg hframe, fun e he => mem_unwritten he⟩
    dsimp only
    exact length_textOrDefault_le hname hid

lemma iterate_orElse_ne_nil {value item : Value} {items : List Value}
    (h : (value.orElse (.list [item])).iterate = .ok items) : items ≠ [] := by
  unfold Value.orElse at h
  by_cases htrue : value.truthy = true
  · rw [if_pos htrue] at h
    cases value with
    | none => cases htrue
    | bool _ => cases h
    | int _ => cases h
    | float _ => cases h
    | str s =>
      cases h
      have hs : s ≠ "" := of_decide_eq_true htrue
      exact fun hnil => hs (String.toList_eq_nil_iff.mp (List.map_eq_nil_iff.mp hnil))
    | list _ =>
      cases h
      exact of_decide_eq_true htrue
    | dict _ =>
      cases h
      exact fun hnil => of_decide_eq_true htrue (List.map_eq_nil_iff.mp hnil)
  · rw [if_neg htrue] at h
    cases h
    exact List.cons_ne_nil _ _

/-- **Whatever is read is sound.** -/
theorem normalizeSession_sound {s : DawSession}
    (h : normalizeSession C value = .ok s) : s.Sound := by
  obtain ⟨raw, -, h⟩ := bind_eq_ok.mp h
  obtain ⟨trackValues, htrackValues, h⟩ := bind_eq_ok.mp h
  obtain ⟨tracks, htracks, h⟩ := bind_eq_ok.mp h
  obtain ⟨tempo, htempo, h⟩ := bind_eq_ok.mp h
  obtain ⟨markerValues, hmarkerValues, h⟩ := bind_eq_ok.mp h
  obtain ⟨markers, hmarkers, h⟩ := bind_eq_ok.mp h
  obtain ⟨minimumReader, -, h⟩ := bind_eq_ok.mp h
  obtain ⟨revision, -, h⟩ := bind_eq_ok.mp h
  obtain rfl := Except.ok.inj h
  exact
    { sessionId_le := length_clip_le 128 _
      revision_nonneg := le_max_left _ _
      tempo_ne := fun hnil => by
        rcases List.take_eq_nil_iff.mp hnil with hzero | hnil
        · cases hzero
        · exact iterate_orElse_ne_nil htempo hnil
      tempo_le := List.length_take_le _ _
      markers_le := by
        rw [sortOn_perm.length_eq, length_of_readAll hmarkers]
        exact length_of_listOfAtMost hmarkerValues
      markers := fun m hm =>
        forall_of_readAll (fun _ _ _ => DawMarker.sound_of_normalize) hmarkers m (mem_sortOn.mp hm)
      tracks_le := by
        rw [length_of_readAll htracks]
        exact length_of_listOfAtMost htrackValues
      tracks := forall_of_readAll (fun _ _ _ => DawTrack.sound_of_normalize) htracks
      extra := fun e he => mem_unwritten he }

end

/-! ## Normal sessions -/

lemma DawClip.tidied_tidied {c : DawClip} (h : c.Sound) : c.tidied.tidied = c.tidied := by
  rw [DawClip.tidied, DawClip.tidied, tidyText_tidyText h.clipId_le]

lemma DawClip.sound_tidied {c : DawClip} (h : c.Sound) : c.tidied.Sound := by
  unfold DawClip.tidied
  exact ⟨length_tidyText_le c.clipId, h.start_nonneg, h.length_pos, h.offset_nonneg, h.source, h.fades,
    h.extra⟩

lemma DawTrack.tidied_tidied {t : DawTrack} (h : t.Sound) : t.tidied.tidied = t.tidied := by
  have hclips : (t.clips.map DawClip.tidied).map DawClip.tidied = t.clips.map DawClip.tidied := by
    rw [List.map_map]
    exact List.map_congr_left fun c hc => DawClip.tidied_tidied (h.clips c hc)
  rw [DawTrack.tidied, DawTrack.tidied, tidyText_tidyText h.trackId_le, hclips]

lemma DawTrack.sound_tidied {t : DawTrack} (h : t.Sound) : t.tidied.Sound := by
  unfold DawTrack.tidied
  exact ⟨length_tidyText_le t.trackId, h.name_le, h.gain_mem, h.pan_mem, h.outputBus_le, h.sends_le,
    h.points_le, h.points, h.points_sorted,
    List.forall_mem_map.mpr fun c hc => DawClip.sound_tidied (h.clips c hc), h.extra⟩

lemma DawMarker.tidied_tidied {m : DawMarker} (h : m.Sound) : m.tidied.tidied = m.tidied := by
  have hid := tidyText_tidyText h.markerId_le
  have hname : textOrDefault (tidyText (textOrDefault (tidyText m.name) (tidyText m.markerId)))
      (tidyText m.markerId) = textOrDefault (tidyText m.name) (tidyText m.markerId) := by
    by_cases hempty : tidyText m.name = ""
    · rw [textOrDefault, textOrDefault, if_pos hempty, hid]
      split_ifs <;> rfl
    · rw [textOrDefault, textOrDefault, if_neg hempty, tidyText_tidyText h.name_le, if_neg hempty]
  rw [DawMarker.tidied, DawMarker.tidied, hid, hname]

lemma DawMarker.sound_tidied {m : DawMarker} (h : m.Sound) : m.tidied.Sound := by
  have hname := length_textOrDefault_le (length_tidyText_le m.name) (length_tidyText_le m.markerId)
  unfold DawMarker.tidied
  refine ⟨length_tidyText_le m.markerId, ?_, h.frame_nonneg, h.extra⟩
  dsimp only
  exact hname

namespace DawSession

variable {s s' : DawSession}

lemma sound_tidied (h : s.Sound) : s.tidied.Sound := { h with
    markers_le := by
      rw [tidied, sortOn_perm.length_eq, List.length_map]
      exact h.markers_le
    markers := fun m hm => by
      obtain ⟨m', hm', rfl⟩ := List.mem_map.mp (mem_sortOn.mp hm)
      exact DawMarker.sound_tidied (h.markers m' hm')
    tracks_le := by
      rw [tidied, List.length_map]
      exact h.tracks_le
    tracks := List.forall_mem_map.mpr fun t ht => DawTrack.sound_tidied (h.tracks t ht) }

lemma tidied_tidied (h : s.Sound) : s.tidied.tidied = s.tidied := by
  have hmarkers : (sortOn DawMarker.key (s.markers.map DawMarker.tidied)).map DawMarker.tidied =
      sortOn DawMarker.key (s.markers.map DawMarker.tidied) := by
    refine (List.map_congr_left fun m hm => ?_).trans (List.map_id _)
    obtain ⟨m', hm', rfl⟩ := List.mem_map.mp (mem_sortOn.mp hm)
    exact DawMarker.tidied_tidied (h.markers m' hm')
  have htracks : (s.tracks.map DawTrack.tidied).map DawTrack.tidied =
      s.tracks.map DawTrack.tidied := by
    rw [List.map_map]
    exact List.map_congr_left fun t ht => DawTrack.tidied_tidied (h.tracks t ht)
  rw [tidied, tidied, hmarkers, htracks, sortOn_sortOn]

def Normal (C : Conversions) (s : DawSession) : Prop := normalizeSession C s.document = .ok s

lemma normal_iff : s.Normal C ↔ s.Sound ∧ s.tidied = s ∧ s.Distinct := by
  constructor
  · intro h
    have hsound := normalizeSession_sound h
    obtain ⟨htidy, hdistinct⟩ := (normalizeSession_document hsound).mp h
    exact ⟨hsound, htidy.symm, hdistinct⟩
  · rintro ⟨hsound, htidy, hdistinct⟩
    exact (normalizeSession_document hsound).mpr ⟨htidy.symm, hdistinct⟩

/-- **What the document of a sound session is read as is normal.** -/
theorem normal_of_document (h : s.Sound) (hread : normalizeSession C s.document = .ok s') :
    s'.Normal C ∧ s' = s.tidied := by
  obtain ⟨rfl, hdistinct⟩ := (normalizeSession_document h).mp hread
  exact ⟨normal_iff.mpr ⟨sound_tidied h, tidied_tidied h, hdistinct⟩, rfl⟩

end DawSession

end StageForge
