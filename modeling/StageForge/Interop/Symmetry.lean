import StageForge.Interop.Compatibility
import StageForge.Library.KeyedLists

/-!
# The report seen from the other side

`compatibility_report` tries each adapter from the local to the remote participant first and the other way
only if that fails, so an adapter that fits both ways counts for different capabilities when the participants
change places.
-/

namespace StageForge

open Python

namespace CompatibilityPlan

variable (plan : CompatibilityPlan)

/-- The scores that `capability_quality` is the average of. -/
def qualities : List ℕ := List.replicate plan.directCapabilities.length 100 ++
    plan.translations.map fun t => t.adapter.quality.score

def capabilityQuality : ℚ :=
  if plan.qualities ≠ [] then round ((plan.qualities.sum : ℚ) / plan.qualities.length) 1
  else if plan.localParticipant.capabilities = [] ∧ plan.remoteParticipant.capabilities = [] then 100
  else 0

end CompatibilityPlan

/-- The match of a schema with the sides exchanged. -/
def SchemaMatch.mirror (m : SchemaMatch) : SchemaMatch :=
  { m with localVersions := m.remoteVersions, remoteVersions := m.localVersions }

/-- The reports agree, and each one's local side is the other's remote side. -/
structure CompatibilityPlan.Mirrored (p q : CompatibilityPlan) : Prop where
  compatible : q.compatible = p.compatible
  grade : q.grade = p.grade
  selectedApiVersion : q.selectedApiVersion = p.selectedApiVersion
  commonApiVersions : q.commonApiVersions = p.commonApiVersions
  schemas : q.schemas = p.schemas.map SchemaMatch.mirror
  directCapabilities : q.directCapabilities = p.directCapabilities
  capabilityQuality : q.capabilityQuality = p.capabilityQuality
  missingForLocal : q.missingForLocal = p.missingForRemote
  missingForRemote : q.missingForRemote = p.missingForLocal
  localOnlyPreserved : q.localOnlyPreserved = p.remoteOnlyPreserved
  remoteOnlyPreserved : q.remoteOnlyPreserved = p.localOnlyPreserved

/-! ## Sorted sets -/

lemma sorted_eq_of_mem {α : Type} [LinearOrder α] {xs ys : List α} (h : ∀ a, a ∈ xs ↔ a ∈ ys) :
    sortOn id xs.dedup = sortOn id ys.dedup := by
  have hperm : xs.dedup.Perm ys.dedup := by
    refine (List.perm_ext_iff_of_nodup xs.nodup_dedup ys.nodup_dedup).mpr fun a => ?_
    rw [List.mem_dedup, List.mem_dedup, h a]
  refine sortOn_eq_of_perm hperm ?_
  rw [List.map_id]
  exact ys.nodup_dedup

lemma commonVersions_comm (xs ys : List Int) : commonVersions xs ys = commonVersions ys xs := by
  refine sorted_eq_of_mem fun v => ?_
  simp only [List.mem_filter, decide_eq_true_eq, and_comm]

lemma capabilitiesBut_congr {capabilities covered covered' : List String}
    (h : ∀ c ∈ capabilities, c ∈ covered ↔ c ∈ covered') :
    capabilitiesBut capabilities covered = capabilitiesBut capabilities covered' := by
  refine sorted_eq_of_mem fun c => ?_
  simp only [List.mem_filter, decide_eq_true_eq]
  exact and_congr_right fun hc => not_congr (h c hc)

/-! ## Adapters -/

/-- The adapter translates between the two in one of the directions. -/
def CapabilityAdapter.fits (a : CapabilityAdapter) (here there : Participant) : Bool :=
  (a.source ∈ here.capabilities ∧ a.target ∈ there.capabilities) ∨
    (a.source ∈ there.capabilities ∧ a.target ∈ here.capabilities)

lemma CapabilityAdapter.fits_comm (a : CapabilityAdapter) (here there : Participant) :
    a.fits there here = a.fits here there := by
  unfold fits
  rw [decide_eq_decide]
  exact or_comm

def Participant.translationsTo (here there : Participant) : List Translation :=
  (here.adapters ++ there.adapters).filterMap (here.translation there)

namespace Participant

variable {here there : Participant}

lemma translation_eq_some {a : CapabilityAdapter} {t : Translation} :
    here.translation there a = some t ↔
      (a.source ∈ here.capabilities ∧ a.target ∈ there.capabilities ∧ t = ⟨a, .localToRemote⟩) ∨
      (¬ (a.source ∈ here.capabilities ∧ a.target ∈ there.capabilities) ∧
        a.source ∈ there.capabilities ∧ a.target ∈ here.capabilities ∧ t = ⟨a, .remoteToLocal⟩) := by
  unfold translation
  split_ifs with hforth hback
  · simp [hforth, eq_comm]
  · rw [Option.some.injEq]
    constructor
    · exact fun h => .inr ⟨hforth, hback.1, hback.2, h.symm⟩
    · rintro (⟨hsource, htarget, -⟩ | ⟨-, -, -, rfl⟩)
      · exact absurd ⟨hsource, htarget⟩ hforth
      · rfl
  · refine iff_of_false (by simp) ?_
    rintro (⟨hsource, htarget, -⟩ | ⟨-, hsource, htarget, -⟩)
    · exact hforth ⟨hsource, htarget⟩
    · exact hback ⟨hsource, htarget⟩

lemma map_adapter_translation (a : CapabilityAdapter) :
    (here.translation there a).map Translation.adapter =
      if a.fits here there then some a else none := by
  unfold translation CapabilityAdapter.fits
  by_cases hforth : a.source ∈ here.capabilities ∧ a.target ∈ there.capabilities
  · simp [hforth]
  · by_cases hback : a.source ∈ there.capabilities ∧ a.target ∈ here.capabilities
    · simp [hforth, hback]
    · simp [hforth, hback]

/-- **The adapters of the translations** are those that fit, in the order in which they are tried. -/
lemma adapters_translations : (here.translationsTo there).map Translation.adapter =
    (here.adapters ++ there.adapters).filter (CapabilityAdapter.fits · here there) := by
  rw [translationsTo, List.map_filterMap, ← List.filterMap_eq_filter]
  refine List.filterMap_congr fun a _ => ?_
  rw [map_adapter_translation]
  rfl

lemma adapters_translations_perm : ((there.translationsTo here).map Translation.adapter).Perm
    ((here.translationsTo there).map Translation.adapter) := by
  rw [adapters_translations, adapters_translations]
  simp only [CapabilityAdapter.fits_comm _ here there]
  exact List.perm_append_comm.filter _

lemma scores_perm : ((there.translationsTo here).map fun t => t.adapter.quality.score).Perm
    ((here.translationsTo there).map fun t => t.adapter.quality.score) := by
  have h := (@adapters_translations_perm here there).map
    fun a : CapabilityAdapter => a.quality.score
  rw [List.map_map, List.map_map] at h
  exact h

/-- **What counts for one side** of the report counts for the other when the participants have changed
places, unless each has the capability of the other anyway. -/
lemma mirror_of_mem {t : Translation} (ht : t ∈ here.translationsTo there) :
    t.here ∈ there.capabilities ∧ t.there ∈ here.capabilities ∨
      ∃ u ∈ there.translationsTo here, u.there = t.here ∧ u.here = t.there := by
  obtain ⟨a, ha, htranslation⟩ := List.mem_filterMap.mp ht
  have hmem : a ∈ there.adapters ++ here.adapters := List.perm_append_comm.mem_iff.mp ha
  have hback : ∀ u, there.translation here a = some u → u ∈ there.translationsTo here :=
    fun u hu => List.mem_filterMap.mpr ⟨a, hmem, hu⟩
  rcases translation_eq_some.mp htranslation with ⟨hsource, htarget, rfl⟩ | ⟨-, hsource, htarget, rfl⟩
  · by_cases hboth : a.source ∈ there.capabilities ∧ a.target ∈ here.capabilities
    · exact .inl hboth
    · exact .inr ⟨⟨a, .remoteToLocal⟩,
        hback _ (translation_eq_some.mpr (.inr ⟨hboth, hsource, htarget, rfl⟩)), rfl, rfl⟩
  · exact .inr ⟨⟨a, .localToRemote⟩,
      hback _ (translation_eq_some.mpr (.inl ⟨hsource, htarget, rfl⟩)), rfl, rfl⟩

lemma covered_there {c : String} :
    c ∈ there.capabilities ++ (here.translationsTo there).map Translation.here ↔
      c ∈ there.capabilities ++ (there.translationsTo here).map Translation.there := by
  simp only [List.mem_append]
  constructor
  · rintro (h | h)
    · exact .inl h
    · obtain ⟨t, ht, rfl⟩ := List.mem_map.mp h
      rcases mirror_of_mem ht with ⟨hthere, -⟩ | ⟨u, hu, hmirror, -⟩
      · exact .inl hthere
      · exact .inr (hmirror ▸ List.mem_map_of_mem hu)
  · rintro (h | h)
    · exact .inl h
    · obtain ⟨t, ht, rfl⟩ := List.mem_map.mp h
      rcases mirror_of_mem ht with ⟨-, hthere⟩ | ⟨u, hu, -, hmirror⟩
      · exact .inl hthere
      · exact .inr (hmirror ▸ List.mem_map_of_mem hu)

lemma schemaMatch_mirror (name : String) :
    there.schemaMatch here name = (here.schemaMatch there name).mirror := by
  unfold schemaMatch SchemaMatch.mirror
  simp only [commonVersions_comm (there.schema name)]

end Participant

/-! ## The two reports -/

lemma compatibilityGrade_congr {ts us : List Translation} {onlyOne : Bool}
    (h : (us.map fun t => t.adapter.quality.score).Perm (ts.map fun t => t.adapter.quality.score)) :
    compatibilityGrade us onlyOne = compatibilityGrade ts onlyOne := by
  have hmin : (us.map fun t => t.adapter.quality.score).min? =
      (ts.map fun t => t.adapter.quality.score).min? := by
    refine Option.ext fun lowest => ?_
    simp only [List.min?_eq_some_iff, h.mem_iff]
  unfold compatibilityGrade
  rw [hmin]

section

variable (here there : Participant)

lemma schemas_mirror : (comparedParticipants there here).schemas =
    (comparedParticipants here there).schemas.map SchemaMatch.mirror := by
  have hnames : sortOn id
      (there.schemaVersions.map Prod.fst ++ here.schemaVersions.map Prod.fst).dedup =
      sortOn id (here.schemaVersions.map Prod.fst ++ there.schemaVersions.map Prod.fst).dedup :=
    sorted_eq_of_mem fun name => by rw [List.mem_append, List.mem_append, or_comm]
  simp only [comparedParticipants, hnames, List.map_map]
  exact List.map_congr_left fun name _ => Participant.schemaMatch_mirror name

lemma direct_mirror : (comparedParticipants there here).directCapabilities =
    (comparedParticipants here there).directCapabilities :=
  sorted_eq_of_mem fun c => by simp only [List.mem_filter, decide_eq_true_eq, and_comm]

lemma but_mirror (capabilities : List String) : capabilitiesBut capabilities
        (there.capabilities ++ (there.translationsTo here).map Translation.there) =
      capabilitiesBut capabilities
        (there.capabilities ++ (here.translationsTo there).map Translation.here) :=
  capabilitiesBut_congr fun _ _ => Participant.covered_there.symm

lemma blockers_mirror : (comparedParticipants there here).blockers = [] ↔
    (comparedParticipants here there).blockers = [] := by
  have hlocal := but_mirror here there
  have hremote := but_mirror there here
  simp only [Participant.translationsTo] at hlocal hremote
  simp only [comparedParticipants, List.append_eq_nil_iff, ite_eq_right_iff, List.cons_ne_nil,
    imp_false, hlocal, ← hremote, commonVersions_comm there.apiVersions,
    commonVersions_comm (there.schema showStateSchema), Bool.and_comm there.preservesUnknown,
    or_comm (a := capabilitiesBut there.capabilities _ ≠ [])]
  tauto

lemma grade_eq : (comparedParticipants here there).grade =
    if (comparedParticipants here there).blockers ≠ [] then .blocked
    else compatibilityGrade (comparedParticipants here there).translations
      ((comparedParticipants here there).localOnlyPreserved ≠ [] ∨
        (comparedParticipants here there).remoteOnlyPreserved ≠ []) := rfl

open CompatibilityPlan

/-- **The two reports are mirrored.** -/
lemma mirrored_comparedParticipants :
    (comparedParticipants here there).Mirrored (comparedParticipants there here) := by
  have hlocal := but_mirror here there
  have hremote := but_mirror there here
  have hblockers := blockers_mirror here there
  have hdirect := direct_mirror here there
  have hscores := @Participant.scores_perm here there
  simp only [Participant.translationsTo] at hlocal hremote hscores
  have hcommon : (comparedParticipants there here).commonApiVersions =
      (comparedParticipants here there).commonApiVersions := commonVersions_comm _ _
  refine
    { compatible := ?_
      grade := ?_
      selectedApiVersion := by
        rw [selectedApiVersion, selectedApiVersion, hcommon]
      commonApiVersions := hcommon
      schemas := schemas_mirror here there
      directCapabilities := hdirect
      capabilityQuality := ?_
      missingForLocal := (hremote there.requiredCapabilities).symm
      missingForRemote := hlocal here.requiredCapabilities
      localOnlyPreserved := (hremote there.capabilities).symm
      remoteOnlyPreserved := hlocal here.capabilities }
  · rw [CompatibilityPlan.compatible, CompatibilityPlan.compatible, Bool.eq_iff_iff,
      List.isEmpty_iff, List.isEmpty_iff, hblockers]
  · have honly : ((comparedParticipants there here).localOnlyPreserved ≠ [] ∨
        (comparedParticipants there here).remoteOnlyPreserved ≠ []) ↔
        ((comparedParticipants here there).localOnlyPreserved ≠ [] ∨
          (comparedParticipants here there).remoteOnlyPreserved ≠ []) := by
      simp only [comparedParticipants, hlocal, ← hremote]
      exact or_comm
    rw [grade_eq, grade_eq]
    simp only [ne_eq, hblockers] at honly ⊢
    simp only [honly]
    exact congrArg _ (compatibilityGrade_congr hscores)
  · rw [capabilityQuality, capabilityQuality]
    have hperm : (comparedParticipants there here).qualities.Perm
        (comparedParticipants here there).qualities := by
      rw [qualities, qualities, hdirect]
      exact hscores.append_left _
    have hnil : (comparedParticipants there here).qualities ≠ [] ↔
        (comparedParticipants here there).qualities ≠ [] := not_congr ⟨fun h => (h ▸ hperm).symm.eq_nil, fun h => (h ▸ hperm).eq_nil⟩
    have hnone : ((comparedParticipants there here).localParticipant.capabilities = [] ∧
        (comparedParticipants there here).remoteParticipant.capabilities = []) ↔
        ((comparedParticipants here there).localParticipant.capabilities = [] ∧
          (comparedParticipants here there).remoteParticipant.capabilities = []) := and_comm
    simp only [hnil, hnone, hperm.sum_eq, hperm.length_eq]

end

/-- **Compatibility is symmetric.** Where the report can be made, it can be made of the participants in the
other order, and is mirrored. -/
theorem compatibility_symmetric (C : Conversions) (a b : Value) {p : CompatibilityPlan}
    (h : compatibilityReport C a b = .ok p) :
    ∃ q, compatibilityReport C b a = .ok q ∧ p.Mirrored q := by
  obtain ⟨here, hhere, h⟩ := bind_eq_ok.mp h
  obtain ⟨there, hthere, h⟩ := bind_eq_ok.mp h
  cases h
  exact ⟨comparedParticipants there here, by
    simp only [compatibilityReport, hhere, hthere, bind, Except.bind, pure, Except.pure],
    mirrored_comparedParticipants here there⟩

/-- A console and a lamp, with an adapter that fits both ways: both have either end of it. -/
def consoleData : Value := .dict [("capabilities", .list [.str "dmx", .str "osc"]),
    ("requiredCapabilities", .list [.str "dmx"]),
    ("adapters", .list [.dict [("from", .str "dmx"), ("to", .str "osc"), ("quality", .str "degraded")]])]

def lampData : Value := .dict [("capabilities", .list [.str "osc", .str "dmx", .str "rdm"])]

/-- Texts that print nothing else and denote no number. -/
def noneConversions : Conversions := ⟨fun _ => "None", fun _ => none, fun _ => none⟩

theorem compatibility_symmetric_console :
    ∃ p q, compatibilityReport noneConversions consoleData lampData = .ok p ∧
      compatibilityReport noneConversions lampData consoleData = .ok q ∧ p.Mirrored q ∧
      p.grade = .degraded := by
  obtain ⟨p, hp, hgrade⟩ : ∃ p, compatibilityReport noneConversions consoleData lampData = .ok p ∧
      p.grade = .degraded := by
    refine ⟨_, rfl, ?_⟩
    decide +kernel
  obtain ⟨q, hq, hmirrored⟩ := compatibility_symmetric noneConversions consoleData lampData hp
  exact ⟨p, q, hp, hq, hmirrored, hgrade⟩

end StageForge
