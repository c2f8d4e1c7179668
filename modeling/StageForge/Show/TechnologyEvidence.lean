import StageForge.Show.Technology
import StageForge.Library.CutTexts

/-!
# Evidence about a technology extension

A receipt signs a digest of what an extension claims. The statement is made of the normalised
extension, and what is stored is normalised too, so the digest is taken of something that was
normalised once or twice.
-/

namespace StageForge

open Python

/-! ## Objects that are written over -/

section

variable {key : String} {v w : Value} {d e e' : Entries}

lemma setItem_eq_self : ∀ {d : Entries}, d.lookup key = some v → setItem key v d = d
  | [], h => by cases h
  | (k, x) :: rest, h => by
    unfold setItem
    by_cases hk : k = key
    · subst hk
      rw [List.lookup_cons_self, Option.some.injEq] at h
      rw [if_pos rfl, h]
    · rw [List.lookup_cons, beq_false_of_ne (Ne.symm hk)] at h
      rw [if_neg hk, setItem_eq_self h]

lemma lookup_update_of_notMem {e : Entries} (h : key ∉ e.map Prod.fst) :
    (update d e).lookup key = d.lookup key := by
  unfold update
  induction e generalizing d with
  | nil => rfl
  | cons entry e ih =>
    rw [List.map_cons, List.mem_cons, not_or] at h
    rw [List.foldl_cons, ih h.2, lookup_setItem, if_neg h.1]

lemma lookup_update_of_mem {e : Entries} (hkeys : (e.map Prod.fst).Nodup) (h : (key, v) ∈ e) :
    (update d e).lookup key = some v := by
  induction e generalizing d with
  | nil => exact absurd h List.not_mem_nil
  | cons entry e ih =>
    rw [List.map_cons, List.nodup_cons] at hkeys
    rcases List.mem_cons.mp h with rfl | h
    · have hlookup := lookup_update_of_notMem (d := setItem key v d) hkeys.1
      rw [lookup_setItem, if_pos rfl] at hlookup
      exact hlookup
    · exact ih hkeys.2 h

lemma get_update (hkeys : (e.map Prod.fst).Nodup) (h : (key, v) ∈ e) (fallback : Value) :
    Entries.get (update d e) key fallback = v := by
  rw [Entries.get, lookup_update_of_mem hkeys h, Option.getD_some]

lemma update_eq_self (h : ∀ entry ∈ e, d.lookup entry.1 = some entry.2) : update d e = d := by
  unfold update
  induction e with
  | nil => rfl
  | cons entry e ih =>
    obtain ⟨hentry, hrest⟩ := List.forall_mem_cons.mp h
    rw [List.foldl_cons, setItem_eq_self hentry]
    exact ih hrest

lemma update_update_iff (hkeys : (e.map Prod.fst).Nodup) (hsame : e'.map Prod.fst = e.map Prod.fst) :
    update (update d e) e' = update d e ↔ e' = e := by
  constructor
  · intro h
    refine List.ext_getElem (by simpa using congrArg List.length hsame) fun i hi hi' => ?_
    have hkey : e'[i].1 = e[i].1 := by
      have := List.getElem_of_eq hsame (i := i) (by rwa [List.length_map])
      rwa [List.getElem_map, List.getElem_map] at this
    have hnew := lookup_update_of_mem (d := update d e) (hsame ▸ hkeys)
      (show (e'[i].1, e'[i].2) ∈ e' from List.getElem_mem hi)
    have hold := lookup_update_of_mem (d := d) hkeys
      (show (e[i].1, e[i].2) ∈ e from List.getElem_mem hi')
    rw [h, hkey, hold] at hnew
    exact Prod.ext hkey (Option.some.inj hnew).symm
  · rintro rfl
    exact update_eq_self fun entry hentry => lookup_update_of_mem hkeys hentry

end

/-! ## The statement -/

variable (C : Conversions)

def implementationEvidence (implementation : Value) : Value := let item := objectOr implementation
  .dict [("id", item.get "id" .none), ("organization", item.get "organization" .none),
    ("independentGroup", item.get "independentGroup" .none),
    ("conformancePass", .bool (item.get "conformancePass" .none).truthy),
    ("openSource", .bool (item.get "openSource" .none).truthy),
    ("interopPeers", item.get "interopPeers" .none)]

/-- The statement about a normalised extension. -/
def evidenceOf (item : Entries) : Value :=
  let flag := fun key => (key, Value.bool (item.get key .none).truthy)
  let dependencies := objectOr (item.get "dependencies" .none)
  let implementations := match item.get "implementations" .none with
    | .list items => items
    | _ => []
  .dict [("version", .int 1), ("extensionId", item.get "id" .none),
    ("declaredMaturity", item.get "maturity" .none), flag "requestedCore", flag "mandatoryCore",
    flag "publicSpec", flag "conformanceTests", flag "interoperabilityEvidence",
    flag "fallbackDefined", flag "backwardCompatible", flag "unknownPreservationTested",
    ("productionDeployments", item.get "productionDeployments" .none),
    ("dependencies", .dict
      [("mandatoryVendor", .str (C.str (dependencies.get "mandatoryVendor" (.str "")))),
        ("cloudRequired", .bool (dependencies.get "cloudRequired" .none).truthy),
        ("aiRequired", .bool (dependencies.get "aiRequired" .none).truthy)]),
    ("implementations", .list (implementations.map implementationEvidence))]

def technologyEvidenceStatement (extension : Entries) : Except Error Value :=
  (normalizeTechnologyExtension C extension).map (evidenceOf C)

/-- `technology_evidence_digest`; `sha256` is the digest of what the statement is written as. -/
def technologyEvidenceDigest (sha256 : Value → String) (extension : Entries) : Except Error String :=
  (technologyEvidenceStatement C extension).map sha256

/-! ## What is stripped and cut -/

/-- The loop of `normalize_technology_extension`, of what it keeps: objects whose id is none seen
before. -/
def keptImplementations : List Value → List String → List Entries
  | [], _ => []
  | .dict raw :: rest, seen =>
    let id := clippedText C 128 (Entries.get raw "id" (.str ""))
    if id = "" ∨ id ∈ seen then keptImplementations rest seen
    else raw :: keptImplementations rest (id :: seen)
  | _ :: rest, seen => keptImplementations rest seen

/-- What is gone through of a field that may be missing. -/
def listIn (raw : Entries) (key : String) : List Value :=
  match ((raw.get key .none).orElse (.list [])).iterate with
  | .ok items => items
  | .error _ => []

def implementationCuts (raw : Entries) : List (ℕ × String) :=
  [(128, C.str (raw.get "id" (.str ""))), (128, C.str (raw.get "organization" (.str ""))),
    (128, C.str (raw.get "independentGroup" (raw.get "organization" (.str ""))))] ++
    (listIn raw "interopPeers").map fun peer => (128, C.str peer)

def cutTexts (raw : Entries) : List (ℕ × String) :=
  [(160, C.str (raw.get "id" (.str ""))), (512, C.str (raw.get "description" (.str ""))),
    (160, C.str (raw.get "replacementId" (.str ""))),
    (256, C.str (raw.get "adoptionRecordRef" (.str ""))),
    (128, C.str (Entries.get (objectOr (raw.get "dependencies" .none)) "mandatoryVendor" (.str "")))] ++
    (keptImplementations C (listIn raw "implementations") []).flatMap (implementationCuts C)

variable {C} {n : ℕ} {raw item : Entries}

lemma clippedText_iff (value : Value) :
    clippedText C n (.str (clippedText C n value)) = clippedText C n value ↔
      CutsCleanly n (C.str value) := clip_strip_iff

/-! ## Peers -/

lemma mem_sortedTexts {values : List Value} {t : String} :
    t ∈ sortedTexts C n values ↔ ∃ v ∈ values, strip (C.str v) ≠ "" ∧ clippedText C n v = t := by
  rw [sortedTexts, (List.perm_insertionSort _ _).mem_iff, List.mem_dedup, List.mem_map]
  simp only [List.mem_filter, decide_eq_true_eq, ne_eq, and_assoc]

lemma sortedTexts_nodup (values : List Value) : (sortedTexts C n values).Nodup :=
  (List.perm_insertionSort _ _).nodup_iff.mpr (List.nodup_dedup _)

lemma sortedTexts_eq_self {texts : List String} (hsorted : texts.Pairwise (· ≤ ·))
    (hnodup : texts.Nodup) (hkept : ∀ t ∈ texts, strip t ≠ "" ∧ clip n (strip t) = t) :
    sortedTexts C n (texts.map .str) = texts := by
  have hfilter : (texts.map Value.str).filter (fun v => strip (C.str v) ≠ "") =
      texts.map Value.str := by
    refine List.filter_eq_self.mpr (List.forall_mem_map.mpr fun t ht => decide_eq_true ?_)
    exact (hkept t ht).1
  have hmap : (texts.map Value.str).map (clippedText C n) = texts := by
    rw [List.map_map]
    refine (List.map_congr_left fun t ht => ?_).trans (List.map_id texts)
    exact (hkept t ht).2
  rw [sortedTexts, hfilter, hmap, hnodup.dedup, hsorted.insertionSort_eq]

lemma sortedTexts_iff (hn : 0 < n) (values : List Value) :
    sortedTexts C n ((sortedTexts C n values).map .str) = sortedTexts C n values ↔
      ∀ v ∈ values, CutsCleanly n (C.str v) := by
  constructor
  · intro h v hv
    by_cases hblank : strip (C.str v) = ""
    · rw [← strip_clip_iff, hblank]
      exact strip_eq_self (by
        rw [clip_eq_self (Nat.zero_le n)]
        rfl)
    · have hmem : clippedText C n v ∈ sortedTexts C n values :=
        mem_sortedTexts.mpr ⟨v, hv, hblank, rfl⟩
      rw [← h, mem_sortedTexts] at hmem
      obtain ⟨w, hw, -, hclip⟩ := hmem
      obtain ⟨q, hq, rfl⟩ := List.mem_map.mp hw
      obtain ⟨u, -, -, rfl⟩ := mem_sortedTexts.mp hq
      -- What is cut twice is cut cleanly the second time.
      have hshort : CutsCleanly n (clippedText C n u) :=
        cutsCleanly_of_length_le (length_clip_le n _)
      rw [← clippedText_iff, ← hclip]
      exact clip_strip_iff.mpr hshort
  · intro h
    refine sortedTexts_eq_self ?_ (sortedTexts_nodup values) fun t ht => ?_
    · exact List.pairwise_insertionSort _ _
    · obtain ⟨v, hv, hblank, rfl⟩ := mem_sortedTexts.mp ht
      have hstrip : strip (clippedText C n v) = clippedText C n v := strip_clip_iff.mpr (h v hv)
      refine ⟨fun hempty => hblank ?_, clip_strip_iff.mpr (h v hv)⟩
      rw [hstrip, clippedText, clip, ← String.toList_inj, String.toList_ofList, String.toList_empty,
        List.take_eq_nil_iff] at hempty
      exact String.toList_eq_nil_iff.mp (hempty.resolve_left hn.ne')

/-! ## Implementations -/

/-- What an implementation is written over with. -/
def implementationFields (C : Conversions) (raw : Entries) (peers : List Value) : Entries :=
  let id := clippedText C 128 (raw.get "id" (.str ""))
  let group := clippedText C 128 (raw.get "independentGroup" (raw.get "organization" (.str id)))
  [("id", .str id), ("organization", .str (clippedText C 128 (raw.get "organization" (.str "")))),
    ("independentGroup", .str (if group = "" then id else group)),
    ("conformancePass", .bool (optionalBool (raw.get "conformancePass" .none) false)),
    ("openSource", .bool (optionalBool (raw.get "openSource" .none) false)),
    ("interopPeers", .list ((sortedTexts C 128 peers).map .str))]

lemma implementationFields_keys (peers : List Value) :
    (implementationFields C raw peers).map Prod.fst =
      ["id", "organization", "independentGroup", "conformancePass", "openSource",
        "interopPeers"] := rfl

lemma normalizeImplementation_eq_ok : normalizeImplementation C raw = .ok item ↔
      ∃ peers, ((raw.get "interopPeers" .none).orElse (.list [])).iterate = .ok peers ∧
        item = update raw (implementationFields C raw peers) := by
  constructor
  · intro h
    obtain ⟨peers, hpeers, h⟩ := bind_eq_ok.mp h
    exact ⟨peers, hpeers, (Except.ok.inj h).symm⟩
  · rintro ⟨peers, hpeers, rfl⟩
    exact bind_eq_ok.mpr ⟨peers, hpeers, rfl⟩

variable {id : String}

lemma fallback_iff (hid : clippedText C 128 (.str id) = id) (value : Value) :
    let kept := if clippedText C 128 value = "" then id else clippedText C 128 value
    (if clippedText C 128 (.str kept) = "" then id else clippedText C 128 (.str kept)) = kept ↔
      CutsCleanly 128 (C.str value) := by
  intro kept
  rw [← clippedText_iff]
  by_cases hnone : clippedText C 128 value = ""
  · have hkept : kept = id := if_pos hnone
    have hempty : clippedText C 128 (.str (clippedText C 128 value)) = clippedText C 128 value := by
      rw [hnone]
      rfl
    rw [hkept, hid, ite_self]
    exact iff_of_true rfl hempty
  · have hkept : kept = clippedText C 128 value := if_neg hnone
    have hsome : clippedText C 128 (.str (clippedText C 128 value)) ≠ "" :=
      fun h => hnone (clip_strip_eq_empty h)
    rw [hkept, if_neg hsome]

lemma cutsCleanly_group_iff (hid : CutsCleanly 128 id) :
    CutsCleanly 128 (C.str (raw.get "independentGroup" (raw.get "organization" (.str id)))) ↔
      CutsCleanly 128 (C.str (raw.get "independentGroup" (raw.get "organization" (.str "")))) := by
  have hempty : CutsCleanly 128 "" := cutsCleanly_of_length_le (Nat.zero_le 128)
  unfold Entries.get
  cases raw.lookup "independentGroup" with
  | some group => exact Iff.rfl
  | none =>
    cases raw.lookup "organization" with
    | some organization => exact Iff.rfl
    | none => exact iff_of_true hid hempty

/-- **An implementation that was normalised stays as it is if and only if its texts were cut cleanly.** -/
lemma normalizeImplementation_stable_iff (h : normalizeImplementation C raw = .ok item) :
    normalizeImplementation C item = .ok item ↔
      ∀ cut ∈ implementationCuts C raw, CutsCleanly cut.1 cut.2 := by
  obtain ⟨peers, hpeers, hitem⟩ := normalizeImplementation_eq_ok.mp h
  have hkeys : ((implementationFields C raw peers).map Prod.fst).Nodup := by
    rw [implementationFields_keys]
    decide
  have hget : ∀ {key v fallback}, (key, v) ∈ implementationFields C raw peers →
      item.get key fallback = v := by
    intro key v fallback hmem
    rw [hitem]
    exact get_update hkeys hmem _
  -- Its peers are a list, so they are gone through again.
  have hpeers' : ((item.get "interopPeers" .none).orElse (.list [])).iterate =
      .ok ((sortedTexts C 128 peers).map .str) := by
    rw [hget (v := .list ((sortedTexts C 128 peers).map .str)) (by simp [implementationFields]),
      orElse_list]
    rfl
  have hpeersIn : listIn raw "interopPeers" = peers := by
    rw [listIn, hpeers]
  have hagain : normalizeImplementation C item = .ok item ↔
      implementationFields C item ((sortedTexts C 128 peers).map .str) =
        implementationFields C raw peers := by
    have hsame : (implementationFields C item ((sortedTexts C 128 peers).map .str)).map Prod.fst =
        (implementationFields C raw peers).map Prod.fst := by
      rw [implementationFields_keys, implementationFields_keys]
    have hupdate := update_update_iff (d := raw) hkeys hsame
    rw [← hitem] at hupdate
    rw [normalizeImplementation_eq_ok, ← hupdate]
    constructor
    · rintro ⟨peers', hread, heq⟩
      obtain rfl := Except.ok.inj (hread.symm.trans hpeers')
      exact heq.symm
    · intro heq
      exact ⟨_, hpeers', heq.symm⟩
  have hid : ∀ fallback, item.get "id" fallback =
      .str (clippedText C 128 (raw.get "id" (.str ""))) := fun _ => hget (by simp [implementationFields])
  have horganization : ∀ fallback, item.get "organization" fallback =
      .str (clippedText C 128 (raw.get "organization" (.str ""))) :=
    fun _ => hget (by simp [implementationFields])
  have hgroup : ∀ fallback, item.get "independentGroup" fallback =
      .str (if clippedText C 128 (raw.get "independentGroup" (raw.get "organization"
        (.str (clippedText C 128 (raw.get "id" (.str "")))))) = "" then
          clippedText C 128 (raw.get "id" (.str ""))
        else clippedText C 128 (raw.get "independentGroup" (raw.get "organization"
          (.str (clippedText C 128 (raw.get "id" (.str ""))))))) :=
    fun _ => hget (by simp [implementationFields])
  have hpass : item.get "conformancePass" .none =
      .bool (optionalBool (raw.get "conformancePass" .none) false) :=
    hget (by simp [implementationFields])
  have hopen : item.get "openSource" .none =
      .bool (optionalBool (raw.get "openSource" .none) false) :=
    hget (by simp [implementationFields])
  have hbool : ∀ b fallback, optionalBool (.bool b) fallback = b := by
    intro b fallback
    rw [optionalBool, if_neg (by exact fun hnone => by cases hnone)]
    rfl
  have hshort : CutsCleanly 128 (clippedText C 128 (raw.get "id" (.str ""))) :=
    cutsCleanly_of_length_le (length_clip_le 128 _)
  rw [hagain, implementationCuts, List.forall_mem_append, List.forall_mem_map, hpeersIn,
    ← sortedTexts_iff (by norm_num) peers]
  simp only [implementationFields, hid, horganization, hgroup, hpass, hopen, hbool,
    List.cons.injEq, Prod.mk.injEq, Value.str.injEq, Value.list.injEq, true_and, and_true,
    List.forall_mem_cons, List.not_mem_nil, IsEmpty.forall_iff, implies_true,
    List.map_inj_right fun _ _ => Value.str.inj]
  constructor
  · rintro ⟨hidSame, horganizationSame, hgroupSame, hpeersSame⟩
    rw [hidSame] at hgroupSame
    have hgroupClean := (fallback_iff hidSame _).mp hgroupSame
    exact ⟨⟨clippedText_iff _ |>.mp hidSame, clippedText_iff _ |>.mp horganizationSame,
      (cutsCleanly_group_iff hshort).mp hgroupClean⟩, hpeersSame⟩
  · rintro ⟨⟨hidClean, horganizationClean, hgroupClean⟩, hpeersSame⟩
    have hidSame := (clippedText_iff (C := C) _).mpr hidClean
    refine ⟨hidSame, (clippedText_iff _).mpr horganizationClean, ?_, hpeersSame⟩
    rw [hidSame]
    exact (fallback_iff hidSame _).mpr ((cutsCleanly_group_iff hshort).mpr hgroupClean)

lemma get_id_of_normalize (h : normalizeImplementation C raw = .ok item) (fallback : Value) :
    item.get "id" fallback = .str (clippedText C 128 (raw.get "id" (.str ""))) := by
  obtain ⟨peers, -, hitem⟩ := normalizeImplementation_eq_ok.mp h
  have hkeys : ((implementationFields C raw peers).map Prod.fst).Nodup := by
    rw [implementationFields_keys]
    decide
  rw [hitem]
  exact get_update hkeys List.mem_cons_self fallback

/-! ## All implementations -/

lemma normalizeImplementations_kept : ∀ {values : List Value} {seen : List String} {items : List Value},
    normalizeImplementations C values seen = .ok items →
      ∃ kept : List Entries, items = kept.map .dict ∧
        List.Forall₂ (fun raw item => normalizeImplementation C raw = .ok item)
          (keptImplementations C values seen) kept
  | [], _, items, h => by
    cases h
    exact ⟨[], rfl, .nil⟩
  | .dict raw :: rest, seen, items, h => by
    obtain ⟨item, hitem, h⟩ := bind_eq_ok.mp h
    dsimp only at h
    rw [get_id_of_normalize hitem] at h
    unfold keptImplementations
    dsimp only
    split_ifs at h ⊢ with hskip
    · exact normalizeImplementations_kept h
    · exact absurd hskip ‹_›
    · exact absurd ‹_› hskip
    · obtain ⟨others, hothers, h⟩ := bind_eq_ok.mp h
      cases h
      obtain ⟨kept, rfl, hkept⟩ := normalizeImplementations_kept hothers
      exact ⟨item :: kept, rfl, .cons hitem hkept⟩
  | .none :: rest, seen, items, h | .bool _ :: rest, seen, items, h
  | .int _ :: rest, seen, items, h | .float _ :: rest, seen, items, h
  | .str _ :: rest, seen, items, h | .list _ :: rest, seen, items, h => by
    have hrest : normalizeImplementations C rest seen = .ok items := h
    have hkept := normalizeImplementations_kept hrest
    exact hkept

def implementationId (C : Conversions) (item : Entries) : String := C.str (item.get "id" (.str ""))

structure NewIds (seen ids : List String) : Prop where
  fresh : ∀ id ∈ ids, id ≠ "" ∧ id ∉ seen
  nodup : ids.Nodup

lemma newIds_cons {seen ids : List String} :
    NewIds seen (id :: ids) ↔ (id ≠ "" ∧ id ∉ seen) ∧ NewIds (id :: seen) ids := by
  constructor
  · rintro ⟨hfresh, hnodup⟩
    obtain ⟨hid, hids⟩ := List.forall_mem_cons.mp hfresh
    obtain ⟨hnew, hnodup⟩ := List.nodup_cons.mp hnodup
    refine ⟨hid, fun other hother => ⟨(hids other hother).1, ?_⟩, hnodup⟩
    rw [List.mem_cons, not_or]
    exact ⟨fun heq => hnew (heq ▸ hother), (hids other hother).2⟩
  · rintro ⟨hid, hfresh, hnodup⟩
    refine ⟨List.forall_mem_cons.mpr ⟨hid, fun other hother => ⟨(hfresh other hother).1, fun hseen =>
      (hfresh other hother).2 (List.mem_cons_of_mem _ hseen)⟩⟩, List.nodup_cons.mpr ⟨fun hmem =>
        (hfresh id hmem).2 List.mem_cons_self, hnodup⟩⟩

variable {seen : List String}

lemma newIds_kept {values : List Value} {kept : List Entries}
    (h : List.Forall₂ (fun raw item => normalizeImplementation C raw = .ok item)
      (keptImplementations C values seen) kept) :
    NewIds seen (kept.map (implementationId C)) := by
  induction values generalizing seen kept with
  | nil =>
    obtain rfl := List.forall₂_nil_left_iff.mp h
    exact ⟨List.forall_mem_nil _, List.nodup_nil⟩
  | cons value rest ih =>
    cases value with
    | dict raw =>
      unfold keptImplementations at h
      dsimp only at h
      split_ifs at h with hskip
      · exact ih h
      · obtain ⟨item, items, hitem, hrest, rfl⟩ := List.forall₂_cons_left_iff.mp h
        have hid : implementationId C item =
            clippedText C 128 (Entries.get raw "id" (.str "")) := by
          rw [implementationId, get_id_of_normalize hitem]
          rfl
        rw [List.map_cons, hid, newIds_cons]
        rw [not_or] at hskip
        exact ⟨hskip, ih hrest⟩
    | _ => exact ih h

lemma length_keptImplementations : ∀ {values : List Value} {seen : List String},
    (keptImplementations C values seen).length ≤ values.length
  | [], _ => Nat.zero_le _
  | .dict raw :: rest, seen => by
    unfold keptImplementations
    dsimp only
    split_ifs
    · exact length_keptImplementations.trans (Nat.le_succ _)
    · exact Nat.succ_le_succ length_keptImplementations
  | .none :: rest, seen | .bool _ :: rest, seen | .int _ :: rest, seen | .float _ :: rest, seen
  | .str _ :: rest, seen | .list _ :: rest, seen => by
    have hrest : (keptImplementations C rest seen).length ≤ rest.length :=
      length_keptImplementations
    exact hrest.trans (Nat.le_succ _)

lemma length_normalizeImplementations {values items : List Value}
    (h : normalizeImplementations C values seen = .ok items) : items.length ≤ values.length := by
  obtain ⟨kept, rfl, hkept⟩ := normalizeImplementations_kept h
  rw [List.length_map, ← hkept.length_eq]
  exact length_keptImplementations

lemma normalizeImplementations_again {kept : List Entries}
    (hids : NewIds seen (kept.map (implementationId C))) :
    normalizeImplementations C (kept.map .dict) seen = .ok (kept.map .dict) ↔
      ∀ item ∈ kept, normalizeImplementation C item = .ok item := by
  induction kept generalizing seen with
  | nil => exact iff_of_true rfl (List.forall_mem_nil _)
  | cons item kept ih =>
    rw [List.map_cons, newIds_cons] at hids
    rw [List.map_cons, List.forall_mem_cons, ← ih hids.2]
    have hnew : ¬ (implementationId C item = "" ∨ implementationId C item ∈ seen) := by
      rw [not_or]
      exact hids.1
    constructor
    · intro h
      obtain ⟨item', hitem', h⟩ := bind_eq_ok.mp h
      dsimp only at h
      split_ifs at h with hskip
      · have hlength := length_normalizeImplementations h
        rw [List.length_cons] at hlength
        omega
      · obtain ⟨others, hothers, h⟩ := bind_eq_ok.mp h
        obtain ⟨hsame, hrest⟩ := List.cons.inj (Except.ok.inj h)
        obtain rfl := Value.dict.inj hsame
        exact ⟨hitem', hothers.trans (congrArg Except.ok hrest)⟩
    · rintro ⟨hitem, hrest⟩
      refine bind_eq_ok.mpr ⟨item, hitem, ?_⟩
      have hkeep : (if implementationId C item = "" ∨ implementationId C item ∈ seen then
          normalizeImplementations C (kept.map .dict) seen
        else do
          let others ← normalizeImplementations C (kept.map .dict) (implementationId C item :: seen)
          return .dict item :: others) = .ok (.dict item :: kept.map .dict) := by
        rw [if_neg hnew, hrest]
        rfl
      exact hkeep

/-- **The implementations that were normalised stay as they are if and only if the texts of those that
were kept were cut cleanly.** -/
lemma normalizeImplementations_stable_iff {values items : List Value}
    (h : normalizeImplementations C values [] = .ok items) :
    normalizeImplementations C items [] = .ok items ↔
      ∀ cut ∈ (keptImplementations C values []).flatMap (implementationCuts C),
        CutsCleanly cut.1 cut.2 := by
  obtain ⟨kept, rfl, hkept⟩ := normalizeImplementations_kept h
  rw [normalizeImplementations_again (newIds_kept hkept), List.forall_mem_flatMap]
  clear h
  generalize keptImplementations C values [] = raws at hkept
  induction hkept with
  | nil => exact iff_of_true (List.forall_mem_nil _) (List.forall_mem_nil _)
  | cons hitem _ ih =>
    rw [List.forall_mem_cons, List.forall_mem_cons, ih, normalizeImplementation_stable_iff hitem]

/-! ## Extensions -/

/-- What the dependencies of an extension are written over with. -/
def dependencyFields (C : Conversions) (dependency : Entries) : Entries :=
  [("mandatoryVendor", .str (clippedText C 128 (dependency.get "mandatoryVendor" (.str "")))),
    ("cloudRequired", .bool (optionalBool (dependency.get "cloudRequired" .none) false)),
    ("aiRequired", .bool (optionalBool (dependency.get "aiRequired" .none) false))]

def extensionFields (C : Conversions) (raw : Entries) (implementations : List Value)
    (deployments : Int) : Entries :=
  let dependency := objectOr (raw.get "dependencies" .none)
  let switch := fun key => (key, Value.bool (optionalBool (raw.get key .none) false))
  [("id", .str (clippedText C 160 (raw.get "id" (.str "")))),
    ("description", .str (clippedText C 512 (raw.get "description" (.str "")))),
    ("maturity", .str (lower (strip (C.str (raw.get "maturity" (.str "experimental")))))),
    switch "requestedCore", switch "mandatoryCore", switch "deprecated",
    ("replacementId", .str (clippedText C 160 (raw.get "replacementId" (.str "")))),
    switch "migrationBridge",
    ("adoptionRecordRef", .str (clippedText C 256 (raw.get "adoptionRecordRef" (.str "")))),
    switch "publicSpec", switch "conformanceTests", switch "interoperabilityEvidence",
    switch "fallbackDefined",
    ("backwardCompatible", .bool (optionalBool (raw.get "backwardCompatible" .none) true)),
    switch "unknownPreservationTested", ("productionDeployments", .int deployments),
    ("dependencies", .dict (update dependency (dependencyFields C dependency))),
    ("implementations", .list implementations)]

/-- The keys that `normalize_technology_extension` writes. -/
def extensionKeys : List String :=
  ["id", "description", "maturity", "requestedCore", "mandatoryCore", "deprecated", "replacementId",
    "migrationBridge", "adoptionRecordRef", "publicSpec", "conformanceTests",
    "interoperabilityEvidence", "fallbackDefined", "backwardCompatible",
    "unknownPreservationTested", "productionDeployments", "dependencies", "implementations"]

lemma extensionFields_keys (implementations : List Value) (deployments : Int) :
    (extensionFields C raw implementations deployments).map Prod.fst = extensionKeys := rfl

lemma extensionKeys_nodup : extensionKeys.Nodup := by decide +kernel

/-- An extension that is read, field by field. -/
structure ReadsAs (C : Conversions) (raw : Entries) (implementations : List Value)
    (deployments : Int) : Prop where
  id_ne : clippedText C 160 (raw.get "id" (.str "")) ≠ ""
  namespaced : '.' ∈ (clippedText C 160 (raw.get "id" (.str ""))).toList
  maturity : lower (strip (C.str (raw.get "maturity" (.str "experimental")))) ∈ maturities
  implementations : ∃ values, ((raw.get "implementations" .none).orElse (.list [])).iterate =
    .ok values ∧ normalizeImplementations C values [] = .ok implementations
  deployments : boundedOr C (raw.get "productionDeployments" .none) 0 1000000 0 = .ok deployments

lemma normalizeTechnologyExtension_eq_ok : normalizeTechnologyExtension C raw = .ok item ↔
      ∃ implementations deployments, ReadsAs C raw implementations deployments ∧
        item = update raw (extensionFields C raw implementations deployments) := by
  unfold normalizeTechnologyExtension
  dsimp only
  by_cases hid : clippedText C 160 (raw.get "id" (.str "")) = "" ∨
      '.' ∉ (clippedText C 160 (raw.get "id" (.str ""))).toList
  · rw [if_pos hid]
    refine iff_of_false (fun h => by cases h) ?_
    rintro ⟨implementations, deployments, hreads, -⟩
    exact hid.elim hreads.id_ne fun hnone => hnone hreads.namespaced
  · rw [if_neg hid]
    by_cases hmaturity : lower (strip (C.str (raw.get "maturity" (.str "experimental")))) ∈ maturities
    · rw [if_neg (not_not.mpr hmaturity)]
      rw [not_or, not_not] at hid
      constructor
      · intro h
        obtain ⟨values, hvalues, h⟩ := bind_eq_ok.mp h
        obtain ⟨implementations, himplementations, h⟩ := bind_eq_ok.mp h
        obtain ⟨deployments, hdeployments, h⟩ := bind_eq_ok.mp h
        exact ⟨implementations, deployments, ⟨hid.1, hid.2, hmaturity,
          ⟨values, hvalues, himplementations⟩, hdeployments⟩, (Except.ok.inj h).symm⟩
      · rintro ⟨implementations, deployments, hreads, rfl⟩
        obtain ⟨values, hvalues, himplementations⟩ := hreads.implementations
        exact bind_eq_ok.mpr ⟨values, hvalues, bind_eq_ok.mpr ⟨implementations, himplementations,
          bind_eq_ok.mpr ⟨deployments, hreads.deployments, rfl⟩⟩⟩
    · rw [if_pos hmaturity]
      refine iff_of_false (fun h => by cases h) ?_
      rintro ⟨implementations, deployments, hreads, -⟩
      exact hmaturity hreads.maturity

lemma optionalBool_bool (b fallback : Bool) : optionalBool (.bool b) fallback = b := by
  rw [optionalBool, if_neg (by exact fun hnone => by cases hnone)]
  rfl

lemma lower_strip_maturity : ∀ m ∈ maturities, lower (strip m) = m := by decide +kernel

lemma dependencyFields_keys (dependency : Entries) : (dependencyFields C dependency).map Prod.fst =
      ["mandatoryVendor", "cloudRequired", "aiRequired"] := rfl

lemma dependencyFields_iff (dependency : Entries) :
    update (update dependency (dependencyFields C dependency))
        (dependencyFields C (update dependency (dependencyFields C dependency))) =
        update dependency (dependencyFields C dependency) ↔
      CutsCleanly 128 (C.str (dependency.get "mandatoryVendor" (.str ""))) := by
  have hkeys : ((dependencyFields C dependency).map Prod.fst).Nodup := by
    rw [dependencyFields_keys]
    decide
  have hget : ∀ entry ∈ dependencyFields C dependency, ∀ fallback,
      Entries.get (update dependency (dependencyFields C dependency)) entry.1 fallback = entry.2 :=
    fun entry hentry fallback => get_update hkeys hentry fallback
  have hsame : (dependencyFields C (update dependency (dependencyFields C dependency))).map Prod.fst =
      (dependencyFields C dependency).map Prod.fst := by
    rw [dependencyFields_keys, dependencyFields_keys]
  rw [update_update_iff (d := dependency) hkeys hsame, ← clippedText_iff]
  generalize update dependency (dependencyFields C dependency) = written at hget ⊢
  simp only [dependencyFields, List.forall_mem_cons] at hget
  obtain ⟨hvendor, hcloud, hai, -⟩ := hget
  simp only [dependencyFields, hvendor, hcloud, hai, optionalBool_bool, List.cons.injEq,
    Prod.mk.injEq, Value.str.injEq, true_and, and_true]

lemma get_extension {implementations : List Value} {deployments : Int}
    (hitem : item = update raw (extensionFields C raw implementations deployments)) :
    ∀ entry ∈ extensionFields C raw implementations deployments, ∀ fallback,
      item.get entry.1 fallback = entry.2 := by
  have hkeys : ((extensionFields C raw implementations deployments).map Prod.fst).Nodup := by
    rw [extensionFields_keys]
    exact extensionKeys_nodup
  intro entry hentry fallback
  rw [hitem]
  exact get_update hkeys hentry fallback

lemma extensionFields_iff {implementations implementations' : List Value}
    {deployments deployments' : Int} (hreads : ReadsAs C raw implementations deployments)
    (hitem : item = update raw (extensionFields C raw implementations deployments)) :
    item = update item (extensionFields C item implementations' deployments') ↔
      (∀ cut ∈ [(160, C.str (raw.get "id" (.str ""))), (512, C.str (raw.get "description" (.str ""))),
          (160, C.str (raw.get "replacementId" (.str ""))),
          (256, C.str (raw.get "adoptionRecordRef" (.str ""))),
          (128, C.str (Entries.get (objectOr (raw.get "dependencies" .none)) "mandatoryVendor"
            (.str "")))], CutsCleanly cut.1 cut.2) ∧
        deployments' = deployments ∧ implementations' = implementations := by
  have hkeys : ((extensionFields C raw implementations deployments).map Prod.fst).Nodup := by
    rw [extensionFields_keys]
    exact extensionKeys_nodup
  have hget := get_extension hitem
  have hsame : (extensionFields C item implementations' deployments').map Prod.fst =
      (extensionFields C raw implementations deployments).map Prod.fst := by
    rw [extensionFields_keys, extensionFields_keys]
  have hupdate := update_update_iff (d := raw) hkeys hsame
  rw [← hitem] at hupdate
  rw [eq_comm, hupdate]
  simp only [extensionFields, List.forall_mem_cons] at hget
  obtain ⟨hid, hdescription, hmaturity, hrequested, hmandatory, hdeprecated, hreplacement, hbridge,
    hadoption, hspec, htests, hinterop, hfallback, hbackward, hunknown, hdeployments, hdependencies,
    himplementations, -⟩ := hget
  have hobject : ∀ entries : Entries, objectOr (.dict entries) = entries := fun _ => rfl
  simp only [extensionFields, hid, hdescription, hmaturity, hrequested, hmandatory, hdeprecated,
    hreplacement, hbridge, hadoption, hspec, htests, hinterop, hfallback, hbackward, hunknown,
    hdependencies, hobject, optionalBool_bool, Conversions.str_str,
    lower_strip_maturity _ hreads.maturity, List.cons.injEq, Prod.mk.injEq, Value.str.injEq,
    Value.int.injEq, Value.dict.injEq, Value.list.injEq, true_and, and_true, clippedText_iff,
    dependencyFields_iff, List.forall_mem_cons, List.not_mem_nil, IsEmpty.forall_iff, implies_true,
    and_assoc]
  constructor
  · rintro ⟨hid, hdescription, hreplacement, hadoption, hdeployments, hvendor, himplementations⟩
    exact ⟨hid, hdescription, hreplacement, hadoption, hvendor, hdeployments, himplementations⟩
  · rintro ⟨hid, hdescription, hreplacement, hadoption, hvendor, hdeployments, himplementations⟩
    exact ⟨hid, hdescription, hreplacement, hadoption, hdeployments, hvendor, himplementations⟩

lemma boundedOr_again {value : Value} {deployments : Int}
    (h : boundedOr C value 0 1000000 0 = .ok deployments) :
    boundedOr C (.int deployments) 0 1000000 0 = .ok deployments := by
  have hbounds : 0 ≤ deployments ∧ deployments ≤ 1000000 := by
    unfold boundedOr at h
    cases hvalue : C.int value with
    | ok n =>
      rw [hvalue] at h
      cases h
      dsimp only
      omega
    | error e =>
      rw [hvalue] at h
      change (if e.isValueError then Except.ok 0 else Except.error e) = _ at h
      split_ifs at h
      cases h
      omega
  have hclamped : max 0 (min 1000000 deployments) = deployments := by omega
  exact congrArg Except.ok hclamped

/-- **An extension that was normalised stays as it is if and only if its texts were cut cleanly.** -/
lemma normalizeTechnologyExtension_again_iff (h : normalizeTechnologyExtension C raw = .ok item) :
    normalizeTechnologyExtension C item = .ok item ↔
      ∀ cut ∈ cutTexts C raw, CutsCleanly cut.1 cut.2 := by
  obtain ⟨implementations, deployments, hreads, hitem⟩ := normalizeTechnologyExtension_eq_ok.mp h
  obtain ⟨values, hvalues, himplementations⟩ := hreads.implementations
  have hvaluesIn : listIn raw "implementations" = values := by
    rw [listIn, hvalues]
  have hget := get_extension hitem
  simp only [extensionFields, List.forall_mem_cons] at hget
  obtain ⟨hidRead, -, hmaturityRead, -, -, -, -, -, -, -, -, -, -, -, -, hdeploymentsRead, -,
    himplementationsRead, -⟩ := hget
  rw [cutTexts, List.forall_mem_append, hvaluesIn,
    ← normalizeImplementations_stable_iff himplementations, normalizeTechnologyExtension_eq_ok]
  have hread : ((item.get "implementations" .none).orElse (.list [])).iterate =
      .ok implementations := by
    rw [himplementationsRead, orElse_list]
    rfl
  constructor
  · rintro ⟨implementations', deployments', hreads', hsame⟩
    obtain ⟨hclean, -, rfl⟩ := (extensionFields_iff hreads hitem).mp hsame
    obtain ⟨values', hvalues', himplementations'⟩ := hreads'.implementations
    obtain rfl := Except.ok.inj (hread.symm.trans hvalues')
    exact ⟨hclean, himplementations'⟩
  · rintro ⟨hclean, himplementations'⟩
    have hid : clippedText C 160 (item.get "id" (.str "")) =
        clippedText C 160 (raw.get "id" (.str "")) := by
      rw [hidRead]
      exact (clippedText_iff _).mpr (List.forall_mem_cons.mp hclean).1
    have hmaturity : lower (strip (C.str (item.get "maturity" (.str "experimental")))) =
        lower (strip (C.str (raw.get "maturity" (.str "experimental")))) := by
      rw [hmaturityRead]
      exact lower_strip_maturity _ hreads.maturity
    have hdeployments : boundedOr C (item.get "productionDeployments" .none) 0 1000000 0 =
        .ok deployments := by
      rw [hdeploymentsRead]
      exact boundedOr_again hreads.deployments
    refine ⟨implementations, deployments, ⟨?_, ?_, ?_, ⟨implementations, hread, himplementations'⟩,
      hdeployments⟩, (extensionFields_iff hreads hitem).mpr ⟨hclean, rfl, rfl⟩⟩
    · rw [hid]
      exact hreads.id_ne
    · rw [hid]
      exact hreads.namespaced
    · rw [hmaturity]
      exact hreads.maturity

/-- **What is stored is normalised once and for all, and has the digest of the submission, if and only
if its texts were cut cleanly.** -/
theorem technologyEvidence_stable_iff (h : normalizeTechnologyExtension C raw = .ok item) :
    (normalizeTechnologyExtension C item = .ok item ∧ ∀ sha256 : Value → String,
          technologyEvidenceDigest C sha256 item = technologyEvidenceDigest C sha256 raw) ↔
      ∀ cut ∈ cutTexts C raw, CutsCleanly cut.1 cut.2 := by
  rw [← normalizeTechnologyExtension_again_iff h]
  constructor
  · rintro ⟨hagain, -⟩
    exact hagain
  · intro hagain
    refine ⟨hagain, fun sha256 => ?_⟩
    rw [technologyEvidenceDigest, technologyEvidenceDigest, technologyEvidenceStatement,
      technologyEvidenceStatement, h, hagain]

def vendorExtension (vendor : String) : Entries :=
  [("id", .str "a.b"), ("dependencies", .dict [("mandatoryVendor", .str vendor)])]

lemma exists_read_vendorExtension (vendor : String) :
    ∃ item, normalizeTechnologyExtension plainConversions (vendorExtension vendor) = .ok item := by
  refine ⟨_, normalizeTechnologyExtension_eq_ok.mpr ⟨[], 0, ⟨?_, ?_, ?_, ⟨[], rfl, rfl⟩, rfl⟩, rfl⟩⟩
  · change clip 160 (strip "a.b") ≠ ""
    decide +kernel
  · change '.' ∈ (clip 160 (strip "a.b")).toList
    decide +kernel
  · change lower (strip "experimental") ∈ maturities
    decide +kernel

theorem not_technologyEvidence_stable :
    ∃ item, normalizeTechnologyExtension plainConversions (vendorExtension (spacedText 126)) =
        .ok item ∧ normalizeTechnologyExtension plainConversions item ≠ .ok item := by
  obtain ⟨item, hitem⟩ := exists_read_vendorExtension (spacedText 126)
  refine ⟨item, hitem, fun hagain => not_cutsCleanly_spacedText 126 ?_⟩
  have hclean := (normalizeTechnologyExtension_again_iff hitem).mp hagain
  refine hclean (128, spacedText 126) (List.mem_append_left _ ?_)
  exact List.mem_cons_of_mem _ (List.mem_cons_of_mem _ (List.mem_cons_of_mem _
    (List.mem_cons_of_mem _ List.mem_cons_self)))

theorem technologyEvidence_stable_iff_vendor :
    ∃ item, (normalizeTechnologyExtension plainConversions item = .ok item ∧
        ∀ sha256 : Value → String, technologyEvidenceDigest plainConversions sha256 item =
            technologyEvidenceDigest plainConversions sha256 (vendorExtension "c")) ↔
      ∀ cut ∈ cutTexts plainConversions (vendorExtension "c"), CutsCleanly cut.1 cut.2 :=
  (exists_read_vendorExtension "c").imp fun _ h => technologyEvidence_stable_iff h

end StageForge
