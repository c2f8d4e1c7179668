import StageForge.Library.KeyedLists
import StageForge.Venue.Readiness

/-!
# Devices of a profile and devices that were discovered

Each device of a profile is looked for among those that were discovered, first by its own id and then by
its aliases, and what it finds is taken out for the devices after it.
-/

namespace StageForge

open Python

/-! ## The source -/

def mergeWarnings : List VenueDevice → List VenueDevice → List String
  | [], found => found.map fun d => "unprofiled device discovered: " ++ d.id
  | item :: items, found =>
    (if (mergeDevice item found).1.discovered = some false ∧ ¬ item.optional then
      ["expected device offline: " ++ item.id] else []) ++
    mergeWarnings items (mergeDevice item found).2

def discoveryOf (expected found : List VenueDevice) : List VenueDevice := sortOn VenueDevice.id
    (mergeDevices (lastPerKey VenueDevice.id expected) (lastPerKey VenueDevice.id found))

def discoveryWarnings (expected found : List VenueDevice) : List String :=
  mergeWarnings (lastPerKey VenueDevice.id expected) (lastPerKey VenueDevice.id found)

def readDiscovered (C : Conversions) (items : List Value) : Except Error (List VenueDevice) :=
  (numberedObjects items).mapM fun (item, index) => normalizeDevice C item index

lemma mergeDiscoveredDevices_eq {C : Conversions} {profile : VenueProfile} {discovered : Value}
    {items : List Value} {found : List VenueDevice} (hsome : discovered ≠ .none)
    (hitems : (discovered.orElse (.list [])).iterate = .ok items)
    (hfound : readDiscovered C items = .ok found) :
    mergeDiscoveredDevices C profile discovered = .ok (discoveryOf profile.devices found) := by
  unfold mergeDiscoveredDevices
  dsimp only
  rw [if_neg hsome]
  exact bind_eq_ok.mpr ⟨items, hitems, bind_eq_ok.mpr ⟨found, hfound, rfl⟩⟩

/-! ## First choices -/

/-- The device that is found first under the names. -/
def chooseFrom (found : List VenueDevice) (names : List String) : Option VenueDevice :=
  names.findSome? fun name => found.find? fun d => d.id = name

/-- What a device finds first, by its id or an alias. -/
def firstChoice (found : List VenueDevice) (item : VenueDevice) : Option VenueDevice :=
  chooseFrom found (item.id :: item.matchIds)

/-- A device of the profile, given what it found. -/
def realise (item : VenueDevice) : Option VenueDevice → VenueDevice
  | none =>
    { item with
        status := if item.available then .offline else item.status
        discovered := some false }
  | some actual =>
    { actual with
        id := item.id
        discoveredId := .str actual.id
        capabilities := sortOn id (item.capabilities ++ actual.capabilities).dedup
        discovered := some true }

def without (found : List VenueDevice) : Option VenueDevice → List VenueDevice
  | none => found
  | some actual => found.filter fun d => d.id ≠ actual.id

def unexpectedDevice (d : VenueDevice) : VenueDevice :=
  { d with discovered := some true, unexpected := true }

def DistinctChoices (items found : List VenueDevice) : Prop :=
  items.Pairwise fun a b => ∀ d e, firstChoice found a = some d → firstChoice found b = some e →
    d.id ≠ e.id

def claimed (items found : List VenueDevice) : List String :=
  items.filterMap fun item => (firstChoice found item).map VenueDevice.id

def unclaimed (items found : List VenueDevice) : List VenueDevice :=
  found.filter fun d => d.id ∉ claimed items found

section

variable {items found : List VenueDevice} {item d : VenueDevice} {names : List String}

lemma mergeDevice_eq : mergeDevice item found =
    (realise item (firstChoice found item), without found (firstChoice found item)) := by
  unfold mergeDevice firstChoice chooseFrom
  cases (item.id :: item.matchIds).findSome? fun name => found.find? fun d => d.id = name <;> rfl

lemma chooseFrom_mem (h : chooseFrom found names = some d) : d ∈ found ∧ d.id ∈ names := by
  obtain ⟨name, hname, hfind⟩ := List.exists_of_findSome?_eq_some h
  have hid : d.id = name := by simpa using List.find?_some hfind
  exact ⟨List.mem_of_find?_eq_some hfind, hid ▸ hname⟩

lemma find?_filter_id {x name : String} :
    (found.filter fun d => d.id ≠ x).find? (fun d => d.id = name) =
      found.find? fun d => d.id ≠ x ∧ d.id = name := by
  rw [List.find?_filter]
  simp only [decide_eq_true_eq]

lemma chooseFrom_filter {x : String} (h : ∀ d, chooseFrom found names = some d → d.id ≠ x) :
    chooseFrom (found.filter fun d => d.id ≠ x) names = chooseFrom found names := by
  induction names with
  | nil => rfl
  | cons name names ih =>
    unfold chooseFrom at h ih ⊢
    rw [List.findSome?_cons] at h ⊢
    rw [List.findSome?_cons, find?_filter_id]
    cases hfind : found.find? fun d => d.id = name with
    | some d =>
      rw [hfind] at h
      have hid : d.id = name := by simpa using List.find?_some hfind
      have hne : name ≠ x := hid ▸ h d rfl
      have hsame : (found.find? fun d => d.id ≠ x ∧ d.id = name) = some d := by
        rw [← hfind]
        refine List.find?_congr fun e _ => decide_eq_decide.mpr ?_
        exact ⟨And.right, fun he => ⟨he ▸ hne, he⟩⟩
      rw [hsame]
    | none =>
      rw [hfind] at h
      have hnone : (found.find? fun d => d.id ≠ x ∧ d.id = name) = none := by
        refine List.find?_eq_none.mpr fun e he hboth => ?_
        exact List.find?_eq_none.mp hfind e he (decide_eq_true (of_decide_eq_true hboth).2)
      rw [hnone]
      exact ih h

lemma firstChoice_without {other : VenueDevice}
    (h : ∀ d e, firstChoice found item = some d → firstChoice found other = some e → d.id ≠ e.id) :
    firstChoice (without found (firstChoice found item)) other = firstChoice found other := by
  cases hitem : firstChoice found item with
  | none => rfl
  | some d => exact chooseFrom_filter fun e he heq => h d e hitem he heq.symm

lemma choices_without (h : DistinctChoices (item :: items) found) : (∀ other ∈ items,
        firstChoice (without found (firstChoice found item)) other = firstChoice found other) ∧
      DistinctChoices items (without found (firstChoice found item)) ∧
      unclaimed items (without found (firstChoice found item)) = unclaimed (item :: items) found := by
  obtain ⟨hitem, hrest⟩ := List.pairwise_cons.mp h
  have hsame : ∀ other ∈ items,
      firstChoice (without found (firstChoice found item)) other = firstChoice found other :=
    fun other hother => firstChoice_without (hitem other hother)
  have hclaimed : claimed items (without found (firstChoice found item)) = claimed items found :=
    List.filterMap_congr fun other hother => by rw [hsame other hother]
  refine ⟨hsame, List.Pairwise.imp_of_mem (fun ha hb hne => ?_) hrest, ?_⟩
  · rw [hsame _ ha, hsame _ hb]
    exact hne
  · unfold unclaimed
    rw [hclaimed]
    unfold claimed
    cases hchoice : firstChoice found item with
    | none =>
      rw [List.filterMap_cons, hchoice]
      rfl
    | some d =>
      rw [List.filterMap_cons, hchoice, without, List.filter_filter]
      refine List.filter_congr fun e _ => ?_
      rw [Bool.eq_iff_iff, Bool.and_eq_true, decide_eq_true_eq, decide_eq_true_eq,
        decide_eq_true_eq, Option.map_some]
      dsimp only
      rw [List.mem_cons, not_or, and_comm]

lemma unclaimed_nil : unclaimed [] found = found :=
  List.filter_eq_self.mpr fun _ _ => decide_eq_true List.not_mem_nil

lemma mergeDevices_eq (h : DistinctChoices items found) : mergeDevices items found =
      items.map (fun item => realise item (firstChoice found item)) ++
        (unclaimed items found).map unexpectedDevice := by
  induction items generalizing found with
  | nil =>
    rw [unclaimed_nil]
    rfl
  | cons item items ih =>
    obtain ⟨hsame, hdistinct, hunclaimed⟩ := choices_without h
    rw [mergeDevices, mergeDevice_eq]
    dsimp only
    rw [ih hdistinct, hunclaimed, List.map_cons, List.cons_append]
    congr 2
    exact List.map_congr_left fun other hother => by rw [hsame other hother]

/-- What is said of a device that found nothing. -/
def offlineWarning (found : List VenueDevice) (item : VenueDevice) : List String :=
  if firstChoice found item = none ∧ ¬ item.optional then ["expected device offline: " ++ item.id] else []

lemma realise_discovered {choice : Option VenueDevice} :
    (realise item choice).discovered = some false ↔ choice = none := by
  cases choice with
  | none => exact iff_of_true rfl rfl
  | some d => exact iff_of_false (by simp [realise]) (by simp)

lemma mergeWarnings_eq (h : DistinctChoices items found) : mergeWarnings items found =
      items.flatMap (offlineWarning found) ++
        (unclaimed items found).map fun d => "unprofiled device discovered: " ++ d.id := by
  induction items generalizing found with
  | nil =>
    rw [unclaimed_nil]
    rfl
  | cons item items ih =>
    obtain ⟨hsame, hdistinct, hunclaimed⟩ := choices_without h
    have hrest : items.flatMap (offlineWarning (without found (firstChoice found item))) =
        items.flatMap (offlineWarning found) := by
      refine List.flatMap_congr fun other hother => ?_
      rw [offlineWarning, offlineWarning, hsame other hother]
    rw [mergeWarnings, mergeDevice_eq]
    simp only [realise_discovered]
    rw [ih hdistinct, hunclaimed, hrest, List.flatMap_cons, List.append_assoc]
    rfl

/-! ## Every order -/

section

variable {items' found' : List VenueDevice}

lemma firstChoice_perm (hfound : (found.map VenueDevice.id).Nodup) (h : found'.Perm found) :
    firstChoice found' = firstChoice found := by
  have hfound' : (found'.map VenueDevice.id).Nodup := (h.map _).nodup_iff.mpr hfound
  have hfind : ∀ name, (found'.find? fun d => d.id = name) = found.find? fun d => d.id = name := by
    intro name
    refine Option.ext fun d => ?_
    rw [find?_key_iff hfound, find?_key_iff hfound', h.mem_iff]
  funext item
  unfold firstChoice chooseFrom
  simp only [hfind]

lemma DistinctChoices.perm (hdistinct : DistinctChoices items found)
    (hfound : (found.map VenueDevice.id).Nodup) (hitems : items'.Perm items)
    (h : found'.Perm found) : DistinctChoices items' found' := by
  unfold DistinctChoices
  rw [firstChoice_perm hfound h]
  refine (hitems.pairwise_iff fun {a b} hne d e hd he => ?_).mpr hdistinct
  exact (hne e d he hd).symm

lemma unclaimed_perm (hfound : (found.map VenueDevice.id).Nodup) (hitems : items'.Perm items)
    (h : found'.Perm found) : (unclaimed items' found').Perm (unclaimed items found) := by
  have hclaimed : ∀ name, name ∈ claimed items' found' ↔ name ∈ claimed items found := by
    intro name
    rw [claimed, claimed, firstChoice_perm hfound h, (hitems.filterMap _).mem_iff]
  unfold unclaimed
  simp only [hclaimed]
  exact h.filter _

lemma mergeDevices_ids (hdistinct : DistinctChoices items found)
    (hitems : (items.map VenueDevice.id).Nodup) (hfound : (found.map VenueDevice.id).Nodup) :
    ((mergeDevices items found).map VenueDevice.id).Nodup := by
  have hids : ∀ item : VenueDevice, (realise item (firstChoice found item)).id = item.id := by
    intro item
    cases firstChoice found item <;> rfl
  have hmap : items.map (VenueDevice.id ∘ fun item => realise item (firstChoice found item)) =
      items.map VenueDevice.id := List.map_congr_left fun item _ => hids item
  rw [mergeDevices_eq hdistinct, List.map_append, List.map_map, List.map_map, hmap]
  refine List.nodup_append.mpr ⟨hitems, hfound.sublist (List.filter_sublist.map _), ?_⟩
  rintro x hx y hy rfl
  obtain ⟨item, hitem, rfl⟩ := List.mem_map.mp hx
  obtain ⟨d, hd, hid⟩ := List.mem_map.mp hy
  have hid : d.id = item.id := hid
  obtain ⟨hdmem, hnot⟩ := List.mem_filter.mp hd
  -- A device whose own id was discovered has it as its first choice.
  have hchoice : firstChoice found item = some d := by
    unfold firstChoice chooseFrom
    rw [List.findSome?_cons, (find?_key_iff hfound).mpr ⟨hdmem, hid⟩]
  exact of_decide_eq_true hnot (List.mem_filterMap.mpr ⟨item, hitem, by rw [hchoice]; rfl⟩)

lemma mergeDevices_perm (hdistinct : DistinctChoices items found)
    (hfound : (found.map VenueDevice.id).Nodup) (hitems : items'.Perm items)
    (h : found'.Perm found) : (mergeDevices items' found').Perm (mergeDevices items found) := by
  rw [mergeDevices_eq hdistinct, mergeDevices_eq (hdistinct.perm hfound hitems h),
    firstChoice_perm hfound h]
  exact (hitems.map _).append ((unclaimed_perm hfound hitems h).map _)

lemma mergeWarnings_perm (hdistinct : DistinctChoices items found)
    (hfound : (found.map VenueDevice.id).Nodup) (hitems : items'.Perm items)
    (h : found'.Perm found) : (mergeWarnings items' found').Perm (mergeWarnings items found) := by
  have hwarning : offlineWarning found' = offlineWarning found := by
    funext item
    rw [offlineWarning, offlineWarning, firstChoice_perm hfound h]
  rw [mergeWarnings_eq hdistinct, mergeWarnings_eq (hdistinct.perm hfound hitems h), hwarning]
  exact (hitems.flatMap_right _).append ((unclaimed_perm hfound hitems h).map _)

end

/-! ## What is reported -/

/-- The id under which a device was discovered. -/
def VenueDevice.reported (d : VenueDevice) : Option String := if d.discovered = some true then
    if d.unexpected then some d.id
    else match d.discoveredId with
      | .str id => some id
      | _ => none
  else none

def AsRead (devices : List VenueDevice) : Prop := ∀ d ∈ devices, d.unexpected = false

lemma asRead_of_normalize {C : Conversions} {raws : List (Entries × ℕ)} {devices : List VenueDevice}
    (h : raws.mapM (fun (item, index) => normalizeDevice C item index) = .ok devices) :
    AsRead devices := by
  intro d hd
  obtain ⟨⟨raw, index⟩, -, hraw⟩ := (mem_of_mapM_eq_ok h).2 d hd
  obtain ⟨latency, -, hraw⟩ := bind_eq_ok.mp hraw
  obtain rfl := Except.ok.inj hraw
  rfl

lemma reported_realise (hfound : AsRead found) :
    (realise item (firstChoice found item)).reported = (firstChoice found item).map VenueDevice.id := by
  cases hchoice : firstChoice found item with
  | none => rfl
  | some d =>
    have hread : d.unexpected = false := hfound d (chooseFrom_mem hchoice).1
    unfold realise VenueDevice.reported
    rw [if_pos rfl, if_neg (by rw [hread]; exact Bool.false_ne_true)]
    rfl

lemma claimed_nodup (hdistinct : DistinctChoices items found) : (claimed items found).Nodup := by
  refine List.pairwise_filterMap.mpr (hdistinct.imp fun {a b} hne x hx y hy heq => ?_)
  obtain ⟨d, hd, rfl⟩ := Option.map_eq_some_iff.mp hx
  obtain ⟨e, he, rfl⟩ := Option.map_eq_some_iff.mp hy
  exact hne d e hd he heq

lemma claimed_append_unclaimed (hdistinct : DistinctChoices items found)
    (hfound : (found.map VenueDevice.id).Nodup) :
    (claimed items found ++ (unclaimed items found).map VenueDevice.id).Perm
      (found.map VenueDevice.id) := by
  have hunclaimed : ∀ name, name ∈ (unclaimed items found).map VenueDevice.id ↔
      name ∈ found.map VenueDevice.id ∧ name ∉ claimed items found := by
    intro name
    rw [List.mem_map, List.mem_map]
    constructor
    · rintro ⟨d, hd, rfl⟩
      obtain ⟨hmem, hnot⟩ := List.mem_filter.mp hd
      exact ⟨⟨d, hmem, rfl⟩, of_decide_eq_true hnot⟩
    · rintro ⟨⟨d, hmem, rfl⟩, hnot⟩
      exact ⟨d, List.mem_filter.mpr ⟨hmem, decide_eq_true hnot⟩, rfl⟩
  have hclaimed : ∀ name ∈ claimed items found, name ∈ found.map VenueDevice.id := by
    intro name hname
    obtain ⟨item, -, hitem⟩ := List.mem_filterMap.mp hname
    obtain ⟨d, hd, rfl⟩ := Option.map_eq_some_iff.mp hitem
    exact List.mem_map_of_mem (chooseFrom_mem hd).1
  have hnodup : (claimed items found ++ (unclaimed items found).map VenueDevice.id).Nodup := by
    refine List.nodup_append.mpr ⟨claimed_nodup hdistinct,
      hfound.sublist (List.filter_sublist.map _), ?_⟩
    rintro x hx y hy rfl
    exact ((hunclaimed x).mp hy).2 hx
  refine (List.perm_ext_iff_of_nodup hnodup hfound).mpr fun name => ?_
  rw [List.mem_append, hunclaimed]
  by_cases hname : name ∈ claimed items found
  · exact iff_of_true (Or.inl hname) (hclaimed name hname)
  · exact ⟨fun h => (h.resolve_left hname).1, fun h => Or.inr ⟨h, hname⟩⟩

lemma reported_mergeDevices (hdistinct : DistinctChoices items found)
    (hfound : (found.map VenueDevice.id).Nodup) (hread : AsRead found) :
    ((mergeDevices items found).filterMap VenueDevice.reported).Perm (found.map VenueDevice.id) := by
  have hrealised : (items.map fun item => realise item (firstChoice found item)).filterMap
      VenueDevice.reported = claimed items found := by
    rw [List.filterMap_map]
    exact List.filterMap_congr fun item _ => reported_realise hread
  have hothers : ((unclaimed items found).map unexpectedDevice).filterMap VenueDevice.reported =
      (unclaimed items found).map VenueDevice.id := by
    rw [List.filterMap_map, ← List.filterMap_eq_map]
    rfl
  rw [mergeDevices_eq hdistinct, List.filterMap_append, hrealised, hothers]
  exact claimed_append_unclaimed hdistinct hfound

lemma exact_mergeDevices (hdistinct : DistinctChoices items found)
    (hfound : (found.map VenueDevice.id).Nodup) (hd : d ∈ mergeDevices items found)
    (hexpected : d.unexpected = false) (hid : d.id ∈ found.map VenueDevice.id) :
    d.discoveredId = .str d.id ∧ d.discovered = some true := by
  rw [mergeDevices_eq hdistinct, List.mem_append] at hd
  rcases hd with hd | hd
  · obtain ⟨item, -, rfl⟩ := List.mem_map.mp hd
    have hitem : (realise item (firstChoice found item)).id = item.id := by
      cases firstChoice found item <;> rfl
    rw [hitem] at hid ⊢
    obtain ⟨e, he, heid⟩ := List.mem_map.mp hid
    have hchoice : firstChoice found item = some e := by
      unfold firstChoice chooseFrom
      rw [List.findSome?_cons, (find?_key_iff hfound).mpr ⟨he, heid⟩]
    rw [hchoice]
    exact ⟨congrArg Value.str heid, rfl⟩
  · obtain ⟨e, -, rfl⟩ := List.mem_map.mp hd
    cases hexpected

end

/-! ## Matching -/

/-- Every discovered device is reported once, so it is at most one device of the profile; a device whose
own id was discovered is that one; and the order of the lists changes no device, and of the warnings only
the order. -/
structure MatchesDiscovery (expected found : List VenueDevice) : Prop where
  reports : ((discoveryOf expected found).filterMap VenueDevice.reported).Perm
    ((lastPerKey VenueDevice.id found).map VenueDevice.id)
  exact : ∀ d ∈ discoveryOf expected found, d.unexpected = false →
    d.id ∈ found.map VenueDevice.id → d.discoveredId = .str d.id ∧ d.discovered = some true
  order : ∀ expected' found' : List VenueDevice, expected'.Perm expected → found'.Perm found →
    discoveryOf expected' found' = discoveryOf expected found ∧
      (discoveryWarnings expected' found').Perm (discoveryWarnings expected found)

/-- The first choices among devices of a profile that are given in lists. -/
def ChoicesDiffer (expected found : List VenueDevice) : Prop :=
  DistinctChoices (lastPerKey VenueDevice.id expected) (lastPerKey VenueDevice.id found)

section

variable {expected found : List VenueDevice}

lemma matchesDiscovery_of_choices (hexpected : Agree VenueDevice.id expected)
    (hfound : Agree VenueDevice.id found) (hread : AsRead found) (h : ChoicesDiffer expected found) :
    MatchesDiscovery expected found := by
  have hids : ((lastPerKey VenueDevice.id found).map VenueDevice.id).Nodup :=
    (keys_lastPerKey found).1
  have hitems : ((lastPerKey VenueDevice.id expected).map VenueDevice.id).Nodup :=
    (keys_lastPerKey expected).1
  refine ⟨?_, fun d hd hplanned hid => ?_, fun expected' found' he hf => ⟨?_, ?_⟩⟩
  · exact (sortOn_perm.filterMap _).trans (reported_mergeDevices h hids fun d hd =>
      hread d (mem_of_mem_lastPerKey hd))
  · exact exact_mergeDevices h hids (mem_sortOn.mp hd) hplanned
      (((keys_lastPerKey found).2 d.id).mpr hid)
  · exact sortOn_eq_of_perm
      (mergeDevices_perm h hids (lastPerKey_perm hexpected he) (lastPerKey_perm hfound hf))
      (mergeDevices_ids h hitems hids)
  · exact mergeWarnings_perm h hids (lastPerKey_perm hexpected he) (lastPerKey_perm hfound hf)

lemma exists_realise_mem {a : VenueDevice} (ha : a ∈ lastPerKey VenueDevice.id expected) :
    ∃ expected', expected'.Perm expected ∧
      realise a (firstChoice (lastPerKey VenueDevice.id found) a) ∈ discoveryOf expected' found := by
  have hmem := mem_of_mem_lastPerKey ha
  obtain ⟨rest, hrest⟩ : ∃ rest, lastPerKey VenueDevice.id
      ((expected.erase a).filter (fun b => b.id = a.id) ++
        a :: (expected.erase a).filter fun b => ¬ b.id = a.id) = a :: rest :=
    lastPerKey_front (fun b hb => of_decide_eq_true (List.mem_filter.mp hb).2)
      (fun b hb => of_decide_eq_true (List.mem_filter.mp hb).2)
  refine ⟨_, ?_, by
    rw [discoveryOf, mem_sortOn, hrest, mergeDevices, mergeDevice_eq]
    exact List.mem_cons_self⟩
  have hsplit : ((expected.erase a).filter (fun b => b.id = a.id) ++
      (expected.erase a).filter fun b => ¬ b.id = a.id).Perm (expected.erase a) := by
    have happend := List.filter_append_perm (fun b : VenueDevice => decide (b.id = a.id))
      (expected.erase a)
    simpa only [decide_not] using happend
  exact List.perm_middle.trans ((hsplit.cons a).trans (List.perm_cons_erase hmem).symm)

lemma choices_of_matchesDiscovery (hread : AsRead found)
    (h : MatchesDiscovery expected found) : ChoicesDiffer expected found := by
  have hids : ((lastPerKey VenueDevice.id found).map VenueDevice.id).Nodup :=
    (keys_lastPerKey found).1
  refine List.Nodup.pairwise_of_forall_ne lastPerKey_nodup fun a ha b hb hne d e hd he heq => ?_
  have hread' : AsRead (lastPerKey VenueDevice.id found) := fun d hd =>
    hread d (mem_of_mem_lastPerKey hd)
  -- In one order the one device has it, in another order the other one.
  have hmem : ∀ c ∈ lastPerKey VenueDevice.id expected,
      realise c (firstChoice (lastPerKey VenueDevice.id found) c) ∈ discoveryOf expected found := by
    intro c hc
    obtain ⟨expected', hperm, hrealised⟩ := exists_realise_mem hc
    rwa [(h.order expected' found hperm (List.Perm.refl _)).1] at hrealised
  have hnodup : ((discoveryOf expected found).filterMap VenueDevice.reported).Nodup :=
    h.reports.nodup_iff.mpr hids
  have hdiffer : realise a (firstChoice (lastPerKey VenueDevice.id found) a) ≠
      realise b (firstChoice (lastPerKey VenueDevice.id found) b) := by
    intro hsame
    rw [hd, he] at hsame
    have hid : (realise a (some d)).id = (realise b (some e)).id := congrArg _ hsame
    exact hne (List.inj_on_of_nodup_map (keys_lastPerKey expected).1 ha hb hid)
  have hpairs := List.pairwise_filterMap.mp hnodup
  have : Std.Symm fun x y : VenueDevice =>
      ∀ s, x.reported = some s → ∀ t, y.reported = some t → s ≠ t :=
    ⟨fun x y hxy s hs t ht hst => hxy t ht s hs hst.symm⟩
  have hreported : ∀ c, (realise c (firstChoice (lastPerKey VenueDevice.id found) c)).reported =
      (firstChoice (lastPerKey VenueDevice.id found) c).map VenueDevice.id :=
    fun c => reported_realise hread'
  refine hpairs.forall (hmem a ha) (hmem b hb) hdiffer d.id ?_ e.id ?_ heq
  · rw [hreported, hd]
    rfl
  · rw [hreported, he]
    rfl

end

/-- A device that may show up under the id of another one. -/
def aliasProfile : Value :=
  .dict [("devices", .list [.dict [("id", .str "a"), ("matchIds", .list [.str "b"])],
    .dict [("id", .str "b")]])]

end StageForge
