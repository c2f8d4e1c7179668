import StageForge.Venue.Discovery

/-!
# Which timing blockers a plan reports

A plan names one provider for each requirement, the first device by its id that is there and has what was
chosen, and holds that device to the times that are stated.
-/

namespace StageForge

open Python

section

variable (C : Conversions)

/-- `venue_compatibility_plan`, from the profile on. -/
def planFor (profile : VenueProfile) (requirements : List Value) (discovered : Value) :
    Except Error VenuePlan := do
  let devices ← mergeDiscoveredDevices C profile discovered
  let participant ← venueParticipant C profile devices
  let execution ← resolveRequirements C participant.document requirements
  let devicePlan ← requirements.mapM (planItem C profile devices execution.decisions)
  return { profile, devices, execution, devicePlan }

lemma venueCompatibilityPlan_eq (profileData : Value) (requirements : List Value) (discovered : Value) :
    venueCompatibilityPlan C profileData requirements discovered =
      readVenueProfile C profileData >>= fun profile => planFor C profile requirements discovered := rfl

end

/-- The capability for which a provider is looked for. -/
def PlanItem.capability (item : PlanItem) : String :=
  (item.decision.map fun d => (d.choice.map CapabilityChoice.capability).getD d.preferred).getD ""

/-- The first device by its id that is there and has the capability. -/
structure FirstProvider (devices : List VenueDevice) (capability : String) (d : VenueDevice) : Prop where
  mem : d ∈ devices
  available : d.available = true
  offers : capability ∈ d.capabilities
  first : ∀ e ∈ devices, e.available = true → capability ∈ e.capabilities → d.id ≤ e.id

section

variable {C : Conversions} {profile : VenueProfile} {requirements : List Value} {discovered : Value}
  {devices : List VenueDevice} {plan : VenuePlan}

lemma timingProblems_iff {limits : TimingLimits} {latency : Latency} :
    timingProblems limits latency = [] ↔ limits.MetBy latency := by
  refine ⟨metBy_of_timingProblems, fun hmet => ?_⟩
  obtain ⟨hfixed, hjitter, htimestamped⟩ := hmet
  have hmissing : (limits.timestamped && !latency.timestamped) = false := by
    cases hneeded : limits.timestamped with
    | false => rfl
    | true => rw [htimestamped hneeded]; rfl
  rw [timingProblems, hfixed, hjitter, hmissing]
  rfl

lemma firstProvider_of_find {capability : String} {humans : List VenueHuman} {d : VenueDevice}
    (hsorted : devices.Pairwise fun a b => a.id ≤ b.id)
    (h : findProvider capability devices humans = some (.device d)) :
    FirstProvider devices capability d := by
  obtain ⟨hmem, havailable, hoffers⟩ := findProvider_device h
  refine ⟨hmem, havailable, hoffers, fun e he heavailable heoffers => ?_⟩
  have hfind : (devices.find? fun d => capability ∈ d.capabilities ∧ d.available) = some d := by
    rw [findProvider, Option.or_eq_some_iff] at h
    rcases h with h | ⟨-, h⟩
    · obtain ⟨d', hd', heq⟩ := Option.map_eq_some_iff.mp h
      rw [hd', Provider.device.inj heq]
    · obtain ⟨_, -, heq⟩ := Option.map_eq_some_iff.mp h
      cases heq
  obtain ⟨-, before, after, rfl, hbefore⟩ := List.find?_eq_some_iff_append.mp hfind
  rcases List.mem_append.mp he with he | he
  · have hnot := hbefore e he
    rw [Bool.not_eq_true', decide_eq_false_iff_not] at hnot
    exact absurd ⟨heoffers, heavailable⟩ hnot
  · rcases List.mem_cons.mp he with rfl | he
    · exact le_refl _
    · exact List.rel_of_pairwise_cons (List.pairwise_append.mp hsorted).2.1 he

lemma mergeDiscoveredDevices_sorted
    (h : mergeDiscoveredDevices C profile discovered = .ok devices) :
    devices.Pairwise fun a b => a.id ≤ b.id := by
  unfold mergeDiscoveredDevices at h
  dsimp only at h
  split_ifs at h
  · cases h
    exact sortOn_pairwise
  · obtain ⟨items, -, h⟩ := bind_eq_ok.mp h
    obtain ⟨found, -, h⟩ := bind_eq_ok.mp h
    cases h
    exact sortOn_pairwise

lemma timingAssessment_blocked_iff {limits : Option TimingLimits} {provider : Option Provider} :
    (timingAssessment limits provider).status = .blocked ↔
      ∃ stated d, (timingAssessment limits provider).limits = some stated ∧
        provider = some (.device d) ∧ ¬ stated.MetBy d.latency := by
  constructor
  · intro h
    cases limits with
    | none => cases h
    | some stated =>
      rcases provider with _ | d | human
      · cases h
      · refine ⟨stated, d, rfl, rfl, fun hmet => ?_⟩
        rw [timingAssessment, if_pos (timingProblems_iff.mpr hmet)] at h
        cases h
      · cases h
  · rintro ⟨stated, d, hstated, rfl, hmissed⟩
    cases limits with
    | none => cases hstated
    | some limits =>
      cases hstated
      rw [timingAssessment, if_neg (mt timingProblems_iff.mp hmissed)]

lemma findProvider_of_planItem {decisions : List Decision} {requirement : Value} {item : PlanItem}
    {provider : Provider} (h : planItem C profile devices decisions requirement = .ok item)
    (hprovider : item.provider = some provider) :
    findProvider item.capability devices profile.humans = some provider := by
  obtain ⟨raw, -, h⟩ := bind_eq_ok.mp h
  obtain ⟨limits, -, h⟩ := bind_eq_ok.mp h
  cases h
  -- Nothing is looked for without a capability.
  unfold PlanItem.capability
  dsimp only at hprovider ⊢
  split_ifs at hprovider
  exact hprovider

lemma blocked_iff {decisions : List Decision} {requirement : Value} {item : PlanItem}
    (h : planItem C profile devices decisions requirement = .ok item) :
    item.timing.status = .blocked ↔ ∃ limits d, item.timing.limits = some limits ∧
      item.provider = some (.device d) ∧ ¬ limits.MetBy d.latency := by
  obtain ⟨raw, -, h⟩ := bind_eq_ok.mp h
  obtain ⟨limits, -, h⟩ := bind_eq_ok.mp h
  cases h
  exact timingAssessment_blocked_iff

/-! ## The order of the devices -/

/-- Where an id names one device, the order of the profile does not matter, if no two devices have the same
first choice. -/
lemma mergeDiscoveredDevices_perm {devices' : List VenueDevice}
    (hagree : Agree VenueDevice.id profile.devices)
    (hchoices : ∀ items found, discovered ≠ .none →
      (discovered.orElse (.list [])).iterate = .ok items → readDiscovered C items = .ok found →
        ChoicesDiffer profile.devices found)
    (h : devices'.Perm profile.devices) :
    mergeDiscoveredDevices C { profile with devices := devices' } discovered =
      mergeDiscoveredDevices C profile discovered := by
  have hperm := lastPerKey_perm hagree h
  have hids : ((lastPerKey VenueDevice.id profile.devices).map VenueDevice.id).Nodup :=
    (keys_lastPerKey profile.devices).1
  unfold mergeDiscoveredDevices
  dsimp only
  by_cases hnone : discovered = .none
  · have hsame : ((lastPerKey VenueDevice.id profile.devices).map fun d =>
        { d with discovered := none }).map VenueDevice.id =
          (lastPerKey VenueDevice.id profile.devices).map VenueDevice.id := by
      rw [List.map_map]
      rfl
    rw [if_pos hnone, if_pos hnone, sortOn_eq_of_perm (hperm.map _) (hsame ▸ hids)]
  · rw [if_neg hnone, if_neg hnone]
    cases hitems : (discovered.orElse (.list [])).iterate with
    | error e => rfl
    | ok items =>
      change ((readDiscovered C items).bind fun found => _) =
        ((readDiscovered C items).bind fun found => _)
      cases hfound : readDiscovered C items with
      | error e => rfl
      | ok found =>
        have hdistinct := hchoices items found hnone hitems hfound
        have hfoundIds : ((lastPerKey VenueDevice.id found).map VenueDevice.id).Nodup :=
          (keys_lastPerKey found).1
        exact congrArg Except.ok (sortOn_eq_of_perm
          (mergeDevices_perm hdistinct hfoundIds hperm (List.Perm.refl _))
          (mergeDevices_ids hdistinct hids hfoundIds))

lemma planFor_perm {devices' : List VenueDevice}
    (hmerge : mergeDiscoveredDevices C { profile with devices := devices' } discovered =
      mergeDiscoveredDevices C profile discovered)
    (h : planFor C profile requirements discovered = .ok plan) :
    planFor C { profile with devices := devices' } requirements discovered =
      .ok { plan with profile := { profile with devices := devices' } } := by
  obtain ⟨devices, hdevices, h⟩ := bind_eq_ok.mp h
  obtain ⟨participant, hparticipant, h⟩ := bind_eq_ok.mp h
  obtain ⟨execution, hexecution, h⟩ := bind_eq_ok.mp h
  obtain ⟨devicePlan, hdevicePlan, h⟩ := bind_eq_ok.mp h
  cases h
  exact bind_eq_ok.mpr ⟨devices, hmerge.trans hdevices, bind_eq_ok.mpr ⟨participant, hparticipant,
    bind_eq_ok.mpr ⟨execution, hexecution, bind_eq_ok.mpr ⟨devicePlan, hdevicePlan, rfl⟩⟩⟩⟩

/-! ## Reports -/

lemma timing_mem_blockers {id : String} :
    (∃ problems, VenueBlocker.timing id problems ∈ plan.blockers) ↔
      ∃ item ∈ plan.devicePlan, item.id = id ∧ item.required = true ∧
        item.timing.status = .blocked := by
  constructor
  · rintro ⟨problems, hmem⟩
    rcases List.mem_append.mp hmem with hmem | hmem
    · obtain ⟨d, -, heq⟩ := List.mem_map.mp hmem
      cases heq
    · obtain ⟨item, hitem, heq⟩ := List.mem_map.mp hmem
      obtain ⟨hitem, hblocked⟩ := List.mem_filter.mp hitem
      obtain ⟨hstatus, hrequired⟩ := of_decide_eq_true hblocked
      exact ⟨item, hitem, (VenueBlocker.timing.inj heq).1, hrequired, hstatus⟩
  · rintro ⟨item, hitem, rfl, hrequired, hstatus⟩
    exact ⟨item.timing.problems, List.mem_append_right _ (List.mem_map_of_mem
      (List.mem_filter.mpr ⟨hitem, decide_eq_true ⟨hstatus, hrequired⟩⟩))⟩

/-- **What is reported as timing blocked is required, and the first device that is there and has what was
chosen is not in time.** Where an id names one device and no two devices have the same first choice, the
order of the devices in the profile changes nothing of the readiness. -/
theorem timingBlockers_spec {profileData : Value}
    (h : venueCompatibilityPlan C profileData requirements discovered = .ok plan) :
    (∀ id, (∃ problems, VenueBlocker.timing id problems ∈ plan.blockers) ↔
      ∃ item ∈ plan.devicePlan, item.id = id ∧ item.required = true ∧
        ∃ limits d, item.timing.limits = some limits ∧ item.provider = some (.device d) ∧
          FirstProvider plan.devices item.capability d ∧ ¬ limits.MetBy d.latency) ∧
      (Agree VenueDevice.id plan.profile.devices →
        (∀ items found, discovered ≠ .none → (discovered.orElse (.list [])).iterate = .ok items →
          readDiscovered C items = .ok found → ChoicesDiffer plan.profile.devices found) →
        ∀ devices' : List VenueDevice, devices'.Perm plan.profile.devices →
          (planFor C { plan.profile with devices := devices' } requirements discovered).map
            VenuePlan.readiness = .ok plan.readiness) := by
  rw [venueCompatibilityPlan_eq] at h
  obtain ⟨profile, -, h⟩ := bind_eq_ok.mp h
  have hplan := h
  obtain ⟨devices, hdevices, h⟩ := bind_eq_ok.mp h
  obtain ⟨participant, -, h⟩ := bind_eq_ok.mp h
  obtain ⟨execution, -, h⟩ := bind_eq_ok.mp h
  obtain ⟨devicePlan, hdevicePlan, h⟩ := bind_eq_ok.mp h
  cases h
  refine ⟨fun id => timing_mem_blockers.trans ?_, fun hagree hchoices devices' hperm => ?_⟩
  · refine exists_congr fun item => and_congr_right fun hitem => and_congr_right fun _ =>
      and_congr_right fun _ => ?_
    obtain ⟨requirement, -, hcall⟩ := (mem_of_mapM_eq_ok hdevicePlan).2 item hitem
    rw [blocked_iff hcall]
    refine exists₂_congr fun limits d => and_congr_right fun _ => and_congr_right fun hprovider => ?_
    have hfirst := firstProvider_of_find (mergeDiscoveredDevices_sorted hdevices)
      (findProvider_of_planItem hcall hprovider)
    exact (and_iff_right hfirst).symm
  · rw [planFor_perm (mergeDiscoveredDevices_perm hagree hchoices hperm) hplan]
    rfl

end

def twoOutputsProfile : Value := .dict [("devices", .list
    [.dict [("id", .str "audio-a"), ("capabilities", .list [.str "audio.output"]),
        ("latency", .dict [("fixedMs", .int 50)])],
      .dict [("id", .str "audio-b"), ("capabilities", .list [.str "audio.output"]),
        ("latency", .dict [("fixedMs", .int 6)])]])]

theorem not_timingBlockers_genuine :
    (venueCompatibilityPlan plainConversions twoOutputsProfile [.dict outputRequirement] .none).map
      (fun plan => (plan.readiness, plan.devicePlan.map fun item => (item.timing.status,
        (plan.devices.filter fun d => d.available ∧ item.capability ∈ d.capabilities ∧
          item.timing.limits.any fun limits => timingProblems limits d.latency = []).map
            VenueDevice.id))) = .ok (.blocked, [(.blocked, ["audio-b"])]) := by
  decide +kernel

theorem timingBlockers_spec_two_outputs : ∃ plan,
    venueCompatibilityPlan plainConversions twoOutputsProfile [.dict outputRequirement] .none =
        .ok plan ∧
      ((∃ problems, VenueBlocker.timing "output" problems ∈ plan.blockers) ↔
        ∃ item ∈ plan.devicePlan, item.id = "output" ∧ item.required = true ∧
          ∃ limits d, item.timing.limits = some limits ∧ item.provider = some (.device d) ∧
            FirstProvider plan.devices item.capability d ∧ ¬ limits.MetBy d.latency) := by
  have hready : (venueCompatibilityPlan plainConversions twoOutputsProfile [.dict outputRequirement]
      .none).map VenuePlan.readiness = .ok .blocked := by
    decide +kernel
  obtain ⟨plan, hplan, -⟩ := map_eq_ok.mp hready
  exact ⟨plan, hplan, (timingBlockers_spec hplan).1 "output"⟩

end StageForge
