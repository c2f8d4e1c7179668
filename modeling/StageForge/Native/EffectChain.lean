import StageForge.Library.RecentRing

/-!
# The chain of effects of an output

`CoreEffectChain` has the effects of an output in order. A block goes through those that are active
and not bypassed, and one whose callback fails is bypassed from then on. The samples of a block are
left out: what a callback does to them is its own affair, and whether it succeeds is part of the call
(`outcome`). The chain here has the slots that are registered; nothing unregisters a slot.
-/

namespace StageForge

structure CoreEffectDescriptor where
  effectId : UInt64
  channels : UInt32
  realtimeSafe : Bool

structure EffectSlot where
  descriptor : CoreEffectDescriptor
  active : Bool
  bypassed : Bool
  processedBlocks : UInt64
  processedFrames : UInt64
  failures : UInt64

/-- A call of an effect's process callback, and whether it succeeded. -/
structure EffectCall where
  effectId : UInt64
  succeeded : Bool
  deriving DecidableEq

structure CoreEffectChain where
  slots : List EffectSlot
  processedBlocks : UInt64
  failures : UInt64

def EffectSlot.id (slot : EffectSlot) : UInt64 := slot.descriptor.effectId

namespace CoreEffectChain

def empty : CoreEffectChain := ⟨[], 0, 0⟩

variable (chain : CoreEffectChain)

def find (effectId : UInt64) : Option EffectSlot :=
  chain.slots.find? fun slot => decide (slot.id = effectId)

/-- `register_effect`; `hasCallbacks` is whether the adapter can be activated and can process. -/
def registerEffect (capacity : ℕ) (descriptor : CoreEffectDescriptor) (hasCallbacks : Bool) :
    CoreEffectChain × Bool :=
  if descriptor.effectId = 0 ∨ descriptor.channels = 0 ∨ descriptor.realtimeSafe = false ∨
      hasCallbacks = false ∨ (chain.find descriptor.effectId).isSome then (chain, false)
  else if chain.slots.length < capacity then
    ({ chain with slots := chain.slots ++ [⟨descriptor, false, false, 0, 0, 0⟩] }, true)
  else (chain, false)

/-- What `activate_all` does with a slot, when its adapter `accepts`. -/
def activateSlot (channels : UInt32) (accepts : UInt64 → Bool) (slot : EffectSlot) : EffectSlot :=
  if slot.active then slot
  else if slot.descriptor.channels < channels ∨ accepts slot.id = false then
    { slot with bypassed := true, failures := slot.failures + 1 }
  else { slot with active := true }

/-- `activate_all` counts a slot it could not activate. -/
def activationFails (channels : UInt32) (accepts : UInt64 → Bool) (slot : EffectSlot) : Bool :=
  !slot.active && (decide (slot.descriptor.channels < channels) || !accepts slot.id)

/-- `activate_all`; `positiveRate` is whether the sample rate is positive. -/
def activateAll (positiveRate : Bool) (maxFrames channels : UInt32) (accepts : UInt64 → Bool) :
    CoreEffectChain × Bool :=
  if positiveRate = false ∨ maxFrames = 0 ∨ channels = 0 then (chain, false)
  else
    ({ chain with
      slots := chain.slots.map (activateSlot channels accepts)
      failures := chain.failures +
        UInt64.ofNat (chain.slots.countP (activationFails channels accepts)) }, true)

def deactivateAll : CoreEffectChain :=
  { chain with slots := chain.slots.map fun slot => { slot with active := false } }

/-- The first slot of an effect gets another bypass flag. -/
def setBypassIn (effectId : UInt64) (bypass : Bool) : List EffectSlot → List EffectSlot
  | [] => []
  | slot :: rest =>
    if slot.id = effectId then { slot with bypassed := bypass } :: rest
    else slot :: setBypassIn effectId bypass rest

def setBypass (effectId : UInt64) (bypass : Bool) : CoreEffectChain × Bool :=
  ({ chain with slots := setBypassIn effectId bypass chain.slots }, (chain.find effectId).isSome)

/-- The loop of `process`, with the callbacks it calls. -/
def processSlots (outcome : UInt64 → Bool) (frames : UInt32) :
    List EffectSlot → List EffectSlot × List EffectCall
  | [] => ([], [])
  | slot :: rest =>
    let (others, calls) := processSlots outcome frames rest
    if slot.active = false ∨ slot.bypassed then (slot :: others, calls)
    else if outcome slot.id then
      ({ slot with
        processedBlocks := slot.processedBlocks + 1
        processedFrames := slot.processedFrames + frames.toUInt64 } :: others,
          ⟨slot.id, true⟩ :: calls)
    else
      ({ slot with failures := slot.failures + 1, bypassed := true } :: others,
        ⟨slot.id, false⟩ :: calls)

/-- `process`, with the callbacks it calls. -/
def process (outcome : UInt64 → Bool) (channelCount frames : UInt32) :
    CoreEffectChain × Bool × List EffectCall :=
  if channelCount = 0 ∨ frames = 0 then (chain, false, [])
  else
    let (slots, calls) := processSlots outcome frames chain.slots
    let failures := calls.countP fun call => !call.succeeded
    ({ slots
       processedBlocks := chain.processedBlocks + 1
       failures := chain.failures + UInt64.ofNat failures },
      decide (failures = 0), calls)

def bypassed (effectId : UInt64) : Option Bool := (chain.find effectId).map EffectSlot.bypassed

/-! ## The effects after a call -/

def ids : List UInt64 := chain.slots.map EffectSlot.id

variable {chain}

variable {effectId : UInt64}

lemma find_isSome_iff : (chain.find effectId).isSome ↔ effectId ∈ chain.ids := by
  rw [find, List.find?_isSome, ids, List.mem_map]
  simp only [decide_eq_true_eq]

lemma bypassed_isSome_iff : (chain.bypassed effectId).isSome ↔ effectId ∈ chain.ids := by
  rw [bypassed, Option.isSome_map, find_isSome_iff]

variable {flag : Bool}

lemma mem_ids_of_bypassed (h : chain.bypassed effectId = some flag) : effectId ∈ chain.ids :=
  bypassed_isSome_iff.mp (by rw [h]; rfl)

lemma setBypassIn_ids (effectId : UInt64) (bypass : Bool) (slots : List EffectSlot) :
    (setBypassIn effectId bypass slots).map EffectSlot.id = slots.map EffectSlot.id := by
  induction slots with
  | nil => rfl
  | cons slot rest ih =>
    rw [setBypassIn]
    split
    · rfl
    · rw [List.map_cons, List.map_cons, ih]

@[simp] lemma setBypass_ids (effectId : UInt64) (bypass : Bool) :
    (chain.setBypass effectId bypass).1.ids = chain.ids :=
  setBypassIn_ids effectId bypass chain.slots

lemma processSlots_ids (outcome : UInt64 → Bool) (frames : UInt32) (slots : List EffectSlot) :
    (processSlots outcome frames slots).1.map EffectSlot.id = slots.map EffectSlot.id := by
  induction slots with
  | nil => rfl
  | cons slot rest ih =>
    simp only [processSlots]
    split
    · rw [List.map_cons, List.map_cons, ih]
    · split
      · rw [List.map_cons, List.map_cons, ih]
        rfl
      · rw [List.map_cons, List.map_cons, ih]
        rfl

@[simp] lemma process_ids (outcome : UInt64 → Bool) (channelCount frames : UInt32) :
    (chain.process outcome channelCount frames).1.ids = chain.ids := by
  unfold process
  split
  · rfl
  · exact processSlots_ids outcome frames chain.slots

lemma activateSlot_id (channels : UInt32) (accepts : UInt64 → Bool) (slot : EffectSlot) :
    (activateSlot channels accepts slot).id = slot.id := by
  unfold activateSlot
  split
  · rfl
  · split <;> rfl

@[simp] lemma activateAll_ids (positiveRate : Bool) (maxFrames channels : UInt32)
    (accepts : UInt64 → Bool) :
    (chain.activateAll positiveRate maxFrames channels accepts).1.ids = chain.ids := by
  unfold activateAll
  split
  · rfl
  · simp only [ids, List.map_map]
    exact List.map_congr_left fun slot _ => activateSlot_id channels accepts slot

@[simp] lemma deactivateAll_ids : chain.deactivateAll.ids = chain.ids := by
  simp only [deactivateAll, ids, List.map_map]
  rfl

variable (chain) in
lemma registerEffect_slots (capacity : ℕ) (descriptor : CoreEffectDescriptor)
    (hasCallbacks : Bool) :
    (chain.registerEffect capacity descriptor hasCallbacks).1 = chain ∨
    descriptor.effectId ∉ chain.ids ∧ ∃ slot : EffectSlot, slot.id = descriptor.effectId ∧
      (chain.registerEffect capacity descriptor hasCallbacks).1.slots = chain.slots ++ [slot] := by
  unfold registerEffect
  split
  · exact .inl rfl
  · rename_i hvalid
    simp only [not_or, Bool.not_eq_true] at hvalid
    split
    · refine .inr ⟨fun hmem => ?_, _, rfl, rfl⟩
      have hfound := find_isSome_iff.mpr hmem
      rw [hvalid.2.2.2.2] at hfound
      exact absurd hfound (by decide)
    · exact .inl rfl

/-! ## The flags after a call -/

lemma bypassed_append {slot : EffectSlot} {after : CoreEffectChain}
    (h : after.slots = chain.slots ++ [slot])
    (hflag : chain.bypassed effectId = some flag) : after.bypassed effectId = some flag := by
  rw [bypassed, find, Option.map_eq_some_iff] at hflag ⊢
  obtain ⟨found, hfound, hflag⟩ := hflag
  exact ⟨found, by rw [h, List.find?_append, hfound, Option.some_or], hflag⟩

lemma bypassed_registerEffect (capacity : ℕ)
    (descriptor : CoreEffectDescriptor) (hasCallbacks : Bool)
    (h : chain.bypassed effectId = some flag) :
    (chain.registerEffect capacity descriptor hasCallbacks).1.bypassed effectId = some flag := by
  rcases registerEffect_slots chain capacity descriptor hasCallbacks with
    hsame | ⟨-, slot, -, hslots⟩
  · rw [hsame]
    exact h
  · exact bypassed_append hslots h

lemma find_map (change : EffectSlot → EffectSlot) (hid : ∀ slot, (change slot).id = slot.id)
    (effectId : UInt64) (slots : List EffectSlot) :
    (slots.map change).find? (fun slot => decide (slot.id = effectId)) =
      (slots.find? fun slot => decide (slot.id = effectId)).map change := by
  rw [List.find?_map]
  simp only [Function.comp_def, hid]

lemma bypassed_activateAll (positiveRate : Bool) (maxFrames channels : UInt32)
    (accepts : UInt64 → Bool) (h : chain.bypassed effectId = some true) :
    (chain.activateAll positiveRate maxFrames channels accepts).1.bypassed effectId = some true := by
  unfold activateAll
  split
  · exact h
  · rw [bypassed, find, Option.map_eq_some_iff] at h ⊢
    obtain ⟨slot, hslot, hflag⟩ := h
    refine ⟨activateSlot channels accepts slot, ?_, ?_⟩
    · rw [find_map _ (activateSlot_id channels accepts), hslot, Option.map_some]
    · unfold activateSlot
      split
      · exact hflag
      · split
        · rfl
        · exact hflag

@[simp] lemma bypassed_deactivateAll (effectId : UInt64) :
    chain.deactivateAll.bypassed effectId = chain.bypassed effectId := by
  have hfind := find_map (fun slot => { slot with active := false }) (fun _ => rfl) effectId
    chain.slots
  rw [bypassed, bypassed, find, find, deactivateAll, hfind, Option.map_map]
  rfl

lemma bypassedIn_setBypassIn (effectId other : UInt64) (bypass : Bool) (slots : List EffectSlot) :
    ((setBypassIn effectId bypass slots).find? fun slot => decide (slot.id = other)).map
        EffectSlot.bypassed =
      if other = effectId then
        (slots.find? fun slot => decide (slot.id = other)).map fun _ => bypass
      else (slots.find? fun slot => decide (slot.id = other)).map EffectSlot.bypassed := by
  induction slots with
  | nil => simp [setBypassIn]
  | cons slot rest ih =>
    rw [setBypassIn]
    by_cases hid : slot.id = effectId
    · rw [if_pos hid]
      have hsame : ({ slot with bypassed := bypass } : EffectSlot).id = slot.id := rfl
      by_cases hother : slot.id = other
      · have heq : other = effectId := by rw [← hother, hid]
        simp [hsame, hother, heq]
      · have hne : other ≠ effectId := fun heq => hother (by rw [hid, heq])
        simp [hsame, hother, hne]
    · rw [if_neg hid]
      by_cases hother : slot.id = other
      · have hne : other ≠ effectId := fun heq => hid (by rw [hother, heq])
        simp [hother, hne]
      · simp only [List.find?_cons, hother, decide_false]
        exact ih

/-- **`set_bypass`**: the flag of one effect, and of no other. -/
lemma bypassed_setBypass (effectId other : UInt64) (bypass : Bool) :
    (chain.setBypass effectId bypass).1.bypassed other =
      if other = effectId then (chain.bypassed other).map fun _ => bypass
      else chain.bypassed other := by
  have h := bypassedIn_setBypassIn effectId other bypass chain.slots
  rw [bypassed, bypassed, Option.map_map]
  exact h

lemma bypassed_of_mem (hnodup : chain.ids.Nodup) {slot : EffectSlot} (hmem : slot ∈ chain.slots) :
    chain.bypassed slot.id = some slot.bypassed := by
  cases hfind : chain.find slot.id with
  | none =>
    have hknown := find_isSome_iff.mpr (List.mem_map_of_mem hmem : slot.id ∈ chain.ids)
    rw [hfind] at hknown
    exact absurd hknown (by decide)
  | some found =>
    have hid : found.id = slot.id := by simpa using List.find?_some hfind
    have hfound : found ∈ chain.slots := List.mem_of_find?_eq_some hfind
    have hsame : found = slot := List.inj_on_of_nodup_map hnodup hfound hmem hid
    rw [bypassed, hfind, Option.map_some, hsame]

variable {outcome : UInt64 → Bool}

lemma processSlots_called {frames : UInt32} {slots : List EffectSlot}
    {call : EffectCall} (h : call ∈ (processSlots outcome frames slots).2) :
    ∃ slot ∈ slots, slot.id = call.effectId ∧ slot.bypassed = false := by
  induction slots with
  | nil => exact absurd h (List.not_mem_nil)
  | cons slot rest ih =>
    have hrest : call ∈ (processSlots outcome frames rest).2 →
        ∃ found ∈ slot :: rest, found.id = call.effectId ∧ found.bypassed = false := by
      intro hcall
      obtain ⟨found, hfound, hid⟩ := ih hcall
      exact ⟨found, List.mem_cons_of_mem _ hfound, hid⟩
    simp only [processSlots] at h
    split at h
    · exact hrest h
    · rename_i hruns
      simp only [not_or, Bool.not_eq_true] at hruns
      split at h
      · rcases List.mem_cons.mp h with hcall | hcall
        · exact ⟨slot, List.mem_cons_self, by rw [hcall], hruns.2⟩
        · exact hrest hcall
      · rcases List.mem_cons.mp h with hcall | hcall
        · exact ⟨slot, List.mem_cons_self, by rw [hcall], hruns.2⟩
        · exact hrest hcall

/-- **A bypassed effect is not called.** -/
lemma called_not_bypassed (hnodup : chain.ids.Nodup)
    {channelCount frames : UInt32} {call : EffectCall}
    (h : call ∈ (chain.process outcome channelCount frames).2.2) :
    chain.bypassed call.effectId = some false := by
  unfold process at h
  split at h
  · exact absurd h (List.not_mem_nil)
  · obtain ⟨slot, hmem, hid, hflag⟩ := processSlots_called h
    rw [← hid, bypassed_of_mem hnodup hmem, hflag]

lemma processSlots_calls (outcome : UInt64 → Bool) (frames : UInt32) (slots : List EffectSlot) :
    ((processSlots outcome frames slots).2.map EffectCall.effectId).Sublist
      (slots.map EffectSlot.id) := by
  induction slots with
  | nil => exact .slnil
  | cons slot rest ih =>
    simp only [processSlots]
    split
    · exact ih.cons _
    · split
      · exact ih.cons_cons _
      · exact ih.cons_cons _

lemma nodup_calls (hnodup : chain.ids.Nodup) (outcome : UInt64 → Bool)
    (channelCount frames : UInt32) :
    ((chain.process outcome channelCount frames).2.2.map EffectCall.effectId).Nodup := by
  unfold process
  split
  · exact List.nodup_nil
  · exact hnodup.sublist (processSlots_calls outcome frames chain.slots)

lemma bypassedIn_processSlots {frames : UInt32}
    {slots : List EffectSlot} (hnodup : (slots.map EffectSlot.id).Nodup)
    (h : (slots.find? fun slot => decide (slot.id = effectId)).map EffectSlot.bypassed = some true ∨
      (⟨effectId, false⟩ : EffectCall) ∈ (processSlots outcome frames slots).2) :
    ((processSlots outcome frames slots).1.find? fun slot => decide (slot.id = effectId)).map
      EffectSlot.bypassed = some true := by
  induction slots with
  | nil => simp [processSlots] at h
  | cons slot rest ih =>
    rw [List.map_cons, List.nodup_cons] at hnodup
    by_cases hid : slot.id = effectId
    · -- nothing after this slot has its id
      have hlater : (⟨effectId, false⟩ : EffectCall) ∉ (processSlots outcome frames rest).2 := by
        intro hcall
        have hmem := (processSlots_calls outcome frames rest).subset
          (List.mem_map_of_mem (f := EffectCall.effectId) hcall)
        rw [hid] at hnodup
        exact hnodup.1 hmem
      simp only [List.find?_cons, hid, decide_true, Option.map_some, Option.some.injEq] at h
      simp only [processSlots] at h ⊢
      split
      · rename_i hskipped
        rw [if_pos hskipped] at h
        have hflag : slot.bypassed = true := h.resolve_right hlater
        simp [hid, hflag]
      · rename_i hruns
        rw [if_neg hruns] at h
        simp only [not_or, Bool.not_eq_true] at hruns
        split
        · rename_i houtcome
          rw [if_pos houtcome, List.mem_cons] at h
          rcases h with hflag | hcall | hcall
          · rw [hruns.2] at hflag
            exact absurd hflag (by decide)
          · cases hcall
          · exact absurd hcall hlater
        · have hsame : ({ slot with
              failures := slot.failures + 1, bypassed := true } : EffectSlot).id = slot.id := rfl
          simp [hsame, hid]
    · have hrest : (rest.find? fun slot => decide (slot.id = effectId)).map EffectSlot.bypassed =
          some true ∨ (⟨effectId, false⟩ : EffectCall) ∈ (processSlots outcome frames rest).2 := by
        rcases h with hflag | hcall
        · left
          simpa [List.find?_cons, hid] using hflag
        · right
          have hother : ∀ flag, (⟨effectId, false⟩ : EffectCall) ≠ ⟨slot.id, flag⟩ := by
            intro flag heq
            exact hid (congrArg EffectCall.effectId heq).symm
          simp only [processSlots] at hcall
          split at hcall
          · exact hcall
          · split at hcall
            · exact (List.mem_cons.mp hcall).resolve_left (hother true)
            · exact (List.mem_cons.mp hcall).resolve_left (hother false)
      have hfound := ih hnodup.2 hrest
      have hskip : ∀ (s : EffectSlot) (others : List EffectSlot), s.id = slot.id →
          ((s :: others).find? fun slot => decide (slot.id = effectId)) =
            others.find? fun slot => decide (slot.id = effectId) := by
        intro s others hsame
        exact List.find?_cons_of_neg (by simpa [hsame] using hid)
      simp only [processSlots]
      split
      · rw [hskip slot _ rfl]
        exact hfound
      · split
        · rw [hskip]
          · exact hfound
          · rfl
        · rw [hskip]
          · exact hfound
          · rfl

lemma bypassed_process (hnodup : chain.ids.Nodup) (outcome : UInt64 → Bool)
    (channelCount frames : UInt32) (h : chain.bypassed effectId = some true) :
    (chain.process outcome channelCount frames).1.bypassed effectId = some true := by
  unfold process
  split
  · exact h
  · exact bypassedIn_processSlots hnodup (.inl h)

/-- **An effect that failed is bypassed.** -/
lemma bypassed_of_failed (hnodup : chain.ids.Nodup) {channelCount frames : UInt32}
    (h : ⟨effectId, false⟩ ∈ (chain.process outcome channelCount frames).2.2) :
    (chain.process outcome channelCount frames).1.bypassed effectId = some true := by
  unfold process at h ⊢
  split at h
  · exact absurd h (List.not_mem_nil)
  · rename_i hvalid
    rw [if_neg hvalid]
    exact bypassedIn_processSlots hnodup (.inr h)

end CoreEffectChain

end StageForge
