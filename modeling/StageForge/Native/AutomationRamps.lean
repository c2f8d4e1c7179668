import StageForge.Native.Automation

/-!
# Ramps of automation

What `CoreAutomationState` keeps of a parameter, beside counts, is its owner and its ramp.
-/

namespace StageForge

inductive AutomationCall (S : NativeFloats)
  | seed (targetId parameterId : UInt64) (value : S.Single)
  | apply (event : ShowEvent S)

def ShowEvent.addresses {S : NativeFloats} (event : ShowEvent S) (targetId parameterId : UInt64) : Bool :=
  match event.payload with
  | .automation target parameter _ _ => decide (target = targetId) && decide (parameter = parameterId)
  | _ => false

/-- The owner of a parameter and its ramp. -/
structure AutomationRamp (S : NativeFloats) where
  ownerId : UInt64
  lastEventId : UInt64
  startShowNs : UInt64
  endShowNs : UInt64
  startValue : S.Single
  targetValue : S.Single

def AutomationParameterSnapshot.ramp {S : NativeFloats} (s : AutomationParameterSnapshot S) : AutomationRamp S :=
  ⟨s.ownerId, s.lastEventId, s.rampStartShowNs, s.rampEndShowNs, s.startValue, s.targetValue⟩

lemma automationValueAt_congr {S : NativeFloats} {s s' : AutomationParameterSnapshot S} {showTimeNs : UInt64}
    (hs : s.registered = true) (hs' : s'.registered = true) (h : s.ramp = s'.ramp) :
    automationValueAt s showTimeNs = automationValueAt s' showTimeNs := by
  obtain ⟨-, -, hstart, hend, hfrom, hto⟩ := AutomationRamp.mk.inj h
  unfold automationValueAt
  rw [hs, hs', hstart, hend, hfrom, hto]

namespace CoreAutomationState

section

variable {S : NativeFloats} {maxParameters : ℕ} {a c : CoreAutomationState S}
  {t p t' p' : UInt64}

variable (maxParameters) in
def call (a : CoreAutomationState S) : AutomationCall S → CoreAutomationState S
  | .seed targetId parameterId value => (a.seed maxParameters targetId parameterId value).1
  | .apply event => (a.apply maxParameters event).1

variable (maxParameters) in
def runCalls (a : CoreAutomationState S) (calls : List (AutomationCall S)) : CoreAutomationState S :=
  calls.foldl (call maxParameters) a

variable (a t p) in
/-- The entry of a parameter, or the one that `create` would make. -/
def entryOf : AutomationEntry S := (a.find t p).getD (blankEntry t p)

variable (a t p) in
def ramp : AutomationRamp S := (a.entryOf t p).read.ramp

variable (a t p) in
/-- The value `snapshot` reports; a parameter that is not registered has the value zero. -/
def valueAt (showTimeNs : UInt64) : S.Single :=
  ((a.snapshot t p showTimeNs).map (·.currentValue)).getD (S.single.literal 0)

lemma valueAt_eq (showTimeNs : UInt64) :
    a.valueAt t p showTimeNs = automationValueAt (a.entryOf t p).read showTimeNs := by
  unfold valueAt snapshot entryOf
  cases hfind : a.find t p with
  | some entry => rfl
  | none =>
    unfold automationValueAt
    rw [if_neg (by simp [AutomationEntry.read]), if_pos (.inl (UInt64.le_refl _))]
    rfl

variable (a t p) in
def ownerOf : UInt64 := ((a.find t p).map (·.read.ownerId)).getD 0

lemma ownerOf_eq : a.ownerOf t p = (a.ramp t p).ownerId := by
  unfold ownerOf ramp entryOf
  cases a.find t p with
  | some entry => rfl
  | none => rfl

lemma valueAt_congr (h : a.ramp t p = c.ramp t p) (showTimeNs : UInt64) :
    a.valueAt t p showTimeNs = c.valueAt t p showTimeNs := by
  rw [valueAt_eq, valueAt_eq]
  exact automationValueAt_congr rfl rfl h

/-! ## What is published -/

variable {entry : AutomationEntry S}

lemma isFor_iff : entry.isFor t p = true ↔ entry.targetId = t ∧ entry.parameterId = p := by
  unfold AutomationEntry.isFor
  rw [Bool.and_eq_true, decide_eq_true_eq, decide_eq_true_eq]

lemma find_publishIn (snapshot : AutomationParameterSnapshot S) (entries : List (AutomationEntry S)) :
    (publishIn snapshot entries).find? (·.isFor t p) =
      if snapshot.targetId = t ∧ snapshot.parameterId = p then
        (entries.find? (·.isFor t p)).map (·.publish snapshot)
      else entries.find? (·.isFor t p) := by
  induction entries with
  | nil => simp [publishIn]
  | cons entry rest ih =>
    have hkept : (entry.publish snapshot).isFor t p = entry.isFor t p := rfl
    unfold publishIn
    by_cases hentry : entry.isFor snapshot.targetId snapshot.parameterId = true
    · rw [if_pos hentry, List.find?_cons, List.find?_cons, hkept]
      obtain ⟨htarget, hparameter⟩ := isFor_iff.mp hentry
      by_cases hfor : entry.isFor t p = true
      · obtain ⟨ht, hp⟩ := isFor_iff.mp hfor
        rw [if_pos ⟨htarget.symm.trans ht, hparameter.symm.trans hp⟩]
        simp [hfor]
      · rw [if_neg fun hsame => hfor (isFor_iff.mpr ⟨htarget.trans hsame.1, hparameter.trans hsame.2⟩)]
        simp [hfor]
    · rw [if_neg hentry, List.find?_cons, List.find?_cons, ih]
      by_cases hfor : entry.isFor t p = true
      · obtain ⟨ht, hp⟩ := isFor_iff.mp hfor
        have hother : ¬(snapshot.targetId = t ∧ snapshot.parameterId = p) := fun hsame =>
          hentry (isFor_iff.mpr ⟨ht.trans hsame.1.symm, hp.trans hsame.2.symm⟩)
        simp only [hfor, if_neg hother]
      · simp [hfor]

lemma ramp_publish {snapshot : AutomationParameterSnapshot S}
    (hfind : a.find t p = some entry) (hids : snapshot.targetId = t ∧ snapshot.parameterId = p) :
    (a.publish snapshot).ramp t p = snapshot.ramp := by
  have hnew : (a.publish snapshot).find t p = some (entry.publish snapshot) := by
    unfold find at hfind ⊢
    unfold publish
    rw [find_publishIn, if_pos hids, hfind]
    rfl
  unfold ramp entryOf
  rw [hnew]
  rfl

lemma ramp_publish_other {snapshot : AutomationParameterSnapshot S}
    (hids : ¬(snapshot.targetId = t ∧ snapshot.parameterId = p)) :
    (a.publish snapshot).ramp t p = a.ramp t p := by
  have hsame : (a.publish snapshot).find t p = a.find t p := by
    unfold find publish
    rw [find_publishIn, if_neg hids]
  unfold ramp entryOf
  rw [hsame]

lemma findOrCreate_ramp (h : a.findOrCreate maxParameters t p = some (c, entry)) :
    c.find t p = some entry ∧ entry.targetId = t ∧ entry.parameterId = p ∧ entry.read.ramp = a.ramp t p ∧
      ∀ t' p', c.ramp t' p' = a.ramp t' p' := by
  rcases findOrCreate_cases h with ⟨rfl, hfind⟩ | ⟨hnone, hroom, rfl⟩
  · have hfound : c.entries.find? (fun entry => entry.isFor t p) = some entry := hfind
    have hfor := List.find?_some hfound
    have hids := isFor_iff.mp hfor
    refine ⟨hfind, hids.1, hids.2, ?_, fun _ _ => rfl⟩
    unfold ramp entryOf
    rw [hfind]
    rfl
  · have hc : c = { a with
        entries := a.entries ++ [blankEntry t p]
        registered := a.registered + 1 } := by
      unfold findOrCreate create at h
      rw [hnone] at h
      simp only [if_pos hroom, Option.some.injEq, Prod.mk.injEq] at h
      exact h.1.symm
    have hfind (t' p') : c.find t' p' = (a.find t' p').or
        (if (blankEntry (S := S) t p).isFor t' p' then some (blankEntry t p) else none) := by
      rw [hc]
      unfold find
      rw [List.find?_append]
      congr 1
      simp only [List.find?_cons, List.find?_nil]
      split <;> simp_all
    have hblank : (blankEntry (S := S) t p).isFor t p = true := isFor_iff.mpr ⟨rfl, rfl⟩
    refine ⟨?_, rfl, rfl, ?_, fun t' p' => ?_⟩
    · rw [hfind, hnone, if_pos hblank]
      rfl
    · unfold ramp entryOf
      rw [hnone]
      rfl
    · unfold ramp entryOf
      rw [hfind]
      cases hold : a.find t' p' with
      | some entry => rfl
      | none =>
        by_cases hfor : (blankEntry (S := S) t p).isFor t' p' = true
        · obtain ⟨rfl, rfl⟩ := isFor_iff.mp hfor
          rw [if_pos hfor]
          rfl
        · rw [if_neg hfor]
          rfl

/-! ## What a call can do -/

/-- **What an event can do to the ramps.** It is refused and does nothing; or it is applied, to its own parameter
only: a release takes the owner away, and any other event starts a ramp at the value of its time. -/
lemma apply_ramp (maxParameters : ℕ) (a : CoreAutomationState S) {event : ShowEvent S} {value : S.Single}
    {durationMs : UInt32} (hpayload : event.payload = .automation t p value durationMs) :
    ((a.apply maxParameters event).2.status ≠ .applied ∧
      ∀ t' p', (a.apply maxParameters event).1.ramp t' p' = a.ramp t' p') ∨
    ((a.apply maxParameters event).2.status = .applied ∧ event.eventId ≠ 0 ∧
      (∀ t' p', ¬(t = t' ∧ p = p') → (a.apply maxParameters event).1.ramp t' p' = a.ramp t' p') ∧
      ((event.flags &&& showEventAutomationReleaseOwner ≠ 0 ∧ (a.ramp t p).ownerId = event.ownerId ∧
          (a.apply maxParameters event).1.ramp t p =
            { a.ramp t p with ownerId := 0, lastEventId := event.eventId }) ∨
        (¬event.flags &&& showEventAutomationReleaseOwner ≠ 0 ∧
          ((a.ramp t p).ownerId = 0 ∨ (a.ramp t p).ownerId = event.ownerId) ∧
          (a.apply maxParameters event).1.ramp t p =
            { ownerId := event.ownerId
              lastEventId := event.eventId
              startShowNs := event.showTimeNs
              endShowNs := event.showTimeNs + durationMs.toUInt64 * 1000000
              startValue := if durationMs.toUInt64 * 1000000 = 0 then value else a.valueAt t p event.showTimeNs
              targetValue := value }))) := by
  unfold apply
  rw [hpayload]
  dsimp only
  by_cases hinvalid : event.isValid = false ∨ S.single.finite value = false
  · rw [if_pos hinvalid]
    exact .inl ⟨by simp [refuseInvalid], fun _ _ => rfl⟩
  rw [if_neg hinvalid]
  have hid : event.eventId ≠ 0 := by
    intro hzero
    refine hinvalid (.inl ?_)
    unfold ShowEvent.isValid
    rw [if_pos hzero]
  cases hentry : a.findOrCreate maxParameters t p with
  | none => exact .inl ⟨by simp, fun _ _ => rfl⟩
  | some made =>
    obtain ⟨c, entry⟩ := made
    obtain ⟨hfind, htarget, hparameter, hread, hkept⟩ := findOrCreate_ramp hentry
    have howner : entry.read.ownerId = (a.ramp t p).ownerId := congrArg AutomationRamp.ownerId hread
    dsimp only
    by_cases hrelease : event.flags &&& showEventAutomationReleaseOwner ≠ 0
    · rw [if_pos hrelease]
      unfold applyRelease
      by_cases hrefused : event.ownerId = 0 ∨ entry.read.ownerId = 0 ∨ entry.read.ownerId ≠ event.ownerId
      · rw [if_pos hrefused]
        exact .inl ⟨by simp [refuseOwner], hkept⟩
      · rw [if_neg hrefused]
        simp only [not_or, not_not] at hrefused
        refine .inr ⟨rfl, hid, fun t' p' hother => ?_, .inl ⟨hrelease, howner.symm.trans hrefused.2.2, ?_⟩⟩
        · rw [← hkept t' p']
          exact ramp_publish_other fun hids => hother ⟨htarget.symm.trans hids.1, hparameter.symm.trans hids.2⟩
        · rw [← hread]
          exact ramp_publish hfind ⟨htarget, hparameter⟩
    · rw [if_neg hrelease]
      unfold applyValue
      by_cases hrefused : entry.read.ownerId ≠ 0 ∧ entry.read.ownerId ≠ event.ownerId
      · rw [if_pos hrefused]
        exact .inl ⟨by simp [refuseOwner], hkept⟩
      · rw [if_neg hrefused]
        have hfree : entry.read.ownerId = 0 ∨ entry.read.ownerId = event.ownerId := by
          by_contra hneither
          exact hrefused (not_or.mp hneither)
        have hnext : (if entry.read.ownerId = 0 ∧ event.ownerId ≠ 0 then event.ownerId
            else entry.read.ownerId) = event.ownerId := by
          split_ifs with hnew
          · rfl
          · rcases hfree with hzero | hsame
            · by_contra hne
              exact hnew ⟨hzero, fun hevent => hne (hzero.trans hevent.symm)⟩
            · exact hsame
        have hvalue : automationValueAt { entry.read with ownerId := event.ownerId } event.showTimeNs =
            a.valueAt t p event.showTimeNs := by
          rw [valueAt_eq]
          have hsame : automationValueAt { entry.read with ownerId := event.ownerId } event.showTimeNs =
            automationValueAt entry.read event.showTimeNs := rfl
          exact hsame.trans (automationValueAt_congr rfl rfl hread)
        refine .inr ⟨rfl, hid, fun t' p' hother => ?_, .inr ⟨hrelease, howner ▸ hfree, ?_⟩⟩
        · rw [← hkept t' p']
          exact ramp_publish_other fun hids => hother ⟨htarget.symm.trans hids.1, hparameter.symm.trans hids.2⟩
        · rw [← hvalue]
          refine (ramp_publish hfind ⟨htarget, hparameter⟩).trans ?_
          dsimp only [AutomationParameterSnapshot.ramp]
          rw [hnext]

lemma toNat_rampEnd {showTimeNs : UInt64} {durationMs : UInt32}
    (hend : showTimeNs.toNat + durationMs.toNat * 1000000 < 2 ^ 64) :
    (showTimeNs + durationMs.toUInt64 * 1000000).toNat = showTimeNs.toNat + durationMs.toNat * 1000000 := by
  have hduration : (durationMs.toUInt64 * 1000000).toNat = durationMs.toNat * 1000000 := by
    rw [UInt64.toNat_mul, UInt32.toNat_toUInt64]
    exact Nat.mod_eq_of_lt (by have := durationMs.toNat_lt; simp; omega)
  rw [UInt64.toNat_add, hduration]
  exact Nat.mod_eq_of_lt hend

lemma ramp_of_applied {event : ShowEvent S} {value : S.Single} {durationMs : UInt32}
    (hpayload : event.payload = .automation t p value durationMs)
    (happlied : (a.apply maxParameters event).2.status = .applied)
    (hvalue : ¬event.flags &&& showEventAutomationReleaseOwner ≠ 0) (hpositive : 0 < durationMs.toNat)
    (hend : event.showTimeNs.toNat + durationMs.toNat * 1000000 < 2 ^ 64) :
    (a.apply maxParameters event).1.ramp t p = ⟨event.ownerId, event.eventId, event.showTimeNs,
      event.showTimeNs + durationMs.toUInt64 * 1000000, a.valueAt t p event.showTimeNs, value⟩ := by
  rcases apply_ramp maxParameters a hpayload with
    ⟨hrefused, -⟩ | ⟨-, -, -, ⟨hrelease, -⟩ | ⟨-, -, hramp⟩⟩
  · exact absurd happlied hrefused
  · exact absurd hrelease hvalue
  · have hlong : durationMs.toUInt64 * 1000000 ≠ 0 := by
      intro hzero
      have hstays := toNat_rampEnd hend
      rw [hzero, UInt64.add_zero] at hstays
      omega
    rw [hramp, if_neg hlong]

lemma apply_other {event : ShowEvent S} (h : ∀ t p value durationMs, event.payload ≠ .automation t p value durationMs) :
    (a.apply maxParameters event).1.ramp t p = a.ramp t p := by
  unfold apply
  cases hpayload : event.payload with
  | automation target parameter value durationMs => exact absurd hpayload (h target parameter value durationMs)
  | _ => rfl

/-- **What a seed can do to the ramps.** It changes that of its parameter, if no event was applied to it. -/
lemma seed_ramp {value : S.Single} (h : (a.ramp t' p').lastEventId ≠ 0) :
    (a.seed maxParameters t p value).1.ramp t' p' = a.ramp t' p' := by
  unfold seed
  split
  · rfl
  · cases hentry : a.findOrCreate maxParameters t p with
    | none => rfl
    | some made =>
      obtain ⟨c, entry⟩ := made
      obtain ⟨hfind, htarget, hparameter, hread, hkept⟩ := findOrCreate_ramp hentry
      dsimp only
      split
      · exact hkept t' p'
      · rename_i hfresh
        rw [← hkept t' p']
        refine ramp_publish_other fun hids => h ?_
        obtain rfl := htarget.symm.trans hids.1
        obtain rfl := hparameter.symm.trans hids.2
        rw [← hread]
        exact not_not.mp (not_or.mp hfresh).2

lemma seed_ramp_cases (maxParameters : ℕ) (a : CoreAutomationState S) (t p t' p' : UInt64) (value : S.Single) :
    (a.seed maxParameters t p value).1.ramp t' p' = a.ramp t' p' ∨
    (a.seed maxParameters t p value).1.ramp t' p' =
      { a.ramp t' p' with startShowNs := 0, endShowNs := 0, startValue := value, targetValue := value } := by
  unfold seed
  split
  · exact .inl rfl
  · cases hentry : a.findOrCreate maxParameters t p with
    | none => exact .inl rfl
    | some made =>
      obtain ⟨c, entry⟩ := made
      obtain ⟨hfind, htarget, hparameter, hread, hkept⟩ := findOrCreate_ramp hentry
      dsimp only
      split
      · exact .inl (hkept t' p')
      · by_cases hids : entry.read.targetId = t' ∧ entry.read.parameterId = p'
        · obtain rfl := htarget.symm.trans hids.1
          obtain rfl := hparameter.symm.trans hids.2
          rw [← hread]
          exact .inr (ramp_publish hfind ⟨htarget, hparameter⟩)
        · rw [← hkept t' p']
          exact .inl (ramp_publish_other hids)

/-! ## Runs -/

variable (a) in
/-- A parameter with an owner has had an event, so that no seed changes it. -/
def Marked : Prop := ∀ t p, (a.ramp t p).ownerId ≠ 0 → (a.ramp t p).lastEventId ≠ 0

lemma marked_apply (h : a.Marked) (event : ShowEvent S) : (a.apply maxParameters event).1.Marked := by
  intro t' p' howner
  cases hpayload : event.payload with
  | automation t p value durationMs =>
    rcases apply_ramp maxParameters a hpayload with
      ⟨-, hkept⟩ | ⟨-, hid, hother, hcases⟩
    · rw [hkept] at howner ⊢
      exact h t' p' howner
    · by_cases hsame : t = t' ∧ p = p'
      · obtain ⟨rfl, rfl⟩ := hsame
        rcases hcases with ⟨-, -, hramp⟩ | ⟨-, -, hramp⟩ <;> rw [hramp] <;> exact hid
      · rw [hother t' p' hsame] at howner ⊢
        exact h t' p' howner
  | _ =>
    rw [apply_other (by simp [hpayload])] at howner ⊢
    exact h t' p' howner

lemma marked_call (h : a.Marked) (c : AutomationCall S) : (a.call maxParameters c).Marked := by
  cases c with
  | seed t p value =>
    intro t' p' howner
    change ((a.seed maxParameters t p value).1.ramp t' p').ownerId ≠ 0 at howner
    change ((a.seed maxParameters t p value).1.ramp t' p').lastEventId ≠ 0
    rcases seed_ramp_cases maxParameters a t p t' p' value with hkept | hseeded
    · rw [hkept] at howner ⊢
      exact h t' p' howner
    · rw [hseeded] at howner ⊢
      exact h t' p' howner
  | apply event => exact marked_apply h event

lemma marked_runCalls (h : a.Marked) (calls : List (AutomationCall S)) :
    (a.runCalls maxParameters calls).Marked := by
  induction calls generalizing a with
  | nil => exact h
  | cons c calls ih => exact ih (marked_call h c)

lemma marked_empty : (empty S).Marked := fun _ _ howner => absurd rfl howner

lemma call_owned (hmarked : a.Marked) (howned : (a.ramp t p).ownerId ≠ 0) {c : AutomationCall S}
    (hforeign : ∀ event, c = .apply event → event.ownerId = (a.ramp t p).ownerId →
      event.addresses t p = false) : (a.call maxParameters c).ramp t p = a.ramp t p := by
  cases c with
  | seed t' p' value => exact seed_ramp (hmarked t p howned)
  | apply event =>
    have hforeign := hforeign event rfl
    cases hpayload : event.payload with
    | automation t' p' value durationMs =>
      rcases apply_ramp maxParameters a hpayload with
        ⟨-, hkept⟩ | ⟨-, -, hother, hcases⟩
      · exact hkept t p
      · by_cases hsame : t' = t ∧ p' = p
        · obtain ⟨rfl, rfl⟩ := hsame
          have haddresses : event.addresses t' p' = true := by
            unfold ShowEvent.addresses
            rw [hpayload]
            simp
          have hstranger : event.ownerId ≠ (a.ramp t' p').ownerId := fun hown =>
            absurd (hforeign hown) (by simp [haddresses])
          rcases hcases with ⟨-, hown, -⟩ | ⟨-, hfree | hown, -⟩
          · exact absurd hown.symm hstranger
          · exact absurd hfree howned
          · exact absurd hown.symm hstranger
        · exact hother t p hsame
    | _ => exact apply_other (by simp [hpayload])

/-- **While a parameter has an owner, it is left alone by everybody else.** -/
lemma owned_keeps (hmarked : a.Marked) (howned : (a.ramp t p).ownerId ≠ 0) {later : List (AutomationCall S)}
    (hforeign : ∀ event, .apply event ∈ later → event.ownerId = (a.ramp t p).ownerId →
      event.addresses t p = false) : (a.runCalls maxParameters later).ramp t p = a.ramp t p := by
  induction later generalizing a with
  | nil => rfl
  | cons c later ih =>
    have hstep : (a.call maxParameters c).ramp t p = a.ramp t p :=
      call_owned hmarked howned fun event hevent => hforeign event (hevent ▸ List.mem_cons_self)
    refine (ih (marked_call hmarked c) (hstep ▸ howned) fun event hevent => ?_).trans hstep
    rw [hstep]
    exact hforeign event (List.mem_cons_of_mem _ hevent)

end

/-! ## Ramps between rational numbers -/

section

variable {maxParameters : ℕ} {a c : CoreAutomationState .rationals} {t p : UInt64}

variable (a t p) in
/-- The value of a parameter, where nothing is rounded. -/
def exactValueAt (showTimeNs : UInt64) : ℚ := a.valueAt t p showTimeNs

lemma exactValueAt_of_ramp {owner last start stop : UInt64} {x y : ℚ}
    (h : a.ramp t p = ⟨owner, last, start, stop, x, y⟩) (hlength : start.toNat < stop.toNat) (s : UInt64) :
    a.exactValueAt t p s = if stop.toNat ≤ s.toNat then y
      else if s.toNat ≤ start.toNat then x
      else x + (y - x) * (((s.toNat - start.toNat : ℕ) : ℚ) / ((stop.toNat - start.toNat : ℕ) : ℚ)) := by
  obtain ⟨-, -, hstart, hstop, hfrom, hto⟩ := AutomationRamp.mk.inj h
  have hpositive : ¬stop.toNat ≤ start.toNat := not_le.mpr hlength
  unfold exactValueAt
  rw [valueAt_eq]
  unfold automationValueAt
  rw [if_neg (by simp [AutomationEntry.read]), hstart, hstop, hfrom, hto]
  simp only [UInt64.le_iff_toNat_le, hpositive, false_or]
  by_cases hover : stop.toNat ≤ s.toNat
  · exact (if_pos hover).trans (if_pos hover).symm
  refine (if_neg hover).trans (Eq.trans ?_ (if_neg hover).symm)
  by_cases hbefore : s.toNat ≤ start.toNat
  · exact (if_pos hbefore).trans (if_pos hbefore).symm
  · refine (if_neg hbefore).trans (Eq.trans ?_ (if_neg hbefore).symm)
    have helapsed : (s - start).toNat = s.toNat - start.toNat :=
      UInt64.toNat_sub_of_le _ _ (UInt64.le_iff_toNat_le.mpr (not_le.mp hbefore).le)
    have hduration : (stop - start).toNat = stop.toNat - start.toNat :=
      UInt64.toNat_sub_of_le _ _ (UInt64.le_iff_toNat_le.mpr hlength.le)
    have hlonger : (0 : ℚ) < ((stop - start).toNat : ℤ) := by
      rw [hduration]
      exact_mod_cast Nat.sub_pos_of_lt hlength
    have hdecided : decide ((0 : ℚ) < ((stop - start).toNat : ℤ)) = true := decide_eq_true hlonger
    have hless : NativeFloats.rationals.double.less (NativeFloats.rationals.double.literal 0)
        (NativeFloats.rationals.ofInt (stop - start).toNat) = true := hdecided
    rw [if_pos hless, ← helapsed, ← hduration]
    rfl

lemma exactValueAt_between {owner last start stop : UInt64} {x y : ℚ}
    (h : a.ramp t p = ⟨owner, last, start, stop, x, y⟩) (hlength : start.toNat < stop.toNat) (s : UInt64) :
    min x y ≤ a.exactValueAt t p s ∧ a.exactValueAt t p s ≤ max x y := by
  rw [exactValueAt_of_ramp h hlength]
  split_ifs with hover hbefore
  · exact ⟨min_le_right _ _, le_max_right _ _⟩
  · exact ⟨min_le_left _ _, le_max_left _ _⟩
  · have hduration : (0 : ℚ) < ((stop.toNat - start.toNat : ℕ) : ℚ) := by
      exact_mod_cast Nat.sub_pos_of_lt hlength
    have hfraction : ((s.toNat - start.toNat : ℕ) : ℚ) / ((stop.toNat - start.toNat : ℕ) : ℚ) ≤ 1 := by
      rw [div_le_one hduration]
      exact_mod_cast Nat.sub_le_sub_right (not_le.mp hover).le _
    have hpositive : 0 ≤ ((s.toNat - start.toNat : ℕ) : ℚ) / ((stop.toNat - start.toNat : ℕ) : ℚ) := by positivity
    generalize ((s.toNat - start.toNat : ℕ) : ℚ) / ((stop.toNat - start.toNat : ℕ) : ℚ) = u at hfraction hpositive
    rcases le_total x y with hxy | hyx
    · rw [min_eq_left hxy, max_eq_right hxy]
      constructor <;> nlinarith
    · rw [min_eq_right hyx, max_eq_left hyx]
      constructor <;> nlinarith

lemma exactValueAt_release {event : ShowEvent .rationals} {value : ℚ} {durationMs : UInt32}
    (hpayload : event.payload = .automation t p value durationMs)
    (hrelease : event.flags &&& showEventAutomationReleaseOwner ≠ 0) (t' p' s : UInt64) :
    (a.apply maxParameters event).1.exactValueAt t' p' s = a.exactValueAt t' p' s := by
  unfold exactValueAt
  rcases apply_ramp maxParameters a hpayload with
    ⟨-, hkept⟩ | ⟨-, -, hother, ⟨-, -, hramp⟩ | ⟨hvalue, -⟩⟩
  · exact valueAt_congr (hkept t' p') s
  · by_cases hsame : t = t' ∧ p = p'
    · obtain ⟨rfl, rfl⟩ := hsame
      obtain ⟨-, -, hstart, hstop, hfrom, hto⟩ := AutomationRamp.mk.inj hramp
      rw [valueAt_eq, valueAt_eq]
      unfold automationValueAt
      rw [hstart, hstop, hfrom, hto]
      rfl
    · exact valueAt_congr (hother t' p' hsame) s
  · exact absurd hrelease hvalue

/-- **Ownership and continuity.** After any run a parameter that has an owner keeps it, and has the values it would
have had, while no event of the owner is about the parameter. An applied event that sets a value and takes time
finds the parameter at the value it has then; from there on the values lie between that and the new one, which is
reached at the end. A release changes no value. -/
theorem owned_and_continuous (maxParameters : ℕ) (before : List (AutomationCall .rationals)) (t p : UInt64) :
    let a := runCalls maxParameters (empty .rationals) before
    (a.ownerOf t p ≠ 0 → ∀ later : List (AutomationCall .rationals),
      (∀ event, .apply event ∈ later → event.ownerId = a.ownerOf t p → event.addresses t p = false) →
      (a.runCalls maxParameters later).ownerOf t p = a.ownerOf t p ∧
        ∀ s, (a.runCalls maxParameters later).exactValueAt t p s = a.exactValueAt t p s) ∧
    ∀ (event : ShowEvent .rationals) (value : ℚ) (durationMs : UInt32),
      event.payload = .automation t p value durationMs →
      (a.apply maxParameters event).2.status = .applied →
      (event.flags &&& showEventAutomationReleaseOwner ≠ 0 →
        ∀ t' p' s, (a.apply maxParameters event).1.exactValueAt t' p' s = a.exactValueAt t' p' s) ∧
      (¬event.flags &&& showEventAutomationReleaseOwner ≠ 0 → 0 < durationMs.toNat →
        event.showTimeNs.toNat + durationMs.toNat * 1000000 < 2 ^ 64 →
        (a.apply maxParameters event).1.exactValueAt t p event.showTimeNs = a.exactValueAt t p event.showTimeNs ∧
        ∀ s : UInt64, event.showTimeNs.toNat ≤ s.toNat →
          min (a.exactValueAt t p event.showTimeNs) value ≤ (a.apply maxParameters event).1.exactValueAt t p s ∧
          (a.apply maxParameters event).1.exactValueAt t p s ≤ max (a.exactValueAt t p event.showTimeNs) value ∧
          (event.showTimeNs.toNat + durationMs.toNat * 1000000 ≤ s.toNat →
            (a.apply maxParameters event).1.exactValueAt t p s = value)) := by
  intro a
  constructor
  · intro howned later hforeign
    simp only [ownerOf_eq] at howned hforeign ⊢
    have hkept : (a.runCalls maxParameters later).ramp t p = a.ramp t p :=
      owned_keeps (marked_runCalls marked_empty before) howned hforeign
    exact ⟨congrArg AutomationRamp.ownerId hkept, fun s => valueAt_congr hkept s⟩
  · intro event value durationMs hpayload happlied
    refine ⟨fun hrelease t' p' s => exactValueAt_release hpayload hrelease t' p' s,
      fun hvalue hpositive hend => ?_⟩
    have hramp : (a.apply maxParameters event).1.ramp t p = ⟨event.ownerId, event.eventId, event.showTimeNs,
        event.showTimeNs + durationMs.toUInt64 * 1000000, a.exactValueAt t p event.showTimeNs, value⟩ :=
      ramp_of_applied hpayload happlied hvalue hpositive hend
    have hlength : event.showTimeNs.toNat < (event.showTimeNs + durationMs.toUInt64 * 1000000).toNat := by
      rw [toNat_rampEnd hend]
      omega
    refine ⟨?_, fun s hs => ⟨(exactValueAt_between hramp hlength s).1, (exactValueAt_between hramp hlength s).2,
      fun hover => ?_⟩⟩
    · rw [exactValueAt_of_ramp hramp hlength, if_neg (not_le.mpr hlength), if_pos (le_refl _)]
    · rw [exactValueAt_of_ramp hramp hlength, toNat_rampEnd hend, if_pos hover]

/-- An event for the first parameter of the first target. -/
def rampEvent (eventId ownerId showTimeNs : UInt64) (flags : UInt16) (value : ℚ) (durationMs : UInt32) :
    ShowEvent .rationals :=
  { ShowEvent.blank .rationals with
    eventId
    ownerId
    showTimeNs
    flags
    payload := .automation 1 1 value durationMs }

/-- The parameter was ramped to one within a millisecond by owner five. Owner six cannot take it, and a new ramp of
owner five half way sets out from one half. -/
theorem owned_and_continuous_ramped :
    ((runCalls 256 (empty .rationals) [.apply (rampEvent 1 5 0 0 1 1)]).runCalls 256
      [.apply (rampEvent 2 6 500000 0 0 0)]).ownerOf 1 1 = 5 ∧
    ((runCalls 256 (empty .rationals) [.apply (rampEvent 1 5 0 0 1 1)]).apply 256
      (rampEvent 3 5 500000 0 0 2)).1.exactValueAt 1 1 500000 = 1 / 2 := by
  have howner : (runCalls 256 (empty .rationals) [.apply (rampEvent 1 5 0 0 1 1)]).ownerOf 1 1 = 5 := by
    decide +kernel
  have hhalf : (runCalls 256 (empty .rationals) [.apply (rampEvent 1 5 0 0 1 1)]).exactValueAt 1 1 500000 = 1 / 2 := by
    decide +kernel
  obtain ⟨howned, hcontinuous⟩ := owned_and_continuous 256 [.apply (rampEvent 1 5 0 0 1 1)] 1 1
  constructor
  · refine (howned (by rw [howner]; decide) [.apply (rampEvent 2 6 500000 0 0 0)] fun event hevent hown => ?_).1.trans
      howner
    rw [howner, AutomationCall.apply.inj (List.mem_singleton.mp hevent)] at hown
    exact absurd hown (by decide)
  · refine ((hcontinuous (rampEvent 3 5 500000 0 0 2) 0 2 rfl (by decide +kernel)).2 (by decide) (by decide)
      (by decide)).1.trans hhalf

/-- **A release with a duration and a value does not arrive at that value.** It is applied while the parameter is on
its way to one, and a millisecond later the parameter has not the value of the release. -/
theorem release_sets_nothing :
    ¬∀ (before : List (AutomationCall .rationals)) (event : ShowEvent .rationals) (t p : UInt64) (value : ℚ)
      (durationMs : UInt32), event.payload = .automation t p value durationMs →
      ((runCalls 256 (empty .rationals) before).apply 256 event).2.status = .applied → 0 < durationMs.toNat →
      event.showTimeNs.toNat + durationMs.toNat * 1000000 < 2 ^ 64 →
      ∀ s : UInt64, event.showTimeNs.toNat + durationMs.toNat * 1000000 ≤ s.toNat →
        ((runCalls 256 (empty .rationals) before).apply 256 event).1.exactValueAt t p s = value := by
  intro hclaim
  have harrived := hclaim [.apply (rampEvent 1 5 0 0 1 4)] (rampEvent 2 5 1000000 8 0 1) 1 1 0 1 rfl
    (by decide +kernel) (by decide) (by decide) 2000000 (by decide)
  have hhalf : ((runCalls 256 (empty .rationals) [.apply (rampEvent 1 5 0 0 1 4)]).apply 256
      (rampEvent 2 5 1000000 8 0 1)).1.exactValueAt 1 1 2000000 = 1 / 2 := by
    decide +kernel
  rw [hhalf] at harrived
  norm_num at harrived

end

end CoreAutomationState

end StageForge
