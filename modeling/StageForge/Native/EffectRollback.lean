import StageForge.Native.EffectIsolation

/-!
# What a rollback restores

A rollback is a generation of its own. `prepareRollback` makes it from the active bank: its changes
are the flags that were captured when that bank was prepared, and its latencies are those of that
bank.
-/

namespace StageForge

open TransitionSystem

/-! ## Banks -/

namespace EffectBank

/-- The two differ in what their delays have processed at most. -/
structure SameSettings (a b : EffectBank) : Prop where
  latencies : a.latencies = b.latencies
  changes : a.changes = b.changes
  previous : a.previous = b.previous
  generation : a.generation = b.generation

lemma SameSettings.refl (a : EffectBank) : a.SameSettings a := ⟨rfl, rfl, rfl, rfl⟩

lemma SameSettings.symm {a b : EffectBank} (h : a.SameSettings b) : b.SameSettings a :=
  ⟨h.latencies.symm, h.changes.symm, h.previous.symm, h.generation.symm⟩

lemma SameSettings.trans {a b c : EffectBank} (h : a.SameSettings b) (h' : b.SameSettings c) :
    a.SameSettings c :=
  ⟨h.latencies.trans h'.latencies, h.changes.trans h'.changes, h.previous.trans h'.previous,
    h.generation.trans h'.generation⟩

structure Undoes (bank other : EffectBank) : Prop where
  latencies : bank.latencies = other.latencies
  changes : bank.changes = other.previous

def Distinct (changes : List EffectChange) : Prop :=
  changes.Pairwise fun a b => ¬ (a.output = b.output ∧ a.effectId = b.effectId)

end EffectBank

namespace EffectDelayTransaction

variable {sizes : EffectSizes} {t : EffectDelayTransaction}

lemma acceptsChanges_spec {outputs : ℕ} {chains : ℕ → CoreEffectChain}
    {seen changes : List EffectChange} (h : acceptsChanges outputs chains seen changes = true) :
    EffectBank.Distinct changes ∧
      (∀ a ∈ seen, ∀ b ∈ changes, ¬ (a.output = b.output ∧ a.effectId = b.effectId)) ∧
      ∀ change ∈ changes, change.effectId ∈ (chains change.output).ids := by
  induction changes generalizing seen with
  | nil =>
    exact ⟨List.Pairwise.nil, fun _ _ b hb => absurd hb List.not_mem_nil,
      fun change hchange => absurd hchange List.not_mem_nil⟩
  | cons change changes ih =>
    simp only [acceptsChanges, Bool.and_eq_true] at h
    obtain ⟨⟨⟨-, hfound⟩, hfresh⟩, hrest⟩ := h
    obtain ⟨hdistinct, hseen, hids⟩ := ih hrest
    simp only [Bool.not_eq_true', List.any_eq_false, Bool.and_eq_true, decide_eq_true_eq]
      at hfresh
    refine ⟨List.pairwise_cons.mpr ⟨fun b hb => ?_, hdistinct⟩, fun a ha b hb => ?_,
      fun found hmem => ?_⟩
    · exact hseen change (List.mem_append_right _ (List.mem_singleton_self _)) b hb
    · rcases List.mem_cons.mp hb with rfl | hb
      · exact hfresh a ha
      · exact hseen a (List.mem_append_left _ ha) b hb
    · rcases List.mem_cons.mp hmem with rfl | hmem
      · exact CoreEffectChain.find_isSome_iff.mp hfound
      · exact hids found hmem

/-- What a call of `prepare` that succeeds has done. -/
structure Prepares (t after : EffectDelayTransaction) (generation : UInt64)
    (latencies : List UInt32) (changes : List EffectChange) : Prop where
  nonzero : generation ≠ 0
  newer : t.activeGeneration < generation
  idle : t.preparedGeneration = 0
  distinct : EffectBank.Distinct changes
  found : ∀ change ∈ changes, change.effectId ∈ (t.chains change.output).ids
  chains : after.chains = t.chains
  active : after.active = t.active
  activeGeneration : after.activeGeneration = t.activeGeneration
  preparedGeneration : after.preparedGeneration = generation
  kept : after.banks t.active = t.banks t.active
  bank_latencies : (after.banks !t.active).latencies = latencies
  bank_changes : (after.banks !t.active).changes = changes
  bank_previous : (after.banks !t.active).previous = changes.map t.capture
  bank_generation : (after.banks !t.active).generation = generation

variable (sizes t) in
lemma prepare_cases (generation boundary : UInt64) (latencies : List UInt32)
    (changes : List EffectChange) :
    t.prepare sizes generation boundary latencies changes = t.reject ∨
    (t.prepare sizes generation boundary latencies changes).2 = true ∧
      t.Prepares (t.prepare sizes generation boundary latencies changes).1 generation latencies
        changes := by
  unfold prepare
  split
  · exact .inl rfl
  · rename_i hguard
    simp only [not_or, not_not] at hguard
    split
    · exact .inl rfl
    · split
      · exact .inl rfl
      · rename_i haccepts
        rw [Bool.not_eq_false] at haccepts
        obtain ⟨hdistinct, -, hfound⟩ := acceptsChanges_spec haccepts
        split
        · exact .inl rfl
        · refine .inr ⟨rfl, ?_⟩
          have hother : t.active ≠ !t.active := by simp
          exact
            { nonzero := hguard.1
              newer := UInt64.not_le.mp hguard.2.1
              idle := hguard.2.2.1
              distinct := hdistinct
              found := hfound
              chains := rfl
              active := rfl
              activeGeneration := rfl
              preparedGeneration := rfl
              kept := Function.update_of_ne hother _ _
              bank_latencies := by simp
              bank_changes := by simp
              bank_previous := by simp
              bank_generation := by simp }

variable (sizes t) in
lemma prepareRollback_cases (generation boundary : UInt64) :
    (∃ rejected, t.prepareRollback sizes generation boundary = ({ t with rejected }, false)) ∨
    t.activeBank.generation ≠ 0 ∧ (t.prepareRollback sizes generation boundary).2 = true ∧
      t.Prepares (t.prepareRollback sizes generation boundary).1 generation t.activeBank.latencies
        t.activeBank.previous := by
  unfold prepareRollback
  split
  · exact .inl ⟨_, rfl⟩
  · simp only
    split
    · exact .inl ⟨_, rfl⟩
    · rename_i hbank
      rcases t.prepare_cases sizes generation boundary t.activeBank.latencies
        t.activeBank.previous with hrejected | ⟨hok, hprepares⟩
      · rw [hrejected]
        exact .inl ⟨_, rfl⟩
      · refine .inr ⟨hbank, ?_⟩
        rcases hresult : t.prepare sizes generation boundary t.activeBank.latencies
          t.activeBank.previous with ⟨after, ok⟩
        rw [hresult] at hok hprepares
        simp only at hok
        subst hok
        exact ⟨rfl, { hprepares with }⟩

/-! ## The flags after the changes of an output -/

lemma bypassed_applyChanges_of_notMem {output : ℕ} {effectId : UInt64}
    {changes : List EffectChange} {chain : CoreEffectChain}
    (h : ∀ change ∈ changes, change.output = output → change.effectId ≠ effectId) :
    (applyChanges output changes chain).bypassed effectId = chain.bypassed effectId := by
  induction changes generalizing chain with
  | nil => rfl
  | cons change changes ih =>
    have hrest : ∀ other ∈ changes, other.output = output → other.effectId ≠ effectId :=
      fun other hother => h other (List.mem_cons_of_mem _ hother)
    rw [applyChanges]
    split
    · rename_i houtput
      have hne : effectId ≠ change.effectId :=
        fun heq => h change List.mem_cons_self houtput heq.symm
      rw [ih hrest, CoreEffectChain.bypassed_setBypass, if_neg hne]
    · exact ih hrest

lemma bypassed_applyChanges_of_mem {change : EffectChange} {changes : List EffectChange}
    (chain : CoreEffectChain) (hdistinct : EffectBank.Distinct changes) (hmem : change ∈ changes) :
    (applyChanges change.output changes chain).bypassed change.effectId =
      (chain.bypassed change.effectId).map fun _ => change.bypassed := by
  induction changes generalizing chain with
  | nil => exact absurd hmem List.not_mem_nil
  | cons first changes ih =>
    obtain ⟨hfirst, hrest⟩ := List.pairwise_cons.mp hdistinct
    rw [applyChanges]
    rcases List.mem_cons.mp hmem with rfl | hmem
    · rw [if_pos rfl, bypassed_applyChanges_of_notMem, CoreEffectChain.bypassed_setBypass,
        if_pos rfl]
      intro other hother houtput hid
      exact hfirst other hother ⟨houtput.symm, hid.symm⟩
    · split
      · rename_i houtput
        have hne : change.effectId ≠ first.effectId :=
          fun heq => hfirst change hmem ⟨houtput, heq.symm⟩
        rw [ih _ hrest hmem, CoreEffectChain.bypassed_setBypass, if_neg hne]
      · exact ih chain hrest hmem

end EffectDelayTransaction

/-! ## What a rollback is to restore -/

namespace EffectTakeover

variable (takeover : EffectTakeover)

/-- The output runs with the flags and the latencies from just before the bank took over. -/
def Restored (t : EffectDelayTransaction) (output : ℕ) : Prop :=
  (∀ effectId flag, (takeover.chains output).bypassed effectId = some flag →
    (t.chains output).bypassed effectId = some flag) ∧
  (t.pinned output).map (fun side => (t.banks side).latencies) = some takeover.before.latencies

/-- What the rollback of the bank gives back is what was in force, when the chain of the output is
`chain` before the rollback is applied to it. -/
structure Undone (output : ℕ) (chain : CoreEffectChain) : Prop where
  latencies : takeover.bank.latencies = takeover.before.latencies
  captured : ∀ change ∈ takeover.bank.previous, change.output = output →
    (takeover.chains output).bypassed change.effectId = some change.bypassed
  others : ∀ effectId flag,
    (∀ change ∈ takeover.bank.previous, change.output = output → change.effectId ≠ effectId) →
      (takeover.chains output).bypassed effectId = some flag → chain.bypassed effectId = some flag

end EffectTakeover

/-! ## Runs -/

namespace EffectRun

variable {sizes : EffectSizes} {r : EffectRun}

structure Rollbacks (r : EffectRun) : Prop where
  active_generation : r.transaction.activeBank.generation = r.transaction.activeGeneration
  prepared : r.transaction.preparedGeneration ≠ 0 →
    r.transaction.activeGeneration < r.transaction.preparedGeneration ∧
    (r.transaction.banks !r.transaction.active).generation = r.transaction.preparedGeneration
  distinct : ∀ side, EffectBank.Distinct (r.transaction.banks side).changes
  found : ∀ side, ∀ change ∈ (r.transaction.banks side).previous,
    change.effectId ∈ (r.transaction.chains change.output).ids
  recorded : r.takeover = none → r.transaction.activeBank.generation = 0
  takeover : ∀ takeover, r.takeover = some takeover →
    takeover.bank.SameSettings r.transaction.activeBank
  takeover_ids : ∀ takeover, r.takeover = some takeover → ∀ output,
    (takeover.chains output).ids ⊆ (r.transaction.chains output).ids
  takeover_found : ∀ takeover, r.takeover = some takeover →
    ∀ change ∈ takeover.bank.previous, change.effectId ∈ (takeover.chains change.output).ids
  /-- A rollback that is neither prepared nor active any more is of an older generation. -/
  old : ∀ p ∈ r.rollbacks, p.1 ≤ r.transaction.activeGeneration ∨
    p.1 = r.transaction.preparedGeneration
  nonzero : ∀ p ∈ r.rollbacks, p.1 ≠ 0
  active_undoes : ∀ p ∈ r.rollbacks, p.1 = r.transaction.activeGeneration →
    r.transaction.activeBank.Undoes p.2.bank
  prepared_undoes : ∀ p ∈ r.rollbacks, p.1 = r.transaction.preparedGeneration →
    (r.transaction.banks !r.transaction.active).Undoes p.2.bank
  rollback_ids : ∀ p ∈ r.rollbacks, ∀ output,
    (p.2.chains output).ids ⊆ (r.transaction.chains output).ids
  rollback_found : ∀ p ∈ r.rollbacks, ∀ change ∈ p.2.bank.previous,
    change.effectId ∈ (p.2.chains change.output).ids

namespace Rollbacks

lemma empty : Rollbacks EffectRun.empty where
  active_generation := rfl
  prepared h := absurd rfl h
  distinct _ := List.Pairwise.nil
  found _ _ h := absurd h List.not_mem_nil
  recorded _ := rfl
  takeover _ h := absurd h (by simp [EffectRun.empty])
  takeover_ids _ h := absurd h (by simp [EffectRun.empty])
  takeover_found _ h := absurd h (by simp [EffectRun.empty])
  old _ h := absurd h List.not_mem_nil
  nonzero _ h := absurd h List.not_mem_nil
  active_undoes _ h := absurd h List.not_mem_nil
  prepared_undoes _ h := absurd h List.not_mem_nil
  rollback_ids _ h := absurd h List.not_mem_nil
  rollback_found _ h := absurd h List.not_mem_nil

lemma of_settings {after : EffectRun} (h : r.Rollbacks)
    (hbanks : ∀ side, (after.transaction.banks side).SameSettings (r.transaction.banks side))
    (hids : ∀ output, (r.transaction.chains output).ids ⊆ (after.transaction.chains output).ids)
    (hactive : after.transaction.active = r.transaction.active)
    (hgeneration : after.transaction.activeGeneration = r.transaction.activeGeneration)
    (hprepared : after.transaction.preparedGeneration = r.transaction.preparedGeneration)
    (htakeover : after.takeover = r.takeover) (hrollbacks : after.rollbacks = r.rollbacks) :
    after.Rollbacks where
  active_generation := by
    rw [hgeneration, ← h.active_generation, EffectDelayTransaction.activeBank, hactive]
    exact (hbanks r.transaction.active).generation
  prepared := by
    rw [hgeneration, hprepared, hactive, (hbanks !r.transaction.active).generation]
    exact h.prepared
  distinct side := by
    rw [(hbanks side).changes]
    exact h.distinct side
  found side change hchange := by
    rw [(hbanks side).previous] at hchange
    exact hids change.output (h.found side change hchange)
  recorded hnone := by
    rw [htakeover] at hnone
    rw [EffectDelayTransaction.activeBank, hactive]
    exact (hbanks r.transaction.active).generation.trans (h.recorded hnone)
  takeover takeover htake := by
    rw [htakeover] at htake
    rw [EffectDelayTransaction.activeBank, hactive]
    exact (h.takeover takeover htake).trans (hbanks r.transaction.active).symm
  takeover_ids takeover htake output := by
    rw [htakeover] at htake
    exact fun effectId hmem => hids output (h.takeover_ids takeover htake output hmem)
  takeover_found := by
    rw [htakeover]
    exact h.takeover_found
  old := by
    rw [hrollbacks, hgeneration, hprepared]
    exact h.old
  nonzero := by
    rw [hrollbacks]
    exact h.nonzero
  active_undoes p hp heq := by
    rw [hrollbacks] at hp
    rw [hgeneration] at heq
    have hundoes := h.active_undoes p hp heq
    have hsame := hbanks r.transaction.active
    rw [EffectDelayTransaction.activeBank, hactive]
    exact ⟨hsame.latencies.trans hundoes.latencies, hsame.changes.trans hundoes.changes⟩
  prepared_undoes p hp heq := by
    rw [hrollbacks] at hp
    rw [hprepared] at heq
    have hundoes := h.prepared_undoes p hp heq
    have hsame := hbanks !r.transaction.active
    rw [hactive]
    exact ⟨hsame.latencies.trans hundoes.latencies, hsame.changes.trans hundoes.changes⟩
  rollback_ids p hp output := by
    rw [hrollbacks] at hp
    exact fun effectId hmem => hids output (h.rollback_ids p hp output hmem)
  rollback_found := by
    rw [hrollbacks]
    exact h.rollback_found

lemma withChain (h : r.Rollbacks) (output : ℕ) (chain : CoreEffectChain)
    (hids : (r.transaction.chains output).ids ⊆ chain.ids) :
    (r.withChain output chain).Rollbacks := by
  refine h.of_settings (fun _ => .refl _) (fun other => ?_) rfl rfl rfl rfl rfl
  by_cases hsame : other = output
  · subst hsame
    simpa only [EffectRun.withChain, Function.update_self] using hids
  · simp only [EffectRun.withChain, Function.update_of_ne hsame]
    exact List.Subset.refl _

lemma prepares {after : EffectDelayTransaction} (h : r.Rollbacks) {generation : UInt64}
    {latencies : List UInt32} {changes : List EffectChange}
    (hprepares : r.transaction.Prepares after generation latencies changes)
    (extra : List (UInt64 × EffectTakeover))
    (hextra : ∀ p ∈ extra, p.1 = generation ∧ r.takeover = some p.2 ∧
      latencies = r.transaction.activeBank.latencies ∧
      changes = r.transaction.activeBank.previous) :
    ({ r with transaction := after, rollbacks := extra ++ r.rollbacks } : EffectRun).Rollbacks := by
  -- no older rollback has the generation that is prepared now
  have hfresh : ∀ p ∈ r.rollbacks, p.1 < generation := by
    intro p hp
    rcases h.old p hp with hle | heq
    · exact UInt64.lt_of_le_of_lt hle hprepares.newer
    · exact absurd (heq.trans hprepares.idle) (h.nonzero p hp)
  have hbank : after.activeBank = r.transaction.activeBank := by
    rw [EffectDelayTransaction.activeBank, hprepares.active]
    exact hprepares.kept
  have hsides : ∀ side, side = r.transaction.active ∨ side = !r.transaction.active := by
    intro side
    cases side <;> cases r.transaction.active <;> simp
  refine
    { active_generation := ?_
      prepared := ?_
      distinct := ?_
      found := ?_
      recorded := ?_
      takeover := ?_
      takeover_ids := ?_
      takeover_found := h.takeover_found
      old := ?_
      nonzero := ?_
      active_undoes := ?_
      prepared_undoes := ?_
      rollback_ids := ?_
      rollback_found := ?_ }
  · simp only [hbank, hprepares.activeGeneration]
    exact h.active_generation
  · intro _
    simp only [hprepares.activeGeneration, hprepares.preparedGeneration, hprepares.active]
    exact ⟨hprepares.newer, hprepares.bank_generation⟩
  · intro side
    rcases hsides side with rfl | rfl
    · simp only [hprepares.kept]
      exact h.distinct _
    · simp only [hprepares.bank_changes]
      exact hprepares.distinct
  · intro side change hchange
    simp only [hprepares.chains]
    rcases hsides side with rfl | rfl
    · simp only [hprepares.kept] at hchange
      exact h.found _ change hchange
    · simp only [hprepares.bank_previous] at hchange
      obtain ⟨original, horiginal, rfl⟩ := List.mem_map.mp hchange
      exact hprepares.found original horiginal
  · intro hnone
    simp only [hbank]
    exact h.recorded hnone
  · intro takeover htake
    simp only [hbank]
    exact h.takeover takeover htake
  · intro takeover htake output
    simp only [hprepares.chains]
    exact h.takeover_ids takeover htake output
  · intro p hp
    simp only [hprepares.activeGeneration, hprepares.preparedGeneration]
    rcases List.mem_append.mp hp with hnew | hold
    · exact .inr (hextra p hnew).1
    · exact (h.old p hold).imp_right fun hprepared => absurd (hprepared.trans hprepares.idle)
        (h.nonzero p hold)
  · intro p hp
    rcases List.mem_append.mp hp with hnew | hold
    · rw [(hextra p hnew).1]
      exact hprepares.nonzero
    · exact h.nonzero p hold
  · intro p hp heq
    simp only [hprepares.activeGeneration] at heq
    simp only [hbank]
    rcases List.mem_append.mp hp with hnew | hold
    · rw [(hextra p hnew).1] at heq
      exact absurd hprepares.newer (by rw [heq]; exact UInt64.lt_irrefl _)
    · exact h.active_undoes p hold heq
  · intro p hp heq
    simp only [hprepares.preparedGeneration] at heq
    simp only [hprepares.active]
    rcases List.mem_append.mp hp with hnew | hold
    · obtain ⟨-, htake, hlatencies, hchanges⟩ := hextra p hnew
      have hsettings := h.takeover p.2 htake
      exact ⟨by rw [hprepares.bank_latencies, hlatencies, hsettings.latencies],
        by rw [hprepares.bank_changes, hchanges, hsettings.previous]⟩
    · exact absurd (hfresh p hold) (by rw [heq]; exact UInt64.lt_irrefl _)
  · intro p hp output
    simp only [hprepares.chains]
    rcases List.mem_append.mp hp with hnew | hold
    · exact h.takeover_ids p.2 (hextra p hnew).2.1 output
    · exact h.rollback_ids p hold output
  · intro p hp
    rcases List.mem_append.mp hp with hnew | hold
    · exact h.takeover_found p.2 (hextra p hnew).2.1
    · exact h.rollback_found p hold

lemma activated (h : r.Rollbacks) (showNs : UInt64) : (r.activated showNs).Rollbacks := by
  unfold EffectRun.activated EffectDelayTransaction.activateIfDue
  split
  · rename_i t hactivates
    split at hactivates
    · exact absurd (congrArg Prod.snd hactivates) (by simp)
    · rename_i hguard
      simp only [not_or] at hguard
      obtain ⟨hnewer, hbank⟩ := h.prepared hguard.1
      have ht := (congrArg Prod.fst hactivates).symm
      simp only at ht
      subst ht
      refine
        { active_generation := hbank
          prepared := fun hne => absurd rfl hne
          distinct := h.distinct
          found := h.found
          recorded := fun hnone => absurd hnone (by simp)
          takeover := ?_
          takeover_ids := ?_
          takeover_found := ?_
          old := ?_
          nonzero := h.nonzero
          active_undoes := ?_
          prepared_undoes := ?_
          rollback_ids := h.rollback_ids
          rollback_found := h.rollback_found }
      · intro takeover htake
        cases htake
        exact .refl _
      · intro takeover htake output
        cases htake
        exact List.Subset.refl _
      · intro takeover htake
        cases htake
        exact h.found (!r.transaction.active)
      · intro p hp
        rcases h.old p hp with hle | heq
        · exact .inl (UInt64.le_of_lt (UInt64.lt_of_le_of_lt hle hnewer))
        · exact .inl (UInt64.le_of_eq heq)
      · exact h.prepared_undoes
      · intro p hp heq
        exact absurd heq (h.nonzero p hp)
  · rename_i t hactivates
    split at hactivates
    · obtain rfl := (Prod.mk.inj hactivates).1
      exact h
    · exact absurd (congrArg Prod.snd hactivates) (by simp)

lemma pin (h : r.Rollbacks) (output : ℕ) (applied : List ℕ) (notes : List EffectNote) :
    ({ r with transaction := r.transaction.pin output, applied, notes } : EffectRun).Rollbacks := by
  refine h.of_settings (fun _ => .refl _) (fun other => ?_) rfl rfl rfl rfl rfl
  simp only [EffectDelayTransaction.pin]
  by_cases hsame : other = output
  · subst hsame
    rw [Function.update_self, EffectDelayTransaction.applyChanges_ids]
    exact List.Subset.refl _
  · rw [Function.update_of_ne hsame]
    exact List.Subset.refl _

lemma processed (h : r.Rollbacks) (output : ℕ) (outcome : UInt64 → Bool)
    (channelCount frames : UInt32) (notes : List EffectNote) :
    ({ r with
      transaction := (r.transaction.processChain output outcome channelCount frames).1
      notes } : EffectRun).Rollbacks := by
  refine h.of_settings (fun _ => .refl _) (fun other => ?_) rfl rfl rfl rfl rfl
  simp only [EffectDelayTransaction.processChain]
  by_cases hsame : other = output
  · subst hsame
    rw [Function.update_self, CoreEffectChain.process_ids]
    exact List.Subset.refl _
  · rw [Function.update_of_ne hsame]
    exact List.Subset.refl _

lemma ended (h : r.Rollbacks) (output : ℕ) (frames : UInt32) :
    ({ r with transaction := (r.transaction.end sizes output frames).1 } : EffectRun).Rollbacks := by
  unfold EffectDelayTransaction.end
  split
  · exact h
  · split
    · exact h
    · rename_i selected _
      refine h.of_settings (fun side => ?_) (fun _ => List.Subset.refl _) rfl rfl rfl rfl rfl
      simp only
      by_cases hsame : side = selected
      · subst hsame
        rw [Function.update_self]
        exact ⟨rfl, rfl, rfl, rfl⟩
      · rw [Function.update_of_ne hsame]
        exact .refl _

/-- **One call.** -/
theorem of_step (h : r.Rollbacks) {action : EffectAction} {after : EffectRun}
    (hstep : step sizes r action = some after) : after.Rollbacks := by
  cases action with
  | registerEffect output descriptor hasCallbacks =>
    obtain ⟨-, hstep⟩ := Option.ite_none_right_eq_some.mp hstep
    rw [← Option.some.inj hstep]
    refine h.withChain output _ ?_
    rcases (r.transaction.chains output).registerEffect_slots sizes.effectsPerOutput descriptor
      hasCallbacks with hsame | ⟨-, slot, -, hslots⟩
    · rw [hsame]
      exact List.Subset.refl _
    · simp only [CoreEffectChain.ids, hslots, List.map_append]
      exact List.subset_append_left _ _
  | activateAll output positiveRate maxFrames channels accepts =>
    obtain ⟨-, hstep⟩ := Option.ite_none_right_eq_some.mp hstep
    rw [← Option.some.inj hstep]
    refine h.withChain output _ ?_
    rw [CoreEffectChain.activateAll_ids]
    exact List.Subset.refl _
  | deactivateAll output =>
    obtain ⟨-, hstep⟩ := Option.ite_none_right_eq_some.mp hstep
    rw [← Option.some.inj hstep]
    refine h.withChain output _ ?_
    rw [CoreEffectChain.deactivateAll_ids]
    exact List.Subset.refl _
  | setBypass output effectId bypass =>
    obtain ⟨-, hstep⟩ := Option.ite_none_right_eq_some.mp hstep
    rw [← Option.some.inj hstep]
    have hchain := h.withChain output ((r.transaction.chains output).setBypass effectId bypass).1
      (by rw [CoreEffectChain.setBypass_ids]; exact List.Subset.refl _)
    exact hchain.of_settings (fun _ => .refl _) (fun _ => List.Subset.refl _) rfl rfl rfl rfl rfl
  | prepare generation boundary latencies changes =>
    rw [← Option.some.inj hstep]
    rcases r.transaction.prepare_cases sizes generation boundary latencies changes with
      hrejected | ⟨-, hprepares⟩
    · rw [hrejected]
      exact h.of_settings (fun _ => .refl _) (fun _ => List.Subset.refl _) rfl rfl rfl rfl rfl
    · exact h.prepares hprepares [] fun p hp => absurd hp List.not_mem_nil
  | prepareRollback generation boundary =>
    rcases r.transaction.prepareRollback_cases sizes generation boundary with
      ⟨rejected, hrejected⟩ | ⟨-, hok, hprepares⟩
    · simp only [step, hrejected] at hstep
      rw [← Option.some.inj hstep]
      exact h.of_settings (fun _ => .refl _) (fun _ => List.Subset.refl _) rfl rfl rfl rfl rfl
    · simp only [step] at hstep
      split at hstep
      · rename_i t takeover hresult htakeover
        rw [← Option.some.inj hstep]
        rw [hresult] at hprepares
        refine h.prepares hprepares [(generation, takeover)] fun p hp => ?_
        obtain rfl := List.mem_singleton.mp hp
        exact ⟨rfl, htakeover, rfl, rfl⟩
      · rename_i t ok takeover hresult _
        rw [← Option.some.inj hstep]
        rw [hresult] at hprepares
        exact h.prepares hprepares [] fun p hp => absurd hp List.not_mem_nil
  | activate showNs =>
    rw [← Option.some.inj hstep]
    exact h.activated showNs
  | begin output showNs =>
    simp only [step] at hstep
    unfold EffectDelayTransaction.begin at hstep
    split at hstep
    · rename_i t hrefused
      split at hrefused
      · obtain rfl := (Prod.mk.inj hrefused).1
        rw [← Option.some.inj hstep]
        exact h
      · exact absurd (congrArg Prod.snd hrefused) (by simp)
    · rename_i t hbegun
      split at hbegun
      · exact absurd (congrArg Prod.snd hbegun) (by simp)
      · obtain rfl := (Prod.mk.inj hbegun).1
        rw [← Option.some.inj hstep, ← activated_transaction]
        exact (h.activated showNs).pin output _ _
  | processChain output outcome channelCount frames =>
    obtain ⟨-, hstep⟩ := Option.ite_none_right_eq_some.mp hstep
    rw [← Option.some.inj hstep]
    exact h.processed output outcome channelCount frames _
  | «end» output frames =>
    rw [← Option.some.inj hstep]
    exact h.ended output frames

end Rollbacks

lemma activated_rollbacks (showNs : UInt64) : (r.activated showNs).rollbacks = r.rollbacks := by
  unfold activated
  split <;> rfl

lemma activated_chains (showNs : UInt64) :
    (r.activated showNs).transaction.chains = r.transaction.chains := by
  rw [activated_transaction, EffectDelayTransaction.activateIfDue_chains]

lemma begin_transaction {output : ℕ} {showNs : UInt64} {after : EffectRun}
    (hstep : step sizes r (.begin output showNs) = some after)
    (hbegun : (r.transaction.begin sizes output showNs).2 = true) :
    after.transaction = (r.activated showNs).transaction.pin output := by
  have hbegin : r.transaction.begin sizes output showNs =
      ((r.transaction.activateIfDue showNs).1.pin output, true) := by
    unfold EffectDelayTransaction.begin at hbegun ⊢
    split
    · rename_i hrefused
      rw [if_pos hrefused] at hbegun
      cases hbegun
    · rfl
  simp only [step, hbegin, Option.some.injEq] at hstep
  rw [← hstep, activated_transaction]

/-- **When a rollback restores**: an output that begins under the rollback of a bank runs with the
flags and latencies from just before that bank took over, if and only if the bank is `Undone`. -/
theorem rollback_restores_iff {actions : List EffectAction} {generation : UInt64}
    {takeover : EffectTakeover} {output : ℕ} {showNs : UInt64} {after : EffectRun}
    (h : Reaches (step sizes) Always EffectRun.empty actions r)
    (hrollback : (generation, takeover) ∈ r.rollbacks)
    (hstep : step sizes r (.begin output showNs) = some after)
    (hbegun : (r.transaction.begin sizes output showNs).2 = true)
    (hactive : after.transaction.activeGeneration = generation) :
    takeover.Restored after.transaction output ↔
      takeover.Undone output (r.transaction.chains output) := by
  have hbefore : r.Rollbacks := h.invariant Rollbacks.empty fun _ _ _ hr _ hstep => hr.of_step hstep
  have hr := hbefore.activated showNs
  rw [begin_transaction hstep hbegun] at hactive ⊢
  have hmem : (generation, takeover) ∈ (r.activated showNs).rollbacks := by
    rw [activated_rollbacks]
    exact hrollback
  have hundoes := hr.active_undoes _ hmem hactive.symm
  have hdistinct := hr.distinct (r.activated showNs).transaction.active
  have hids := hr.rollback_ids _ hmem output
  have hfound := hr.rollback_found _ hmem
  rw [activated_chains] at hids
  change EffectBank.Distinct (r.activated showNs).transaction.activeBank.changes at hdistinct
  rw [hundoes.changes] at hdistinct
  have hchain : ((r.activated showNs).transaction.pin output).chains output =
      EffectDelayTransaction.applyChanges output takeover.bank.previous
        (r.transaction.chains output) := by
    simp only [EffectDelayTransaction.pin, Function.update_self, hundoes.changes, activated_chains]
  have hlatencies : (((r.activated showNs).transaction.pin output).pinned output).map (fun side =>
      (((r.activated showNs).transaction.pin output).banks side).latencies) =
        some takeover.bank.latencies := by
    simp only [EffectDelayTransaction.pin, Function.update_self, Option.map_some]
    exact congrArg some hundoes.latencies
  -- what the rollback makes of the flag of an effect it names
  have hnamed : ∀ change ∈ takeover.bank.previous, change.output = output →
      (EffectDelayTransaction.applyChanges output takeover.bank.previous
        (r.transaction.chains output)).bypassed change.effectId = some change.bypassed := by
    intro change hchange houtput
    have hknown : change.effectId ∈ (r.transaction.chains output).ids := by
      have hthere := hfound change hchange
      rw [houtput] at hthere
      exact hids hthere
    obtain ⟨flag, hflag⟩ := Option.isSome_iff_exists.mp
      (CoreEffectChain.bypassed_isSome_iff.mpr hknown)
    have happly := EffectDelayTransaction.bypassed_applyChanges_of_mem
      (r.transaction.chains output) hdistinct hchange
    rw [houtput, hflag] at happly
    exact happly
  constructor
  · rintro ⟨hflags, hdelays⟩
    rw [hlatencies, Option.some.injEq] at hdelays
    refine ⟨hdelays, fun change hchange houtput => ?_, fun effectId flag hother hflag => ?_⟩
    · have hthere := hfound change hchange
      rw [houtput] at hthere
      obtain ⟨flag, hflag⟩ := Option.isSome_iff_exists.mp
        (CoreEffectChain.bypassed_isSome_iff.mpr hthere)
      have hnow := hflags change.effectId flag hflag
      rw [hchain, hnamed change hchange houtput] at hnow
      rw [hflag, hnow]
    · have hnow := hflags effectId flag hflag
      rw [hchain, EffectDelayTransaction.bypassed_applyChanges_of_notMem hother] at hnow
      exact hnow
  · intro hundone
    refine ⟨fun effectId flag hflag => ?_, by rw [hlatencies, hundone.latencies]⟩
    rw [hchain]
    by_cases hnames : ∃ change ∈ takeover.bank.previous,
        change.output = output ∧ change.effectId = effectId
    · obtain ⟨change, hchange, houtput, rfl⟩ := hnames
      rw [hnamed change hchange houtput, ← hundone.captured change hchange houtput, hflag]
    · have hother : ∀ change ∈ takeover.bank.previous, change.output = output →
          change.effectId ≠ effectId :=
        fun change hchange houtput hid => hnames ⟨change, hchange, houtput, hid⟩
      rw [EffectDelayTransaction.bypassed_applyChanges_of_notMem hother]
      exact hundone.others effectId flag hother hflag

/-! ## A rollback that restores, and one that does not -/

/-- One effect is bypassed by a second bank with these latencies, and the bank is rolled back. -/
def rolledBack (latencies : List UInt32) : List EffectAction :=
  oneEffect ++ [.prepare 1 100 [0, 0] [], .activate 100, .prepare 2 200 latencies [⟨0, 41, true⟩],
    .activate 200] ++ block 201 true ++ [.prepareRollback 3 300]

/-- The rollback is on the record, with the latencies from before, and the first output begins
under it. -/
def showsRollback (latencies : List UInt32) (r : EffectRun) : Bool :=
  (r.rollbacks.any fun p => decide (p.1 = 3) && decide (p.2.before.latencies = [0, 0]) &&
    decide (p.2.bank.latencies = latencies) && decide (p.2.bank.previous = [⟨0, 41, false⟩]) &&
    decide ((p.2.chains 0).ids = [41]) && decide ((p.2.chains 0).bypassed 41 = some false)) &&
  (r.transaction.begin ⟨2, 2, 16⟩ 0 300).2 &&
  (step ⟨2, 2, 16⟩ r (.begin 0 300)).any fun after =>
    decide (after.transaction.activeGeneration = 3) &&
      decide ((after.transaction.pinned 0).map (fun side =>
        (after.transaction.banks side).latencies) = some latencies)

theorem rollback_restores_iff_sameLatencies :
    ∃ r after takeover, Reaches (step ⟨2, 2, 16⟩) Always EffectRun.empty (rolledBack [0, 0]) r ∧
      (3, takeover) ∈ r.rollbacks ∧ step ⟨2, 2, 16⟩ r (.begin 0 300) = some after ∧
      takeover.Restored after.transaction 0 := by
  have hrun : (run (step ⟨2, 2, 16⟩) EffectRun.empty (rolledBack [0, 0])).any
      (fun r => showsRollback [0, 0] r = true) = true := by decide +kernel
  obtain ⟨r, hr, hshows⟩ := reaches_always_of_any hrun
  simp only [showsRollback, Bool.and_eq_true, List.any_eq_true, Option.any_eq_true,
    decide_eq_true_eq] at hshows
  obtain ⟨⟨⟨⟨generation, takeover⟩, hmem, ⟨⟨⟨⟨rfl, hbefore⟩, hlatencies⟩, hprevious⟩, hids⟩, hflag⟩,
    hbegun⟩, after, hstep, hactive, -⟩ := hshows
  refine ⟨r, after, takeover, hr, hmem, hstep,
    (rollback_restores_iff hr hmem hstep hbegun hactive).mpr ⟨?_, ?_, ?_⟩⟩
  · rw [hlatencies, hbefore]
  · intro change hchange _
    simp only at hprevious hflag
    rw [hprevious] at hchange
    obtain rfl := List.mem_singleton.mp hchange
    exact hflag
  · intro effectId flag hother hknown
    have hnamed : effectId = 41 := by
      have hmem := CoreEffectChain.mem_ids_of_bypassed hknown
      simp only at hids
      rw [hids] at hmem
      exact List.mem_singleton.mp hmem
    simp only at hprevious
    exact absurd hnamed.symm (hother ⟨0, 41, false⟩ (by rw [hprevious]; simp) rfl)

/-- **A rollback that keeps the delays it should undo.** The second bank delays the second output by
three frames more than the first did, and after its rollback the delay is still there. -/
theorem rollback_keeps_latencies :
    ∃ r after takeover, Reaches (step ⟨2, 2, 16⟩) Always EffectRun.empty (rolledBack [3, 0]) r ∧
      (3, takeover) ∈ r.rollbacks ∧ step ⟨2, 2, 16⟩ r (.begin 0 300) = some after ∧
      (r.transaction.begin ⟨2, 2, 16⟩ 0 300).2 = true ∧
      after.transaction.activeGeneration = 3 ∧ ¬ takeover.Restored after.transaction 0 := by
  have hrun : (run (step ⟨2, 2, 16⟩) EffectRun.empty (rolledBack [3, 0])).any
      (fun r => showsRollback [3, 0] r = true) = true := by decide +kernel
  obtain ⟨r, hr, hshows⟩ := reaches_always_of_any hrun
  simp only [showsRollback, Bool.and_eq_true, List.any_eq_true, Option.any_eq_true,
    decide_eq_true_eq] at hshows
  obtain ⟨⟨⟨⟨generation, takeover⟩, hmem, ⟨⟨⟨⟨rfl, hbefore⟩, -⟩, -⟩, -⟩, -⟩, hbegun⟩, after, hstep,
    hactive, hlatencies⟩ := hshows
  refine ⟨r, after, takeover, hr, hmem, hstep, hbegun, hactive, ?_⟩
  rintro ⟨-, hrestored⟩
  simp only at hbefore
  rw [hlatencies, hbefore] at hrestored
  exact absurd hrestored (by decide)

end EffectRun

end StageForge
