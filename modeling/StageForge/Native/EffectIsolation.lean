import StageForge.Native.EffectTransaction

/-!
# A failed effect stays out of the signal path

The chain bypasses an effect whose callback fails. It is let in again by `set_bypass` from the
control thread, or by a bank that says so when it is new to the output (`EffectNote.enabled`). Does
nothing else let it in?
-/

namespace StageForge

open TransitionSystem

/-! ## What the notes say -/

namespace EffectNote

/-- The last thing noted of an effect is that it failed. -/
def failed (output : ℕ) (effectId : UInt64) : List EffectNote → Bool
  | [] => false
  | .called other id succeeded :: notes =>
    if other = output ∧ id = effectId then !succeeded else failed output effectId notes
  | .enabled other id :: notes =>
    if other = output ∧ id = effectId then false else failed output effectId notes

/-- Before an effect that failed is called again, it is let in. -/
def StaysOut (notes : List EffectNote) : Prop :=
  ∀ (output : ℕ) (effectId : UInt64) (succeeded : Bool) (later between earlier : List EffectNote),
    notes = later ++ .called output effectId succeeded ::
      (between ++ .called output effectId false :: earlier) →
    .enabled output effectId ∈ between

variable {notes : List EffectNote}

lemma StaysOut.tail {note : EffectNote} (h : StaysOut (note :: notes)) : StaysOut notes := by
  intro output effectId succeeded later between earlier hnotes
  exact h output effectId succeeded (note :: later) between earlier (by rw [hnotes]; rfl)

variable {output : ℕ} {effectId : UInt64}

lemma StaysOut.enabled_of_not_failed {between earlier : List EffectNote}
    (h : StaysOut (between ++ .called output effectId false :: earlier))
    (hfailed : failed output effectId (between ++ .called output effectId false :: earlier) = false) :
    .enabled output effectId ∈ between := by
  induction between with
  | nil => simp [failed] at hfailed
  | cons note between ih =>
    rw [List.cons_append] at h hfailed
    cases note with
    | enabled other id =>
      by_cases hsame : other = output ∧ id = effectId
      · rw [hsame.1, hsame.2]
        exact List.mem_cons_self
      · rw [failed, if_neg hsame] at hfailed
        exact List.mem_cons_of_mem _ (ih h.tail hfailed)
    | called other id succeeded =>
      by_cases hsame : other = output ∧ id = effectId
      · obtain ⟨rfl, rfl⟩ := hsame
        exact List.mem_cons_of_mem _ (h other id succeeded [] between earlier rfl)
      · rw [failed, if_neg hsame] at hfailed
        exact List.mem_cons_of_mem _ (ih h.tail hfailed)

lemma StaysOut.cons_enabled
    (h : StaysOut notes) : StaysOut (.enabled output effectId :: notes) := by
  intro other id succeeded later between earlier hnotes
  cases later with
  | nil => exact absurd hnotes (by simp)
  | cons note later =>
    rw [List.cons_append, List.cons.injEq] at hnotes
    exact h other id succeeded later between earlier hnotes.2

lemma StaysOut.cons_called {succeeded : Bool} (h : StaysOut notes)
    (hfailed : failed output effectId notes = false) :
    StaysOut (.called output effectId succeeded :: notes) := by
  intro other id result later between earlier hnotes
  cases later with
  | nil =>
    rw [List.nil_append, List.cons.injEq, called.injEq] at hnotes
    obtain ⟨⟨rfl, rfl, -⟩, rfl⟩ := hnotes
    exact h.enabled_of_not_failed hfailed
  | cons note later =>
    rw [List.cons_append, List.cons.injEq] at hnotes
    exact h other id result later between earlier hnotes.2

lemma failed_lets {output other : ℕ} {bank : EffectBank}

    (h : failed other effectId (EffectRun.lets output bank ++ notes) = true) :
    failed other effectId notes = true ∧ (other = output → ∀ change ∈ bank.changes,
      change.output = output → change.effectId = effectId → change.bypassed = true) := by
  unfold EffectRun.lets at h
  generalize bank.changes = changes at h ⊢
  induction changes with
  | nil => exact ⟨h, fun _ _ hmem => absurd hmem List.not_mem_nil⟩
  | cons change changes ih =>
    rw [List.filter_cons] at h
    split at h
    · rename_i hlet
      rw [List.map_cons, List.cons_append, failed] at h
      split at h
      · exact absurd h (by decide)
      · rename_i hother
        obtain ⟨hnotes, hkept⟩ := ih h
        refine ⟨hnotes, fun hsame found hfound houtput hid => ?_⟩
        rcases List.mem_cons.mp hfound with rfl | hfound
        · exact absurd ⟨hsame.symm, hid⟩ hother
        · exact hkept hsame found hfound houtput hid
    · rename_i hnot
      obtain ⟨hnotes, hkept⟩ := ih h
      refine ⟨hnotes, fun hsame found hfound houtput hid => ?_⟩
      rcases List.mem_cons.mp hfound with rfl | hfound
      · simpa [houtput] using hnot
      · exact hkept hsame found hfound houtput hid

lemma StaysOut.lets {bank : EffectBank}
    (h : StaysOut notes) : StaysOut (EffectRun.lets output bank ++ notes) := by
  unfold EffectRun.lets
  generalize bank.changes.filter
    (fun change => decide (change.output = output) && !change.bypassed) = changes
  induction changes with
  | nil => exact h
  | cons change changes ih => exact ih.cons_enabled

def ofCalls (output : ℕ) (calls : List EffectCall) : List EffectNote :=
  (calls.map fun call => .called output call.effectId call.succeeded).reverse

lemma ofCalls_cons (output : ℕ) (call : EffectCall) (calls : List EffectCall)
    (notes : List EffectNote) :
    ofCalls output (call :: calls) ++ notes =
      ofCalls output calls ++ .called output call.effectId call.succeeded :: notes := by
  simp only [ofCalls, List.map_cons, List.reverse_cons, List.append_assoc, List.singleton_append]

lemma failed_ofCalls {output other : ℕ} {calls : List EffectCall}
    (h : failed other effectId (ofCalls output calls ++ notes) = true) :
    (other = output ∧ ⟨effectId, false⟩ ∈ calls) ∨ failed other effectId notes = true := by
  induction calls generalizing notes with
  | nil => exact .inr h
  | cons call calls ih =>
    rw [ofCalls_cons] at h
    rcases ih h with ⟨hsame, hmem⟩ | hnotes
    · exact .inl ⟨hsame, List.mem_cons_of_mem _ hmem⟩
    · rw [failed] at hnotes
      split at hnotes
      · rename_i hsame
        rw [Bool.not_eq_true'] at hnotes
        have hcall : call = ⟨effectId, false⟩ := by
          rw [← hsame.2, ← hnotes]
        exact .inl ⟨hsame.1.symm, by rw [hcall]; exact List.mem_cons_self⟩
      · exact .inr hnotes

lemma StaysOut.ofCalls {calls : List EffectCall}
    (h : StaysOut notes) (hnodup : (calls.map EffectCall.effectId).Nodup)
    (hcalls : ∀ call ∈ calls, failed output call.effectId notes = false) :
    StaysOut (ofCalls output calls ++ notes) := by
  induction calls generalizing notes with
  | nil => exact h
  | cons call calls ih =>
    rw [List.map_cons, List.nodup_cons] at hnodup
    rw [ofCalls_cons]
    refine ih (h.cons_called (hcalls call List.mem_cons_self)) hnodup.2 fun other hother => ?_
    have hne : ¬ (output = output ∧ call.effectId = other.effectId) := by
      rintro ⟨-, hid⟩
      exact hnodup.1 (by rw [hid]; exact List.mem_map_of_mem hother)
    rw [failed, if_neg hne]
    exact hcalls other (List.mem_cons_of_mem _ hother)

end EffectNote

/-! ## What the calls do to the chains -/

namespace EffectDelayTransaction

variable {sizes : EffectSizes} {t : EffectDelayTransaction}

@[simp] lemma prepare_chains (generation boundary : UInt64) (latencies : List UInt32)
    (changes : List EffectChange) :
    (t.prepare sizes generation boundary latencies changes).1.chains = t.chains := by
  unfold prepare
  split
  · rfl
  · split
    · rfl
    · split
      · rfl
      · split <;> rfl

@[simp] lemma prepareRollback_chains (generation boundary : UInt64) :
    (t.prepareRollback sizes generation boundary).1.chains = t.chains := by
  have hchains : (t.prepare sizes generation boundary t.activeBank.latencies
      t.activeBank.previous).1.chains = t.chains := prepare_chains generation boundary _ _
  unfold prepareRollback
  split
  · rfl
  · simp only
    split
    · rfl
    · split
      · rename_i hprepare
        rw [hprepare] at hchains
        exact hchains
      · rename_i hprepare
        rw [hprepare] at hchains
        exact hchains

@[simp] lemma activateIfDue_chains (showNs : UInt64) :
    (t.activateIfDue showNs).1.chains = t.chains := by
  unfold activateIfDue
  split <;> rfl

@[simp] lemma end_chains (output : ℕ) (frames : UInt32) :
    (t.end sizes output frames).1.chains = t.chains := by
  unfold EffectDelayTransaction.end
  split
  · rfl
  · split <;> rfl

@[simp] lemma applyChanges_ids (output : ℕ) (changes : List EffectChange)
    (chain : CoreEffectChain) : (applyChanges output changes chain).ids = chain.ids := by
  induction changes generalizing chain with
  | nil => rfl
  | cons change changes ih =>
    rw [applyChanges]
    split
    · rw [ih, CoreEffectChain.setBypass_ids]
    · exact ih chain

lemma bypassed_applyChanges {output : ℕ} {effectId : UInt64} {changes : List EffectChange}
    {chain : CoreEffectChain} (h : chain.bypassed effectId = some true)
    (hkept : ∀ change ∈ changes, change.output = output → change.effectId = effectId →
      change.bypassed = true) :
    (applyChanges output changes chain).bypassed effectId = some true := by
  induction changes generalizing chain with
  | nil => exact h
  | cons change changes ih =>
    have hrest : ∀ other ∈ changes, other.output = output → other.effectId = effectId →
        other.bypassed = true := fun other hother => hkept other (List.mem_cons_of_mem _ hother)
    rw [applyChanges]
    split
    · rename_i houtput
      refine ih ?_ hrest
      rw [CoreEffectChain.bypassed_setBypass, h]
      split
      · rename_i hid
        rw [Option.map_some, hkept change List.mem_cons_self houtput hid.symm]
      · rfl
    · exact ih h hrest

end EffectDelayTransaction

/-! ## Runs -/

namespace EffectRun

open EffectNote

variable {sizes : EffectSizes} {r : EffectRun}

lemma activated_transaction (showNs : UInt64) :
    (r.activated showNs).transaction = (r.transaction.activateIfDue showNs).1 := by
  unfold activated
  split <;> (rename_i h; rw [h])

lemma activated_notes (showNs : UInt64) : (r.activated showNs).notes = r.notes := by
  unfold activated
  split <;> rfl

/-- The call is a `begin` that applies the active bank again, and the bank lets in an effect that has
failed. -/
def reenablesFailed (sizes : EffectSizes) (r : EffectRun) : EffectAction → Bool
  | .begin output showNs =>
    let after := r.activated showNs
    (r.transaction.begin sizes output showNs).2 && decide (output ∈ after.applied) &&
      after.transaction.activeBank.changes.any fun change =>
        decide (change.output = output) && !change.bypassed && failed output change.effectId r.notes
  | _ => false

/-- What carries the property through a run. -/
structure Isolated (r : EffectRun) : Prop where
  nodup : ∀ output, (r.transaction.chains output).ids.Nodup
  /-- A failed effect is bypassed. -/
  bypassed : ∀ output effectId, failed output effectId r.notes = true →
    (r.transaction.chains output).bypassed effectId = some true
  staysOut : StaysOut r.notes

namespace Isolated

lemma empty : Isolated EffectRun.empty where
  nodup _ := List.nodup_nil
  bypassed _ _ h := absurd h Bool.false_ne_true
  staysOut := by
    intro output effectId succeeded later between earlier hnotes
    exact absurd (congrArg List.length hnotes) (by simp [EffectRun.empty])

variable {after : EffectRun}

lemma of_same (h : r.Isolated)
    (hchains : after.transaction.chains = r.transaction.chains) (hnotes : after.notes = r.notes) :
    after.Isolated where
  nodup := by
    rw [hchains]
    exact h.nodup
  bypassed := by
    rw [hchains, hnotes]
    exact h.bypassed
  staysOut := by
    rw [hnotes]
    exact h.staysOut

lemma of_chain (h : r.Isolated) (output : ℕ) (chain : CoreEffectChain)
    (hchains : after.transaction.chains = Function.update r.transaction.chains output chain)
    (hnodup : chain.ids.Nodup)
    (hother : ∀ other effectId, other ≠ output → failed other effectId after.notes = true →
      failed other effectId r.notes = true)
    (hbypassed : ∀ effectId, failed output effectId after.notes = true →
      chain.bypassed effectId = some true)
    (hout : StaysOut after.notes) : after.Isolated where
  nodup other := by
    rw [hchains]
    by_cases hsame : other = output
    · rw [hsame, Function.update_self]
      exact hnodup
    · rw [Function.update_of_ne hsame]
      exact h.nodup other
  bypassed other effectId hfailed := by
    rw [hchains]
    by_cases hsame : other = output
    · subst hsame
      rw [Function.update_self]
      exact hbypassed effectId hfailed
    · rw [Function.update_of_ne hsame]
      exact h.bypassed other effectId (hother other effectId hsame hfailed)
  staysOut := hout

variable {output : ℕ}

lemma of_kept (h : r.Isolated) {chain : CoreEffectChain} (hnodup : chain.ids.Nodup)
    (hkept : ∀ effectId, (r.transaction.chains output).bypassed effectId = some true →
      chain.bypassed effectId = some true) : (r.withChain output chain).Isolated :=
  h.of_chain output chain rfl hnodup (fun _ _ _ hfailed => hfailed)
    (fun effectId hfailed => hkept effectId (h.bypassed output effectId hfailed)) h.staysOut

lemma registerEffect (h : r.Isolated) (output capacity : ℕ) (descriptor : CoreEffectDescriptor)
    (hasCallbacks : Bool) :
    (r.withChain output ((r.transaction.chains output).registerEffect capacity descriptor
      hasCallbacks).1).Isolated := by
  refine h.of_kept ?_ fun effectId hflag =>
    CoreEffectChain.bypassed_registerEffect capacity descriptor hasCallbacks hflag
  rcases (r.transaction.chains output).registerEffect_slots capacity descriptor hasCallbacks with
    hsame | ⟨hnew, slot, hid, hslots⟩
  · rw [hsame]
    exact h.nodup output
  · rw [CoreEffectChain.ids, hslots, List.map_append, List.map_singleton, hid]
    exact (List.nodup_append_comm.mp (List.nodup_cons.mpr ⟨hnew, h.nodup output⟩))

lemma setBypass (h : r.Isolated) (output : ℕ) (effectId : UInt64) (bypass : Bool) :
    ({ r.withChain output ((r.transaction.chains output).setBypass effectId bypass).1 with
      notes := if ((r.transaction.chains output).setBypass effectId bypass).2 && !bypass then
        .enabled output effectId :: r.notes else r.notes } : EffectRun).Isolated := by
  have hnodup : ((r.transaction.chains output).setBypass effectId bypass).1.ids.Nodup := by
    rw [CoreEffectChain.setBypass_ids]
    exact h.nodup output
  refine h.of_chain output _ rfl hnodup ?_ ?_ ?_
  · intro other id hne hfailed
    simp only at hfailed
    split at hfailed
    · rw [failed, if_neg fun hsame => hne hsame.1.symm] at hfailed
      exact hfailed
    · exact hfailed
  · intro id hfailed
    simp only at hfailed
    rw [CoreEffectChain.bypassed_setBypass]
    by_cases hsame : id = effectId
    · subst hsame
      rw [if_pos rfl]
      split at hfailed
      · rw [failed, if_pos ⟨rfl, rfl⟩] at hfailed
        exact absurd hfailed (by decide)
      · rename_i hnot
        have hflag := h.bypassed output id hfailed
        have hfound := CoreEffectChain.find_isSome_iff.mpr
          (CoreEffectChain.mem_ids_of_bypassed hflag)
        rw [hflag, Option.map_some]
        simp only [CoreEffectChain.setBypass, hfound, Bool.true_and, Bool.not_eq_true,
          Bool.not_eq_false'] at hnot
        rw [hnot]
    · rw [if_neg hsame]
      refine h.bypassed output id ?_
      split at hfailed
      · rw [failed, if_neg fun heq => hsame heq.2.symm] at hfailed
        exact hfailed
      · exact hfailed
  · split
    · exact h.staysOut.cons_enabled
    · exact h.staysOut

lemma processChain (h : r.Isolated) (output : ℕ) (outcome : UInt64 → Bool)
    (channelCount frames : UInt32) :
    ({ r with
      transaction := (r.transaction.processChain output outcome channelCount frames).1
      notes := ofCalls output (r.transaction.processChain output outcome channelCount frames).2.2 ++
        r.notes } : EffectRun).Isolated := by
  have hnodup := h.nodup output
  refine h.of_chain output ((r.transaction.chains output).process outcome channelCount frames).1 rfl
    ?_ ?_ ?_ ?_
  · rw [CoreEffectChain.process_ids]
    exact hnodup
  · intro other effectId hne hfailed
    exact (failed_ofCalls hfailed).resolve_left fun hsame => hne hsame.1
  · intro effectId hfailed
    rcases failed_ofCalls hfailed with ⟨-, hcall⟩ | hbefore
    · exact CoreEffectChain.bypassed_of_failed hnodup hcall
    · exact CoreEffectChain.bypassed_process hnodup outcome channelCount frames
        (h.bypassed output effectId hbefore)
  · refine h.staysOut.ofCalls (CoreEffectChain.nodup_calls hnodup outcome channelCount frames) ?_
    intro call hcall
    have hflag := CoreEffectChain.called_not_bypassed hnodup hcall
    by_contra hfailed
    rw [Bool.not_eq_false] at hfailed
    rw [h.bypassed output call.effectId hfailed] at hflag
    exact absurd hflag (by decide)

lemma activated (h : r.Isolated) (showNs : UInt64) : (r.activated showNs).Isolated :=
  h.of_same (by rw [activated_transaction, EffectDelayTransaction.activateIfDue_chains])
    (activated_notes showNs)

lemma pin (h : r.Isolated)
    (hkept : output ∈ r.applied → ∀ change ∈ r.transaction.activeBank.changes,
      change.output = output → failed output change.effectId r.notes = true →
        change.bypassed = true) :
    ({ r with
      transaction := r.transaction.pin output
      applied := output :: r.applied
      notes := if output ∈ r.applied then r.notes
        else lets output r.transaction.activeBank ++ r.notes } : EffectRun).Isolated := by
  refine h.of_chain output _ rfl ?_ ?_ ?_ ?_
  · rw [EffectDelayTransaction.applyChanges_ids]
    exact h.nodup output
  · intro other effectId _ hfailed
    simp only at hfailed
    split at hfailed
    · exact hfailed
    · exact (failed_lets hfailed).1
  · intro effectId hfailed
    simp only at hfailed
    split at hfailed
    · rename_i hagain
      refine EffectDelayTransaction.bypassed_applyChanges (h.bypassed output effectId hfailed) ?_
      intro change hchange houtput hid
      exact hkept hagain change hchange houtput (by rw [hid]; exact hfailed)
    · obtain ⟨hbefore, hchanges⟩ := failed_lets hfailed
      exact EffectDelayTransaction.bypassed_applyChanges (h.bypassed output effectId hbefore)
        (hchanges rfl)
  · split
    · exact h.staysOut
    · exact h.staysOut.lets

lemma begin (h : r.Isolated) {showNs : UInt64}
    (hok : r.reenablesFailed sizes (.begin output showNs) = false)
    (hstep : step sizes r (.begin output showNs) = some after) : after.Isolated := by
  have hbegin : r.transaction.begin sizes output showNs = (r.transaction, false) ∨
      r.transaction.begin sizes output showNs =
        ((r.transaction.activateIfDue showNs).1.pin output, true) := by
    unfold EffectDelayTransaction.begin
    split
    · exact .inl rfl
    · exact .inr rfl
  rcases hbegin with hrefused | hbegun
  · simp only [step, hrefused, Option.some.injEq] at hstep
    rw [← hstep]
    exact h
  · simp only [step, hbegun, Option.some.injEq] at hstep
    rw [← hstep, ← activated_transaction]
    refine (h.activated showNs).pin fun hagain change hchange houtput hfailed => ?_
    rw [activated_notes] at hfailed
    simp only [reenablesFailed, hbegun, Bool.true_and, hagain, decide_true] at hok
    have hnot := List.any_eq_false.mp hok change hchange
    simpa [houtput, hfailed] using hnot

/-- **One call.** -/
theorem of_step (h : r.Isolated) {action : EffectAction}
    (hok : r.reenablesFailed sizes action = false) (hstep : step sizes r action = some after) :
    after.Isolated := by
  cases action with
  | registerEffect output descriptor hasCallbacks =>
    obtain ⟨-, hstep⟩ := Option.ite_none_right_eq_some.mp hstep
    rw [← Option.some.inj hstep]
    exact h.registerEffect output sizes.effectsPerOutput descriptor hasCallbacks
  | activateAll output positiveRate maxFrames channels accepts =>
    obtain ⟨-, hstep⟩ := Option.ite_none_right_eq_some.mp hstep
    rw [← Option.some.inj hstep]
    refine h.of_kept ?_ fun effectId hflag =>
      CoreEffectChain.bypassed_activateAll positiveRate maxFrames channels accepts hflag
    rw [CoreEffectChain.activateAll_ids]
    exact h.nodup output
  | deactivateAll output =>
    obtain ⟨-, hstep⟩ := Option.ite_none_right_eq_some.mp hstep
    rw [← Option.some.inj hstep]
    refine h.of_kept ?_ fun effectId hflag => ?_
    · rw [CoreEffectChain.deactivateAll_ids]
      exact h.nodup output
    · rw [CoreEffectChain.bypassed_deactivateAll]
      exact hflag
  | setBypass output effectId bypass =>
    obtain ⟨-, hstep⟩ := Option.ite_none_right_eq_some.mp hstep
    rw [← Option.some.inj hstep]
    exact h.setBypass output effectId bypass
  | prepare generation boundary latencies changes =>
    rw [← Option.some.inj hstep]
    exact h.of_same (EffectDelayTransaction.prepare_chains generation boundary latencies changes)
      rfl
  | prepareRollback generation boundary =>
    have hchains : (r.transaction.prepareRollback sizes generation boundary).1.chains =
        r.transaction.chains := EffectDelayTransaction.prepareRollback_chains generation boundary
    simp only [step] at hstep
    split at hstep
    · rename_i hrollback htakeover
      rw [← Option.some.inj hstep]
      rw [hrollback] at hchains
      exact h.of_same hchains rfl
    · rename_i hrollback _
      rw [← Option.some.inj hstep]
      rw [hrollback] at hchains
      exact h.of_same hchains rfl
  | activate showNs =>
    rw [← Option.some.inj hstep]
    exact h.activated showNs
  | begin output showNs => exact h.begin hok hstep
  | processChain output outcome channelCount frames =>
    obtain ⟨-, hstep⟩ := Option.ite_none_right_eq_some.mp hstep
    rw [← Option.some.inj hstep]
    exact h.processChain output outcome channelCount frames
  | «end» output frames =>
    rw [← Option.some.inj hstep]
    exact h.of_same (EffectDelayTransaction.end_chains output frames) rfl

end Isolated

/-- **A failed effect stays out of the signal path**, in every run in which no `begin` applies a bank
again that lets in an effect that has failed. -/
theorem failed_effect_stays_out {actions : List EffectAction}
    (h : Reaches (step sizes) (fun r action => r.reenablesFailed sizes action = false)
      EffectRun.empty actions r) : StaysOut r.notes := by
  have hisolated : r.Isolated := h.invariant Isolated.empty
    fun _ _ _ hr hok hstep => hr.of_step hok hstep
  exact hisolated.staysOut

/-- Two outputs, with one effect that is active in the chain of the first. -/
def oneEffect : List EffectAction :=
  [.registerEffect 0 ⟨41, 2, true⟩ true, .activateAll 0 true 8 2 fun _ => true]

/-- A block of the first output, in which each callback succeeds or each fails. -/
def block (showNs : UInt64) (succeeds : Bool) : List EffectAction :=
  [.begin 0 showNs, .processChain 0 (fun _ => succeeds) 2 4, .end 0 4]

theorem failed_effect_stays_out_oneEffect :
    ∃ r, Reaches (step ⟨2, 2, 16⟩) (fun r action => r.reenablesFailed ⟨2, 2, 16⟩ action = false)
        EffectRun.empty (oneEffect ++ .prepare 1 100 [3, 0] [⟨0, 41, false⟩] :: (block 98 false ++
          block 99 false ++ block 100 true ++ block 101 true)) r ∧
      r.notes = [.called 0 41 true, .called 0 41 true, .enabled 0 41, .called 0 41 false] ∧
      StaysOut r.notes := by
  have hrun : (run (fun r action => if r.reenablesFailed ⟨2, 2, 16⟩ action = false then
        step ⟨2, 2, 16⟩ r action else none) EffectRun.empty (oneEffect ++
          .prepare 1 100 [3, 0] [⟨0, 41, false⟩] :: (block 98 false ++ block 99 false ++
            block 100 true ++ block 101 true))).any (fun r => r.notes =
      [.called 0 41 true, .called 0 41 true, .enabled 0 41, .called 0 41 false]) = true := by
    decide +kernel
  obtain ⟨r, hr, hnotes⟩ := (Option.any_eq_true _ _).mp hrun
  exact ⟨r, reaches_of_run hr, of_decide_eq_true hnotes,
    failed_effect_stays_out (reaches_of_run hr)⟩

/-- **A failed effect is called again.** It fails in the first block under a bank that lets it in, and
the next block applies the bank once more. -/
theorem failed_effect_called : ∃ r, Reaches (step ⟨2, 2, 16⟩) Always EffectRun.empty (oneEffect ++
        .prepare 1 100 [3, 0] [⟨0, 41, false⟩] :: (block 100 false ++ block 101 false)) r ∧
      ¬ StaysOut r.notes := by
  have hrun : (run (step ⟨2, 2, 16⟩) EffectRun.empty (oneEffect ++
      .prepare 1 100 [3, 0] [⟨0, 41, false⟩] :: (block 100 false ++ block 101 false))).any
        (fun r => r.notes = [.called 0 41 false, .called 0 41 false, .enabled 0 41]) = true := by
    decide +kernel
  obtain ⟨r, hr, hnotes⟩ := reaches_always_of_any hrun
  refine ⟨r, hr, fun hout => ?_⟩
  have hlet := hout 0 41 false [] [] [.enabled 0 41] hnotes
  exact absurd hlet List.not_mem_nil

end EffectRun

end StageForge
