import StageForge.Handoff.Coverage

/-!
# What stands behind a live feed

Verified evidence about a slot is one interval, which is meant to stand for adjacent blocks of one
feed, each of them counted once.
-/

namespace StageForge

open Python TransitionSystem

namespace LiveReport

variable {r : LiveReport} {slot : Fin 4} {previous : Option LiveEvidence} {now : ℚ}
  {before block : LiveBlock}

lemma block_eq_some (h : r.block = some block) :
    r.firstShowNs.map Int.toNat = some block.first ∧ r.lastShowNs.map Int.toNat = some block.last ∧
      r.frames.toNat = block.frames ∧ r.sequence.map Int.toNat = some block.sequence ∧
      r.healthy = true ∧ block.first < block.last ∧ 0 < block.frames := by
  unfold LiveReport.block at h
  split at h
  · rename_i first last sequence hfirst hlast hsequence
    split_ifs at h with hproper
    cases h
    rw [hfirst, hlast, hsequence]
    exact ⟨rfl, rfl, rfl, rfl, hproper.1, hproper.2.1, hproper.2.2⟩
  · cases h

def discontinuitiesOf (previous : Option LiveEvidence) : ℕ :=
  (previous.map LiveEvidence.discontinuities).getD 0

lemma evidence_frame (r : LiveReport) (slot : Fin 4) (previous : Option LiveEvidence) (now : ℚ) :
    (r.evidence slot previous now).slot = slot ∧
      (r.evidence slot previous now).sourceId = r.source := by
  unfold evidence
  split
  · split_ifs
    · exact ⟨rfl, rfl⟩
    · exact ⟨rfl, rfl⟩
    · exact ⟨rfl, rfl⟩
  · exact ⟨rfl, rfl⟩

lemma evidence_of_none (h : r.block = none) :
    r.evidence slot previous now = r.alone slot (discontinuitiesOf previous) now := by
  unfold evidence
  rw [h]
  split
  · rename_i hnone
    cases hnone
  · rfl

lemma evidence_of_first (h : previous.bind LiveEvidence.block = none) :
    r.evidence slot previous now = r.alone slot (discontinuitiesOf previous) now := by
  unfold evidence
  rw [h]
  rfl

lemma evidence_of_both (hbefore : previous.bind LiveEvidence.block = some before)
    (hblock : r.block = some block) :
    r.evidence slot previous now = if Repeats before block then
        { r.alone slot (discontinuitiesOf previous) now with
          firstShowNs := some before.first
          lastShowNs := some before.last
          observedFrames := block.frames + before.frames }
      else if Follows before block then
        { r.alone slot (discontinuitiesOf previous) now with
          firstShowNs := some before.first
          observedFrames := block.frames + before.frames }
      else
        { r.alone slot (discontinuitiesOf previous) now with
          discontinuities := discontinuitiesOf previous + 1
          executionVerified := false } := by
  unfold evidence
  rw [hbefore, hblock]
  rfl

lemma block_alone (r : LiveReport) (slot : Fin 4) (discontinuities : ℕ) (now : ℚ) :
    (r.alone slot discontinuities now).block = r.block := by
  cases hblock : r.block with
  | none =>
    unfold LiveEvidence.block
    split
    · simp [alone, hblock]
    · rfl
  | some block =>
    obtain ⟨hfirst, hlast, hframes, hsequence, -⟩ := block_eq_some hblock
    simp [LiveEvidence.block, alone, hfirst, hlast, hframes, hsequence, hblock]

lemma block_evidence {kept : LiveBlock} (h : (r.evidence slot previous now).block = some kept) :
    (∃ block, r.block = some block ∧ kept = block) ∨
      ∃ before block, previous.bind LiveEvidence.block = some before ∧ r.block = some block ∧
        kept.first = before.first ∧ kept.sequence = block.sequence ∧
          (Repeats before block ∧ kept.last = before.last ∨
            Follows before block ∧ kept.last = block.last) := by
  cases hblock : r.block with
  | none =>
    rw [evidence_of_none hblock, block_alone, hblock] at h
    cases h
  | some block =>
    obtain ⟨hfirst, hlast, hframes, hsequence, -⟩ := block_eq_some hblock
    cases hbefore : previous.bind LiveEvidence.block with
    | none =>
      rw [evidence_of_first hbefore, block_alone, hblock] at h
      exact .inl ⟨block, rfl, (Option.some.inj h).symm⟩
    | some before =>
      rw [evidence_of_both hbefore hblock] at h
      split_ifs at h with hrepeats hfollows
      · simp only [LiveEvidence.block, alone, hsequence, hblock, Option.isSome_some, if_true,
          Option.some.injEq] at h
        subst h
        exact .inr ⟨before, block, rfl, rfl, rfl, rfl, .inl ⟨hrepeats, rfl⟩⟩
      · simp only [LiveEvidence.block, alone, hlast, hsequence, hblock, Option.isSome_some,
          if_true, Option.some.injEq] at h
        subst h
        exact .inr ⟨before, block, rfl, rfl, rfl, rfl, .inr ⟨hfollows, rfl⟩⟩
      · simp [LiveEvidence.block, alone, hlast, hsequence, hfirst] at h

lemma isSome_block_evidence (h : (r.evidence slot previous now).executionVerified = true) :
    (r.evidence slot previous now).block.isSome = true := by
  cases hblock : r.block with
  | none =>
    rw [evidence_of_none hblock] at h ⊢
    rw [block_alone]
    exact h
  | some block =>
    obtain ⟨hfirst, hlast, hframes, hsequence, -⟩ := block_eq_some hblock
    cases hbefore : previous.bind LiveEvidence.block with
    | none =>
      rw [evidence_of_first hbefore, block_alone, hblock]
      rfl
    | some before =>
      rw [evidence_of_both hbefore hblock] at h ⊢
      split_ifs at h ⊢
      · simp [LiveEvidence.block, alone, hsequence, hblock]
      · simp [LiveEvidence.block, alone, hlast, hsequence, hblock]

end LiveReport

/-! ## The same report twice -/

structure FeedCount where
  firstShowNs : Option ℕ
  lastShowNs : Option ℕ
  observedFrames : ℕ
  sequence : Option ℕ
  discontinuities : ℕ
  executionVerified : Bool
  deriving DecidableEq

def LiveEvidence.counted (e : LiveEvidence) : FeedCount where
  firstShowNs := e.firstShowNs
  lastShowNs := e.lastShowNs
  observedFrames := e.observedFrames
  sequence := e.sequence
  discontinuities := e.discontinuities
  executionVerified := e.executionVerified

namespace LiveReport

variable {r : LiveReport} {slot : Fin 4} {previous : Option LiveEvidence} {now later : ℚ}
  {before block : LiveBlock}

variable {kept : LiveBlock}

lemma observedFrames_of_repeats {e : LiveEvidence} (hkept : e.block = some kept)
    (hblock : r.block = some block) (hrepeats : Repeats kept block) :
    (r.evidence slot (some e) later).observedFrames = block.frames + kept.frames := by
  have hbefore : (some e).bind LiveEvidence.block = some kept := hkept
  rw [evidence_of_both hbefore hblock, if_pos hrepeats]

lemma frames_of_block {e : LiveEvidence} (h : e.block = some kept) :
    kept.frames = e.observedFrames := by
  unfold LiveEvidence.block at h
  split at h
  · split_ifs at h
    rw [← Option.some.inj h]
  · cases h

lemma repeats_evidence
    (hproper : ∀ before ∈ previous.bind LiveEvidence.block, before.first < before.last)
    (hblock : r.block = some block) (h : (r.evidence slot previous now).block = some kept) :
    Repeats kept block := by
  rcases block_evidence h with ⟨own, hown, rfl⟩ |
    ⟨before, own, hbefore, hown, hfirst, hsequence, hcase⟩
  · obtain rfl := Option.some.inj (hblock.symm.trans hown)
    exact ⟨rfl, le_rfl, le_rfl⟩
  · obtain rfl := Option.some.inj (hblock.symm.trans hown)
    have hbounds := hproper before hbefore
    rcases hcase with ⟨⟨-, hstart, hend⟩, hlast⟩ | ⟨⟨-, hstart⟩, hlast⟩
    · exact ⟨hsequence.symm, by omega, by omega⟩
    · exact ⟨hsequence.symm, by omega, by omega⟩

lemma counts_iff
    (hproper : ∀ before ∈ previous.bind LiveEvidence.block, before.first < before.last) :
    (r.evidence slot (some (r.evidence slot previous now)) later).counted =
      (r.evidence slot previous now).counted ↔ r.block = none := by
  constructor
  · intro h
    cases hblock : r.block with
    | none => rfl
    | some block =>
      exfalso
      have hframes : 0 < block.frames := (block_eq_some hblock).2.2.2.2.2.2
      cases hkept : (r.evidence slot previous now).block with
      | some kept =>
        -- The second report is taken for a repetition, and counted.
        have htwice : ∀ slot later, (r.evidence slot (some _) later).observedFrames = _ :=
          fun _ _ => observedFrames_of_repeats hkept hblock (repeats_evidence hproper hblock hkept)
        have hsame := congrArg FeedCount.observedFrames h
        rw [LiveEvidence.counted, LiveEvidence.counted, htwice] at hsame
        have := frames_of_block hkept
        simp only at hsame
        omega
      | none =>
        -- The first report did not fit, and the second one is compared with none.
        have hunverified : (r.evidence slot previous now).executionVerified = false := by
          rw [← Bool.not_eq_true]
          intro hverified
          have := isSome_block_evidence hverified
          rw [hkept] at this
          cases this
        have hverified : (r.evidence slot (some (r.evidence slot previous now))
            later).executionVerified = true := by
          have hfirst : (some (r.evidence slot previous now)).bind LiveEvidence.block = none :=
            hkept
          rw [evidence_of_first hfirst, alone, hblock]
          rfl
        have hsame : (r.evidence slot (some (r.evidence slot previous now))
            later).executionVerified = (r.evidence slot previous now).executionVerified :=
          congrArg FeedCount.executionVerified h
        rw [hverified, hunverified] at hsame
        cases hsame
  · intro hblock
    rw [evidence_of_none hblock, evidence_of_none hblock]
    rfl

end LiveReport

/-! ## What the interval stands for -/

namespace RegistryHistory

/-- The interval from `first` to `last` is exactly covered by healthy reports of blocks of the feed,
each of which begins where the one before it ends and has the next number; `sequence` is the last. -/
inductive CoveredBy (log : List LiveReport) (slot : Fin 4) (source : String) (first : ℕ) :
    ℕ → ℕ → Prop
  | start {r : LiveReport} {block : LiveBlock} (mem : r ∈ log) (named : slotOf r.slot = some slot)
      (same : r.source = source) (reported : r.block = some block) (begins : block.first = first) :
      CoveredBy log slot source first block.last block.sequence
  | next {last sequence : ℕ} {r : LiveReport} {block : LiveBlock}
      (rest : CoveredBy log slot source first last sequence) (mem : r ∈ log)
      (named : slotOf r.slot = some slot) (same : r.source = source)
      (reported : r.block = some block) (adjacent : block.first = last)
      (numbered : block.sequence = sequence + 1) :
      CoveredBy log slot source first block.last block.sequence

variable {log log' : List LiveReport} {slot : Fin 4} {source : String} {first last sequence : ℕ}

lemma CoveredBy.mono (h : CoveredBy log slot source first last sequence) (hsub : log ⊆ log') :
    CoveredBy log' slot source first last sequence := by
  induction h with
  | start mem named same reported begins => exact .start (hsub mem) named same reported begins
  | next _ mem named same reported adjacent numbered ih =>
    exact .next ih (hsub mem) named same reported adjacent numbered

lemma CoveredBy.lt (h : CoveredBy log slot source first last sequence) : first < last := by
  induction h with
  | start mem named same reported begins =>
    obtain ⟨-, -, -, -, -, hlt, -⟩ := LiveReport.block_eq_some reported
    omega
  | next _ mem named same reported adjacent numbered ih =>
    obtain ⟨-, -, -, -, -, hlt, -⟩ := LiveReport.block_eq_some reported
    omega

/-- What stands behind the evidence about a slot. -/
structure FedBy (log : List LiveReport) (e : LiveEvidence) : Prop where
  whole : e.executionVerified = true → e.block.isSome = true
  covered : ∀ block ∈ e.block, CoveredBy log e.slot e.sourceId block.first block.last block.sequence

/-- A report that is merged into a block, which it repeats or follows. -/
def Joins (r : LiveReport) (previous : Option LiveEvidence) : Prop :=
  ∃ before ∈ previous.bind LiveEvidence.block, ∃ block ∈ r.block,
    LiveReport.Repeats before block ∨ LiveReport.Follows before block

instance (r : LiveReport) (previous : Option LiveEvidence) : Decidable (Joins r previous) :=
  inferInstanceAs (Decidable (∃ before ∈ Option.bind _ _, ∃ block ∈ _, _ ∨ _))

/-- What is kept about the slot that a report names. -/
def evidenceFor (s : RegistryHistory) (r : LiveReport) : Option LiveEvidence :=
  (slotOf r.slot).bind s.registry.live.find?

/-- A report that is merged is of the feed that is kept. -/
def OneFeed (s : RegistryHistory) : RegistryCall → Prop
  | .reportLive r _ =>
    Joins r (s.evidenceFor r) → ∀ e ∈ s.evidenceFor r, e.sourceId = r.source
  | .reportShadow .. | .clear => True

instance (s : RegistryHistory) : (call : RegistryCall) → Decidable (s.OneFeed call)
  | .reportLive .. => inferInstanceAs (Decidable (_ → ∀ e ∈ _, _))
  | .reportShadow .. | .clear => inferInstanceAs (Decidable True)

variable {r : LiveReport}

lemma fedBy_evidence {previous : Option LiveEvidence} {now : ℚ}
    (hslot : slotOf r.slot = some slot) (hprevious : ∀ e ∈ previous, e.slot = slot ∧ FedBy log e)
    (hone : Joins r previous → ∀ e ∈ previous, e.sourceId = r.source) :
    FedBy (r :: log) (r.evidence slot previous now) := by
  obtain ⟨hkeptSlot, hkeptSource⟩ := r.evidence_frame slot previous now
  refine ⟨LiveReport.isSome_block_evidence, fun kept hkept => ?_⟩
  rw [hkeptSlot, hkeptSource]
  rcases LiveReport.block_evidence hkept with
    ⟨block, hblock, rfl⟩ | ⟨before, block, hbefore, hblock, hfirst, hsequence, hcase⟩
  · exact .start List.mem_cons_self hslot rfl hblock rfl
  obtain ⟨old, hold, holdBlock⟩ := Option.bind_eq_some_iff.mp hbefore
  obtain ⟨holdSlot, hfed⟩ := hprevious old hold
  have hjoins : Joins r previous := ⟨before, hbefore, block, hblock, hcase.imp And.left And.left⟩
  have hcovered := (hfed.covered before holdBlock).mono (List.subset_cons_self r log)
  rw [holdSlot, hone hjoins old hold] at hcovered
  rw [hfirst, hsequence]
  rcases hcase with ⟨hrepeats, hlast⟩ | ⟨hfollows, hlast⟩
  · rw [hlast, hrepeats.1]
    exact hcovered
  · rw [hlast]
    exact .next hcovered List.mem_cons_self hslot rfl hblock hfollows.2 hfollows.1

def AllFed (s : RegistryHistory) : Prop := ∀ e ∈ s.registry.live.rows, FedBy s.liveLog e

lemma FedBy.mono {e : LiveEvidence} (h : FedBy log e) (hsub : log ⊆ log') : FedBy log' e where
  whole := h.whole
  covered := fun block hblock => (h.covered block hblock).mono hsub

lemma allFed_step {s s' : RegistryHistory} {call : RegistryCall} (h : AllFed s)
    (hone : s.OneFeed call) (hstep : s.step call = some s') : AllFed s' := by
  cases hstep
  cases call with
  | reportShadow r now =>
    simp only [perform, HandoffExecutionRegistry.reportShadow]
    split
    · rename_i g hg
      split_ifs at hg
      cases hg
      exact h
    · exact h
  | reportLive r now =>
    simp only [perform, HandoffExecutionRegistry.reportLive]
    split
    · rename_i g hg
      split at hg
      · cases hg
      · rename_i slot hslot
        split_ifs at hg
        cases hg
        have hkept : s.evidenceFor r = s.registry.live.find? slot := by
          rw [evidenceFor, hslot, Option.bind_some]
        rw [OneFeed, hkept] at hone
        intro e he
        rcases Table.mem_put.mp he with rfl | ⟨-, hold⟩
        · refine fedBy_evidence hslot (fun old hold => ?_) hone
          obtain ⟨hmem, hold⟩ := Table.find?_eq_some.mp hold
          exact ⟨hold, h old hmem⟩
        · exact (h e hold).mono (List.subset_cons_self r s.liveLog)
    · exact h
  | clear => exact fun e he => absurd he List.not_mem_nil

def Accepts (r : LiveReport) : Prop := (slotOf r.slot).isSome = true ∧ r.source ≠ ""

lemma evidenceFor_perform {s : RegistryHistory} (hslot : slotOf r.slot = some slot)
    (hsource : r.source ≠ "") (now : ℚ) :
    (s.perform (.reportLive r now)).evidenceFor r =
      some (r.evidence slot (s.registry.live.find? slot) now) := by
  simp only [perform, HandoffExecutionRegistry.reportLive, hslot, if_neg hsource, evidenceFor,
    Option.bind_some]
  rw [Table.find?_put, if_pos (r.evidence_frame slot _ now).1]

lemma perform_of_refused {s : RegistryHistory} (h : ¬ Accepts r) (now : ℚ) :
    s.perform (.reportLive r now) = s := by
  simp only [perform, HandoffExecutionRegistry.reportLive]
  split
  · rename_i g hg
    split at hg
    · cases hg
    · rename_i slot hslot
      split_ifs at hg with hsource
      exact absurd ⟨by rw [hslot]; rfl, hsource⟩ h
  · rfl

/-- **Live feeds.** In every run in which merged reports are of the feed that is kept, a report that
comes twice leaves what is counted as it was if and only if it is not accepted, or not one of a block;
and verified evidence is exactly covered by healthy reports of its feed with consecutive numbers. -/
theorem live_feed {calls : List RegistryCall} {s : RegistryHistory}
    (h : Reaches step OneFeed {} calls s) :
    (∀ r now later,
      (((s.perform (.reportLive r now)).perform (.reportLive r later)).evidenceFor r).map
          LiveEvidence.counted =
        ((s.perform (.reportLive r now)).evidenceFor r).map LiveEvidence.counted ↔
      (Accepts r → r.block = none)) ∧
    ∀ e ∈ s.registry.live.rows, e.executionVerified = true →
      ∃ first last sequence, e.firstShowNs = some first ∧ e.lastShowNs = some last ∧
        e.sequence = some sequence ∧ CoveredBy s.liveLog e.slot e.sourceId first last sequence := by
  have hfed : AllFed s :=
    h.invariant (I := AllFed) (fun _ he => absurd he List.not_mem_nil) fun _ _ _ => allFed_step
  refine ⟨fun r now later => ?_, fun e he hverified => ?_⟩
  · by_cases haccepts : Accepts r
    · obtain ⟨slot, hslot⟩ := Option.isSome_iff_exists.mp haccepts.1
      have hproper : ∀ before ∈ (s.registry.live.find? slot).bind LiveEvidence.block,
          before.first < before.last := by
        intro before hbefore
        obtain ⟨e, he, hblock⟩ := Option.bind_eq_some_iff.mp hbefore
        exact ((hfed e (Table.find?_eq_some.mp he).1).covered before hblock).lt
      have hafter := evidenceFor_perform (s := s) hslot haccepts.2 now
      have hkept : (s.perform (.reportLive r now)).registry.live.find? slot =
          some (r.evidence slot (s.registry.live.find? slot) now) := by
        rw [evidenceFor, hslot, Option.bind_some] at hafter
        exact hafter
      rw [evidenceFor_perform hslot haccepts.2, hafter, hkept, Option.map_some, Option.map_some,
        Option.some.injEq, LiveReport.counts_iff hproper]
      exact ⟨fun h _ => h, fun h => h haccepts⟩
    · rw [perform_of_refused haccepts, perform_of_refused haccepts]
      exact ⟨fun _ h => absurd h haccepts, fun _ => rfl⟩
  · obtain ⟨hwhole, hcovered⟩ := hfed e he
    obtain ⟨block, hblock⟩ := Option.isSome_iff_exists.mp (hwhole hverified)
    have hcover := hcovered block hblock
    unfold LiveEvidence.block at hblock
    split at hblock
    · rename_i first last sequence hfirst hlast hsequence
      split_ifs at hblock
      cases hblock
      exact ⟨first, last, sequence, hfirst, hlast, hsequence, hcover⟩
    · cases hblock

def exampleFeed (sourceId : String) (first last sequence : ℤ) : RegistryCall := .reportLive
    { slot := 0
      sourceId := sourceId
      firstShowNs := some first
      lastShowNs := some last
      frames := 480
      sequence := some sequence } 10

/-- What is kept about the first slot: the feed, and what is counted. -/
def exampleCount (s : RegistryHistory) : Option (String × FeedCount) :=
  (s.registry.live.find? 0).map fun e => (e.sourceId, e.counted)

/-- What is counted of two blocks of 480 frames. -/
def exampleCounted : FeedCount where
  firstShowNs := some 1000
  lastShowNs := some 3000
  observedFrames := 960
  sequence := some 2
  discontinuities := 0
  executionVerified := true

theorem live_feed_twice : ∃ s : RegistryHistory, CoveredBy s.liveLog 0 "net-vocal" 1000 3000 2 := by
  have hrun : (run (fun s call => if OneFeed s call then step s call else none) {}
      [exampleFeed "net-vocal" 1000 2000 1, exampleFeed "net-vocal" 2000 3000 2]).map exampleCount =
        some (some ("net-vocal", exampleCounted)) := by
    decide +kernel
  obtain ⟨s, hs, hkept⟩ := Option.map_eq_some_iff.mp hrun
  obtain ⟨e, he, hall⟩ := Option.map_eq_some_iff.mp hkept
  obtain ⟨hsource, hcounted⟩ := Prod.mk.inj hall
  obtain ⟨hmem, hslot⟩ := Table.find?_eq_some.mp he
  obtain ⟨first, last, sequence, hfirst, hlast, hsequence, hcovered⟩ :=
    (live_feed (reaches_of_run hs)).2 e hmem (congrArg FeedCount.executionVerified hcounted)
  obtain rfl := Option.some.inj (hfirst.symm.trans (congrArg FeedCount.firstShowNs hcounted))
  obtain rfl := Option.some.inj (hlast.symm.trans (congrArg FeedCount.lastShowNs hcounted))
  obtain rfl := Option.some.inj (hsequence.symm.trans (congrArg FeedCount.sequence hcounted))
  rw [hslot, hsource] at hcovered
  exact ⟨s, hcovered⟩

lemma CoveredBy.begins (h : CoveredBy log slot source first last sequence) :
    ∃ r ∈ log, r.source = source ∧ r.firstShowNs.map Int.toNat = some first := by
  induction h with
  | @start r block mem named same reported begins =>
    exact ⟨r, mem, same, begins ▸ (LiveReport.block_eq_some reported).1⟩
  | next _ _ _ _ _ _ _ ih => exact ih

/-- **What goes wrong.** A report that comes twice is counted twice; and one feed is credited with
the block of another. -/
theorem live_feed_fails : (∃ calls s, Reaches step Always {} calls s ∧
      exampleCount (s.perform (exampleFeed "net-vocal" 2000 3000 2)) ≠ exampleCount s ∧
      exampleCount s = some ("net-vocal", exampleCounted)) ∧
    (∃ calls s, Reaches step Always {} calls s ∧
      exampleCount s = some ("net-guitar", exampleCounted) ∧
      ¬ CoveredBy s.liveLog 0 "net-guitar" 1000 3000 2) := by
  constructor
  · refine ⟨[exampleFeed "net-vocal" 1000 2000 1, exampleFeed "net-vocal" 2000 3000 2],
      reaches_always_of_any ?_⟩
    decide +kernel
  · have hrun : ∃ s, Reaches step Always {}
        [exampleFeed "net-vocal" 1000 2000 1, exampleFeed "net-guitar" 2000 3000 2] s ∧
          exampleCount s = some ("net-guitar", exampleCounted) ∧
          ∀ r ∈ s.liveLog, r.source = "net-guitar" → r.firstShowNs.map Int.toNat ≠ some 1000 :=
      reaches_always_of_any (by decide +kernel)
    obtain ⟨s, hreach, hcount, hnone⟩ := hrun
    refine ⟨_, s, hreach, hcount, fun hcovered => ?_⟩
    obtain ⟨r, hmem, hsource, hbegins⟩ := hcovered.begins
    exact hnone r hmem hsource hbegins

end RegistryHistory

end StageForge
