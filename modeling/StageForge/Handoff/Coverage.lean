import StageForge.Handoff.Readiness
import StageForge.Handoff.Registry
import StageForge.Library.TransitionSystem

/-!
# What stands behind a source that is ready

A required source is marked ready if its evidence is verified, fresh and buffered to the end of the
prebuffer. The evidence is one interval, which stands for the reports that have been merged into it.
-/

namespace StageForge

open Python TransitionSystem HandoffSetup HandoffExecutionRegistry

/-! ## Runs of the registry -/

/-- The calls, each at a time of the clock. -/
inductive RegistryCall
  | reportShadow (r : ShadowReport) (now : ℚ)
  | reportLive (r : LiveReport) (now : ℚ)
  | clear

/-- The registry, and the reports it has accepted, the last first. -/
structure RegistryHistory where
  registry : HandoffExecutionRegistry := {}
  shadowLog : List (ShadowReport × ℚ) := []
  liveLog : List LiveReport := []
  deriving DecidableEq

namespace RegistryHistory

/-- Perform a call; one that raises changes nothing. -/
def perform (s : RegistryHistory) : RegistryCall → RegistryHistory
  | .reportShadow r now =>
    match s.registry.reportShadow r now with
    | .ok g => { s with registry := g, shadowLog := (r, now) :: s.shadowLog }
    | .error _ => s
  | .reportLive r now =>
    match s.registry.reportLive r now with
    | .ok g => { s with registry := g, liveLog := r :: s.liveLog }
    | .error _ => s
  | .clear => { s with registry := s.registry.clear }

def step (s : RegistryHistory) (call : RegistryCall) : Option RegistryHistory :=
  some (s.perform call)

end RegistryHistory

/-! ## Evidence and reports -/

namespace ShadowReport

variable {r : ShadowReport} {previous : Option ShadowEvidence} {now : ℚ}

lemma evidence_frame (r : ShadowReport) (previous : Option ShadowEvidence) (now : ℚ) :
    (r.evidence previous now).sourceId = r.source ∧ (r.evidence previous now).contentHash = r.hash ∧
      (r.evidence previous now).reportedAt = now := by
  unfold evidence
  split
  · split_ifs
    · exact ⟨rfl, rfl, rfl⟩
    · exact ⟨rfl, rfl, rfl⟩
    · exact ⟨rfl, rfl, rfl⟩
  · exact ⟨rfl, rfl, rfl⟩

lemma block_eq_some {block : ShadowBlock} (h : r.block = some block) :
    block.bufferedUntil = r.bufferedUntilShowNs.toNat ∧ r.healthy = true ∧
      block.start < block.bufferedUntil := by
  simp only [ShadowReport.block, Option.filter_eq_some_iff, Option.map_eq_some_iff] at h
  obtain ⟨⟨start, -, rfl⟩, hproper⟩ := h
  simp only [decide_eq_true_eq] at hproper
  exact ⟨rfl, hproper.2.2, hproper.1⟩

lemma block_alone (r : ShadowReport) (discontinuities : ℕ) (now : ℚ) :
    (r.alone discontinuities now).block = r.block := by
  unfold ShadowEvidence.block alone
  cases hblock : r.block with
  | none => rfl
  | some block =>
    have hreported := hblock
    simp only [ShadowReport.block, Option.filter_eq_some_iff, Option.map_eq_some_iff] at hreported
    obtain ⟨⟨start, -, rfl⟩, -⟩ := hreported
    rfl

/-- What a report is merged into: the block before it, which it extends or lies in. -/
def Merges (r : ShadowReport) (previous : Option ShadowEvidence) : Prop :=
  ∃ before ∈ previous.bind ShadowEvidence.block, ∃ block ∈ r.block,
    Extends before block ∨ Within before block

instance (r : ShadowReport) (previous : Option ShadowEvidence) : Decidable (r.Merges previous) :=
  inferInstanceAs (Decidable (∃ before ∈ Option.bind _ _, ∃ block ∈ _, _ ∨ _))

/-- The block that evidence stands for after a report: that of the report, or the one before it,
extended by the report or as it was. -/
lemma block_evidence {kept : ShadowBlock} (h : (r.evidence previous now).block = some kept) :
    (∃ block, r.block = some block ∧ kept = block) ∨
      ∃ before block, previous.bind ShadowEvidence.block = some before ∧ r.block = some block ∧
        kept.start = before.start ∧
          (Extends before block ∧ kept.bufferedUntil = block.bufferedUntil ∨
            Within before block ∧ kept.bufferedUntil = before.bufferedUntil) := by
  unfold evidence at h
  split at h
  · rename_i before block hbefore hblock
    split_ifs at h with hextends hwithin
    · simp only [ShadowEvidence.block, alone, hblock, Option.isSome_some, if_true, Option.map_some,
        Option.some.injEq] at h
      subst h
      exact .inr ⟨before, block, hbefore, hblock, rfl, .inl ⟨hextends, (block_eq_some hblock).1.symm⟩⟩
    · simp only [ShadowEvidence.block, alone, hblock, Option.isSome_some, if_true, Option.map_some,
        Option.some.injEq] at h
      subst h
      exact .inr ⟨before, block, hbefore, hblock, rfl, .inr ⟨hwithin, rfl⟩⟩
    · simp [ShadowEvidence.block] at h
  · rw [block_alone] at h
    exact .inl ⟨kept, h, rfl⟩

lemma isSome_block_evidence (r : ShadowReport) (previous : Option ShadowEvidence) (now : ℚ)
    (h : (r.evidence previous now).executionVerified = true) :
    (r.evidence previous now).block.isSome = true := by
  unfold evidence at h ⊢
  split at h
  · rename_i before block hbefore hblock
    split_ifs at h ⊢
    · simp [ShadowEvidence.block, alone, hblock]
    · simp [ShadowEvidence.block, alone, hblock]
  · rw [block_alone]
    exact h

end ShadowReport

/-! ## What stands behind the evidence -/

namespace RegistryHistory

/-- At the instant `t`, a healthy report of the source with the hash says that it is rendered. -/
def CoveredAt (log : List (ShadowReport × ℚ)) (source hash : String) (t : ℚ) : Prop :=
  ∃ entry ∈ log, entry.1.source = source ∧ entry.1.hash = hash ∧ entry.1.healthy = true ∧
    ∃ block ∈ entry.1.block, (block.start : ℚ) ≤ t ∧ t ≤ block.bufferedUntil

instance (log : List (ShadowReport × ℚ)) (source hash : String) (t : ℚ) :
    Decidable (CoveredAt log source hash t) :=
  inferInstanceAs (Decidable (∃ entry ∈ log, _ ∧ _ ∧ _ ∧ ∃ block ∈ entry.1.block, _))

/-- The last report of a source, with its time. -/
def latest (log : List (ShadowReport × ℚ)) (source : String) : Option (ShadowReport × ℚ) :=
  log.find? fun entry => entry.1.source = source

/-- What stands behind evidence: the last report of the source, and reports that cover the block. -/
structure Backed (log : List (ShadowReport × ℚ)) (e : ShadowEvidence) : Prop where
  latest : ∃ r, latest log e.sourceId = some (r, e.reportedAt)
  whole : e.executionVerified = true → e.block.isSome = true
  covered : ∀ block ∈ e.block, ∀ t : ℚ, (block.start : ℚ) ≤ t → t ≤ block.bufferedUntil →
    CoveredAt log e.sourceId e.contentHash t

/-- A report that is merged has the hash of the evidence. -/
def Clean (s : RegistryHistory) : RegistryCall → Prop
  | .reportShadow r _ =>
    r.Merges (s.registry.shadow.find? r.source) →
      ∀ e ∈ s.registry.shadow.find? r.source, e.contentHash = r.hash
  | .reportLive .. | .clear => True

instance (s : RegistryHistory) : (call : RegistryCall) → Decidable (s.Clean call)
  | .reportShadow .. => inferInstanceAs (Decidable (_ → ∀ e ∈ _, _))
  | .reportLive .. | .clear => inferInstanceAs (Decidable True)

variable {log : List (ShadowReport × ℚ)} {source hash : String} {t now : ℚ} {r : ShadowReport}
  {previous : Option ShadowEvidence} {e : ShadowEvidence}

lemma CoveredAt.cons (h : CoveredAt log source hash t) (entry : ShadowReport × ℚ) :
    CoveredAt (entry :: log) source hash t := by
  obtain ⟨found, hmem, hrest⟩ := h
  exact ⟨found, List.mem_cons_of_mem _ hmem, hrest⟩

lemma coveredAt_self {block : ShadowBlock} (hblock : r.block = some block)
    (hstart : (block.start : ℚ) ≤ t) (hend : t ≤ block.bufferedUntil) :
    CoveredAt ((r, now) :: log) r.source r.hash t :=
  ⟨(r, now), List.mem_cons_self, rfl, rfl, (ShadowReport.block_eq_some hblock).2.1, block, hblock,
    hstart, hend⟩

lemma Backed.other (h : Backed log e) (hother : r.source ≠ e.sourceId) :
    Backed ((r, now) :: log) e where
  latest := by
    obtain ⟨last, hlast⟩ := h.latest
    refine ⟨last, ?_⟩
    rw [RegistryHistory.latest, List.find?_cons_of_neg (by simpa using hother)]
    exact hlast
  whole := h.whole
  covered := fun block hblock t hstart hend => (h.covered block hblock t hstart hend).cons _

lemma backed_evidence (hprevious : ∀ e ∈ previous, e.sourceId = r.source ∧ Backed log e)
    (hclean : r.Merges previous → ∀ e ∈ previous, e.contentHash = r.hash) :
    Backed ((r, now) :: log) (r.evidence previous now) := by
  obtain ⟨hsource, hhash, htime⟩ := r.evidence_frame previous now
  refine ⟨⟨r, ?_⟩, r.isSome_block_evidence previous now, fun kept hkept t hstart hend => ?_⟩
  · rw [hsource, htime, latest, List.find?_cons_of_pos (by simp)]
  rw [hsource, hhash]
  rcases ShadowReport.block_evidence hkept with
    ⟨block, hblock, rfl⟩ | ⟨before, block, hbefore, hblock, hfrom, hcase⟩
  · exact coveredAt_self hblock hstart hend
  obtain ⟨old, hold, holdBlock⟩ := Option.bind_eq_some_iff.mp hbefore
  obtain ⟨holdSource, hbacked⟩ := hprevious old hold
  -- Until the end of the block before, the reports that were there cover it.
  have hearlier : t ≤ before.bufferedUntil → CoveredAt ((r, now) :: log) r.source r.hash t := by
    intro hle
    have hmerges : r.Merges previous :=
      ⟨before, hbefore, block, hblock, hcase.imp And.left And.left⟩
    have hcovered := hbacked.covered before holdBlock t (by rw [← hfrom]; exact hstart) hle
    rw [holdSource, hclean hmerges old hold] at hcovered
    exact hcovered.cons _
  rcases hcase with ⟨hextends, huntil⟩ | ⟨-, huntil⟩
  · by_cases hle : t ≤ before.bufferedUntil
    · exact hearlier hle
    · refine coveredAt_self hblock ?_ (by rw [← huntil]; exact hend)
      rw [hextends]
      exact (not_le.mp hle).le
  · exact hearlier (by rw [← huntil]; exact hend)

def AllBacked (s : RegistryHistory) : Prop := ∀ e ∈ s.registry.shadow.rows, Backed s.shadowLog e

lemma allBacked_step {s s' : RegistryHistory} {call : RegistryCall} (h : AllBacked s)
    (hclean : s.Clean call) (hstep : s.step call = some s') : AllBacked s' := by
  cases hstep
  cases call with
  | reportShadow r now =>
    simp only [perform, reportShadow]
    split
    · rename_i g hg
      split_ifs at hg with hempty
      cases hg
      intro e he
      rcases Table.mem_put.mp he with rfl | ⟨hne, hold⟩
      · refine backed_evidence (fun old hold => ?_) hclean
        obtain ⟨hmem, hsource⟩ := Table.find?_eq_some.mp hold
        exact ⟨hsource, h old hmem⟩
      · rw [(r.evidence_frame _ now).1] at hne
        exact (h e hold).other fun heq => hne heq.symm
    · exact h
  | reportLive r now =>
    simp only [perform, reportLive]
    split
    · rename_i g hg
      split at hg
      · cases hg
      · split_ifs at hg
        cases hg
        exact h
    · exact h
  | clear => exact fun e he => absurd he List.not_mem_nil

/-! ## The evaluation of a snapshot -/

lemma shadowReports_snapshot (S : HandoffSetup) (g : HandoffExecutionRegistry) (now : ℚ) :
    S.shadowReports (g.snapshot now) =
      .ok (g.sortedShadow.map fun e => (e.sourceId, shadowRow now e)) := by
  have hreports : reports (g.snapshot now) "shadowSources" =
      .ok (g.sortedShadow.map (shadowRow now)) := by
    have hitems : ((Entries.get (g.snapshot now).entries "shadowSources" .none).orElse
        (.list [])) = .list (g.sortedShadow.map fun e => .dict (shadowRow now e)) := by
      simp only [snapshot, Value.entries, Entries.get_cons, if_true, Value.orElse]
      split_ifs with htruthy
      · rfl
      · simpa [Value.truthy] using htruthy
    rw [reports, hitems]
    simp [Value.iterate, bind, Except.bind, pure, Except.pure, List.filter_map, Value.isDict,
      Value.entries, Function.comp_def]
  rw [shadowReports, hreports]
  simp [bind, Except.bind, pure, Except.pure, Function.comp_def, shadowRow, Conversions.str]

lemma mem_of_executed {κ : Type} [DecidableEq κ] {keyed : List (κ × Entries)} {key : κ}
    (h : executed (reportFor keyed key) = true) : (key, reportFor keyed key) ∈ keyed := by
  unfold reportFor at h ⊢
  cases hfind : keyed.reverse.find? fun report => report.1 = key with
  | none => simp [hfind, executed, Value.truthy] at h
  | some report =>
    have hmem := List.mem_of_find?_eq_some hfind
    have hkey : report.1 = key := by simpa using List.find?_some hfind
    rw [Option.map_some, Option.getD_some, ← hkey]
    exact List.mem_reverse.mp hmem

lemma evidence_of_rendered {S : HandoffSetup} {facts : HandoffFacts} {policy : HandoffPolicy}
    {g : HandoffExecutionRegistry} {source : DeterministicSource}
    (h : Rendered S facts policy source (reportFor
      (g.sortedShadow.map fun e => (e.sourceId, shadowRow now e)) source.id)) :
    ∃ e, g.shadow.find? source.id = some e ∧ e.executionVerified = true ∧
      ageMs now e.reportedAt ≤ policy.executionStatusFreshMs ∧
      (source.contentHash = "" ∨ e.contentHash = source.contentHash) ∧
      facts.handoffTargetShowNs + prebufferNs policy ≤ e.bufferedUntilShowNs := by
  obtain ⟨e, he, hrow⟩ := List.mem_map.mp (mem_of_executed h.executed)
  obtain ⟨hid, hreport⟩ := Prod.mk.inj hrow
  obtain ⟨-, hexecuted, ⟨age, hage, hfresh⟩, hhash, bufferedUntil, hbuffered, hlate⟩ := h
  rw [← hreport] at hexecuted hage hhash hbuffered
  rw [sortedShadow, List.mem_insertionSort] at he
  refine ⟨e, Table.find?_eq_some.mpr ⟨he, hid⟩, ?_, ?_, ?_, ?_⟩
  · simp only [executed, shadowRow, Entries.get_cons, Bool.and_eq_true] at hexecuted
    simpa [Value.truthy] using hexecuted.2
  · have : ageMs now e.reportedAt = age := by simpa [shadowRow, Conversions.int] using hage
    rw [this]
    exact hfresh
  · simpa [hashOk, shadowRow, Conversions.str] using hhash
  · have : (e.bufferedUntilShowNs : ℤ) = bufferedUntil := by
      simpa [shadowRow, Conversions.int] using hbuffered
    rw [this]
    exact hlate

/-- **A takeover needs coverage.** In every run in which merged reports have one hash, a required
source that the evaluation of a snapshot marks as executed is covered, from the target to the end of
the prebuffer, by healthy rendered reports with the declared hash, if one is declared, and the last
report is fresh; provided that the evidence does not begin after the target. -/
theorem takeover_covered {S : HandoffSetup} {calls : List RegistryCall} {s : RegistryHistory}
    (h : Reaches step Clean {} calls s) {facts : HandoffFacts}
    {rawPolicy liveInputs deterministicSources : Value} {d : HandoffDecision} {row : SourceStatus}
    (hevaluated : S.evaluateHandoff facts rawPolicy liveInputs deterministicSources
      (s.registry.snapshot now) = .ok d) (hrow : row ∈ d.deterministicSources)
    (hready : row.executionReady = true)
    (hbegun : ∀ e ∈ s.registry.shadow.find? row.source.id, ∀ start ∈ e.contiguousFromShowNs,
      (start : ℤ) ≤ facts.handoffTargetShowNs) :
    (∃ hash, (row.source.contentHash = "" ∨ hash = row.source.contentHash) ∧
      ∀ t : ℚ, (facts.handoffTargetShowNs : ℚ) ≤ t →
        t ≤ facts.handoffTargetShowNs + prebufferNs d.policy →
          CoveredAt s.shadowLog row.source.id hash t) ∧
    ∃ last reportedAt, latest s.shadowLog row.source.id = some (last, reportedAt) ∧
      ageMs now reportedAt ≤ d.policy.executionStatusFreshMs := by
  have hbacked : AllBacked s :=
    h.invariant (I := AllBacked) (fun _ he => absurd he List.not_mem_nil)
      fun _ _ _ => allBacked_step
  obtain ⟨policy, inputs, keyed, liveReports, live, sources, -, -, hshadow, -, -, hsources, rfl⟩ :=
    evaluateHandoff_eq_ok.mp hevaluated
  rw [shadowReports_snapshot] at hshadow
  cases hshadow
  obtain ⟨source, -, hstatus⟩ := exists_of_forall₂ (forall₂_of_mapM hsources).flip hrow
  obtain ⟨rfl, -, hexecution⟩ := sourceStatus_eq_ok hstatus
  rw [hready] at hexecution
  obtain ⟨e, hfind, hverified, hfresh, hhash, hlate⟩ :=
    evidence_of_rendered (sourceExecutionReady_eq_true.mp hexecution)
  obtain ⟨hmem, hid⟩ := Table.find?_eq_some.mp hfind
  obtain ⟨⟨last, hlast⟩, hwhole, hcovered⟩ := hbacked e hmem
  obtain ⟨block, hblock⟩ := Option.isSome_iff_exists.mp (hwhole hverified)
  have hfrom : e.contiguousFromShowNs = some block.start ∧
      block.bufferedUntil = e.bufferedUntilShowNs := by
    rw [ShadowEvidence.block, if_pos hverified, Option.map_eq_some_iff] at hblock
    obtain ⟨start, hstart, rfl⟩ := hblock
    exact ⟨hstart, rfl⟩
  rw [hid] at hlast hcovered
  refine ⟨⟨e.contentHash, hhash, fun t hstart hend => hcovered block hblock t ?_ ?_⟩,
    last, e.reportedAt, hlast, hfresh⟩
  · have hbegins : ((block.start : ℤ) : ℚ) ≤ facts.handoffTargetShowNs :=
      Int.cast_le.mpr (hbegun e hfind block.start hfrom.1)
    exact le_trans (by simpa using hbegins) hstart
  · rw [hfrom.2]
    refine hend.trans ?_
    have hends : ((facts.handoffTargetShowNs + prebufferNs policy : ℤ) : ℚ) ≤
        ((e.bufferedUntilShowNs : ℤ) : ℚ) := Int.cast_le.mpr hlate
    rw [Int.cast_add, Int.cast_natCast] at hends
    exact hends

def exampleBlock (startShowNs bufferedUntilShowNs : ℤ) (contentHash : String) : RegistryCall :=
  .reportShadow
    { sourceId := "track-0"
      bufferedUntilShowNs := bufferedUntilShowNs
      contentHash := contentHash
      startShowNs := some startShowNs
      renderedFrames := 9600 } 10

def exampleTrack : Value := .list [.dict [("id", .str "track-0"), ("shadowCapable", .bool true),
    ("localAssetReady", .bool true), ("contentHash", .str "sha256:b")]]

/-- What the evaluation says of the sources at second 11. -/
def exampleReady (s : RegistryHistory) : Option (List Bool) :=
  (exampleHandoff.evaluateHandoff (exampleFacts [] (some 1000000000)) .none .none exampleTrack
    (s.registry.snapshot 11)).toOption.map fun d => d.deterministicSources.map
      SourceStatus.executionReady

theorem takeover_covered_twice :
    ∃ s : RegistryHistory, ∃ hash, ∀ t : ℚ, 1000000000 ≤ t → t ≤ 1250000000 →
      CoveredAt s.shadowLog "track-0" hash t := by
  have hrun : ((run (fun s call => if Clean s call then step s call else none) {}
      [exampleBlock 1000000000 1200000000 "sha256:b",
        exampleBlock 1200000000 1500000000 "sha256:b"]).map fun s =>
      ((exampleHandoff.evaluateHandoff (exampleFacts [] (some 1000000000)) .none .none exampleTrack
        (s.registry.snapshot 11)).toOption.map fun d => (d.deterministicSources.map fun row =>
          (row.executionReady, row.source.id), prebufferNs d.policy),
        (s.registry.shadow.find? "track-0").map ShadowEvidence.contiguousFromShowNs)) =
      some (some ([(true, "track-0")], 250000000), some (some 1000000000)) := by
    decide +kernel
  obtain ⟨s, hs, hall⟩ := Option.map_eq_some_iff.mp hrun
  obtain ⟨hevaluated, hbegun⟩ := Prod.mk.inj hall
  obtain ⟨d, hd, hrows⟩ := Option.map_eq_some_iff.mp hevaluated
  obtain ⟨hrows, hprebuffer⟩ := Prod.mk.inj hrows
  cases hresult : exampleHandoff.evaluateHandoff (exampleFacts [] (some 1000000000)) .none .none
      exampleTrack (s.registry.snapshot 11) with
  | error e => simp [hresult, Except.toOption] at hd
  | ok result =>
    obtain rfl : result = d := by simpa [hresult, Except.toOption] using hd
    obtain ⟨row, hrow, hboth⟩ : ∃ row ∈ result.deterministicSources,
        (row.executionReady, row.source.id) = (true, "track-0") := by
      have hmem : (true, "track-0") ∈ result.deterministicSources.map fun row =>
          (row.executionReady, row.source.id) := by
        rw [hrows]
        exact List.mem_singleton.mpr rfl
      exact List.mem_map.mp hmem
    obtain ⟨hready, hid⟩ := Prod.mk.inj hboth
    obtain ⟨⟨hash, -, hcovered⟩, -⟩ := takeover_covered (reaches_of_run hs) hresult hrow hready
      (by
        intro e he start hstart
        rw [hid, Option.mem_def] at he
        rw [he, Option.map_some, Option.some.injEq] at hbegun
        rw [hbegun, Option.mem_some_iff] at hstart
        rw [← hstart]
        decide)
    refine ⟨s, hash, fun t hstart hend => ?_⟩
    rw [hid, hprebuffer] at hcovered
    exact hcovered t (by simpa [exampleFacts] using hstart)
      (hend.trans (by norm_num [exampleFacts]))

/-- **What goes wrong.** A source is ready although the only report begins after the target; and it
is ready although the report for the target has another hash. -/
theorem takeover_uncovered :
    (∃ calls s, Reaches step Always {} calls s ∧ s.shadowLog.length = 1 ∧
      exampleReady s = some [true] ∧ ¬ CoveredAt s.shadowLog "track-0" "sha256:b" 1000000000) ∧
    (∃ calls s, Reaches step Always {} calls s ∧ s.shadowLog.length = 2 ∧
      exampleReady s = some [true] ∧ ¬ CoveredAt s.shadowLog "track-0" "sha256:b" 1000000000) := by
  constructor
  · refine ⟨[exampleBlock 1400000000 1500000000 "sha256:b"], reaches_always_of_any ?_⟩
    decide +kernel
  · refine ⟨[exampleBlock 1000000000 1200000000 "sha256:a",
      exampleBlock 1200000000 1500000000 "sha256:b"], reaches_always_of_any ?_⟩
    decide +kernel

end RegistryHistory

end StageForge
