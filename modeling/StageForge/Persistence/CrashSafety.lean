import StageForge.Library.TransitionSystem
import StageForge.Persistence.Segments

/-!
# Crash safety of the authorization audit

A repository appends records to the audit. It may stop after any step of the file system, and is
started anew with the same or other settings.
-/

namespace StageForge

open Python TransitionSystem

/-- The repository, the files, and the events whose records were written to them. -/
structure AuditNode where
  settings : AuditSettings
  cache : Option AuditState
  disk : AuditDisk
  events : List Value

inductive AuditAction
  | append (event : LogEvent)
  /-- An append that is stopped after some of its steps, and a start with new settings. -/
  | crash (event : LogEvent) (steps : ℕ) (settings : AuditSettings)

def durable (event : LogEvent) (steps : List FsStep) : List Value :=
  if (steps.any fun step => step matches .appendLine _) = true then [event.value.canon] else []

namespace AuditNode

variable (S : LogSetup)

/-- A repository that is started on an empty directory. -/
def init (settings : AuditSettings) : AuditNode :=
  { settings, cache := none, disk := .empty, events := [] }

def act (n : AuditNode) : AuditAction → AuditNode
  | .append event =>
    let run := S.appendAuthorizationAudit n.settings n.cache n.disk event
    { n with
      cache := run.cache
      disk := S.applyAll n.disk run.steps
      events := n.events ++ durable event run.steps }
  | .crash event steps settings =>
    let run := S.appendAuthorizationAudit n.settings n.cache n.disk event
    { settings
      cache := none
      disk := S.applyAll n.disk (run.steps.take steps)
      events := n.events ++ durable event (run.steps.take steps) }

def step (n : AuditNode) (a : AuditAction) : Option AuditNode := some (n.act S a)

end AuditNode

namespace LogSetup

variable (S : LogSetup)

/-- The files tell the last of some events, and the anchor stands for those before them and for all
that it stood for at first. -/
def Tells (origin : RetentionAnchor) (d : AuditDisk) (events : List Value) : Prop :=
  ∃ anchor pruned segments middle active head, S.Reads d anchor segments middle active head ∧
      anchor.previousHead = S.headAfter origin.previousHead pruned ∧
      anchor.prunedRecords = origin.prunedRecords + pruned.length ∧
      events = pruned ++ (segments.flatten ++ active)

/-- The files tell the events, and the active file can be continued. -/
def Keeps (origin : RetentionAnchor) (d : AuditDisk) (events : List Value) : Prop :=
  S.Tells origin d events ∧ skip (unfinished d.active) = []

variable {S} {d : AuditDisk} {events : List Value} {origin anchor : RetentionAnchor}
  {pruned : List Value} {segments : List (List Value)} {middle head : String}
  {active : List Value}

lemma unfinished_none : unfinished none = [] := by
  have hempty : decode (Option.getD none ByteArray.empty) = some [] := decode_encode []
  rw [unfinished, hempty]
  rfl

lemma keeps_empty : S.Keeps .initial .empty [] := by
  refine ⟨⟨.initial, [], [], zeroHash, [], zeroHash, ⟨rfl, .nil, [], decode_encode [], .nil⟩, rfl,
    rfl, rfl⟩, ?_⟩
  rw [show AuditDisk.empty.active = none from rfl, unfinished_none]
  rfl

lemma Tells.scan (h : S.Tells origin d events) (settings : AuditSettings) :
    ∃ report state, S.scan settings d = .ok (report, state) ∧
      report.totalRecords = origin.prunedRecords + events.length ∧
      report.head = S.headAfter origin.previousHead events := by
  obtain ⟨anchor, pruned, segments, middle, active, head, hreads, hhead, hcount, rfl⟩ := h
  refine ⟨_, _, hreads.scan_eq settings, ?_, ?_⟩
  · simp only [AuditDisk.report, hcount, List.length_append]
    omega
  · rw [headAfter_append, ← hhead]
    exact hreads.head_eq

lemma Reads.tells (h : S.Reads d anchor segments middle active head) :
    S.Tells anchor d (segments.flatten ++ active) :=
  ⟨anchor, [], segments, middle, active, head, h, rfl, rfl, rfl⟩

/-! ## Steps -/

lemma pruneSteps_cases (settings : AuditSettings) :
    ∀ step ∈ S.pruneSteps settings d anchor segments,
      (∃ anchor, step = .replaceAnchor anchor) ∨ ∃ sequence, step = .unlink sequence := by
  intro step hstep
  have hunlink : ∀ {sequences : List ℕ}, step ∈ sequences.map FsStep.unlink →
      ∃ sequence, step = .unlink sequence := fun hmem =>
    (List.mem_map.mp hmem).imp fun _ h => h.2.symm
  unfold pruneSteps at hstep
  split_ifs at hstep
  · exact .inr (hunlink hstep)
  · rcases List.mem_cons.mp hstep with rfl | hstep
    · exact .inl ⟨_, rfl⟩
    · exact .inr (hunlink hstep)

lemma active_applyAll {steps : List FsStep} (h : ∀ step ∈ steps,
      (∃ anchor, step = .replaceAnchor anchor) ∨ ∃ sequence, step = .unlink sequence) :
    (S.applyAll d steps).active = d.active := by
  induction steps generalizing d with
  | nil => rfl
  | cons step steps ih =>
    have hrest := ih (d := S.apply d step) fun s hs => h s (List.mem_cons_of_mem step hs)
    rcases h step List.mem_cons_self with ⟨anchor, rfl⟩ | ⟨sequence, rfl⟩
    · exact hrest
    · exact hrest

lemma active_rotation (settings : AuditSettings) {bytes : ByteArray}
    (hactive : d.active = some bytes) (k : ℕ) :
    (S.applyAll d ((S.rotationSteps settings d anchor segments active).take (k + 1))).active =
      none := by
  have hmoved : (S.apply d (.moveActive (anchor.nextSequence + segments.length))).active = none := by
    simp only [apply, hactive]
  rw [rotationSteps, List.take_succ_cons, applyAll_cons, active_applyAll, hmoved]
  exact fun step hstep => pruneSteps_cases settings step (List.mem_of_mem_take hstep)

lemma keeps_after (hhead : anchor.previousHead = S.headAfter origin.previousHead pruned)
    (hcount : anchor.prunedRecords = origin.prunedRecords + pruned.length)
    (segments : List (List Value)) (active : List Value) (dropped : ℕ) :
    (anchor.after S (segments.take dropped)).previousHead =
        S.headAfter origin.previousHead (pruned ++ (segments.take dropped).flatten) ∧
      (anchor.after S (segments.take dropped)).prunedRecords =
        origin.prunedRecords + (pruned ++ (segments.take dropped).flatten).length ∧
      pruned ++ (segments.flatten ++ active) =
        pruned ++ (segments.take dropped).flatten ++ ((segments.drop dropped).flatten ++ active) := by
  refine ⟨?_, ?_, ?_⟩
  · rw [headAfter_append, ← hhead]
    rfl
  · rw [List.length_append, ← Nat.add_assoc, ← hcount]
    rfl
  · rw [List.append_assoc, ← List.append_assoc (List.flatten _), ← List.flatten_append,
      List.take_append_drop]

/-- **Wherever a rotation stops, the files tell the same events**, and no active file is left. -/
lemma keeps_rotation (h : S.Reads d anchor segments middle active head)
    (hhead : anchor.previousHead = S.headAfter origin.previousHead pruned)
    (hcount : anchor.prunedRecords = origin.prunedRecords + pruned.length)
    (settings : AuditSettings) (hbytes : d.activeBytes ≠ 0) (k : ℕ) :
    S.Keeps origin (S.applyAll d ((S.rotationSteps settings d anchor segments active).take (k + 1)))
      (pruned ++ (segments.flatten ++ active)) := by
  obtain ⟨bytes, hactive⟩ := exists_active hbytes
  obtain ⟨dropped, hreads⟩ := (h.moveActive hactive).prune settings k
  obtain ⟨hhead', hcount', hevents⟩ := keeps_after hhead hcount (segments ++ [active]) [] dropped
  refine ⟨⟨_, _, _, _, _, _, hreads, hhead', hcount', ?_⟩, ?_⟩
  · rw [← hevents]
    simp
  · rw [active_rotation settings hactive k, unfinished_none]
    rfl

lemma durable_stepsBefore (settings : AuditSettings) (event : LogEvent) (line : List Char) (k : ℕ) :
    durable event ((S.stepsBefore settings d anchor segments active line).take k) = [] := by
  have hnone : ∀ step ∈ S.stepsBefore settings d anchor segments active line,
      ∀ l, step ≠ .appendLine l := by
    intro step hstep l
    unfold stepsBefore at hstep
    split_ifs at hstep
    · rcases List.mem_cons.mp hstep with rfl | hstep
      · exact FsStep.noConfusion
      · rcases pruneSteps_cases settings step hstep with ⟨_, rfl⟩ | ⟨_, rfl⟩
        · exact FsStep.noConfusion
        · exact FsStep.noConfusion
    · exact absurd hstep List.not_mem_nil
  rw [durable, if_neg]
  intro hany
  obtain ⟨step, hstep, hline⟩ := List.any_eq_true.mp hany
  cases step with
  | appendLine l => exact hnone _ (List.mem_of_mem_take hstep) l rfl
  | _ => exact absurd hline (by simp)

lemma keeps_stepsBefore (h : S.Reads d anchor segments middle active head)
    (hhead : anchor.previousHead = S.headAfter origin.previousHead pruned)
    (hcount : anchor.prunedRecords = origin.prunedRecords + pruned.length)
    (hblank : skip (unfinished d.active) = []) (settings : AuditSettings) (line : List Char)
    (k : ℕ) :
    S.Keeps origin (S.applyAll d ((S.stepsBefore settings d anchor segments active line).take k))
      (pruned ++ (segments.flatten ++ active)) := by
  have htells : S.Keeps origin d (pruned ++ (segments.flatten ++ active)) :=
    ⟨⟨anchor, pruned, segments, middle, active, head, h, hhead, hcount, rfl⟩, hblank⟩
  unfold stepsBefore
  split_ifs with hrotates
  · cases k with
    | zero => exact htells
    | succ k => exact keeps_rotation h hhead hcount settings hrotates.1 k
  · rw [List.take_nil]
    exact htells

lemma Keeps.appendLine (h : S.Keeps origin d events) (event : LogEvent) : S.Keeps origin
      (S.apply d (.appendLine (S.encoded (S.headAfter origin.previousHead events) event.value)))
      (events ++ [event.value.canon]) := by
  obtain ⟨⟨anchor, pruned, segments, middle, active, head, hreads, hhead, hcount, rfl⟩, hblank⟩ := h
  have hlast : S.headAfter origin.previousHead (pruned ++ (segments.flatten ++ active)) = head := by
    rw [headAfter_append, ← hhead]
    exact hreads.head_eq.symm
  obtain ⟨hfile, hopen⟩ := fileChain_append hreads.active hblank event
  rw [hlast]
  refine ⟨⟨anchor, pruned, segments, middle, active ++ [event.value.canon], _,
    ⟨hreads.retention, hreads.segments, hfile⟩, hhead, hcount, ?_⟩, ?_⟩
  · simp only [List.append_assoc]
  · rw [apply, hopen]
    rfl

variable {cache : Option AuditState}

/-- **What is written is kept**, and the repository knows it, if the files are kept up to then. -/
lemma append_written (h : S.Reads d anchor segments middle active head)
    (hhead : anchor.previousHead = S.headAfter origin.previousHead pruned)
    (settings : AuditSettings) (hknows : S.Knows cache d)
    {event : LogEvent} (hsize : (S.canonical event.value).size ≤ 8192)
    (hkeeps : S.Keeps origin (S.applyAll d (S.stepsBefore settings d anchor segments active
      (S.encoded head event.value))) (pruned ++ (segments.flatten ++ active))) :
    let run := S.appendAuthorizationAudit settings cache d event
    run.steps = S.stepsBefore settings d anchor segments active (S.encoded head event.value) ++
        [.appendLine (S.encoded head event.value)] ∧
      S.Knows run.cache (S.applyAll d run.steps) ∧
      S.Keeps origin (S.applyAll d run.steps)
        (pruned ++ (segments.flatten ++ active) ++ [event.value.canon]) := by
  obtain ⟨state, hknows', rfl, hrun⟩ := append_steps h settings hknows hsize
  have hlast : S.headAfter origin.previousHead (pruned ++ (segments.flatten ++ active)) =
      state.head := by
    rw [headAfter_append, ← hhead]
    exact h.head_eq.symm
  have hwritten := hkeeps.appendLine event
  rw [hlast] at hwritten
  rw [hrun]
  refine ⟨rfl, ?_, ?_⟩
  · rw [applyAll_append]
    exact knows_writeRecord hknows' hkeeps.2 event
  · rw [applyAll_append]
    exact hwritten

lemma durable_append_line (event : LogEvent) (before : List FsStep) (line : List Char) :
    durable event (before ++ [.appendLine line]) = [event.value.canon] := by
  simp [durable]

/-- **An append keeps the files**, wherever it stops, and what the repository knows of them. -/
theorem Keeps.append (h : S.Keeps origin d events) (settings : AuditSettings)
    (hknows : S.Knows cache d) (event : LogEvent) :
    let run := S.appendAuthorizationAudit settings cache d event
    S.Knows run.cache (S.applyAll d run.steps) ∧
      ∀ k, S.Keeps origin (S.applyAll d (run.steps.take k))
        (events ++ durable event (run.steps.take k)) := by
  by_cases hsize : 8192 < (S.canonical event.value).size
  · rw [appendAuthorizationAudit, if_pos hsize]
    refine ⟨hknows, fun k => ?_⟩
    rw [List.take_nil, show durable event [] = [] from rfl, List.append_nil]
    exact h
  have hfits : (S.canonical event.value).size ≤ 8192 := not_lt.mp hsize
  obtain ⟨⟨anchor, pruned, segments, middle, active, head, hreads, hhead, hcount, rfl⟩, hblank⟩ := h
  have hbefore := keeps_stepsBefore hreads hhead hcount hblank settings (S.encoded head event.value)
  have hnone : ∀ k, durable event ((S.stepsBefore settings d anchor segments active
      (S.encoded head event.value)).take k) = [] :=
    durable_stepsBefore settings event (S.encoded head event.value)
  have hwhole := hbefore (S.stepsBefore settings d anchor segments active
    (S.encoded head event.value)).length
  rw [List.take_length] at hwhole
  obtain ⟨hsteps, hknows', hkeeps⟩ := append_written hreads hhead settings hknows hfits hwhole
  refine ⟨hknows', fun k => ?_⟩
  rw [hsteps] at hkeeps ⊢
  by_cases hk : k ≤ (S.stepsBefore settings d anchor segments active
      (S.encoded head event.value)).length
  · rw [List.take_append_of_le_length hk, hnone, List.append_nil]
    exact hbefore k
  · rw [List.take_of_length_le (by rw [List.length_append, List.length_singleton]; omega),
      durable_append_line]
    exact hkeeps

/-- **After a rotation that is completed**, no more segments are there than are to be kept. -/
lemma retained_of_rotation (h : S.Reads d anchor segments middle active head)
    (settings : AuditSettings) (hknows : S.Knows cache d)
    {event : LogEvent} {record : Value}
    (hok : (S.appendAuthorizationAudit settings cache d event).result = .ok record)
    (hmoved : ∃ sequence, FsStep.moveActive sequence ∈
      (S.appendAuthorizationAudit settings cache d event).steps) :
    ∃ anchor' segments' middle' head',
      S.Reads (S.applyAll d (S.appendAuthorizationAudit settings cache d event).steps) anchor'
          segments' middle' [event.value.canon] head' ∧
        segments'.length ≤ settings.retainSegments ∧
        (S.applyAll d (S.appendAuthorizationAudit settings cache d event).steps).stale
          anchor'.nextSequence = [] := by
  have hsize : (S.canonical event.value).size ≤ 8192 := by
    by_contra hlarge
    rw [appendAuthorizationAudit, if_pos (by omega)] at hok
    cases hok
  obtain ⟨state, -, hhead, hrun⟩ := append_steps h settings hknows hsize
  have hrotates : settings.Rotates d.activeBytes (encode (S.encoded head event.value)).size := by
    by_contra hnone
    rw [hrun, stepsBefore, if_neg hnone] at hmoved
    obtain ⟨sequence, hmem⟩ := hmoved
    simp [writeRecord] at hmem
  obtain ⟨bytes, hactive⟩ := exists_active hrotates.1
  obtain ⟨dropped, hpruned, hretained, hstale⟩ := (h.moveActive hactive).pruned settings
  have hsteps : S.applyAll d (S.appendAuthorizationAudit settings cache d event).steps =
      S.apply (S.applyAll (S.apply d (.moveActive (anchor.nextSequence + segments.length)))
        (S.pruneSteps settings (S.apply d (.moveActive (anchor.nextSequence + segments.length)))
          anchor (segments ++ [active]))) (.appendLine (S.encoded head event.value)) := by
    rw [hrun, stepsBefore, if_pos hrotates, rotationSteps]
    simp only [writeRecord, hhead]
    rw [applyAll_append, applyAll_cons]
    rfl
  have hblank : skip (unfinished (S.applyAll
      (S.apply d (.moveActive (anchor.nextSequence + segments.length)))
      (S.pruneSteps settings (S.apply d (.moveActive (anchor.nextSequence + segments.length)))
        anchor (segments ++ [active]))).active) = [] := by
    have hmoved : (S.apply d (.moveActive (anchor.nextSequence + segments.length))).active =
        none := by
      simp only [apply, hactive]
    rw [active_applyAll (pruneSteps_cases settings), hmoved, unfinished_none]
    rfl
  have hfile := (fileChain_append hpruned.active hblank event).1
  rw [hsteps]
  exact ⟨_, _, _, _, ⟨hpruned.retention, hpruned.segments, hfile⟩, hretained, hstale⟩

end LogSetup

open LogSetup

/-! ## Runs -/

section

variable {S : LogSetup} {settings : AuditSettings} {as : List AuditAction} {n : AuditNode}

/-- The files are kept, and the repository knows them. -/
def AuditNode.Safe (S : LogSetup) (n : AuditNode) : Prop :=
  S.Keeps .initial n.disk n.events ∧ S.Knows n.cache n.disk

lemma AuditNode.Safe.step (h : n.Safe S) (a : AuditAction) : (n.act S a).Safe S := by
  cases a with
  | append event =>
    obtain ⟨hknows, hkeeps⟩ := h.1.append n.settings h.2 event
    have hwhole := hkeeps (S.appendAuthorizationAudit n.settings n.cache n.disk event).steps.length
    rw [List.take_length] at hwhole
    exact ⟨hwhole, hknows⟩
  | crash event k settings =>
    obtain ⟨-, hkeeps⟩ := h.1.append n.settings h.2 event
    exact ⟨hkeeps k, fun _ hstate => absurd hstate (by simp [AuditNode.act])⟩

lemma safe_of_reaches
    (h : Reaches (AuditNode.step S) Always (AuditNode.init settings) as n) : n.Safe S := by
  refine Reaches.invariant (I := AuditNode.Safe S) ?_ ?_ h
  · exact ⟨keeps_empty, fun _ hstate => absurd hstate (by simp [AuditNode.init])⟩
  · intro t a u ht _ hs
    rw [← Option.some.inj hs]
    exact ht.step a

/-- **The audit survives crashes.** -/
theorem crash_safe_audit (S : LogSetup) (settings : AuditSettings) (as : List AuditAction)
    (n : AuditNode) (h : Reaches (AuditNode.step S) Always (AuditNode.init settings) as n) :
    (∀ fresh : AuditSettings, ∃ report state, S.scan fresh n.disk = .ok (report, state) ∧
      report.totalRecords = n.events.length ∧ report.head = S.headAfter zeroHash n.events) ∧
    ∀ (event : LogEvent) (record : Value),
      (S.appendAuthorizationAudit n.settings n.cache n.disk event).result = .ok record →
      (∃ sequence, FsStep.moveActive sequence ∈
        (S.appendAuthorizationAudit n.settings n.cache n.disk event).steps) →
      ∀ fresh : AuditSettings, ∃ report state,
        S.scan fresh (n.act S (.append event)).disk = .ok (report, state) ∧
        report.retainedSegments ≤ n.settings.retainSegments ∧ report.stalePrunedFiles = 0 := by
  obtain ⟨hkeeps, hknows⟩ := safe_of_reaches h
  obtain ⟨anchor, _, segments, middle, active, head, hreads, -⟩ := hkeeps.1
  refine ⟨fun fresh => ?_, fun event record hok hmoved fresh => ?_⟩
  · obtain ⟨report, state, hscan, hcount, hhead⟩ := hkeeps.1.scan fresh
    exact ⟨report, state, hscan, hcount.trans (Nat.zero_add _), hhead⟩
  obtain ⟨anchor', segments', middle', head', hafter, hretained, hstale⟩ :=
    retained_of_rotation hreads n.settings hknows hok hmoved
  refine ⟨_, _, hafter.scan_eq fresh, hretained, ?_⟩
  rw [AuditDisk.report, hstale]
  rfl

end

def exampleAuditSettings : AuditSettings := { rotateBytes := 4194304, retainSegments := 8 }

/-- A repository that has appended a record, and was stopped before it wrote another. -/
def exampleAudit : AuditNode :=
  ((AuditNode.init exampleAuditSettings).act exampleLog (.append (exampleDecision "allow"))).act
    exampleLog (.crash (exampleDecision "deny") 0 exampleAuditSettings)

theorem crash_safe_audit_example : (∀ fresh : AuditSettings, ∃ report state,
      exampleLog.scan fresh exampleAudit.disk = .ok (report, state) ∧
      report.totalRecords = exampleAudit.events.length ∧
      report.head = exampleLog.headAfter zeroHash exampleAudit.events) ∧
    ∀ (event : LogEvent) (record : Value),
      (exampleLog.appendAuthorizationAudit exampleAudit.settings exampleAudit.cache
        exampleAudit.disk event).result = .ok record →
      (∃ sequence, FsStep.moveActive sequence ∈
        (exampleLog.appendAuthorizationAudit exampleAudit.settings exampleAudit.cache
          exampleAudit.disk event).steps) →
      ∀ fresh : AuditSettings, ∃ report state,
        exampleLog.scan fresh (exampleAudit.act exampleLog (.append event)).disk =
          .ok (report, state) ∧
        report.retainedSegments ≤ exampleAudit.settings.retainSegments ∧
        report.stalePrunedFiles = 0 :=
  crash_safe_audit exampleLog exampleAuditSettings
    [.append (exampleDecision "allow"), .crash (exampleDecision "deny") 0 exampleAuditSettings]
    exampleAudit (.snoc (.snoc .refl trivial rfl) trivial rfl)

end StageForge
