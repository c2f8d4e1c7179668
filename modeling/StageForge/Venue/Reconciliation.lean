import StageForge.Library.PythonList

/-!
# A committed venue patch, compared with what is there

A committed patch layer maps each requirement to a provider of the venue. A later look at the venue
compares every mapping with the plan of today and with the evidence that adapters have reported.
-/

namespace StageForge

open Python

/-! ## Statuses and findings -/

inductive RealizationStatus
  | compatible
  | drift
  | blocked
  deriving DecidableEq

inductive EvidenceStatus
  | unverified
  | healthy
  | unhealthy
  deriving DecidableEq

inductive OverallStatus
  | noActivePatch
  | blocked
  | drift
  | unverified
  | realized
  deriving DecidableEq

inductive SuggestedAction
  | none
  | rollbackOrRepair
  | proposeRepair
  | verifyExecution
  deriving DecidableEq

/-- What the tests of a mapping have found so far. -/
structure Findings where
  status : RealizationStatus := .compatible
  reasons : List String := []
  deriving DecidableEq

/-- A test that fails writes the status and adds its reason. -/
def Findings.note (f : Findings) (failed : Bool) (status : RealizationStatus) (reason : String) :
    Findings :=
  if failed then ⟨status, f.reasons ++ [reason]⟩ else f

/-! ## What is known of a mapping -/

def dictAt (v : Value) (key : String) : Option Value := (v.get? key).filter Value.isDict

/-- `d[key] = …` for each in turn: the last one with the key. -/
def lastAt {α : Type} (rows : List (String × α)) (key : String) : Option α :=
  rows.reverse.lookup key

section

variable (C : Conversions)

def domainFromPatchKey (patchKey : String) : String :=
  if '.' ∈ patchKey.toList then String.ofList (patchKey.toList.takeWhile (· ≠ '.')) else "other"

def providerKey : Option Value → String × String
  | none => ("", "")
  | some provider =>
    (C.str ((provider.get? "type").getD (.str "")), C.str ((provider.get? "id").getD (.str "")))

/-- `_target`. -/
def targetOf : Option Value → String
  | none => ""
  | some mapping => C.str (((mapping.get? "target").getD .none).orElse (.str ""))

def currentRows (plan : Value) (requirements : List Value) :
    Except Error (List (String × Value)) := do
  let byReq := (requirements.filter Value.isDict).map fun item =>
    (C.str ((item.get? "id").getD .none), item)
  let items ← ((← plan.get "devicePlan" (.list [])).orElse (.list [])).iterate
  return (items.filter Value.isDict).map fun item =>
    let reqId := C.str ((item.get? "id").getD (.str ""))
    let req := (lastAt byReq reqId).getD (.dict [])
    (C.str (((req.get? "patchKey").getD .none).orElse (.str reqId)), item)

/-- The plan of today, the evidence and who holds what. -/
structure RealizationContext where
  currentRows : List (String × Value)
  evidenceByKey : List (String × Value)
  authority : List (String × String)

/-- What `evaluate_realization` reads before it goes through the mappings. -/
def RealizationContext.read (plan : Value) (requirements : List Value) (evidenceSnapshot : Value)
    (authority : List (String × String)) : Except Error RealizationContext := do
  let rows ← StageForge.currentRows C plan requirements
  let reports ← (← evidenceSnapshot.get "reports" (.list [])).iterate
  pure
    { currentRows := rows
      evidenceByKey := (reports.filter Value.isDict).map fun item =>
        (C.str ((item.get? "patchKey").getD .none), item)
      authority }

/-- A mapping of the committed layer beside what there is today. -/
structure MappingView where
  patchKey : String
  expected : Value
  current : Option Value
  evidence : Option Value
  expectedAuthority : Option String
  deriving DecidableEq

def RealizationContext.view (ctx : RealizationContext) (patchKey : String) (value : Value) :
    MappingView :=
  let expected := if value.isDict then value else .dict []
  let patchDoc := (dictAt expected "patch").getD (.dict [])
  { patchKey
    expected
    current := lastAt ctx.currentRows patchKey
    evidence := lastAt ctx.evidenceByKey patchKey
    expectedAuthority :=
      [(ctx.authority.lookup patchKey).getD "",
        (ctx.authority.lookup (domainFromPatchKey patchKey)).getD "",
        strip (C.str ((patchDoc.get? "authority").getD (.str ""))),
        strip (C.str ((expected.get? "authority").getD (.str "")))].find? (· ≠ "") }

namespace MappingView

variable (m : MappingView)

def decision : Value := ((m.current.bind (dictAt · "decision")).getD (.dict []))

def currentProvider : Option Value := m.current.bind (dictAt · "provider")

def timing : Value := ((m.current.bind (dictAt · "timing")).getD (.dict []))

def expectedProvider : Option Value := dictAt m.expected "provider"

def freshEvidence : Option Value :=
  m.evidence.filter fun evidence => ((evidence.get? "fresh").getD .none).truthy

/-- The plan has the mapping, but no provider or time for it. -/
def unavailable : Bool :=
  m.decision.get? "status" = some (.str "blocked") ∨ m.timing.get? "status" = some (.str "blocked") ∨
    m.currentProvider = none

def targetChanged : Bool := let currentPatch := m.current.bind (dictAt · "patch")
  targetOf C currentPatch ≠ "" ∧ targetOf C (some m.expected) ≠ "" ∧
    targetOf C currentPatch ≠ targetOf C (some m.expected)

/-- `evidence.get(key)` is something, and as a text not the expected one, which is some text too. -/
def differs (evidence : Value) (key expected : String) : Bool :=
  ((evidence.get? key).getD .none).truthy ∧ expected ≠ "" ∧
    C.str ((evidence.get? key).getD .none) ≠ expected

def unhealthy (evidence : Value) : Bool := !((evidence.get? "healthy").getD .none).truthy

def otherProvider (evidence : Value) : Bool := differs C evidence "providerId"
    (C.str (((m.expectedProvider.getD (.dict [])).get? "id" |>.getD .none).orElse (.str "")))

def otherTarget (evidence : Value) : Bool :=
  differs C evidence "target" (targetOf C (some m.expected))

def otherHolder (evidence : Value) : Bool :=
  differs C evidence "authorityHolder" (m.expectedAuthority.getD "")

def planFindings : Findings := match m.current with
  | none => Findings.note {} true .blocked "current venue plan no longer contains this mapping"
  | some _ =>
    if m.unavailable then
      Findings.note {} true .blocked "current venue provider or timing is unavailable"
    else
      (Findings.note {} (providerKey C m.currentProvider ≠ providerKey C m.expectedProvider) .drift
        "resolved provider changed since commit").note
          (m.targetChanged C) .drift "venue patch target changed since commit"

def findings : Findings := match m.freshEvidence with
  | none =>
    let f := m.planFindings C
    { f with reasons := f.reasons ++ ["fresh execution evidence unavailable"] }
  | some evidence =>
    ((((m.planFindings C).note (unhealthy evidence) .blocked
      "execution adapter reports unhealthy realization").note (m.otherProvider C evidence) .drift
      "execution provider differs from committed provider").note (m.otherTarget C evidence) .drift
      "execution target differs from committed target").note (m.otherHolder C evidence) .blocked
      "authority holder differs from committed ownership"

/-- What is said of the mapping where it is a blocker or a warning. -/
def text : String := m.patchKey ++ ": " ++ "; ".intercalate (m.findings C).reasons

end MappingView

structure MappingReport where
  patchKey : String
  domain : String
  expected : Value
  currentProvider : Option Value
  currentTiming : Value
  status : RealizationStatus
  realized : Bool
  evidenceStatus : EvidenceStatus
  evidence : Option Value
  expectedAuthority : Option String
  reasons : List String
  deriving DecidableEq

def MappingView.report (m : MappingView) : MappingReport where
  patchKey := m.patchKey
  domain := domainFromPatchKey m.patchKey
  expected := m.expected
  currentProvider := m.currentProvider
  currentTiming := m.timing
  status := (m.findings C).status
  realized := m.freshEvidence.any fun evidence =>
    (m.findings C).status = .compatible ∧ MappingView.unhealthy evidence = false
  evidenceStatus := match m.freshEvidence with
    | none => .unverified
    | some evidence => if MappingView.unhealthy evidence then .unhealthy else .healthy
  evidence := m.evidence
  expectedAuthority := m.expectedAuthority
  reasons := (m.findings C).reasons

/-! ## All mappings -/

structure Realization where
  active : Bool
  transactionId : Option Value := none
  patchRevision : Option Value := none
  venueId : Option Value := none
  venueName : Option Value := none
  status : OverallStatus
  safeToContinue : Bool
  realized : Bool
  checkedAt : String
  planReadiness : Option Value := none
  planGrade : Option Value := none
  mappings : List MappingReport
  blockers : List String
  warnings : List String
  suggestedAction : SuggestedAction
  deriving DecidableEq

/-- `active.get('mappings') or {}`, whose items are gone through in the order of their keys. -/
def committedMappings (active : Value) : Except Error (List (String × Value)) :=
  match ((active.get? "mappings").getD .none).orElse (.dict []) with
  | .dict entries => .ok (entries.mergeSort fun a b => a.1 ≤ b.1)
  | _ => .error .attributeError

def evaluateRealization (now : String) (active plan : Value) (requirements : List Value)
    (evidenceSnapshot : Value) (authority : List (String × String)) : Except Error Realization :=
  if !active.isDict then
    .ok
      { active := false
        status := .noActivePatch
        safeToContinue := true
        realized := false
        checkedAt := now
        mappings := []
        blockers := []
        warnings := []
        suggestedAction := .none }
  else do
    let ctx ← RealizationContext.read C plan requirements evidenceSnapshot authority
    let committed ← committedMappings active
    let views := committed.map fun (patchKey, value) => ctx.view C patchKey value
    let blockers := (views.filter fun m => (m.report C).status = .blocked).map (MappingView.text C)
    let warnings := (views.filter fun m => (m.report C).status = .drift ∨
      (m.report C).status = .compatible ∧ (m.report C).realized = false).map (MappingView.text C)
    let hasDrift := views.any fun m => (m.report C).status = .drift
    let hasUnverified := views.any fun m => m.freshEvidence.isNone
    let (overall, suggested) : OverallStatus × SuggestedAction :=
      if blockers ≠ [] then (.blocked, .rollbackOrRepair)
      else if hasDrift then (.drift, .proposeRepair)
      else if hasUnverified then (.unverified, .verifyExecution)
      else (.realized, .none)
    pure
      { active := true
        transactionId := active.get? "transactionId"
        patchRevision := active.get? "patchRevision"
        venueId := active.get? "venueId"
        venueName := active.get? "venueName"
        status := overall
        safeToContinue := blockers = []
        realized := overall = .realized
        checkedAt := now
        planReadiness := plan.get? "readiness"
        planGrade := plan.get? "grade"
        mappings := views.map (MappingView.report C)
        blockers
        warnings
        suggestedAction := suggested }

end

/-! ## Who wins -/

namespace MappingView

variable (C : Conversions) (m : MappingView)

/-- The plan has lost the mapping, or fresh evidence says that it is not healthy. -/
def Hidable : Prop :=
  m.current = none ∨ m.unavailable = true ∨ ∃ e ∈ m.freshEvidence, unhealthy e = true

/-- Fresh evidence names another holder than the committed one. -/
def HeldByOther : Prop := ∃ e ∈ m.freshEvidence, m.otherHolder C e = true

def Faulty : Prop := m.Hidable ∨ m.HeldByOther C

/-- Fresh evidence names another provider or target than the committed one. -/
def DriftReported : Prop :=
  ∃ e ∈ m.freshEvidence, m.otherProvider C e = true ∨ m.otherTarget C e = true

variable {C m}

lemma note_status (f : Findings) (failed : Bool) (status : RealizationStatus) (reason : String) :
    (f.note failed status reason).status = if failed then status else f.status := by
  cases failed <;> rfl

lemma unavailable_of_lost (h : m.current = none) : m.unavailable = true := by
  refine decide_eq_true (Or.inr (Or.inr ?_))
  rw [currentProvider, h]
  rfl

lemma planFindings_status : (m.planFindings C).status = .blocked ↔ m.unavailable = true := by
  unfold planFindings
  cases hcurrent : m.current with
  | none => simp [note_status, unavailable_of_lost hcurrent]
  | some row =>
    dsimp only
    by_cases h : m.unavailable = true
    · rw [if_pos h, note_status]
      exact iff_of_true rfl h
    · rw [if_neg h, note_status, note_status]
      refine iff_of_false ?_ h
      split_ifs <;> simp

/-- **The last test wins.** Another holder blocks whatever was found before; another provider or target
turns a block into a drift. -/
lemma status_eq_blocked_iff : (m.findings C).status = .blocked ↔
      m.HeldByOther C ∨ m.Hidable ∧ ¬ m.DriftReported C := by
  have hidable : m.Hidable ↔ m.unavailable = true ∨ ∃ e ∈ m.freshEvidence, unhealthy e = true := by
    rw [Hidable, ← or_assoc]
    exact or_congr_left (or_iff_right_of_imp unavailable_of_lost)
  rw [hidable, HeldByOther, DriftReported, findings]
  cases hfresh : m.freshEvidence with
  | none => simpa using planFindings_status
  | some e =>
    simp only [note_status, Option.mem_def, Option.some.injEq, exists_eq_left']
    rw [← planFindings_status (C := C)]
    cases m.otherHolder C e <;> cases m.otherTarget C e <;> cases m.otherProvider C e <;>
      cases unhealthy e <;> simp

end MappingView

/-! ## Blocked stays blocked -/

section

variable {C : Conversions} {now : String} {active plan evidenceSnapshot : Value}
variable {requirements : List Value} {authority : List (String × String)}
variable {ctx : RealizationContext} {r : Realization} {m : MappingView}

/-- The result gives the mapping the status `blocked`, lists it in the blockers and is not safe. -/
structure ReportedBlocked (C : Conversions) (r : Realization) (m : MappingView) : Prop where
  status : ∃ report ∈ r.mappings, report = m.report C ∧ report.status = .blocked
  blocker : m.text C ∈ r.blockers
  notSafe : r.safeToContinue = false

lemma evaluateRealization_eq_ok (hactive : active.isDict = true)
    (h : evaluateRealization C now active plan requirements evidenceSnapshot authority = .ok r) :
    ∃ ctx committed, RealizationContext.read C plan requirements evidenceSnapshot authority = .ok ctx ∧
      committedMappings active = .ok committed ∧
      r.mappings = (committed.map fun item => (ctx.view C item.1 item.2).report C) ∧
      r.blockers = ((committed.map fun item => ctx.view C item.1 item.2).filter fun m =>
        (m.report C).status = .blocked).map (MappingView.text C) ∧
      r.safeToContinue = decide (r.blockers = []) := by
  rw [evaluateRealization, hactive, if_neg (by decide)] at h
  obtain ⟨ctx, hctx, h⟩ := bind_eq_ok.mp h
  obtain ⟨committed, hcommitted, h⟩ := bind_eq_ok.mp h
  cases h
  exact ⟨ctx, committed, hctx, hcommitted, List.map_map, rfl, rfl⟩

/-- **When a fault blocks.** For every result and every mapping of the active layer: a lost, unavailable
or unhealthy mapping, or one that is held by another than committed, is blocked and reported if and only
if no drift that fresh evidence reports hides the fault. Another holder cannot be hidden. -/
theorem blocked_stays_iff {patchKey : String} {value : Value} {committed : List (String × Value)}
    (h : evaluateRealization C now active plan requirements evidenceSnapshot authority = .ok r)
    (hactive : active.isDict = true)
    (hctx : RealizationContext.read C plan requirements evidenceSnapshot authority = .ok ctx)
    (hcommitted : committedMappings active = .ok committed) (hmem : (patchKey, value) ∈ committed) :
    ((ctx.view C patchKey value).Faulty C → ReportedBlocked C r (ctx.view C patchKey value)) ↔
      ¬ ((ctx.view C patchKey value).Hidable ∧ (ctx.view C patchKey value).DriftReported C ∧
        ¬ (ctx.view C patchKey value).HeldByOther C) := by
  obtain ⟨ctx', committed', hctx', hcommitted', hmappings, hblockers, hsafe⟩ :=
    evaluateRealization_eq_ok hactive h
  obtain rfl := Except.ok.inj (hctx.symm.trans hctx')
  obtain rfl := Except.ok.inj (hcommitted.symm.trans hcommitted')
  generalize hm : ctx.view C patchKey value = m
  have hview : m ∈ committed.map fun item => ctx.view C item.1 item.2 :=
    List.mem_map.mpr ⟨_, hmem, hm⟩
  have hreported : ReportedBlocked C r m ↔ (m.findings C).status = .blocked := by
    constructor
    · intro hr
      obtain ⟨report, -, rfl, hstatus⟩ := hr.status
      exact hstatus
    · intro hstatus
      have hblocker : m.text C ∈ r.blockers := by
        rw [hblockers]
        exact List.mem_map_of_mem (List.mem_filter.mpr ⟨hview, decide_eq_true hstatus⟩)
      refine ⟨⟨m.report C, ?_, rfl, hstatus⟩, hblocker, ?_⟩
      · rw [hmappings]
        exact List.mem_map.mpr ⟨_, hmem, congrArg (MappingView.report C) hm⟩
      · rw [hsafe, decide_eq_false_iff_not]
        exact List.ne_nil_of_mem hblocker
  rw [hreported, MappingView.status_eq_blocked_iff, MappingView.Faulty]
  tauto

lemma evaluateRealization_ok {layer mappings planEntries snapshot : List (String × Value)}
    {devicePlan reports : List Value} (hplan : planEntries.lookup "devicePlan" = some (.list devicePlan))
    (hreports : snapshot.lookup "reports" = some (.list reports))
    (hmappings : layer.lookup "mappings" = some (.dict mappings)) :
    ∃ r, evaluateRealization C now (.dict layer) (.dict planEntries) requirements (.dict snapshot)
      authority = .ok r := by
  have hrows : ∃ rows, currentRows C (.dict planEntries) requirements = .ok rows := by
    have hget : (Value.dict planEntries).get "devicePlan" (.list []) = .ok (.list devicePlan) := by
      rw [Value.get, hplan, Option.getD_some]
    rw [currentRows, hget]
    cases devicePlan <;> exact ⟨_, rfl⟩
  obtain ⟨rows, hrows⟩ := hrows
  have hctx : ∃ ctx, RealizationContext.read C (.dict planEntries) requirements (.dict snapshot)
      authority = .ok ctx := by
    have hget : (Value.dict snapshot).get "reports" (.list []) = .ok (.list reports) := by
      rw [Value.get, hreports, Option.getD_some]
    rw [RealizationContext.read, hrows, hget]
    exact ⟨_, rfl⟩
  obtain ⟨ctx, hctx⟩ := hctx
  have hcommitted : ∃ committed, committedMappings (.dict layer) = .ok committed := by
    unfold committedMappings Value.get? Value.entries
    rw [hmappings]
    cases mappings <;> exact ⟨_, rfl⟩
  obtain ⟨committed, hcommitted⟩ := hcommitted
  rw [evaluateRealization, hctx, hcommitted]
  exact ⟨_, rfl⟩

end

/-! ## A lost mapping that looks like a drift -/

def lostLayer : Value := .dict [("mappings", .dict [("audio.foh",
  .dict [("provider", .dict [("type", .str "device"), ("id", .str "audio-a")])])])]

/-- Fresh evidence of a device that is not healthy. -/
def unhealthyEvidence (provider : String) : Value := .dict [("reports", .list [.dict
  [("patchKey", .str "audio.foh"), ("providerId", .str provider), ("healthy", .bool false),
    ("fresh", .bool true)]])]

/-- What is known of the mapping: the plan has lost it. -/
def lostView (provider : String) : MappingView where
  patchKey := "audio.foh"
  expected := .dict [("provider", .dict [("type", .str "device"), ("id", .str "audio-a")])]
  current := none
  evidence := some (.dict [("patchKey", .str "audio.foh"), ("providerId", .str provider),
    ("healthy", .bool false), ("fresh", .bool true)])
  expectedAuthority := none

def emptyPlan : Value := .dict [("devicePlan", .list [])]

lemma committedMappings_lostLayer :
    committedMappings lostLayer = .ok [("audio.foh", (lostView "audio-a").expected)] :=
  congrArg Except.ok (List.mergeSort_singleton _)

theorem blocked_stays_iff_lost :
    ∃ r, evaluateRealization plainConversions "" lostLayer emptyPlan []
        (unhealthyEvidence "audio-a") [] = .ok r ∧
      ReportedBlocked plainConversions r (lostView "audio-a") := by
  have hresult : ∃ r, evaluateRealization plainConversions "" lostLayer emptyPlan []
      (unhealthyEvidence "audio-a") [] = .ok r := evaluateRealization_ok rfl rfl rfl
  obtain ⟨r, hr⟩ := hresult
  refine ⟨r, hr, (blocked_stays_iff hr rfl rfl committedMappings_lostLayer
    (List.mem_singleton_self _)).mpr ?_ (Or.inl (Or.inl rfl))⟩
  rintro ⟨-, ⟨e, he, hdrift⟩, -⟩
  cases he
  rcases hdrift with hprovider | htarget
  · exact absurd hprovider (by decide +kernel)
  · exact absurd htarget (by decide +kernel)

/-- A mapping that the plan has lost and another device reports as not healthy: a drift, and it is safe
to continue. -/
theorem lost_mapping_not_blocked :
    ∃ r, evaluateRealization plainConversions "" lostLayer emptyPlan []
        (unhealthyEvidence "audio-b") [] = .ok r ∧
      (lostView "audio-b").Faulty plainConversions ∧
      r.mappings = [(lostView "audio-b").report plainConversions] ∧
      r.mappings.map MappingReport.status = [.drift] ∧ r.blockers = [] ∧
      r.safeToContinue = true := by
  refine ⟨_, rfl, Or.inl (Or.inl rfl), ?_, ?_, ?_, ?_⟩ <;> decide +kernel

end StageForge
