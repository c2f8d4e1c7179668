import StageForge.Handoff.Evaluation

/-!
# What readiness for a takeover means

A standby that is ready to take over the program has everything that its takeover rests on, and
better evidence does not make it unready.
-/

namespace StageForge

open Python

/-! ## Blockers -/

namespace HandoffFacts

variable {facts facts' : HandoffFacts} {policy : HandoffPolicy}

lemma authorityBlockers_eq_nil : facts.authorityBlockers policy = [] ↔
      facts.role = "standby" ∧ ∃ age ∈ facts.replicaAgeMs, age < policy.maxReplicaAgeMs.val := by
  unfold authorityBlockers
  rw [List.append_eq_nil_iff]
  constructor
  · rintro ⟨hrole, hage⟩
    refine ⟨by simpa using hrole, ?_⟩
    cases hreplica : facts.replicaAgeMs with
    | none => simp [hreplica] at hage
    | some age => exact ⟨age, rfl, by simpa [hreplica] using hage⟩
  · rintro ⟨hrole, age, hreplica, hage⟩
    rw [Option.mem_def] at hreplica
    simp [hrole, hreplica, hage]

lemma clockBlockers_eq_nil : facts.clockBlockers policy = [] ↔
      ¬ (facts.sourceOutputsActive = true ∧ policy.requireProgramCursor = true ∧
          facts.sourceProgramCursorNs ≤ 0) ∧
        ∀ lag ∈ facts.localLagMs, lag ≤ policy.maxLocalLagMs.val := by
  unfold clockBlockers
  rw [List.append_eq_nil_iff]
  refine and_congr (by simp) ?_
  constructor
  · intro h lag hlag
    by_contra hlate
    rw [if_pos ⟨lag, hlag, not_le.mp hlate⟩] at h
    cases h
  · intro h
    exact if_neg fun ⟨lag, hlag, hlate⟩ => absurd (h lag hlag) (not_le.mpr hlate)

end HandoffFacts

namespace HandoffSetup

variable {S : HandoffSetup} {facts facts' : HandoffFacts} {policy : HandoffPolicy}
  {live live' : List LiveStatus} {required : List DeterministicSource}
  {sources sources' : List SourceStatus}

variable {α β : Type} {l : List α}

lemma map_filter_eq_nil {p : α → Bool} {f : α → β} :
    (l.filter fun a => decide (p a = false)).map f = [] ↔ ∀ a ∈ l, p a = true := by
  simp [List.filter_eq_nil_iff]

/-- **Readiness.** Nothing blocks, and all that the mode needs is executed. -/
lemma takeover_iff : (decision facts policy live required sources).readyForProgramTakeover = true ↔
      facts.authorityBlockers policy = [] ∧ facts.clockBlockers policy = [] ∧ modeBlockers policy
          ((live.filter fun status => status.duplicatedReady = false).map LiveStatus.slot) required
          ((sources.filter fun status => status.shadowRenderReady = false).map fun status =>
            status.source.id) (facts.mode (live.map LiveStatus.slot)) = [] ∧
        modeExecuted
          ((live.filter fun status => status.executionReady = false).map LiveStatus.slot) required
          ((sources.filter fun status => status.executionReady = false).map fun status =>
            status.source.id) (facts.mode (live.map LiveStatus.slot)) = true := by
  simp only [decision, Bool.and_eq_true, List.isEmpty_iff, List.append_eq_nil_iff, and_assoc]

/-! ## What is executed -/

def Fresh (S : HandoffSetup) (freshMs : ℤ) (report : Entries) : Prop :=
  ∃ age, S.conversions.int (Entries.get report "ageMs" (.int (freshMs + 1))) = .ok age ∧
    age ≤ freshMs

/-- The slot is fed twice, by declaration, and a fresh healthy verified report says so of the
declared source. -/
structure Fed (S : HandoffSetup) (freshMs : ℤ) (config : LiveInput) (report : Entries) : Prop where
  duplicated : config.duplicated = true
  executed : executed report = true
  fresh : Fresh S freshMs report
  source : S.conversions.str (Entries.get report "sourceId" (.str "")) = config.sourceId

/-- The source can be rendered in the shadow, by declaration, and a fresh healthy verified report with
the declared hash says that it is, to the end of the prebuffer. -/
structure Rendered (S : HandoffSetup) (facts : HandoffFacts) (policy : HandoffPolicy)
    (source : DeterministicSource) (report : Entries) : Prop where
  declared : source.declared = true
  executed : executed report = true
  fresh : Fresh S policy.executionStatusFreshMs report
  hash : S.hashOk source report = true
  buffered : ∃ bufferedUntil,
    S.conversions.int (Entries.get report "bufferedUntilShowNs" (.int 0)) = .ok bufferedUntil ∧
      facts.handoffTargetShowNs + prebufferNs policy ≤ bufferedUntil

variable {freshMs : ℤ} {config : LiveInput} {source : DeterministicSource} {report : Entries}

lemma fresh_eq_ok {b : Bool} : S.fresh freshMs report = .ok b ↔
      ∃ age, S.conversions.int (Entries.get report "ageMs" (.int (freshMs + 1))) = .ok age ∧
        decide (age ≤ freshMs) = b := by
  simp only [HandoffSetup.fresh, bind_eq_ok, pure, Except.pure, Except.ok.injEq]

lemma liveExecutionReady_eq_true :
    S.liveExecutionReady freshMs config report = .ok true ↔ Fed S freshMs config report := by
  unfold liveExecutionReady
  constructor
  · intro h
    split_ifs at h with hboth
    · obtain ⟨b, hfresh, hready⟩ := bind_eq_ok.mp h
      simp only [pure, Except.pure, Except.ok.injEq, Bool.and_eq_true, decide_eq_true_eq] at hready
      obtain ⟨rfl, hsource⟩ := hready
      obtain ⟨age, hage, hyoung⟩ := fresh_eq_ok.mp hfresh
      rw [Bool.and_eq_true] at hboth
      exact ⟨hboth.1, hboth.2, ⟨age, hage, of_decide_eq_true hyoung⟩, hsource⟩
    · exact absurd h (by simp [pure, Except.pure])
  · rintro ⟨hduplicated, hexecuted, ⟨age, hage, hyoung⟩, hsource⟩
    rw [hduplicated, hexecuted, fresh_eq_ok.mpr ⟨age, hage, decide_eq_true hyoung⟩,
      decide_eq_true hsource]
    rfl

lemma sourceExecutionReady_eq_true : S.sourceExecutionReady facts policy source report = .ok true ↔
      Rendered S facts policy source report := by
  unfold sourceExecutionReady
  constructor
  · intro h
    obtain ⟨b, hfresh, h⟩ := bind_eq_ok.mp h
    split_ifs at h with hall
    · obtain ⟨bufferedUntil, hbuffered, hlate⟩ := bind_eq_ok.mp h
      simp only [pure, Except.pure, Except.ok.injEq, decide_eq_true_eq] at hlate
      simp only [Bool.and_eq_true] at hall
      obtain ⟨⟨⟨hdeclared, hexecuted⟩, rfl⟩, hhash⟩ := hall
      obtain ⟨age, hage, hyoung⟩ := fresh_eq_ok.mp hfresh
      exact ⟨hdeclared, hexecuted, ⟨age, hage, of_decide_eq_true hyoung⟩, hhash, bufferedUntil,
        hbuffered, hlate⟩
    · exact absurd h (by simp [pure, Except.pure])
  · rintro ⟨hdeclared, hexecuted, ⟨age, hage, hyoung⟩, hhash, bufferedUntil, hbuffered, hlate⟩
    rw [fresh_eq_ok.mpr ⟨age, hage, decide_eq_true hyoung⟩, hdeclared, hexecuted, hhash, hbuffered]
    simp only [bind, Except.bind, Bool.and_self, if_true, pure, Except.pure, decide_eq_true hlate]

lemma evaluateHandoff_eq_ok {rawPolicy liveInputs deterministicSources execution : Value}
    {d : HandoffDecision} :
    S.evaluateHandoff facts rawPolicy liveInputs deterministicSources execution = .ok d ↔
      ∃ policy inputs shadowReports liveReports live sources,
        normalizePolicy S.conversions rawPolicy = .ok policy ∧
        normalizeLiveInputs S.conversions liveInputs = .ok inputs ∧
        S.shadowReports execution = .ok shadowReports ∧ S.liveReports execution = .ok liveReports ∧
        ((activeSlots facts).mapM fun slot =>
          S.liveStatus policy.executionStatusFreshMs slot (inputs slot)
            (reportFor liveReports (slot.val : ℤ))) = .ok live ∧
        (((normalizeDeterministicSources S.conversions deterministicSources).filter
            DeterministicSource.required).mapM fun source =>
          S.sourceStatus facts policy source (reportFor shadowReports source.id)) = .ok sources ∧
        decision facts policy live ((normalizeDeterministicSources S.conversions
          deterministicSources).filter DeterministicSource.required) sources = d := by
  simp only [evaluateHandoff, bind_eq_ok, pure, Except.pure, Except.ok.injEq]
  constructor
  · rintro ⟨policy, hpolicy, inputs, hinputs, shadow, hshadow, live, hlive, rows, hrows, sources,
      hsources, hd⟩
    exact ⟨policy, inputs, shadow, live, rows, sources, hpolicy, hinputs, hshadow, hlive, hrows,
      hsources, hd⟩
  · rintro ⟨policy, inputs, shadow, live, rows, sources, hpolicy, hinputs, hshadow, hlive, hrows,
      hsources, hd⟩
    exact ⟨policy, hpolicy, inputs, hinputs, shadow, hshadow, live, hlive, rows, hrows, sources,
      hsources, hd⟩

lemma forall₂_of_mapM {f : α → Except Error β} {results : List β}
    (h : l.mapM f = .ok results) : List.Forall₂ (fun a b => f a = .ok b) l results := by
  induction l generalizing results with
  | nil =>
    obtain rfl : results = [] := by simpa [pure, Except.pure] using h.symm
    exact .nil
  | cons a l ih =>
    rw [List.mapM_cons] at h
    obtain ⟨b, hb, h⟩ := bind_eq_ok.mp h
    obtain ⟨rest, hrest, h⟩ := bind_eq_ok.mp h
    obtain rfl : b :: rest = results := Except.ok.inj h
    exact .cons hb (ih hrest)

lemma exists_of_forall₂ {R : α → β → Prop} {l' : List β}
    (h : List.Forall₂ R l l') {a : α} (ha : a ∈ l) : ∃ b ∈ l', R a b := by
  induction h with
  | nil => exact absurd ha List.not_mem_nil
  | cons hb _ ih =>
    rcases List.mem_cons.mp ha with rfl | hmem
    · exact ⟨_, List.mem_cons_self, hb⟩
    · obtain ⟨b, hb, hrel⟩ := ih hmem
      exact ⟨b, List.mem_cons_of_mem _ hb, hrel⟩

lemma liveStatus_eq_ok {slot : Fin 4} {status : LiveStatus}
    (h : S.liveStatus freshMs slot config report = .ok status) :
    status.slot = slot ∧ status.duplicatedReady = config.duplicated ∧
      S.liveExecutionReady freshMs config report = .ok status.executionReady := by
  obtain ⟨ready, hready, h⟩ := bind_eq_ok.mp h
  cases h
  exact ⟨rfl, rfl, hready⟩

lemma sourceStatus_eq_ok {status : SourceStatus}
    (h : S.sourceStatus facts policy source report = .ok status) :
    status.source = source ∧ status.shadowRenderReady = source.declared ∧
      S.sourceExecutionReady facts policy source report = .ok status.executionReady := by
  obtain ⟨ready, hready, h⟩ := bind_eq_ok.mp h
  cases h
  exact ⟨rfl, rfl, hready⟩

lemma mem_activeSlots {slot : Fin 4} :
    slot ∈ activeSlots facts ↔ (slot.val : ℤ) ∈ facts.activeLiveInputSlots := by
  simp [activeSlots]

lemma map_slot_of_forall₂ {slots : List (Fin 4)} {f : Fin 4 → LiveInput} {g : Fin 4 → Entries}
    (h : List.Forall₂ (fun slot status => S.liveStatus freshMs slot (f slot) (g slot) = .ok status)
      slots live) : live.map LiveStatus.slot = slots := by
  induction h with
  | nil => rfl
  | cons hstatus _ ih => rw [List.map_cons, ih, (liveStatus_eq_ok hstatus).1]

/-! ## Soundness -/

/-- What the takeover of the program rests on. -/
structure Grounded (S : HandoffSetup) (facts : HandoffFacts) (policy : HandoffPolicy)
    (liveInputs deterministicSources execution : Value) : Prop where
  standby : facts.role = "standby"
  replica : ∃ age ∈ facts.replicaAgeMs, age < policy.maxReplicaAgeMs.val
  lag : ∀ lag ∈ facts.localLagMs, lag ≤ policy.maxLocalLagMs.val
  live : ∀ slot : Fin 4, (slot.val : ℤ) ∈ facts.activeLiveInputSlots →
    ∃ inputs reports, normalizeLiveInputs S.conversions liveInputs = .ok inputs ∧
      S.liveReports execution = .ok reports ∧
        Fed S policy.executionStatusFreshMs (inputs slot) (reportFor reports (slot.val : ℤ))
  sources : (∀ slot : Fin 4, (slot.val : ℤ) ∉ facts.activeLiveInputSlots) →
    facts.sourceOutputsActive = true → facts.transportRunning = true →
      ∃ reports, S.shadowReports execution = .ok reports ∧
        ∀ source ∈ normalizeDeterministicSources S.conversions deterministicSources,
          source.required = true → Rendered S facts policy source (reportFor reports source.id)

lemma mode_of_running (houtputs : facts.sourceOutputsActive = true)
    (htransport : facts.transportRunning = true) :
    facts.mode [] = .deterministicPrebufferEligible := by
  rw [HandoffFacts.mode, if_neg (by simp), if_pos ⟨houtputs, htransport⟩]

lemma mode_of_active {slots : List (Fin 4)} (h : slots ≠ []) :
    facts.mode slots = .liveInputStateWarm := by
  rw [HandoffFacts.mode, if_pos h]

lemma grounded_of_takeover {rawPolicy liveInputs deterministicSources execution : Value}
    {d : HandoffDecision}
    (h : S.evaluateHandoff facts rawPolicy liveInputs deterministicSources execution = .ok d)
    (hready : d.readyForProgramTakeover = true) :
    Grounded S facts d.policy liveInputs deterministicSources execution := by
  obtain ⟨policy, inputs, shadowReports, liveReports, live, sources, -, hinputs, hshadow, hlive,
    hrows, hsources, rfl⟩ := evaluateHandoff_eq_ok.mp h
  obtain ⟨hauthority, hclock, -, hexecuted⟩ := takeover_iff.mp hready
  obtain ⟨hrole, hreplica⟩ := HandoffFacts.authorityBlockers_eq_nil.mp hauthority
  have hrows := forall₂_of_mapM hrows
  have hslots := map_slot_of_forall₂ hrows
  refine ⟨hrole, hreplica, (HandoffFacts.clockBlockers_eq_nil.mp hclock).2, fun slot hslot => ?_,
    fun hnone houtputs htransport => ?_⟩
  · have hmem := mem_activeSlots.mpr hslot
    rw [hslots, mode_of_active (List.ne_nil_of_mem hmem), modeExecuted, decide_eq_true_eq,
      map_filter_eq_nil] at hexecuted
    obtain ⟨status, hstatus, hok⟩ := exists_of_forall₂ hrows hmem
    have hexecution := (liveStatus_eq_ok hok).2.2
    rw [hexecuted status hstatus] at hexecution
    exact ⟨inputs, liveReports, hinputs, hlive, liveExecutionReady_eq_true.mp hexecution⟩
  · have hempty : activeSlots facts = [] := by
      rw [List.eq_nil_iff_forall_not_mem]
      exact fun slot hmem => hnone slot (mem_activeSlots.mp hmem)
    rw [hslots, hempty, mode_of_running houtputs htransport, modeExecuted, Bool.and_eq_true,
      decide_eq_true_eq, decide_eq_true_eq, map_filter_eq_nil] at hexecuted
    refine ⟨shadowReports, hshadow, fun source hsource hrequired => ?_⟩
    obtain ⟨status, hstatus, hok⟩ :=
      exists_of_forall₂ (forall₂_of_mapM hsources) (List.mem_filter.mpr ⟨hsource, hrequired⟩)
    have hexecution := (sourceStatus_eq_ok hok).2.2
    rw [hexecuted.2 status hstatus] at hexecution
    exact sourceExecutionReady_eq_true.mp hexecution

/-! ## Better evidence -/

/-- A report about the same thing that says as much, and is younger. -/
structure BetterReport (S : HandoffSetup) (old new : Entries) : Prop where
  sourceId : new.lookup "sourceId" = old.lookup "sourceId"
  healthy : (Entries.get old "healthy" .none).truthy = true →
    (Entries.get new "healthy" .none).truthy = true
  verified : (Entries.get old "executionVerified" .none).truthy = true →
    (Entries.get new "executionVerified" .none).truthy = true
  age : ∃ value age, new.lookup "ageMs" = some value ∧ S.conversions.int value = .ok age ∧
    ∀ oldValue oldAge, old.lookup "ageMs" = some oldValue →
      S.conversions.int oldValue = .ok oldAge → age ≤ oldAge

/-- A better report of a live input, or the same. -/
def BetterLive (S : HandoffSetup) (old new : Entries) : Prop :=
  new = old ∨ BetterReport S old new ∧ new.lookup "slot" = old.lookup "slot"

/-- A better report of a shadow source, or the same. -/
def BetterShadow (S : HandoffSetup) (old new : Entries) : Prop :=
  new = old ∨ BetterReport S old new ∧ new.lookup "contentHash" = old.lookup "contentHash" ∧
    ∃ value bufferedUntil, new.lookup "bufferedUntilShowNs" = some value ∧
      S.conversions.int value = .ok bufferedUntil ∧
        ∀ oldUntil, S.conversions.int (Entries.get old "bufferedUntilShowNs" (.int 0)) =
          .ok oldUntil → oldUntil ≤ bufferedUntil

/-- Evidence with better reports in place of some. -/
structure BetterExecution (S : HandoffSetup) (old new : Value) : Prop where
  shadow : ∃ items items', reports old "shadowSources" = .ok items ∧
    reports new "shadowSources" = .ok items' ∧ List.Forall₂ (BetterShadow S) items items'
  live : ∃ items items', reports old "liveInputs" = .ok items ∧
    reports new "liveInputs" = .ok items' ∧ List.Forall₂ (BetterLive S) items items'

/-- The same facts, with a younger replica and a smaller lag. -/
structure BetterFacts (old new : HandoffFacts) : Prop where
  same : new = { old with replicaAgeMs := new.replicaAgeMs, localShowNs := new.localShowNs }
  replica : ∀ age ∈ old.replicaAgeMs, ∃ newAge ∈ new.replicaAgeMs, newAge ≤ age
  clock : ∀ shown ∈ new.localShowNs, ∃ oldShown ∈ old.localShowNs, oldShown ≤ shown

lemma get_congr {old new : Entries} {key : String} (h : new.lookup key = old.lookup key)
    (fallback : Value) : Entries.get new key fallback = Entries.get old key fallback := by
  rw [Entries.get, Entries.get, h]

namespace BetterReport

variable {old new : Entries}

lemma executed (h : BetterReport S old new) (hold : executed old = true) : executed new = true := by
  rw [HandoffSetup.executed, Bool.and_eq_true] at hold ⊢
  exact ⟨h.healthy hold.1, h.verified hold.2⟩

lemma fresh_total (h : BetterReport S old new) (freshMs : ℤ) :
    ∃ b, S.fresh freshMs new = .ok b := by
  obtain ⟨value, age, hvalue, hage, -⟩ := h.age
  refine ⟨_, fresh_eq_ok.mpr ⟨age, ?_, rfl⟩⟩
  rw [Entries.get, hvalue]
  exact hage

lemma fresh (h : BetterReport S old new) (hold : Fresh S freshMs old) : Fresh S freshMs new := by
  obtain ⟨value, age, hvalue, hage, hyounger⟩ := h.age
  obtain ⟨oldAge, holdAge, hyoung⟩ := hold
  refine ⟨age, by rw [Entries.get, hvalue]; exact hage, ?_⟩
  cases hlookup : old.lookup "ageMs" with
  | none =>
    rw [Entries.get, hlookup] at holdAge
    have : freshMs + 1 = oldAge := by simpa [Conversions.int] using holdAge
    omega
  | some oldValue =>
    rw [Entries.get, hlookup] at holdAge
    exact (hyounger oldValue oldAge hlookup holdAge).trans hyoung

end BetterReport

variable {old new : Entries}

lemma liveExecutionReady_mono (h : BetterLive S old new) {b : Bool}
    (hold : S.liveExecutionReady freshMs config old = .ok b) :
    ∃ b', S.liveExecutionReady freshMs config new = .ok b' ∧ (b = true → b' = true) := by
  rcases h with rfl | ⟨hbetter, -⟩
  · exact ⟨b, hold, id⟩
  have htotal : ∃ b', S.liveExecutionReady freshMs config new = .ok b' := by
    obtain ⟨fresh, hfresh⟩ := hbetter.fresh_total freshMs
    unfold liveExecutionReady
    split_ifs
    · rw [hfresh]
      exact ⟨_, rfl⟩
    · exact ⟨false, rfl⟩
  obtain ⟨b', hb'⟩ := htotal
  refine ⟨b', hb', ?_⟩
  rintro rfl
  obtain ⟨hduplicated, hexecuted, hfresh, hsource⟩ := liveExecutionReady_eq_true.mp hold
  have hfed : Fed S freshMs config new :=
    ⟨hduplicated, hbetter.executed hexecuted, hbetter.fresh hfresh,
      (congrArg _ (get_congr hbetter.sourceId _)).trans hsource⟩
  exact Except.ok.inj (hb'.symm.trans (liveExecutionReady_eq_true.mpr hfed))

lemma sourceExecutionReady_mono (h : BetterShadow S old new)
    (hfacts : facts'.handoffTargetShowNs = facts.handoffTargetShowNs) {b : Bool}
    (hold : S.sourceExecutionReady facts policy source old = .ok b) :
    ∃ b', S.sourceExecutionReady facts' policy source new = .ok b' ∧ (b = true → b' = true) := by
  have hsame : ∀ report, S.sourceExecutionReady facts' policy source report =
      S.sourceExecutionReady facts policy source report := by
    intro report
    rw [sourceExecutionReady, sourceExecutionReady, hfacts]
  rw [hsame]
  rcases h with rfl | ⟨hbetter, hhash, value, bufferedUntil, hvalue, hbuffered, hlater⟩
  · exact ⟨b, hold, id⟩
  have hread : S.conversions.int (Entries.get new "bufferedUntilShowNs" (.int 0)) =
      .ok bufferedUntil := by
    rw [Entries.get, hvalue]
    exact hbuffered
  have htotal : ∃ b', S.sourceExecutionReady facts policy source new = .ok b' := by
    obtain ⟨fresh, hfresh⟩ := hbetter.fresh_total policy.executionStatusFreshMs
    unfold sourceExecutionReady
    rw [hfresh]
    simp only [bind, Except.bind]
    split_ifs
    · rw [hread]
      exact ⟨_, rfl⟩
    · exact ⟨false, rfl⟩
  obtain ⟨b', hb'⟩ := htotal
  refine ⟨b', hb', ?_⟩
  rintro rfl
  obtain ⟨hdeclared, hexecuted, hfresh, hok, oldUntil, holdUntil, hlate⟩ :=
    sourceExecutionReady_eq_true.mp hold
  have hrendered : Rendered S facts policy source new := by
    refine ⟨hdeclared, hbetter.executed hexecuted, hbetter.fresh hfresh, ?_, bufferedUntil, hread, ?_⟩
    · rw [hashOk, get_congr hhash]
      exact hok
    · exact hlate.trans (hlater oldUntil holdUntil)
  exact Except.ok.inj (hb'.symm.trans (sourceExecutionReady_eq_true.mpr hrendered))

/-! ## Monotonicity -/

/-- Reports under the same keys, each with a better one in its place. -/
def BetterKeyed {κ : Type} (R : Entries → Entries → Prop) (old new : List (κ × Entries)) : Prop :=
  List.Forall₂ (fun a b => b.1 = a.1 ∧ R a.2 b.2) old new

lemma reportFor_mono {κ : Type} [DecidableEq κ] {R : Entries → Entries → Prop} (hrefl : R [] [])
    {old new : List (κ × Entries)} (h : BetterKeyed R old new) (key : κ) :
    R (reportFor old key) (reportFor new key) := by
  have hreverse : BetterKeyed R old.reverse new.reverse := List.rel_reverse h
  unfold reportFor
  generalize old.reverse = reversed, new.reverse = reversed' at hreverse
  induction hreverse with
  | nil => exact hrefl
  | @cons a b l l' hab _ ih =>
    obtain ⟨hkey, hbetter⟩ := hab
    by_cases ha : a.1 = key
    · have hb : b.1 = key := hkey.trans ha
      rw [List.find?_cons_of_pos (by simpa using ha), List.find?_cons_of_pos (by simpa using hb)]
      exact hbetter
    · have hb : b.1 ≠ key := fun heq => ha (hkey.symm.trans heq)
      rw [List.find?_cons_of_neg (by simpa using ha), List.find?_cons_of_neg (by simpa using hb)]
      exact ih

lemma shadowReports_mono {old new : Value} (h : BetterExecution S old new)
    {keyed : List (String × Entries)} (hold : S.shadowReports old = .ok keyed) :
    ∃ keyed', S.shadowReports new = .ok keyed' ∧ BetterKeyed (BetterShadow S) keyed keyed' := by
  obtain ⟨items, items', hitems, hitems', hbetter⟩ := h.shadow
  rw [shadowReports, hitems] at hold
  rw [shadowReports, hitems']
  cases hold
  refine ⟨_, rfl, ?_⟩
  rw [BetterKeyed, List.forall₂_map_left_iff, List.forall₂_map_right_iff]
  refine hbetter.imp fun item item' hitem => ⟨?_, hitem⟩
  rcases hitem with rfl | ⟨hitem, -⟩
  · rfl
  · exact congrArg S.conversions.str (get_congr hitem.sourceId _)

lemma liveReports_mono {old new : Value} (h : BetterExecution S old new)
    {keyed : List (ℤ × Entries)} (hold : S.liveReports old = .ok keyed) :
    ∃ keyed', S.liveReports new = .ok keyed' ∧ BetterKeyed (BetterLive S) keyed keyed' := by
  obtain ⟨items, items', hitems, hitems', hbetter⟩ := h.live
  rw [liveReports, hitems] at hold
  rw [liveReports, hitems']
  simp only [bind, Except.bind] at hold ⊢
  clear hitems hitems'
  induction hbetter generalizing keyed with
  | nil => exact ⟨[], rfl, by rw [← Except.ok.inj hold]; exact .nil⟩
  | @cons item item' rest rest' hitem _ ih =>
    have hslot : ∀ fallback, Entries.get item' "slot" fallback = Entries.get item "slot" fallback := by
      rcases hitem with rfl | ⟨-, hslot⟩
      · exact fun _ => rfl
      · exact get_congr hslot
    simp only [List.filter_cons, hslot] at hold ⊢
    split_ifs at hold ⊢ with hdigits
    · rw [List.mapM_cons] at hold ⊢
      obtain ⟨first, hfirst, hold⟩ := bind_eq_ok.mp hold
      obtain ⟨keyed, hkeyed, hold⟩ := bind_eq_ok.mp hold
      cases hold
      obtain ⟨keyed', hkeyed', hrest⟩ := ih hkeyed
      obtain ⟨key, hkey, hfirst⟩ := bind_eq_ok.mp hfirst
      cases hfirst
      refine ⟨(key, item') :: keyed', ?_, .cons ⟨rfl, hitem⟩ hrest⟩
      rw [hslot, hkey, hkeyed']
      rfl
    · exact ih hold

variable {α β : Type}

lemma mapM_mono {R : β → β → Prop} {f g : α → Except Error β}
    (h : ∀ a b, f a = .ok b → ∃ b', g a = .ok b' ∧ R b b') {l : List α} {results : List β}
    (hold : l.mapM f = .ok results) :
    ∃ results', l.mapM g = .ok results' ∧ List.Forall₂ R results results' := by
  have hitems := forall₂_of_mapM hold
  clear hold
  induction hitems with
  | nil => exact ⟨[], rfl, .nil⟩
  | @cons a b l results hab _ ih =>
    obtain ⟨b', hb', hrel⟩ := h a b hab
    obtain ⟨results', hresults', hrest⟩ := ih
    refine ⟨b' :: results', ?_, .cons hrel hrest⟩
    rw [List.mapM_cons, hb', hresults']
    rfl

/-- A status of the same slot that is no worse. -/
def LiveNoWorse (old new : LiveStatus) : Prop :=
  (new.slot = old.slot ∧ new.duplicatedReady = old.duplicatedReady) ∧
    (old.executionReady = true → new.executionReady = true)

def SourceNoWorse (old new : SourceStatus) : Prop :=
  (new.source.id = old.source.id ∧ new.shadowRenderReady = old.shadowRenderReady) ∧
    (old.executionReady = true → new.executionReady = true)

lemma liveStatus_mono {slot : Fin 4} (h : BetterLive S old new)
    {status : LiveStatus} (hold : S.liveStatus freshMs slot config old = .ok status) :
    ∃ status', S.liveStatus freshMs slot config new = .ok status' ∧ LiveNoWorse status status' := by
  obtain ⟨hslot, hduplicated, hready⟩ := liveStatus_eq_ok hold
  obtain ⟨ready, hready', himp⟩ := liveExecutionReady_mono h hready
  refine ⟨_, by rw [liveStatus, hready']; rfl, ⟨hslot.symm, hduplicated.symm⟩, himp⟩

lemma sourceStatus_mono (h : BetterShadow S old new)
    (hfacts : facts'.handoffTargetShowNs = facts.handoffTargetShowNs) {status : SourceStatus}
    (hold : S.sourceStatus facts policy source old = .ok status) :
    ∃ status', S.sourceStatus facts' policy source new = .ok status' ∧ SourceNoWorse status status' := by
  obtain ⟨hsource, hdeclared, hready⟩ := sourceStatus_eq_ok hold
  obtain ⟨ready, hready', himp⟩ := sourceExecutionReady_mono h hfacts hready
  exact ⟨_, by rw [sourceStatus, hready']; rfl,
    ⟨congrArg DeterministicSource.id hsource.symm, hdeclared.symm⟩, himp⟩

lemma map_filter_congr {p : α → Bool} {f : α → β} {l l' : List α}
    (h : List.Forall₂ (fun a b => f b = f a ∧ p b = p a) l l') :
    (l'.filter fun a => decide (p a = false)).map f =
      (l.filter fun a => decide (p a = false)).map f := by
  induction h with
  | nil => rfl
  | cons hab _ ih =>
    rw [List.filter_cons, List.filter_cons, hab.2]
    split_ifs
    · rw [List.map_cons, List.map_cons, ih, hab.1]
    · exact ih

lemma map_filter_eq_nil_mono {p : α → Bool} {f : α → β} {l l' : List α}
    (h : List.Forall₂ (fun a b => p a = true → p b = true) l l')
    (hold : (l.filter fun a => decide (p a = false)).map f = []) :
    (l'.filter fun a => decide (p a = false)).map f = [] := by
  rw [map_filter_eq_nil] at hold ⊢
  induction h with
  | nil => exact fun _ h => absurd h List.not_mem_nil
  | cons hab _ ih =>
    rw [List.forall_mem_cons] at hold ⊢
    exact ⟨hab hold.1, ih hold.2⟩

lemma authorityBlockers_mono (h : BetterFacts facts facts')
    (hold : facts.authorityBlockers policy = []) : facts'.authorityBlockers policy = [] := by
  rw [HandoffFacts.authorityBlockers_eq_nil] at hold ⊢
  obtain ⟨hrole, age, hage, hyoung⟩ := hold
  obtain ⟨newAge, hnew, hyounger⟩ := h.replica age hage
  refine ⟨?_, newAge, hnew, hyounger.trans_lt hyoung⟩
  rw [h.same]
  exact hrole

lemma clockBlockers_mono (h : BetterFacts facts facts')
    (hold : facts.clockBlockers policy = []) : facts'.clockBlockers policy = [] := by
  rw [HandoffFacts.clockBlockers_eq_nil] at hold ⊢
  obtain ⟨hcursor, hlags⟩ := hold
  have htarget : facts'.handoffTargetShowNs = facts.handoffTargetShowNs := by rw [h.same]
  refine ⟨by rw [h.same]; exact hcursor, fun lag hlag => ?_⟩
  rw [HandoffFacts.localLagMs, htarget] at hlag
  split_ifs at hlag with hpositive
  · obtain ⟨shown, hshown, rfl⟩ := Option.mem_map.mp hlag
    obtain ⟨oldShown, hold, hle⟩ := h.clock shown hshown
    refine le_trans ?_ (hlags (((facts.handoffTargetShowNs - oldShown : ℤ) : ℚ) / 1000000) ?_)
    · gcongr
    · rw [HandoffFacts.localLagMs, if_pos hpositive]
      exact Option.mem_map_of_mem _ hold
  · cases hlag

lemma takeover_mono (hfacts : BetterFacts facts facts')
    (hlive : List.Forall₂ LiveNoWorse live live')
    (hsources : List.Forall₂ SourceNoWorse sources sources')
    (hold : (decision facts policy live required sources).readyForProgramTakeover = true) :
    (decision facts' policy live' required sources').readyForProgramTakeover = true := by
  rw [takeover_iff] at hold ⊢
  obtain ⟨hauthority, hclock, hmode, hexecuted⟩ := hold
  have hslots : live'.map LiveStatus.slot = live.map LiveStatus.slot := by
    clear hmode hexecuted
    induction hlive with
    | nil => rfl
    | cons hab _ ih => rw [List.map_cons, List.map_cons, ih, hab.1.1]
  have hsame : facts'.mode = facts.mode := by rw [hfacts.same]; rfl
  refine ⟨authorityBlockers_mono hfacts hauthority, clockBlockers_mono hfacts hclock, ?_, ?_⟩
  · rw [hslots, hsame, map_filter_congr (hlive.imp fun _ _ h => h.1),
      map_filter_congr (hsources.imp fun _ _ h => h.1)]
    exact hmode
  · rw [hslots, hsame]
    cases hcase : facts.mode (live.map LiveStatus.slot) with
    | liveInputStateWarm =>
      rw [hcase, modeExecuted, decide_eq_true_eq] at hexecuted
      rw [modeExecuted, decide_eq_true_eq]
      exact map_filter_eq_nil_mono (hlive.imp fun _ _ h => h.2) hexecuted
    | deterministicPrebufferEligible =>
      rw [hcase, modeExecuted, Bool.and_eq_true, decide_eq_true_eq, decide_eq_true_eq] at hexecuted
      rw [modeExecuted, Bool.and_eq_true, decide_eq_true_eq, decide_eq_true_eq]
      exact ⟨hexecuted.1, map_filter_eq_nil_mono (hsources.imp fun _ _ h => h.2) hexecuted.2⟩
    | stateWarm => rfl

/-- **Readiness is sound and monotone.** A takeover is grounded in the facts, the declarations and
the evidence; and with better facts and evidence the evaluation returns, and the takeover is ready as
well. -/
theorem readiness {rawPolicy liveInputs deterministicSources execution : Value} {d : HandoffDecision}
    (h : S.evaluateHandoff facts rawPolicy liveInputs deterministicSources execution = .ok d)
    (hready : d.readyForProgramTakeover = true) :
    Grounded S facts d.policy liveInputs deterministicSources execution ∧
      ∀ facts' execution', BetterFacts facts facts' → BetterExecution S execution execution' →
        ∃ d', S.evaluateHandoff facts' rawPolicy liveInputs deterministicSources execution' = .ok d' ∧
          d'.readyForProgramTakeover = true := by
  refine ⟨grounded_of_takeover h hready, fun facts' execution' hfacts hexecution => ?_⟩
  obtain ⟨policy, inputs, shadowReports, liveReports, live, sources, hpolicy, hinputs, hshadow, hlive,
    hrows, hsources, rfl⟩ := evaluateHandoff_eq_ok.mp h
  have htarget : facts'.handoffTargetShowNs = facts.handoffTargetShowNs := by rw [hfacts.same]
  have hactive : activeSlots facts' = activeSlots facts := by rw [hfacts.same]; rfl
  obtain ⟨shadowReports', hshadow', hshadowBetter⟩ := shadowReports_mono hexecution hshadow
  obtain ⟨liveReports', hlive', hliveBetter⟩ := liveReports_mono hexecution hlive
  obtain ⟨live', hrows', hliveMono⟩ := mapM_mono (R := LiveNoWorse) (fun slot status hstatus =>
      liveStatus_mono (reportFor_mono (.inl rfl) hliveBetter (slot.val : ℤ)) hstatus) hrows
  obtain ⟨sources', hsources', hsourceMono⟩ := mapM_mono (R := SourceNoWorse)
    (fun source status hstatus =>
      sourceStatus_mono (reportFor_mono (.inl rfl) hshadowBetter source.id) htarget hstatus) hsources
  refine ⟨_, evaluateHandoff_eq_ok.mpr ⟨policy, inputs, shadowReports', liveReports', live', sources',
    hpolicy, hinputs, hshadow', hlive', ?_, hsources', rfl⟩,
    takeover_mono hfacts hliveMono hsourceMono hready⟩
  rw [hactive]
  exact hrows'

/-! ## A standby -/

/-- How Python prints integers, truth values and none. -/
def exampleHandoff : HandoffSetup where
  conversions :=
    { print := fun
        | .int n => toString n
        | .bool true => "True"
        | .bool false => "False"
        | _ => "None"
      parseInt := String.toInt?
      parseFloat := fun _ => none }
  isDigit := Char.isDigit

/-- A standby one second into a show, with a live input or none. -/
def exampleFacts (slots : List ℤ) (localShowNs : Option ℤ) : HandoffFacts where
  role := "standby"
  replicaAgeMs := some 100
  sourceProgramCursorNs := 1000000000
  handoffTargetShowNs := 1000000000
  localShowNs := localShowNs
  activeLiveInputSlots := slots
  sourceOutputsActive := true
  transportRunning := true

/-- A live input that is fed over the network as well. -/
def exampleLiveInputs : Value :=
  .list [.dict [("slot", .int 0), ("mode", .str "network"), ("ready", .bool true),
    ("sourceId", .str "net-vocal")]]

/-- The feed of the live input, and a source rendered for half a second. -/
def exampleExecution : Value := .dict
    [("liveInputs", .list [.dict [("slot", .int 0), ("sourceId", .str "net-vocal"),
        ("healthy", .bool true), ("executionVerified", .bool true), ("ageMs", .int 5)]]),
      ("shadowSources", .list [.dict [("sourceId", .str "track-0"), ("healthy", .bool true),
        ("executionVerified", .bool true), ("contentHash", .str ""),
        ("bufferedUntilShowNs", .int 1500000000), ("ageMs", .int 5)]])]

/-- A source that is required or not, and that can be rendered or not. -/
def exampleSource (n : ℕ) (required ready : Bool) : Entries :=
  [("id", .str ("track-" ++ toString n)), ("required", .bool required),
    ("shadowCapable", .bool ready), ("localAssetReady", .bool ready)]

/-- One source that is required and ready, and others that are not required. -/
def exampleSources : List Value := .dict (exampleSource 0 true true) ::
    (List.range 31).map fun n => .dict (exampleSource (n + 1) false false)

theorem readiness_live :
    ∃ d, exampleHandoff.evaluateHandoff (exampleFacts [0] (some 1000000000)) .none exampleLiveInputs
      .none exampleExecution = .ok d ∧ d.readyForProgramTakeover = true ∧
        Grounded exampleHandoff (exampleFacts [0] (some 1000000000)) d.policy exampleLiveInputs .none
          exampleExecution := by
  have hready : (exampleHandoff.evaluateHandoff (exampleFacts [0] (some 1000000000)) .none
      exampleLiveInputs .none exampleExecution).toOption.map HandoffDecision.readyForProgramTakeover =
        some true := by
    decide +kernel
  obtain ⟨d, hd, hready⟩ := Option.map_eq_some_iff.mp hready
  cases hresult : exampleHandoff.evaluateHandoff (exampleFacts [0] (some 1000000000)) .none
      exampleLiveInputs .none exampleExecution with
  | error e => simp [hresult, Except.toOption] at hd
  | ok result =>
    obtain rfl : result = d := by simpa [hresult, Except.toOption] using hd
    exact ⟨result, rfl, hready, (readiness hresult hready).1⟩

/-- What a takeover does not rest on: a lag that is not known, and a required source that is declared
after 32 others. -/
theorem takeover_ungrounded :
    ((exampleHandoff.evaluateHandoff (exampleFacts [0] none) .none exampleLiveInputs .none
        exampleExecution).toOption.map HandoffDecision.readyForProgramTakeover = some true ∧
      (exampleFacts [0] none).localLagMs = none) ∧
    ((exampleHandoff.evaluateHandoff (exampleFacts [] (some 1000000000)) .none .none
        (.list (exampleSources ++ [.dict (exampleSource 32 true false)]))
        exampleExecution).toOption.map HandoffDecision.readyForProgramTakeover = some true ∧
      (deterministicSource exampleHandoff.conversions (exampleSource 32 true false)).required =
        true ∧
      (deterministicSource exampleHandoff.conversions (exampleSource 32 true false)).declared =
        false) := by
  decide +kernel

end HandoffSetup

end StageForge
