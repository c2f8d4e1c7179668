import StageForge.Show.Revisions

/-!
# What the patches assign

For the mutators that patch one part of the state: what each of their items can do to the draft.
-/

namespace StageForge

open Python Script

variable {P : Platform}

/-! ## Items -/

/-- An item that reports changes only if it makes them. -/
def Compares {α : Type} (item : Item Error (Draft α)) : Prop :=
  ∀ d d', item d = .ok d' → d'.changes = d.changes ∨ d'.value ≠ d.value

/-- An item that either does nothing or makes a change and reports it. -/
def Moves {α : Type} (item : Item Error (Draft α)) : Prop :=
  ∀ d d', item d = .ok d' → d' = d ∨ d'.value ≠ d.value ∧ d'.changes ≠ []

lemma Moves.reports {α : Type} {item : Item Error (Draft α)} (h : Moves item) :
    ReportsChanges item := fun d d' hok => (h d d' hok).imp_right And.right

lemma Moves.compares {α : Type} {item : Item Error (Draft α)} (h : Moves item) :
    Compares item := fun d d' hok => (h d d' hok).imp (congrArg Draft.changes) And.left

/-- An item that assigns a new value to a part, if it assigns anything. -/
def AssignsNew {α γ : Type} (part : α → γ) (put : γ → α → α) (item : Item Error (Draft α)) : Prop :=
  ∀ d d', item d = .ok d' →
    d' = d ∨ ∃ v, v ≠ part d.value ∧ d'.value = put v d.value ∧ d'.changes ≠ []

section

variable {α γ δ : Type} {part : α → γ} {put : γ → α → α} {item : Item Error (Draft α)}
  {d d' : Draft α} {v : α} {change : String} {data : Entries} {key : String}
  {f : Value → Draft α → Except Error (Draft α)}

lemma AssignsNew.reports (h : AssignsNew part put item) : ReportsChanges item := by
  intro d d' hok
  rcases h d d' hok with rfl | ⟨v, -, -, hchanges⟩
  · exact .inl rfl
  · exact .inr hchanges

lemma AssignsNew.moves_part (h : AssignsNew part put item) (hput : ∀ v a, part (put v a) = v) :
    ∀ d d', item d = .ok d' → d' = d ∨ part d'.value ≠ part d.value := by
  intro d d' hok
  rcases h d d' hok with rfl | ⟨v, hne, hvalue, -⟩
  · exact .inl rfl
  · rw [hvalue, hput]
    exact .inr hne

lemma AssignsNew.keeps {other : α → δ} (h : AssignsNew part put item)
    (hother : ∀ v a, other (put v a) = other a) :
    ∀ d d', item d = .ok d' → other d'.value = other d.value := by
  intro d d' hok
  rcases h d d' hok with rfl | ⟨v, -, hvalue, -⟩
  · rfl
  · rw [hvalue, hother]

lemma onField_cases (h : onField data key f d = .ok d') :
    d' = d ∧ data.lookup key = none ∨ ∃ value, data.lookup key = some value ∧ f value d = .ok d' := by
  unfold onField at h
  cases hlookup : data.lookup key with
  | none =>
    rw [hlookup] at h
    exact .inl ⟨(Except.ok.inj h).symm, rfl⟩
  | some value =>
    rw [hlookup] at h
    exact .inr ⟨value, rfl, h⟩

lemma assignsNew_onField [DecidableEq α] (hsame : ∀ a, put (part a) a = a)
    (h : ∀ value d d', f value d = .ok d' → ∃ v change, d' = d.assignNew (put v d.value) change) :
    AssignsNew part put (onField data key f) := by
  intro d d' hok
  rcases onField_cases hok with ⟨rfl, -⟩ | ⟨value, -, hvalue⟩
  · exact .inl rfl
  · obtain ⟨v, change, rfl⟩ := h value d d' hvalue
    unfold Draft.assignNew
    split_ifs with heq
    · exact .inl rfl
    · refine .inr ⟨v, fun hv => heq ?_, rfl, d.changes_assign _ _⟩
      rw [hv, hsame]

lemma Draft.ite_moves {p : Prop} [Decidable p] (h : ¬ p → v ≠ d.value) :
    (if p then d else d.assign v change) = d ∨
      (if p then d else d.assign v change).value ≠ d.value ∧
        (if p then d else d.assign v change).changes ≠ [] := by
  split_ifs with hp
  · exact .inl rfl
  · exact .inr ⟨h hp, d.changes_assign v change⟩

lemma Draft.assignNew_moves [DecidableEq α] : d.assignNew v change = d ∨
      (d.assignNew v change).value ≠ d.value ∧ (d.assignNew v change).changes ≠ [] :=
  Draft.ite_moves fun hne => hne

lemma moves_onField
    (h : ∀ value d d', f value d = .ok d' → d' = d ∨ d'.value ≠ d.value ∧ d'.changes ≠ []) :
    Moves (onField data key f) := by
  intro d d' hok
  rcases onField_cases hok with ⟨rfl, -⟩ | ⟨value, -, hvalue⟩
  · exact .inl rfl
  · exact h value d d' hvalue

end

/-! ## Handoff and lighting -/

section

variable {data : Entries} {c : Content}

lemma handoff_items : ∃ policy liveInputs sources : Item Error (Draft Handoff),
      (patchHandoff P data).items c = [policy, liveInputs, sources] ∧
      AssignsNew Handoff.policy (fun v a => { a with policy := v }) policy ∧
      AssignsNew Handoff.liveInputs (fun v a => { a with liveInputs := v }) liveInputs ∧
      AssignsNew Handoff.deterministicSources (fun v a => { a with deterministicSources := v })
        sources := by
  refine ⟨_, _, _, rfl, assignsNew_onField (fun _ => rfl) ?_, assignsNew_onField (fun _ => rfl) ?_,
    assignsNew_onField (fun _ => rfl) ?_⟩
  · intro value d d' hok
    cases value with
    | dict raw =>
      obtain ⟨policy, -, hpolicy⟩ := bind_eq_ok.mp hok
      exact ⟨policy, _, (Except.ok.inj hpolicy).symm⟩
    | _ => exact absurd hok (by simp)
  · intro value d d' hok
    cases value with
    | list raws =>
      obtain ⟨merged, -, hmerged⟩ := bind_eq_ok.mp hok
      obtain ⟨liveInputs, -, hinputs⟩ := bind_eq_ok.mp hmerged
      exact ⟨liveInputs, _, (Except.ok.inj hinputs).symm⟩
    | _ => exact absurd hok (by simp)
  · intro value d d' hok
    cases value with
    | list raws => exact ⟨_, _, (Except.ok.inj hok).symm⟩
    | _ => exact absurd hok (by simp)

lemma persistent_handoff : Persistent Draft.value ((patchHandoff P data).items c) := by
  obtain ⟨policy, liveInputs, sources, hitems, hpolicy, hinputs, hsources⟩ :=
    @handoff_items P data c
  rw [hitems]
  refine persistent_cons Handoff.policy (hpolicy.moves_part fun _ _ => rfl) ?_
    (persistent_cons Handoff.liveInputs (hinputs.moves_part fun _ _ => rfl) ?_
      (persistent_cons Handoff.deterministicSources (hsources.moves_part fun _ _ => rfl)
        (List.forall_mem_nil _) persistent_nil))
  · refine List.forall_mem_cons.mpr ⟨hinputs.keeps fun _ _ => rfl, ?_⟩
    exact List.forall_mem_singleton.mpr (hsources.keeps fun _ _ => rfl)
  · exact List.forall_mem_singleton.mpr (hsources.keeps fun _ _ => rfl)

lemma reports_handoff : ∀ item ∈ (patchHandoff P data).items c, ReportsChanges item := by
  obtain ⟨policy, liveInputs, sources, hitems, hpolicy, hinputs, hsources⟩ :=
    @handoff_items P data c
  rw [hitems]
  refine List.forall_mem_cons.mpr ⟨hpolicy.reports, ?_⟩
  exact List.forall_mem_cons.mpr ⟨hinputs.reports, List.forall_mem_singleton.mpr hsources.reports⟩

lemma lighting_items : ∃ protocol target port universeBase : Item Error (Draft Lighting),
      (patchLightingNetwork P data).items c = [protocol, target, port, universeBase] ∧
      (∀ d d', protocol d = .ok d' →
        d' = d ∨ d'.value.protocol ≠ d.value.protocol ∧ d'.changes ≠ []) ∧
      AssignsNew Lighting.target (fun v a => { a with target := v }) target ∧
      AssignsNew Lighting.port (fun v a => { a with port := v }) port ∧
      AssignsNew Lighting.universeBase (fun v a => { a with universeBase := v }) universeBase := by
  refine ⟨_, _, _, _, rfl, ?_, assignsNew_onField (fun _ => rfl) ?_,
    assignsNew_onField (fun _ => rfl) ?_, assignsNew_onField (fun _ => rfl) ?_⟩
  · intro d d' hok
    rcases onField_cases hok with ⟨rfl, -⟩ | ⟨value, -, hvalue⟩
    · exact .inl rfl
    cases hprotocol : LightingProtocol.ofText? (lower (strip (P.str value))) with
    | none =>
      rw [hprotocol] at hvalue
      cases hvalue
    | some protocol =>
      simp only [hprotocol] at hvalue
      split_ifs at hvalue with hsame hport
      · exact .inl (Except.ok.inj hvalue).symm
      · cases hvalue
        exact .inr ⟨hsame, Draft.changes_assign _ _ _⟩
      · cases hvalue
        exact .inr ⟨hsame, Draft.changes_assign _ _ _⟩
  · intro value d d' hok
    obtain ⟨target, -, htarget⟩ := bind_eq_ok.mp hok
    exact ⟨target, _, (Except.ok.inj htarget).symm⟩
  · intro value d d' hok
    obtain ⟨port, -, hport⟩ := bind_eq_ok.mp hok
    exact ⟨port, _, (Except.ok.inj hport).symm⟩
  · intro value d d' hok
    obtain ⟨universeBase, -, hbase⟩ := bind_eq_ok.mp hok
    exact ⟨universeBase, _, (Except.ok.inj hbase).symm⟩

lemma persistent_lighting : Persistent Draft.value ((patchLightingNetwork P data).items c) := by
  obtain ⟨protocol, target, port, universeBase, hitems, hprotocol, htarget, hport, hbase⟩ :=
    @lighting_items P data c
  rw [hitems]
  refine persistent_cons Lighting.protocol (fun d d' hok => (hprotocol d d' hok).imp_right And.left)
    ?_ (persistent_cons Lighting.target (htarget.moves_part fun _ _ => rfl) ?_
      (persistent_cons Lighting.port (hport.moves_part fun _ _ => rfl) ?_
        (persistent_cons Lighting.universeBase (hbase.moves_part fun _ _ => rfl)
          (List.forall_mem_nil _) persistent_nil)))
  · refine List.forall_mem_cons.mpr ⟨htarget.keeps fun _ _ => rfl, ?_⟩
    refine List.forall_mem_cons.mpr ⟨hport.keeps fun _ _ => rfl, ?_⟩
    exact List.forall_mem_singleton.mpr (hbase.keeps fun _ _ => rfl)
  · refine List.forall_mem_cons.mpr ⟨hport.keeps fun _ _ => rfl, ?_⟩
    exact List.forall_mem_singleton.mpr (hbase.keeps fun _ _ => rfl)
  · exact List.forall_mem_singleton.mpr (hbase.keeps fun _ _ => rfl)

lemma reports_lighting : ∀ item ∈ (patchLightingNetwork P data).items c, ReportsChanges item := by
  obtain ⟨protocol, target, port, universeBase, hitems, hprotocol, htarget, hport, hbase⟩ :=
    @lighting_items P data c
  rw [hitems]
  refine List.forall_mem_cons.mpr ⟨fun d d' hok => (hprotocol d d' hok).imp_right And.right, ?_⟩
  refine List.forall_mem_cons.mpr ⟨htarget.reports, ?_⟩
  exact List.forall_mem_cons.mpr ⟨hport.reports, List.forall_mem_singleton.mpr hbase.reports⟩

end

/-! ## Bindings -/

section

variable {c : Content} {deviceId playerId : String}

lemma bind_item : ∀ item ∈ (bindMidiDevice deviceId playerId).items c, Moves item := by
  intro item hitem d d' hok
  obtain rfl := List.mem_singleton.mp hitem
  cases htoken : token? 96 deviceId with
  | none =>
    simp only [htoken] at hok
    cases hok
  | some device =>
    simp only [htoken] at hok
    split_ifs at hok with hempty hplayer hbound
    · exact .inl (Except.ok.inj hok).symm
    · cases hok
      refine .inr ⟨fun heq => hbound ?_, Draft.changes_assign _ _ _⟩
      rw [← heq]
      simp [Draft.assign, Dict.get?_set]

lemma unbind_item : ∀ item ∈ (unbindMidiDevice deviceId).items c, Moves item := by
  intro item hitem d d' hok
  obtain rfl := List.mem_singleton.mp hitem
  cases hbound : d.value.get? (clip 96 (strip deviceId)) with
  | none =>
    simp only [hbound] at hok
    exact .inl (Except.ok.inj hok).symm
  | some previous =>
    simp only [hbound] at hok
    cases hok
    refine .inr ⟨fun heq => ?_, Draft.changes_assign _ _ _⟩
    have hnone : d.value.get? (clip 96 (strip deviceId)) = none := by
      rw [← heq]
      simp [Draft.assign, Dict.get?_erase]
    rw [hbound] at hnone
    cases hnone

lemma persistent_of_single {α : Type} {items : List (Item Error (Draft α))}
    (hsingle : ∃ item, items = [item])
    (h : ∀ item ∈ items, Moves item) : Persistent Draft.value items := by
  obtain ⟨item, rfl⟩ := hsingle
  refine persistent_cons id (fun d d' hok => ?_) (List.forall_mem_nil _) persistent_nil
  exact (h item List.mem_cons_self d d' hok).imp_right And.left

end

/-! ## Transport -/

/-- The action leaves the clock another one, if it touches the transport at all. -/
def Transport.MovedBy (transport : Transport) (now : ℚ) (action : String) : Prop :=
  (action = "stop" → transport.running ∨ transport.elapsed ≠ 0) ∧
    (action = "rewind" → transport.clockSeconds now ≠ 0)

section

variable {clocks : Clocks} {action : String} {c : Content} {d d' : Draft Transport} {now : ℚ}

lemma transportAction_reports (h : transportAction now action d = .ok d') :
    d' = d ∨ d'.changes ≠ [] := by
  unfold transportAction at h
  simp only [] at h
  split_ifs at h with hplay hrunning hpause hrunning hstop hrewind <;> cases h
  · exact .inl rfl
  · exact .inr (d.changes_assign _ _)
  · exact .inr (d.changes_assign _ _)
  · exact .inl rfl
  · exact .inr (d.changes_assign _ _)
  · exact .inr (d.changes_assign _ _)

lemma transportAction_moves (hmoved : d.value.MovedBy now action)
    (h : transportAction now action d = .ok d') :
    d' = d ∨ ¬ (d'.value.running = d.value.running ∧
      ∀ time, d'.value.clockSeconds time = d.value.clockSeconds time) := by
  unfold transportAction at h
  simp only [] at h
  split_ifs at h with hplay hrunning hpause hrunning hstop hrewind <;> cases h
  · exact .inl rfl
  · refine .inr fun hsame => hrunning ?_
    exact hsame.1.symm
  · refine .inr fun hsame => ?_
    have hstill : false = d.value.running := hsame.1
    rw [hrunning] at hstill
    cases hstill
  · exact .inl rfl
  · refine .inr ?_
    rintro ⟨hstill, hclock⟩
    have hstopped : d.value.running = false := hstill.symm
    have hzero : (0 : ℚ) = d.value.elapsed := by
      have := hclock now
      simpa [Draft.assign, Transport.clockSeconds, hstopped] using this
    rcases hmoved.1 hstop with hrun | hne
    · rw [hstopped] at hrun
      cases hrun
    · exact hne hzero.symm
  · refine .inr ?_
    rintro ⟨-, hclock⟩
    refine hmoved.2 hrewind ?_
    rw [← hclock now]
    simp [Draft.assign, Transport.clockSeconds]

end

/-! ## Song and system -/

/-- What a field gives, if it is there and can be read. -/
def given {γ : Type} (data : Entries) (key : String) (reads : Value → Option γ) : Option γ :=
  (data.lookup key).bind reads

def AssignsGiven {α γ : Type} (part : α → γ) (put : γ → α → α) (gives : α → Option γ)
    (item : Item Error (Draft α)) : Prop :=
  ∀ d d', item d = .ok d' → d'.value = put ((gives d.value).getD (part d.value)) d.value ∧
    (d' = d ∨ d'.changes ≠ []) ∧ (gives d.value = none → d' = d)

lemma assignsGiven_onField {α γ : Type} {part : α → γ} {put : γ → α → α}
    {reads : α → Value → Option γ} {data : Entries} {key : String}
    {f : Value → Draft α → Except Error (Draft α)} (hsame : ∀ a, put (part a) a = a)
    (h : ∀ value d d', f value d = .ok d' → reads d.value value = none ∧ d' = d ∨
        ∃ v change, reads d.value value = some v ∧ d' = d.assign (put v d.value) change) :
    AssignsGiven part put (fun a => given data key (reads a)) (onField data key f) := by
  intro d d' hok
  rcases onField_cases hok with ⟨rfl, hnone⟩ | ⟨value, hsome, hvalue⟩
  · simp [given, hnone, hsame]
  · rcases h value d d' hvalue with ⟨hnone, rfl⟩ | ⟨v, change, hv, rfl⟩
    · simp [given, hsome, hnone, hsame]
    · simp [given, hsome, hv, Draft.assign]

lemma toOption_of_ok {α : Type} {x : Except Error α} {a : α} (h : x = .ok a) :
    x.toOption = some a := by
  rw [h]
  rfl

section

variable (P)

def givenBpm (data : Entries) : Option (Set.Icc (30 : ℚ) 300) :=
  given data "bpm" fun value => (P.floatIn 30 300 le_tempo value).toOption

def givenKey (data : Entries) : Option String := given data "key" fun value =>
    if strip (P.str value) = "" then none else some (clip 12 (strip (P.str value)))

/-- A patch gives another tempo or key, or none. -/
def Song.MovedBy (song : Song) (data : Entries) : Prop :=
  givenBpm P data = none ∧ givenKey P data = none ∨
    (givenBpm P data).getD song.bpm ≠ song.bpm ∨ (givenKey P data).getD song.key ≠ song.key

def givenCapacity (data : Entries) : Option (Set.Icc (0 : ℚ) 100) :=
  given data "capacity" fun value => (P.floatIn 0 100 le_percent value).toOption

def givenMode (data : Entries) : Option SystemMode :=
  given data "mode" fun value => SystemMode.ofText? (strip (lower (P.str value)))

/-- The text that a patch gives; a blank one is the current one. -/
def givenText (data : Entries) (key current : String) : Option String :=
  given data key fun value => some (textOr P current value)

/-- A patch gives another value for a field of the system, or none at all. -/
def System.MovedBy (system : System) (data : Entries) : Prop :=
  (∀ key ∈ ["capacity", "mode", "venue", "productionManager"], data.lookup key = none) ∨
    (givenCapacity P data).getD system.capacity ≠ system.capacity ∨
    (givenMode P data).getD system.mode ≠ system.mode ∨
    (givenText P data "venue" system.venue).getD system.venue ≠ system.venue ∨
    (givenText P data "productionManager" system.productionManager).getD
      system.productionManager ≠ system.productionManager

variable {P} {data : Entries} {c : Content}

lemma AssignsGiven.reports {α γ : Type} {part : α → γ} {put : γ → α → α} {gives : α → Option γ}
    {item : Item Error (Draft α)} (h : AssignsGiven part put gives item) : ReportsChanges item :=
  fun d d' hok => (h d d' hok).2.1

lemma song_run {bpm key : Item Error (Draft Song)} {song : Song}
    (hbpm : AssignsGiven Song.bpm (fun v a => { a with bpm := v }) (fun _ => givenBpm P data) bpm)
    (hkey : AssignsGiven Song.key (fun v a => { a with key := v }) (fun _ => givenKey P data) key)
    (haccept : (run [bpm, key] { value := song, changes := [] }).2 = .ok ()) :
    (run [bpm, key] { value := song, changes := [] }).1.value =
        { bpm := (givenBpm P data).getD song.bpm, key := (givenKey P data).getD song.key } ∧
      (givenBpm P data = none → givenKey P data = none →
        (run [bpm, key] { value := song, changes := [] }).1.changes = []) ∧
      ((run [bpm, key] { value := song, changes := [] }).1.changes = [] →
        (run [bpm, key] { value := song, changes := [] }).1.value = song) := by
  have hreports : (run [bpm, key] { value := song, changes := [] }).1.changes = [] →
      (run [bpm, key] { value := song, changes := [] }).1.value = song := value_of_changes_nil
    (List.forall_mem_cons.mpr ⟨hbpm.reports, List.forall_mem_singleton.mpr hkey.reports⟩)
  obtain ⟨d₁, h₁, haccept, hrun⟩ := run_cons_ok haccept
  rw [hrun] at hreports ⊢
  obtain ⟨d₂, h₂, -, hrun⟩ := run_cons_ok haccept
  rw [hrun] at hreports ⊢
  obtain ⟨hvalue₁, -, hidle₁⟩ := hbpm _ _ h₁
  obtain ⟨hvalue₂, -, hidle₂⟩ := hkey _ _ h₂
  refine ⟨?_, fun hnobpm hnokey => ?_, hreports⟩
  · simp only [Script.run, hvalue₂, hvalue₁]
  · simp only [Script.run, hidle₂ hnokey, hidle₁ hnobpm]

lemma patchShow_value (haccept : ((patchShow P data).outcome c).2 = .ok ()) :
    ((patchShow P data).outcome c).1.value =
        { bpm := (givenBpm P data).getD c.song.bpm, key := (givenKey P data).getD c.song.key } ∧
      (givenBpm P data = none → givenKey P data = none →
        ((patchShow P data).outcome c).1.changes = []) ∧
      (((patchShow P data).outcome c).1.changes = [] →
        ((patchShow P data).outcome c).1.value = c.song) := by
  refine song_run (assignsGiven_onField (fun _ => rfl) ?_) (assignsGiven_onField (fun _ => rfl) ?_)
    haccept
  · intro value d d' hok
    obtain ⟨bpm, hbpm, hd⟩ := bind_eq_ok.mp hok
    exact .inr ⟨bpm, _, toOption_of_ok hbpm, (Except.ok.inj hd).symm⟩
  · intro value d d' hok
    cases hok
    split_ifs with hblank
    · exact .inl ⟨rfl, rfl⟩
    · exact .inr ⟨_, _, rfl, rfl⟩

lemma system_run {capacity mode venue manager : Item Error (Draft System)} {system : System}
    (hcapacity : AssignsGiven System.capacity (fun v a => { a with capacity := v })
      (fun _ => givenCapacity P data) capacity)
    (hmode : AssignsGiven System.mode (fun v a => { a with mode := v })
      (fun _ => givenMode P data) mode)
    (hvenue : AssignsGiven System.venue (fun v a => { a with venue := v })
      (fun a => givenText P data "venue" a.venue) venue)
    (hmanager : AssignsGiven System.productionManager (fun v a => { a with productionManager := v })
      (fun a => givenText P data "productionManager" a.productionManager) manager)
    (haccept : (run [capacity, mode, venue, manager] { value := system, changes := [] }).2 = .ok ()) :
    (run [capacity, mode, venue, manager] { value := system, changes := [] }).1.value =
        { capacity := (givenCapacity P data).getD system.capacity
          mode := (givenMode P data).getD system.mode
          venue := (givenText P data "venue" system.venue).getD system.venue
          productionManager := (givenText P data "productionManager"
            system.productionManager).getD system.productionManager } ∧
      ((∀ key ∈ ["capacity", "mode", "venue", "productionManager"], data.lookup key = none) →
        (run [capacity, mode, venue, manager] { value := system, changes := [] }).1.changes = []) ∧
      ((run [capacity, mode, venue, manager] { value := system, changes := [] }).1.changes = [] →
        (run [capacity, mode, venue, manager] { value := system, changes := [] }).1.value =
          system) := by
  have hreports :
      (run [capacity, mode, venue, manager] { value := system, changes := [] }).1.changes = [] →
        (run [capacity, mode, venue, manager] { value := system, changes := [] }).1.value =
          system :=
    value_of_changes_nil (List.forall_mem_cons.mpr ⟨hcapacity.reports, List.forall_mem_cons.mpr
      ⟨hmode.reports, List.forall_mem_cons.mpr ⟨hvenue.reports,
        List.forall_mem_singleton.mpr hmanager.reports⟩⟩⟩)
  obtain ⟨d₁, h₁, haccept, hrun⟩ := run_cons_ok haccept
  rw [hrun] at hreports ⊢
  obtain ⟨d₂, h₂, haccept, hrun⟩ := run_cons_ok haccept
  rw [hrun] at hreports ⊢
  obtain ⟨d₃, h₃, haccept, hrun⟩ := run_cons_ok haccept
  rw [hrun] at hreports ⊢
  obtain ⟨d₄, h₄, -, hrun⟩ := run_cons_ok haccept
  rw [hrun] at hreports ⊢
  obtain ⟨hvalue₁, -, hidle₁⟩ := hcapacity _ _ h₁
  obtain ⟨hvalue₂, -, hidle₂⟩ := hmode _ _ h₂
  obtain ⟨hvalue₃, -, hidle₃⟩ := hvenue _ _ h₃
  obtain ⟨hvalue₄, -, hidle₄⟩ := hmanager _ _ h₄
  refine ⟨?_, fun hnone => ?_, hreports⟩
  · simp only [Script.run, hvalue₄, hvalue₃, hvalue₂, hvalue₁]
  · simp only [List.forall_mem_cons] at hnone
    obtain ⟨hnocapacity, hnomode, hnovenue, hnomanager, -⟩ := hnone
    have hd₄ : d₄ = d₃ := hidle₄ (by simp [givenText, given, hnomanager])
    have hd₃ : d₃ = d₂ := hidle₃ (by simp [givenText, given, hnovenue])
    have hd₂ : d₂ = d₁ := hidle₂ (by simp [givenMode, given, hnomode])
    have hd₁ := hidle₁ (by simp [givenCapacity, given, hnocapacity])
    simp only [Script.run, hd₄, hd₃, hd₂, hd₁]

lemma patchSystem_value (haccept : ((patchSystem P data).outcome c).2 = .ok ()) :
    ((patchSystem P data).outcome c).1.value =
        { capacity := (givenCapacity P data).getD c.system.capacity
          mode := (givenMode P data).getD c.system.mode
          venue := (givenText P data "venue" c.system.venue).getD c.system.venue
          productionManager := (givenText P data "productionManager"
            c.system.productionManager).getD c.system.productionManager } ∧
      ((∀ key ∈ ["capacity", "mode", "venue", "productionManager"], data.lookup key = none) →
        ((patchSystem P data).outcome c).1.changes = []) ∧
      (((patchSystem P data).outcome c).1.changes = [] →
        ((patchSystem P data).outcome c).1.value = c.system) := by
  refine system_run (assignsGiven_onField (fun _ => rfl) ?_)
    (assignsGiven_onField (fun _ => rfl) ?_) (assignsGiven_onField (fun _ => rfl) ?_)
    (assignsGiven_onField (fun _ => rfl) ?_) haccept
  · intro value d d' hok
    obtain ⟨capacity, hcapacity, hd⟩ := bind_eq_ok.mp hok
    exact .inr ⟨capacity, _, toOption_of_ok hcapacity, (Except.ok.inj hd).symm⟩
  · intro value d d' hok
    cases hmode : SystemMode.ofText? (strip (lower (P.str value))) with
    | none =>
      simp only [hmode] at hok
      cases hok
    | some mode =>
      simp only [hmode] at hok
      exact .inr ⟨mode, _, rfl, (Except.ok.inj hok).symm⟩
  · intro value d d' hok
    exact .inr ⟨_, _, rfl, (Except.ok.inj hok).symm⟩
  · intro value d d' hok
    exact .inr ⟨_, _, rfl, (Except.ok.inj hok).symm⟩

end

/-! ## Technology -/

section

variable {data : Entries} {c : Content}

lemma sameValue_self (v : Value) : sameValue v v = true := by
  simp [sameValue]

lemma technology_items : ∀ item ∈ (patchTechnology P data).items c, Moves item := by
  refine List.forall_mem_cons.mpr ⟨?_, List.forall_mem_cons.mpr ⟨?_, List.forall_mem_cons.mpr
    ⟨?_, List.forall_mem_singleton.mpr ?_⟩⟩⟩
  · refine moves_onField fun value d d' hok => ?_
    cases value with
    | dict raw =>
      obtain ⟨policy, -, hd⟩ := bind_eq_ok.mp hok
      cases hd
      refine Draft.ite_moves fun hne heq => hne ?_
      rw [show policy = d.value.policy from congrArg Technology.policy heq]
      exact sameValue_self _
    | _ => exact absurd hok (by simp)
  · refine moves_onField fun value d d' hok => ?_
    obtain ⟨participants, -, hd⟩ := bind_eq_ok.mp hok
    cases hd
    exact Draft.assignNew_moves
  · refine moves_onField fun value d d' hok => ?_
    cases value with
    | list raws =>
      obtain ⟨byId, -, hok⟩ := bind_eq_ok.mp hok
      obtain ⟨extensions, -, hd⟩ := bind_eq_ok.mp hok
      cases hd
      refine Draft.ite_moves fun hne heq => hne ?_
      rw [show extensions = d.value.extensions from congrArg Technology.extensions heq]
      exact sameValue_self _
    | _ => exact absurd hok (by simp)
  · refine moves_onField fun value d d' hok => ?_
    cases value with
    | list ids =>
      simp only [] at hok
      split at hok
      · cases hok
        refine Draft.ite_moves fun hne heq => hne ?_
        exact congrArg Technology.extensions heq
      · cases hok
    | _ => exact absurd hok (by simp)

end

/-! ## Audio -/

section

variable {data : Entries} {c : Content} {players : List String}

lemma patchOutput_moves (value : Value) : Moves (patchOutput P players value) := by
  intro d d' hok
  cases value with
  | dict raw =>
    obtain ⟨slot, -, hok⟩ := bind_eq_ok.mp hok
    obtain ⟨updated, -, hd⟩ := bind_eq_ok.mp hok
    cases hd
    refine Draft.ite_moves fun hne heq => hne ?_
    have hslot := congrArg (fun audio : Audio => audio.outputs slot) heq
    simpa [Audio.setOutput] using hslot
  | _ => exact absurd hok (by simp [patchOutput])

lemma patchInput_moves (value : Value) : Moves (patchInput P players value) := by
  intro d d' hok
  cases value with
  | dict raw =>
    obtain ⟨slot, -, hok⟩ := bind_eq_ok.mp hok
    obtain ⟨updated, -, hd⟩ := bind_eq_ok.mp hok
    cases hd
    refine Draft.ite_moves fun hne heq => hne ?_
    have hslot := congrArg (fun audio : Audio => audio.inputs slot) heq
    simpa [Audio.setInput] using hslot
  | _ => exact absurd hok (by simp [patchInput])

lemma audioField_moves : ∀ item ∈ audioFieldItems P players data, Moves item := by
  unfold audioFieldItems
  simp only [List.forall_mem_cons]
  refine ⟨?_, ?_, ?_, ?_, ?_, ?_, ?_, List.forall_mem_nil _⟩
  · refine moves_onField fun value d d' hok => ?_
    obtain ⟨device, -, hok⟩ := bind_eq_ok.mp hok
    by_cases hempty : device.val = ""
    · rw [if_pos hempty] at hok
      obtain ⟨_, hthrow, -⟩ := bind_eq_ok.mp hok
      exact absurd hthrow (by simp [throw, throwThe, MonadExceptOf.throw])
    · rw [if_neg hempty] at hok
      cases hok
      exact Draft.ite_moves fun hne heq => hne (congrArg Audio.deviceId heq)
  · refine moves_onField fun value d d' hok => ?_
    obtain ⟨device, -, hd⟩ := bind_eq_ok.mp hok
    cases hd
    exact Draft.ite_moves fun hne heq => hne (congrArg Audio.inputDeviceId heq)
  · refine moves_onField fun value d d' hok => ?_
    obtain ⟨playerId, -, hd⟩ := bind_eq_ok.mp hok
    cases hd
    exact Draft.ite_moves fun hne heq => hne (congrArg Audio.inputPlayerId heq)
  · refine moves_onField fun value d d' hok => ?_
    cases value with
    | dict raw =>
      obtain ⟨output, -, hok⟩ := bind_eq_ok.mp hok
      obtain ⟨gain, -, hd⟩ := bind_eq_ok.mp hok
      cases hd
      exact Draft.ite_moves fun hne heq => hne (congrArg Audio.inputRoute heq)
    | _ => exact absurd hok (by simp)
  · refine moves_onField fun value d d' hok => ?_
    obtain ⟨sampleRate, -, hok⟩ := bind_eq_ok.mp hok
    split_ifs at hok with hsame
    · exact .inl (Except.ok.inj hok).symm
    · cases hok
      exact .inr ⟨fun heq => hsame (congrArg Audio.sampleRate heq), Draft.changes_assign _ _ _⟩
  · refine moves_onField fun value d d' hok => ?_
    obtain ⟨bufferFrames, -, hd⟩ := bind_eq_ok.mp hok
    cases hd
    exact Draft.assignNew_moves
  · refine moves_onField fun value d d' hok => ?_
    obtain ⟨ceiling, -, hd⟩ := bind_eq_ok.mp hok
    cases hd
    exact Draft.ite_moves fun hne heq => hne (congrArg Audio.limiterCeilingDb heq)

/-- The single fields are those of slot 0, as far as the patch sets them from there. -/
def Audio.InSyncFor (audio : Audio) (data : Entries) : Prop :=
  (data.lookup "outputs" ≠ none → audio.syncOutput = audio) ∧
    (data.lookup "inputs" ≠ none → audio.syncInput = audio)

/-- An item that, as long as nothing is reported, keeps the value. -/
def KeepsUnreported {α : Type} (a : α) (item : Item Error (Draft α)) : Prop :=
  ∀ d d', (d.changes = [] → d.value = a) → item d = .ok d' → d'.changes = [] → d'.value = a

lemma Moves.keepsUnreported {α : Type} {a : α} {item : Item Error (Draft α)} (h : Moves item) :
    KeepsUnreported a item := by
  intro d d' hd hok hchanges
  rcases h d d' hok with rfl | ⟨-, hne⟩
  · exact hd hchanges
  · exact absurd hchanges hne

lemma syncItem_keepsUnreported {audio : Audio} {sync : Audio → Audio} (hsync : sync audio = audio) :
    KeepsUnreported audio (syncItem sync) := by
  intro d d' hd hok hchanges
  cases hok
  simp only [hd hchanges, hsync]

lemma slotItems_forall {Q : Item Error (Draft Audio) → Prop} {key message : String}
    {each : Value → Item Error (Draft Audio)} {sync : Audio → Audio}
    (heach : ∀ value, Q (each value)) (hsync : data.lookup key ≠ none → Q (syncItem sync))
    (hreject : Q fun _ => .error (.valueError message)) :
    ∀ item ∈ slotItems data key message each sync, Q item := by
  unfold slotItems
  cases hlookup : data.lookup key with
  | none => exact List.forall_mem_nil _
  | some value =>
    have hgiven : data.lookup key ≠ none := by simp [hlookup]
    cases value with
    | list raws =>
      intro item hitem
      rcases List.mem_append.mp hitem with heach' | hlast
      · obtain ⟨raw, -, rfl⟩ := List.mem_map.mp heach'
        exact heach raw
      · obtain rfl := List.mem_singleton.mp hlast
        exact hsync hgiven
    | _ => exact List.forall_mem_singleton.mpr hreject

lemma patchAudio_forall {Q : Item Error (Draft Audio) → Prop} (hmoves : ∀ item, Moves item → Q item)
    (houtput : data.lookup "outputs" ≠ none → Q (syncItem Audio.syncOutput))
    (hinput : data.lookup "inputs" ≠ none → Q (syncItem Audio.syncInput)) :
    ∀ item ∈ (patchAudio P data).items c, Q item := by
  have hreject : ∀ message, Q fun _ => .error (.valueError message) :=
    fun message => hmoves _ fun d d' hok => absurd hok (by simp)
  intro item hitem
  rcases List.mem_append.mp hitem with hlists | hfield
  · rcases List.mem_append.mp hlists with hout | hin
    · exact slotItems_forall (fun value => hmoves _ (patchOutput_moves value)) houtput (hreject _)
        item hout
    · exact slotItems_forall (fun value => hmoves _ (patchInput_moves value)) hinput (hreject _)
        item hin
  · exact hmoves item (audioField_moves item hfield)

lemma patchAudio_value (hsync : c.audio.InSyncFor data)
    (hnone : ((patchAudio P data).outcome c).1.changes = []) :
    ((patchAudio P data).outcome c).1.value = c.audio := by
  have hkeeps : ∀ item ∈ (patchAudio P data).items c, KeepsUnreported c.audio item :=
    patchAudio_forall (fun item h => h.keepsUnreported)
      (fun hgiven => syncItem_keepsUnreported (hsync.1 hgiven))
      (fun hgiven => syncItem_keepsUnreported (hsync.2 hgiven))
  have hinvariant : ((patchAudio P data).outcome c).1.changes = [] →
      ((patchAudio P data).outcome c).1.value = c.audio :=
    run_invariant (I := fun d : Draft Audio => d.changes = [] → d.value = c.audio)
      (fun item hitem d d' hd hok => hkeeps item hitem d d' hd hok) fun _ => rfl
  exact hinvariant hnone

lemma patchAudio_compares : ∀ item ∈ (patchAudio P data).items c, Compares item := by
  have hsync : ∀ sync, Compares (syncItem sync) := by
    intro sync d d' hok
    cases hok
    exact .inl rfl
  exact patchAudio_forall (fun item h => h.compares) (fun _ => hsync _) fun _ => hsync _

end

end StageForge
