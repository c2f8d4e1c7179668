import StageForge.Show.Runs

/-!
# Revisions of the resources

Which resources a call changes, and which it touches. Of calls with the same expectation about a
resource one at most can change it, as long as whatever changes a resource touches it.
-/

namespace StageForge

open Python Script TransitionSystem

/-! ## Resources and their state -/

namespace ResourceKey

def lead (key : ResourceKey) : List Char := key.text.toList.take 5

theorem text_injective : Function.Injective text := by
  intro a b h
  have hlead : a.lead = b.lead := by rw [lead, lead, h]
  cases a <;> cases b <;> simp [lead, text] at hlead <;> first
    | rfl
    | (simp only [text, String.append_right_inj] at h; rw [h])

end ResourceKey

/-- The messages of the journal with their numbers: the last one that has come in has the number of
all received. -/
def MidiJournal.messages (journal : MidiJournal) : List (Int × Entries) :=
  journal.activity.zipIdx.map fun entry =>
    ((journal.received : Int) - journal.activity.length + 1 + entry.2, entry.1)

def MidiJournal.messagesOf (journal : MidiJournal) (playerId : String) : List (Int × Entries) :=
  journal.messages.filter fun m => m.2.lookup "playerId" = some (.str playerId)

/-- The state of a resource is the same. A journal that has dropped old messages is. -/
def SameResource (c c' : Content) : ResourceKey → Prop
  | .transport => c'.transport.running = c.transport.running ∧
      ∀ now, c'.transport.clockSeconds now = c.transport.clockSeconds now
  | .show => c'.song = c.song
  | .system => c'.system = c.system
  | .midiBindings => c'.midiBindings = c.midiBindings
  | .audio => c'.audio = c.audio
  | .lightingNetwork => c'.lighting = c.lighting
  | .handoff => c'.handoff = c.handoff
  | .technology => c'.technology = c.technology
  | .monitor playerId =>
    (c'.players.find? playerId).map Player.monitor = (c.players.find? playerId).map Player.monitor
  | .midi playerId => c'.midi.messagesOf playerId ⊆ c.midi.messagesOf playerId
  | .notationPart playerId => c'.notationRegistry.part playerId = c.notationRegistry.part playerId

lemma SameResource.refl (c : Content) (key : ResourceKey) : SameResource c c key := by
  cases key <;> simp [SameResource]

/-- A call accounts for what it does: the revisions say which resources it has changed, and whether
it has changed any. -/
structure Accounts (s t : Live) : Prop where
  same : ∀ key, SameResource s.toContent t.toContent key →
    t.resourceRevision key = s.resourceRevision key
  changed : ∀ key, ¬ SameResource s.toContent t.toContent key →
    t.resourceRevision key = s.resourceRevision key + 1
  idle : (∀ key, SameResource s.toContent t.toContent key) → t.revision = s.revision
  active : (∃ key, ¬ SameResource s.toContent t.toContent key) → t.revision = s.revision + 1

/-! ## Touching -/

lemma nodup_eraseDups {α : Type} [DecidableEq α] : ∀ l : List α, l.eraseDups.Nodup
  | [] => by simp
  | a :: l => by
    rw [List.eraseDups_cons, List.nodup_cons, List.mem_eraseDups]
    exact ⟨by simp, nodup_eraseDups (l.filter fun b => !b == a)⟩
termination_by l => l.length
decreasing_by exact Nat.lt_succ_of_le (List.length_filter_le _ _)

namespace Live

variable {s : Live} {keys : List ResourceKey} {key : ResourceKey} {revisions : Dict String Int}

lemma get?_bump (k : ResourceKey) : ((bump revisions k).get? key.text).getD 1 =
      (revisions.get? key.text).getD 1 + if k = key then 1 else 0 := by
  unfold bump
  rw [Dict.get?_set]
  by_cases h : k = key
  · simp [h]
  · simp [h, ResourceKey.text_injective.ne h]

lemma get?_foldl_bump (hnodup : keys.Nodup) : ((keys.foldl bump revisions).get? key.text).getD 1 =
      (revisions.get? key.text).getD 1 + if key ∈ keys then 1 else 0 := by
  induction keys generalizing revisions with
  | nil => simp
  | cons k keys ih =>
    rw [List.nodup_cons] at hnodup
    rw [List.foldl_cons, ih hnodup.2, get?_bump, add_assoc]
    by_cases h : k = key
    · subst h
      simp [hnodup.1]
    · simp [h, Ne.symm h]

/-- **What touching does to the revision of a resource.** -/
lemma resourceRevision_touch :
    (s.touch keys).resourceRevision key = s.resourceRevision key + if key ∈ keys then 1 else 0 := by
  have h := @get?_foldl_bump keys.eraseDups key s.resourceRevisions (nodup_eraseDups keys)
  simp only [List.mem_eraseDups] at h
  exact h

end Live

/-! ## Honest calls -/

namespace Call

variable {call : Call} {clocks : Clocks} {expected expectedResource : Option Int} {s : ShowState}
  {c : Content}

variable (call) in
/-- The call touches the resources that it changes. -/
def Honest (c : Content) : Prop := ∀ key, key ∈ call.touched c ↔ ¬ SameResource c (call.after c) key

lemma perform_returns_revisions {doc : Entries}
    (h : (call.perform clocks expected expectedResource s).2 = .ok doc) :
    let t := (call.perform clocks expected expectedResource s).1.toLive
    t.toContent = call.after s.toContent ∧ (∀ key, t.resourceRevision key =
        s.resourceRevision key + if key ∈ call.touched s.toContent then 1 else 0) ∧
      t.revision = s.revision + if call.touched s.toContent = [] then 0 else 1 := by
  obtain ⟨-, -, ⟨htouched, hlive⟩ | ⟨htouched, notice, hlive⟩⟩ := perform_returns h
  · rw [hlive, htouched]
    simp only [List.not_mem_nil, if_false, if_true, add_zero]
    exact ⟨rfl, fun _ => rfl, rfl⟩
  · rw [hlive]
    refine ⟨rfl, fun key => ?_, ?_⟩
    · exact Live.resourceRevision_touch (s := call.written s.toLive)
    · rw [if_neg htouched]
      rfl

/-- **A call accounts for what it does if it touches what it changes.** -/
lemma accounts_iff_honest {doc : Entries}
    (h : (call.perform clocks expected expectedResource s).2 = .ok doc) :
    Accounts s.toLive (call.perform clocks expected expectedResource s).1.toLive ↔
      call.Honest s.toContent := by
  obtain ⟨hcontent, hresource, htotal⟩ := perform_returns_revisions h
  constructor
  · rintro ⟨hsame, hchanged, -, -⟩ key
    specialize hsame key
    specialize hchanged key
    specialize hresource key
    rw [hcontent] at hsame hchanged
    constructor
    · intro hmem hkey
      rw [if_pos hmem] at hresource
      have := hsame hkey
      omega
    · intro hkey
      by_contra hmem
      rw [if_neg hmem] at hresource
      have := hchanged hkey
      omega
  · intro hhonest
    refine ⟨fun key hkey => ?_, fun key hkey => ?_, fun hall => ?_, fun ⟨key, hkey⟩ => ?_⟩
    · rw [hcontent] at hkey
      rw [hresource, if_neg fun hmem => (hhonest key).mp hmem hkey, add_zero]
    · rw [hcontent] at hkey
      rw [hresource, if_pos ((hhonest key).mpr hkey)]
    · rw [hcontent] at hall
      have hnone : call.touched s.toContent = [] :=
        List.eq_nil_iff_forall_not_mem.mpr fun key hmem => (hhonest key).mp hmem (hall key)
      rw [htotal, if_pos hnone, add_zero]
    · rw [hcontent] at hkey
      rw [htotal, if_neg (List.ne_nil_of_mem ((hhonest key).mpr hkey))]

variable (call) in
/-- The call reports changes and leaves its resource as it was. -/
def Redundant (c : Content) : Prop := call.key ∈ call.touched c ∧ SameResource c (call.after c) call.key

variable (call) in
/-- The call changes its resource and reports nothing. -/
def Unreported (c : Content) : Prop :=
  call.key ∉ call.touched c ∧ ¬ SameResource c (call.after c) call.key

variable (call) in
structure Framed (c : Content) : Prop where
  touched : ∀ key ∈ call.touched c, key = call.key
  same : ∀ key, key ≠ call.key → SameResource c (call.after c) key

/-- **A framed call is honest unless it is redundant or unreported.** -/
lemma Framed.honest_iff (h : call.Framed c) :
    call.Honest c ↔ ¬ call.Redundant c ∧ ¬ call.Unreported c := by
  have hkey : call.Honest c ↔
      (call.key ∈ call.touched c ↔ ¬ SameResource c (call.after c) call.key) := by
    constructor
    · exact fun hhonest => hhonest call.key
    · intro hkey key
      by_cases heq : key = call.key
      · rw [heq]
        exact hkey
      · exact iff_of_false (fun hmem => heq (h.touched key hmem)) fun hne => hne (h.same key heq)
  rw [hkey, Redundant, Unreported]
  tauto

end Call

/-! ### What is outside the part that a call works on -/

section

variable {c : Content} {key : ResourceKey}

lemma sameResource_transport (v : Transport) (h : key ≠ .transport) :
    SameResource c { c with transport := v } key := by
  cases key <;> simp_all [SameResource]

lemma sameResource_song (v : Song) (h : key ≠ .show) : SameResource c { c with song := v } key := by
  cases key <;> simp_all [SameResource]

lemma sameResource_system (v : System) (h : key ≠ .system) :
    SameResource c { c with system := v } key := by
  cases key <;> simp_all [SameResource]

lemma sameResource_handoff (v : Handoff) (h : key ≠ .handoff) :
    SameResource c { c with handoff := v } key := by
  cases key <;> simp_all [SameResource]

lemma sameResource_technology (v : Technology) (h : key ≠ .technology) :
    SameResource c { c with technology := v } key := by
  cases key <;> simp_all [SameResource]

lemma sameResource_audio (v : Audio) (h : key ≠ .audio) :
    SameResource c { c with audio := v } key := by
  cases key <;> simp_all [SameResource]

lemma sameResource_lighting (v : Lighting) (h : key ≠ .lightingNetwork) :
    SameResource c { c with lighting := v } key := by
  cases key <;> simp_all [SameResource]

lemma sameResource_bindings (v : Dict String String) (h : key ≠ .midiBindings) :
    SameResource c { c with midiBindings := v } key := by
  cases key <;> simp_all [SameResource]

lemma sameResource_players {playerId : String} {players : Table Player.id}
    (hothers : ∀ id ≠ playerId, players.find? id = c.players.find? id)
    (h : key ≠ .monitor playerId) : SameResource c { c with players } key := by
  cases key with
  | monitor id =>
    have hid : id ≠ playerId := fun heq => h (heq ▸ rfl)
    simp only [SameResource, hothers id hid]
  | _ => simp [SameResource]

lemma sameResource_registry {playerId : String} {registry : NotationRegistry}
    (hothers : ∀ id ≠ playerId, registry.part id = c.notationRegistry.part id)
    (h : key ≠ .notationPart playerId) :
    SameResource c { c with notationRegistry := registry } key := by
  cases key with
  | notationPart id =>
    have hid : id ≠ playerId := fun heq => h (heq ▸ rfl)
    simp only [SameResource, hothers id hid]
  | _ => simp [SameResource]

end

/-! ### Items that report what they change -/

def ReportsChanges {α : Type} (item : Item Error (Draft α)) : Prop :=
  ∀ d d', item d = .ok d' → d' = d ∨ d'.changes ≠ []

section

variable {α : Type} {items : List (Item Error (Draft α))} {value : α}

lemma Draft.changes_assign (d : Draft α) (v : α) (change : String) :
    (d.assign v change).changes ≠ [] := by
  simp [Draft.assign]

lemma value_of_changes_nil (hitems : ∀ item ∈ items, ReportsChanges item)
    (h : (Script.run items { value, changes := [] }).1.changes = []) :
    (Script.run items { value, changes := [] }).1.value = value := by
  have hinvariant : (Script.run items { value, changes := [] }).1.changes = [] → _ :=
    run_invariant (I := fun d : Draft α => d.changes = [] → d.value = value)
      (fun item hitem d d' hd hok hchanges => by
        rcases hitems item hitem d d' hok with rfl | hne
        · exact hd hchanges
        · exact absurd hchanges hne) fun _ => rfl
  exact hinvariant h

end

end StageForge
