import StageForge.Show.PatchItems

/-!
# What the calls about a player assign

The same for the calls that name a player: the mix and the part of the player are patched and the
other players keep theirs, a note that is captured leaves another part, and the journal takes a MIDI
message under a number that no earlier message has.
-/

namespace StageForge

open Python Script

variable {P : Platform}

/-! ## Monitor mixes -/

section

variable {c : Content} {playerId : String} {data : Entries}

lemma playerItem_ok {α : Type} {d d' : Draft α} (h : playerItem c playerId d = .ok d') :
    d' = d ∧ ∃ player, c.players.find? playerId = some player := by
  unfold playerItem at h
  split_ifs at h with hnone
  exact ⟨(Except.ok.inj h).symm, Option.ne_none_iff_exists'.mp hnone⟩

def MonitorMix.MovedBy (C : Conversions) (mix : MonitorMix) (data : Entries) : Prop :=
  (run (MonitorMix.patch C (.dict data)) mix).1 ≠ mix

lemma run_monitorItems (items : List (Item Error MonitorMix)) (d : Draft (Table Player.id)) :
    ∀ player, d.value.find? playerId = some player →
      (run (items.map (monitorItem playerId)) d).1.value.find? playerId =
          some { player with monitor := (run items player.monitor).1 } ∧
        ∀ id ≠ playerId,
          (run (items.map (monitorItem playerId)) d).1.value.find? id = d.value.find? id := by
  induction items generalizing d with
  | nil =>
    intro player hplayer
    exact ⟨hplayer, fun _ _ => rfl⟩
  | cons item items ih =>
    intro player hplayer
    have hitem : monitorItem playerId item d = (item player.monitor).map fun monitor =>
          { d with value := d.value.put { player with monitor } } := by
      simp only [monitorItem, hplayer]
    simp only [List.map_cons, Script.run, hitem]
    cases item player.monitor with
    | error e => exact ⟨hplayer, fun _ _ => rfl⟩
    | ok monitor =>
      have hid : player.id = playerId := (Table.find?_eq_some.mp hplayer).2
      obtain ⟨hmix, hothers⟩ := ih { d with value := d.value.put { player with monitor } }
        { player with monitor } (by simp [Table.find?_put, hid])
      refine ⟨hmix, fun id hne => (hothers id hne).trans ?_⟩
      rw [Table.find?_put, if_neg fun heq => hne (heq.symm.trans hid)]

lemma patchMonitor_value (haccept : ((patchMonitor P playerId data).outcome c).2 = .ok ()) :
    ∃ player, c.players.find? playerId = some player ∧
      ((patchMonitor P playerId data).after c).players.find? playerId = some { player with
          monitor := (run (MonitorMix.patch P.toConversions (.dict data)) player.monitor).1 } ∧
      ∀ id ≠ playerId, ((patchMonitor P playerId data).after c).players.find? id =
        c.players.find? id := by
  obtain ⟨d, hd, -, hrun⟩ := run_cons_ok haccept
  obtain ⟨rfl, player, hplayer⟩ := playerItem_ok hd
  obtain ⟨hmix, hothers⟩ := run_monitorItems (MonitorMix.patch P.toConversions (.dict data))
    { value := c.players, changes := [] } player hplayer
  have hafter : ((patchMonitor P playerId data).after c).players =
      (run ((MonitorMix.patch P.toConversions (.dict data)).map (monitorItem playerId))
        { value := c.players, changes := [] }).1.value := congrArg (fun r => r.1.value) hrun
  rw [hafter]
  exact ⟨player, hplayer, hmix, hothers⟩

end

/-! ## Notation -/

section

variable {c : Content} {clocks : Clocks} {playerId : String} {data : Entries}
  {registry : NotationRegistry}

def NotationSettings.MovedBy (C : Conversions) (settings : NotationSettings) (data : Entries) :
    Prop :=
  (run (NotationSettings.patch C (.dict data)) settings).1 ≠ settings

lemma NotationRegistry.part_set (registry : NotationRegistry) (playerId : String)
    (part : NotationPart) (id : String) :
    NotationRegistry.part (registry.set playerId part) id =
      if playerId = id then part else registry.part id := by
  unfold NotationRegistry.part
  rw [Dict.get?_set]
  split_ifs with h
  · rfl
  · rfl

lemma NotationRegistry.part_ensure (id : String) :
    (registry.ensure playerId).part id = registry.part id := by
  unfold NotationRegistry.ensure
  split_ifs with hsome
  · rfl
  · have hmissing : registry.get? playerId = none := by simpa using hsome
    rw [NotationRegistry.part_set]
    split_ifs with h
    · subst h
      simp only [NotationRegistry.part, hmissing, Option.getD_none]
    · rfl

lemma run_settingsItems (playerId : String) (items : List (Item Error NotationSettings))
    (d : Draft NotationRegistry) :
    (run (items.map (settingsItem playerId)) d).1.value.part playerId =
        { d.value.part playerId with settings := (run items (d.value.part playerId).settings).1 } ∧
      ∀ id ≠ playerId,
        (run (items.map (settingsItem playerId)) d).1.value.part id = d.value.part id := by
  induction items generalizing d with
  | nil => exact ⟨rfl, fun _ _ => rfl⟩
  | cons item items ih =>
    simp only [List.map_cons, Script.run, settingsItem]
    cases item (d.value.part playerId).settings with
    | error e => exact ⟨rfl, fun _ _ => rfl⟩
    | ok settings =>
      have hown := NotationRegistry.part_set d.value playerId
        { d.value.part playerId with settings } playerId
      rw [if_pos rfl] at hown
      obtain ⟨hsettings, hothers⟩ :=
        ih { d with value := d.value.set playerId { d.value.part playerId with settings } }
      refine ⟨?_, fun id hne => (hothers id hne).trans ?_⟩
      · refine hsettings.trans ?_
        simp only [hown]
      · rw [NotationRegistry.part_set, if_neg (Ne.symm hne)]

lemma patchNotationSettings_value
    (haccept : ((patchNotationSettings P playerId data).outcome c).2 = .ok ()) :
    ((patchNotationSettings P playerId data).after c).notationRegistry.part playerId =
        { c.notationRegistry.part playerId with
          settings := (run (NotationSettings.patch P.toConversions (.dict data))
            (c.notationRegistry.part playerId).settings).1 } ∧
      ∀ id ≠ playerId, ((patchNotationSettings P playerId data).after c).notationRegistry.part id =
        c.notationRegistry.part id := by
  obtain ⟨d₁, h₁, haccept, hrun⟩ := run_cons_ok haccept
  obtain ⟨d₂, h₂, -, hrun₂⟩ := run_cons_ok haccept
  obtain ⟨rfl, -⟩ := playerItem_ok h₁
  cases h₂
  obtain ⟨hsettings, hothers⟩ := run_settingsItems playerId
    (NotationSettings.patch P.toConversions (.dict data))
    { value := NotationRegistry.ensure c.notationRegistry playerId, changes := [] }
  have hafter : ((patchNotationSettings P playerId data).after c).notationRegistry =
      (run ((NotationSettings.patch P.toConversions (.dict data)).map (settingsItem playerId))
        { value := NotationRegistry.ensure c.notationRegistry playerId, changes := [] }).1.value :=
    congrArg (fun r => r.1.value) (hrun.trans hrun₂)
  simp only [NotationRegistry.part_ensure] at hsettings hothers
  rw [hafter]
  exact ⟨hsettings, hothers⟩

lemma clearNotation_value (haccept : ((clearNotation playerId).outcome c).2 = .ok ()) :
    ((clearNotation playerId).after c).notationRegistry.part playerId =
        (c.notationRegistry.part playerId).clear ∧
      ∀ id ≠ playerId, ((clearNotation playerId).after c).notationRegistry.part id =
        c.notationRegistry.part id := by
  obtain ⟨d₁, h₁, haccept, hrun⟩ := run_cons_ok haccept
  obtain ⟨d₂, h₂, -, hrun₂⟩ := run_cons_ok haccept
  obtain ⟨rfl, -⟩ := playerItem_ok h₁
  cases h₂
  have hafter : ((clearNotation playerId).after c).notationRegistry =
      c.notationRegistry.set playerId (c.notationRegistry.part playerId).clear :=
    congrArg (fun r => r.1.value) (hrun.trans hrun₂)
  rw [hafter]
  refine ⟨?_, fun id hne => ?_⟩
  · rw [NotationRegistry.part_set, if_pos rfl]
  · rw [NotationRegistry.part_set, if_neg (Ne.symm hne)]

lemma NotationPart.note_ne {C : Conversions} {part played : NotationPart} {action : String}
    {pitch velocity : Int} {seconds : WithTop ℚ} {bpm : ℚ}
    (h : part.note C action pitch velocity seconds bpm = .ok played) : played ≠ part := by
  unfold NotationPart.note at h
  split_ifs at h with hon hoff
  · unfold NotationPart.noteOn at h
    cases hpitch : pitchOf pitch with
    | none => simp [hpitch] at h
    | some p =>
      simp only [hpitch] at h
      obtain ⟨v, -, hplayed⟩ := bind_eq_ok.mp h
      cases hplayed
      intro heq
      have hid := congrArg NotationPart.nextId heq
      simp only at hid
      omega
  · unfold NotationPart.noteOff at h
    cases hpitch : pitchOf pitch with
    | none => simp [hpitch] at h
    | some p =>
      cases hfind : part.active.find? fun note => note.pitch = p with
      | none => simp [hpitch, hfind] at h
      | some note =>
        simp only [hpitch, hfind] at h
        cases h
        intro heq
        have hmem := List.mem_of_find?_eq_some hfind
        have hpitch : decide (note.pitch = p) = true := by simpa using List.find?_some hfind
        have herase := List.length_eraseP_of_mem (p := fun n : ActiveNote => n.pitch = p) hmem
          hpitch
        have hlength : (part.active.eraseP fun n => n.pitch = p).length = part.active.length :=
          congrArg (fun q : NotationPart => q.active.length) heq
        have hpos := List.length_pos_of_mem hmem
        omega

lemma notationNote_value (haccept : ((notationNote P clocks playerId data).outcome c).2 = .ok ()) :
    (∀ id ≠ playerId, NotationRegistry.part
        ((notationNote P clocks playerId data).outcome c).1.value id = c.notationRegistry.part id) ∧
      (((notationNote P clocks playerId data).outcome c).1.changes = [] ↔
        NotationRegistry.part ((notationNote P clocks playerId data).outcome c).1.value playerId =
          c.notationRegistry.part playerId) := by
  obtain ⟨d₁, h₁, haccept, hrun⟩ := run_cons_ok haccept
  obtain ⟨d₂, h₂, haccept, hrun₂⟩ := run_cons_ok haccept
  obtain ⟨d₃, h₃, -, hrun₃⟩ := run_cons_ok haccept
  obtain ⟨rfl, -⟩ := playerItem_ok h₁
  cases h₂
  have hout : ((notationNote P clocks playerId data).outcome c).1 = d₃ :=
    congrArg Prod.fst (hrun.trans (hrun₂.trans hrun₃))
  rw [hout]
  obtain ⟨_, -, h₃⟩ := bind_eq_ok.mp h₃
  split_ifs at h₃ with hdisabled
  · obtain ⟨note, -, h₃⟩ := bind_eq_ok.mp h₃
    obtain ⟨seconds, -, h₃⟩ := bind_eq_ok.mp h₃
    obtain ⟨played, hplayed, h₃⟩ := bind_eq_ok.mp h₃
    cases h₃
    have hne := NotationPart.note_ne hplayed
    rw [NotationRegistry.part_ensure] at hne
    refine ⟨fun id hid => ?_, iff_of_false (Draft.changes_assign _ _ _) ?_⟩
    · refine (NotationRegistry.part_set _ _ _ _).trans ?_
      rw [if_neg (Ne.symm hid)]
      exact NotationRegistry.part_ensure id
    · intro heq
      have hown := NotationRegistry.part_set
        (NotationRegistry.ensure c.notationRegistry playerId) playerId played playerId
      rw [if_pos rfl] at hown
      exact hne (hown.symm.trans heq)
  · cases h₃
    exact ⟨fun id _ => NotationRegistry.part_ensure id,
      iff_of_true rfl (NotationRegistry.part_ensure playerId)⟩

end

/-! ## MIDI -/

section

variable {c : Content} {clocks : Clocks} {playerId : String} {data : Entries}
  {journal : MidiJournal} {entry : Entries}

def MidiJournal.take (journal : MidiJournal) (entry : Entries) : MidiJournal :=
  { received := journal.received + 1, activity := lastOf 512 (journal.activity ++ [entry]) }

open MidiJournal

variable {m : Int × Entries}

lemma MidiJournal.mem_messages :
    m ∈ journal.messages ↔ ∃ i : ℕ, journal.activity[i]? = some m.2 ∧
      m.1 = (journal.received : Int) - journal.activity.length + 1 + i := by
  unfold messages
  rw [List.mem_map]
  constructor
  · rintro ⟨⟨e, i⟩, hmem, rfl⟩
    rw [List.mem_zipIdx_iff_getElem?] at hmem
    exact ⟨i, hmem, rfl⟩
  · rintro ⟨i, hget, hnumber⟩
    refine ⟨(m.2, i), List.mem_zipIdx_iff_getElem?.mpr hget, ?_⟩
    exact Prod.ext hnumber.symm rfl

lemma MidiJournal.number_le (h : m ∈ journal.messages) :
    m.1 ≤ journal.received := by
  obtain ⟨i, hget, hnumber⟩ := mem_messages.mp h
  have hlt : i < journal.activity.length := (List.getElem?_eq_some_iff.mp hget).1
  omega

lemma MidiJournal.mem_take : ((journal.received : Int) + 1, entry) ∈ (journal.take entry).messages := by
  have hlength : 0 < (lastOf 512 (journal.activity ++ [entry])).length := by
    simp only [lastOf, List.length_drop, List.length_append, List.length_singleton]
    omega
  refine mem_messages.mpr ⟨(lastOf 512 (journal.activity ++ [entry])).length - 1, ?_, ?_⟩
  · simp only [take, lastOf, List.getElem?_drop, List.length_drop, List.length_append,
      List.length_singleton]
    rw [List.getElem?_append_right (by omega)]
    rw [List.getElem?_singleton, if_pos (by omega)]
  · simp only [take]
    push_cast
    omega

lemma MidiJournal.of_mem_take (h : m ∈ (journal.take entry).messages) :
    m ∈ journal.messages ∨ m.2 = entry := by
  obtain ⟨i, hget, hnumber⟩ := mem_messages.mp h
  simp only [take, lastOf, List.getElem?_drop, List.length_drop, List.length_append,
    List.length_singleton] at hget hnumber
  by_cases hlt : journal.activity.length + 1 - 512 + i < journal.activity.length
  · rw [List.getElem?_append_left hlt] at hget
    refine .inl (mem_messages.mpr ⟨_, hget, ?_⟩)
    push_cast at hnumber ⊢
    omega
  · rw [List.getElem?_append_right (by omega), List.getElem?_singleton] at hget
    split_ifs at hget
    exact .inr (Option.some.inj hget).symm

lemma observe_value {m : MidiMessage} {d d₁ d₂ : Draft (MidiJournal × NotationRegistry)}
    (h₁ : ensureNoteItem playerId m d = .ok d₁) (h₂ : observeItem P c playerId m d₁ = .ok d₂)
    (hstart : d.changes = []) :
    d₂.value.1 = d.value.1 ∧ (∀ id ≠ playerId, d₂.value.2.part id = d.value.2.part id) ∧
      (d₂.changes = [] ↔ d₂.value.2.part playerId = d.value.2.part playerId) := by
  cases h₁
  unfold observeItem at h₂
  cases haction : m.action? with
  | none =>
    simp only [haction, if_true] at h₂
    cases h₂
    exact ⟨rfl, fun _ _ => rfl, iff_of_true hstart rfl⟩
  | some action =>
    simp only [haction, reduceCtorEq, if_false] at h₂
    obtain ⟨_, -, h₂⟩ := bind_eq_ok.mp h₂
    by_cases henabled : ((d.value.2.ensure playerId).part playerId).settings.enabled = true
    case neg =>
      rw [if_pos henabled] at h₂
      cases h₂
      exact ⟨rfl, fun id _ => NotationRegistry.part_ensure id,
        iff_of_true hstart (NotationRegistry.part_ensure playerId)⟩
    case pos =>
      rw [if_neg (not_not.mpr henabled)] at h₂
      obtain ⟨played, hplayed, h₂⟩ := bind_eq_ok.mp h₂
      cases h₂
      have hne := NotationPart.note_ne hplayed
      rw [NotationRegistry.part_ensure] at hne
      have hset := NotationRegistry.part_set (d.value.2.ensure playerId) playerId played
      refine ⟨rfl, fun id hid => ?_, iff_of_false (Draft.changes_assign _ _ _) fun heq => ?_⟩
      · refine (hset id).trans ?_
        rw [if_neg (Ne.symm hid), NotationRegistry.part_ensure]
      · have hown := hset playerId
        rw [if_pos rfl] at hown
        exact hne (hown.symm.trans heq)

lemma ingestMidi_value (haccept : ((ingestMidi P clocks playerId data).outcome c).2 = .ok ()) :
    (∃ entry : Entries, entry.lookup "playerId" = some (.str playerId) ∧
      ((ingestMidi P clocks playerId data).after c).midi = c.midi.take entry) ∧
    (∀ id ≠ playerId, ((ingestMidi P clocks playerId data).after c).notationRegistry.part id =
      c.notationRegistry.part id) ∧
    (((ingestMidi P clocks playerId data).outcome c).1.changes = [] ↔
      ((ingestMidi P clocks playerId data).after c).notationRegistry.part playerId =
        c.notationRegistry.part playerId) := by
  obtain ⟨d, hd, haccept, hrun⟩ := run_cons_ok haccept
  obtain ⟨rfl, -⟩ := playerItem_ok hd
  have hfirst : ((ingestMidi P clocks playerId data).outcome c).1 = _ := congrArg Prod.fst hrun
  cases hmessage : midiMessage P.toConversions data (c.transport.clockSeconds clocks.now) with
  | error e =>
    rw [hmessage] at haccept
    exact absurd haccept (by simp [Script.run])
  | ok m =>
    rw [hmessage] at haccept hfirst
    obtain ⟨d₁, h₁, haccept, hrun₁⟩ := run_cons_ok haccept
    obtain ⟨d₂, h₂, haccept, hrun₂⟩ := run_cons_ok haccept
    obtain ⟨d₃, h₃, -, hrun₃⟩ := run_cons_ok haccept
    have hout : ((ingestMidi P clocks playerId data).outcome c).1 = d₃ :=
      hfirst.trans (congrArg Prod.fst (hrun₁.trans (hrun₂.trans hrun₃)))
    obtain ⟨hjournal, hothers, hown⟩ := observe_value h₁ h₂ rfl
    cases h₃
    unfold Call.after
    rw [hout]
    refine ⟨⟨m.activity playerId (d₂.changes ≠ []), rfl, ?_⟩, hothers, hown⟩
    have hmidi : d₂.value.1 = c.midi := hjournal
    rw [← hmidi]
    rfl

/-- **A MIDI message is accounted for**: it is a message of the player, and a note changes the part. -/
lemma ingestMidi_honest (haccept : ((ingestMidi P clocks playerId data).outcome c).2 = .ok ()) :
    (ingestMidi P clocks playerId data).Honest c := by
  obtain ⟨⟨entry, hplayer, hjournal⟩, hothers, hown⟩ := ingestMidi_value haccept
  have htouched : (ingestMidi P clocks playerId data).touched c = .midi playerId ::
      if ((ingestMidi P clocks playerId data).outcome c).1.changes = [] then []
      else [.notationPart playerId] := rfl
  intro key
  rw [htouched, List.mem_cons]
  cases key with
  | midi id =>
    by_cases hid : id = playerId
    · subst hid
      refine iff_of_true (.inl rfl) fun hsame => ?_
      have hnew : ((c.midi.received : Int) + 1, entry) ∈ c.midi.messagesOf id := by
        refine hsame ?_
        rw [hjournal]
        exact List.mem_filter.mpr ⟨mem_take, by simp [hplayer]⟩
      have hle := number_le (List.mem_filter.mp hnew).1
      simp only at hle
      omega
    · refine iff_of_false ?_ (not_not.mpr ?_)
      · split_ifs <;> simp [hid]
      · intro m hm
        rw [hjournal] at hm
        obtain ⟨hmem, hof⟩ := List.mem_filter.mp hm
        rcases of_mem_take hmem with hold | rfl
        · exact List.mem_filter.mpr ⟨hold, hof⟩
        · rw [hplayer] at hof
          exact absurd (by simpa using hof) (Ne.symm hid)
  | notationPart id =>
    by_cases hid : id = playerId
    · subst hid
      simp only [SameResource, ← hown]
      split_ifs with hchanges <;> simp [hchanges]
    · refine iff_of_false ?_ (not_not.mpr (hothers id hid))
      split_ifs <;> simp [hid]
  | _ =>
    refine iff_of_false ?_ (not_not.mpr ?_)
    · split_ifs <;> simp
    · simp [SameResource, Call.after, ingestMidi, midiFocus]

end

end StageForge
