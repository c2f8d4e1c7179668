import StageForge.Show.PerformanceItems

/-!
# What notation has to do with MIDI

`ingest_midi` lets the notation of the player observe a note before it records the message, and what
the notation raises is raised by the call.
-/

namespace StageForge

open Python Script

/-! ## What a part accepts -/

def NotationPart.observes (part : NotationPart) (m : MidiMessage) : Bool :=
  m.action?.isSome && part.settings.enabled

/-- The part raises nothing when it is to observe the message. -/
def NotationPart.accepts (part : NotationPart) (m : MidiMessage) : Bool := match m.action? with
  | none => true
  | some action =>
    decide part.Readable && (!part.settings.enabled || decide (action = "on") ||
      part.active.any fun note => decide ((note.pitch.val : Int) = m.data1))

namespace MidiMessage

/-- What `ingest_midi` has made sure of. -/
def InRange (m : MidiMessage) : Prop :=
  0 ≤ m.status ∧ m.status ≤ 255 ∧ 0 ≤ m.data1 ∧ m.data1 ≤ 127 ∧ 0 ≤ m.data2 ∧ m.data2 ≤ 127

lemma action?_eq (m : MidiMessage) :
    m.action? = none ∨ m.action? = some "on" ∨ m.action? = some "off" := by
  unfold action?
  simp only
  split_ifs
  · exact .inr (.inl rfl)
  · exact .inr (.inr rfl)
  · exact .inl rfl

end MidiMessage

variable {C : Conversions}

lemma inRange_of_midiMessage {data : Entries} {clock : ℚ} {m : MidiMessage}
    (h : midiMessage C data clock = .ok m) : m.InRange := by
  obtain ⟨status, -, h⟩ := bind_eq_ok.mp h
  obtain ⟨data1, -, h⟩ := bind_eq_ok.mp h
  obtain ⟨data2, -, h⟩ := bind_eq_ok.mp h
  by_cases hrange : 0 ≤ status ∧ status ≤ 255 ∧ 0 ≤ data1 ∧ data1 ≤ 127 ∧ 0 ≤ data2 ∧ data2 ≤ 127
  · rw [if_neg (not_not.mpr hrange)] at h
    obtain ⟨seconds, -, h⟩ := bind_eq_ok.mp h
    cases h
    exact hrange
  · rw [if_pos hrange] at h
    exact absurd h (by simp [bind, Except.bind, throw, throwThe, MonadExceptOf.throw])

lemma floatIn_velocity {velocity : Int} (hbounds : (1 : ℚ) ≤ 127)
    (hlow : 1 ≤ velocity) (hhigh : velocity ≤ 127) :
    ∃ x, C.floatIn 1 127 hbounds (.int velocity) = .ok x := by
  have hsmall : velocity.natAbs < Conversions.floatLimit := by
    rw [Conversions.floatLimit, pow_add 2 970 54]
    omega
  simp only [Conversions.floatIn, Conversions.float, if_pos hsmall, Except.map]
  exact ⟨_, rfl⟩

/-- **A part accepts a note or raises.** -/
lemma note_ok_iff {part : NotationPart} {m : MidiMessage} {action : String}
    {bpm : ℚ} (hrange : m.InRange) (haction : m.action? = some action) :
    (∃ played, part.note C action m.data1 (if action = "on" then max 1 m.data2 else 0) m.seconds bpm =
      .ok played) ↔
      action = "on" ∨ ∃ note ∈ part.active, (note.pitch.val : Int) = m.data1 := by
  obtain ⟨-, -, hlow, hhigh, hlow₂, hhigh₂⟩ := hrange
  have hpitch : pitchOf m.data1 = some ⟨m.data1.toNat, by omega⟩ := dif_pos ⟨hlow, by omega⟩
  rcases m.action?_eq with hnone | hon | hoff
  · rw [hnone] at haction
    cases haction
  · obtain rfl : action = "on" := Option.some.inj (haction.symm.trans hon)
    refine iff_of_true ?_ (.inl rfl)
    obtain ⟨velocity, hvelocity⟩ :=
      @floatIn_velocity C (max 1 m.data2) (by norm_num) (le_max_left _ _)
        (max_le (by decide) hhigh₂)
    simp only [NotationPart.note, if_true, NotationPart.noteOn, hpitch, hvelocity, bind, Except.bind,
      pure, Except.pure]
    exact ⟨_, rfl⟩
  · obtain rfl : action = "off" := Option.some.inj (haction.symm.trans hoff)
    have hsame : ∀ note : ActiveNote,
        note.pitch = ⟨m.data1.toNat, by omega⟩ ↔ (note.pitch.val : Int) = m.data1 := fun note => by
      rw [Fin.ext_iff]
      simp only
      omega
    have hnot : ("off" : String) ≠ "on" := by decide
    simp only [NotationPart.note, if_true, if_false, NotationPart.noteOff, hpitch, hnot, false_or]
    cases hfind : part.active.find? fun note => note.pitch = ⟨m.data1.toNat, by omega⟩ with
    | none =>
      refine iff_of_false ?_ ?_
      · rintro ⟨_, hraise⟩
        cases hraise
      rintro ⟨note, hmem, hkey⟩
      have hnone := List.find?_eq_none.mp hfind note hmem
      exact hnone (decide_eq_true ((hsame note).mpr hkey))
    | some note =>
      refine iff_of_true ⟨_, rfl⟩ ⟨note, List.mem_of_find?_eq_some hfind, ?_⟩
      have hkey := List.find?_some (p := fun note : ActiveNote => decide (note.pitch = _)) hfind
      exact (hsame note).mp (of_decide_eq_true hkey)

/-! ## What is recorded -/

section

variable {P : Platform} {c : Content} {clocks : Clocks} {playerId : String} {data : Entries}
  {m : MidiMessage}

def NotationPart.reported (part : NotationPart) (m : MidiMessage) : List String :=
  if part.observes m = true then m.action?.toList else []

open NotationPart

lemma observeItem_of_accepts {d : Draft (MidiJournal × NotationRegistry)} (hrange : m.InRange)
    (haccepts : (d.value.2.part playerId).accepts m = true) :
    ∃ registry, observeItem P c playerId m d = .ok
      { value := (d.value.1, registry)
        changes := d.changes ++ (d.value.2.part playerId).reported m } := by
  cases haction : m.action? with
  | none =>
    simp only [observeItem, haction, reported, Option.toList_none, ite_self,
      List.append_nil]
    exact ⟨d.value.2, rfl⟩
  | some action =>
    simp only [accepts, haction, Bool.and_eq_true, decide_eq_true_eq] at haccepts
    obtain ⟨hreadable, hnote⟩ := haccepts
    obtain ⟨fields, hfields⟩ : ∃ fields,
        (d.value.2.part playerId).snapshot c.song.key true none = .ok fields :=
      snapshot_ok_iff.mpr hreadable
    simp only [observeItem, haction, hfields, bind, Except.bind, reported,
      observes, Option.isSome_some, Bool.true_and, Option.toList_some]
    by_cases henabled : (d.value.2.part playerId).settings.enabled = true
    · rw [if_neg (not_not.mpr henabled), if_pos henabled]
      simp only [henabled, Bool.not_true, Bool.false_or, Bool.or_eq_true, decide_eq_true_eq,
        List.any_eq_true] at hnote
      obtain ⟨played, hplayed⟩ : ∃ played, (d.value.2.part playerId).note P.toConversions action
          m.data1 (if action = "on" then max 1 m.data2 else 0) m.seconds c.song.bpm = .ok played :=
        (note_ok_iff hrange haction).mpr hnote
      simp only [hplayed]
      exact ⟨_, rfl⟩
    · rw [if_pos henabled, if_neg henabled, List.append_nil]
      exact ⟨d.value.2, rfl⟩

lemma observeItem_of_not_accepts {d : Draft (MidiJournal × NotationRegistry)} (hrange : m.InRange)
    (hrefuses : (d.value.2.part playerId).accepts m = false) :
    ∃ e, observeItem P c playerId m d = .error e := by
  cases hout : observeItem P c playerId m d with
  | error e => exact ⟨e, rfl⟩
  | ok after =>
    exfalso
    cases haction : m.action? with
    | none => simp [accepts, haction] at hrefuses
    | some action =>
      simp only [observeItem, haction] at hout
      obtain ⟨fields, hfields, hout⟩ := bind_eq_ok.mp hout
      have hreadable := snapshot_ok_iff.mp ⟨fields, hfields⟩
      simp only [accepts, haction, hreadable, decide_true, Bool.true_and,
        Bool.or_eq_false_iff, Bool.not_eq_false'] at hrefuses
      obtain ⟨⟨henabled, hon⟩, hnone⟩ := hrefuses
      rw [if_neg (not_not.mpr henabled)] at hout
      obtain ⟨played, hplayed, -⟩ := bind_eq_ok.mp hout
      rcases (note_ok_iff hrange haction).mp ⟨played, hplayed⟩ with hsame | ⟨note, hmem, hkey⟩
      · exact of_decide_eq_false hon hsame
      · exact List.any_eq_false.mp hnone note hmem (decide_eq_true hkey)

lemma ensureNoteItem_ok (c : Content) (playerId : String) (m : MidiMessage) :
    ∃ ensured : NotationRegistry,
      ensureNoteItem playerId m { value := (c.midi, c.notationRegistry), changes := [] } =
        .ok { value := (c.midi, ensured), changes := [] } ∧
      ensured.part playerId = c.notationRegistry.part playerId := by
  unfold ensureNoteItem
  split_ifs
  · exact ⟨c.notationRegistry, rfl, rfl⟩
  · exact ⟨_, rfl, NotationRegistry.part_ensure playerId⟩

/-- **What is recorded of a message** that the part accepts. -/
lemma outcome_ingestMidi (hplayer : c.players.find? playerId ≠ none)
    (hmessage : midiMessage P.toConversions data (c.transport.clockSeconds clocks.now) = .ok m)
    (haccepts : (c.notationRegistry.part playerId).accepts m = true) :
    ∃ registry, (ingestMidi P clocks playerId data).outcome c =
      ({ value := (c.midi.take (m.activity playerId
            ((c.notationRegistry.part playerId).observes m)), registry)
         changes := (c.notationRegistry.part playerId).reported m }, .ok ()) := by
  have hplayed : (playerItem c playerId : Item Error (Draft (MidiJournal × NotationRegistry)))
      { value := (c.midi, c.notationRegistry), changes := [] } =
        .ok { value := (c.midi, c.notationRegistry), changes := [] } := if_neg hplayer
  obtain ⟨ensured, hensured, hpart⟩ := ensureNoteItem_ok c playerId m
  obtain ⟨registry, hobserved⟩ := observeItem_of_accepts (P := P) (c := c)
    (d := { value := (c.midi, ensured), changes := [] })
    (inRange_of_midiMessage hmessage) (hpart.symm ▸ haccepts)
  rw [List.nil_append, hpart] at hobserved
  have hflag : decide ((c.notationRegistry.part playerId).reported m ≠ []) =
      (c.notationRegistry.part playerId).observes m := by
    unfold reported observes
    cases m.action? with
    | none => simp
    | some action => cases (c.notationRegistry.part playerId).settings.enabled <;> simp
  refine ⟨registry, ?_⟩
  simp only [Call.outcome, ingestMidi, hmessage, midiFocus, Script.run, hplayed, hensured, hobserved,
    journalItem, hflag]
  rfl

lemma outcome_of_refused (hplayer : c.players.find? playerId ≠ none)
    (hmessage : midiMessage P.toConversions data (c.transport.clockSeconds clocks.now) = .ok m)
    (hrefuses : (c.notationRegistry.part playerId).accepts m = false) :
    ∃ registry e, (ingestMidi P clocks playerId data).outcome c =
      ({ value := (c.midi, registry), changes := [] }, .error e) := by
  have hplayed : (playerItem c playerId : Item Error (Draft (MidiJournal × NotationRegistry)))
      { value := (c.midi, c.notationRegistry), changes := [] } =
        .ok { value := (c.midi, c.notationRegistry), changes := [] } := if_neg hplayer
  obtain ⟨ensured, hensured, hpart⟩ := ensureNoteItem_ok c playerId m
  obtain ⟨e, hraised⟩ := observeItem_of_not_accepts (P := P) (c := c)
    (d := { value := (c.midi, ensured), changes := [] })
    (inRange_of_midiMessage hmessage) (hpart.symm ▸ hrefuses)
  refine ⟨ensured, e, ?_⟩
  simp only [Call.outcome, ingestMidi, hmessage, midiFocus, Script.run, hplayed, hensured, hraised]

end

/-! ## Calls -/

/-- A call of `ingest_midi`. -/
structure MidiCall where
  clocks : Clocks
  playerId : String
  data : Entries
  expected : Option Int
  expectedResource : Option Int

namespace MidiCall

variable (P : Platform) (call : MidiCall) (s : ShowState)

/-- The message, if the call comes as far as the notation. -/
def heard : Option MidiMessage :=
  match s.checkRevision call.expected call.expectedResource (.midi call.playerId),
    s.players.find? call.playerId,
    midiMessage P.toConversions call.data (s.transport.clockSeconds call.clocks.now) with
  | .ok _, some _, .ok m => some m
  | _, _, _ => none

/-- The state that the call leaves, whether it raises or not. -/
def perform : ShowState :=
  ((ingestMidi P call.clocks call.playerId call.data).perform call.clocks call.expected
    call.expectedResource s).1

def obstructed : Bool :=
  (call.heard P s).any fun m => !(s.notationRegistry.part call.playerId).accepts m

def Recorded (m : MidiMessage) : Prop := (call.perform P s).midi =
      s.midi.take (m.activity call.playerId ((s.notationRegistry.part call.playerId).observes m)) ∧
    (call.perform P s).resourceRevision (.midi call.playerId) =
      s.resourceRevision (.midi call.playerId) + 1

variable {P call s} {m : MidiMessage}

lemma of_heard (h : call.heard P s = some m) :
    s.checkRevision call.expected call.expectedResource (.midi call.playerId) = .ok () ∧
      s.players.find? call.playerId ≠ none ∧
      midiMessage P.toConversions call.data (s.transport.clockSeconds call.clocks.now) = .ok m := by
  unfold heard at h
  split at h
  · rename_i hcheck hplayer hmessage
    rw [hplayer, hmessage]
    exact ⟨hcheck, Option.some_ne_none _, congrArg Except.ok (Option.some.inj h)⟩
  · cases h

lemma perform_of_unheard (h : call.heard P s = none) : call.perform P s = s := by
  let ingest := ingestMidi P call.clocks call.playerId call.data
  unfold heard at h
  unfold perform
  cases hcheck : s.checkRevision call.expected call.expectedResource (.midi call.playerId) with
  | error failure =>
    exact congrArg Prod.fst (@Call.perform_of_conflict ingest _ _ _ _ _ hcheck)
  | ok _ =>
    have hrejected : ∃ e, (ingestMidi P call.clocks call.playerId call.data).outcome s.toContent =
        ({ value := (s.midi, s.notationRegistry), changes := [] }, .error e) := by
      cases hplayer : s.players.find? call.playerId with
      | none =>
        refine ⟨.keyError call.playerId, ?_⟩
        simp only [Call.outcome, ingestMidi, midiFocus, Script.run, playerItem, hplayer, if_true]
      | some player =>
        have hsome : ¬ s.players.find? call.playerId = none := by
          rw [hplayer]
          exact Option.some_ne_none player
        cases hmessage : midiMessage P.toConversions call.data
            (s.transport.clockSeconds call.clocks.now) with
        | error e =>
          refine ⟨e, ?_⟩
          simp only [Call.outcome, ingestMidi, midiFocus, Script.run, playerItem,
            if_neg hsome, hmessage]
        | ok m => simp [hcheck, hplayer, hmessage] at h
    obtain ⟨e, hout⟩ := hrejected
    rw [@Call.perform_of_rejected ingest _ _ _ _ _ hcheck (congrArg Prod.snd hout)]
    simp only [Call.written, Call.after, ingest, hout]
    rfl

/-- **A call that the notation does not turn down.** -/
lemma perform_of_accepts (h : call.heard P s = some m)
    (haccepts : (s.notationRegistry.part call.playerId).accepts m = true) :
    call.Recorded P s m ∧ (call.perform P s).players = s.players ∧
      (call.perform P s).transport = s.transport ∧
      (call.perform P s).revision = s.revision + 1 ∧
      ∀ playerId, (call.perform P s).resourceRevision (.midi playerId) =
        s.resourceRevision (.midi playerId) + if playerId = call.playerId then 1 else 0 := by
  obtain ⟨hcheck, hplayer, hmessage⟩ := of_heard h
  obtain ⟨registry, hout⟩ := outcome_ingestMidi hplayer hmessage haccepts
  have htouched : (ingestMidi P call.clocks call.playerId call.data).touched s.toContent ≠ [] :=
    List.cons_ne_nil _ _
  have hlive := congrArg Prod.fst (@Call.perform_of_noticed
    (ingestMidi P call.clocks call.playerId call.data) call.clocks _ _ _ _ hcheck
    (congrArg Prod.snd hout) htouched rfl)
  rw [ShowState.answer_fst] at hlive
  have hrevisions : ∀ key, (call.perform P s).resourceRevision key = s.resourceRevision key +
      if key ∈ (ingestMidi P call.clocks call.playerId call.data).touched s.toContent
        then 1 else 0 := by
    intro key
    rw [perform, hlive]
    exact Live.resourceRevision_touch
  have hmem : ∀ playerId, .midi playerId ∈
      (ingestMidi P call.clocks call.playerId call.data).touched s.toContent ↔
        playerId = call.playerId := by
    intro playerId
    simp only [Call.touched, ingestMidi, List.mem_cons, ResourceKey.midi.injEq]
    split_ifs <;> simp
  have hmidi : ∀ playerId, (call.perform P s).resourceRevision (.midi playerId) =
      s.resourceRevision (.midi playerId) + if playerId = call.playerId then 1 else 0 := by
    intro playerId
    simp only [hrevisions, hmem]
  refine ⟨⟨?_, ?_⟩, ?_, ?_, ?_, hmidi⟩
  · rw [perform, hlive]
    simp only [Live.record, Live.touch, Call.written, Call.after, hout]
    rfl
  · rw [hmidi, if_pos rfl]
  · rw [perform, hlive]
    rfl
  · rw [perform, hlive]
    rfl
  · rw [perform, hlive]
    rfl

end MidiCall

/-! ## Two runs -/

/-- An activity entry without the flag that says whether notation has observed the message. -/
def unflagged (entry : Entries) : Entries := entry.filter fun field => field.1 ≠ "notationObserved"

def MidiJournal.unflagged (journal : MidiJournal) : List Entries :=
  journal.activity.map StageForge.unflagged

/-- Two states that MIDI can tell apart by the flags at most. -/
structure SameForMidi (s t : ShowState) : Prop where
  players : s.players = t.players
  transport : s.transport = t.transport
  received : s.midi.received = t.midi.received
  activity : s.midi.unflagged = t.midi.unflagged
  revision : s.revision = t.revision
  resources : ∀ playerId, s.resourceRevision (.midi playerId) = t.resourceRevision (.midi playerId)

section

variable {P : Platform} {call : MidiCall} {s t : ShowState}

def ingestAll (P : Platform) (calls : List MidiCall) (s : ShowState) : ShowState :=
  calls.foldl (fun s call => call.perform P s) s

/-- The notation turns none of the messages down. -/
def unobstructed (P : Platform) : List MidiCall → ShowState → Bool
  | [], _ => true
  | call :: calls, s => !call.obstructed P s && unobstructed P calls (call.perform P s)

lemma unflagged_activity (m : MidiMessage) (playerId : String) (observed observed' : Bool) :
    unflagged (m.activity playerId observed) = unflagged (m.activity playerId observed') := by
  simp [unflagged, MidiMessage.activity]

lemma unflagged_take {journal journal' : MidiJournal} {entry entry' : Entries}
    (h : journal.unflagged = journal'.unflagged) (hentry : unflagged entry = unflagged entry') :
    (journal.take entry).unflagged = (journal'.take entry').unflagged := by
  have hmap : (journal.activity ++ [entry]).map unflagged =
      (journal'.activity ++ [entry']).map unflagged := by
    unfold MidiJournal.unflagged at h
    rw [List.map_append, List.map_append, h, List.map_singleton, List.map_singleton, hentry]
  have hlength := congrArg List.length hmap
  rw [List.length_map, List.length_map] at hlength
  simp only [MidiJournal.take, MidiJournal.unflagged, lastOf, List.map_drop, hmap, hlength]

lemma SameForMidi.heard_eq (h : SameForMidi s t) : call.heard P s = call.heard P t := by
  unfold MidiCall.heard
  unfold Live.checkRevision
  rw [h.resources call.playerId, h.revision, h.players, h.transport]

/-- **A message that is recorded in both states** leaves no difference but the flag. -/
lemma SameForMidi.perform (h : SameForMidi s t) (hs : call.obstructed P s = false)
    (ht : call.obstructed P t = false) : SameForMidi (call.perform P s) (call.perform P t) := by
  unfold MidiCall.obstructed at hs ht
  cases hheard : call.heard P s with
  | none =>
    rw [MidiCall.perform_of_unheard hheard,
      MidiCall.perform_of_unheard (h.heard_eq.symm.trans hheard)]
    exact h
  | some m =>
    have hheard' := h.heard_eq.symm.trans hheard
    rw [hheard, Option.any_some, Bool.not_eq_false'] at hs
    rw [hheard', Option.any_some, Bool.not_eq_false'] at ht
    obtain ⟨⟨hmidi, -⟩, hplayers, htransport, hrevision, hresources⟩ :=
      MidiCall.perform_of_accepts hheard hs
    obtain ⟨⟨hmidi', -⟩, hplayers', htransport', hrevision', hresources'⟩ :=
      MidiCall.perform_of_accepts hheard' ht
    refine ⟨?_, ?_, ?_, ?_, ?_, fun playerId => ?_⟩
    · rw [hplayers, hplayers', h.players]
    · rw [htransport, htransport', h.transport]
    · rw [hmidi, hmidi']
      exact congrArg (· + 1) h.received
    · rw [hmidi, hmidi']
      exact unflagged_take h.activity (unflagged_activity m _ _ _)
    · rw [hrevision, hrevision', h.revision]
    · rw [hresources, hresources', h.resources]

lemma SameForMidi.ingestAll {calls : List MidiCall} (h : SameForMidi s t)
    (hs : unobstructed P calls s = true) (ht : unobstructed P calls t = true) :
    SameForMidi (ingestAll P calls s) (StageForge.ingestAll P calls t) := by
  induction calls generalizing s t with
  | nil => exact h
  | cons call calls ih =>
    simp only [unobstructed, Bool.and_eq_true, Bool.not_eq_true'] at hs ht
    exact ih (h.perform hs.1 ht.1) hs.2 ht.2

end

/-- **Notation leaves MIDI alone.** A message that the notation of its player accepts is recorded; and
two states that differ only in their notation have the same activity, but for the flags, and the same
revisions after messages that the notation turns down in neither. -/
theorem notation_leaves_midi_alone (P : Platform) (s : ShowState) :
    (∀ (call : MidiCall) (m : MidiMessage), call.heard P s = some m →
      (s.notationRegistry.part call.playerId).accepts m = true → call.Recorded P s m) ∧
    ∀ (registry : NotationRegistry) (calls : List MidiCall), unobstructed P calls s = true →
      unobstructed P calls { s with notationRegistry := registry } = true →
      (ingestAll P calls s).midi.received =
          (ingestAll P calls { s with notationRegistry := registry }).midi.received ∧
        (ingestAll P calls s).midi.unflagged =
          (ingestAll P calls { s with notationRegistry := registry }).midi.unflagged ∧
        ∀ playerId, (ingestAll P calls s).resourceRevision (.midi playerId) =
          (ingestAll P calls { s with notationRegistry := registry }).resourceRevision
            (.midi playerId) := by
  refine ⟨fun call m hheard haccepts => (MidiCall.perform_of_accepts hheard haccepts).1,
    fun registry calls hs ht => ?_⟩
  have hstart : SameForMidi s { s with notationRegistry := registry } :=
    ⟨rfl, rfl, rfl, rfl, rfl, fun _ => rfl⟩
  have hsame := hstart.ingestAll hs ht
  exact ⟨hsame.received, hsame.activity, hsame.resources⟩

/-! ## Messages that are lost, and flags that differ -/

def messageTo (playerId : String) (status data1 data2 : Int) : MidiCall where
  clocks := exampleClocks
  playerId := playerId
  data := [("status", .int status), ("data1", .int data1), ("data2", .int data2)]
  expected := none
  expectedResource := none

/-- A registry in which the notation of a player is not enabled. -/
def silenced (playerId : String) : NotationRegistry :=
  (ShowState.initial exampleClocks).notationRegistry.set playerId
    { NotationPart.new playerId with settings := { NotationSettings.default with enabled := false } }

/-- The state in which the notation of a player is not enabled. -/
def silencedState : ShowState :=
  { ShowState.initial exampleClocks with notationRegistry := silenced "alex" }

theorem notation_leaves_midi_alone_note :
    (∃ m, (messageTo "alex" 144 60 100).heard examplePlatform (ShowState.initial exampleClocks) =
        some m ∧
      (messageTo "alex" 144 60 100).Recorded examplePlatform (ShowState.initial exampleClocks) m) ∧
    (ingestAll examplePlatform [messageTo "alex" 144 60 100, messageTo "alex" 128 60 0]
        (ShowState.initial exampleClocks)).midi.unflagged =
      (ingestAll examplePlatform [messageTo "alex" 144 60 100, messageTo "alex" 128 60 0]
        silencedState).midi.unflagged := by
  obtain ⟨hrecorded, hsame⟩ :=
    notation_leaves_midi_alone examplePlatform (ShowState.initial exampleClocks)
  have hheard : ((messageTo "alex" 144 60 100).heard examplePlatform
      (ShowState.initial exampleClocks)).isSome = true := by decide +kernel
  have haccepts : (messageTo "alex" 144 60 100).obstructed examplePlatform
      (ShowState.initial exampleClocks) = false := by decide +kernel
  obtain ⟨m, hm⟩ := Option.isSome_iff_exists.mp hheard
  rw [MidiCall.obstructed, hm, Option.any_some, Bool.not_eq_false'] at haccepts
  exact ⟨⟨m, hm, hrecorded _ m hm haccepts⟩,
    (hsame (silenced "alex") _ (by decide +kernel) (by decide +kernel)).2.1⟩

/-- **Notation blocks MIDI.** A note off without a note on is not recorded in a new state. And
a note leaves another activity where the notation is not enabled. -/
theorem notation_blocks_midi : (∃ s, Reachable examplePlatform s ∧
      ((messageTo "alex" 128 60 0).heard examplePlatform s).isSome = true ∧
      ((messageTo "alex" 128 60 0).perform examplePlatform s).midi = s.midi ∧
      ((messageTo "alex" 128 60 0).perform examplePlatform s).resourceRevision (.midi "alex") =
        s.resourceRevision (.midi "alex")) ∧
    (ingestAll examplePlatform [messageTo "alex" 144 60 100]
        (ShowState.initial exampleClocks)).midi.activity ≠
      (ingestAll examplePlatform [messageTo "alex" 144 60 100] silencedState).midi.activity := by
  refine ⟨⟨ShowState.initial exampleClocks, reachable_of_run [] rfl, ?_, ?_, ?_⟩, ?_⟩ <;>
    decide +kernel

end StageForge
