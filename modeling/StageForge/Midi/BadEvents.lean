import StageForge.Midi.Pump

/-!
# Rounds with bad events

What an event of a round that raises does to the others: those after it are not ingested, and what those before
it have changed is not persisted.
-/

namespace StageForge

open Python TransitionSystem

section

variable {P : Platform} {power : ℚ → ℚ → ℚ} {clocks : Clocks}

namespace MidiNode

variable {m n t u : MidiNode} {new more : List Event}

/-! ## What has been recorded -/

/-- The ids of a node are below the next one, and its list is not too long. -/
structure Marked (m : MidiNode) : Prop where
  mark : m.lastPersistedEventId < m.state.nextEventId
  ledger : ∀ e ∈ m.ledger, e.id < m.state.nextEventId
  events : ∀ e ∈ m.state.events, e.id < m.state.nextEventId
  length : m.state.events.length ≤ 100

/-- From one node to another these events have been recorded and nothing has been persisted. -/
structure Since (m n : MidiNode) (new : List Event) : Prop where
  recorded : n.recorded = m.recorded ++ new
  ledger : n.ledger = m.ledger
  mark : n.lastPersistedEventId = m.lastPersistedEventId
  next : n.state.nextEventId = m.state.nextEventId + new.length
  revision : n.state.revision = m.state.revision + new.length
  above : ∀ e ∈ new, m.state.nextEventId ≤ e.id
  below : ∀ e ∈ new, e.id < n.state.nextEventId
  increasing : (new.map Event.id).Pairwise (· < ·)
  window : m.state.events.length ≤ 100 → n.state.events = (new.reverse ++ m.state.events).take 100

lemma Since.of_same (hrecorded : n.recorded = m.recorded)
    (hledger : n.ledger = m.ledger) (hmark : n.lastPersistedEventId = m.lastPersistedEventId)
    (hnext : n.state.nextEventId = m.state.nextEventId) (hrevision : n.state.revision = m.state.revision)
    (hevents : n.state.events = m.state.events) : Since m n [] where
  recorded := hrecorded.trans (List.append_nil _).symm
  ledger := hledger
  mark := hmark
  next := hnext.trans (add_zero _).symm
  revision := hrevision.trans (add_zero _).symm
  above _ he := absurd he List.not_mem_nil
  below _ he := absurd he List.not_mem_nil
  increasing := List.Pairwise.nil
  window hlength := hevents.trans (List.take_of_length_le hlength).symm

lemma Since.refl : Since m m [] := .of_same rfl rfl rfl rfl rfl rfl

lemma Since.length (h : Since m n new) (hlength : m.state.events.length ≤ 100) :
    n.state.events.length ≤ 100 := by
  rw [h.window hlength, List.length_take]
  exact min_le_left _ _

lemma Since.trans (h : Since m n new) (hmore : Since n t more) : Since m t (new ++ more) where
  recorded := by rw [hmore.recorded, h.recorded, List.append_assoc]
  ledger := hmore.ledger.trans h.ledger
  mark := hmore.mark.trans h.mark
  next := by
    rw [hmore.next, h.next, List.length_append]
    push_cast
    ring
  revision := by
    rw [hmore.revision, h.revision, List.length_append]
    push_cast
    ring
  above e he := by
    rcases List.mem_append.mp he with hold | hnew
    · exact h.above e hold
    · have hle := hmore.above e hnew
      have hnext := h.next
      omega
  below e he := by
    rcases List.mem_append.mp he with hold | hnew
    · have hlt := h.below e hold
      have hnext := hmore.next
      omega
    · exact hmore.below e hnew
  increasing := by
    rw [List.map_append]
    refine List.pairwise_append.mpr ⟨h.increasing, hmore.increasing, fun i hi j hj => ?_⟩
    obtain ⟨a, ha, rfl⟩ := List.mem_map.mp hi
    obtain ⟨b, hb, rfl⟩ := List.mem_map.mp hj
    exact (h.below a ha).trans_le (hmore.above b hb)
  window hlength := by
    rw [hmore.window (h.length hlength), h.window hlength, List.reverse_append, List.append_assoc, List.take_append,
      @List.take_append _ more.reverse _ _, List.take_take]
    congr 2
    exact min_eq_left (Nat.sub_le _ _)

/-- **New events reach the ledger if there are at most 100.** -/
lemma Since.persisted_iff (h : Since m n new) (hm : m.Marked) :
    (∀ e ∈ new, e ∈ n.afterMutation.ledger) ↔ new.length ≤ 100 := by
  have hledger : n.afterMutation.ledger = m.ledger ++ n.state.eventsSince m.lastPersistedEventId := by
    rw [← h.mark, ← h.ledger]
    rfl
  constructor
  · intro hall
    by_contra hlong
    obtain ⟨first, rest, rfl⟩ : ∃ first rest, new = first :: rest := by
      cases new with
      | nil => exact absurd (Nat.zero_le 100) hlong
      | cons first rest => exact ⟨first, rest, rfl⟩
    have hfirst := h.above first List.mem_cons_self
    have hmem := hall first List.mem_cons_self
    rw [hledger] at hmem
    rcases List.mem_append.mp hmem with hold | hsince
    · have hlt := hm.ledger first hold
      omega
    · have hlist : first ∈ n.state.events := List.mem_reverse.mp (List.mem_of_mem_filter hsince)
      rw [h.window hm.length, List.reverse_cons, List.append_assoc, List.take_append_of_le_length] at hlist
      · -- the first of the new events is not among the others
        have hrest := List.mem_reverse.mp (List.mem_of_mem_take hlist)
        have hlt := List.rel_of_pairwise_cons h.increasing (List.mem_map_of_mem (f := Event.id) hrest)
        exact absurd hlt (lt_irrefl _)
      · rw [List.length_reverse]
        simp only [List.length_cons] at hlong
        omega
  · intro hfew e he
    rw [hledger]
    refine List.mem_append_right _ (List.mem_filter.mpr ⟨List.mem_reverse.mpr ?_, ?_⟩)
    · rw [h.window hm.length, List.take_append]
      refine List.mem_append_left _ ?_
      rw [List.take_of_length_le (by rwa [List.length_reverse])]
      exact List.mem_reverse.mpr he
    · have hle := h.above e he
      have hlt := hm.mark
      exact decide_eq_true (by omega)

/-! ## Calls -/

variable {call : Call}

open Call

lemma since_quiet
    (hquiet : ∀ u, (call.outcome n.state.toContent).2 = .ok u → call.touched n.state.toContent = []) :
    Since n (n.become (call.perform clocks none none n.state).1) [] := by
  have hcheck : n.state.checkRevision none none call.key = .ok () := rfl
  cases hout : (call.outcome n.state.toContent).2 with
  | error e =>
    rw [perform_of_rejected hcheck hout]
    exact .of_same (by simp [become, written]) rfl rfl rfl rfl rfl
  | ok u =>
    rw [perform_of_idle hcheck hout (hquiet u hout)]
    exact .of_same (by simp [become, written, ShowState.answer]) rfl rfl rfl rfl rfl

lemma since_recorded {notice : Live.Notice}
    (hout : (call.outcome n.state.toContent).2 = .ok ()) (htouched : call.touched n.state.toContent ≠ [])
    (hnotice : call.notice (call.outcome n.state.toContent).1 (call.written n.state.toLive).toContent =
      .ok notice) :
    ∃ event, Since n (n.become (call.perform clocks none none n.state).1) [event] := by
  have hcheck : n.state.checkRevision none none call.key = .ok () := rfl
  rw [perform_of_noticed hcheck hout htouched hnotice]
  let s := (((call.written n.state.toLive).touch (call.touched n.state.toContent)).record clocks notice)
  let event := ((call.written n.state.toLive).touch (call.touched n.state.toContent)).event clocks notice
  have hnext : s.nextEventId = n.state.nextEventId + 1 := rfl
  have hevents : s.events = (event :: n.state.events).take 100 := rfl
  refine ⟨event, ?_, rfl, rfl, hnext, rfl, ?_, ?_, List.pairwise_singleton _ _, fun _ => hevents⟩
  · change n.recorded ++ (if s.nextEventId = n.state.nextEventId then [] else s.events.head?.toList) = _
    rw [if_neg (by omega), hevents]
    rfl
  · intro e he
    rw [List.mem_singleton.mp he]
    exact le_refl n.state.nextEventId
  · intro e he
    rw [List.mem_singleton.mp he]
    exact Int.lt_succ n.state.nextEventId

lemma Since.withEngine (h : Since m n new) (engine : MidiMappingEngine) :
    Since m { n with engine := engine } new :=
  ⟨h.recorded, h.ledger, h.mark, h.next, h.revision, h.above, h.below, h.increasing, h.window⟩

/-! ## Events -/

/-- An event for an existing player whose bytes are in range. -/
def Eligible (n : MidiNode) (e : MidiInput) : Prop :=
  e.player ≠ "" ∧ n.state.players.find? e.player ≠ none ∧ e.InRange

instance (n : MidiNode) : DecidablePred n.Eligible := fun _ => inferInstanceAs (Decidable (_ ∧ _))

variable (P clocks) in
/-- An event that `ingest_midi` takes: the part of the player accepts it, and can still be shown. -/
structure Taken (n : MidiNode) (e : MidiInput) : Prop where
  eligible : n.Eligible e
  accepted : (n.state.notationRegistry.part e.player).accepts (e.message P.toConversions) = true
  shown : ((ingestMidi P clocks e.player e.data).after n.state.toContent).notationRegistry.Readable

variable {e : MidiInput}

lemma message_of_inRange (hrange : e.InRange) (clock : ℚ) :
    midiMessage P.toConversions e.data clock = .ok (e.message P.toConversions) :=
  (midiMessage_input _ e clock).trans (if_pos hrange)

lemma pumpEvent_of_named (hnamed : e.player ≠ "") : n.pumpEvent P power clocks e =
      match ((ingestMidi P clocks e.player e.data).perform clocks none none n.state).2 with
      | .error failure =>
        (n.become ((ingestMidi P clocks e.player e.data).perform clocks none none n.state).1, .error failure)
      | .ok _ =>
        ({ n.become ((ingestMidi P clocks e.player e.data).perform clocks none none n.state).1 with
          engine := n.engine.observe power
            ((ingestMidi P clocks e.player e.data).perform clocks none none n.state).1.mappingTransport
            e.mapped }, .ok ()) := by
  unfold pumpEvent
  rw [if_neg hnamed]
  have hcall : n.call P clocks (.ingestMidi e.player e.data) none none =
      (n.become ((ingestMidi P clocks e.player e.data).perform clocks none none n.state).1,
        ((ingestMidi P clocks e.player e.data).perform clocks none none n.state).2) := rfl
  rw [hcall]
  cases ((ingestMidi P clocks e.player e.data).perform clocks none none n.state).2 with
  | error failure => rfl
  | ok doc => rfl

/-- **An event that is taken** is ingested and recorded. -/
lemma pumpEvent_of_taken (h : Taken P clocks n e) :
    ∃ t event, n.pumpEvent P power clocks e = (t, .ok ()) ∧ Since n t [event] ∧
      t.state.midi.received = n.state.midi.received + 1 ∧ t.state.players = n.state.players ∧
      t.state.notationRegistry.Readable := by
  obtain ⟨⟨hnamed, hplayer, hrange⟩, haccepted, hshown⟩ := h
  obtain ⟨registry, hout⟩ := @outcome_ingestMidi P n.state.toContent clocks _ _ _ hplayer
    (message_of_inRange hrange _) haccepted
  have hok : ((ingestMidi P clocks e.player e.data).outcome n.state.toContent).2 = .ok () := congrArg Prod.snd hout
  have htouched : (ingestMidi P clocks e.player e.data).touched n.state.toContent ≠ [] := List.cons_ne_nil _ _
  obtain ⟨event, hsince⟩ := @since_recorded clocks n (ingestMidi P clocks e.player e.data) _ hok htouched rfl
  have hperform := @perform_of_noticed (ingestMidi P clocks e.player e.data) clocks none none n.state _ rfl hok
    htouched rfl
  have hstate : ((ingestMidi P clocks e.player e.data).perform clocks none none n.state).1.toContent =
      (ingestMidi P clocks e.player e.data).after n.state.toContent := by
    rw [hperform]
    rfl
  obtain ⟨doc, hdoc⟩ : ∃ doc, ((ingestMidi P clocks e.player e.data).perform clocks none none n.state).2 =
      .ok doc := by
    rw [hperform, ShowState.answer_ok_iff]
    exact hshown
  obtain ⟨engine, hpump⟩ : ∃ engine, n.pumpEvent P power clocks e =
      ({ n.become ((ingestMidi P clocks e.player e.data).perform clocks none none n.state).1 with
        engine := engine }, .ok ()) :=
    ⟨_, by rw [pumpEvent_of_named hnamed, hdoc]⟩
  refine ⟨_, event, hpump, hsince.withEngine engine, ?_, ?_, ?_⟩
  · change ((ingestMidi P clocks e.player e.data).perform clocks none none n.state).1.toContent.midi.received = _
    rw [hstate, after, hout]
    rfl
  · change ((ingestMidi P clocks e.player e.data).perform clocks none none n.state).1.toContent.players = _
    rw [hstate]
    rfl
  · change ((ingestMidi P clocks e.player e.data).perform clocks none none
      n.state).1.toContent.notationRegistry.Readable
    rw [hstate]
    exact hshown

lemma outcome_ineligible {c : Content} (h : ¬(c.players.find? e.player ≠ none ∧ e.InRange)) :
    ∃ failure, (ingestMidi P clocks e.player e.data).outcome c =
      ({ value := (c.midi, c.notationRegistry), changes := [] }, .error failure) := by
  by_cases hplayer : c.players.find? e.player = none
  · exact ⟨.keyError e.player, by
      simp only [outcome, ingestMidi, midiFocus, Script.run, playerItem, hplayer, if_true]⟩
  · have hrange : ¬e.InRange := fun hrange => h ⟨hplayer, hrange⟩
    have hmessage := (midiMessage_input P.toConversions e (c.transport.clockSeconds clocks.now)).trans
      (if_neg hrange)
    exact ⟨_, by
      simp only [outcome, ingestMidi, midiFocus, Script.run, playerItem, if_neg hplayer, hmessage]
      rfl⟩

/-- **An event that is not taken** raises. It has changed nothing if it was for no player or out of range; else it
has not been ingested, or what it has changed is recorded. -/
lemma pumpEvent_of_not_taken (hnamed : e.player ≠ "") (h : ¬Taken P clocks n e) :
    ∃ t failure new, n.pumpEvent P power clocks e = (t, .error failure) ∧ Since n t new ∧
      (¬n.Eligible e → t.state = n.state) ∧
      (n.Eligible e → t.state.midi.received = n.state.midi.received ∨ new ≠ []) := by
  let ingest := ingestMidi P clocks e.player e.data
  by_cases heligible : n.Eligible e
  · obtain ⟨-, hplayer, hrange⟩ := id heligible
    by_cases haccepted : (n.state.notationRegistry.part e.player).accepts (e.message P.toConversions) = true
    · obtain ⟨registry, hout⟩ := @outcome_ingestMidi P n.state.toContent clocks _ _ _ hplayer
        (message_of_inRange hrange _) haccepted
      have hok : (ingest.outcome n.state.toContent).2 = .ok () := congrArg Prod.snd hout
      have htouched : ingest.touched n.state.toContent ≠ [] := List.cons_ne_nil _ _
      obtain ⟨event, hsince⟩ := @since_recorded clocks n ingest _ hok htouched rfl
      have hperform := @perform_of_noticed ingest clocks none none n.state _ rfl hok htouched rfl
      obtain ⟨failure, hfailure⟩ : ∃ failure, (ingest.perform clocks none none n.state).2 = .error failure := by
        rw [hperform, ShowState.answer_error_iff]
        exact fun hshown => h ⟨heligible, haccepted, hshown⟩
      refine ⟨_, failure, [event], ?_, hsince, fun hnot => absurd heligible hnot,
        fun _ => Or.inr (List.cons_ne_nil _ _)⟩
      rw [pumpEvent_of_named hnamed, hfailure]
    · obtain ⟨registry, failure, hout⟩ := @outcome_of_refused P n.state.toContent clocks _ _ _ hplayer
        (message_of_inRange hrange _) (Bool.eq_false_of_not_eq_true haccepted)
      have herror : (ingest.outcome n.state.toContent).2 = .error failure := congrArg Prod.snd hout
      have hperform := @perform_of_rejected ingest clocks none none n.state _ rfl herror
      refine ⟨_, .raised failure, [], ?_, @since_quiet clocks _ ingest fun u hu => ?_,
        fun hnot => absurd heligible hnot, fun _ => Or.inl ?_⟩
      · rw [pumpEvent_of_named hnamed, hperform]
      · rw [herror] at hu
        cases hu
      · rw [hperform]
        change (ingest.after n.state.toContent).midi.received = _
        rw [after, hout]
        rfl
  · obtain ⟨failure, hout⟩ := @outcome_ineligible P clocks e n.state.toContent
      fun hboth => heligible ⟨hnamed, hboth⟩
    have herror : (ingest.outcome n.state.toContent).2 = .error failure := congrArg Prod.snd hout
    have hperform := @perform_of_rejected ingest clocks none none n.state _ rfl herror
    refine ⟨_, .raised failure, [], ?_, @since_quiet clocks _ ingest fun u hu => ?_,
      fun _ => ?_, fun helig => absurd helig heligible⟩
    · rw [pumpEvent_of_named hnamed, hperform]
    · rw [herror] at hu
      cases hu
    · have hafter : ingest.after n.state.toContent = n.state.toContent := by
        rw [after, hout]
        rfl
      rw [hperform]
      change ({ n.state with toLive := { n.state.toLive with toContent := ingest.after n.state.toContent } } :
        ShowState) = n.state
      rw [hafter]

/-! ## The events of a round -/

variable (P power) in
def ingested : List (Clocks × MidiInput) → MidiNode → List MidiInput
  | [], _ => []
  | (clocks, e) :: batch, n =>
    let done := n.pumpEvent P power clocks e
    (if done.1.state.midi.received = n.state.midi.received then [] else [e]) ++ match done.2 with
      | .error _ => []
      | .ok _ => ingested batch done.1

variable (P power) in
def AllTaken : List (Clocks × MidiInput) → MidiNode → Prop
  | [], _ => True
  | (clocks, e) :: batch, n =>
    (e.player = "" ∨ Taken P clocks n e) ∧ AllTaken batch (n.pumpEvent P power clocks e).1

def eligible (n : MidiNode) (batch : List (Clocks × MidiInput)) : List MidiInput :=
  (batch.map Prod.snd).filter fun e => n.Eligible e

/-- How many events of the round name a player. -/
def named (batch : List (Clocks × MidiInput)) : ℕ := batch.countP fun e => e.2.player ≠ ""

lemma pumpEvent_of_unnamed (hnone : e.player = "") : n.pumpEvent P power clocks e = (n, .ok ()) := if_pos hnone

variable {batch : List (Clocks × MidiInput)}

lemma eligible_congr (h : t.state.players = n.state.players) :
    t.eligible batch = n.eligible batch := by
  refine List.filter_congr fun e _ => decide_eq_decide.mpr ?_
  unfold Eligible
  rw [h]

lemma eligible_cons :
    n.eligible ((clocks, e) :: batch) = if n.Eligible e then e :: n.eligible batch else n.eligible batch := by
  unfold eligible
  rw [List.map_cons, List.filter_cons]
  simp

lemma named_cons :
    named ((clocks, e) :: batch) = (if e.player = "" then 0 else 1) + named batch := by
  unfold named
  rw [List.countP_cons, Nat.add_comm]
  by_cases hnone : e.player = "" <;> simp [hnone]

/-- **A round without bad events** ingests what it should. -/
lemma pumpEvents_of_taken : ∀ (batch : List (Clocks × MidiInput)) {n : MidiNode}, AllTaken P power batch n →
    n.state.events.length ≤ 100 →
    ∃ t new, n.pumpEvents P power batch = (t, .ok ()) ∧ Since n t new ∧ new.length = named batch ∧
      ingested P power batch n = n.eligible batch ∧
      (named batch = 0 → t.state = n.state) ∧ (named batch ≠ 0 → t.state.notationRegistry.Readable)
  | [], n, _, hlength => ⟨n, [], rfl, .refl, rfl, rfl, fun _ => rfl, fun hne => absurd rfl hne⟩
  | (clocks, e) :: batch, n, h, hlength => by
    obtain ⟨hfirst, hrest⟩ := h
    by_cases hnone : e.player = ""
    · have hpump := @pumpEvent_of_unnamed P power clocks n _ hnone
      rw [hpump] at hrest
      obtain ⟨t, new, ht, hsince, hcount, hingested, hstate⟩ := pumpEvents_of_taken batch hrest hlength
      have hnot : ¬n.Eligible e := fun helig => helig.1 hnone
      refine ⟨t, new, ?_, hsince, ?_, ?_, ?_⟩
      · unfold pumpEvents
        rw [hpump]
        exact ht
      · rw [named_cons, if_pos hnone, hcount, Nat.zero_add]
      · rw [eligible_cons, if_neg hnot, ← hingested, ingested, hpump]
        simp
      · rwa [named_cons, if_pos hnone, Nat.zero_add]
    · have htaken := hfirst.resolve_left hnone
      obtain ⟨u, event, hpump, hu, hreceived, hplayers, hreadable⟩ :=
        @pumpEvent_of_taken _ power _ _ _ htaken
      rw [hpump] at hrest
      obtain ⟨t, new, ht, hsince, hcount, hingested, hstate, hshown⟩ :=
        pumpEvents_of_taken batch hrest (hu.length hlength)
      refine ⟨t, event :: new, ?_, hu.trans hsince, ?_, ?_, fun hzero => ?_, fun _ => ?_⟩
      · unfold pumpEvents
        rw [hpump]
        exact ht
      · rw [named_cons, if_neg hnone, List.length_cons, hcount, Nat.add_comm]
      · rw [eligible_cons, if_pos htaken.eligible, ← eligible_congr hplayers, ← hingested, ingested, hpump]
        dsimp only
        rw [if_neg (by omega)]
        rfl
      · rw [named_cons, if_neg hnone] at hzero
        omega
      · by_cases hzero : named batch = 0
        · rw [hstate hzero]
          exact hreadable
        · exact hshown hzero

/-- **A round with a bad event** loses what it should ingest, or what it has recorded, if there is anything. -/
lemma pumpEvents_of_not_taken : ∀ (batch : List (Clocks × MidiInput)) {n : MidiNode},
    ¬AllTaken P power batch n → n.state.events.length ≤ 100 →
    ∃ t failure new, n.pumpEvents P power batch = (t, .error failure) ∧ Since n t new ∧
      (n.eligible batch = [] → t.state = n.state ∧ ingested P power batch n = []) ∧
      (n.eligible batch ≠ [] → ingested P power batch n ≠ n.eligible batch ∨ new ≠ [])
  | [], n, h, _ => absurd trivial h
  | (clocks, e) :: batch, n, h, hlength => by
    by_cases hnone : e.player = ""
    · have hpump := @pumpEvent_of_unnamed P power clocks n _ hnone
      have hrest : ¬AllTaken P power batch n := fun hall => h ⟨Or.inl hnone, by rwa [hpump]⟩
      obtain ⟨t, failure, new, ht, hsince, hempty, hsome⟩ := pumpEvents_of_not_taken batch hrest hlength
      have hnot : ¬n.Eligible e := fun helig => helig.1 hnone
      have hingested : ingested P power ((clocks, e) :: batch) n = ingested P power batch n := by
        rw [ingested, hpump]
        simp
      refine ⟨t, failure, new, ?_, hsince, ?_, ?_⟩
      · unfold pumpEvents
        rw [hpump]
        exact ht
      · rwa [eligible_cons, if_neg hnot, hingested]
      · rwa [eligible_cons, if_neg hnot, hingested]
    · by_cases htaken : Taken P clocks n e
      · obtain ⟨u, event, hpump, hu, hreceived, hplayers, -⟩ := @pumpEvent_of_taken _ power _ _ _ htaken
        have hrest : ¬AllTaken P power batch u := fun hall => h ⟨Or.inr htaken, by rwa [hpump]⟩
        obtain ⟨t, failure, new, ht, hsince, -, -⟩ := pumpEvents_of_not_taken batch hrest (hu.length hlength)
        refine ⟨t, failure, event :: new, ?_, hu.trans hsince, fun hnil => ?_,
          fun _ => Or.inr (List.cons_ne_nil _ _)⟩
        · unfold pumpEvents
          rw [hpump]
          exact ht
        · rw [eligible_cons, if_pos htaken.eligible] at hnil
          cases hnil
      · obtain ⟨t, failure, new, hpump, hsince, hsame, hlost⟩ :=
          @pumpEvent_of_not_taken _ power _ _ _ hnone htaken
        have hingested : ingested P power ((clocks, e) :: batch) n =
            if t.state.midi.received = n.state.midi.received then [] else [e] := by
          rw [ingested, hpump]
          exact List.append_nil _
        refine ⟨t, failure, new, ?_, hsince, fun hnil => ?_, fun hsome => ?_⟩
        · unfold pumpEvents
          rw [hpump]
        · have hnot : ¬n.Eligible e := by
            intro helig
            rw [eligible_cons, if_pos helig] at hnil
            cases hnil
          refine ⟨hsame hnot, ?_⟩
          rw [hingested, hsame hnot, if_pos rfl]
        · by_cases helig : n.Eligible e
          · rcases hlost helig with hreceived | hnew
            · refine Or.inl ?_
              rw [hingested, if_pos hreceived]
              exact hsome.symm
            · exact Or.inr hnew
          · refine Or.inl ?_
            rw [hingested, hsame helig, if_pos rfl]
            exact hsome.symm

/-! ## The actions of a round -/

/-- How many events the actions record, from whether the transport is running. -/
def recordedActions : Bool → List MappedAction → ℕ
  | _, [] => 0
  | running, a :: actions =>
    if a.targetId = "transport.play" ∧ 0 < a.value then
      (if running then 0 else 1) + recordedActions true actions
    else if a.targetId = "transport.stop" ∧ 0 < a.value then 1 + recordedActions false actions
    else if a.targetId = "master.tempo" then 1 + recordedActions running actions
    else recordedActions running actions

lemma recordedActions_cons {running : Bool} {a : MappedAction} {actions : List MappedAction} :
    recordedActions running (a :: actions) = if a.targetId = "transport.play" ∧ 0 < a.value then
        (if running then 0 else 1) + recordedActions true actions
      else if a.targetId = "transport.stop" ∧ 0 < a.value then 1 + recordedActions false actions
      else if a.targetId = "master.tempo" then 1 + recordedActions running actions
      else recordedActions running actions := rfl

/-- What an action does: it records its event, or it changes nothing. -/
structure Executes (n u : MidiNode) (new : List Event) (running : Bool) : Prop where
  since : Since n u new
  same : new = [] → u.state = n.state
  running : u.state.transport.running = running
  shown : u.state.notationRegistry = n.state.notationRegistry

lemma executes_recorded {operation : Mutator} {running : Bool} {notice : Live.Notice}
    (hreadable : n.state.notationRegistry.Readable)
    (hout : ((operation.call P clocks).outcome n.state.toContent).2 = .ok ())
    (htouched : (operation.call P clocks).touched n.state.toContent ≠ [])
    (hnotice : (operation.call P clocks).notice ((operation.call P clocks).outcome n.state.toContent).1
      ((operation.call P clocks).written n.state.toLive).toContent = .ok notice)
    (hregistry : ((operation.call P clocks).after n.state.toContent).notationRegistry = n.state.notationRegistry)
    (hrunning : ((operation.call P clocks).after n.state.toContent).transport.running = running) :
    ∃ event, Executes n (n.call P clocks operation none none).1 [event] running ∧
      ∃ doc, (n.call P clocks operation none none).2 = .ok doc := by
  obtain ⟨event, hsince⟩ := @since_recorded clocks n _ _ hout htouched hnotice
  have hperform := @perform_of_noticed _ clocks none none n.state _ rfl hout htouched hnotice
  have hcontent : ((operation.call P clocks).perform clocks none none n.state).1.toContent =
      (operation.call P clocks).after n.state.toContent := by
    rw [hperform]
    rfl
  refine ⟨event, ⟨hsince, fun hnil => absurd hnil (List.cons_ne_nil _ _), ?_, ?_⟩, ?_⟩
  · change ((operation.call P clocks).perform clocks none none n.state).1.toContent.transport.running = running
    rw [hcontent, hrunning]
  · change ((operation.call P clocks).perform clocks none none n.state).1.toContent.notationRegistry = _
    rw [hcontent, hregistry]
  · change ∃ doc, ((operation.call P clocks).perform clocks none none n.state).2 = .ok doc
    rw [hperform, ShowState.answer_ok_iff]
    change ((operation.call P clocks).after n.state.toContent).notationRegistry.Readable
    rwa [hregistry]

lemma executes_play (hreadable : n.state.notationRegistry.Readable) :
    ∃ new, new.length = (if n.state.transport.running then 0 else 1) ∧
      Executes n (n.call P clocks (.transport "play") none none).1 new true ∧
      ∃ doc, (n.call P clocks (.transport "play") none none).2 = .ok doc := by
  have hname : strip (lower "play") = "play" := by decide +kernel
  have hout : (transportCall clocks "play").outcome n.state.toContent =
      ({ value := if n.state.transport.running then n.state.transport
          else { n.state.transport with running := true, startedAt := clocks.now }
         changes := if n.state.transport.running then [] else ["Play"] }, .ok ()) := by
    simp only [outcome, transportCall, hname, transportFocus, Script.run, transportAction, if_true]
    cases n.state.transport.running <;> rfl
  cases hrunning : n.state.transport.running with
  | false =>
    rw [hrunning] at hout
    obtain ⟨event, hexecutes⟩ := @executes_recorded P _ _ (.transport "play") true _ hreadable
      (congrArg Prod.snd hout) (by
        change (transportCall clocks "play").touched n.state.toContent ≠ []
        rw [touched, hout]
        exact List.cons_ne_nil _ _) rfl rfl (by
        change (after (transportCall clocks "play") n.state.toContent).transport.running = true
        rw [after, hout]
        rfl)
    exact ⟨[event], rfl, hexecutes⟩
  | true =>
    rw [hrunning] at hout
    have htouched : (transportCall clocks "play").touched n.state.toContent = [] := by
      rw [touched, hout]
      rfl
    have hperform := @perform_of_idle (transportCall clocks "play") clocks none none n.state rfl
      (congrArg Prod.snd hout) htouched
    have hafter : (transportCall clocks "play").after n.state.toContent = n.state.toContent := by
      rw [after, hout]
      rfl
    have hstate : ((transportCall clocks "play").perform clocks none none n.state).1 = n.state := by
      rw [hperform]
      change ({ n.state with toLive := { n.state.toLive with
        toContent := (transportCall clocks "play").after n.state.toContent } } : ShowState) = n.state
      rw [hafter]
    refine ⟨[], rfl, ⟨@since_quiet clocks _ _ fun _ _ => htouched, fun _ => hstate, ?_, ?_⟩, ?_⟩
    · exact (congrArg (fun s => s.transport.running) hstate).trans hrunning
    · exact congrArg (fun s => s.notationRegistry) hstate
    · change ∃ doc, ((transportCall clocks "play").perform clocks none none n.state).2 = .ok doc
      rw [hperform, ShowState.answer_ok_iff]
      change ((transportCall clocks "play").after n.state.toContent).notationRegistry.Readable
      rwa [hafter]

lemma executes_stop (hreadable : n.state.notationRegistry.Readable) :
    ∃ event, Executes n (n.call P clocks (.transport "stop") none none).1 [event] false ∧
      ∃ doc, (n.call P clocks (.transport "stop") none none).2 = .ok doc := by
  have hname : strip (lower "stop") = "stop" := by decide +kernel
  have hout : (transportCall clocks "stop").outcome n.state.toContent =
      ({ value := { running := false, elapsed := 0, startedAt := clocks.now }, changes := ["Stop"] }, .ok ()) := by
    simp only [outcome, transportCall, hname, transportFocus, Script.run, transportAction]
    rfl
  refine @executes_recorded P _ _ (.transport "stop") _ _ hreadable (congrArg Prod.snd hout) ?_ rfl rfl ?_
  · change (transportCall clocks "stop").touched n.state.toContent ≠ []
    rw [touched, hout]
    exact List.cons_ne_nil _ _
  · change (after (transportCall clocks "stop") n.state.toContent).transport.running = false
    rw [after, hout]
    rfl

lemma executes_tempo (hreadable : n.state.notationRegistry.Readable) (value : ℚ) :
    ∃ event, Executes n (n.call P clocks (.patchShow [("bpm", floatValue value)]) none none).1 [event]
        n.state.transport.running ∧
      ∃ doc, (n.call P clocks (.patchShow [("bpm", floatValue value)]) none none).2 = .ok doc := by
  obtain ⟨song, change, hout⟩ : ∃ song change,
      (StageForge.patchShow P [("bpm", floatValue value)]).outcome n.state.toContent =
        ({ value := song, changes := [change] }, .ok ()) := ⟨_, _, rfl⟩
  refine @executes_recorded P _ _ (.patchShow [("bpm", floatValue value)]) _ _ hreadable (congrArg Prod.snd hout) ?_
    rfl rfl rfl
  change (StageForge.patchShow P [("bpm", floatValue value)]).touched n.state.toContent ≠ []
  rw [touched, hout]
  exact List.cons_ne_nil _ _

/-- **The actions of a round** all get executed while the notation can be shown. -/
lemma executeActions_executes : ∀ (actions : List MappedAction) {n : MidiNode},
    n.state.notationRegistry.Readable →
    ∃ u new, n.executeActions P clocks actions = (u, .ok ()) ∧ Since n u new ∧
      new.length = recordedActions n.state.transport.running actions ∧ (new = [] → u.state = n.state)
  | [], n, _ => ⟨n, [], rfl, .refl, rfl, fun _ => rfl⟩
  | a :: actions, n, hreadable => by
    have hone : ∃ t new running, n.executeAction P clocks a = (t, .ok ()) ∧ Executes n t new running ∧
        recordedActions n.state.transport.running (a :: actions) =
          new.length + recordedActions running actions := by
      unfold executeAction
      rw [recordedActions_cons]
      by_cases hplay : a.targetId = "transport.play" ∧ 0 < a.value
      · rw [if_pos hplay, if_pos hplay]
        obtain ⟨new, hcount, hexecutes, doc, hdoc⟩ := @executes_play P clocks _ hreadable
        exact ⟨_, new, true, Prod.ext rfl (congrArg (Except.map fun _ => ()) hdoc), hexecutes, by rw [hcount]⟩
      · rw [if_neg hplay, if_neg hplay]
        by_cases hstop : a.targetId = "transport.stop" ∧ 0 < a.value
        · rw [if_pos hstop, if_pos hstop]
          obtain ⟨event, hexecutes, doc, hdoc⟩ := @executes_stop P clocks _ hreadable
          exact ⟨_, [event], false, Prod.ext rfl (congrArg (Except.map fun _ => ()) hdoc), hexecutes, rfl⟩
        · rw [if_neg hstop, if_neg hstop]
          by_cases htempo : a.targetId = "master.tempo"
          · rw [if_pos htempo, if_pos htempo]
            obtain ⟨event, hexecutes, doc, hdoc⟩ := @executes_tempo P clocks _ hreadable a.value
            exact ⟨_, [event], _, Prod.ext rfl (congrArg (Except.map fun _ => ()) hdoc), hexecutes, rfl⟩
          · rw [if_neg htempo, if_neg htempo]
            exact ⟨n, [], _, rfl, ⟨.refl, fun _ => rfl, rfl, rfl⟩, (Nat.zero_add _).symm⟩
    obtain ⟨t, new, running, hstep, hexecutes, hcount⟩ := hone
    obtain ⟨u, more, hu, hmore, hlater, hsame⟩ := executeActions_executes actions (n := t)
      (hexecutes.shown ▸ hreadable)
    refine ⟨u, new ++ more, ?_, hexecutes.since.trans hmore, ?_, fun hnil => ?_⟩
    · unfold executeActions
      rw [hstep]
      exact hu
    · rw [List.length_append, hlater, hexecutes.running, hcount]
    · obtain ⟨hnew, hrest⟩ := List.append_eq_nil_iff.mp hnil
      exact (hsame hrest).trans (hexecutes.same hnew)

/-! ## Runs -/

lemma Marked.become {expected expectedResource : Option Int} (h : n.Marked) :
    (n.become (call.perform clocks expected expectedResource n.state).1).Marked := by
  rcases @perform_records clocks call expected expectedResource n.state with
    ⟨hnext, hevents⟩ | ⟨event, hid, hnext, hevents⟩
  · exact {
      mark := h.mark.trans_eq hnext.symm
      ledger := fun e he => (h.ledger e he).trans_eq hnext.symm
      events := fun e he => by
        change e ∈ (call.perform clocks expected expectedResource n.state).1.events at he
        rw [hevents] at he
        exact (h.events e he).trans_eq hnext.symm
      length := by
        change (call.perform clocks expected expectedResource n.state).1.events.length ≤ 100
        rw [hevents]
        exact h.length }
  · have hlt : n.state.nextEventId < (call.perform clocks expected expectedResource n.state).1.nextEventId := by
      rw [hnext]
      exact Int.lt_succ _
    exact {
      mark := h.mark.trans hlt
      ledger := fun e he => (h.ledger e he).trans hlt
      events := fun e he => by
        change e ∈ (call.perform clocks expected expectedResource n.state).1.events at he
        rw [hevents] at he
        rcases List.mem_cons.mp (List.mem_of_mem_take he) with rfl | hold
        · exact hid.trans_lt hlt
        · exact (h.events e hold).trans hlt
      length := by
        change (call.perform clocks expected expectedResource n.state).1.events.length ≤ 100
        rw [hevents, List.length_take]
        exact min_le_left _ _ }

lemma Marked.withEngine (h : n.Marked) (engine : MidiMappingEngine) : Marked { n with engine := engine } :=
  ⟨h.mark, h.ledger, h.events, h.length⟩

lemma Marked.settle (h : n.Marked) (before : Int) : (n.settle before).Marked := by
  unfold MidiNode.settle
  split
  · have hsince : ∀ e ∈ n.state.eventsSince n.lastPersistedEventId, e.id < n.state.nextEventId := fun e he =>
      h.events e (List.mem_reverse.mp (List.mem_of_mem_filter he))
    exact {
      mark := foldl_max_lt _ _ _ h.mark fun i hi => by
        obtain ⟨e, he, rfl⟩ := List.mem_map.mp hi
        exact hsince e he
      ledger := fun e he => (List.mem_append.mp he).elim (h.ledger e) (hsince e)
      events := h.events
      length := h.length }
  · exact h

lemma Marked.pumpEvents : ∀ (batch : List (Clocks × MidiInput)) {n : MidiNode}, n.Marked →
    (n.pumpEvents P power batch).1.Marked
  | [], _, h => h
  | (clocks, e) :: batch, n, h => by
    have hone : (n.pumpEvent P power clocks e).1.Marked := by
      unfold pumpEvent
      split
      · exact h
      · have hcall : (n.call P clocks (.ingestMidi e.player e.data) none none).1.Marked := h.become
        split
        · next hgo =>
            rw [hgo] at hcall
            exact hcall
        · next hgo =>
            rw [hgo] at hcall
            exact hcall.withEngine _
    unfold MidiNode.pumpEvents
    cases hgo : n.pumpEvent P power clocks e with
    | mk t result =>
      rw [hgo] at hone
      cases result with
      | error failure => exact hone
      | ok _ => exact Marked.pumpEvents batch hone

lemma Marked.executeActions : ∀ (actions : List MappedAction) {n : MidiNode}, n.Marked →
    (n.executeActions P clocks actions).1.Marked
  | [], _, h => h
  | a :: actions, n, h => by
    have hone : (n.executeAction P clocks a).1.Marked := by
      unfold executeAction
      split
      · exact h.become
      · split
        · exact h.become
        · split
          · exact h.become
          · exact h
    unfold MidiNode.executeActions
    cases hgo : n.executeAction P clocks a with
    | mk t result =>
      rw [hgo] at hone
      cases result with
      | error failure => exact hone
      | ok _ => exact Marked.executeActions actions hone

lemma Marked.perform (h : n.Marked) (operation : MidiOperation) : (n.perform P power operation).1.Marked := by
  cases operation with
  | mutate clocks operation expected expectedResource =>
    have hcall : (n.call P clocks operation expected expectedResource).1.Marked := h.become
    unfold MidiNode.perform MidiNode.mutate
    dsimp only
    split
    · next hgo =>
        rw [hgo] at hcall
        exact hcall
    · next hgo =>
        rw [hgo] at hcall
        exact hcall.settle _
  | pump clocks batch =>
    unfold MidiNode.perform pumpMidiOnce
    dsimp only
    split
    · exact h
    · have hevents := @Marked.pumpEvents P power batch _ h
      cases hgo : n.pumpEvents P power batch with
      | mk t result =>
        rw [hgo] at hevents
        cases result with
        | error failure => exact hevents
        | ok _ =>
          have hdue : (t.executeDue P clocks).1.Marked := by
            unfold executeDue
            split
            · exact hevents
            · exact (hevents.withEngine _).executeActions _
          dsimp only
          cases hend : t.executeDue P clocks with
          | mk u outcome =>
            rw [hend] at hdue
            cases outcome with
            | error failure => exact hdue
            | ok _ => exact hdue.settle _

lemma marked_of_reaches {snapshot : Value} {s : ShowState} {engine : MidiMappingEngine}
    {operations : List MidiOperation} (hload : ShowState.load P clocks snapshot = .ok s)
    (h : Reaches (MidiNode.step P power) Always (start s engine) operations n) : n.Marked := by
  refine h.invariant (I := Marked) ?_ fun t operation u ht _ hstep => ?_
  · have hkeeps := keeps_start engine hload
    obtain ⟨old, hold, hlist⟩ := hkeeps.window
    have hshort : s.toLive.events.length ≤ 100 := by
      unfold ShowState.load at hload
      split at hload
      · cases hload
        exact Nat.succ_le_succ (Nat.zero_le 99)
      · obtain ⟨⟨doc, report⟩, -, hload⟩ := bind_eq_ok.mp hload
        obtain ⟨_, -, hload⟩ := bind_eq_ok.mp hload
        cases hload
        exact (List.length_take_le _ _)
    exact {
      mark := hkeeps.mark
      ledger := fun e he => absurd he List.not_mem_nil
      events := fun e he => by
        rw [hlist] at he
        exact (hold e he).trans_lt hkeeps.mark
      length := hshort }
  · obtain rfl : (t.perform P power operation).1 = u := Option.some.inj hstep
    exact ht.perform operation

/-! ## Rounds that keep what they should -/

variable (P power clocks) in
/-- The round ingests what it should, and what it has changed is persisted. -/
def RoundKeeps (n : MidiNode) (batch : List (Clocks × MidiInput)) : Prop :=
  ingested P power batch n = n.eligible batch ∧
    ((n.perform P power (.pump clocks batch)).1.state ≠ n.state →
      (n.perform P power (.pump clocks batch)).1.saved = some (n.perform P power (.pump clocks batch)).1.state ∧
        ∀ e ∈ (n.perform P power (.pump clocks batch)).1.recorded.drop n.recorded.length,
          e ∈ (n.perform P power (.pump clocks batch)).1.ledger)

variable (power clocks) in
/-- The actions that are due when the engine has observed the events of a round. -/
def dueActions (n : MidiNode) (batch : List (Clocks × MidiInput)) : List MappedAction :=
  ((observeBatch power n.state.mappingTransport n.engine batch).drainDue (n.state.shownSeconds clocks.now)).1

variable (P power clocks) in
/-- No event of the round raises, and it records at most as many events as the state keeps; or it has a bad event
but none that could be lost; or it has none for a player and the notation cannot be shown. -/
def RoundFine (n : MidiNode) (batch : List (Clocks × MidiInput)) : Prop :=
  batch = [] ∨ (¬AllTaken P power batch n ∧ n.eligible batch = []) ∨
    (AllTaken P power batch n ∧ ((¬n.state.notationRegistry.Readable ∧ named batch = 0) ∨
      named batch + recordedActions n.state.transport.running (dueActions power clocks n batch) ≤ 100))

lemma not_persisted (hm : n.Marked) (h : Since n t new) (hnew : new ≠ []) :
    t.state ≠ n.state ∧ ¬∀ e ∈ t.recorded.drop n.recorded.length, e ∈ t.ledger := by
  obtain ⟨first, rest, rfl⟩ := List.exists_cons_of_ne_nil hnew
  constructor
  · intro hsame
    have hnext := h.next
    rw [hsame, List.length_cons] at hnext
    push_cast at hnext
    omega
  · intro hall
    have hmem := hall first (by rw [h.recorded, List.drop_left]; exact List.mem_cons_self)
    rw [h.ledger] at hmem
    have hlt := hm.ledger first hmem
    have hle := h.above first List.mem_cons_self
    omega

end MidiNode

end

/-! ### An event for an unknown player -/

def strayKnob : MidiInput := { turnedKnob with playerId := "nobody" }

end StageForge
