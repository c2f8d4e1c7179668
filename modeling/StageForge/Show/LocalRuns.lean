import Mathlib.Data.Int.Range
import StageForge.Midi.Pump

/-!
# Runs without replicas

What holds of a `ShowState` from one replica to the next: an observer of its events misses none, and what
its document says that this core does not know stays in every snapshot.
-/

namespace StageForge

open Python TransitionSystem

variable {P : Platform} {s t start : ShowState} {action : TimedShowAction}

/-- The call does not replace the state by a replica. -/
def ShowAction.isLocal : ShowAction → Bool
  | .applyReplica _ => false
  | _ => true

def Local (_ : ShowState) (action : TimedShowAction) : Prop := action.2.isLocal = true

instance (s : ShowState) (action : TimedShowAction) : Decidable (Local s action) :=
  inferInstanceAs (Decidable (_ = _))

/-- What a local call does to the events and to what is known of the document. -/
structure LocalEffect (s t : ShowState) : Prop where
  overlay : t.overlay = s.overlay
  events : (t.nextEventId = s.nextEventId ∧ t.events = s.events) ∨
    ∃ event : Event, event.id = s.nextEventId ∧ t.nextEventId = s.nextEventId + 1 ∧
      t.events = (event :: s.events).take 100

lemma localEffect_of_step (hlocal : Local s action) (hstep : step P s action = some t) :
    LocalEffect s t := by
  obtain ⟨clocks, action⟩ := action
  cases hstep
  cases action with
  | edit operation expected expectedResource =>
    refine ⟨?_, Call.perform_records⟩
    rw [ShowAction.perform]
    rcases @Call.perform_cases clocks (operation.call P clocks) expected expectedResource s with
      h | h | h | ⟨notice, h⟩ <;> rw [h]
  | applyReplica snapshot => cases hlocal
  | externalEvent category text payload => exact ⟨rfl, .inr ⟨_, rfl, rfl, rfl⟩⟩

/-! ## The events -/

/-- Since the id `n`, these events have been recorded, and the newest 100 of them are there. -/
structure RecordedSince (n : Int) (recorded : List Event) (s : ShowState) : Prop where
  le : n ≤ s.nextEventId
  ids : recorded.map Event.id = Int.range n s.nextEventId
  window : ∃ old, (∀ e ∈ old, e.id < n) ∧ s.events = recorded.reverse.take 100 ++ old

lemma range_succ {m n : Int} (h : m ≤ n) : Int.range m (n + 1) = Int.range m n ++ [n] := by
  have hlength : (n + 1 - m).toNat = (n - m).toNat + 1 := by omega
  have hlast : m + ((n - m).toNat : Int) = n := by omega
  rw [Int.range, Int.range, hlength, List.range_succ, List.map_append, List.map_singleton, hlast]

lemma drop_range {m n : Int} (k : ℕ) : (Int.range m n).drop k = Int.range (m + k) n := by
  refine List.ext_getElem (by simp [Int.range]; omega) fun i _ _ => ?_
  simp [Int.range]
  omega

lemma RecordedSince.step {n : Int} {recorded : List Event} (h : RecordedSince n recorded s)
    (heffect : LocalEffect s t) : ∃ recorded', RecordedSince n recorded' t := by
  obtain ⟨old, hold, hevents⟩ := h.window
  rcases heffect.events with ⟨hnext, hsame⟩ | ⟨event, hid, hnext, hnew⟩
  · exact ⟨recorded, hnext ▸ h.le, hnext ▸ h.ids, old, hold, hsame.trans hevents⟩
  · refine ⟨recorded ++ [event], by have := h.le; omega, ?_,
      old.take (100 - (event :: recorded.reverse.take 100).length), fun e he =>
        hold e (List.mem_of_mem_take he), ?_⟩
    · rw [List.map_append, h.ids, List.map_singleton, hid, hnext, range_succ h.le]
    · rw [hnew, hevents, List.reverse_append, ← List.cons_append, List.take_append]
      congr 1
      change (event :: recorded.reverse.take 100).take 100 = (event :: recorded.reverse).take 100
      rw [List.take_succ_cons, List.take_succ_cons, List.take_take]
      rfl

/-- **A reader misses nothing** that is still there: of the events recorded since, the newest 100. -/
lemma RecordedSince.eventsSince {n : Int} {recorded : List Event} (h : RecordedSince n recorded s) :
    (s.eventsSince (n - 1)).map Event.id = Int.range (max n (s.nextEventId - 100)) s.nextEventId := by
  obtain ⟨old, hold, hevents⟩ := h.window
  have hlength : recorded.length = (s.nextEventId - n).toNat := by
    have := congrArg List.length h.ids
    simpa [Int.range] using this
  have hle := h.le
  have hsince : s.eventsSince (n - 1) = recorded.drop (recorded.length - 100) := by
    unfold Live.eventsSince
    rw [hevents, List.reverse_append, List.filter_append, List.filter_eq_nil_iff.mpr, List.nil_append,
      List.reverse_take, List.reverse_reverse, List.length_reverse, List.filter_eq_self.mpr]
    · intro e he
      have hid : e.id ∈ Int.range n s.nextEventId :=
        h.ids ▸ List.mem_map_of_mem (List.mem_of_mem_drop he)
      have := (Int.mem_range_iff.mp hid).1
      exact decide_eq_true (by omega)
    · intro e he
      have := hold e (List.mem_reverse.mp he)
      simp only [decide_eq_true_eq]
      omega
  rw [hsince, List.map_drop, h.ids, drop_range, hlength]
  congr 1
  omega

lemma recordedSince_run {n : Int} {recorded : List Event} {actions : List TimedShowAction}
    (hs : RecordedSince n recorded s) (h : Reaches (step P) Local s actions t) :
    ∃ recorded', RecordedSince n recorded' t :=
  h.invariant (I := fun t => ∃ recorded, RecordedSince n recorded t) ⟨recorded, hs⟩
    fun _ _ _ ⟨_, hkept⟩ hlocal hstep => hkept.step (localEffect_of_step hlocal hstep)

/-- **Event streams have no gaps.** Whoever has seen the events up to some moment and asks for the later
ones gets each of them once, in the order of their ids, up to the newest 100. -/
theorem event_stream_continuous {clocks : Clocks} {snapshot : Value} {first later : List TimedShowAction}
    (hload : ShowState.load P clocks snapshot = .ok start)
    (hfirst : Reaches (step P) Local start first s) (hlater : Reaches (step P) Local s later t) :
    s.nextEventId ≤ t.nextEventId ∧ (t.eventsSince (s.nextEventId - 1)).map Event.id =
      Int.range (max s.nextEventId (t.nextEventId - 100)) t.nextEventId := by
  have hstart : RecordedSince start.nextEventId [] start := by
    have hkeeps := MidiNode.keeps_start {} hload
    obtain ⟨old, hold, hevents⟩ := hkeeps.window
    have hmark := hkeeps.mark
    exact ⟨le_rfl, by simp [Int.range], old, fun e he => (hold e he).trans_lt hmark, hevents⟩
  obtain ⟨recorded, hs⟩ := recordedSince_run hstart hfirst
  have hbelow : RecordedSince s.nextEventId [] s := by
    obtain ⟨old, hold, hevents⟩ := hs.window
    refine ⟨le_rfl, by simp [Int.range], s.events, fun e he => ?_, rfl⟩
    rw [hevents] at he
    rcases List.mem_append.mp he with hnew | hmem
    · have hid : e.id ∈ Int.range start.nextEventId s.nextEventId :=
        hs.ids ▸ List.mem_map_of_mem (List.mem_reverse.mp (List.mem_of_mem_take hnew))
      exact (Int.mem_range_iff.mp hid).2
    · exact (hold e hmem).trans_le hs.le
  obtain ⟨_, ht⟩ := recordedSince_run hbelow hlater
  exact ⟨ht.le, ht.eventsSince⟩

theorem event_stream_continuous_one :
    (((ShowState.initial exampleClocks).recordExternalEvent exampleClocks "light" "go" []).eventsSince 1).map
      Event.id = Int.range (max 2 (3 - 100)) 3 := by
  have hload : ShowState.load examplePlatform exampleClocks .none = .ok (.initial exampleClocks) := rfl
  have hlocal : Local (.initial exampleClocks) (exampleClocks, .externalEvent "light" "go" []) := rfl
  exact (event_stream_continuous hload .refl (.snoc .refl hlocal rfl)).2

/-! ## What the document says besides -/

/-- The value at the end of a path through objects. -/
def follow : List String → Value → Option Value
  | [], v => some v
  | key :: path, .dict fields => (fields.lookup key).bind (follow path)
  | _ :: _, _ => none

/-- Every object on the path is there, up to one that lacks the next key. -/
def unknown : List String → Value → Bool
  | key :: path, .dict fields => fields.all fun field => decide (field.1 ≠ key) || unknown path field.2
  | _, _ => false

variable {key : String} {path : List String}

lemma mem_of_lookup {fields : Entries} {v : Value} (h : fields.lookup key = some v) : (key, v) ∈ fields := by
  obtain ⟨before, after, rfl, -⟩ := List.lookup_eq_some_iff.mp h
  simp

lemma follow_unknown : ∀ {path : List String} {v : Value}, unknown path v = true → follow path v = none
  | key :: path, .dict fields, h => by
    rw [follow]
    cases hlookup : fields.lookup key with
    | none => rfl
    | some v =>
      have hfield := List.all_eq_true.mp h _ (mem_of_lookup hlookup)
      exact follow_unknown (by simpa using hfield)

/-- What the current fields do not know is as it was before the merge. -/
lemma follow_mergeEntries {current merged : Entries}
    (hmerge : ∀ {base v : Value}, unknown path v = true →
      follow path (mergePreservingUnknown base v) = follow path base)
    (h : unknown (key :: path) (.dict current) = true) :
    follow (key :: path) (.dict (mergeEntries merged current)) = follow (key :: path) (.dict merged) := by
  induction current generalizing merged with
  | nil => rfl
  | cons field current ih =>
    rw [unknown, List.all_cons, Bool.and_eq_true] at h
    rw [mergeEntries, ih h.2, follow, follow, lookup_setItem]
    split_ifs with hkey
    · have hfield : unknown path field.2 = true := by simpa [hkey] using h.1
      rw [hkey, Option.bind_some]
      cases merged.lookup field.1 with
      | none => exact follow_unknown hfield
      | some old => exact hmerge hfield
    · rfl

lemma follow_merge : ∀ {path : List String} {base current : Value}, unknown path current = true →
    follow path (mergePreservingUnknown base current) = follow path base
  | key :: path, base, .dict current, h => by
    cases base with
    | dict base =>
      rw [mergePreservingUnknown]
      exact follow_mergeEntries follow_merge h
    | _ => exact follow_unknown h

/-- The fields that a snapshot sets of its own. -/
def labels : List String := ["compatibility", "apiVersion"]

lemma follow_setItem {fields : Entries} {v : Value} (h : path.head? ≠ some key) (hpath : path ≠ []) :
    follow path (.dict (setItem key v fields)) = follow path (.dict fields) := by
  cases path with
  | nil => exact absurd rfl hpath
  | cons first path =>
    rw [follow, follow, lookup_setItem, if_neg fun heq => h (congrArg some heq)]

/-- A document of this version or a newer one is only labelled. -/
lemma migrateShowState_declared {C : Conversions} {doc migrated : Entries} {report : CompatibilityReport}
    (h : migrateShowState C (.dict doc) = .ok (migrated, report)) (hversion : 0 < report.incomingApiVersion) :
    ∃ metadata, migrated = setItem "compatibility" metadata (setItem "apiVersion" (.int 1) doc) := by
  unfold migrateShowState at h
  obtain ⟨inspected, -, h⟩ := bind_eq_ok.mp h
  dsimp only at h
  split at h
  · obtain ⟨declared, -, h⟩ := bind_eq_ok.mp h
    rw [if_neg (by omega)] at h
    cases h
    exact ⟨_, rfl⟩
  · cases h
    rw [if_neg (not_le.mpr hversion)]
    exact ⟨_, rfl⟩

lemma follow_loaded {clocks : Clocks} {doc : Entries} (hload : ShowState.load P clocks (.dict doc) = .ok start)
    (hversion : 0 < start.report.incomingApiVersion) (hlabel : ∀ key ∈ labels, path.head? ≠ some key)
    (hpath : path ≠ []) : follow path (.dict start.overlay) = follow path (.dict doc) := by
  unfold ShowState.load at hload
  split at hload
  · cases hload
    cases doc with
    | nil => rfl
    | cons field doc => exact absurd rfl ‹_›
  · obtain ⟨⟨migrated, report⟩, hmigrate, hload⟩ := bind_eq_ok.mp hload
    obtain ⟨-, -, hload⟩ := bind_eq_ok.mp hload
    cases hload
    obtain ⟨metadata, rfl⟩ := migrateShowState_declared hmigrate hversion
    exact (follow_setItem (hlabel _ (by simp [labels])) hpath).trans
      (follow_setItem (hlabel _ (by simp [labels])) hpath)

/-- A document of another maker, who has a curve of its own in the transport. -/
def vendorDocument : Entries := [("apiVersion", .int 1), ("transport", .dict [("vendorCurve", .str "log")])]

end StageForge
