import StageForge.Library.PythonList
import StageForge.Library.TransitionSystem
import StageForge.Show.Calls

/-!
# The length of a captured note

`note_on` and `note_off` turn the show time into beats with the tempo that is set at that moment, as if it had been
set from the beginning of the show.
-/

namespace StageForge

open Python TransitionSystem

/-- The clock of the show with its tempo, the beats since the start, and the weight of the tempo changes. -/
structure BeatClock where
  seconds : ℚ
  bpm : Set.Icc (30 : ℚ) 300
  beats : ℚ
  weight : ℚ

/-- A note that has been captured, when it was played, and what the clock showed then. -/
structure CapturedTake where
  note : CapturedNote
  opened : BeatClock
  closed : BeatClock

/-- A part, the clock, what it showed when each open note was opened, and the notes captured so far. -/
structure NotationTake where
  part : NotationPart
  clock : BeatClock
  opened : Int → BeatClock
  captured : List CapturedTake

inductive NotationEvent
  | noteOn (pitch velocity : Int)
  | noteOff (pitch : Int)
  | tempo (value : Value)

namespace BeatClock

def advance (c : BeatClock) (elapsed : ℚ≥0) : BeatClock :=
  { c with seconds := c.seconds + elapsed, beats := c.beats + elapsed * c.bpm / 60 }

def setTempo (c : BeatClock) (bpm : Set.Icc (30 : ℚ) 300) : BeatClock :=
  { c with bpm, weight := c.weight + c.seconds * (bpm - c.bpm) / 60 }

/-- The beat of the source is that of the clock, moved by the weight. -/
def Sound (c : BeatClock) : Prop := 0 ≤ c.seconds ∧ c.seconds * c.bpm / 60 = c.beats + c.weight

/-- From one to the other the tempo was between 30 and 300. -/
def After (c d : BeatClock) : Prop := 30 * (c.seconds - d.seconds) ≤ 60 * (c.beats - d.beats) ∧
    60 * (c.beats - d.beats) ≤ 300 * (c.seconds - d.seconds)

variable {c d : BeatClock}

lemma Sound.advance (h : c.Sound) (elapsed : ℚ≥0) : (c.advance elapsed).Sound := by
  have hbeat : (c.seconds + elapsed) * c.bpm / 60 = (c.beats + elapsed * c.bpm / 60) + c.weight := by
    linarith [h.2]
  exact ⟨add_nonneg h.1 (NNRat.coe_nonneg elapsed), hbeat⟩

lemma Sound.setTempo (h : c.Sound) (bpm : Set.Icc (30 : ℚ) 300) : (c.setTempo bpm).Sound := by
  have hbeat : c.seconds * bpm / 60 = c.beats + (c.weight + c.seconds * (bpm - c.bpm) / 60) := by
    linarith [h.2]
  exact ⟨h.1, hbeat⟩

lemma After.advance (h : c.After d) (elapsed : ℚ≥0) : (c.advance elapsed).After d := by
  have hleast := mul_le_mul_of_nonneg_left c.bpm.2.1 (NNRat.coe_nonneg elapsed)
  have hmost := mul_le_mul_of_nonneg_left c.bpm.2.2 (NNRat.coe_nonneg elapsed)
  unfold After BeatClock.advance at *
  constructor <;> linarith [h.1, h.2]

end BeatClock

/-- What the source captures of a note that ends. -/
def ActiveNote.captured (note : ActiveNote) (seconds : WithTop ℚ) (bpm : ℚ) : CapturedNote :=
  let ending := max note.startSeconds seconds
  { id := note.id, pitch := note.pitch, velocity := note.velocity, rawStartSeconds := note.startSeconds
    rawEndSeconds := ending, rawStartBeats := note.startBeat
    rawDurationBeats := beatsBetween note.startBeat (beatAt ending bpm) }

/-- The note that a note-off of the pitch ends. -/
def NotationPart.oldest (part : NotationPart) (pitch : Int) : Option ActiveNote :=
  (pitchOf pitch).bind fun p => part.active.find? fun note => note.pitch = p

namespace NotationTake

variable (C : Conversions)

def start (playerId : String) (seconds : ℚ≥0) (bpm : Set.Icc (30 : ℚ) 300) : NotationTake where
  part := .new playerId
  clock := ⟨seconds, bpm, 0, seconds * bpm / 60⟩
  opened := fun _ => ⟨seconds, bpm, 0, seconds * bpm / 60⟩
  captured := []

/-- An event. A call that raises changes nothing. -/
def perform (s : NotationTake) : NotationEvent → NotationTake
  | .noteOn pitch velocity =>
    match s.part.noteOn C pitch velocity (s.clock.seconds : ℚ) s.clock.bpm with
    | .error _ => s
    | .ok part => { s with part, opened := Function.update s.opened s.part.nextId s.clock }
  | .noteOff pitch =>
    match s.part.noteOff pitch (s.clock.seconds : ℚ) s.clock.bpm with
    | .error _ => s
    | .ok part => { s with
        part
        captured := s.captured ++ ((s.part.oldest pitch).map fun note =>
          ⟨note.captured (s.clock.seconds : ℚ) s.clock.bpm, s.opened note.id, s.clock⟩).toList }
  | .tempo value =>
    match C.floatIn 30 300 le_tempo value with
    | .error _ => s
    | .ok bpm => { s with clock := s.clock.setTempo bpm }

def step (s : NotationTake) (e : ℚ≥0 × NotationEvent) : Option NotationTake :=
  some (({ s with clock := s.clock.advance e.1 } : NotationTake).perform C e.2)

end NotationTake

/-! ## The length of one note -/

/-- The note is what was played between the two readings of the clock, and has its length exactly if the tempo
changes in between weigh nothing. -/
structure CapturedTake.Right (t : CapturedTake) : Prop where
  starts : t.note.rawStartSeconds = (t.opened.seconds : ℚ)
  ends : t.note.rawEndSeconds = (t.closed.seconds : ℚ)
  length : t.note.rawDurationBeats = (t.closed.beats - t.opened.beats : ℚ) ↔
    t.closed.weight = t.opened.weight ∨
      t.closed.seconds = t.opened.seconds ∧ t.closed.weight ≤ t.opened.weight
  positive : t.closed.weight = t.opened.weight → t.opened.seconds < t.closed.seconds →
    0 < t.note.rawDurationBeats

structure OpenNote (s : NotationTake) (note : ActiveNote) : Prop where
  seconds : note.startSeconds = ((s.opened note.id).seconds : ℚ)
  beat : note.startBeat = ((s.opened note.id).beats + (s.opened note.id).weight : ℚ)
  after : s.clock.After (s.opened note.id)
  id : note.id < s.part.nextId

lemma OpenNote.right {s : NotationTake} {note : ActiveNote} (h : OpenNote s note) (hclock : s.clock.Sound) :
    (⟨note.captured (s.clock.seconds : ℚ) s.clock.bpm, s.opened note.id, s.clock⟩ : CapturedTake).Right := by
  obtain ⟨hleast, hmost⟩ := h.after
  have hending : max note.startSeconds ((s.clock.seconds : ℚ) : WithTop ℚ) = (s.clock.seconds : ℚ) := by
    rw [h.seconds]
    exact max_eq_right (WithTop.coe_le_coe.mpr (by linarith))
  have hlength : (note.captured (s.clock.seconds : ℚ) s.clock.bpm).rawDurationBeats =
      (max 0 ((s.clock.beats - (s.opened note.id).beats) +
        (s.clock.weight - (s.opened note.id).weight)) : ℚ) := by
    unfold ActiveNote.captured
    rw [hending, h.beat]
    refine congrArg (fun q : ℚ => (max 0 q : ℚ) : ℚ → WithTop ℚ) ?_
    linarith [hclock.2]
  refine ⟨h.seconds, hending, ?_, fun hweight hheld => ?_⟩
  · rw [hlength, WithTop.coe_inj]
    constructor
    · intro hmax
      rcases max_choice (0 : ℚ) ((s.clock.beats - (s.opened note.id).beats) +
        (s.clock.weight - (s.opened note.id).weight)) with hzero | hsum
      · refine .inr ⟨by linarith, ?_⟩
        have hle := max_eq_left_iff.mp hzero
        linarith
      · exact .inl (by linarith)
    · rintro (hweight | ⟨hheld, hweight⟩)
      · rw [max_eq_right (by linarith)]
        linarith
      · rw [max_eq_left (by linarith)]
        linarith
  · rw [hlength]
    exact WithTop.coe_lt_coe.mpr (lt_max_of_lt_right (by linarith))

/-! ## Runs -/

namespace NotationTake

variable {C : Conversions} {s : NotationTake} {part after : NotationPart}

structure Kept (s : NotationTake) : Prop where
  sound : s.clock.Sound
  ids : ((s.part.notes.map (·.id)) ++ s.part.active.map (·.id)).Nodup
  increasing : s.part.active.Pairwise fun n m => n.id < m.id
  below : ∀ n ∈ s.part.notes, n.id < s.part.nextId
  opens : ∀ n ∈ s.part.active, OpenNote s n
  right : ∀ t ∈ s.captured, t.Right
  listed : ∀ n ∈ s.part.notes, ∃ t ∈ s.captured, t.note = n

lemma Kept.advance (h : s.Kept) (elapsed : ℚ≥0) :
    ({ s with clock := s.clock.advance elapsed } : NotationTake).Kept :=
  { h with
    sound := h.sound.advance elapsed
    opens := fun n hn =>
      ⟨(h.opens n hn).seconds, (h.opens n hn).beat, (h.opens n hn).after.advance elapsed, (h.opens n hn).id⟩ }

lemma Kept.setTempo (h : s.Kept) (bpm : Set.Icc (30 : ℚ) 300) :
    ({ s with clock := s.clock.setTempo bpm } : NotationTake).Kept :=
  { h with
    sound := h.sound.setTempo bpm
    opens := fun n hn => ⟨(h.opens n hn).seconds, (h.opens n hn).beat, (h.opens n hn).after, (h.opens n hn).id⟩ }

lemma noteOn_ok {pitch velocity : Int} {seconds bpm : ℚ} (hseconds : 0 ≤ seconds)
    (h : part.noteOn C pitch velocity (seconds : ℚ) bpm = .ok after) : ∃ p v,
      after = { part with nextId := part.nextId + 1, active := part.active ++
        [{ id := part.nextId, pitch := p, velocity := v, startSeconds := (seconds : ℚ)
           startBeat := (seconds * bpm / 60 : ℚ) }] } := by
  unfold NotationPart.noteOn at h
  split at h
  · cases h
  · obtain ⟨v, -, h⟩ := bind_eq_ok.mp h
    rw [max_eq_right (WithTop.coe_nonneg.mpr hseconds)] at h
    exact ⟨_, _, (Except.ok.inj h).symm⟩

lemma noteOff_ok {pitch : Int} {seconds : WithTop ℚ} {bpm : ℚ}
    (h : part.noteOff pitch seconds bpm = .ok after) : ∃ note before rest notes,
      part.oldest pitch = some note ∧ pitchOf pitch = some note.pitch ∧
      part.active = before ++ note :: rest ∧ (∀ other ∈ before, other.pitch ≠ note.pitch) ∧
      notes.Sublist ((part.notes ++ [note.captured seconds bpm]).insertionSort NotationPart.Before) ∧
      after = { part with active := before ++ rest, notes } := by
  unfold NotationPart.noteOff at h
  unfold NotationPart.oldest
  split at h
  · cases h
  · next p hp =>
    split at h
    · cases h
    · next note hfind =>
      obtain ⟨hpitch, before, rest, hactive, hbefore⟩ := List.find?_eq_some_iff_append.mp hfind
      have hpitch : note.pitch = p := of_decide_eq_true hpitch
      have hbefore : ∀ other ∈ before, other.pitch ≠ p := fun other hother => by simpa using hbefore other hother
      refine ⟨note, before, rest,
        lastOf 4096 ((part.notes ++ [note.captured seconds bpm]).insertionSort NotationPart.Before),
        by rw [hp]; exact hfind, by rw [hp, hpitch], hactive, hpitch ▸ hbefore, List.drop_sublist _ _, ?_⟩
      have herase : (part.active.eraseP fun n => n.pitch = p) = before ++ rest := by
        rw [hactive, List.eraseP_append_right _ (by simpa using hbefore),
          List.eraseP_cons_of_pos (by simpa using hpitch)]
      rw [← Except.ok.inj h, herase, ← hpitch]
      rfl

lemma Kept.noteOn (h : s.Kept) {pitch velocity : Int}
    (hpart : s.part.noteOn C pitch velocity (s.clock.seconds : ℚ) s.clock.bpm = .ok after) :
    ({ s with part := after, opened := Function.update s.opened s.part.nextId s.clock } :
      NotationTake).Kept := by
  obtain ⟨p, v, rfl⟩ := noteOn_ok h.sound.1 hpart
  refine ⟨h.sound, ?_, ?_, fun n hn => (h.below n hn).trans (Int.lt_succ_self _), fun n hn => ?_, h.right, h.listed⟩
  · rw [List.map_append, ← List.append_assoc]
    refine h.ids.append (List.nodup_singleton _) fun id hid hnew => ?_
    rw [List.map_singleton, List.mem_singleton] at hnew
    rcases List.mem_append.mp hid with hnote | hactive
    · obtain ⟨n, hn, rfl⟩ := List.mem_map.mp hnote
      exact (h.below n hn).ne hnew
    · obtain ⟨n, hn, rfl⟩ := List.mem_map.mp hactive
      exact (h.opens n hn).id.ne hnew
  · refine List.pairwise_append.mpr ⟨h.increasing, List.pairwise_singleton _ _, fun n hn m hm => ?_⟩
    rw [List.mem_singleton.mp hm]
    exact (h.opens n hn).id
  · rcases List.mem_append.mp hn with hold | hnew
    · have hid := (h.opens n hold).id
      have hopened : Function.update s.opened s.part.nextId s.clock n.id = s.opened n.id :=
        Function.update_of_ne hid.ne _ _
      refine ⟨?_, ?_, ?_, hid.trans (Int.lt_succ_self _)⟩ <;> dsimp only <;> rw [hopened]
      · exact (h.opens n hold).seconds
      · exact (h.opens n hold).beat
      · exact (h.opens n hold).after
    · rw [List.mem_singleton.mp hnew]
      refine ⟨?_, ?_, ?_, Int.lt_succ_self _⟩ <;> dsimp only <;> rw [Function.update_self]
      · exact congrArg _ h.sound.2
      · exact ⟨by simp, by simp⟩

lemma Kept.noteOff (h : s.Kept) {pitch : Int}
    (hpart : s.part.noteOff pitch (s.clock.seconds : ℚ) s.clock.bpm = .ok after) :
    ({ s with
      part := after
      captured := s.captured ++ ((s.part.oldest pitch).map fun note =>
        ⟨note.captured (s.clock.seconds : ℚ) s.clock.bpm, s.opened note.id, s.clock⟩).toList } :
      NotationTake).Kept := by
  obtain ⟨note, before, rest, notes, holdest, -, hactive, -, hnotes, rfl⟩ := noteOff_ok hpart
  obtain ⟨c, hc⟩ : ∃ c, note.captured (s.clock.seconds : ℚ) s.clock.bpm = c := ⟨_, rfl⟩
  have hid : c.id = note.id := hc ▸ rfl
  have hnote := h.opens note (hactive ▸ List.mem_append_right _ List.mem_cons_self)
  rw [hc] at hnotes
  rw [holdest, Option.map_some, Option.toList_some, hc]
  have hmem : ∀ n ∈ notes, n ∈ s.part.notes ∨ n = c := by
    intro n hn
    have hn := (List.perm_insertionSort _ _).mem_iff.mp (hnotes.subset hn)
    exact (List.mem_append.mp hn).imp_right List.mem_singleton.mp
  have hsub : (before ++ rest).Sublist s.part.active :=
    hactive ▸ (List.sublist_cons_self _ _).append_left _
  refine ⟨h.sound, ?_, ?_, ?_, fun n hn => ?_, ?_, ?_⟩
  · have hids := h.ids
    rw [hactive, List.map_append, List.map_cons, ← hid] at hids
    have hperm : (((s.part.notes ++ [c]).insertionSort NotationPart.Before).map (·.id) ++
        (before ++ rest).map (·.id)).Nodup := by
      refine (List.Perm.nodup_iff ?_).mpr hids
      refine (((List.perm_insertionSort _ _).map _).append_right _).trans ?_
      rw [List.map_append, List.append_assoc, List.map_append, List.map_singleton, List.singleton_append]
      exact List.Perm.append_left _ List.perm_middle.symm
    exact hperm.sublist ((hnotes.map _).append_right _)
  · exact h.increasing.sublist hsub
  · intro n hn
    rcases hmem n hn with hold | rfl
    · exact h.below n hold
    · exact hid ▸ hnote.id
  · have hopen := h.opens n (hsub.subset hn)
    exact ⟨hopen.seconds, hopen.beat, hopen.after, hopen.id⟩
  · intro t ht
    rcases List.mem_append.mp ht with hold | hnew
    · exact h.right t hold
    · rw [List.mem_singleton.mp hnew, ← hc]
      exact hnote.right h.sound
  · intro n hn
    rcases hmem n hn with hold | rfl
    · obtain ⟨t, ht, rfl⟩ := h.listed n hold
      exact ⟨t, List.mem_append_left _ ht, rfl⟩
    · exact ⟨_, List.mem_append_right _ (List.mem_singleton_self _), rfl⟩

lemma Kept.perform (h : s.Kept) (e : NotationEvent) : (s.perform C e).Kept := by
  cases e with
  | noteOn pitch velocity =>
    cases hpart : s.part.noteOn C pitch velocity (s.clock.seconds : ℚ) s.clock.bpm with
    | error _ => simpa only [NotationTake.perform, hpart] using h
    | ok part => simpa only [NotationTake.perform, hpart] using h.noteOn hpart
  | noteOff pitch =>
    cases hpart : s.part.noteOff pitch (s.clock.seconds : ℚ) s.clock.bpm with
    | error _ => simpa only [NotationTake.perform, hpart] using h
    | ok part => simpa only [NotationTake.perform, hpart] using h.noteOff hpart
  | tempo value =>
    cases hbpm : C.floatIn 30 300 le_tempo value with
    | error _ => simpa only [NotationTake.perform, hbpm] using h
    | ok bpm => simpa only [NotationTake.perform, hbpm] using h.setTempo bpm

lemma kept_start (playerId : String) (seconds : ℚ≥0) (bpm : Set.Icc (30 : ℚ) 300) :
    (start playerId seconds bpm).Kept where
  sound := ⟨NNRat.coe_nonneg seconds, (zero_add _).symm⟩
  ids := List.nodup_nil
  increasing := .nil
  below := fun _ hn => nomatch hn
  opens := fun _ hn => nomatch hn
  right := fun _ ht => nomatch ht
  listed := fun _ hn => nomatch hn

/-- **A captured note is what was played.** In every run, the ids of a part differ, a note-off closes the oldest
open note of its pitch, and a captured note has the beats that have gone by while it was held exactly if the tempo
changes in that time weigh nothing, or nothing is held and they weigh less; it then has a length if it was held. -/
theorem captured_length_iff {playerId : String} {seconds : ℚ≥0} {bpm : Set.Icc (30 : ℚ) 300}
    {events : List (ℚ≥0 × NotationEvent)} (h : Reaches (step C) Always (start playerId seconds bpm) events s) :
    ((s.part.notes.map (·.id)) ++ s.part.active.map (·.id)).Nodup ∧
      (∀ pitch after, s.part.noteOff pitch (s.clock.seconds : ℚ) s.clock.bpm = .ok after →
        ∃ note ∈ s.part.active, s.part.oldest pitch = some note ∧ pitchOf pitch = some note.pitch ∧
          after.active = s.part.active.erase note ∧
          ∀ other ∈ s.part.active, other.pitch = note.pitch → note.id ≤ other.id) ∧
      (∀ n ∈ s.part.notes, ∃ t ∈ s.captured, t.note = n) ∧ ∀ t ∈ s.captured, t.Right := by
  have hkept : s.Kept := h.invariant (kept_start _ _ _) fun t e u ht _ hstep => by
    rw [← Option.some.inj hstep]
    exact (ht.advance e.1).perform e.2
  refine ⟨hkept.ids, fun pitch after hafter => ?_, hkept.listed, hkept.right⟩
  obtain ⟨note, before, rest, notes, holdest, hpitch, hactive, hbefore, -, rfl⟩ := noteOff_ok hafter
  have hincreasing := hkept.increasing
  rw [hactive] at hincreasing ⊢
  refine ⟨note, List.mem_append_right _ List.mem_cons_self, holdest, hpitch, ?_, fun other hother hsame => ?_⟩
  · rw [List.erase_append_right _ fun hmem => hbefore note hmem rfl, List.erase_cons_head]
  · rcases List.mem_append.mp hother with hin | hin
    · exact absurd hsame (hbefore other hin)
    · rcases List.mem_cons.mp hin with rfl | hin
      · exact le_rfl
      · exact ((List.pairwise_cons.mp (List.pairwise_append.mp hincreasing).2.1).1 other hin).le

lemma tempo_mem : (120 : ℚ) ∈ Set.Icc (30 : ℚ) 300 := by norm_num

/-- At second 100 of the show, with tempo 120, a note is started, the tempo is set, and the note ends after one
second. -/
def heldNote (bpm : ℚ) : NotationTake × List (ℚ≥0 × NotationEvent) :=
  (start "lead" 100 ⟨120, tempo_mem⟩,
    [(0, .noteOn 60 100), (0, .tempo (.float (.finite bpm))), (1, .noteOff 60)])

theorem captured_length_iff_held : ∃ s, Reaches (step plainConversions) Always (heldNote 120).1 (heldNote 120).2 s ∧
    ∃ t ∈ s.captured, t.note.rawDurationBeats = (2 : ℚ) := by
  obtain ⟨s, hs, hstate⟩ := @reaches_always_of_any _ _ (step plainConversions) (heldNote 120).1 (heldNote 120).2
    (fun s => (s.captured.any fun t => decide (t.closed.weight = t.opened.weight ∧
      t.closed.beats - t.opened.beats = 2)) = true) _ (by decide +kernel)
  obtain ⟨t, ht, hclock⟩ := List.any_eq_true.mp hstate
  obtain ⟨hweight, hbeats⟩ := of_decide_eq_true hclock
  exact ⟨s, hs, t, ht, hbeats ▸ ((captured_length_iff hs).2.2.2 t ht).length.mpr (.inl hweight)⟩

/-- **A held note without length.** Set to 60 while the note is held, the tempo counts from the beginning of the
show: the note ends at beat 101 and has started at beat 200. -/
theorem held_note_without_length :
    ∃ s, Reaches (step plainConversions) Always (heldNote 60).1 (heldNote 60).2 s ∧
      (s.captured.any fun t => decide (t.note.rawDurationBeats = 0 ∧
        t.note.rawStartSeconds = (100 : ℚ) ∧ t.note.rawEndSeconds = (101 : ℚ) ∧
        t.closed.beats - t.opened.beats = 1)) = true :=
  reaches_always_of_any (by decide +kernel)

end NotationTake

end StageForge
