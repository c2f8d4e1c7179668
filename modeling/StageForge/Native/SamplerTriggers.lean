import StageForge.Native.SamplerRuns

/-!
# What becomes of a trigger

Each trigger that has been drained is started, rejected or pending.
-/

namespace StageForge

open TransitionSystem

variable {S : NativeFloats} {samples : List SamplerSampleDescriptor}

namespace SamplerRun

open SamplerEngine

variable {commandCapacity sampleCapacity voiceCapacity : ℕ}
  {r after : SamplerRun S commandCapacity}

/-- A voice that waits for a command is active, and the samples are known. -/
structure Waits (samples : List SamplerSampleDescriptor) (v : SamplerVoice S) : Prop where
  active : v.pending = true → v.active = true
  sample : v.active = true → (findSample samples v.sampleId).isSome = true
  pending : v.pending = true → (findSample samples v.pendingCommand.command.sampleId).isSome = true

/-- A trigger that has been drained is started, rejected or pending. -/
structure Accounted (voiceCapacity : ℕ) (r : SamplerRun S commandCapacity) : Prop where
  length : r.voices.length = voiceCapacity
  waits : ∀ v ∈ r.voices, Waits r.samples v
  accounted : ∀ serial ∈ r.triggers, serial ∈ r.counts.started ∨ serial ∈ r.counts.refused ∨
    ∃ v ∈ r.voices, v.pending = true ∧ v.pendingCommand.serial = serial

def atEnd (samples : List SamplerSampleDescriptor) (v : SamplerVoice S) : Bool :=
  (findSample samples v.sampleId).any fun sample =>
    sample.looped = false && sample.frames ≤ v.position

/-- No voice is to be stolen from the command it waits for, and none comes to its end with one. -/
def keepsPending (r : SamplerRun S commandCapacity) : SamplerAction S → Bool
  | .drain =>
    match r.commands.tryPop with
    | none => true
    | some (queued, _) =>
      !(queued.command.kind = .trigger && (findSample r.samples queued.command.sampleId).isSome &&
        r.voices.all (fun v => v.active) &&
        r.voices[oldest r.voices]?.any SamplerVoice.pending)
  | .frame => r.voices.all fun v => !(v.active && v.pending && atEnd r.samples v)
  | _ => true

def Grows (c c' : SamplerCounts) : Prop := c.started ⊆ c'.started ∧ c.refused ⊆ c'.refused

variable (c : SamplerCounts)

lemma Grows.refl : Grows c c := ⟨List.Subset.refl _, List.Subset.refl _⟩

lemma Grows.trans {c c' c'' : SamplerCounts} (h : Grows c c') (h' : Grows c' c'') : Grows c c'' :=
  ⟨List.Subset.trans h.1 h'.1, List.Subset.trans h.2 h'.2⟩

lemma start_counts (v : SamplerVoice S) (queued : QueuedCommand S) :
    Grows c (start samples c v queued).1 ∧
    (queued.serial ∈ (start samples c v queued).1.started ∨
      queued.serial ∈ (start samples c v queued).1.refused) := by
  rw [start]
  split
  · exact ⟨⟨List.Subset.refl _, List.subset_cons_self _ _⟩, .inr List.mem_cons_self⟩
  · exact ⟨⟨List.subset_cons_self _ _, List.Subset.refl _⟩, .inl List.mem_cons_self⟩

variable {queued : QueuedCommand S}

lemma waits_start
    (hsample : (findSample samples queued.command.sampleId).isSome = true) (c : SamplerCounts)
    (v : SamplerVoice S) : Waits samples (start samples c v queued).2 := by
  rw [start]
  cases hfind : findSample samples queued.command.sampleId with
  | none => rw [hfind] at hsample; exact Bool.noConfusion hsample
  | some sample =>
    exact ⟨fun h => Bool.noConfusion h, fun _ => by simp only [hfind, Option.isSome_some],
      fun h => Bool.noConfusion h⟩

lemma startFirst_some :
    ∀ {voices : List (SamplerVoice S)} {c c' : SamplerCounts} {after : List (SamplerVoice S)},
      startFirst samples c queued voices = some (c', after) →
        after.length = voices.length ∧ Grows c c' ∧
        (queued.serial ∈ c'.started ∨ queued.serial ∈ c'.refused) ∧
        ∀ v ∈ voices, v.active = true → v ∈ after
  | [], _, _, _, h => absurd h (Option.some_ne_none _).symm
  | v :: voices, c, c', after, h => by
    rw [startFirst] at h
    split at h
    · rename_i hfree
      simp only [Option.some.injEq, Prod.mk.injEq] at h
      obtain ⟨rfl, rfl⟩ := h
      obtain ⟨hgrows, hserial⟩ := @start_counts S samples c v queued
      refine ⟨rfl, hgrows, hserial, fun u hu hactive => ?_⟩
      rcases List.mem_cons.mp hu with rfl | hrest
      · exact absurd hactive (by rw [hfree]; exact Bool.false_ne_true)
      · exact List.mem_cons_of_mem _ hrest
    · obtain ⟨⟨c'', rest⟩, hrest, hafter⟩ := Option.map_eq_some_iff.mp h
      simp only [Prod.mk.injEq] at hafter
      obtain ⟨rfl, rfl⟩ := hafter
      obtain ⟨hlength, hgrows, hserial, hkept⟩ := startFirst_some hrest
      refine ⟨by rw [List.length_cons, List.length_cons, hlength], hgrows, hserial, ?_⟩
      intro u hu hactive
      rcases List.mem_cons.mp hu with rfl | hu
      · exact List.mem_cons_self
      · exact List.mem_cons_of_mem _ (hkept u hu hactive)

/-! ## Commands -/

variable {v : SamplerVoice S}

lemma Waits.beginRelease (h : Waits samples v) : Waits samples v.beginRelease := by
  obtain ⟨hactive, hpending, hcommand, _, hsample⟩ := v.beginRelease_kept
  refine ⟨?_, ?_, ?_⟩
  · rw [hactive, hpending]
    exact h.active
  · rw [hactive, hsample]
    exact h.sample
  · rw [hpending, hcommand]
    exact h.pending

lemma sequence_beginRelease (v : SamplerVoice S) : v.beginRelease.sequence = v.sequence := by
  rw [SamplerVoice.beginRelease]
  split <;> rfl

lemma foldl_lt {size : ℕ} (less : ℕ → ℕ → Bool) : ∀ (indices : List ℕ) (best : ℕ),
    best < size → (∀ index ∈ indices, index < size) →
      indices.foldl (fun best index => if less index best = true then index else best) best < size
  | [], _, hbest, _ => hbest
  | index :: indices, best, hbest, hindices => by
    rw [List.foldl_cons]
    refine foldl_lt less indices _ ?_ fun other hother =>
      hindices other (List.mem_cons_of_mem _ hother)
    split
    · exact hindices index List.mem_cons_self
    · exact hbest

variable {voices : List (SamplerVoice S)}

lemma oldest_lt (h : 0 < voices.length) : oldest voices < voices.length := by
  let sequence (index : ℕ) : UInt64 := (voices[index]?.map SamplerVoice.sequence).getD 0
  have hlt := foldl_lt (fun index best => decide (sequence index < sequence best))
    (List.range voices.length) 0 h fun _ hindex => List.mem_range.mp hindex
  simp only [decide_eq_true_eq] at hlt
  exact hlt

lemma getElem?_choke {β : Type} {f : SamplerVoice S → β} (hkept : ∀ v, f v.beginRelease = f v)
    (sample : SamplerSampleDescriptor) (voices : List (SamplerVoice S)) (index : ℕ) :
    (choke sample voices)[index]?.map f = voices[index]?.map f := by
  rw [choke, List.getElem?_map]
  cases voices[index]? with
  | none => rfl
  | some v =>
    simp only [Option.map_some, Option.some.injEq]
    rcases choked_cases sample v with hsame | hreleased
    · rw [hsame]
    · rw [hreleased, hkept]

lemma oldest_choke (sample : SamplerSampleDescriptor) (voices : List (SamplerVoice S)) :
    oldest (choke sample voices) = oldest voices := by
  have hsequence := getElem?_choke sequence_beginRelease sample voices
  have hlength : (choke sample voices).length = voices.length := List.length_map _
  simp only [oldest, hsequence, hlength]

/-- What every voice has been waiting for is still waited for. -/
structure Kept (samples : List SamplerSampleDescriptor) (voices after : List (SamplerVoice S)) :
    Prop where
  length : after.length = voices.length
  waits : ∀ w ∈ after, Waits samples w
  pending : ∀ v ∈ voices, v.pending = true →
    ∃ w ∈ after, w.pending = true ∧ w.pendingCommand = v.pendingCommand

lemma Kept.refl (hwaits : ∀ v ∈ voices, Waits samples v) : Kept samples voices voices :=
  ⟨rfl, hwaits, fun v hv hpending => ⟨v, hv, hpending, rfl⟩⟩

lemma Kept.trans {voices between after : List (SamplerVoice S)} (h : Kept samples voices between)
    (h' : Kept samples between after) : Kept samples voices after := by
  refine ⟨h'.length.trans h.length, h'.waits, fun v hv hpending => ?_⟩
  obtain ⟨u, hu, hupending, hucommand⟩ := h.pending v hv hpending
  obtain ⟨w, hw, hwpending, hwcommand⟩ := h'.pending u hu hupending
  exact ⟨w, hw, hwpending, hwcommand.trans hucommand⟩

lemma kept_map (hwaits : ∀ v ∈ voices, Waits samples v) {change : SamplerVoice S → SamplerVoice S}
    (hchange : ∀ v, change v = v ∨ change v = v.beginRelease) :
    Kept samples voices (voices.map change) := by
  refine ⟨List.length_map _, fun w hw => ?_, fun v hv hpending => ?_⟩
  · obtain ⟨v, hv, rfl⟩ := List.mem_map.mp hw
    rcases hchange v with hsame | hreleased
    · rw [hsame]
      exact hwaits v hv
    · rw [hreleased]
      exact (hwaits v hv).beginRelease
  · refine ⟨change v, List.mem_map_of_mem hv, ?_⟩
    rcases hchange v with hsame | hreleased
    · rw [hsame]
      exact ⟨hpending, rfl⟩
    · obtain ⟨_, hkept, hcommand, _⟩ := v.beginRelease_kept
      rw [hreleased]
      exact ⟨hkept.trans hpending, hcommand⟩

lemma kept_startFirst {voices after : List (SamplerVoice S)}
    {c c' : SamplerCounts} (hwaits : ∀ v ∈ voices, Waits samples v)
    (hsample : (findSample samples queued.command.sampleId).isSome = true)
    (hstart : startFirst samples c queued voices = some (c', after)) :
    Kept samples voices after := by
  obtain ⟨hlength, _, _, hkept⟩ := startFirst_some hstart
  refine ⟨hlength, fun w hw => ?_, fun v hv hpending => ?_⟩
  · rcases mem_startFirst hstart w hw with hold | ⟨v, _, _, rfl⟩
    · exact hwaits w hold
    · exact waits_start hsample _ v
  · exact ⟨v, hkept v hv ((hwaits v hv).active hpending), hpending, rfl⟩

lemma kept_steal (hwaits : ∀ v ∈ voices, Waits samples v)
    (hsample : (findSample samples queued.command.sampleId).isSome = true)
    (hactive : ∀ v ∈ voices, v.active = true) {index : ℕ}
    (hfree : voices[index]?.any SamplerVoice.pending = false) :
    Kept samples voices (voices.modify index fun v =>
      SamplerVoice.beginRelease { v with pending := true, pendingCommand := queued }) := by
  refine ⟨List.length_modify _ _ _, fun w hw => ?_, fun v hv hpending => ?_⟩
  · rcases mem_modify hw with hold | ⟨v, hv, _, rfl⟩
    · exact hwaits w hold
    · exact Waits.beginRelease ⟨fun _ => hactive v hv, (hwaits v hv).sample, fun _ => hsample⟩
  · obtain ⟨other, hother, rfl⟩ := List.mem_iff_getElem.mp hv
    refine ⟨voices[other], ?_, hpending, rfl⟩
    have hne : index ≠ other := by
      rintro rfl
      rw [List.getElem?_eq_getElem hother, Option.any_some, hpending] at hfree
      exact Bool.noConfusion hfree
    refine List.mem_iff_getElem.mpr ⟨other, by rwa [List.length_modify], ?_⟩
    rw [List.getElem_modify, if_neg hne]

lemma trigger_accounted
    (queued : QueuedCommand S) (hwaits : ∀ v ∈ voices, Waits samples v) (hsome : 0 < voices.length)
    (hkeeps : (findSample samples queued.command.sampleId).isSome = true →
      (∀ v ∈ voices, v.active = true) → voices[oldest voices]?.any SamplerVoice.pending = false) :
    Kept samples voices (trigger samples c voices queued).2 ∧
    Grows c (trigger samples c voices queued).1 ∧
    (queued.serial ∈ (trigger samples c voices queued).1.started ∨
      queued.serial ∈ (trigger samples c voices queued).1.refused ∨
      ∃ w ∈ (trigger samples c voices queued).2, w.pending = true ∧
        w.pendingCommand.serial = queued.serial) := by
  rw [trigger]
  cases hfind : findSample samples queued.command.sampleId with
  | none =>
    exact ⟨.refl hwaits, ⟨List.Subset.refl _, List.subset_cons_self _ _⟩,
      .inr (.inl List.mem_cons_self)⟩
  | some sample =>
    have hsample : (findSample samples queued.command.sampleId).isSome = true := by
      rw [hfind, Option.isSome_some]
    have hchoked : Kept samples voices (choke sample voices) :=
      kept_map hwaits (choked_cases sample)
    simp only
    cases hstart : startFirst samples
        { c with choked := c.choked + UInt64.ofNat (voices.countP (chokes sample)) } queued
        (choke sample voices) with
    | some result =>
      obtain ⟨c', after⟩ := result
      obtain ⟨_, hgrows, hserial, _⟩ := startFirst_some hstart
      exact ⟨hchoked.trans (kept_startFirst hchoked.waits hsample hstart), hgrows,
        hserial.imp_right .inl⟩
    | none =>
      have hactive := startFirst_none hstart
      have hlength := hchoked.length
      have hbefore : ∀ v ∈ voices, v.active = true := by
        intro v hv
        have hmem := hactive _ (List.mem_map_of_mem hv)
        rcases choked_cases sample v with hsame | hreleased
        · rwa [hsame] at hmem
        · rw [hreleased] at hmem
          exact v.beginRelease_kept.1.symm.trans hmem
      have holdest : oldest (choke sample voices) < (choke sample voices).length :=
        oldest_lt (by omega)
      have hfree : (choke sample voices)[oldest (choke sample voices)]?.any
          SamplerVoice.pending = false := by
        have hpending := getElem?_choke (fun v => v.beginRelease_kept.2.1) sample voices
          (oldest voices)
        have hany := congrArg (fun waiting => Option.any id waiting) hpending
        simp only [Option.any_map] at hany
        rw [oldest_choke, ← hkeeps hsample hbefore]
        exact hany
      refine ⟨hchoked.trans (kept_steal hchoked.waits hsample hactive hfree),
        ⟨List.Subset.refl _, List.Subset.refl _⟩, .inr (.inr ?_)⟩
      refine ⟨_, List.mem_iff_getElem.mpr ⟨oldest (choke sample voices), ?_, rfl⟩, ?_⟩
      · rwa [List.length_modify]
      · rw [List.getElem_modify, if_pos rfl, SamplerVoice.beginRelease_pending]
        exact ⟨rfl, rfl⟩

lemma stop_kept {c : SamplerCounts}
    (hwaits : ∀ v ∈ voices, Waits samples v) (hkind : queued.command.kind ≠ .trigger) :
    (handle samples c voices queued).1 = c ∧
      Kept samples voices (handle samples c voices queued).2 := by
  rw [handle]
  cases hcommand : queued.command.kind with
  | trigger => exact absurd hcommand hkind
  | stopAll => exact ⟨rfl, kept_map hwaits fun _ => .inr rfl⟩
  | stopSample =>
    refine ⟨rfl, kept_map hwaits fun v => ?_⟩
    split
    · exact .inr rfl
    · exact .inl rfl

/-! ## Frames -/

/-- The frames render on, and a voice that waits for a command goes on waiting or has started it. -/
structure Turned (samples : List SamplerSampleDescriptor) (c c' : SamplerCounts)
    (v w : SamplerVoice S) : Prop where
  grows : Grows c c'
  waits : Waits samples w
  pending : v.pending = true → (w.pending = true ∧ w.pendingCommand = v.pendingCommand) ∨
    v.pendingCommand.serial ∈ c'.started ∨ v.pendingCommand.serial ∈ c'.refused

lemma turned_advance (h : Waits samples v) (position : UInt32) :
    Turned samples c (advance samples c v position).1 v (advance samples c v position).2 := by
  simp only [advance]
  split
  · split
    · split
      · rename_i hpending
        obtain ⟨hgrows, hserial⟩ := @start_counts S samples c
          { v with position := position + 1, age := v.age + 1,
                   releaseRemaining := v.releaseRemaining - 1 } v.pendingCommand
        exact ⟨hgrows, waits_start (h.pending hpending) c _, fun _ => .inr hserial⟩
      · rename_i hnone
        exact ⟨.refl c, ⟨fun hw => Bool.noConfusion hw, fun hw => Bool.noConfusion hw,
          fun hw => Bool.noConfusion hw⟩, fun hw => absurd hw hnone⟩
    · exact ⟨.refl c, ⟨h.active, h.sample, h.pending⟩, fun hw => .inl ⟨hw, rfl⟩⟩
  · exact ⟨.refl c, ⟨h.active, h.sample, h.pending⟩, fun hw => .inl ⟨hw, rfl⟩⟩

lemma turned_renderVoice (h : Waits samples v)
    (hkeeps : v.active = true → v.pending = true → atEnd samples v = false) :
    Turned samples c (renderVoice samples c v).1 v (renderVoice samples c v).2 := by
  rw [renderVoice]
  by_cases hidle : v.active = false
  · rw [if_pos hidle]
    exact ⟨.refl c, h, fun hw => .inl ⟨hw, rfl⟩⟩
  · rw [if_neg hidle]
    have hactive := Bool.eq_true_of_not_eq_false hidle
    cases hfind : findSample samples v.sampleId with
    | none =>
      have hsample := h.sample hactive
      rw [hfind] at hsample
      exact Bool.noConfusion hsample
    | some sample =>
      simp only
      by_cases hend : (if sample.looped = true then sample.loopEnd else sample.frames) ≤ v.position
      · rw [if_pos hend]
        by_cases hlooped : sample.looped = true
        · rw [if_pos hlooped]
          exact turned_advance c h _
        · -- the sample has come to its end, and nothing waits for the voice
          rw [if_neg hlooped]
          rw [if_neg hlooped] at hend
          refine ⟨⟨List.Subset.refl _, List.Subset.refl _⟩, ⟨fun hw => Bool.noConfusion hw,
            fun hw => Bool.noConfusion hw, fun hw => Bool.noConfusion hw⟩, fun hw => ?_⟩
          have hnot := hkeeps hactive hw
          simp only [atEnd, hfind, Option.any_some, Bool.eq_false_of_not_eq_true hlooped, hend,
            decide_true, Bool.and_self] at hnot
          exact Bool.noConfusion hnot
      · rw [if_neg hend]
        exact turned_advance c h _

lemma renderFrame_accounted : ∀ {voices : List (SamplerVoice S)} {c : SamplerCounts},
    (∀ v ∈ voices, Waits samples v) →
    (∀ v ∈ voices, v.active = true → v.pending = true → atEnd samples v = false) →
    (renderFrame samples c voices).2.length = voices.length ∧
    Grows c (renderFrame samples c voices).1 ∧
    (∀ w ∈ (renderFrame samples c voices).2, Waits samples w) ∧
    ∀ v ∈ voices, v.pending = true → (∃ w ∈ (renderFrame samples c voices).2, w.pending = true ∧
        w.pendingCommand = v.pendingCommand) ∨
      v.pendingCommand.serial ∈ (renderFrame samples c voices).1.started ∨
      v.pendingCommand.serial ∈ (renderFrame samples c voices).1.refused
  | [], c, _, _ => ⟨rfl, .refl c, by simp [renderFrame], by simp⟩
  | v :: voices, c, hwaits, hkeeps => by
    have hturned := turned_renderVoice c (hwaits v List.mem_cons_self) (hkeeps v List.mem_cons_self)
    obtain ⟨hlength, hgrows, hrest, hpending⟩ :=
      renderFrame_accounted (c := (renderVoice samples c v).1)
        (fun u hu => hwaits u (List.mem_cons_of_mem _ hu))
        fun u hu => hkeeps u (List.mem_cons_of_mem _ hu)
    rw [renderFrame]
    refine ⟨by simp only [List.length_cons, hlength], hturned.grows.trans hgrows, ?_, ?_⟩
    · intro w hw
      rcases List.mem_cons.mp hw with rfl | hw
      · exact hturned.waits
      · exact hrest w hw
    · intro u hu hupending
      rcases List.mem_cons.mp hu with rfl | hu
      · rcases hturned.pending hupending with hkept | hstarted | hrefused
        · exact .inl ⟨_, List.mem_cons_self, hkept⟩
        · exact .inr (.inl (hgrows.1 hstarted))
        · exact .inr (.inr (hgrows.2 hrefused))
      · refine (hpending u hu hupending).imp_left ?_
        rintro ⟨w, hw, hwpending⟩
        exact ⟨w, List.mem_cons_of_mem _ hw, hwpending⟩

/-! ## Runs -/

lemma Accounted.of_kept (h : Accounted voiceCapacity r) {counts : SamplerCounts}
    (hgrows : Grows r.counts counts)
    (hpending : ∀ v ∈ r.voices, v.pending = true →
      (∃ w ∈ voices, w.pending = true ∧ w.pendingCommand = v.pendingCommand) ∨
      v.pendingCommand.serial ∈ counts.started ∨ v.pendingCommand.serial ∈ counts.refused) :
    ∀ serial ∈ r.triggers, serial ∈ counts.started ∨ serial ∈ counts.refused ∨
      ∃ w ∈ voices, w.pending = true ∧ w.pendingCommand.serial = serial := by
  intro serial hserial
  rcases h.accounted serial hserial with hstarted | hrefused | ⟨v, hv, hwaits, rfl⟩
  · exact .inl (hgrows.1 hstarted)
  · exact .inr (.inl (hgrows.2 hrefused))
  · rcases hpending v hv hwaits with ⟨w, hw, hwpending, hcommand⟩ | hstarted | hrefused
    · exact .inr (.inr ⟨w, hw, hwpending, by rw [hcommand]⟩)
    · exact .inl hstarted
    · exact .inr (.inl hrefused)

lemma Accounted.drain (hsome : 0 < voiceCapacity) (h : Accounted voiceCapacity r)
    (hkeeps : keepsPending r (S := S) .drain = true)
    (hstep : step sampleCapacity r .drain = some after) : Accounted voiceCapacity after := by
  simp only [step] at hstep
  split at hstep
  · split at hstep
    · cases hstep
      exact ⟨h.length, h.waits, h.accounted⟩
    · rename_i queued commands hpop
      cases hstep
      have hlength : 0 < r.voices.length := by
        rw [h.length]
        exact hsome
      by_cases hkind : queued.command.kind = .trigger
      · obtain ⟨hkept, hgrows, hserial⟩ := trigger_accounted r.counts queued
          h.waits hlength fun hsample hactive => by
            have hall : (r.voices.all fun v => v.active) = true := List.all_eq_true.mpr hactive
            simpa [keepsPending, hpop, hkind, hsample, hall] using hkeeps
        have hhandle : handle r.samples r.counts r.voices queued =
            trigger r.samples r.counts r.voices queued := by
          rw [handle, hkind]
        refine ⟨?_, ?_, ?_⟩
        · simp only [record, hhandle]
          exact hkept.length.trans h.length
        · simp only [record, hhandle]
          exact hkept.waits
        · simp only [record, hhandle, hkind, if_true]
          intro serial hmem
          rcases List.mem_cons.mp hmem with rfl | hold
          · exact hserial
          · exact h.of_kept hgrows (fun v hv hpending => .inl (hkept.pending v hv hpending))
              serial hold
      · obtain ⟨hcounts, hkept⟩ := stop_kept (c := r.counts) h.waits hkind
        refine ⟨hkept.length.trans h.length, hkept.waits, ?_⟩
        simp only [record, hkind, if_false, hcounts]
        exact h.of_kept (.refl _) fun v hv hpending => .inl (hkept.pending v hv hpending)
  · cases hstep

lemma Accounted.frame (h : Accounted voiceCapacity r) (hkeeps : keepsPending r (S := S) .frame = true)
    (hstep : step sampleCapacity r .frame = some after) : Accounted voiceCapacity after := by
  have hend : ∀ v ∈ r.voices, v.active = true → v.pending = true → atEnd r.samples v = false := by
    intro v hv hactive hpending
    have hone := List.all_eq_true.mp hkeeps v hv
    simpa [hactive, hpending] using hone
  obtain ⟨hlength, hgrows, hwaits, hpending⟩ := renderFrame_accounted (c := r.counts) h.waits hend
  simp only [step] at hstep
  split at hstep
  · split at hstep <;> cases hstep <;>
      exact ⟨hlength.trans h.length, hwaits, h.of_kept hgrows hpending⟩
  · cases hstep

lemma findSample_register (samples : List SamplerSampleDescriptor)
    (descriptor : SamplerSampleDescriptor) {id : UInt64}
    (h : (findSample samples id).isSome = true) :
    (findSample (registerSample sampleCapacity samples descriptor).1 id).isSome = true := by
  rw [registerSample]
  split
  · exact h
  · split
    · exact h
    · split
      · rw [findSample] at h ⊢
        rw [List.find?_append, Option.isSome_or, h, Bool.true_or]
      · exact h

theorem Accounted.of_step (hsome : 0 < voiceCapacity) (h : Accounted voiceCapacity r)
    {action : SamplerAction S} (hkeeps : keepsPending r action = true)
    (hstep : step sampleCapacity r action = some after) : Accounted voiceCapacity after := by
  cases action with
  | register descriptor =>
    cases hstep
    exact ⟨h.length, fun v hv => ⟨(h.waits v hv).active,
      fun hactive => findSample_register _ _ ((h.waits v hv).sample hactive),
      fun hpending => findSample_register _ _ ((h.waits v hv).pending hpending)⟩, h.accounted⟩
  | submit command =>
    cases hstep
    obtain ⟨hsamples, hvoices, hcounts, _, _, htriggers⟩ := submit_kept r command
    refine ⟨?_, ?_, ?_⟩
    · rw [hvoices]
      exact h.length
    · rw [hsamples, hvoices]
      exact h.waits
    · rw [htriggers, hcounts, hvoices]
      exact h.accounted
  | render frames =>
    simp only [step] at hstep
    split at hstep
    · cases hstep
      exact ⟨h.length, h.waits, h.accounted⟩
    · cases hstep
  | drain => exact h.drain hsome hkeeps hstep
  | frame => exact h.frame hkeeps hstep

/-- **No trigger vanishes.** In runs where no voice is stolen from the command it waits for, and none
comes to its end with one, every trigger that has been drained is started, rejected or pending. -/
theorem no_trigger_vanishes (hsome : 1 ≤ voiceCapacity) {actions : List (SamplerAction S)}
    (h : Reaches (step sampleCapacity) (fun r action => keepsPending r action = true)
      (initial voiceCapacity : SamplerRun S commandCapacity) actions r) :
    ∀ serial ∈ r.triggers, serial ∈ r.counts.started ∨ serial ∈ r.counts.refused ∨
      ∃ v ∈ r.voices, v.pending = true ∧ v.pendingCommand.serial = serial := by
  have hinitial : Accounted voiceCapacity (initial voiceCapacity : SamplerRun S commandCapacity) := by
    refine ⟨List.length_replicate, fun v hv => ?_, fun _ hnone => absurd hnone List.not_mem_nil⟩
    rw [active_initial v hv]
    exact ⟨fun h => Bool.noConfusion h, fun h => Bool.noConfusion h, fun h => Bool.noConfusion h⟩
  exact (h.invariant hinitial fun _ _ _ ht hkeeps hstep => ht.of_step hsome hkeeps hstep).accounted

theorem no_trigger_vanishes_example :
    ∃ r : SamplerRun .rationals 9, Reaches (step 2) (fun r action => keepsPending r action = true)
        (initial 2)
        (.register longSample :: exampleTrigger 1 :: exampleTrigger 2 :: exampleTrigger 3 ::
          [.render 64, .drain, .drain, .drain]) r ∧
      r.triggers = [2, 1, 0] ∧ r.counts.started = [1, 0] ∧ r.counts.refused = [] ∧
      ∃ v ∈ r.voices, v.pending = true ∧ v.pendingCommand.serial = 2 := by
  have hrun : (run (fun (r : SamplerRun .rationals 9) action =>
      if keepsPending r action = true then step 2 r action else none) (initial 2)
      (.register longSample :: exampleTrigger 1 :: exampleTrigger 2 :: exampleTrigger 3 ::
        [.render 64, .drain, .drain, .drain])).any (fun r =>
          r.triggers = [2, 1, 0] ∧ r.counts.started = [1, 0] ∧ r.counts.refused = []) = true := by
    decide +kernel
  obtain ⟨r, hr, hstate⟩ := (Option.any_eq_true _ _).mp hrun
  obtain ⟨htriggers, hstarted, hrefused⟩ := of_decide_eq_true hstate
  have haccounted := no_trigger_vanishes (by decide) (reaches_of_run hr) 2
    (by rw [htriggers]; exact List.mem_cons_self)
  rw [hstarted, hrefused] at haccounted
  refine ⟨r, reaches_of_run hr, htriggers, hstarted, hrefused, ?_⟩
  exact (haccounted.resolve_left (by decide)).resolve_left List.not_mem_nil

/-- **A trigger vanishes.** Four triggers for two voices: the last two steal the same voice, and the
first of these is neither started nor rejected nor pending any more. -/
theorem trigger_vanishes : ∃ r : SamplerRun .rationals 9, Reaches (step 2) Always (initial 2)
        (.register longSample :: exampleTrigger 1 :: exampleTrigger 2 :: exampleTrigger 3 ::
          exampleTrigger 4 :: [.render 64, .drain, .drain, .drain, .drain]) r ∧
      2 ∈ r.triggers ∧ 2 ∉ r.counts.started ∧ 2 ∉ r.counts.refused ∧
      r.voices.all (fun v => !(v.pending && v.pendingCommand.serial = 2)) = true := by
  have hrun : (run (step 2) (initial 2 : SamplerRun .rationals 9)
      (.register longSample :: exampleTrigger 1 :: exampleTrigger 2 :: exampleTrigger 3 ::
        exampleTrigger 4 :: [.render 64, .drain, .drain, .drain, .drain])).any (fun r =>
          2 ∈ r.triggers ∧ 2 ∉ r.counts.started ∧ 2 ∉ r.counts.refused ∧
            r.voices.all (fun v => !(v.pending && v.pendingCommand.serial = 2)) = true) = true := by
    decide +kernel
  exact reaches_always_of_any hrun

end SamplerRun

end StageForge
