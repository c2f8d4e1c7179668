import StageForge.Native.SamplerVoices

/-!
# What a stop of all voices silences

It leaves of a voice that was started before less and less of its release, and no command.
-/

namespace StageForge

open TransitionSystem

variable {S : NativeFloats} {samples : List SamplerSampleDescriptor}

/-! ## Voices -/

namespace SamplerVoice

variable (v : SamplerVoice S)

lemma beginRelease_kept : v.beginRelease.active = v.active ∧ v.beginRelease.pending = v.pending ∧
    v.beginRelease.pendingCommand = v.pendingCommand ∧ v.beginRelease.startedBy = v.startedBy ∧
    v.beginRelease.sampleId = v.sampleId := by
  rw [beginRelease]
  split <;> exact ⟨rfl, rfl, rfl, rfl, rfl⟩

lemma beginRelease_of_releasing (h : v.releasing = true) : v.beginRelease = v :=
  if_neg fun hrelease => Bool.noConfusion (h.symm.trans hrelease.2)

lemma releasing_beginRelease (h : v.active = true) : v.beginRelease.releasing = true := by
  rw [beginRelease]
  split
  · rfl
  · rename_i hother
    exact Bool.eq_true_of_not_eq_false fun hfalse => hother ⟨h, hfalse⟩

lemma beginRelease_beginRelease : v.beginRelease.beginRelease = v.beginRelease := by
  by_cases hactive : v.active = true
  · exact v.beginRelease.beginRelease_of_releasing (v.releasing_beginRelease hactive)
  · have hkept : v.beginRelease = v := if_neg fun h => hactive h.1
    rw [hkept, hkept]

lemma beginRelease_pending (queued : QueuedCommand S) :
    beginRelease { v with pending := true, pendingCommand := queued } =
      { v.beginRelease with pending := true, pendingCommand := queued } := by
  rw [beginRelease, beginRelease]
  split <;> rfl

end SamplerVoice

namespace SamplerEngine

lemma start_cases (c : SamplerCounts) (v : SamplerVoice S) (queued : QueuedCommand S) :
    (start samples c v queued).2.active = false ∨
    ((start samples c v queued).2.active = true ∧
      (start samples c v queued).2.startedBy = queued.serial ∧
      (start samples c v queued).2.releasing = false ∧
      (start samples c v queued).2.pending = false) := by
  rw [start]
  split
  · exact .inl rfl
  · exact .inr ⟨rfl, rfl, rfl, rfl⟩

variable {queued : QueuedCommand S}

lemma mem_startFirst :
    ∀ {voices : List (SamplerVoice S)} {c c' : SamplerCounts} {after : List (SamplerVoice S)},
      startFirst samples c queued voices = some (c', after) → ∀ w ∈ after,
        w ∈ voices ∨ ∃ v ∈ voices, v.active = false ∧ w = (start samples c v queued).2
  | [], _, _, _, h => absurd h (Option.some_ne_none _).symm
  | v :: voices, c, c', after, h => by
    rw [startFirst] at h
    split at h
    · rename_i hfree
      simp only [Option.some.injEq, Prod.mk.injEq] at h
      obtain ⟨_, rfl⟩ := h
      intro w hw
      rcases List.mem_cons.mp hw with rfl | hrest
      · exact .inr ⟨v, List.mem_cons_self, hfree, rfl⟩
      · exact .inl (List.mem_cons_of_mem _ hrest)
    · obtain ⟨⟨c'', rest⟩, hrest, hafter⟩ := Option.map_eq_some_iff.mp h
      simp only [Prod.mk.injEq] at hafter
      obtain ⟨_, rfl⟩ := hafter
      intro w hw
      rcases List.mem_cons.mp hw with rfl | hw
      · exact .inl List.mem_cons_self
      · rcases mem_startFirst hrest w hw with hold | ⟨u, hu, hnew⟩
        · exact .inl (List.mem_cons_of_mem _ hold)
        · exact .inr ⟨u, List.mem_cons_of_mem _ hu, hnew⟩

lemma startFirst_none {c : SamplerCounts} :
    ∀ {voices : List (SamplerVoice S)}, startFirst samples c queued voices = none →
      ∀ v ∈ voices, v.active = true
  | [], _ => fun _ h => absurd h List.not_mem_nil
  | v :: voices, h => by
    rw [startFirst] at h
    split at h
    · cases h
    · rename_i hactive
      intro w hw
      rcases List.mem_cons.mp hw with rfl | hrest
      · exact Bool.eq_true_of_not_eq_false hactive
      · exact startFirst_none (Option.map_eq_none_iff.mp h) w hrest

lemma choked_cases (sample : SamplerSampleDescriptor) (v : SamplerVoice S) :
    (if chokes sample v = true then v.beginRelease else v) = v ∨
    (if chokes sample v = true then v.beginRelease else v) = v.beginRelease := by
  split
  · exact .inr rfl
  · exact .inl rfl

lemma mem_modify {α : Type*} {as : List α} {index : ℕ} {change : α → α} {x : α}
    (h : x ∈ as.modify index change) : x ∈ as ∨ ∃ a ∈ as, as[index]? = some a ∧ x = change a := by
  obtain ⟨other, hother, hget⟩ := List.mem_iff_getElem.mp h
  have hlt : other < as.length := by rwa [List.length_modify] at hother
  rw [List.getElem_modify] at hget
  split at hget
  · rename_i hsame
    subst hsame
    exact .inr ⟨_, List.getElem_mem hlt, List.getElem?_eq_getElem hlt, hget.symm⟩
  · exact .inl (hget ▸ List.getElem_mem hlt)

/-- What a command makes of the voices. A voice is as it was or released, or the command has started
it, or it waits for it. -/
lemma mem_handle {c : SamplerCounts} {voices : List (SamplerVoice S)}
    {w : SamplerVoice S} (hw : w ∈ (handle samples c voices queued).2) :
    ∃ v ∈ voices, ((w = v ∧ queued.command.kind ≠ .stopAll) ∨ w = v.beginRelease) ∨
      (∃ c' u, w = (start samples c' u queued).2) ∨
      (v.active = true ∧ w = { v.beginRelease with pending := true, pendingCommand := queued }) := by
  rw [handle] at hw
  cases hkind : queued.command.kind with
  | stopAll =>
    simp only [hkind, List.mem_map] at hw
    obtain ⟨v, hv, rfl⟩ := hw
    exact ⟨v, hv, .inl (.inr rfl)⟩
  | stopSample =>
    simp only [hkind, List.mem_map] at hw
    obtain ⟨v, hv, rfl⟩ := hw
    refine ⟨v, hv, .inl ?_⟩
    split
    · exact .inr rfl
    · exact .inl ⟨rfl, SamplerCommandKind.noConfusion⟩
  | trigger =>
    have hnot : SamplerCommandKind.trigger ≠ .stopAll := SamplerCommandKind.noConfusion
    simp only [hkind, trigger] at hw
    split at hw
    · exact ⟨w, hw, .inl (.inl ⟨rfl, hnot⟩)⟩
    · rename_i sample _
      have hchoked : ∀ u ∈ choke sample voices, ∃ v ∈ voices, u = v ∨ u = v.beginRelease := by
        intro u hu
        obtain ⟨v, hv, rfl⟩ := List.mem_map.mp hu
        exact ⟨v, hv, choked_cases sample v⟩
      split at hw
      · rename_i result hstart
        rcases mem_startFirst hstart w hw with hold | ⟨u, hu, _, rfl⟩
        · obtain ⟨v, hv, hsame⟩ := hchoked w hold
          exact ⟨v, hv, .inl (hsame.imp_left fun h => ⟨h, hnot⟩)⟩
        · obtain ⟨v, hv, _⟩ := hchoked u hu
          exact ⟨v, hv, .inr (.inl ⟨_, u, rfl⟩)⟩
      · rename_i hnone
        have hactive := startFirst_none hnone
        rcases mem_modify hw with hold | ⟨u, hu, _, rfl⟩
        · obtain ⟨v, hv, hsame⟩ := hchoked w hold
          exact ⟨v, hv, .inl (hsame.imp_left fun h => ⟨h, hnot⟩)⟩
        · obtain ⟨v, hv, hsame⟩ := hchoked u hu
          have hvactive : v.active = true := by
            rcases hsame with rfl | rfl
            · exact hactive _ hu
            · exact v.beginRelease_kept.1.symm.trans (hactive _ hu)
          refine ⟨v, hv, .inr (.inr ⟨hvactive, ?_⟩)⟩
          rw [SamplerVoice.beginRelease_pending]
          rcases hsame with rfl | rfl
          · rfl
          · rw [SamplerVoice.beginRelease_beginRelease]

/-- A voice after its turn in a frame. It is not active, or it goes on, with a frame less of its release,
or its release has come to its end and its pending command has started. -/
def Turn (v w : SamplerVoice S) : Prop := w.active = false ∨
  (v.active = true ∧ w.active = true ∧ w.startedBy = v.startedBy ∧ w.pending = v.pending ∧
    w.pendingCommand = v.pendingCommand ∧ w.releasing = v.releasing ∧
    (v.releasing = true → 0 < v.releaseRemaining →
      0 < w.releaseRemaining ∧ w.releaseRemaining.toNat + 1 = v.releaseRemaining.toNat)) ∨
  (v.active = true ∧ v.pending = true ∧ w.active = true ∧
    w.startedBy = v.pendingCommand.serial ∧ w.releasing = false ∧ w.pending = false)

lemma turn_advance (c : SamplerCounts) {v : SamplerVoice S} (hactive : v.active = true)
    (position : UInt32) : Turn v (advance samples c v position).2 := by
  simp only [advance]
  split
  · rename_i hrelease
    have hpositive : 0 < v.releaseRemaining.toNat := UInt32.lt_iff_toNat_lt.mp hrelease.2
    have hless : (v.releaseRemaining - 1).toNat = v.releaseRemaining.toNat - 1 := by
      rw [UInt32.toNat_sub_of_le _ _ (by rwa [UInt32.le_iff_toNat_le, UInt32.toNat_one]),
        UInt32.toNat_one]
    split
    · split
      · rename_i hpending
        rcases @start_cases S samples c
          { v with position := position + 1, age := v.age + 1,
                   releaseRemaining := v.releaseRemaining - 1 } v.pendingCommand with
          hnot | ⟨hstarted, hby, hreleasing, hnone⟩
        · exact .inl hnot
        · exact .inr (.inr ⟨hactive, hpending, hstarted, hby, hreleasing, hnone⟩)
      · exact .inl rfl
    · rename_i hmore
      refine .inr (.inl ⟨hactive, hactive, rfl, rfl, rfl, rfl, fun _ _ => ?_⟩)
      have hnat : (v.releaseRemaining - 1).toNat ≠ 0 := fun h => hmore (UInt32.toNat_inj.mp h)
      refine ⟨UInt32.lt_iff_toNat_lt.mpr (Nat.pos_of_ne_zero hnat), ?_⟩
      simp only [hless]
      omega
  · rename_i hnone
    exact .inr (.inl ⟨hactive, hactive, rfl, rfl, rfl, rfl, fun hreleasing hpositive =>
      absurd ⟨hreleasing, hpositive⟩ hnone⟩)

lemma turn_renderVoice (c : SamplerCounts) (v : SamplerVoice S) :
    Turn v (renderVoice samples c v).2 := by
  rw [renderVoice]
  by_cases hidle : v.active = false
  · rw [if_pos hidle]
    exact .inl hidle
  · rw [if_neg hidle]
    have hactive := Bool.eq_true_of_not_eq_false hidle
    cases findSample samples v.sampleId with
    | none => exact .inl rfl
    | some sample =>
      simp only
      by_cases hend : (if sample.looped = true then sample.loopEnd else sample.frames) ≤ v.position
      · rw [if_pos hend]
        by_cases hlooped : sample.looped = true
        · rw [if_pos hlooped]
          exact turn_advance c hactive _
        · rw [if_neg hlooped]
          exact .inl rfl
      · rw [if_neg hend]
        exact turn_advance c hactive _

lemma mem_renderFrame : ∀ {voices : List (SamplerVoice S)} {c : SamplerCounts}
    {w : SamplerVoice S}, w ∈ (renderFrame samples c voices).2 →
    ∃ v ∈ voices, ∃ c', w = (renderVoice samples c' v).2
  | [], _, _, h => absurd h List.not_mem_nil
  | v :: voices, c, w, h => by
    rcases List.mem_cons.mp h with rfl | hrest
    · exact ⟨v, List.mem_cons_self, c, rfl⟩
    · obtain ⟨u, hu, c', hw⟩ := mem_renderFrame hrest
      exact ⟨u, List.mem_cons_of_mem _ hu, c', hw⟩

end SamplerEngine

namespace SamplerRun

open SamplerEngine

variable {commandCapacity sampleCapacity voiceCapacity : ℕ}
  {r after : SamplerRun S commandCapacity}

/-! ## The queue -/

/-- The serials in the queue go on from the number of commands that have been drained. -/
structure InOrder (r : SamplerRun S commandCapacity) : Prop where
  proper : r.commands.Proper
  serials : r.commands.contents.map QueuedCommand.serial =
    List.range' r.drained r.commands.contents.length
  queued : r.queued = r.drained + r.commands.contents.length

variable {queued : QueuedCommand S}

lemma InOrder.tryPop (h : InOrder r) {commands : SpscQueue (QueuedCommand S) commandCapacity}
    (hpop : r.commands.tryPop = some (queued, commands)) :
    queued.serial = r.drained ∧ commands.Proper ∧ commands.contents.map QueuedCommand.serial =
        List.range' (r.drained + 1) commands.contents.length ∧
      r.queued = r.drained + 1 + commands.contents.length := by
  rcases h.proper.tryPop_cases with ⟨_, hnone⟩ | ⟨first, rest, hcontents, hproper, hfirst⟩
  · rw [hnone] at hpop
    cases hpop
  · rw [hfirst, Option.some.injEq, Prod.mk.injEq] at hpop
    obtain ⟨rfl, rfl⟩ := hpop
    have hserials := h.serials
    have hqueued := h.queued
    rw [hcontents, List.length_cons] at hqueued
    rw [hcontents, List.map_cons, List.length_cons, List.range'_succ, List.cons.injEq] at hserials
    exact ⟨hserials.1, hproper, hserials.2, by omega⟩

lemma InOrder.submit (h : InOrder r) (command : SamplerCommand S) :
    InOrder (submit r command).1 := by
  simp only [SamplerRun.submit]
  split
  · exact ⟨h.proper, h.serials, h.queued⟩
  · split
    · exact ⟨h.proper, h.serials, h.queued⟩
    · rename_i commands hpush
      obtain ⟨hproper, hcontents⟩ := h.proper.tryPush_eq hpush
      refine ⟨hproper, ?_, ?_⟩
      · rw [hcontents, List.map_append, h.serials, List.map_singleton, List.length_append,
          List.length_singleton, List.range'_concat, Nat.one_mul, h.queued]
      · simp only
        rw [hcontents, List.length_append, List.length_singleton, h.queued]
        omega

lemma submit_kept (r : SamplerRun S commandCapacity) (command : SamplerCommand S) :
    (submit r command).1.samples = r.samples ∧ (submit r command).1.voices = r.voices ∧
      (submit r command).1.counts = r.counts ∧ (submit r command).1.drained = r.drained ∧
      (submit r command).1.stops = r.stops ∧ (submit r command).1.triggers = r.triggers := by
  simp only [submit]
  split
  · exact ⟨rfl, rfl, rfl, rfl, rfl, rfl⟩
  · split <;> exact ⟨rfl, rfl, rfl, rfl, rfl, rfl⟩

/-! ## Stops -/

/-- What is known of a voice: by whom it was started and for whom it waits, among the commands drained,
and how much of a release there can be. -/
structure VoiceOrder (drained : ℕ) (v : SamplerVoice S) : Prop where
  startedBy : v.startedBy < drained
  pending : v.pending = true → v.startedBy < v.pendingCommand.serial ∧
    v.pendingCommand.serial < drained
  release : v.releasing = true → 0 < v.releaseRemaining ∧ v.releaseRemaining.toNat ≤ 64

/-- What a stop leaves of a voice that was started before it, so many frames on. -/
def Silenced (stop : ℕ × ℕ) (v : SamplerVoice S) : Prop :=
  v.active = true → v.startedBy ≤ stop.1 → v.releasing = true ∧
    v.releaseRemaining.toNat + stop.2 ≤ 64 ∧
    (v.pending = true → stop.1 < v.pendingCommand.serial)

structure Silencing (r : SamplerRun S commandCapacity) : Prop where
  order : InOrder r
  voices : ∀ v ∈ r.voices, v.active = true → VoiceOrder r.drained v
  drained : ∀ stop ∈ r.stops, stop.1 < r.drained
  silenced : ∀ stop ∈ r.stops, ∀ v ∈ r.voices, Silenced stop v

/-- No voice is to wait for a command when all are stopped. -/
def stopsUnpended (r : SamplerRun S commandCapacity) : SamplerAction S → Bool
  | .drain =>
    match r.commands.tryPop with
    | none => true
    | some (queued, _) =>
      queued.command.kind ≠ .stopAll || r.voices.all fun v => !v.pending
  | _ => true

variable {drained : ℕ}

lemma VoiceOrder.mono {v : SamplerVoice S} (h : VoiceOrder drained v) :
    VoiceOrder (drained + 1) v :=
  ⟨Nat.lt_succ_of_lt h.startedBy,
    fun hpending => ⟨(h.pending hpending).1, Nat.lt_succ_of_lt (h.pending hpending).2⟩, h.release⟩

lemma VoiceOrder.beginRelease {v : SamplerVoice S} (h : VoiceOrder drained v) :
    VoiceOrder drained v.beginRelease := by
  obtain ⟨_, hpending, hcommand, hstarted, _⟩ := v.beginRelease_kept
  refine ⟨hstarted ▸ h.startedBy, ?_, ?_⟩
  · rw [hpending, hcommand, hstarted]
    exact h.pending
  · rw [SamplerVoice.beginRelease]
    split
    · have hframes : 0 < releaseFrames ∧ releaseFrames.toNat ≤ 64 := by decide
      exact fun _ => hframes
    · exact h.release

lemma Silencing.handle_voice (h : Silencing r)
    (hserial : queued.serial = r.drained) {c : SamplerCounts} {w : SamplerVoice S}
    (hw : w ∈ (handle r.samples c r.voices queued).2) :
    (w.active = true → VoiceOrder (r.drained + 1) w) ∧ ∀ stop ∈ r.stops, Silenced stop w := by
  obtain ⟨v, hv, (⟨rfl, _⟩ | rfl) | ⟨c', u, rfl⟩ | ⟨hactive, rfl⟩⟩ := mem_handle hw
  · exact ⟨fun hactive => (h.voices w hv hactive).mono, fun stop hstop => h.silenced stop hstop w hv⟩
  · obtain ⟨hactive, hpending, hcommand, hstarted, _⟩ := v.beginRelease_kept
    constructor
    · intro hw
      exact ((h.voices v hv (hactive ▸ hw)).mono).beginRelease
    · intro stop hstop hw hbefore
      rw [hactive] at hw
      rw [hstarted] at hbefore
      obtain ⟨hreleasing, hrest⟩ := h.silenced stop hstop v hv hw hbefore
      rw [v.beginRelease_of_releasing hreleasing]
      exact ⟨hreleasing, hrest⟩
  · rcases @start_cases S r.samples c' u queued with hnot | ⟨_, hby, hreleasing, hnone⟩
    · exact ⟨fun hw => absurd hw (by rw [hnot]; exact Bool.false_ne_true),
        fun stop _ hw => absurd hw (by rw [hnot]; exact Bool.false_ne_true)⟩
    · constructor
      · refine fun _ => ⟨by omega, fun hw => ?_, fun hw => ?_⟩
        · exact absurd hw (by rw [hnone]; exact Bool.false_ne_true)
        · exact absurd hw (by rw [hreleasing]; exact Bool.false_ne_true)
      · intro stop hstop _ hbefore
        have := h.drained stop hstop
        omega
  · obtain ⟨_, _, _, hstarted, _⟩ := v.beginRelease_kept
    have horder := h.voices v hv hactive
    constructor
    · intro _
      refine ⟨?_, fun _ => ?_, (horder.mono.beginRelease).release⟩
      · exact horder.mono.beginRelease.startedBy
      · simp only [hstarted, hserial]
        exact ⟨horder.startedBy, Nat.lt_succ_self _⟩
    · intro stop hstop _ hbefore
      simp only [hstarted] at hbefore
      obtain ⟨hreleasing, hframes, _⟩ := h.silenced stop hstop v hv hactive hbefore
      have hdrained := h.drained stop hstop
      simp only [v.beginRelease_of_releasing hreleasing]
      exact ⟨hreleasing, hframes, fun _ => by omega⟩

lemma Silencing.stopped (h : Silencing r) (hkind : queued.command.kind = .stopAll)
    (hunpended : ∀ v ∈ r.voices, v.pending = false) {c : SamplerCounts} {w : SamplerVoice S}
    (hw : w ∈ (handle r.samples c r.voices queued).2) : Silenced (queued.serial, 0) w := by
  simp only [handle, hkind, List.mem_map] at hw
  obtain ⟨v, hv, rfl⟩ := hw
  obtain ⟨hactive, hpending, _⟩ := v.beginRelease_kept
  intro hw _
  rw [hactive] at hw
  have horder := (h.voices v hv hw).beginRelease
  have hreleasing := v.releasing_beginRelease hw
  refine ⟨hreleasing, (horder.release hreleasing).2, fun hwaits => ?_⟩
  rw [hpending, hunpended v hv] at hwaits
  exact Bool.noConfusion hwaits

lemma Silencing.drain (h : Silencing r) (hunpended : stopsUnpended r (S := S) .drain = true)
    (hstep : step sampleCapacity r .drain = some after) : Silencing after := by
  simp only [step] at hstep
  split at hstep
  · split at hstep
    · cases hstep
      exact ⟨⟨h.order.proper, h.order.serials, h.order.queued⟩, h.voices, h.drained, h.silenced⟩
    · rename_i queued commands hpop
      cases hstep
      obtain ⟨hserial, hproper, hserials, hqueued⟩ := h.order.tryPop hpop
      refine ⟨⟨hproper, hserials, hqueued⟩, ?_, ?_, ?_⟩
      · exact fun w hw => (h.handle_voice hserial hw).1
      · intro stop hstop
        simp only [record] at hstop ⊢
        split at hstop
        · rcases List.mem_cons.mp hstop with rfl | hold
          · exact Nat.lt_succ_of_le (Nat.le_of_eq hserial)
          · exact Nat.lt_succ_of_lt (h.drained stop hold)
        · exact Nat.lt_succ_of_lt (h.drained stop hstop)
      · intro stop hstop w hw
        simp only [record] at hstop hw
        split at hstop
        · rename_i hkind
          rcases List.mem_cons.mp hstop with rfl | hold
          · refine h.stopped hkind (fun v hv => ?_) hw
            simp only [stopsUnpended, hpop, hkind, ne_eq, not_true_eq_false, decide_false,
              Bool.false_or, List.all_eq_true, Bool.not_eq_true'] at hunpended
            exact hunpended v hv
          · exact (h.handle_voice hserial hw).2 stop hold
        · exact (h.handle_voice hserial hw).2 stop hstop
  · cases hstep

lemma VoiceOrder.turn {v w : SamplerVoice S}
    (horder : v.active = true → VoiceOrder drained v) (hturn : Turn v w) (hw : w.active = true) :
    VoiceOrder drained w := by
  rcases hturn with hnot | ⟨hactive, _, hby, hpending, hcommand, hreleasing, hless⟩ |
    ⟨hactive, hwaits, _, hby, hreleasing, hnone⟩
  · exact absurd hw (by rw [hnot]; exact Bool.false_ne_true)
  · have horder := horder hactive
    refine ⟨hby ▸ horder.startedBy, ?_, fun hw => ?_⟩
    · rw [hpending, hcommand, hby]
      exact horder.pending
    · rw [hreleasing] at hw
      obtain ⟨hpositive, hframes⟩ := horder.release hw
      obtain ⟨hmore, hrest⟩ := hless hw hpositive
      exact ⟨hmore, by omega⟩
  · obtain ⟨_, hdrained⟩ := (horder hactive).pending hwaits
    refine ⟨by omega, fun hw => ?_, fun hw => ?_⟩
    · exact absurd hw (by rw [hnone]; exact Bool.false_ne_true)
    · exact absurd hw (by rw [hreleasing]; exact Bool.false_ne_true)

lemma Silenced.turn {stop : ℕ × ℕ} {v w : SamplerVoice S} (h : Silenced stop v)
    (horder : v.active = true → VoiceOrder drained v) (hturn : Turn v w) :
    Silenced (stop.1, stop.2 + 1) w := by
  intro hw hbefore
  rcases hturn with hnot | ⟨hactive, _, hby, hpending, hcommand, hreleasing, hless⟩ |
    ⟨hactive, hwaits, _, hby, _, _⟩
  · exact absurd hw (by rw [hnot]; exact Bool.false_ne_true)
  · rw [hby] at hbefore
    obtain ⟨hvreleasing, hframes, hlater⟩ := h hactive hbefore
    obtain ⟨_, hrest⟩ := hless hvreleasing ((horder hactive).release hvreleasing).1
    refine ⟨hreleasing.trans hvreleasing, ?_, ?_⟩
    · omega
    · rw [hpending, hcommand]
      exact hlater
  · -- the command that has started was queued after the stop
    obtain ⟨hstarted, _⟩ := (horder hactive).pending hwaits
    simp only [hby] at hbefore
    have hlater := (h hactive (by omega)).2.2 hwaits
    omega

lemma Silencing.frame (h : Silencing r) (hstep : step sampleCapacity r .frame = some after) :
    Silencing after := by
  have hvoices : ∀ w ∈ (renderFrame r.samples r.counts r.voices).2,
      w.active = true → VoiceOrder r.drained w := by
    intro w hw
    obtain ⟨v, hv, c, rfl⟩ := mem_renderFrame hw
    exact VoiceOrder.turn (h.voices v hv) (turn_renderVoice c v)
  have hstops : ∀ stop ∈ r.stops.map fun stop : ℕ × ℕ => (stop.1, stop.2 + 1),
      stop.1 < r.drained ∧ ∀ w ∈ (renderFrame r.samples r.counts r.voices).2, Silenced stop w := by
    intro _ hstop
    obtain ⟨stop, hold, rfl⟩ := List.mem_map.mp hstop
    refine ⟨h.drained stop hold, fun w hw => ?_⟩
    obtain ⟨v, hv, c, rfl⟩ := mem_renderFrame hw
    exact (h.silenced stop hold v hv).turn (h.voices v hv) (turn_renderVoice c v)
  simp only [step] at hstep
  split at hstep
  · split at hstep <;> cases hstep <;>
      exact ⟨⟨h.order.proper, h.order.serials, h.order.queued⟩, hvoices,
        fun stop hstop => (hstops stop hstop).1, fun stop hstop => (hstops stop hstop).2⟩
  · cases hstep

lemma Silencing.submit (h : Silencing r) (command : SamplerCommand S) :
    Silencing (submit r command).1 := by
  obtain ⟨_, hvoices, _, hdrained, hstops, _⟩ := submit_kept r command
  refine ⟨h.order.submit command, ?_, ?_, ?_⟩
  · rw [hvoices, hdrained]
    exact h.voices
  · rw [hstops, hdrained]
    exact h.drained
  · rw [hstops, hvoices]
    exact h.silenced

theorem Silencing.of_step (h : Silencing r) {action : SamplerAction S}
    (hunpended : stopsUnpended r action = true)
    (hstep : step sampleCapacity r action = some after) : Silencing after := by
  cases action with
  | register descriptor =>
    cases hstep
    exact ⟨⟨h.order.proper, h.order.serials, h.order.queued⟩, h.voices, h.drained, h.silenced⟩
  | submit command =>
    cases hstep
    exact h.submit command
  | render frames =>
    simp only [step] at hstep
    split at hstep
    · cases hstep
      exact ⟨⟨h.order.proper, h.order.serials, h.order.queued⟩, h.voices, h.drained, h.silenced⟩
    · cases hstep
  | drain => exact h.drain hunpended hstep
  | frame => exact h.frame hstep

lemma inOrder_initial (hcapacity : 2 ≤ commandCapacity) :
    InOrder (initial voiceCapacity : SamplerRun S commandCapacity) :=
  ⟨SpscQueue.proper_empty _ (by omega), rfl, rfl⟩

lemma active_initial : ∀ v ∈ (initial voiceCapacity : SamplerRun S commandCapacity).voices,
    v = SamplerVoice.blank := fun _ hv => List.eq_of_mem_replicate hv

/-- **A stop of all voices silences the sampler.** In runs where no voice waits for a command when all
voices are stopped, the voices that are active 64 frames after the stop, or later, have been started by
triggers queued after it. -/
theorem stop_all_silences (hcapacity : 2 ≤ commandCapacity) {actions : List (SamplerAction S)}
    (h : Reaches (step sampleCapacity) (fun r action => stopsUnpended r action = true)
      (initial voiceCapacity : SamplerRun S commandCapacity) actions r) :
    ∀ stop ∈ r.stops, 64 ≤ stop.2 → ∀ v ∈ r.voices, v.active = true → stop.1 < v.startedBy := by
  have hinitial : Silencing (initial voiceCapacity : SamplerRun S commandCapacity) := by
    refine ⟨inOrder_initial hcapacity, fun v hv hactive => ?_,
      fun _ hnone => absurd hnone List.not_mem_nil, fun _ hnone => absurd hnone List.not_mem_nil⟩
    rw [active_initial v hv] at hactive
    exact Bool.noConfusion hactive
  have hr := h.invariant hinitial fun _ _ _ ht hunpended hstep => ht.of_step hunpended hstep
  intro stop hstop hframes v hv hactive
  by_contra hbefore
  obtain ⟨hreleasing, hrest, _⟩ := hr.silenced stop hstop v hv hactive (Nat.le_of_not_lt hbefore)
  have hpositive := UInt32.lt_iff_toNat_lt.mp ((hr.voices v hv hactive).release hreleasing).1
  rw [UInt32.toNat_zero] at hpositive
  omega

def longSample : SamplerSampleDescriptor := ⟨1, true, 1000, 0, 0, 0, false⟩

def exampleTrigger (eventId : UInt64) : SamplerAction .rationals :=
  .submit ⟨.trigger, eventId, 1, (1 : ℚ), 60⟩

def exampleStop (eventId : UInt64) : SamplerAction .rationals :=
  .submit ⟨.stopAll, eventId, 0, (0 : ℚ), 0⟩

/-- A block of 64 frames, with so many commands. -/
def exampleBlock (commands : ℕ) : List (SamplerAction .rationals) :=
  .render 64 :: (List.replicate (commands + 1) .drain ++ List.replicate 64 .frame)

theorem stop_all_silences_example :
    ∃ r : SamplerRun .rationals 9, Reaches (step 2) (fun r action => stopsUnpended r action = true)
        (initial 2)
        (.register longSample :: exampleTrigger 1 :: exampleStop 2 :: exampleTrigger 3 ::
          (exampleBlock 3 ++ exampleBlock 0)) r ∧
      r.stops = [(1, 128)] ∧ r.voices.any (fun v => v.active) = true ∧
      ∀ v ∈ r.voices, v.active = true → 1 < v.startedBy := by
  have hrun : (run (fun (r : SamplerRun .rationals 9) action =>
      if stopsUnpended r action = true then step 2 r action else none) (initial 2)
      (.register longSample :: exampleTrigger 1 :: exampleStop 2 :: exampleTrigger 3 ::
        (exampleBlock 3 ++ exampleBlock 0))).any (fun r =>
          r.stops = [(1, 128)] ∧ r.voices.any (fun v => v.active) = true) = true := by
    decide +kernel
  obtain ⟨r, hr, hstate⟩ := (Option.any_eq_true _ _).mp hrun
  obtain ⟨hstops, hactive⟩ := of_decide_eq_true hstate
  have hsilent := stop_all_silences (by decide) (reaches_of_run hr)
  rw [hstops] at hsilent
  exact ⟨r, reaches_of_run hr, hstops, hactive,
    hsilent (1, 128) (List.mem_singleton_self _) (by decide)⟩

/-- **A stop of all voices is survived.** Two voices are taken, and a third trigger waits for the first
of them when all are stopped: it starts when the release has come to its end, and plays on. -/
theorem stop_all_revived : ∃ r : SamplerRun .rationals 9, Reaches (step 2) Always (initial 2)
        (.register longSample :: exampleTrigger 1 :: exampleTrigger 2 :: exampleTrigger 3 ::
          exampleStop 4 :: (exampleBlock 4 ++ exampleBlock 0)) r ∧
      r.stops = [(3, 128)] ∧ r.voices.any (fun v => v.active && v.startedBy < 3) = true := by
  have hrun : (run (step 2) (initial 2 : SamplerRun .rationals 9)
      (.register longSample :: exampleTrigger 1 :: exampleTrigger 2 :: exampleTrigger 3 ::
        exampleStop 4 :: (exampleBlock 4 ++ exampleBlock 0))).any (fun r =>
          r.stops = [(3, 128)] ∧
            r.voices.any (fun v => v.active && v.startedBy < 3) = true) = true := by
    decide +kernel
  exact reaches_always_of_any hrun

end SamplerRun

end StageForge
