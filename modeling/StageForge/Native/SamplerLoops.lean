import StageForge.Native.SamplerTriggers

/-!
# The seam of a loop

Near the end of a loop the sampler fades the end out and the beginning of the loop in. With a crossfade of `c`
frames the last frame before the loop end has the frame `loop_begin + c - 1` faded in to it.
-/

namespace StageForge

open TransitionSystem

variable {S : NativeFloats}

namespace SamplerSampleDescriptor

variable (d : SamplerSampleDescriptor)

/-- The position of a voice after the wrap, if it has come to the loop end. -/
def turnPosition (position : UInt32) : UInt32 :=
  if d.looped = true ∧ d.loopEnd ≤ position then d.loopBegin + (position - d.loopEnd) else position

/-- The frames of the crossfade, at most half of the loop. -/
def crossfade (loopCrossfadeFrames : UInt16) : UInt32 :=
  if d.looped = true then min loopCrossfadeFrames.toUInt32 ((d.loopEnd - d.loopBegin) / 2) else 0

/-- The frame that is faded in at a position, if it is in the crossfade. -/
def alternate (loopCrossfadeFrames : UInt16) (position : UInt32) : Option UInt32 :=
  let crossfade := d.crossfade loopCrossfadeFrames
  if crossfade ≠ 0 ∧ d.loopEnd - crossfade ≤ position then
    some (d.loopBegin + (position - (d.loopEnd - crossfade)))
  else none

/-- The position of a voice that has had so many turns since it was started. -/
def positionAfter : ℕ → UInt32
  | 0 => 0
  | turns + 1 => d.turnPosition (positionAfter turns) + 1

/-- The frame that a voice reads in a turn; the first turn is turn 0. -/
def readAt (turn : ℕ) : UInt32 := d.turnPosition (d.positionAfter turn)

/-- In each of so many turns that reads the last frame before the loop end, the frame that is faded in is
followed, in the next turn, by the one after it. -/
def Seamless (loopCrossfadeFrames : UInt16) (turns : ℕ) : Prop :=
  ∀ turn, turn + 1 < turns → (d.readAt turn).toNat + 1 = d.loopEnd.toNat →
    ∃ fadedIn, d.alternate loopCrossfadeFrames (d.readAt turn) = some fadedIn ∧
      (d.readAt (turn + 1)).toNat = fadedIn.toNat + 1

/-! ## The bounds -/

variable {d}

open SamplerEngine

lemma bounds_of_valid (h : valid d = true) : 0 < d.frames.toNat ∧ d.loopEnd.toNat ≤ d.frames.toNat ∧
      (d.looped = true → d.loopBegin.toNat < d.loopEnd.toNat) := by
  simp only [valid, decide_eq_true_eq] at h
  obtain ⟨-, -, hframes, -, hend, hloop⟩ := h
  refine ⟨Nat.pos_of_ne_zero fun hzero => hframes (UInt32.toNat_inj.mp hzero),
    UInt32.le_iff_toNat_le.mp hend, fun hlooped => ?_⟩
  rcases hloop with hnot | hless
  · exact absurd (hlooped.symm.trans hnot) Bool.noConfusion
  · exact UInt32.lt_iff_toNat_lt.mp hless

/-- The end of what is played before the wrap, or before the voice is finished. -/
def limit (d : SamplerSampleDescriptor) : UInt32 := if d.looped = true then d.loopEnd else d.frames

lemma limit_le_frames (h : valid d = true) : d.limit.toNat ≤ d.frames.toNat := by
  unfold limit
  split
  · exact (bounds_of_valid h).2.1
  · exact le_rfl

variable {position : UInt32}

lemma turnPosition_of_lt (h : position.toNat < d.limit.toNat) :
    d.turnPosition position = position := by
  refine if_neg fun hwrap => ?_
  rw [limit, if_pos hwrap.1] at h
  exact absurd (UInt32.le_iff_toNat_le.mp hwrap.2) (by omega)

/-- **The wrap.** -/
lemma turnPosition_limit (hlooped : d.looped = true) : d.turnPosition d.limit = d.loopBegin := by
  rw [limit, if_pos hlooped, turnPosition, if_pos ⟨hlooped, UInt32.le_refl _⟩, UInt32.sub_self,
    UInt32.add_zero]

lemma turnPosition_lt (h : valid d = true)
    (hposition : position.toNat ≤ d.limit.toNat) (hreads : d.looped = true ∨ position ≠ d.limit) :
    (d.turnPosition position).toNat < d.limit.toNat := by
  rcases Nat.lt_or_eq_of_le hposition with hless | hequal
  · rwa [turnPosition_of_lt hless]
  · obtain rfl := UInt32.toNat_inj.mp hequal
    have hlooped := hreads.resolve_right fun hne => hne rfl
    rw [turnPosition_limit hlooped, limit, if_pos hlooped]
    exact (bounds_of_valid h).2.2 hlooped

lemma toNat_next (h : valid d = true) (hposition : position.toNat < d.limit.toNat) :
    (position + 1).toNat = position.toNat + 1 := by
  have hframes := limit_le_frames h
  have hsize := d.frames.toNat_lt
  rw [UInt32.toNat_add, UInt32.toNat_one, Nat.mod_eq_of_lt (by omega)]

/-- **A voice that plays on stays within the limit.** -/
lemma positionAfter_le (h : valid d = true) : ∀ turns, d.looped = true ∨ turns ≤ d.limit.toNat →
      (d.positionAfter turns).toNat ≤ d.limit.toNat ∧
        (turns ≤ d.limit.toNat → (d.positionAfter turns).toNat = turns)
  | 0, _ => ⟨Nat.zero_le _, fun _ => rfl⟩
  | turns + 1, hturns => by
    obtain ⟨hle, hexact⟩ := positionAfter_le h turns (hturns.imp_right fun hle => by omega)
    have hreads : d.looped = true ∨ d.positionAfter turns ≠ d.limit := by
      refine hturns.imp_right fun hmore hlimit => ?_
      have := hexact (by omega)
      rw [hlimit] at this
      omega
    have hless := turnPosition_lt h hle hreads
    rw [positionAfter, toNat_next h hless]
    refine ⟨hless, fun hmore => ?_⟩
    rw [turnPosition_of_lt (by rw [hexact (by omega)]; omega), hexact (by omega)]

lemma readAt_lt (h : valid d = true) (hlooped : d.looped = true) (turn : ℕ) :
    (d.readAt turn).toNat < d.loopEnd.toNat := by
  have hless := turnPosition_lt h (positionAfter_le h turn (.inl hlooped)).1 (.inl hlooped)
  rwa [limit, if_pos hlooped] at hless

lemma readAt_of_lt (h : valid d = true) (hlooped : d.looped = true) {turn : ℕ}
    (hturn : turn < d.loopEnd.toNat) : (d.readAt turn).toNat = turn := by
  have hlimit : d.limit = d.loopEnd := if_pos hlooped
  have hexact := (positionAfter_le h turn (.inl hlooped)).2 (by rw [hlimit]; omega)
  rw [readAt, turnPosition_of_lt (by rw [hexact, hlimit]; exact hturn), hexact]

/-- **After the last frame before the loop end comes the first frame of the loop.** -/
lemma readAt_succ_of_last (h : valid d = true) (hlooped : d.looped = true) {turn : ℕ}
    (hlast : (d.readAt turn).toNat + 1 = d.loopEnd.toNat) : d.readAt (turn + 1) = d.loopBegin := by
  have hlimit : d.limit = d.loopEnd := if_pos hlooped
  have hposition : d.positionAfter (turn + 1) = d.limit := by
    refine UInt32.toNat_inj.mp ?_
    have hless := readAt_lt h hlooped turn
    rw [positionAfter, toNat_next h (by rw [hlimit]; exact hless), hlimit]
    exact hlast
  rw [readAt, hposition, turnPosition_limit hlooped]

/-! ## The crossfade -/

variable {loopCrossfadeFrames : UInt16}

lemma crossfade_le (h : valid d = true) (hlooped : d.looped = true) :
    2 * (d.crossfade loopCrossfadeFrames).toNat ≤ d.loopEnd.toNat - d.loopBegin.toNat := by
  have hloop := (bounds_of_valid h).2.2 hlooped
  have hhalf : (d.crossfade loopCrossfadeFrames).toNat ≤ ((d.loopEnd - d.loopBegin) / 2).toNat := by
    rw [crossfade, if_pos hlooped]
    show (if _ ≤ _ then _ else _ : UInt32).toNat ≤ _
    split
    · exact UInt32.le_iff_toNat_le.mp ‹_›
    · exact le_rfl
  have htwo : (2 : UInt32).toNat = 2 := rfl
  rw [UInt32.toNat_div, UInt32.toNat_sub_of_le _ _ (UInt32.le_iff_toNat_le.mpr hloop.le), htwo]
    at hhalf
  omega

lemma alternate_eq_some (h : valid d = true) {position fadedIn : UInt32}
    (hposition : position.toNat < d.loopEnd.toNat) :
    d.alternate loopCrossfadeFrames position = some fadedIn ↔ d.crossfade loopCrossfadeFrames ≠ 0 ∧
        d.loopEnd.toNat ≤ position.toNat + (d.crossfade loopCrossfadeFrames).toNat ∧
        fadedIn.toNat + d.loopEnd.toNat =
          d.loopBegin.toNat + position.toNat + (d.crossfade loopCrossfadeFrames).toNat := by
  unfold alternate
  by_cases hfade : d.crossfade loopCrossfadeFrames = 0
  · simp [hfade]
  have hlooped : d.looped = true := by
    by_contra hnot
    exact hfade (if_neg hnot)
  have hhalf := @crossfade_le d loopCrossfadeFrames h hlooped
  have hsize := d.loopEnd.toNat_lt
  have hstart : (d.loopEnd - d.crossfade loopCrossfadeFrames).toNat =
      d.loopEnd.toNat - (d.crossfade loopCrossfadeFrames).toNat :=
    UInt32.toNat_sub_of_le _ _ (UInt32.le_iff_toNat_le.mpr (by omega))
  simp only [ne_eq, hfade, not_false_eq_true, true_and, UInt32.le_iff_toNat_le, hstart]
  split
  · rename_i hin
    have hoffset : (d.loopBegin + (position - (d.loopEnd - d.crossfade loopCrossfadeFrames))).toNat =
        d.loopBegin.toNat + (position.toNat -
          (d.loopEnd.toNat - (d.crossfade loopCrossfadeFrames).toNat)) := by
      rw [UInt32.toNat_add, UInt32.toNat_sub_of_le _ _ (UInt32.le_iff_toNat_le.mpr (hstart ▸ hin)),
        hstart, Nat.mod_eq_of_lt (by omega)]
    rw [Option.some.injEq, ← UInt32.toNat_inj, hoffset]
    omega
  · exact iff_of_false (by simp) (by omega)

/-- **Every frame that is read is one of the sample**, that of a turn and the one that is faded in to it. -/
lemma reads_in_bounds (h : valid d = true)
    (hposition : position.toNat ≤ d.limit.toNat) (hreads : d.looped = true ∨ position ≠ d.limit) :
    (d.turnPosition position).toNat < d.frames.toNat ∧
      ∀ fadedIn ∈ d.alternate loopCrossfadeFrames (d.turnPosition position),
        fadedIn.toNat < d.frames.toNat := by
  have hless := turnPosition_lt h hposition hreads
  refine ⟨hless.trans_le (limit_le_frames h), fun fadedIn hfadedIn => ?_⟩
  by_cases hlooped : d.looped = true
  · have hloop := bounds_of_valid h
    have hbegin := hloop.2.2 hlooped
    have hhalf := @crossfade_le d loopCrossfadeFrames h hlooped
    rw [limit, if_pos hlooped] at hless
    obtain ⟨-, -, hsum⟩ := (alternate_eq_some h hless).mp hfadedIn
    omega
  · have hnone : d.alternate loopCrossfadeFrames (d.turnPosition position) = none :=
      if_neg fun hfade => hfade.1 (if_neg hlooped)
    rw [hnone] at hfadedIn
    exact absurd hfadedIn (Option.not_mem_none _)

/-- **The seam of a loop.** A voice finds no break exactly if it is not heard beyond the loop end. -/
lemma seamless_iff (h : valid d = true) (hfade : d.crossfade loopCrossfadeFrames ≠ 0) (turns : ℕ) :
    d.Seamless loopCrossfadeFrames turns ↔ turns ≤ d.loopEnd.toNat := by
  have hlooped : d.looped = true := by
    by_contra hnot
    exact hfade (if_neg hnot)
  have hhalf := @crossfade_le d loopCrossfadeFrames h hlooped
  have hpositive : 0 < (d.crossfade loopCrossfadeFrames).toNat :=
    Nat.pos_of_ne_zero fun hzero => hfade (UInt32.toNat_inj.mp hzero)
  constructor
  · intro hseamless
    by_contra hbeyond
    have hlast : (d.readAt (d.loopEnd.toNat - 1)).toNat = d.loopEnd.toNat - 1 :=
      readAt_of_lt h hlooped (by omega)
    obtain ⟨fadedIn, hfadedIn, hnext⟩ := hseamless (d.loopEnd.toNat - 1) (by omega) (by omega)
    obtain ⟨-, -, hsum⟩ := (alternate_eq_some h (by omega)).mp hfadedIn
    rw [readAt_succ_of_last h hlooped (by omega)] at hnext
    omega
  · intro hwithin turn hturn hlast
    rw [readAt_of_lt h hlooped (by omega)] at hlast
    omega

end SamplerSampleDescriptor

/-! ## Voices in a run -/

namespace SamplerEngine

variable {samples : List SamplerSampleDescriptor}

/-- A voice that is active is where its number of turns says, before the end of a sample that is not looped or
at it. -/
def OnCourse (samples : List SamplerSampleDescriptor) (v : SamplerVoice S) : Prop :=
  v.active = true → ∃ d ∈ samples, findSample samples v.sampleId = some d ∧ ∃ turns,
    v.age = UInt32.ofNat turns ∧ v.position = d.positionAfter turns ∧
      (d.looped = true ∨ turns ≤ d.limit.toNat)

lemma OnCourse.of_same {v w : SamplerVoice S} (h : OnCourse samples v)
    (hactive : w.active = v.active) (hsample : w.sampleId = v.sampleId) (hage : w.age = v.age)
    (hposition : w.position = v.position) : OnCourse samples w := by
  unfold OnCourse at h ⊢
  rwa [hactive, hsample, hage, hposition]

variable {v : SamplerVoice S}

lemma onCourse_beginRelease (h : OnCourse samples v) : OnCourse samples v.beginRelease := by
  unfold SamplerVoice.beginRelease
  split
  · exact h.of_same rfl rfl rfl rfl
  · exact h

lemma onCourse_start (c : SamplerCounts) (v : SamplerVoice S) (queued : QueuedCommand S) :
    OnCourse samples (start samples c v queued).2 := by
  intro hactive
  rw [start] at hactive ⊢
  cases hfind : findSample samples queued.command.sampleId with
  | none => simp [hfind] at hactive
  | some d => exact ⟨d, List.mem_of_find?_eq_some hfind, hfind, 0, rfl, rfl, .inr (Nat.zero_le _)⟩

lemma onCourse_handle {c : SamplerCounts} {voices : List (SamplerVoice S)}
    {queued : QueuedCommand S} (h : ∀ v ∈ voices, OnCourse samples v) :
    ∀ w ∈ (handle samples c voices queued).2, OnCourse samples w := by
  intro w hw
  obtain ⟨v, hv, (⟨rfl, -⟩ | rfl) | ⟨c', u, rfl⟩ | ⟨-, rfl⟩⟩ := mem_handle hw
  · exact h w hv
  · exact onCourse_beginRelease (h v hv)
  · exact onCourse_start c' u queued
  · exact (onCourse_beginRelease (h v hv)).of_same rfl rfl rfl rfl

lemma onCourse_advance (c : SamplerCounts) {position : UInt32}
    (h : OnCourse samples { v with position := position + 1, age := v.age + 1 }) :
    OnCourse samples (advance samples c v position).2 := by
  simp only [advance]
  split
  · split
    · split
      · exact onCourse_start _ _ _
      · exact fun hactive => absurd hactive Bool.false_ne_true
    · exact h.of_same rfl rfl rfl rfl
  · exact h

lemma onCourse_renderVoice (hvalid : ∀ d ∈ samples, valid d = true) (c : SamplerCounts)
    (h : OnCourse samples v) : OnCourse samples (renderVoice samples c v).2 := by
  rw [renderVoice]
  by_cases hidle : v.active = false
  · rw [if_pos hidle]
    exact h
  rw [if_neg hidle]
  obtain ⟨d, hd, hfind, turns, hage, hposition, hturns⟩ := h (Bool.eq_true_of_not_eq_false hidle)
  simp only [hfind]
  -- what the voice reads is the frame of its turn, whether it wraps or not
  have hgoes : ∀ position, position = d.turnPosition v.position →
      (d.looped = true ∨ turns + 1 ≤ d.limit.toNat) →
      OnCourse samples (advance samples c v position).2 := by
    rintro position rfl hmore
    refine onCourse_advance c fun _ => ⟨d, hd, hfind, turns + 1, ?_, ?_, hmore⟩
    · rw [hage, UInt32.ofNat_add]
      rfl
    · rw [SamplerSampleDescriptor.positionAfter, ← hposition]
  by_cases hend : (if d.looped = true then d.loopEnd else d.frames) ≤ v.position
  · rw [if_pos hend]
    by_cases hlooped : d.looped = true
    · rw [if_pos hlooped]
      refine hgoes _ ?_ (.inl hlooped)
      rw [if_pos hlooped] at hend ⊢
      rw [SamplerSampleDescriptor.turnPosition, if_pos ⟨hlooped, hend⟩]
    · rw [if_neg hlooped]
      exact fun hactive => absurd hactive Bool.false_ne_true
  · rw [if_neg hend]
    have hless : v.position.toNat < d.limit.toNat := by
      by_contra hnot
      exact hend (UInt32.le_iff_toNat_le.mpr (not_lt.mp hnot))
    refine hgoes _ (SamplerSampleDescriptor.turnPosition_of_lt hless).symm (hturns.imp_right ?_)
    intro hwithin
    have hexact := (SamplerSampleDescriptor.positionAfter_le (hvalid d hd) turns hturns).2 hwithin
    rw [← hposition] at hexact
    omega

lemma onCourse_renderFrame (hvalid : ∀ d ∈ samples, valid d = true) {c : SamplerCounts}
    {voices : List (SamplerVoice S)} (h : ∀ v ∈ voices, OnCourse samples v) :
    ∀ w ∈ (renderFrame samples c voices).2, OnCourse samples w := by
  intro w hw
  obtain ⟨v, hv, c', rfl⟩ := mem_renderFrame hw
  exact onCourse_renderVoice hvalid c' (h v hv)

lemma findSample_registerSample {sampleCapacity : ℕ} {descriptor d : SamplerSampleDescriptor}
    {id : UInt64} (h : findSample samples id = some d) :
    findSample (registerSample sampleCapacity samples descriptor).1 id = some d := by
  unfold registerSample
  split_ifs
  · exact h
  · exact h
  · rw [findSample] at h ⊢
    rw [List.find?_append, h]
    rfl
  · exact h

lemma mem_registerSample {sampleCapacity : ℕ} {descriptor d : SamplerSampleDescriptor}
    (h : d ∈ (registerSample sampleCapacity samples descriptor).1) :
    d ∈ samples ∨ valid d = true := by
  unfold registerSample at h
  split_ifs at h with hinvalid
  · exact .inl h
  · exact .inl h
  · rcases List.mem_append.mp h with hold | hnew
    · exact .inl hold
    · rw [List.mem_singleton.mp hnew]
      exact .inr (Bool.eq_true_of_not_eq_false hinvalid)
  · exact .inl h

end SamplerEngine

namespace SamplerRun

open SamplerEngine

variable {commandCapacity sampleCapacity voiceCapacity : ℕ} {r after : SamplerRun S commandCapacity}

/-- What a run keeps: the samples are valid, and the voices are where they have to be. -/
structure InCourse (r : SamplerRun S commandCapacity) : Prop where
  valid : ∀ d ∈ r.samples, SamplerEngine.valid d = true
  voices : ∀ v ∈ r.voices, OnCourse r.samples v

lemma inCourse_initial : InCourse (initial voiceCapacity : SamplerRun S commandCapacity) where
  valid := fun _ h => absurd h List.not_mem_nil
  voices := by
    intro v hv
    rw [List.eq_of_mem_replicate hv]
    exact fun hactive => absurd hactive Bool.false_ne_true

lemma InCourse.of_step (h : InCourse r) {action : SamplerAction S}
    (hstep : step sampleCapacity r action = some after) : InCourse after := by
  cases action with
  | register descriptor =>
    cases hstep
    refine ⟨fun d hd => (mem_registerSample hd).elim (h.valid d) id, fun v hv hactive => ?_⟩
    obtain ⟨d, -, hfind, hturns⟩ := h.voices v hv hactive
    have hkept := @findSample_registerSample _ sampleCapacity descriptor _ _ hfind
    exact ⟨d, List.mem_of_find?_eq_some hkept, hkept, hturns⟩
  | submit command =>
    cases hstep
    obtain ⟨hsamples, hvoices, -⟩ := submit_kept r command
    refine ⟨?_, ?_⟩
    · rw [hsamples]
      exact h.valid
    · rw [hsamples, hvoices]
      exact h.voices
  | render frames =>
    simp only [step] at hstep
    split at hstep
    · cases hstep
      exact ⟨h.valid, h.voices⟩
    · cases hstep
  | drain =>
    simp only [step] at hstep
    split at hstep
    · split at hstep
      · cases hstep
        exact ⟨h.valid, h.voices⟩
      · cases hstep
        exact ⟨h.valid, onCourse_handle h.voices⟩
    · cases hstep
  | frame =>
    simp only [step] at hstep
    split at hstep
    · split at hstep <;> cases hstep <;> exact ⟨h.valid, onCourse_renderFrame h.valid h.voices⟩
    · cases hstep

lemma inCourse_of_reaches {actions : List (SamplerAction S)}
    (h : Reaches (step sampleCapacity) Always (initial voiceCapacity) actions r) : InCourse r :=
  h.invariant inCourse_initial fun _ _ _ hr _ hstep => hr.of_step hstep

/-- **A loop is seamless as long as its end is not reached.** In every run, a voice that is active has had some
number of turns and is where they have brought it; the frame it reads, if it reads one, and the frame that is
faded in to it belong to the sample. With a crossfade, the history of the voice has no break at the seam exactly
if it ends with the loop end. -/
theorem loop_is_seamless_iff {actions : List (SamplerAction S)}
    (h : Reaches (step sampleCapacity) Always (initial voiceCapacity) actions r) :
    ∀ v ∈ r.voices, v.active = true → ∃ d, findSample r.samples v.sampleId = some d ∧
      (∃ turns, v.age = UInt32.ofNat turns ∧ v.position = d.positionAfter turns) ∧
      ∀ loopCrossfadeFrames : UInt16, (d.looped = true ∨ v.position < d.frames →
          d.turnPosition v.position < d.frames ∧
            ∀ fadedIn ∈ d.alternate loopCrossfadeFrames (d.turnPosition v.position),
              fadedIn < d.frames) ∧
        (d.crossfade loopCrossfadeFrames ≠ 0 → ∀ turns,
          d.Seamless loopCrossfadeFrames turns ↔ turns ≤ d.loopEnd.toNat) := by
  intro v hv hactive
  have hcourse := inCourse_of_reaches h
  obtain ⟨d, hd, hfind, turns, hage, hposition, hturns⟩ := hcourse.voices v hv hactive
  have hvalid := hcourse.valid d hd
  refine ⟨d, hfind, ⟨turns, hage, hposition⟩, fun loopCrossfadeFrames => ⟨fun hreads => ?_,
    fun hfade => SamplerSampleDescriptor.seamless_iff hvalid hfade⟩⟩
  have hle := (SamplerSampleDescriptor.positionAfter_le hvalid turns hturns).1
  rw [← hposition] at hle
  have hbounds := @SamplerSampleDescriptor.reads_in_bounds _ _ loopCrossfadeFrames hvalid hle (by
      by_cases hlooped : d.looped = true
      · exact .inl hlooped
      · refine .inr fun hlimit => ?_
        have hless := hreads.resolve_left hlooped
        rw [hlimit, SamplerSampleDescriptor.limit, if_neg hlooped] at hless
        exact UInt32.lt_irrefl _ hless)
  exact ⟨UInt32.lt_iff_toNat_lt.mpr hbounds.1,
    fun fadedIn hfadedIn => UInt32.lt_iff_toNat_lt.mpr (hbounds.2 fadedIn hfadedIn)⟩

/-- A loop of 100 frames, from frame 20 to frame 80. -/
def exampleLoop : SamplerSampleDescriptor := ⟨1, true, 100, 20, 80, 0, true⟩

theorem loop_is_seamless_iff_example :
    ∃ r : SamplerRun .rationals 9, Reaches (step 2) Always (initial 2)
        (.register exampleLoop :: exampleTrigger 1 :: (exampleBlock 1 ++ exampleBlock 0)) r ∧
      ∃ v ∈ r.voices, v.active = true ∧ findSample r.samples v.sampleId = some exampleLoop ∧
        v.age = 128 ∧ ¬ exampleLoop.Seamless 16 128 ∧ exampleLoop.Seamless 16 80 := by
  have hrun : (run (step 2) (initial 2 : SamplerRun .rationals 9)
      (.register exampleLoop :: exampleTrigger 1 :: (exampleBlock 1 ++ exampleBlock 0))).any
        (fun r => r.voices.any (fun v => v.active && decide (v.age = 128)) = true ∧
          r.voices.all (fun v => findSample r.samples v.sampleId = some exampleLoop ∨
            v.active = false) = true) = true := by
    decide +kernel
  obtain ⟨r, hr, hstate⟩ := (Option.any_eq_true _ _).mp hrun
  obtain ⟨hsome, hall⟩ := of_decide_eq_true hstate
  obtain ⟨v, hv, hactive⟩ := List.any_eq_true.mp hsome
  rw [Bool.and_eq_true, decide_eq_true_eq] at hactive
  have hfind : findSample r.samples v.sampleId = some exampleLoop := by
    refine (of_decide_eq_true (List.all_eq_true.mp hall v hv)).resolve_right fun hnot => ?_
    exact absurd (hactive.1.symm.trans hnot) Bool.noConfusion
  obtain ⟨d, hd, -, hseam⟩ := loop_is_seamless_iff (reaches_always_of_run hr) v hv hactive.1
  obtain rfl : d = exampleLoop := Option.some.inj (hd.symm.trans hfind)
  have hiff := (hseam 16).2 (by decide)
  exact ⟨r, reaches_always_of_run hr, v, hv, hactive.1, hfind, hactive.2,
    fun hseamless => absurd ((hiff 128).mp hseamless) (by decide), (hiff 80).mpr (by decide)⟩

/-- **The head of the loop is played twice.** In turn 79 the voice reads the last frame before the loop end, with
frame 35 faded in to it; in turn 80 it reads frame 20, and the frames from 20 to 35 are heard once more. -/
theorem head_played_twice : exampleLoop.readAt 79 = 79 ∧ exampleLoop.alternate 16 79 = some 35 ∧
      exampleLoop.readAt 80 = 20 ∧ ¬ exampleLoop.Seamless 16 81 := by
  have hlast : exampleLoop.readAt 79 = 79 := by decide +kernel
  have hnext : exampleLoop.readAt 80 = 20 := by decide +kernel
  have hfadedIn : exampleLoop.alternate 16 79 = some 35 := by decide +kernel
  refine ⟨hlast, hfadedIn, hnext, fun hseamless => ?_⟩
  obtain ⟨fadedIn, hsome, hfollows⟩ := hseamless 79 (by decide) (by rw [hlast]; rfl)
  rw [hlast, hfadedIn] at hsome
  cases hsome
  rw [hnext] at hfollows
  exact absurd hfollows (by decide)

end SamplerRun

end StageForge
