import StageForge.Native.StreamingVoices

/-!
# Slots that are free and feeds that are full

A slot is free again when its voice has been stopped or has come to its end, and the feed keeps what
the voice has not played.
-/

namespace StageForge

open TransitionSystem

/-! ## The feed of a voice -/

namespace StreamingVoice

lemma load_spec (generation : ℕ) : ∀ (count : ℕ) {feed : Feed}, feed.Proper →
    (load generation count feed).1.Proper ∧
    (load generation count feed).1.contents.length ≤ feed.contents.length ∧
    (∀ block ∈ (load generation count feed).1.contents, block ∈ feed.contents) ∧
    ∀ block, (load generation count feed).2 = some block →
      block.generation = generation ∧ block ∈ feed.contents
  | 0, feed, h => ⟨h, Nat.le_refl _, fun _ hmem => hmem,
      fun _ hnone => absurd hnone (Option.some_ne_none _).symm⟩
  | count + 1, feed, h => by
    rw [load]
    rcases h.tryPop_cases with ⟨_, hnone⟩ | ⟨first, rest, hcontents, hproper, hpop⟩
    · rw [hnone]
      exact ⟨h, Nat.le_refl _, fun _ hmem => hmem,
        fun _ hnone => absurd hnone (Option.some_ne_none _).symm⟩
    · rw [hpop, hcontents]
      simp only
      split
      · obtain ⟨hrest, hlength, hmem, hblock⟩ := load_spec generation count hproper
        refine ⟨hrest, ?_, fun block hb => List.mem_cons_of_mem _ (hmem block hb),
          fun block hb => ?_⟩
        · rw [List.length_cons]
          omega
        · exact ⟨(hblock block hb).1, List.mem_cons_of_mem _ (hblock block hb).2⟩
      · rename_i hsame
        refine ⟨hproper, Nat.le_succ _,
          fun block hb => List.mem_cons_of_mem _ hb, fun block hb => ?_⟩
        rw [Option.some.injEq] at hb
        subst hb
        exact ⟨not_not.mp hsame, List.mem_cons_self⟩

def HasOwnBlock (terminal : ℕ → Prop) (voice : StreamingVoice) : Prop :=
  voice.hasBlock = true → voice.block.terminal = true → terminal voice.generation

/-- A frame keeps the generation and takes from the feed only. A voice that it leaves not active was so
before, or has played a last block. -/
lemma renderFrame_spec {terminal : ℕ → Prop} {voice : StreamingVoice} {feed : Feed}
    (hproper : feed.Proper) (hown : HasOwnBlock terminal voice)
    (hblocks : ∀ block ∈ feed.contents, block.terminal = true → terminal block.generation) :
    (voice.renderFrame feed).1.generation = voice.generation ∧
    (voice.renderFrame feed).2.Proper ∧
    (voice.renderFrame feed).2.contents.length ≤ feed.contents.length ∧
    (∀ block ∈ (voice.renderFrame feed).2.contents, block ∈ feed.contents) ∧
    HasOwnBlock terminal (voice.renderFrame feed).1 ∧
    ((voice.renderFrame feed).1.active = false →
      voice.active = false ∨ terminal voice.generation) := by
  have hadvance : ∀ v : StreamingVoice, v.active = true → HasOwnBlock terminal v →
      v.hasBlock = true →
      v.advance.generation = v.generation ∧ HasOwnBlock terminal v.advance ∧
        (v.advance.active = false → terminal v.generation) := by
    intro v hactive hv hhas
    rw [advance]
    split
    · refine ⟨rfl, fun hnone => Bool.noConfusion hnone, fun hend => hv hhas ?_⟩
      simp only [Bool.not_eq_false', Bool.and_eq_true] at hend
      exact hend.1
    · exact ⟨rfl, hv, fun hnot => absurd (hactive.symm.trans hnot) (by decide)⟩
  rw [renderFrame]
  by_cases hidle : voice.active = false
  · rw [if_pos hidle]
    exact ⟨rfl, hproper, Nat.le_refl _, fun _ hmem => hmem, hown, fun _ => .inl hidle⟩
  · have hactive := Bool.eq_true_of_not_eq_false hidle
    rw [if_neg hidle]
    by_cases hhas : voice.hasBlock = true
    · rw [if_pos hhas]
      obtain ⟨hgeneration, hnext, hend⟩ := hadvance voice hactive hown hhas
      exact ⟨hgeneration, hproper, Nat.le_refl _, fun _ hmem => hmem, hnext, fun h => .inr (hend h)⟩
    · rw [if_neg hhas]
      obtain ⟨hrest, hlength, hmem, hblock⟩ := load_spec voice.generation feed.size hproper
      cases hload : load voice.generation feed.size feed with
      | mk after loaded =>
        rw [hload] at hrest hlength hmem hblock
        cases loaded with
        | none =>
          exact ⟨rfl, hrest, hlength, hmem, hown,
            fun hnot => absurd (hactive.symm.trans hnot) (by decide)⟩
        | some block =>
          obtain ⟨hsame, hin⟩ := hblock block rfl
          obtain ⟨hgeneration, hnext, hend⟩ :=
            hadvance { voice with block, offset := 0, hasBlock := true } hactive
              (fun _ hterminal => hsame ▸ hblocks block hin hterminal) rfl
          exact ⟨hgeneration, hrest, hlength, hmem, hnext, fun h => .inr (hend h)⟩

end StreamingVoice

/-! ## What a run has done with a generation -/

namespace StreamingJob

def started (job : StreamingJob) : Bool :=
  job.phase = .launching || job.phase = .feeding || job.phase = .ended

def live (job : StreamingJob) : Bool := match job.phase with
  | .prebuffering _ => true
  | .starting _ => true
  | .launching => !job.stop
  | .feeding => !job.stop
  | .ended => false

/-- How many blocks `start_clip` may still push, of so many. -/
def pushesLeft (job : StreamingJob) (blocks : ℕ) : ℕ :=
  if job.loop = true then blocks else min blocks ((job.frames - job.position + 255) / blockFrames)

end StreamingJob

namespace StreamingRun

def Has (jobs : ℕ → Option StreamingJob) (generation : ℕ) (property : StreamingJob → Bool) : Prop :=
  ∃ job, jobs generation = some job ∧ property job = true

/-- The start of a voice that is not active any more: it was stopped, or its last block was pushed. -/
def HasEnded (jobs : ℕ → Option StreamingJob) (generation : ℕ) : Prop :=
  Has jobs generation StreamingJob.stop ∨ Has jobs generation StreamingJob.terminalSent

/-- No job of a map forgets what has been done. -/
def Advances (jobs jobs' : ℕ → Option StreamingJob) : Prop :=
  ∀ generation job, jobs generation = some job → ∃ job', jobs' generation = some job' ∧
    (job.started = true → job'.started = true) ∧ (job.stop = true → job'.stop = true) ∧
    (job.terminalSent = true → job'.terminalSent = true)

structure EngineKnows (jobs : ℕ → Option StreamingJob) (r : StreamingRun) : Prop where
  commands : r.commands.Proper
  starts : ∀ slot generation loop, .start slot generation loop ∈ r.commands.contents →
    Has jobs generation StreamingJob.started
  stops : ∀ slot generation, .stop slot generation ∈ r.commands.contents →
    Has jobs generation StreamingJob.stop
  feeds : ∀ slot, (r.feeds slot).Proper
  blocks : ∀ slot, ∀ block ∈ (r.feeds slot).contents, block.terminal = true →
    Has jobs block.generation StreamingJob.terminalSent
  voices : ∀ slot, (r.voices slot).generation ≠ 0 →
    Has jobs (r.voices slot).generation StreamingJob.started ∧
      ((r.voices slot).active = false → HasEnded jobs (r.voices slot).generation)
  own : ∀ slot, (r.voices slot).HasOwnBlock fun generation =>
    Has jobs generation StreamingJob.terminalSent
  published : ∀ slot, (r.published slot).1 ≠ 0 →
    Has jobs (r.published slot).1 StreamingJob.started ∧
      ((r.published slot).2 = false → HasEnded jobs (r.published slot).1)

structure Producers (r : StreamingRun) : Prop where
  next : 0 < r.nextGeneration
  key : ∀ generation job, r.jobs generation = some job →
    job.generation = generation ∧ 0 < generation ∧ generation < r.nextGeneration
  held : ∀ generation job, r.jobs generation = some job → job.live = true →
    r.slots job.slot = some generation
  terminal : ∀ generation job, r.jobs generation = some job → job.terminalSent = true →
    job.phase = .starting false ∨ job.phase = .ended

/-- What `start_clip` has still to push fits into the feed. -/
def Fits (r : StreamingRun) : Prop :=
  ∀ generation job blocks, r.jobs generation = some job → job.phase = .prebuffering blocks →
    (r.feeds job.slot).contents.length + job.pushesLeft blocks ≤ 8

structure Usable (r : StreamingRun) : Prop where
  engine : EngineKnows r.jobs r
  producers : Producers r
  fits : Fits r

lemma advances_update {jobs : ℕ → Option StreamingJob} {generation : ℕ} {job : StreamingJob}
    (hold : ∀ before, jobs generation = some before →
      (before.started = true → job.started = true) ∧ (before.stop = true → job.stop = true) ∧
      (before.terminalSent = true → job.terminalSent = true)) :
    Advances jobs (Function.update jobs generation (some job)) := by
  intro other before hbefore
  by_cases hsame : other = generation
  · subst hsame
    exact ⟨job, Function.update_self _ _ _, hold before hbefore⟩
  · exact ⟨before, (Function.update_of_ne hsame _ _).trans hbefore, id, id, id⟩

section

variable {jobs jobs' : ℕ → Option StreamingJob} {generation : ℕ}

lemma Advances.started (h : Advances jobs jobs')
    (hhas : Has jobs generation StreamingJob.started) : Has jobs' generation StreamingJob.started := by
  obtain ⟨job, hjob, hstarted⟩ := hhas
  obtain ⟨job', hjob', hkept, _, _⟩ := h generation job hjob
  exact ⟨job', hjob', hkept hstarted⟩

lemma Advances.stop (h : Advances jobs jobs') (hhas : Has jobs generation StreamingJob.stop) :
    Has jobs' generation StreamingJob.stop := by
  obtain ⟨job, hjob, hstop⟩ := hhas
  obtain ⟨job', hjob', _, hkept, _⟩ := h generation job hjob
  exact ⟨job', hjob', hkept hstop⟩

lemma Advances.terminal (h : Advances jobs jobs')
    (hhas : Has jobs generation StreamingJob.terminalSent) :
    Has jobs' generation StreamingJob.terminalSent := by
  obtain ⟨job, hjob, hterminal⟩ := hhas
  obtain ⟨job', hjob', _, _, hkept⟩ := h generation job hjob
  exact ⟨job', hjob', hkept hterminal⟩

lemma Advances.ended (h : Advances jobs jobs') (hhas : HasEnded jobs generation) :
    HasEnded jobs' generation :=
  hhas.imp h.stop h.terminal

lemma EngineKnows.mono {r : StreamingRun} (h : EngineKnows jobs r) (hjobs : Advances jobs jobs') :
    EngineKnows jobs' r where
  commands := h.commands
  starts slot generation loop hmem := hjobs.started (h.starts slot generation loop hmem)
  stops slot generation hmem := hjobs.stop (h.stops slot generation hmem)
  feeds := h.feeds
  blocks slot block hmem hterminal := hjobs.terminal (h.blocks slot block hmem hterminal)
  voices slot hsome := (h.voices slot hsome).imp hjobs.started fun hended hnot =>
    hjobs.ended (hended hnot)
  own slot hhas hterminal := hjobs.terminal (h.own slot hhas hterminal)
  published slot hsome := (h.published slot hsome).imp hjobs.started fun hended hnot =>
    hjobs.ended (hended hnot)

end

/-! ## The engine's steps -/

variable {r after : StreamingRun}

lemma apply_cases (voices : ℕ → StreamingVoice) (command : StreamingVoiceCommand) (slot : ℕ) :
    command.apply voices slot = voices slot ∨
    (∃ generation loop, command = .start slot generation loop ∧
      command.apply voices slot = .started generation loop) ∨
    ∃ generation, command = .stop slot generation ∧ (voices slot).generation = generation ∧
      command.apply voices slot = { voices slot with active := false, hasBlock := false } := by
  cases command with
  | start target generation loop =>
    by_cases hslot : slot = target
    · subst hslot
      exact .inr (.inl ⟨generation, loop, rfl, Function.update_self _ _ _⟩)
    · exact .inl (Function.update_of_ne hslot _ _)
  | stop target generation =>
    by_cases hslot : slot = target
    · subst hslot
      simp only [StreamingVoiceCommand.apply, Function.update_self, StreamingVoice.stopped]
      split
      · rename_i hown
        exact .inr (.inr ⟨generation, rfl, hown.2, rfl⟩)
      · exact .inl rfl
    · exact .inl (Function.update_of_ne hslot _ _)

variable {jobs : ℕ → Option StreamingJob}

lemma EngineKnows.drain (h : EngineKnows jobs r) (hstep : step r .drain = some after) :
    EngineKnows jobs after ∧ after.jobs = r.jobs ∧ after.slots = r.slots ∧
      after.nextGeneration = r.nextGeneration ∧ after.feeds = r.feeds := by
  simp only [step] at hstep
  split at hstep
  · rcases h.commands.tryPop_cases with ⟨_, hnone⟩ | ⟨command, rest, hcontents, hproper, hpop⟩
    · rw [hnone] at hstep
      cases hstep
      exact ⟨⟨h.commands, h.starts, h.stops, h.feeds, h.blocks, h.voices, h.own, h.published⟩,
        rfl, rfl, rfl, rfl⟩
    · rw [hpop] at hstep
      cases hstep
      refine ⟨⟨hproper, ?_, ?_, h.feeds, h.blocks, ?_, ?_, h.published⟩, rfl, rfl, rfl, rfl⟩
      · intro slot generation loop hmem
        exact h.starts slot generation loop (hcontents ▸ List.mem_cons_of_mem _ hmem)
      · intro slot generation hmem
        exact h.stops slot generation (hcontents ▸ List.mem_cons_of_mem _ hmem)
      · intro slot hsome
        rcases apply_cases r.voices command slot with
          hsame | ⟨generation, loop, rfl, hvoice⟩ | ⟨generation, rfl, hown, hvoice⟩
        · simp only [hsame] at hsome ⊢
          exact h.voices slot hsome
        · simp only [hvoice]
          exact ⟨h.starts slot generation loop (hcontents ▸ List.mem_cons_self),
            fun hnot => Bool.noConfusion hnot⟩
        · simp only [hvoice, hown] at hsome ⊢
          subst hown
          exact ⟨(h.voices slot hsome).1,
            fun _ => .inl (h.stops slot _ (hcontents ▸ List.mem_cons_self))⟩
      · intro slot
        rcases apply_cases r.voices command slot with
          hsame | ⟨generation, loop, rfl, hvoice⟩ | ⟨generation, rfl, hown, hvoice⟩
        · simp only [hsame]
          exact h.own slot
        · simp only [hvoice]
          exact fun hnone => Bool.noConfusion hnone
        · simp only [hvoice]
          exact fun hnone => Bool.noConfusion hnone
  · cases hstep

/-- A frame takes from the feeds only, and what is published at the end of a block is so of the
voices. -/
lemma EngineKnows.frame (h : EngineKnows jobs r) (hstep : step r .frame = some after) :
    EngineKnows jobs after ∧ after.jobs = r.jobs ∧ after.slots = r.slots ∧
      after.nextGeneration = r.nextGeneration ∧
      ∀ slot, (after.feeds slot).contents.length ≤ (r.feeds slot).contents.length := by
  have hframe := fun slot =>
    StreamingVoice.renderFrame_spec (h.feeds slot) (h.own slot) (h.blocks slot)
  have hvoices : ∀ slot, ((r.voices slot).renderFrame (r.feeds slot)).1.generation ≠ 0 →
      Has jobs ((r.voices slot).renderFrame (r.feeds slot)).1.generation StreamingJob.started ∧
        (((r.voices slot).renderFrame (r.feeds slot)).1.active = false →
          HasEnded jobs ((r.voices slot).renderFrame (r.feeds slot)).1.generation) := by
    intro slot hsome
    obtain ⟨hgeneration, _, _, _, _, hend⟩ := hframe slot
    rw [hgeneration] at hsome ⊢
    obtain ⟨hstarted, hended⟩ := h.voices slot hsome
    refine ⟨hstarted, fun hnot => ?_⟩
    rcases hend hnot with hbefore | hterminal
    · exact hended hbefore
    · exact .inr hterminal
  have hown : ∀ slot, ((r.voices slot).renderFrame (r.feeds slot)).1.HasOwnBlock fun generation =>
      Has jobs generation StreamingJob.terminalSent := fun slot => (hframe slot).2.2.2.2.1
  have hblocks : ∀ slot, ∀ block ∈ ((r.voices slot).renderFrame (r.feeds slot)).2.contents,
      block.terminal = true → Has jobs block.generation StreamingJob.terminalSent :=
    fun slot block hmem => h.blocks slot block ((hframe slot).2.2.2.1 block hmem)
  simp only [step] at hstep
  split at hstep
  · split at hstep
    · cases hstep
      exact ⟨⟨h.commands, h.starts, h.stops, fun slot => (hframe slot).2.1, hblocks, hvoices, hown,
        hvoices⟩, rfl, rfl, rfl, fun slot => (hframe slot).2.2.1⟩
    · cases hstep
      exact ⟨⟨h.commands, h.starts, h.stops, fun slot => (hframe slot).2.1, hblocks, hvoices, hown,
        h.published⟩, rfl, rfl, rfl, fun slot => (hframe slot).2.2.1⟩
  · cases hstep

/-! ## The producer's steps -/

lemma Producers.eq_of_slot (h : Producers r) {generation other : ℕ} {job second : StreamingJob}
    (hjob : r.jobs generation = some job) (hlive : job.live = true)
    (hsecond : r.jobs other = some second) (hslive : second.live = true)
    (hslot : job.slot = second.slot) : generation = other := by
  have hheld := h.held generation job hjob hlive
  rw [hslot, h.held other second hsecond hslive, Option.some.injEq] at hheld
  exact hheld.symm

lemma get_update {generation other : ℕ} {job second : StreamingJob}
    (h : Function.update jobs generation (some job) other = some second) :
    (other = generation ∧ second = job) ∨ (other ≠ generation ∧ jobs other = some second) := by
  by_cases hsame : other = generation
  · rw [hsame, Function.update_self, Option.some.injEq] at h
    exact .inl ⟨hsame, h.symm⟩
  · rw [Function.update_of_ne hsame] at h
    exact .inr ⟨hsame, h⟩

variable {generation : ℕ}

lemma Usable.exchange (h : Usable r) {before job : StreamingJob} (feed : Feed)
    (hbefore : r.jobs generation = some before) (hgeneration : job.generation = before.generation)
    (hslot : job.slot = before.slot) (hlive : job.live = true → before.live = true)
    (hstarted : before.started = true → job.started = true)
    (hstop : before.stop = true → job.stop = true)
    (hterminal : before.terminalSent = true → job.terminalSent = true)
    (hphase : job.terminalSent = true → job.phase = .starting false ∨ job.phase = .ended)
    (hproper : feed.Proper)
    (hblocks : ∀ block ∈ feed.contents, block ∈ (r.feeds job.slot).contents ∨
      (block.terminal = true → block.generation = generation ∧ job.terminalSent = true))
    (hfits : ∀ blocks, job.phase = .prebuffering blocks →
      feed.contents.length + job.pushesLeft blocks ≤ 8)
    (halone : before.live = true ∨ feed.contents.length ≤ (r.feeds job.slot).contents.length) :
    Usable { r.setJob job with feeds := Function.update r.feeds job.slot feed } := by
  obtain ⟨hkey, hpositive, hnext⟩ := h.producers.key generation before hbefore
  have hkey : job.generation = generation := hgeneration.trans hkey
  have hself : (r.setJob job).jobs generation = some job := by
    simp only [StreamingRun.setJob, hkey, Function.update_self]
  have hget : ∀ other second, (r.setJob job).jobs other = some second →
      (other = generation ∧ second = job) ∨ (other ≠ generation ∧ r.jobs other = some second) := by
    intro other second hsecond
    simp only [StreamingRun.setJob, hkey] at hsecond
    exact get_update hsecond
  have hadvances : Advances r.jobs (r.setJob job).jobs := by
    simp only [StreamingRun.setJob, hkey]
    refine advances_update fun old hold => ?_
    rw [hbefore, Option.some.injEq] at hold
    subst hold
    exact ⟨hstarted, hstop, hterminal⟩
  have hengine := h.engine.mono hadvances
  refine ⟨⟨hengine.commands, hengine.starts, hengine.stops, ?_, ?_, hengine.voices, hengine.own,
    hengine.published⟩, ⟨h.producers.next, ?_, ?_, ?_⟩, ?_⟩
  · intro slot
    by_cases hsame : slot = job.slot
    · simp only [hsame, Function.update_self]
      exact hproper
    · simp only [Function.update_of_ne hsame]
      exact h.engine.feeds slot
  · intro slot block hmem hlast
    by_cases hsame : slot = job.slot
    · simp only [hsame, Function.update_self] at hmem
      rcases hblocks block hmem with hold | hnew
      · exact hengine.blocks job.slot block hold hlast
      · obtain ⟨hown, hsent⟩ := hnew hlast
        exact ⟨job, hown ▸ hself, hsent⟩
    · simp only [Function.update_of_ne hsame] at hmem
      exact hengine.blocks slot block hmem hlast
  · intro other second hsecond
    rcases hget other second hsecond with ⟨rfl, rfl⟩ | ⟨_, hold⟩
    · exact ⟨hkey, hpositive, hnext⟩
    · exact h.producers.key other second hold
  · intro other second hsecond hslive
    rcases hget other second hsecond with ⟨rfl, rfl⟩ | ⟨_, hold⟩
    · rw [hslot]
      exact h.producers.held other before hbefore (hlive hslive)
    · exact h.producers.held other second hold hslive
  · intro other second hsecond hsent
    rcases hget other second hsecond with ⟨rfl, rfl⟩ | ⟨_, hold⟩
    · exact hphase hsent
    · exact h.producers.terminal other second hold hsent
  · intro other second blocks hsecond hprebuffering
    rcases hget other second hsecond with ⟨rfl, rfl⟩ | ⟨hother, hold⟩
    · simp only [Function.update_self]
      exact hfits blocks hprebuffering
    · have hroom := h.fits other second blocks hold hprebuffering
      by_cases hsame : second.slot = job.slot
      · simp only [hsame, Function.update_self]
        rw [hsame] at hroom
        have hslive : second.live = true := by
          rw [StreamingJob.live, hprebuffering]
        rcases halone with hblive | hless
        · exact absurd (h.producers.eq_of_slot hold hslive hbefore hblive (hsame.trans hslot)) hother
        · omega
      · simp only [Function.update_of_ne hsame]
        exact hroom

lemma Usable.setJob (h : Usable r) {before job : StreamingJob}
    (hbefore : r.jobs generation = some before) (hgeneration : job.generation = before.generation)
    (hslot : job.slot = before.slot) (hlive : job.live = true → before.live = true)
    (hstarted : before.started = true → job.started = true)
    (hstop : before.stop = true → job.stop = true)
    (hterminal : job.terminalSent = before.terminalSent)
    (hphase : job.terminalSent = true → job.phase = .starting false ∨ job.phase = .ended)
    (hfits : ∀ blocks, job.phase = .prebuffering blocks →
      before.phase = .prebuffering blocks ∧ job.pushesLeft blocks = before.pushesLeft blocks) :
    Usable (r.setJob job) := by
  have hset := h.exchange (r.feeds job.slot) hbefore hgeneration hslot hlive hstarted hstop
    (fun hsent => hterminal.trans hsent) hphase (h.engine.feeds job.slot) (fun _ => .inl)
    (fun blocks hblocks => by
      obtain ⟨hsame, hleft⟩ := hfits blocks hblocks
      rw [hslot, hleft]
      exact h.fits generation before blocks hbefore hsame) (.inr (Nat.le_refl _))
  rwa [Function.update_eq_self] at hset

/-- A job that may push is not reclaimed: before its start it cannot have been published, and after it
the voice does not end while there is more to push. -/
lemma Usable.reclaim_held (h : Usable r) {job : StreamingJob}
    (hjob : r.jobs generation = some job) (hlive : job.live = true) :
    r.reclaim.slots job.slot = some generation := by
  have hheld := h.producers.held generation job hjob hlive
  simp only [reclaim, hheld]
  refine if_neg ?_
  rintro ⟨hthread, hpublished⟩
  have hsome : (r.published job.slot).1 ≠ 0 := by
    rw [hpublished]
    exact Nat.ne_of_gt (h.producers.key generation job hjob).2.1
  obtain ⟨⟨started, hstarted, hsent⟩, hended⟩ := h.engine.published job.slot hsome
  have hended := hended (by rw [hpublished])
  rw [hpublished] at hstarted hended
  rw [hjob, Option.some.injEq] at hstarted
  subst hstarted
  have hphase : job.phase = .launching ∨ job.phase = .feeding ∨ job.phase = .ended := by
    simpa only [StreamingJob.started, Bool.or_eq_true, decide_eq_true_eq, or_assoc] using hsent
  have hnotended : job.phase ≠ .ended := by
    intro hend
    rw [StreamingJob.live, hend] at hlive
    exact Bool.noConfusion hlive
  have hunstopped : job.stop = false := by
    rcases hphase with hphase | hphase | hphase
    · rw [StreamingJob.live, hphase, Bool.not_eq_true'] at hlive
      exact hlive
    · rw [StreamingJob.live, hphase, Bool.not_eq_true'] at hlive
      exact hlive
    · exact absurd hphase hnotended
  rcases hended with ⟨stopped, hstopped, hstop⟩ | ⟨sent, hsentjob, hterminal⟩
  · rw [hjob, Option.some.injEq] at hstopped
    subst hstopped
    exact Bool.noConfusion (hunstopped.symm.trans hstop)
  · rw [hjob, Option.some.injEq] at hsentjob
    subst hsentjob
    rcases h.producers.terminal generation job hjob hterminal with hstarting | hend
    · rcases hphase with hphase | hphase | hphase <;> rw [hstarting] at hphase <;>
        exact FeedPhase.noConfusion hphase
    · exact hnotended hend

lemma Usable.reclaim (h : Usable r) : Usable r.reclaim :=
  ⟨⟨h.engine.commands, h.engine.starts, h.engine.stops, h.engine.feeds, h.engine.blocks,
      h.engine.voices, h.engine.own, h.engine.published⟩,
    ⟨h.producers.next, h.producers.key, fun _ _ hjob hlive => h.reclaim_held hjob hlive,
      h.producers.terminal⟩,
    h.fits⟩

lemma Usable.abandon (h : Usable r) {job : StreamingJob}
    (hjob : r.jobs generation = some job) (hlive : job.live = true) :
    Usable (r.abandon job) := by
  have hset : Usable (r.setJob { job with phase := .ended }) := by
    refine h.setJob hjob rfl rfl (fun hend => Bool.noConfusion hend) (fun _ => rfl) id rfl
      (fun _ => .inr rfl) fun blocks hend => FeedPhase.noConfusion hend
  obtain ⟨hkey, _, _⟩ := h.producers.key generation job hjob
  refine ⟨⟨hset.engine.commands, hset.engine.starts, hset.engine.stops, hset.engine.feeds,
    hset.engine.blocks, hset.engine.voices, hset.engine.own, hset.engine.published⟩,
    ⟨hset.producers.next, hset.producers.key, ?_, hset.producers.terminal⟩, hset.fits⟩
  intro other second hsecond hslive
  have hheld := hset.producers.held other second hsecond hslive
  simp only [StreamingRun.abandon]
  by_cases hslot : second.slot = job.slot
  · -- the slot's holder is the job itself, which pushes no more
    have hother : other = generation := by
      have hheldjob := h.producers.held generation job hjob hlive
      rw [hslot] at hheld
      simp only [StreamingRun.setJob] at hheld
      rw [hheldjob, Option.some.injEq] at hheld
      exact hheld.symm
    simp only [StreamingRun.abandon, StreamingRun.setJob, hkey, hother, Function.update_self,
      Option.some.injEq] at hsecond
    subst hsecond
    exact Bool.noConfusion hslive
  · rw [Function.update_of_ne hslot]
    exact hheld

lemma Usable.send (h : Usable r) {command : StreamingVoiceCommand} {commands : CommandQueue}
    (hpush : r.commands.tryPush command = some commands)
    (hstart : ∀ slot generation loop, command = .start slot generation loop →
      Has r.jobs generation StreamingJob.started)
    (hstop : ∀ slot generation, command = .stop slot generation →
      Has r.jobs generation StreamingJob.stop) :
    Usable { r with commands } := by
  obtain ⟨hproper, hcontents⟩ := h.engine.commands.tryPush_eq hpush
  refine ⟨⟨hproper, ?_, ?_, h.engine.feeds, h.engine.blocks, h.engine.voices, h.engine.own,
    h.engine.published⟩,
    ⟨h.producers.next, h.producers.key, h.producers.held, h.producers.terminal⟩, h.fits⟩
  · intro slot generation loop hmem
    rw [hcontents] at hmem
    rcases List.mem_append.mp hmem with hold | hnew
    · exact h.engine.starts slot generation loop hold
    · exact hstart slot generation loop (List.mem_singleton.mp hnew).symm
  · intro slot generation hmem
    rw [hcontents] at hmem
    rcases List.mem_append.mp hmem with hold | hnew
    · exact h.engine.stops slot generation hold
    · exact hstop slot generation (List.mem_singleton.mp hnew).symm

/-- `start_clip` will find room for the first blocks of the clip. -/
def hasRoomFor (r : StreamingRun) : StreamingAction → Bool
  | .allocate frames loop =>
    match r.reclaim.freeSlot with
    | none => true
    | some slot =>
      let blocks := if loop = true then prebufferBlocks
        else min prebufferBlocks ((frames + 255) / blockFrames)
      (r.feeds slot).size + blocks ≤ 8
  | _ => true

lemma Usable.add (h : Usable r) {job : StreamingJob} (hnone : r.slots job.slot = none)
    (hgeneration : job.generation = r.nextGeneration) (hsent : job.terminalSent = false)
    (hfits : ∀ blocks, job.phase = .prebuffering blocks →
      (r.feeds job.slot).contents.length + job.pushesLeft blocks ≤ 8) :
    Usable { r.setJob job with
      slots := Function.update r.slots job.slot (some job.generation)
      nextGeneration := r.nextGeneration + 1 } := by
  have hnew : ∀ before, r.jobs job.generation ≠ some before := by
    intro before hbefore
    have hlt := (h.producers.key _ before hbefore).2.2
    omega
  have hadvances : Advances r.jobs (Function.update r.jobs job.generation (some job)) :=
    advances_update fun before hbefore => absurd hbefore (hnew before)
  have hengine := h.engine.mono hadvances
  refine ⟨⟨hengine.commands, hengine.starts, hengine.stops, hengine.feeds, hengine.blocks,
    hengine.voices, hengine.own, hengine.published⟩, ⟨Nat.succ_pos _, ?_, ?_, ?_⟩, ?_⟩
  · intro other second hsecond
    have hnext := h.producers.next
    rcases get_update hsecond with ⟨rfl, rfl⟩ | ⟨_, hold⟩
    · exact ⟨rfl, by omega, by simp only [hgeneration]; omega⟩
    · obtain ⟨hkey, hpositive, hlt⟩ := h.producers.key other second hold
      exact ⟨hkey, hpositive, Nat.lt_succ_of_lt hlt⟩
  · intro other second hsecond hlive
    rcases get_update hsecond with ⟨rfl, rfl⟩ | ⟨_, hold⟩
    · exact Function.update_self _ _ _
    · have hheld := h.producers.held other second hold hlive
      have hslot : second.slot ≠ job.slot := by
        intro hsame
        rw [hsame, hnone] at hheld
        cases hheld
      exact (Function.update_of_ne hslot _ _).trans hheld
  · intro other second hsecond hterminal
    rcases get_update hsecond with ⟨rfl, rfl⟩ | ⟨_, hold⟩
    · exact absurd (hsent.symm.trans hterminal) Bool.false_ne_true
    · exact h.producers.terminal other second hold hterminal
  · intro other second blocks hsecond hphase
    rcases get_update hsecond with ⟨rfl, rfl⟩ | ⟨_, hold⟩
    · exact hfits blocks hphase
    · exact h.fits other second blocks hold hphase

lemma Usable.allocate (h : Usable r) {frames : ℕ} {loop : Bool}
    (hroom : hasRoomFor r (.allocate frames loop) = true) : Usable (r.allocate frames loop) := by
  have hr := h.reclaim
  rw [StreamingRun.allocate]
  simp only [hasRoomFor] at hroom
  cases hfree : r.reclaim.freeSlot with
  | none => exact hr
  | some slot =>
    rw [hfree] at hroom
    have hnone : r.reclaim.slots slot = none := Option.isNone_iff_eq_none.mp
        (List.find?_some (p := fun slot => (r.reclaim.slots slot).isNone) hfree)
    refine hr.add hnone rfl rfl fun blocks hblocks => ?_
    rw [FeedPhase.prebuffering.injEq] at hblocks
    subst hblocks
    rw [SpscQueue.length_contents]
    exact of_decide_eq_true hroom

lemma pushesLeft_push {job : StreamingJob} {block : StreamingVoiceBlock} {position : ℕ}
    (blocks : ℕ) (hnext : job.nextBlock = some (block, position)) :
    StreamingJob.pushesLeft { job with position } blocks + 1 ≤ job.pushesLeft (blocks + 1) := by
  rw [StreamingJob.nextBlock] at hnext
  split at hnext
  · cases hnext
  · rename_i hmore
    simp only [Option.some.injEq, Prod.mk.injEq] at hnext
    simp only [StreamingJob.pushesLeft]
    by_cases hloop : job.loop = true
    · rw [if_pos hloop, if_pos hloop]
    · have hlt : ¬ job.frames ≤ job.position := fun hle =>
        hmore ⟨hle, Bool.eq_false_of_not_eq_true hloop⟩
      rw [if_neg hlt] at hnext
      rw [if_neg hloop, if_neg hloop, ← hnext.2]
      simp only [blockFrames]
      omega

lemma nextBlock_spec {job : StreamingJob} {block : StreamingVoiceBlock} {position : ℕ}
    (hnext : job.nextBlock = some (block, position)) :
    block.generation = job.generation ∧
      (block.terminal = true → (!block.terminal || job.loop) = false) := by
  rw [StreamingJob.nextBlock] at hnext
  split at hnext
  · cases hnext
  · simp only [Option.some.injEq, Prod.mk.injEq] at hnext
    rw [← hnext.1]
    refine ⟨rfl, fun hterminal => ?_⟩
    simp only [Bool.and_eq_true, Bool.not_eq_true'] at hterminal
    simp only [hterminal.1, hterminal.2, Bool.not_false, Bool.true_and, Bool.not_true, Bool.or_false]

lemma live_after {job : StreamingJob} (hpushing : job.pushing = true) (more : Bool) :
    (StreamingJob.live { job with phase := job.after more } = true → job.live = true) ∧
    (job.started = true → StreamingJob.started { job with phase := job.after more } = true) ∧
    (job.phase ≠ .starting false ∧ job.phase ≠ .ended) ∧
    (more = false → job.after more = .starting false ∨ job.after more = .ended) ∧
    (∀ blocks, job.after more = .prebuffering blocks → job.phase = .prebuffering (blocks + 1) ∧
      more = true) := by
  cases hphase : job.phase with
  | prebuffering blocks =>
    cases blocks with
    | zero => simp [StreamingJob.pushing, hphase] at hpushing
    | succ blocks =>
      simp only [StreamingJob.live, StreamingJob.started, StreamingJob.after, hphase]
      cases more <;> by_cases hlast : blocks = 0 <;> simp [hlast]
  | feeding =>
    simp only [StreamingJob.live, StreamingJob.started, StreamingJob.after, hphase]
    cases more <;> simp
  | starting more => simp [StreamingJob.pushing, hphase] at hpushing
  | launching => simp [StreamingJob.pushing, hphase] at hpushing
  | ended => simp [StreamingJob.pushing, hphase] at hpushing

lemma Usable.give_up (h : Usable r) {job : StreamingJob}
    (hjob : r.jobs generation = some job) (hpushing : job.pushing = true) :
    Usable (r.setJob { job with phase := job.after false }) := by
  obtain ⟨hlive, hstarted, _, hend, hprebuffering⟩ := live_after hpushing false
  refine h.setJob hjob rfl rfl hlive hstarted id rfl (fun _ => hend rfl) fun blocks hblocks => ?_
  exact absurd (hprebuffering blocks hblocks).2 Bool.false_ne_true

lemma push_slot (job : StreamingJob) (feed : Feed) : (job.push feed).1.slot = job.slot := by
  rw [StreamingJob.push]
  split
  · rfl
  · split
    · rfl
    · split <;> rfl

lemma live_of_pushing {job : StreamingJob} (hpushing : job.pushing = true) (hstop : job.stop = false) :
    job.live = true := by
  obtain ⟨_, _, ⟨_, hnotended⟩, _⟩ := live_after hpushing false
  rw [StreamingJob.live]
  split
  · rfl
  · rfl
  · rw [hstop]
    rfl
  · rw [hstop]
    rfl
  · exact absurd ‹_› hnotended

lemma Usable.unsent_of_pushing (h : Usable r) {job : StreamingJob}
    (hjob : r.jobs generation = some job) (hpushing : job.pushing = true) :
    job.terminalSent = false := by
  obtain ⟨_, _, ⟨hnotstarting, hnotended⟩, _⟩ := live_after hpushing false
  refine Bool.eq_false_of_not_eq_true fun hsent => ?_
  rcases h.producers.terminal generation job hjob hsent with hstarting | hended
  · exact hnotstarting hstarting
  · exact hnotended hended

lemma Usable.push (h : Usable r) {job : StreamingJob}
    (hjob : r.jobs generation = some job) (hpushing : job.pushing = true) :
    Usable { r.setJob (job.push (r.feeds job.slot)).1 with
      feeds := Function.update r.feeds job.slot (job.push (r.feeds job.slot)).2 } := by
  have hgiven := h.give_up hjob hpushing
  rw [StreamingJob.push]
  by_cases hstop : job.stop = true
  · rw [if_pos hstop, Function.update_eq_self]
    exact hgiven
  · rw [if_neg hstop]
    cases hnext : job.nextBlock with
    | none =>
      simp only [Function.update_eq_self]
      exact hgiven
    | some next =>
      obtain ⟨block, position⟩ := next
      simp only
      cases hfeed : (r.feeds job.slot).tryPush block with
      | none =>
        -- refused: the job is as it was
        simp only [Function.update_eq_self]
        exact h.setJob hjob rfl rfl id id id rfl (h.producers.terminal generation job hjob)
          fun blocks hblocks => ⟨hblocks, rfl⟩
      | some feed =>
        obtain ⟨hproper, hcontents⟩ := (h.engine.feeds job.slot).tryPush_eq hfeed
        obtain ⟨_, hstarted, _, hend, hprebuffering⟩ :=
          live_after hpushing (!block.terminal || job.loop)
        obtain ⟨hown, hlast⟩ := nextBlock_spec hnext
        obtain ⟨hkey, _, _⟩ := h.producers.key generation job hjob
        have hblive := live_of_pushing hpushing (Bool.eq_false_of_not_eq_true hstop)
        have hunsent := h.unsent_of_pushing hjob hpushing
        refine h.exchange feed hjob rfl rfl (fun _ => hblive) hstarted id ?_ ?_ hproper ?_ ?_
          (.inl hblive)
        · intro hsent
          exact absurd (hunsent.symm.trans hsent) Bool.false_ne_true
        · intro hsent
          simp only [hunsent, Bool.false_or] at hsent
          exact hend (hlast hsent)
        · intro other hmem
          rw [hcontents] at hmem
          rcases List.mem_append.mp hmem with hold | hnew
          · exact .inl hold
          · rw [List.mem_singleton.mp hnew]
            exact .inr fun hterminal => ⟨hown.trans hkey, by simp only [hterminal, Bool.or_true]⟩
        · intro blocks hblocks
          obtain ⟨hbefore, _⟩ := hprebuffering blocks hblocks
          have hroom := h.fits generation job (blocks + 1) hjob hbefore
          have hleft := pushesLeft_push blocks hnext
          rw [hcontents, List.length_append, List.length_singleton]
          simp only [StreamingJob.pushesLeft] at hleft hroom ⊢
          omega

lemma Usable.sendStart (h : Usable r) {job : StreamingJob} {more : Bool}
    (hjob : r.jobs generation = some job) (hphase : job.phase = .starting more) :
    Usable (r.sendStart job more) := by
  rw [StreamingRun.sendStart]
  cases hpush : r.commands.tryPush (.start job.slot job.generation job.loop) with
  | none =>
    refine h.abandon hjob ?_
    rw [StreamingJob.live, hphase]
  | some commands =>
    obtain ⟨hkey, _, _⟩ := h.producers.key generation job hjob
    have hstarted : StreamingJob.started
        { job with phase := if more = true then .launching else .ended } = true := by
      cases more <;> rfl
    have hset : Usable (r.setJob { job with phase := if more = true then .launching else .ended }) := by
      refine h.setJob hjob rfl rfl (fun _ => ?_) (fun _ => hstarted) id rfl (fun hsent => ?_)
        fun blocks hblocks => ?_
      · rw [StreamingJob.live, hphase]
      · rcases h.producers.terminal generation job hjob hsent with hstarting | hend
        · rw [hphase, FeedPhase.starting.injEq] at hstarting
          rw [hstarting]
          exact .inr rfl
        · rw [hphase] at hend
          exact FeedPhase.noConfusion hend
      · cases more <;> exact FeedPhase.noConfusion hblocks
    refine hset.send hpush (fun slot other loop hcommand => ?_)
      fun slot other hcommand => StreamingVoiceCommand.noConfusion hcommand
    rw [StreamingVoiceCommand.start.injEq] at hcommand
    refine ⟨_, ?_, hstarted⟩
    simp only [StreamingRun.setJob, ← hcommand.2.1, Function.update_self]

lemma Usable.of_engine (h : Usable r) (hengine : EngineKnows r.jobs after)
    (hjobs : after.jobs = r.jobs) (hslots : after.slots = r.slots)
    (hnext : after.nextGeneration = r.nextGeneration)
    (hfeeds : ∀ slot, (after.feeds slot).contents.length ≤ (r.feeds slot).contents.length) :
    Usable after := by
  refine ⟨hjobs ▸ hengine, ⟨hnext ▸ h.producers.next, ?_, ?_, ?_⟩, ?_⟩
  · intro generation job hjob
    rw [hjobs] at hjob
    rw [hnext]
    exact h.producers.key generation job hjob
  · intro generation job hjob hlive
    rw [hjobs] at hjob
    rw [hslots]
    exact h.producers.held generation job hjob hlive
  · intro generation job hjob hsent
    rw [hjobs] at hjob
    exact h.producers.terminal generation job hjob hsent
  · intro generation job blocks hjob hphase
    rw [hjobs] at hjob
    have hroom := h.fits generation job blocks hjob hphase
    have hless := hfeeds job.slot
    omega

lemma Usable.of_step (h : Usable r) {action : StreamingAction}
    (hroom : hasRoomFor r action = true) (hstep : step r action = some after) : Usable after := by
  cases action with
  | allocate frames loop =>
    simp only [step] at hstep
    split at hstep
    · cases hstep
    · cases hstep
      exact h.allocate hroom
  | push generation =>
    simp only [step, Option.bind_eq_bind] at hstep
    obtain ⟨job, hjob, hstep⟩ := Option.bind_eq_some_iff.mp hstep
    split at hstep
    · rename_i hpushing
      simp only [Option.some.injEq, push_slot] at hstep
      subst hstep
      exact h.push hjob hpushing
    · cases hstep
  | fail generation =>
    obtain ⟨job, hjob, hstep⟩ := Option.bind_eq_some_iff.mp hstep
    split at hstep
    · rename_i hphase
      cases hstep
      refine h.abandon hjob ?_
      rw [StreamingJob.live, hphase]
    · rename_i hphase
      cases hstep
      exact h.setJob hjob rfl rfl (fun hlive => Bool.noConfusion hlive) (fun _ => rfl) id rfl
        (fun _ => .inr rfl) fun blocks hblocks => FeedPhase.noConfusion hblocks
    · cases hstep
  | sendStart generation =>
    obtain ⟨job, hjob, hstep⟩ := Option.bind_eq_some_iff.mp hstep
    split at hstep
    · rename_i hphase
      cases hstep
      exact h.sendStart hjob hphase
    · cases hstep
  | launch generation =>
    obtain ⟨job, hjob, hstep⟩ := Option.bind_eq_some_iff.mp hstep
    split at hstep
    · rename_i hphase
      cases hstep
      refine h.setJob hjob rfl rfl (fun hlive => ?_) (fun _ => rfl) id rfl (fun hsent => ?_)
        fun blocks hblocks => FeedPhase.noConfusion hblocks
      · rw [StreamingJob.live, hphase]
        exact hlive
      · rcases h.producers.terminal generation job hjob hsent with hstarting | hend
        · rw [hphase] at hstarting
          exact FeedPhase.noConfusion hstarting
        · rw [hphase] at hend
          exact FeedPhase.noConfusion hend
    · cases hstep
  | requestStop slot generation =>
    obtain ⟨job, hjob, hstep⟩ := Option.bind_eq_some_iff.mp hstep
    split at hstep
    · cases hstep
      refine h.setJob hjob rfl rfl (fun hlive => ?_) id (fun _ => rfl) rfl
        (h.producers.terminal generation job hjob) fun blocks hblocks => ⟨hblocks, rfl⟩
      rw [StreamingJob.live] at hlive ⊢
      cases hphase : job.phase <;> rw [hphase] at hlive <;> first
        | rfl
        | exact Bool.noConfusion hlive
    · cases hstep
  | sendStop generation =>
    obtain ⟨job, hjob, hstep⟩ := Option.bind_eq_some_iff.mp hstep
    split at hstep
    · rename_i hstop
      split at hstep
      · cases hstep
        exact h
      · rename_i hpush
        cases hstep
        refine h.send hpush (fun slot other loop hcommand =>
          StreamingVoiceCommand.noConfusion hcommand) fun slot other hcommand => ?_
        rw [StreamingVoiceCommand.stop.injEq] at hcommand
        rw [← hcommand.2, (h.producers.key generation job hjob).1]
        exact ⟨job, hjob, hstop⟩
    · cases hstep
  | reclaim =>
    cases hstep
    exact h.reclaim
  | render frames =>
    simp only [step] at hstep
    split at hstep
    · cases hstep
      exact h.of_engine ⟨h.engine.commands, h.engine.starts, h.engine.stops, h.engine.feeds,
        h.engine.blocks, h.engine.voices, h.engine.own, h.engine.published⟩ rfl rfl rfl
        fun _ => Nat.le_refl _
    · cases hstep
  | drain =>
    obtain ⟨hengine, hjobs, hslots, hnext, hfeeds⟩ := h.engine.drain hstep
    exact h.of_engine hengine hjobs hslots hnext fun _ => by rw [hfeeds]
  | frame =>
    obtain ⟨hengine, hjobs, hslots, hnext, hfeeds⟩ := h.engine.frame hstep
    exact h.of_engine hengine hjobs hslots hnext hfeeds

lemma proper_feeds (slot : ℕ) : (initial.feeds slot).Proper :=
  SpscQueue.proper_empty _ (by decide : 0 < blocksPerVoice)

lemma usable_initial : Usable initial where
  engine :=
    { commands := SpscQueue.proper_empty _ (by decide : 0 < commandCapacity)
      starts := fun _ _ _ hmem => by simp [initial] at hmem
      stops := fun _ _ hmem => by simp [initial] at hmem
      feeds := proper_feeds
      blocks := fun _ _ hmem => by simp [initial] at hmem
      voices := fun _ hsome => absurd rfl hsome
      own := fun _ hhas => Bool.noConfusion hhas
      published := fun _ hsome => absurd rfl hsome }
  producers :=
    { next := Nat.one_pos
      key := fun _ _ hjob => absurd hjob (Option.some_ne_none _).symm
      held := fun _ _ hjob => absurd hjob (Option.some_ne_none _).symm
      terminal := fun _ _ hjob => absurd hjob (Option.some_ne_none _).symm }
  fits := fun _ _ _ hjob => absurd hjob (Option.some_ne_none _).symm

/-- **A free slot can be used.** In runs where every slot that is handed out has room in its feed for
the first blocks of the clip, none of these blocks is refused. -/
theorem free_slot_is_usable {actions : List StreamingAction}
    (h : Reaches step (fun r action => hasRoomFor r action = true) initial actions r) :
    ∀ generation job blocks block position, r.jobs generation = some job →
      job.phase = .prebuffering (blocks + 1) → job.nextBlock = some (block, position) →
      ((r.feeds job.slot).tryPush block).isSome = true := by
  intro generation job blocks block position hjob hphase hnext
  have husable := h.invariant usable_initial fun _ _ _ ht hroom hstep => ht.of_step hroom hstep
  have hroom := husable.fits generation job (blocks + 1) hjob hphase
  have hleft := pushesLeft_push blocks hnext
  have hcapacity : blocksPerVoice = 9 := rfl
  rw [Option.isSome_iff_ne_none, ne_eq,
    (husable.engine.feeds job.slot).tryPush_eq_none, ← SpscQueue.length_contents]
  omega

/-- A looped clip of one frame, up to its feeder. -/
def startedClip : List StreamingAction :=
  [.allocate 1 true, .push 1, .push 1, .push 1, .push 1, .sendStart 1, .launch 1]

theorem free_slot_is_usable_example :
    ∃ r, Reaches step (fun r action => hasRoomFor r action = true) initial (startedClip.take 3) r ∧
      ∃ job block position, r.jobs 1 = some job ∧ job.phase = .prebuffering 2 ∧
        job.nextBlock = some (block, position) ∧
        ((r.feeds job.slot).tryPush block).isSome = true := by
  have hrun : (run (fun r action => if hasRoomFor r action = true then step r action else none)
      initial (startedClip.take 3)).any (fun r => (r.jobs 1).any fun job =>
        job.phase = .prebuffering 2 ∧ job.nextBlock = some (⟨1, 3, 1, false⟩, 1)) = true := by
    decide +kernel
  obtain ⟨r, hr, hstate⟩ := (Option.any_eq_true _ _).mp hrun
  obtain ⟨job, hjob, hnext⟩ := (Option.any_eq_true _ _).mp hstate
  obtain ⟨hphase, hblock⟩ := of_decide_eq_true hnext
  exact ⟨r, reaches_of_run hr, job, _, _, hjob, hphase, hblock,
    free_slot_is_usable (reaches_of_run hr) 1 job 1 _ _ hjob hphase hblock⟩

/-- **A stopped voice blocks its slot.** The feeder fills the feed before the first render call, and the
stop is drained with the start. The slot is free then, the feed has eight blocks of the old generation,
and the first block of the next clip is refused. -/
theorem stopped_voice_blocks_slot : ∃ r, Reaches step Always initial
        (startedClip ++ [.push 1, .push 1, .push 1, .push 1, .requestStop 0 1, .push 1, .sendStop 1,
          .render 1, .drain, .drain, .drain, .frame, .allocate 1 true]) r ∧
      (r.jobs 2).any (fun job => job.slot = 0 ∧ job.phase = .prebuffering prebufferBlocks ∧
        job.nextBlock = some (⟨2, 1, 1, false⟩, 1) ∧
        (r.feeds 0).tryPush ⟨2, 1, 1, false⟩ = none) = true := by
  refine reaches_always_of_any ?_
  decide +kernel

end StreamingRun

end StageForge
