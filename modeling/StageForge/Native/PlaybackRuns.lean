import StageForge.Library.TransitionSystem
import StageForge.Native.PlaybackQueue

/-!
# Playback under stalls

The producer pushes the blocks of a plan one after the other and never skips one; the callback
advances its playhead at every call and looks at the oldest block only. As long as the queue does
not run dry this comes to the same.
-/

namespace StageForge

open TransitionSystem

/-- What is to be played, in blocks of how many frames. -/
structure PlaybackPlan where
  start : UInt64
  finish : UInt64
  loop : Bool
  frames : UInt32

structure PlaybackRun (α : Type) where
  queue : DawPlaybackQueue α
  /-- The generation the producer pushes for. -/
  generation : UInt64
  position : ℕ

inductive PlaybackAction (α : Type)
  | push (samples : α)
  | render
  | start
  | stop

namespace PlaybackPlan

variable (plan : PlaybackPlan)

/-- Where `_run` goes on: at its position, or at the start of a loop, or nowhere. -/
def due (position : ℕ) : Option ℕ := if position < plan.finish.toNat then some position
  else if plan.loop then some plan.start.toNat
  else none

def next (position : ℕ) : Option ℕ := if plan.loop then
    ArrangementProducer.advanceLoop position plan.frames.toNat plan.start.toNat plan.finish.toNat
  else some (position + plan.frames.toNat)

def nextFrame (frame : UInt64) : UInt64 := if plan.loop then
    plan.start + (frame - plan.start + plan.frames.toUInt64) % (plan.finish - plan.start)
  else frame + plan.frames.toUInt64

end PlaybackPlan

namespace PlaybackRun

variable {α : Type}

/-- `_start_snapshot`, on a queue in any state. -/
def begin (plan : PlaybackPlan) (q : DawPlaybackQueue α) : Option (PlaybackRun α) :=
  let q := q.stop.clearLoop.seek plan.start
  if plan.loop then
    match q.setLoop plan.start plan.finish with
    | (q, true) => some ⟨q, q.generation, plan.start.toNat⟩
    | (_, false) => none
  else some ⟨q, q.generation, plan.start.toNat⟩

/-- The block `_run` pushes from a position. -/
def blockAt (plan : PlaybackPlan) (r : PlaybackRun α) (position : ℕ) (samples : α) :
    PlaybackBlock α :=
  ⟨r.generation, UInt64.ofNat position, plan.frames, samples⟩

/-- One call of the queue. The producer pushes when there is room, until it has come to the end. -/
def step (blockFrames capacity : ℕ) (plan : PlaybackPlan) (r : PlaybackRun α) :
    PlaybackAction α → Option (PlaybackRun α)
  | .push samples =>
    match plan.due r.position with
    | none => none
    | some position =>
      match r.queue.push blockFrames capacity (r.blockAt plan position samples) with
      | (queue, true) => (plan.next position).map fun position => { r with queue, position }
      | (_, false) => none
  | .render => some { r with queue := (r.queue.render plan.frames).1 }
  | .start => some { r with queue := r.queue.start }
  | .stop => some { r with queue := r.queue.stop }

/-- A block for an empty queue is the one at the playhead. -/
def keepsPace (plan : PlaybackPlan) (r : PlaybackRun α) : PlaybackAction α → Bool
  | .push _ => !r.queue.blocks.isEmpty || (plan.due r.position).all fun position =>
        decide (UInt64.ofNat position = r.queue.playheadFrame)
  | _ => true

/-! ## The queue and the playhead -/

/-- The blocks start one where the other ends, from `frame` to `last`. -/
def Follows (plan : PlaybackPlan) : UInt64 → List (PlaybackBlock α) → UInt64 → Prop
  | frame, [], last => frame = last
  | frame, block :: rest, last =>
    block.startFrame = frame ∧ Follows plan (plan.nextFrame frame) rest last

lemma Follows.append {plan : PlaybackPlan} {frame last : UInt64} {blocks : List (PlaybackBlock α)}
    (h : Follows plan frame blocks last) {block : PlaybackBlock α} (hblock : block.startFrame = last) :
    Follows plan frame (blocks ++ [block]) (plan.nextFrame last) := by
  induction blocks generalizing frame with
  | nil =>
    obtain rfl : frame = last := h
    exact ⟨hblock, rfl⟩
  | cons first rest ih => exact ⟨h.1, ih h.2⟩

/-- The loop is one that 64-bit sums can go round. -/
def Fits (plan : PlaybackPlan) : Prop :=
  plan.loop = true → plan.finish.toNat - plan.start.toNat + plan.frames.toNat ≤ 2 ^ 64

/-- What holds of producer and queue while the pushes keep pace. -/
structure InStep (plan : PlaybackPlan) (r : PlaybackRun α) : Prop where
  generation : r.queue.generation = r.generation
  looping : r.queue.looping = plan.loop
  loop : plan.loop = true → r.queue.InLoop ∧ r.queue.loopBegin = plan.start ∧
    r.queue.loopEnd = plan.finish
  position : plan.loop = true → plan.start.toNat ≤ r.position ∧ r.position < plan.finish.toNat
  blocks : ∀ block ∈ r.queue.blocks, block.generation = r.generation ∧ block.frames = plan.frames ∧
    plan.frames ≠ 0
  follows : r.queue.blocks = [] ∨
    Follows plan r.queue.playheadFrame r.queue.blocks (UInt64.ofNat r.position)

variable {blockFrames capacity : ℕ} {plan : PlaybackPlan} {r : PlaybackRun α}

lemma playhead_advance {q : DawPlaybackQueue α} (hlooping : q.looping = plan.loop)
    (hloop : plan.loop = true → q.InLoop ∧ q.loopBegin = plan.start ∧ q.loopEnd = plan.finish) :
    (q.advance plan.frames).playheadFrame = plan.nextFrame q.playheadFrame := by
  cases hplan : plan.loop with
  | true =>
    obtain ⟨hinside, hbegin, hend⟩ := hloop hplan
    rw [DawPlaybackQueue.advance_of_inLoop hinside, PlaybackPlan.nextFrame, if_pos hplan, hbegin,
      hend]
  | false =>
    rw [hplan] at hlooping
    simp [DawPlaybackQueue.advance, PlaybackPlan.nextFrame, hlooping, hplan]

/-- **The producer's next position is the playhead's next frame.** -/
lemma ofNat_next (hfits : Fits plan) {position after : ℕ}
    (hinside : plan.loop = true → plan.start.toNat ≤ position ∧ position < plan.finish.toNat)
    (hnext : plan.next position = some after) :
    UInt64.ofNat after = plan.nextFrame (UInt64.ofNat position) ∧
      (plan.loop = true → plan.start.toNat ≤ after ∧ after < plan.finish.toNat) := by
  cases hplan : plan.loop with
  | false =>
    rw [PlaybackPlan.next, if_neg (by rw [hplan]; simp), Option.some.injEq] at hnext
    refine ⟨?_, fun hloop => absurd hloop (by simp)⟩
    rw [← hnext, PlaybackPlan.nextFrame, if_neg (by rw [hplan]; simp), UInt64.ofNat_add]
    congr 1
    rw [← UInt32.toNat_toUInt64, UInt64.ofNat_toNat]
  | true =>
    obtain ⟨hstart, hfinish⟩ := hinside hplan
    have hspan := Nat.lt_of_le_of_lt hstart hfinish
    have hlast := plan.finish.toNat_lt
    have hsum := hfits hplan
    have hposition : (UInt64.ofNat position).toNat = position :=
      UInt64.toNat_ofNat_of_lt' (Nat.lt_trans hfinish hlast)
    -- the playhead of a queue in this loop, at this position
    let q : DawPlaybackQueue Unit :=
      { DawPlaybackQueue.empty with
        looping := true
        loopBegin := plan.start
        loopEnd := plan.finish
        playheadFrame := UInt64.ofNat position }
    have hq : q.InLoop :=
      { looping := rfl
        begin_le := UInt64.le_iff_toNat_le.mpr (by rw [hposition]; exact hstart)
        lt_end := UInt64.lt_iff_toNat_lt.mpr (by rw [hposition]; exact hfinish) }
    have hfit : q.playheadFrame.toNat - q.loopBegin.toNat + plan.frames.toNat < 2 ^ 64 := by
      simp only [q, hposition]
      omega
    have hplayhead := DawPlaybackQueue.playhead_advance hq hfit
    have hframe : (q.advance plan.frames).playheadFrame = plan.nextFrame q.playheadFrame :=
      playhead_advance hplan.symm fun _ => ⟨hq, rfl, rfl⟩
    rw [PlaybackPlan.next, if_pos hplan, ArrangementProducer.advanceLoop_eq hspan,
      Option.some.injEq] at hnext
    have hafter : ((q.advance plan.frames).playheadFrame).toNat = after := by
      rw [hplayhead, ← hnext]
      simp only [q, hposition]
    refine ⟨?_, fun _ => ?_⟩
    · rw [← hafter, UInt64.ofNat_toNat, hframe]
    · rw [← hnext]
      exact ⟨ArrangementProducer.le_cursor _ _, ArrangementProducer.cursor_lt hspan _ _⟩

lemma inLoop_advance (hfits : Fits plan) {q : DawPlaybackQueue α} (hplan : plan.loop = true)
    (h : q.InLoop ∧ q.loopBegin = plan.start ∧ q.loopEnd = plan.finish) :
    (q.advance plan.frames).InLoop ∧ (q.advance plan.frames).loopBegin = plan.start ∧
      (q.advance plan.frames).loopEnd = plan.finish := by
  obtain ⟨hinside, hbegin, hend⟩ := h
  obtain ⟨hbegin', hend'⟩ := DawPlaybackQueue.advance_loop_bounds (q := q) plan.frames
  refine ⟨DawPlaybackQueue.inLoop_advance hinside ?_, by rw [hbegin', hbegin], by rw [hend', hend]⟩
  have hstart := UInt64.le_iff_toNat_le.mp hinside.begin_le
  have hfinish := UInt64.lt_iff_toNat_lt.mp hinside.lt_end
  have hsum := hfits hplan
  rw [hbegin] at hstart ⊢
  rw [hend] at hfinish
  omega

lemma advance_kept (q : DawPlaybackQueue α) (frames : UInt32) :
    (q.advance frames).blocks = q.blocks ∧ (q.advance frames).generation = q.generation ∧
      (q.advance frames).looping = q.looping := by
  unfold DawPlaybackQueue.advance
  simp only
  split
  · split
    · exact ⟨rfl, rfl, rfl⟩
    · split <;> exact ⟨rfl, rfl, rfl⟩
  · exact ⟨rfl, rfl, rfl⟩

/-- **What a running queue in step renders**: its oldest block. -/
lemma InStep.render_cons (h : InStep plan r) (hrunning : r.queue.running = true)
    {block : PlaybackBlock α} {rest : List (PlaybackBlock α)} (hblocks : r.queue.blocks = block :: rest) :
    block.startFrame = r.queue.playheadFrame ∧
    r.queue.render plan.frames = ({ r.queue with
        blocks := rest
        renderedBlocks := r.queue.renderedBlocks + 1
        renderedFrames := r.queue.renderedFrames + plan.frames.toUInt64 }.advance plan.frames,
        some block) := by
  obtain ⟨hgeneration, hframes, hnonzero⟩ := h.blocks block (by rw [hblocks]; simp)
  have hstart : block.startFrame = r.queue.playheadFrame := by
    rcases h.follows with hempty | hfollows
    · rw [hblocks] at hempty
      exact absurd hempty (List.cons_ne_nil _ _)
    · rw [hblocks] at hfollows
      exact hfollows.1
  refine ⟨hstart, ?_⟩
  rw [DawPlaybackQueue.render, if_neg hnonzero, if_neg (by rw [hrunning]; simp)]
  simp [hblocks, hgeneration, h.generation, hstart, hframes]

namespace InStep

lemma begin {q : DawPlaybackQueue α} (h : begin plan q = some r) : InStep plan r := by
  unfold PlaybackRun.begin at h
  cases hplan : plan.loop with
  | false =>
    simp only [hplan, Bool.false_eq_true, if_false, Option.some.injEq] at h
    subst h
    exact
      { generation := rfl
        looping := hplan.symm
        loop := fun hloop => absurd hloop (by rw [hplan]; simp)
        position := fun hloop => absurd hloop (by rw [hplan]; simp)
        blocks := fun block hblock => absurd hblock List.not_mem_nil
        follows := .inl rfl }
  | true =>
    simp only [hplan, if_true, DawPlaybackQueue.setLoop] at h
    split at h
    · rename_i queue hset
      split at hset
      · exact absurd (congrArg Prod.snd hset) (by simp)
      · rename_i hspan
        obtain rfl := (Prod.mk.inj hset).1
        cases h
        have hlt := UInt64.not_le.mp hspan
        exact
          { generation := rfl
            looping := hplan.symm
            loop := fun _ => ⟨⟨rfl, UInt64.le_refl _, hlt⟩, rfl, rfl⟩
            position := fun _ => ⟨le_rfl, UInt64.lt_iff_toNat_lt.mp hlt⟩
            blocks := fun block hblock => absurd hblock List.not_mem_nil
            follows := .inl rfl }
    · cases h

lemma advanced (hfits : Fits plan) (h : InStep plan r) {q : DawPlaybackQueue α}
    (hgeneration : q.generation = r.queue.generation) (hlooping : q.looping = r.queue.looping)
    (hbegin : q.loopBegin = r.queue.loopBegin) (hend : q.loopEnd = r.queue.loopEnd)
    (hplayhead : q.playheadFrame = r.queue.playheadFrame)
    (hblocks : ∀ block ∈ q.blocks, block ∈ r.queue.blocks)
    (hfollows : q.blocks = [] ∨
      Follows plan (plan.nextFrame r.queue.playheadFrame) q.blocks (UInt64.ofNat r.position)) :
    InStep plan { r with queue := q.advance plan.frames } := by
  obtain ⟨hkept, hsame, hloops⟩ := advance_kept q plan.frames
  have hloop : plan.loop = true → q.InLoop ∧ q.loopBegin = plan.start ∧ q.loopEnd = plan.finish := by
    intro hplan
    obtain ⟨hinside, hstart, hfinish⟩ := h.loop hplan
    refine ⟨⟨by rw [hlooping, hinside.looping], ?_, ?_⟩, hbegin.trans hstart, hend.trans hfinish⟩
    · rw [hbegin, hplayhead]
      exact hinside.begin_le
    · rw [hend, hplayhead]
      exact hinside.lt_end
  refine
    { generation := by rw [hsame, hgeneration, h.generation]
      looping := by rw [hloops, hlooping, h.looping]
      loop := fun hplan => inLoop_advance hfits hplan (hloop hplan)
      position := h.position
      blocks := fun block hblock => h.blocks block (hblocks block (by rwa [hkept] at hblock))
      follows := ?_ }
  simp only [hkept]
  rw [playhead_advance (hlooping.trans h.looping) hloop, hplayhead]
  exact hfollows

lemma render (hfits : Fits plan) (h : InStep plan r) :
    InStep plan { r with queue := (r.queue.render plan.frames).1 } := by
  by_cases hrunning : r.queue.running = true
  · cases hblocks : r.queue.blocks with
    | nil =>
      rw [DawPlaybackQueue.render]
      split
      · exact h
      · rw [if_neg (by rw [hrunning]; simp)]
        simp only [hblocks]
        refine h.advanced hfits rfl rfl rfl rfl rfl ?_ (.inl rfl)
        exact fun block hblock => absurd hblock List.not_mem_nil
    | cons block rest =>
      have hrender := h.render_cons hrunning hblocks
      rw [hrender.2]
      refine h.advanced hfits rfl rfl rfl rfl rfl ?_ ?_
      · intro other hother
        rw [hblocks]
        exact List.mem_cons_of_mem _ hother
      · refine .inr ?_
        rcases h.follows with hempty | hfollows
        · rw [hblocks] at hempty
          exact absurd hempty (List.cons_ne_nil _ _)
        · rw [hblocks] at hfollows
          exact hfollows.2
  · have hrender : (r.queue.render plan.frames).1 = r.queue := by
      rw [DawPlaybackQueue.render]
      split
      · rfl
      · rw [if_pos (by simpa using hrunning)]
    rw [hrender]
    exact h

lemma push (hfits : Fits plan) (h : InStep plan r) {samples : α} {after : PlaybackRun α}
    (hpace : keepsPace plan r (.push samples) = true)
    (hstep : step blockFrames capacity plan r (.push samples) = some after) :
    InStep plan after := by
  simp only [step] at hstep
  cases hdue : plan.due r.position with
  | none => rw [hdue] at hstep; exact absurd hstep (by simp)
  | some position =>
    -- in a loop the position never comes to the end, so the producer goes on at its position
    have hsame : position = r.position := by
      rw [PlaybackPlan.due] at hdue
      split at hdue
      · exact (Option.some.inj hdue).symm
      · rename_i hfinish
        split at hdue
        · rename_i hplan
          exact absurd (h.position hplan).2 hfinish
        · cases hdue
    subst hsame
    simp only [hdue, DawPlaybackQueue.push] at hstep
    split at hstep
    · rename_i queue hpushed
      split at hpushed
      · exact absurd (congrArg Prod.snd hpushed) (by simp)
      · rename_i hvalid
        split at hpushed
        · exact absurd (congrArg Prod.snd hpushed) (by simp)
        · obtain rfl := (Prod.mk.inj hpushed).1
          simp only [not_or, not_not] at hvalid
          obtain ⟨position, hnext, rfl⟩ := Option.map_eq_some_iff.mp hstep
          obtain ⟨hframe, hinside⟩ := ofNat_next hfits h.position hnext
          refine
            { generation := h.generation
              looping := h.looping
              loop := fun hplan => ⟨{ (h.loop hplan).1 with }, (h.loop hplan).2⟩
              position := hinside
              blocks := ?_
              follows := .inr ?_ }
          · intro block hblock
            rcases List.mem_append.mp hblock with hold | hnew
            · exact h.blocks block hold
            · obtain rfl := List.mem_singleton.mp hnew
              exact ⟨rfl, rfl, hvalid.2.1⟩
          · rw [hframe]
            have hfollows : Follows plan r.queue.playheadFrame r.queue.blocks
                (UInt64.ofNat r.position) := by
              rcases h.follows with hempty | hfollows
              · rw [hempty]
                simp only [keepsPace, hempty, hdue, List.isEmpty_nil, Bool.not_true,
                  Bool.false_or, Option.all_some, decide_eq_true_eq] at hpace
                exact hpace.symm
              · exact hfollows
            exact hfollows.append rfl
    · cases hstep

theorem of_step (hfits : Fits plan) (h : InStep plan r) {action : PlaybackAction α}
    {after : PlaybackRun α} (hpace : keepsPace plan r action = true)
    (hstep : step blockFrames capacity plan r action = some after) : InStep plan after := by
  cases action with
  | push samples => exact h.push hfits hpace hstep
  | render =>
    cases hstep
    exact h.render hfits
  | start =>
    cases hstep
    exact { h with loop := fun hplan => ⟨{ (h.loop hplan).1 with }, (h.loop hplan).2⟩ }
  | stop =>
    cases hstep
    exact { h with loop := fun hplan => ⟨{ (h.loop hplan).1 with }, (h.loop hplan).2⟩ }

end InStep

/-- **A queue that holds the block at the playhead renders it**, in every run whose pushes keep
pace. -/
theorem renders_block_at_playhead (hfits : Fits plan) {q : DawPlaybackQueue α} {first : PlaybackRun α}
    (hbegin : begin plan q = some first) {actions : List (PlaybackAction α)}
    (h : Reaches (step blockFrames capacity plan)
      (fun r action => keepsPace plan r action = true) first actions r)
    (hrunning : r.queue.running = true) {block : PlaybackBlock α} (hblock : block ∈ r.queue.blocks)
    (hstart : block.startFrame = r.queue.playheadFrame) :
    ∃ out ∈ r.queue.blocks, out.startFrame = block.startFrame ∧
      (r.queue.render plan.frames).2 = some out := by
  have hr : InStep plan r := h.invariant (InStep.begin hbegin)
    fun _ _ _ hr hpace hstep => hr.of_step hfits hpace hstep
  cases hblocks : r.queue.blocks with
  | nil => rw [hblocks] at hblock; exact absurd hblock List.not_mem_nil
  | cons out rest =>
    obtain ⟨hout, hrender⟩ := hr.render_cons hrunning hblocks
    exact ⟨out, List.mem_cons_self, hout.trans hstart.symm, congrArg Prod.snd hrender⟩

/-- An arrangement of 64 frames from the start, in blocks of four. -/
def examplePlan : PlaybackPlan := ⟨0, 64, false, 4⟩

theorem renders_block_at_playhead_example :
    ∃ first r : PlaybackRun ℕ, begin examplePlan .empty = some first ∧
      Reaches (step 256 32 examplePlan) (fun r action => keepsPace examplePlan r action = true) first
        [.push 10, .push 11, .start, .render] r ∧
      ∃ out ∈ r.queue.blocks, out.startFrame = 4 ∧ (r.queue.render 4).2 = some out := by
  have hrun : ((begin examplePlan (.empty : DawPlaybackQueue ℕ)).bind fun first =>
      run (fun r action => if keepsPace examplePlan r action = true then
        step 256 32 examplePlan r action else none) first
          [.push 10, .push 11, .start, .render]).any (fun r => r.queue.running = true ∧
            r.queue.blocks.map PlaybackBlock.startFrame = [4] ∧ r.queue.playheadFrame = 4) = true := by
    decide +kernel
  obtain ⟨r, hr, hstate⟩ := (Option.any_eq_true _ _).mp hrun
  obtain ⟨first, hfirst, hr⟩ := Option.bind_eq_some_iff.mp hr
  obtain ⟨hrunning, hstarts, hplayhead⟩ := of_decide_eq_true hstate
  obtain ⟨block, hblock, hstart⟩ : ∃ block ∈ r.queue.blocks, block.startFrame = 4 :=
    List.mem_map.mp (by rw [hstarts]; exact List.mem_singleton_self 4)
  obtain ⟨out, hout, hsame, hrender⟩ := renders_block_at_playhead
    (fun hloop => absurd hloop (by decide)) hfirst (reaches_of_run hr) hrunning hblock
    (hstart.trans hplayhead.symm)
  exact ⟨first, r, hfirst, reaches_of_run hr, out, hout, hsame.trans hstart, hrender⟩

/-- **One underrun silences the rest.** The callback comes once too early, and from then on the blocks
are behind the playhead: the queue holds the block that is due, with an older one before it, and
renders silence. -/
theorem underrun_silences : ∃ first r : PlaybackRun ℕ, begin examplePlan .empty = some first ∧
      Reaches (step 256 32 examplePlan) Always first
        [.push 10, .start, .render, .render, .push 11, .push 12] r ∧ r.queue.running = true ∧
      (∃ block ∈ r.queue.blocks, block.startFrame = r.queue.playheadFrame) ∧
      (r.queue.render 4).2 = none := by
  have hrun : ((begin examplePlan (.empty : DawPlaybackQueue ℕ)).bind fun first =>
      run (step 256 32 examplePlan) first
        [.push 10, .start, .render, .render, .push 11, .push 12]).any (fun r =>
          r.queue.running = true ∧ r.queue.blocks.map PlaybackBlock.startFrame = [4, 8] ∧
            r.queue.playheadFrame = 8 ∧ (r.queue.render 4).2.isNone = true) = true := by
    decide +kernel
  obtain ⟨r, hr, hstate⟩ := (Option.any_eq_true _ _).mp hrun
  obtain ⟨first, hfirst, hr⟩ := Option.bind_eq_some_iff.mp hr
  obtain ⟨hrunning, hstarts, hplayhead, hsilent⟩ := of_decide_eq_true hstate
  obtain ⟨block, hblock, hstart⟩ : ∃ block ∈ r.queue.blocks, block.startFrame = 8 :=
    List.mem_map.mp (by rw [hstarts]; simp)
  exact ⟨first, r, hfirst, reaches_always_of_run hr, hrunning,
    ⟨block, hblock, hstart.trans hplayhead.symm⟩, Option.isNone_iff_eq_none.mp hsilent⟩

end PlaybackRun

end StageForge
