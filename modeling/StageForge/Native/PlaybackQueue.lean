import StageForge.Library.RecentRing

/-!
# The playback queue and its producer

`ArrangementProducer` renders an arrangement ahead of time, block after block, and pushes the blocks
into the `DawPlaybackQueue`, from which the audio callback takes them. Both keep a cursor of their
own: the callback a playhead in 64-bit arithmetic, the producer a position.
-/

namespace StageForge

/-! ## The queue -/

/-- `DawPlaybackQueue::Block`. -/
structure PlaybackBlock (α : Type) where
  generation : UInt64
  startFrame : UInt64
  frames : UInt32
  samples : α

structure DawPlaybackQueue (α : Type) where
  blocks : List (PlaybackBlock α)
  generation : UInt64
  playheadFrame : UInt64
  renderedBlocks : UInt64
  renderedFrames : UInt64
  underrunBlocks : UInt64
  discontinuities : UInt64
  seeks : UInt64
  loopWraps : UInt64
  running : Bool
  looping : Bool
  loopBegin : UInt64
  loopEnd : UInt64

namespace DawPlaybackQueue

variable {α : Type}

def empty : DawPlaybackQueue α where
  blocks := []
  generation := 1
  playheadFrame := 0
  renderedBlocks := 0
  renderedFrames := 0
  underrunBlocks := 0
  discontinuities := 0
  seeks := 0
  loopWraps := 0
  running := false
  looping := false
  loopBegin := 0
  loopEnd := 0

variable (blockFrames capacity : ℕ) (q : DawPlaybackQueue α)

def push (block : PlaybackBlock α) : DawPlaybackQueue α × Bool :=
  if block.generation ≠ q.generation ∨ block.frames = 0 ∨ blockFrames < block.frames.toNat then
    (q, false)
  else if capacity ≤ q.blocks.length then (q, false)
  else ({ q with blocks := q.blocks ++ [block] }, true)

def start : DawPlaybackQueue α := { q with running := true }

def stop : DawPlaybackQueue α := { q with running := false }

def seek (frame : UInt64) : DawPlaybackQueue α := { q with
    running := false
    playheadFrame := frame
    blocks := []
    generation := q.generation + 1
    seeks := q.seeks + 1 }

def setLoop (loopBegin loopEnd : UInt64) : DawPlaybackQueue α × Bool :=
  if loopEnd ≤ loopBegin then (q, false)
  else ({ q with loopBegin, loopEnd, looping := true }, true)

def clearLoop : DawPlaybackQueue α := { q with looping := false }

def advance (frames : UInt32) : DawPlaybackQueue α := let current := q.playheadFrame
  let next := current + frames.toUInt64
  if q.looping ∧ q.loopBegin < q.loopEnd then
    let span := q.loopEnd - q.loopBegin
    if q.loopBegin ≤ current then
      let total := (current - q.loopBegin) + frames.toUInt64
      { q with
        playheadFrame := q.loopBegin + total % span
        loopWraps := q.loopWraps + total / span }
    else if q.loopEnd ≤ next then
      let beyond := next - q.loopEnd
      { q with
        playheadFrame := q.loopBegin + beyond % span
        loopWraps := q.loopWraps + (1 + beyond / span) }
    else { q with playheadFrame := next }
  else { q with playheadFrame := next }

/-- `render`, with the block it puts out; `none` is silence. -/
def render (frames : UInt32) : DawPlaybackQueue α × Option (PlaybackBlock α) :=
  if frames = 0 then (q, none)
  else if q.running = false then (q, none)
  else match q.blocks with
    | [] => ({ q with underrunBlocks := q.underrunBlocks + 1 }.advance frames, none)
    | block :: rest =>
      if block.generation ≠ q.generation ∨ block.startFrame ≠ q.playheadFrame ∨
          block.frames ≠ frames then
        ({ q with
          discontinuities := q.discontinuities + 1
          blocks := rest }.advance frames, none)
      else
        ({ q with
          blocks := rest
          renderedBlocks := q.renderedBlocks + 1
          renderedFrames := q.renderedFrames + frames.toUInt64 }.advance frames, some block)

end DawPlaybackQueue

/-! ## The producer

Positions are natural numbers, since `_start` refuses a negative one. -/

namespace ArrangementProducer

variable {α : Type}

/-- `_block` of a plan: a frame for each index, which may depend on where the block starts and how long
it is. -/
def block (frame : ℕ → ℕ → ℕ → α) (start frames : ℕ) : List α :=
  (List.range frames).map (frame start frames)

/-- The stretches `_loop_block` copies, each with the cursor where it starts and its length. Each
has a frame at least, so that there are no more than there are frames to write (`fuel`). -/
def loopStretches (start finish : ℕ) : ℕ → ℕ → ℕ → List (ℕ × ℕ)
  | 0, _, _ => []
  | fuel + 1, cursor, frames =>
    if frames = 0 then []
    else
      let amount := min frames (finish - cursor)
      let next := if finish ≤ cursor + amount then start else cursor + amount
      (cursor, amount) :: loopStretches start finish fuel next (frames - amount)

def loopBlock (frame : ℕ → ℕ → ℕ → α) (position frames start finish : ℕ) : Option (List α) :=
  if finish ≤ start ∨ position < start ∨ finish ≤ position then none
  else some ((loopStretches start finish frames position frames).flatMap fun stretch =>
    block frame stretch.1 stretch.2)

def advanceLoop (position frames start finish : ℕ) : Option ℕ := if finish ≤ start then none
  else some (start + (position - start + frames) % (finish - start))

end ArrangementProducer

/-! ## The two cursors -/

namespace ArrangementProducer

variable {α : Type} {start finish : ℕ}

@[simp] lemma length_block (frame : ℕ → ℕ → ℕ → α) (start frames : ℕ) :
    (block frame start frames).length = frames := by
  rw [block, List.length_map, List.length_range]

lemma getElem?_block (frame : ℕ → ℕ → ℕ → α) {start frames index : ℕ} (h : index < frames) :
    (block frame start frames)[index]? = some (frame start frames index) := by
  rw [block, List.getElem?_map, List.getElem?_range h, Option.map_some]

def cursor (start finish position frames : ℕ) : ℕ :=
  start + (position - start + frames) % (finish - start)

lemma advanceLoop_eq (hspan : start < finish) (position frames : ℕ) :
    advanceLoop position frames start finish = some (cursor start finish position frames) := by
  rw [advanceLoop, if_neg (Nat.not_le.mpr hspan), cursor]

lemma le_cursor (position frames : ℕ) : start ≤ cursor start finish position frames :=
  Nat.le_add_right _ _

lemma cursor_lt (hspan : start < finish) (position frames : ℕ) :
    cursor start finish position frames < finish := by
  have hmod := Nat.mod_lt (position - start + frames) (Nat.sub_pos_of_lt hspan)
  rw [cursor]
  omega

lemma cursor_of_lt {position frames : ℕ} (hstart : start ≤ position)
    (hlt : position + frames < finish) :
    cursor start finish position frames = position + frames := by
  rw [cursor, Nat.mod_eq_of_lt (by omega)]
  omega

lemma cursor_wrap {position amount frames : ℕ} (hstart : start ≤ position)
    (hend : position + amount = finish) :
    cursor start finish position (amount + frames) = cursor start finish start frames := by
  have hsum : position - start + (amount + frames) = frames + (finish - start) := by omega
  rw [cursor, cursor, hsum, Nat.add_mod_right, Nat.sub_self, Nat.zero_add]

lemma cursor_add {position amount frames : ℕ} (hstart : start ≤ position) :
    cursor start finish position (amount + frames) =
      cursor start finish (position + amount) frames := by
  rw [cursor, cursor]
  congr 2
  omega

/-- **The copy loop**: as many frames as it was asked for, and at each offset the frame of the plan
at the cursor. -/
lemma loopStretches_spec (hspan : start < finish) (frame : ℕ → ℕ → ℕ → α) (fuel : ℕ) :
    ∀ position frames : ℕ, start ≤ position → position < finish → frames ≤ fuel →
      ((loopStretches start finish fuel position frames).flatMap fun stretch =>
        block frame stretch.1 stretch.2).length = frames ∧
      ∀ offset < frames, ∃ first amount index, index < amount ∧
        first + index = cursor start finish position offset ∧
        ((loopStretches start finish fuel position frames).flatMap fun stretch =>
          block frame stretch.1 stretch.2)[offset]? = some (frame first amount index) := by
  induction fuel with
  | zero =>
    intro position frames _ _ hfuel
    obtain rfl := Nat.le_zero.mp hfuel
    exact ⟨rfl, fun offset hoffset => absurd hoffset (Nat.not_lt_zero _)⟩
  | succ fuel ih =>
    intro position frames hstart hfinish hfuel
    rw [loopStretches]
    by_cases hzero : frames = 0
    · rw [if_pos hzero]
      exact ⟨hzero.symm, fun offset hoffset => absurd hoffset (by omega)⟩
    rw [if_neg hzero]
    simp only [List.flatMap_cons, List.length_append, length_block]
    generalize hamount : min frames (finish - position) = amount
    generalize hnext : (if finish ≤ position + amount then start else position + amount) = next
    have hinside : start ≤ next ∧ next < finish := by
      split at hnext <;> omega
    obtain ⟨hlength, hframes⟩ := ih next (frames - amount) hinside.1 hinside.2 (by omega)
    refine ⟨by omega, fun offset hoffset => ?_⟩
    by_cases hfirst : offset < amount
    · -- the first stretch
      refine ⟨position, amount, offset, hfirst, ?_, ?_⟩
      · exact (cursor_of_lt hstart (by omega)).symm
      · rw [List.getElem?_append_left (by rw [length_block]; exact hfirst),
          getElem?_block frame hfirst]
    · obtain ⟨first, length, index, hindex, hcursor, hframe⟩ := hframes (offset - amount) (by omega)
      refine ⟨first, length, index, hindex, ?_, ?_⟩
      · rw [hcursor]
        have hoffset : offset = amount + (offset - amount) := by omega
        rw [hoffset, Nat.add_sub_cancel_left]
        split at hnext
        · rw [← hnext, cursor_wrap hstart (by omega)]
        · rw [← hnext, cursor_add hstart]
      · rw [List.getElem?_append_right (by rw [length_block]; omega), length_block, hframe]

end ArrangementProducer

namespace DawPlaybackQueue

variable {α : Type} {q : DawPlaybackQueue α}

structure InLoop (q : DawPlaybackQueue α) : Prop where
  looping : q.looping = true
  begin_le : q.loopBegin ≤ q.playheadFrame
  lt_end : q.playheadFrame < q.loopEnd

lemma advance_of_inLoop (h : q.InLoop) (frames : UInt32) : q.advance frames = { q with
        playheadFrame := q.loopBegin + (q.playheadFrame - q.loopBegin + frames.toUInt64) %
          (q.loopEnd - q.loopBegin)
        loopWraps := q.loopWraps + (q.playheadFrame - q.loopBegin + frames.toUInt64) /
          (q.loopEnd - q.loopBegin) } := by
  have hspan : q.loopBegin < q.loopEnd := UInt64.lt_of_le_of_lt h.begin_le h.lt_end
  rw [advance]
  simp only [h.looping, hspan, and_self, if_true, h.begin_le]

/-- **One `advance`** in a loop, in the producer's numbers. -/
lemma playhead_advance (h : q.InLoop) {frames : UInt32}
    (hsum : q.playheadFrame.toNat - q.loopBegin.toNat + frames.toNat < 2 ^ 64) :
    (q.advance frames).playheadFrame.toNat = ArrangementProducer.cursor q.loopBegin.toNat
      q.loopEnd.toNat q.playheadFrame.toNat frames.toNat := by
  have hbegin := UInt64.le_iff_toNat_le.mp h.begin_le
  have hend := UInt64.lt_iff_toNat_lt.mp h.lt_end
  have hle : q.loopBegin ≤ q.loopEnd := UInt64.le_iff_toNat_le.mpr (by omega)
  have hmod := Nat.mod_lt (q.playheadFrame.toNat - q.loopBegin.toNat + frames.toNat)
    (show 0 < q.loopEnd.toNat - q.loopBegin.toNat by omega)
  have hlast := q.loopEnd.toNat_lt
  have htotal : (q.playheadFrame - q.loopBegin + frames.toUInt64).toNat =
      q.playheadFrame.toNat - q.loopBegin.toNat + frames.toNat := by
    rw [UInt64.toNat_add, UInt64.toNat_sub_of_le _ _ h.begin_le, UInt32.toNat_toUInt64,
      Nat.mod_eq_of_lt hsum]
  rw [advance_of_inLoop h]
  simp only [ArrangementProducer.cursor]
  rw [UInt64.toNat_add, UInt64.toNat_mod, htotal, UInt64.toNat_sub_of_le _ _ hle,
    Nat.mod_eq_of_lt (by omega)]

lemma inLoop_advance (h : q.InLoop) {frames : UInt32}
    (hsum : q.playheadFrame.toNat - q.loopBegin.toNat + frames.toNat < 2 ^ 64) :
    (q.advance frames).InLoop := by
  have hplayhead := playhead_advance h hsum
  have hspan : q.loopBegin.toNat < q.loopEnd.toNat :=
    UInt64.lt_iff_toNat_lt.mp (UInt64.lt_of_le_of_lt h.begin_le h.lt_end)
  rw [advance_of_inLoop h] at hplayhead ⊢
  refine ⟨h.looping, UInt64.le_iff_toNat_le.mpr ?_, UInt64.lt_iff_toNat_lt.mpr ?_⟩
  · rw [hplayhead]
    exact ArrangementProducer.le_cursor _ _
  · rw [hplayhead]
    exact ArrangementProducer.cursor_lt hspan _ _

lemma advance_loop_bounds (frames : UInt32) :
    (q.advance frames).loopBegin = q.loopBegin ∧ (q.advance frames).loopEnd = q.loopEnd := by
  unfold advance
  simp only
  split
  · split
    · exact ⟨rfl, rfl⟩
    · split <;> exact ⟨rfl, rfl⟩
  · exact ⟨rfl, rfl⟩

end DawPlaybackQueue

namespace ArrangementProducer

variable {α : Type}

/-- The producer's position after blocks of these lengths. -/
def positionAfter (start finish : ℕ) : ℕ → List UInt32 → Option ℕ
  | position, [] => some position
  | position, frames :: rest =>
    (advanceLoop position frames.toNat start finish).bind fun next =>
      positionAfter start finish next rest

/-- No distance from the start of the loop comes to 2^64. -/
def SumsFit (start finish : ℕ) : ℕ → List UInt32 → Prop
  | _, [] => True
  | position, frames :: rest =>
    position - start + frames.toNat < 2 ^ 64 ∧
      SumsFit start finish (cursor start finish position frames.toNat) rest

lemma positionAfter_eq {q : DawPlaybackQueue α} (h : q.InLoop) {lengths : List UInt32}
    (hsums : SumsFit q.loopBegin.toNat q.loopEnd.toNat q.playheadFrame.toNat lengths) :
    positionAfter q.loopBegin.toNat q.loopEnd.toNat q.playheadFrame.toNat lengths =
        some (lengths.foldl DawPlaybackQueue.advance q).playheadFrame.toNat ∧
      (lengths.foldl DawPlaybackQueue.advance q).InLoop ∧
      (lengths.foldl DawPlaybackQueue.advance q).loopBegin = q.loopBegin ∧
      (lengths.foldl DawPlaybackQueue.advance q).loopEnd = q.loopEnd := by
  induction lengths generalizing q with
  | nil => exact ⟨rfl, h, rfl, rfl⟩
  | cons frames rest ih =>
    obtain ⟨hsum, hrest⟩ := hsums
    have hspan : q.loopBegin.toNat < q.loopEnd.toNat :=
      UInt64.lt_iff_toNat_lt.mp (UInt64.lt_of_le_of_lt h.begin_le h.lt_end)
    have hplayhead := DawPlaybackQueue.playhead_advance h hsum
    obtain ⟨hbegin, hend⟩ := DawPlaybackQueue.advance_loop_bounds (q := q) frames
    have hnext := ih (DawPlaybackQueue.inLoop_advance h hsum) (by
      rw [hbegin, hend, hplayhead]
      exact hrest)
    rw [hbegin, hend, hplayhead] at hnext
    rw [positionAfter, advanceLoop_eq hspan, Option.bind_some, List.foldl_cons]
    exact hnext

lemma SumsFit.take {start finish position : ℕ} {lengths : List UInt32}
    (h : SumsFit start finish position lengths) (k : ℕ) :
    SumsFit start finish position (lengths.take k) := by
  induction lengths generalizing position k with
  | nil => simpa using h
  | cons frames rest ih =>
    cases k with
    | zero => exact trivial
    | succ k => exact ⟨h.1, ih h.2 k⟩

/-- **Producer and callback agree on the loop cursor.** After blocks of any lengths the playhead is the
producer's position, and in each block the frame at an offset is the one of the plan at the cursor,
that many frames on. -/
theorem cursors_agree (frame : ℕ → ℕ → ℕ → α) {q : DawPlaybackQueue α} (h : q.InLoop)
    (lengths : List UInt32)
    (hsums : SumsFit q.loopBegin.toNat q.loopEnd.toNat q.playheadFrame.toNat lengths) :
    positionAfter q.loopBegin.toNat q.loopEnd.toNat q.playheadFrame.toNat lengths =
        some (lengths.foldl DawPlaybackQueue.advance q).playheadFrame.toNat ∧
      ∀ k frames, lengths[k]? = some frames → ∃ position content,
        positionAfter q.loopBegin.toNat q.loopEnd.toNat q.playheadFrame.toNat (lengths.take k) =
          some position ∧
        loopBlock frame position frames.toNat q.loopBegin.toNat q.loopEnd.toNat = some content ∧
        content.length = frames.toNat ∧
        ∀ offset < frames.toNat, ∃ first amount index, index < amount ∧
          advanceLoop position offset q.loopBegin.toNat q.loopEnd.toNat = some (first + index) ∧
          content[offset]? = some (frame first amount index) := by
  refine ⟨(positionAfter_eq h hsums).1, fun k frames _ => ?_⟩
  obtain ⟨hposition, hinside, hbegin, hend⟩ := positionAfter_eq h (hsums.take k)
  have hstart := UInt64.le_iff_toNat_le.mp hinside.begin_le
  have hfinish := UInt64.lt_iff_toNat_lt.mp hinside.lt_end
  rw [hbegin] at hstart
  rw [hend] at hfinish
  generalize ((lengths.take k).foldl DawPlaybackQueue.advance q).playheadFrame.toNat = position
    at hposition hstart hfinish
  have hspan := Nat.lt_of_le_of_lt hstart hfinish
  obtain ⟨hlength, hframes⟩ := loopStretches_spec hspan frame frames.toNat position frames.toNat
    hstart hfinish le_rfl
  refine ⟨position, _, hposition, if_neg (by omega), hlength, fun offset hoffset => ?_⟩
  obtain ⟨first, amount, index, hindex, hcursor, hframe⟩ := hframes offset hoffset
  exact ⟨first, amount, index, hindex, by rw [advanceLoop_eq hspan, hcursor], hframe⟩

theorem cursors_agree_shortLoop : positionAfter 4 7 5 [8, 2] = some 6 ∧
      loopBlock (fun first _ index => first + index) 5 8 4 7 = some [5, 6, 4, 5, 6, 4, 5, 6] := by
  have h : ({ (DawPlaybackQueue.empty : DawPlaybackQueue ℕ) with
      looping := true, loopBegin := 4, loopEnd := 7, playheadFrame := 5 }).InLoop :=
    ⟨rfl, by decide, by decide⟩
  have hagree := cursors_agree (fun first _ index => first + index) h [8, 2]
    ⟨by decide, by decide, trivial⟩
  exact ⟨hagree.1, by decide⟩

end ArrangementProducer

end StageForge
