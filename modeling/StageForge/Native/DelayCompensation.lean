import StageForge.Library.CircularBuffer
import StageForge.Native.EffectTransaction

/-!
# Delay compensation of plugins

`PluginDelayCompensator` of `native/include/stageforge/plugin_delay_compensation.hpp` delays each path by what its
plugin is faster than the slowest one. The effect transaction has the delays; here are the samples.
-/

universe u

namespace StageForge

open CircularBuffer

variable {α : Type u}

/-- The buffer of a path, and the number of frames written. -/
structure DelayLine (α : Type u) where
  write : ℕ
  buffer : ℕ → α

namespace DelayLine

variable [Zero α]

def silent : DelayLine α := ⟨0, fun _ => 0⟩

/-- The body of the loop of `process`. -/
def step (maxDelayFrames delay : ℕ) (line : DelayLine α) (frame : α) : DelayLine α × α :=
  let w := line.write % (maxDelayFrames + 1)
  let r := (w + maxDelayFrames + 1 - delay) % (maxDelayFrames + 1)
  let buffer := Function.update line.buffer w frame
  (⟨line.write + 1, buffer⟩, if delay ≠ 0 then buffer r else frame)

/-- The loop of `process`. -/
def block (maxDelayFrames delay : ℕ) (line : DelayLine α) : List α → DelayLine α × List α
  | [] => (line, [])
  | frame :: frames =>
    let (line, out) := line.step maxDelayFrames delay frame
    let (line, outs) := line.block maxDelayFrames delay frames
    (line, out :: outs)

end DelayLine

/-- `PluginDelayCompensator`, with its samples. -/
structure DelayedPaths (α : Type u) where
  delays : PluginDelayCompensator
  lines : ℕ → DelayLine α

namespace DelayedPaths

variable (paths maxDelayFrames : ℕ) (c : DelayedPaths α)

def configure [Zero α] (latencies : List UInt32) : DelayedPaths α × Bool :=
  match PluginDelayCompensator.configure paths maxDelayFrames latencies with
  | none => (c, false)
  | some delays =>
    (⟨delays, fun path => if path < latencies.length then .silent else c.lines path⟩, true)

def delayFor (path : ℕ) : UInt32 := c.delays.delay.getD path 0

/-- `process`, with the samples it leaves in the block. -/
def process (path : ℕ) (frames : List α) : DelayedPaths α × Option (List α) :=
  match c.delays.process path frames.length.toUInt32 with
  | (_, false) => (c, none)
  | (delays, true) =>
    let (line, outs) := (c.lines path).block maxDelayFrames (c.delayFor path).toNat frames
    (⟨delays, Function.update c.lines path line⟩, some outs)

/-- What a path puts out over calls of `process`, each with its path and its block. -/
def outputOf (path : ℕ) (c : DelayedPaths α) : List (ℕ × List α) → List α
  | [] => []
  | (other, frames) :: calls =>
    let (c', outs) := c.process maxDelayFrames other frames
    (if other = path then outs.getD [] else []) ++ outputOf path c' calls

end DelayedPaths

/-- The stream of a path over calls of `process`. -/
def inputOf (path : ℕ) : List (ℕ × List α) → List α
  | [] => []
  | (other, frames) :: calls => (if other = path then frames else []) ++ inputOf path calls

def delayed [Zero α] (delay : ℕ) (stream : List α) : List α :=
  (List.replicate delay 0 ++ stream).take stream.length

/-! ## One path -/

section

variable [Zero α] {maxDelayFrames delay : ℕ} {line : DelayLine α} {past frames : List α}

/-- The frame of a number, if the numbering begins with as many zeros as there are places. -/
def paddedFrame (capacity : ℕ) (past : List α) (n : ℕ) : α := if n < capacity then 0 else past.getD (n - capacity) 0

structure TookIn (maxDelayFrames : ℕ) (line : DelayLine α) (past : List α) : Prop where
  count : line.write = past.length
  holds : Keeps (maxDelayFrames + 1) line.buffer (paddedFrame (maxDelayFrames + 1) past) past.length
    (past.length + (maxDelayFrames + 1))

lemma tookIn_silent : TookIn maxDelayFrames (DelayLine.silent : DelayLine α) [] where
  count := rfl
  holds := by
    intro n _ hn
    have hfirst : n < maxDelayFrames + 1 := by simpa using hn
    unfold paddedFrame
    rw [if_pos hfirst]
    rfl

lemma paddedFrame_append (frame : α) {n : ℕ} (hn : n < past.length + (maxDelayFrames + 1)) :
    paddedFrame (maxDelayFrames + 1) past n = paddedFrame (maxDelayFrames + 1) (past ++ [frame]) n := by
  unfold paddedFrame
  split_ifs with hfirst
  · rfl
  · rw [List.getD_append _ _ _ _ (by omega)]

lemma delayed_append (frame : α) : delayed delay (past ++ [frame]) = delayed delay past ++
    [(List.replicate delay 0 ++ (past ++ [frame])).getD past.length 0] := by
  have hlonger : past.length < (List.replicate delay 0 ++ (past ++ [frame])).length := by simp; omega
  unfold delayed
  rw [List.length_append, List.length_singleton, List.take_add_one, List.getElem?_eq_getElem hlonger,
    List.getD_eq_getElem _ _ hlonger, Option.toList_some]
  congr 1
  rw [← List.append_assoc, List.take_append_of_le_length (by simp)]

lemma step_out {frame : α}
    (hwritten : Keeps (maxDelayFrames + 1) (line.step maxDelayFrames delay frame).1.buffer
      (paddedFrame (maxDelayFrames + 1) (past ++ [frame])) (past.length + 1)
      (past.length + (maxDelayFrames + 1) + 1))
    (hcount : line.write % (maxDelayFrames + 1) = past.length % (maxDelayFrames + 1))
    (hdelay : delay ≤ maxDelayFrames) : (line.step maxDelayFrames delay frame).2 =
      (List.replicate delay 0 ++ (past ++ [frame])).getD past.length 0 := by
  by_cases hzero : delay = 0
  · subst hzero
    have hout : (line.step maxDelayFrames 0 frame).2 = frame := rfl
    rw [hout]
    simp
  · have hout : (line.step maxDelayFrames delay frame).2 = (line.step maxDelayFrames delay frame).1.buffer
        ((line.write % (maxDelayFrames + 1) + maxDelayFrames + 1 - delay) % (maxDelayFrames + 1)) := if_pos hzero
    have hplace : (line.write % (maxDelayFrames + 1) + maxDelayFrames + 1 - delay) % (maxDelayFrames + 1) =
        (past.length + (maxDelayFrames + 1) - delay) % (maxDelayFrames + 1) := by
      have hsplit : past.length + (maxDelayFrames + 1) - delay =
          (maxDelayFrames + 1) * (past.length / (maxDelayFrames + 1)) +
            (past.length % (maxDelayFrames + 1) + maxDelayFrames + 1 - delay) := by
        have hdiv := Nat.div_add_mod past.length (maxDelayFrames + 1)
        omega
      rw [hcount, hsplit, Nat.mul_add_mod]
    rw [hout, hplace, hwritten _ (by omega) (by omega)]
    unfold paddedFrame
    by_cases hearly : past.length < delay
    · rw [if_pos (by omega), List.getD_append _ _ _ _ (by simpa using hearly)]
      simp
    · have hnumber : past.length + (maxDelayFrames + 1) - delay - (maxDelayFrames + 1) =
          past.length - (List.replicate delay (0 : α)).length := by
        rw [List.length_replicate]
        omega
      rw [if_neg (by omega), hnumber, ← List.getD_append_right _ _ _ _ (by simpa using hearly)]

/-- **One frame.** The line has taken it in, and puts out the one that came the delay ago. -/
lemma tookIn_step (h : TookIn maxDelayFrames line past) (hdelay : delay ≤ maxDelayFrames) (frame : α) :
    TookIn maxDelayFrames (line.step maxDelayFrames delay frame).1 (past ++ [frame]) ∧
      (line.step maxDelayFrames delay frame).2 =
        (List.replicate delay 0 ++ (past ++ [frame])).getD past.length 0 := by
  have hplace : (past.length + (maxDelayFrames + 1)) % (maxDelayFrames + 1) = line.write % (maxDelayFrames + 1) := by
    rw [Nat.add_mod_right, h.count]
  have hnext : paddedFrame (maxDelayFrames + 1) (past ++ [frame]) (past.length + (maxDelayFrames + 1)) = frame := by
    unfold paddedFrame
    rw [if_neg (by omega), Nat.add_sub_cancel]
    simp
  have hwritten : Keeps (maxDelayFrames + 1) (line.step maxDelayFrames delay frame).1.buffer
      (paddedFrame (maxDelayFrames + 1) (past ++ [frame])) (past.length + 1)
      (past.length + (maxDelayFrames + 1) + 1) := by
    have hholds := (h.holds.congr fun n _ hn => paddedFrame_append frame hn).mono (Nat.le_succ past.length)
    have hwrite := hholds.write (by omega)
    rw [hplace, hnext] at hwrite
    exact hwrite
  have hlength : (past ++ [frame]).length = past.length + 1 := by simp
  refine ⟨⟨?_, ?_⟩, ?_⟩
  · rw [hlength, ← h.count]
    rfl
  · rw [hlength, Nat.add_right_comm]
    exact hwritten
  · exact step_out hwritten (by rw [h.count]) hdelay

lemma tookIn_block (hdelay : delay ≤ maxDelayFrames) (frames : List α) : ∀ {line : DelayLine α} {past : List α},
    TookIn maxDelayFrames line past →
      TookIn maxDelayFrames (line.block maxDelayFrames delay frames).1 (past ++ frames) ∧
        delayed delay (past ++ frames) = delayed delay past ++ (line.block maxDelayFrames delay frames).2 := by
  induction frames with
  | nil =>
    intro line past h
    rw [List.append_nil]
    exact ⟨h, (List.append_nil _).symm⟩
  | cons frame frames ih =>
    intro line past h
    obtain ⟨hstep, hout⟩ := tookIn_step h hdelay frame
    obtain ⟨hblock, houts⟩ := ih hstep
    rw [← List.singleton_append, ← List.append_assoc]
    refine ⟨hblock, ?_⟩
    rw [houts, delayed_append, ← hout, List.append_assoc, List.singleton_append]
    rfl

end

/-! ## All paths -/

section

variable {paths maxDelayFrames : ℕ} {c : DelayedPaths α} {latencies : List UInt32}
  {delays : PluginDelayCompensator}

def maximumLatency (latencies : List UInt32) : UInt32 := latencies.foldl max 0

lemma le_foldl_max (latencies : List UInt32) : ∀ start : UInt32,
    start ≤ latencies.foldl max start ∧ ∀ latency ∈ latencies, latency ≤ latencies.foldl max start := by
  induction latencies with
  | nil => intro start; exact ⟨UInt32.le_refl _, by simp⟩
  | cons first rest ih =>
    intro start
    obtain ⟨hstart, hall⟩ := ih (max start first)
    have hmax : start ≤ max start first ∧ first ≤ max start first := by
      have hread : max start first = if start ≤ first then first else start := rfl
      grind
    rw [List.foldl_cons]
    refine ⟨UInt32.le_trans hmax.1 hstart, List.forall_mem_cons.mpr ⟨UInt32.le_trans hmax.2 hstart, hall⟩⟩

lemma foldl_max_le {bound : ℕ} (latencies : List UInt32) : ∀ {start : UInt32}, start.toNat ≤ bound →
    (∀ latency ∈ latencies, latency.toNat ≤ bound) → (latencies.foldl max start).toNat ≤ bound := by
  induction latencies with
  | nil => intro start hstart _; exact hstart
  | cons first rest ih =>
    intro start hstart hall
    obtain ⟨hfirst, hrest⟩ := List.forall_mem_cons.mp hall
    refine ih ?_ hrest
    have hmax : max start first = start ∨ max start first = first := by
      have hread : max start first = if start ≤ first then first else start := rfl
      rw [hread]
      split <;> simp
    rcases hmax with hmax | hmax <;> rw [hmax] <;> assumption

lemma configure_spec (h : PluginDelayCompensator.configure paths maxDelayFrames latencies = some delays) :
    delays.configured = true ∧ delays.delay = latencies.map (fun latency => maximumLatency latencies - latency) ∧
      (maximumLatency latencies).toNat ≤ maxDelayFrames := by
  unfold PluginDelayCompensator.configure at h
  split at h
  · cases h
  · rename_i hvalid
    cases h
    refine ⟨rfl, rfl, foldl_max_le latencies (by simp) fun latency hlatency => ?_⟩
    by_contra hlarge
    exact hvalid (.inr (.inr (List.any_eq_true.mpr ⟨latency, hlatency, decide_eq_true (not_le.mp hlarge)⟩)))

lemma process_other {path other : ℕ} (h : other ≠ path) (frames : List α) :
    (c.process maxDelayFrames other frames).1.lines path = c.lines path := by
  unfold DelayedPaths.process
  split
  · rfl
  · exact Function.update_of_ne h.symm _ _

lemma process_keeps (path : ℕ) (frames : List α) :
    (c.process maxDelayFrames path frames).1.delays.configured = c.delays.configured ∧
      (c.process maxDelayFrames path frames).1.delays.delay = c.delays.delay := by
  unfold DelayedPaths.process PluginDelayCompensator.process
  split_ifs <;> exact ⟨rfl, rfl⟩

lemma process_path {path : ℕ} (hconfigured : c.delays.configured = true) (hpath : path < c.delays.delay.length)
    (frames : List α) :
    (c.process maxDelayFrames path frames).1.lines path =
        ((c.lines path).block maxDelayFrames (c.delayFor path).toNat frames).1 ∧
      (c.process maxDelayFrames path frames).2 =
        some ((c.lines path).block maxDelayFrames (c.delayFor path).toNat frames).2 := by
  have hgoes : ¬(c.delays.configured = false ∨ c.delays.delay.length ≤ path) := by
    simp [hconfigured, hpath]
  unfold DelayedPaths.process PluginDelayCompensator.process
  rw [if_neg hgoes]
  exact ⟨Function.update_self _ _ _, rfl⟩

/-- **The run lemma.** Over any calls a path puts out the rest of its delayed stream. -/
lemma outputOf_eq [Zero α] {path : ℕ} (calls : List (ℕ × List α)) : ∀ {c : DelayedPaths α} {past : List α},
    c.delays.configured = true → path < c.delays.delay.length → (c.delayFor path).toNat ≤ maxDelayFrames →
    TookIn maxDelayFrames (c.lines path) past →
    delayed (c.delayFor path).toNat (past ++ inputOf path calls) =
      delayed (c.delayFor path).toNat past ++ DelayedPaths.outputOf maxDelayFrames path c calls := by
  induction calls with
  | nil =>
    intro c past _ _ _ _
    rw [inputOf, DelayedPaths.outputOf, List.append_nil, List.append_nil]
  | cons call calls ih =>
    obtain ⟨other, frames⟩ := call
    intro c past hconfigured hpath hdelay htook
    obtain ⟨hconfigured', hdelays⟩ := @process_keeps α maxDelayFrames c other frames
    have hsame : (c.process maxDelayFrames other frames).1.delayFor path = c.delayFor path := by
      unfold DelayedPaths.delayFor
      rw [hdelays]
    have hnext {past' : List α} := @ih (c.process maxDelayFrames other frames).1 past'
      (hconfigured'.trans hconfigured) (hdelays ▸ hpath) (hsame ▸ hdelay)
    rw [hsame] at hnext
    have houtput : DelayedPaths.outputOf maxDelayFrames path c ((other, frames) :: calls) =
        (if other = path then (c.process maxDelayFrames other frames).2.getD [] else []) ++
          DelayedPaths.outputOf maxDelayFrames path (c.process maxDelayFrames other frames).1 calls := rfl
    rw [inputOf, houtput]
    by_cases hother : other = path
    · subst hother
      obtain ⟨hline, hout⟩ := @process_path α maxDelayFrames c other hconfigured hpath frames
      obtain ⟨hblock, houts⟩ := tookIn_block hdelay frames htook
      rw [if_pos rfl, if_pos rfl, hout, Option.getD_some, ← List.append_assoc, hnext (hline ▸ hblock), houts,
        List.append_assoc]
    · rw [if_neg hother, if_neg hother, List.nil_append, List.nil_append]
      refine hnext ?_
      rw [process_other hother]
      exact htook

end

/-- **Paths are aligned.** After latencies have been accepted, a path puts out its own stream behind as many zeros
as its latency is smaller than the largest one, however the streams come in blocks and whatever the other paths do;
so latency and compensation together are the same on all paths. -/
theorem paths_aligned [Zero α] (paths maxDelayFrames : ℕ) (latencies : List UInt32) (c : DelayedPaths α)
    (haccepted : (c.configure paths maxDelayFrames latencies).2 = true) (calls : List (ℕ × List α)) (path : ℕ)
    (latency : UInt32) (hpath : latencies[path]? = some latency) :
    let configured := (c.configure paths maxDelayFrames latencies).1
    DelayedPaths.outputOf maxDelayFrames path configured calls =
        delayed ((maximumLatency latencies).toNat - latency.toNat) (inputOf path calls) ∧
      latency.toNat + (configured.delayFor path).toNat = (maximumLatency latencies).toNat := by
  intro configured
  cases hconfigure : PluginDelayCompensator.configure paths maxDelayFrames latencies with
  | none =>
    unfold DelayedPaths.configure at haccepted
    rw [hconfigure] at haccepted
    cases haccepted
  | some delays =>
    obtain ⟨hon, hdelays, hfits⟩ := configure_spec hconfigure
    obtain ⟨hshort, hget⟩ := List.getElem?_eq_some_iff.mp hpath
    have hstate : configured =
        ⟨delays, fun path => if path < latencies.length then .silent else c.lines path⟩ := by
      change (c.configure paths maxDelayFrames latencies).1 = _
      unfold DelayedPaths.configure
      rw [hconfigure]
    have hle : latency ≤ maximumLatency latencies :=
      (le_foldl_max latencies 0).2 latency (List.mem_of_getElem? hpath)
    have hdelay : (configured.delayFor path).toNat = (maximumLatency latencies).toNat - latency.toNat := by
      rw [hstate]
      unfold DelayedPaths.delayFor
      rw [hdelays, List.getD_eq_getElem?_getD, List.getElem?_map, hpath, Option.map_some, Option.getD_some]
      exact UInt32.toNat_sub_of_le _ _ hle
    constructor
    · have hsilent : configured.lines path = .silent := by
        rw [hstate]
        exact if_pos hshort
      have hrun := @outputOf_eq α maxDelayFrames _ path calls configured [] (by rw [hstate]; exact hon)
        (by rw [hstate, hdelays, List.length_map]; exact hshort) (by omega)
        (hsilent ▸ tookIn_silent)
      rw [List.nil_append, hdelay] at hrun
      simpa [delayed] using hrun.symm
    · rw [hdelay]
      have hbound := UInt32.le_iff_toNat_le.mp hle
      omega

theorem paths_aligned_two : DelayedPaths.outputOf 8 0
      ((DelayedPaths.mk (α := ℤ) .empty fun _ => .silent).configure 2 8 [0, 3]).1
      [(0, [5, 6]), (1, [7]), (0, [8, 9])] = [0, 0, 0, 5] :=
  (paths_aligned 2 8 [0, 3] (DelayedPaths.mk .empty fun _ => .silent) (by decide) _ 0 0 rfl).1

end StageForge
