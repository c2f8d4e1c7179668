import StageForge.Native.ClockDiscipline
import Mathlib.Tactic.Positivity

/-!
# The MIDI clock

`MidiClock24Ppqn` of `native/include/stageforge/midi_clock.hpp` gives 24 pulses to the quarter note, at show times
that are rounded to nanoseconds. The time of the next pulse is kept exactly and rounded.

Numbers of type `double` are exact and show times have no upper limit.
-/

namespace StageForge

/-- The nearest integer, halves away from zero. -/
def llround (q : ℚ) : ℤ := if 0 ≤ q then ⌊q + 1 / 2⌋ else -⌊1 / 2 - q⌋

/-- A pulse: its sequence number and its show time. -/
abbrev ClockPulse := ℕ × ℕ

abbrev ClockPulseSink := ℕ → ℕ → Bool

structure MidiClock24Ppqn where
  epoch : ℕ := 0
  emitted : ℕ := 0
  received : ℕ := 0
  rejected : ℕ := 0
  lastSequence : ℕ := 0
  lastPulseShowNs : ℕ := 0
  lastReceivedShowNs : ℕ := 0
  maximumJitterNs : ℕ := 0
  nextShowNs : ℕ := 0
  bpm : ℚ := 120
  nextExact : ℚ := 0
  running : Bool := false
  configured : Bool := false
  deriving DecidableEq

namespace MidiClock24Ppqn

def validBpm (bpm : ℚ) : Bool := decide (20 ≤ bpm ∧ bpm ≤ 400)

def interval (bpm : ℚ) : ℚ := 60000000000 / (bpm * 24)

variable (c : MidiClock24Ppqn)

def reject : MidiClock24Ppqn × Bool := ({ c with rejected := c.rejected + 1 }, false)

def anchor (boundaryShowNs : ℕ) : MidiClock24Ppqn :=
  { c with nextExact := boundaryShowNs, nextShowNs := boundaryShowNs }

def configure (epoch : ℕ) (bpm : ℚ) (boundaryShowNs : ℕ) : MidiClock24Ppqn × Bool :=
  if epoch = 0 ∨ validBpm bpm = false then (c, false)
  else ({ c.anchor boundaryShowNs with epoch, bpm, configured := true, running := false }, true)

def start (epoch boundaryShowNs : ℕ) : MidiClock24Ppqn × Bool :=
  if c.configured = false ∨ epoch ≠ c.epoch then c.reject
  else ({ c.anchor boundaryShowNs with running := true }, true)

def stop (epoch : ℕ) : MidiClock24Ppqn × Bool :=
  if c.configured = false ∨ epoch ≠ c.epoch then c.reject else ({ c with running := false }, true)

def setTempo (epoch : ℕ) (bpm : ℚ) (boundaryShowNs : ℕ) : MidiClock24Ppqn × Bool :=
  if c.configured = false ∨ epoch ≠ c.epoch ∨ validBpm bpm = false ∨ boundaryShowNs < c.lastPulseShowNs then c.reject
  else ({ c.anchor boundaryShowNs with bpm }, true)

def advance : MidiClock24Ppqn := { c with
    lastPulseShowNs := c.nextShowNs
    emitted := c.emitted + 1
    nextExact := c.nextExact + interval c.bpm
    nextShowNs := (llround (c.nextExact + interval c.bpm)).toNat }

/-- The loop of `emit_until`, with how many pulses may still be emitted. -/
def emitLoop (untilShowNs : ℕ) (sink : ClockPulseSink) : ℕ → MidiClock24Ppqn → MidiClock24Ppqn × List ClockPulse
  | 0, c => (c, [])
  | remaining + 1, c =>
    if untilShowNs < c.nextShowNs ∨ sink (c.emitted + 1) c.nextShowNs = false then (c, [])
    else
      let (last, pulses) := emitLoop untilShowNs sink remaining c.advance
      (last, (c.emitted + 1, c.nextShowNs) :: pulses)

/-- `emit_until`, with the pulses that the sink takes. -/
def emitUntil (untilShowNs : ℕ) (sink : ClockPulseSink) (maximum : ℕ) : MidiClock24Ppqn × List ClockPulse :=
  if c.configured = false ∨ c.running = false then (c, []) else emitLoop untilShowNs sink maximum c

/-- The tempo after an interval was measured, and the largest jitter. -/
def measure (intervalNs : ℕ) : MidiClock24Ppqn :=
  let measured := 60000000000 / (intervalNs * 24 : ℚ)
  let bpm := if validBpm measured then (if c.received < 2 then measured else c.bpm * (9 / 10) + measured * (1 / 10))
    else c.bpm
  { c with bpm, maximumJitterNs := max c.maximumJitterNs (llround |intervalNs - interval bpm|).toNat }

def observe (epoch sequence showNs : ℕ) : MidiClock24Ppqn × Bool :=
  if c.configured = false ∨ epoch ≠ c.epoch ∨ sequence ≤ c.lastSequence ∨
      (c.lastReceivedShowNs ≠ 0 ∧ showNs ≤ c.lastReceivedShowNs) then c.reject
  else
    let c := if c.lastReceivedShowNs ≠ 0 then c.measure (showNs - c.lastReceivedShowNs) else c
    ({ c with
      lastSequence := sequence
      lastReceivedShowNs := showNs
      lastPulseShowNs := showNs
      received := c.received + 1 }, true)

end MidiClock24Ppqn

inductive MidiClockCall
  | configure (epoch : ℕ) (bpm : ℚ) (boundaryShowNs : ℕ)
  | start (epoch boundaryShowNs : ℕ)
  | stop (epoch : ℕ)
  | setTempo (epoch : ℕ) (bpm : ℚ) (boundaryShowNs : ℕ)
  | emitUntil (untilShowNs : ℕ) (sink : ClockPulseSink) (maximum : ℕ)
  | observe (epoch sequence showNs : ℕ)

/-- A call that emits pulses or sets the tempo. -/
def MidiClockCall.between : MidiClockCall → Bool
  | .setTempo .. => true
  | .emitUntil .. => true
  | _ => false

namespace MidiClock24Ppqn

def call (c : MidiClock24Ppqn) : MidiClockCall → MidiClock24Ppqn × List ClockPulse
  | .configure epoch bpm boundaryShowNs => ((c.configure epoch bpm boundaryShowNs).1, [])
  | .start epoch boundaryShowNs => ((c.start epoch boundaryShowNs).1, [])
  | .stop epoch => ((c.stop epoch).1, [])
  | .setTempo epoch bpm boundaryShowNs => ((c.setTempo epoch bpm boundaryShowNs).1, [])
  | .emitUntil untilShowNs sink maximum => c.emitUntil untilShowNs sink maximum
  | .observe epoch sequence showNs => ((c.observe epoch sequence showNs).1, [])

def runCalls (c : MidiClock24Ppqn) : List MidiClockCall → MidiClock24Ppqn × List ClockPulse
  | [] => (c, [])
  | first :: calls =>
    let (next, pulses) := c.call first
    let (last, later) := runCalls next calls
    (last, pulses ++ later)

/-! ## The pulses of one call -/

section

variable {c : MidiClock24Ppqn} {untilShowNs limit : ℕ} {sink : ClockPulseSink}

def ValidTempo (c : MidiClock24Ppqn) : Prop := 20 ≤ c.bpm ∧ c.bpm ≤ 400

lemma one_le_interval (h : c.ValidTempo) : 1 ≤ interval c.bpm := by
  obtain ⟨hlow, hhigh⟩ := h
  unfold interval
  rw [le_div_iff₀ (by linarith)]
  linarith

/-- The next pulse is kept exactly and rounded. -/
structure Rounded (c : MidiClock24Ppqn) : Prop where
  tempo : c.ValidTempo
  nonneg : 0 ≤ c.nextExact
  rounded : (c.nextShowNs : ℤ) = llround c.nextExact

lemma llround_of_nonneg {q : ℚ} (h : 0 ≤ q) : llround q = ⌊q + 1 / 2⌋ := if_pos h

lemma rounded_anchor (h : c.ValidTempo) (boundaryShowNs : ℕ) : (c.anchor boundaryShowNs).Rounded := by
  have hnonneg : (0 : ℚ) ≤ boundaryShowNs := Nat.cast_nonneg boundaryShowNs
  refine ⟨h, hnonneg, ?_⟩
  change (boundaryShowNs : ℤ) = llround (boundaryShowNs : ℚ)
  rw [llround_of_nonneg hnonneg, eq_comm, Int.floor_eq_iff]
  constructor <;> push_cast <;> linarith

/-- **A pulse is accepted**: the next one is later. -/
lemma rounded_advance (h : c.Rounded) : c.advance.Rounded ∧ c.nextShowNs < c.advance.nextShowNs := by
  have hinterval := one_le_interval h.tempo
  have hnonneg : 0 ≤ c.nextExact + interval c.bpm := by linarith [h.nonneg]
  have hpositive : 0 ≤ llround (c.nextExact + interval c.bpm) := by
    rw [llround_of_nonneg hnonneg]
    exact Int.floor_nonneg.mpr (by linarith)
  have hnext : (c.advance.nextShowNs : ℤ) = llround (c.nextExact + interval c.bpm) := Int.toNat_of_nonneg hpositive
  refine ⟨⟨h.tempo, hnonneg, hnext⟩, ?_⟩
  have hlater : (c.nextShowNs : ℤ) + 1 ≤ c.advance.nextShowNs := by
    rw [hnext, h.rounded, llround_of_nonneg h.nonneg, llround_of_nonneg hnonneg, ← Int.floor_add_one]
    exact Int.floor_le_floor (by linarith)
  omega

/-- What the loop of `emit_until` leaves alone. -/
structure SameSettings (c c' : MidiClock24Ppqn) : Prop where
  epoch : c'.epoch = c.epoch
  bpm : c'.bpm = c.bpm
  running : c'.running = c.running
  configured : c'.configured = c.configured

/-- **The pulses of one call**: they are numbered on, each one is later than the one before, and the next one is
later than all. -/
structure Emitted (c last : MidiClock24Ppqn) (pulses : List ClockPulse) : Prop where
  rounded : last.Rounded
  settings : SameSettings c last
  sequences : pulses.map (·.1) = List.range' (c.emitted + 1) pulses.length
  count : last.emitted = c.emitted + pulses.length
  increasing : (pulses.map (·.2)).Pairwise (· < ·)
  from_next : ∀ pulse ∈ pulses, c.nextShowNs ≤ pulse.2 ∧ pulse.2 < last.nextShowNs
  nothing : pulses = [] → last = c
  later : c.nextShowNs ≤ last.nextShowNs
  final : ∀ pulse, pulses.getLast? = some pulse → pulse.2 = last.lastPulseShowNs

lemma emitted_nil (h : c.Rounded) : Emitted c c [] :=
  ⟨h, ⟨rfl, rfl, rfl, rfl⟩, rfl, rfl, List.Pairwise.nil, by simp, fun _ => rfl, le_refl _, by simp⟩

variable (remaining : ℕ)

lemma emitted_emitLoop : ∀ {c : MidiClock24Ppqn}, c.Rounded →
    Emitted c (emitLoop untilShowNs sink remaining c).1 (emitLoop untilShowNs sink remaining c).2 := by
  induction remaining with
  | zero => intro c h; exact emitted_nil h
  | succ remaining ih =>
    intro c h
    unfold emitLoop
    split_ifs with hstop
    · exact emitted_nil h
    · obtain ⟨hnext, hlater⟩ := rounded_advance h
      have hrest := ih hnext
      generalize emitLoop untilShowNs sink remaining c.advance = rest at hrest
      obtain ⟨last, pulses⟩ := rest
      refine ⟨hrest.rounded, ⟨hrest.settings.epoch, hrest.settings.bpm, hrest.settings.running,
        hrest.settings.configured⟩, ?_, ?_, ?_, ?_, fun hno => absurd hno (by simp), hlater.le.trans hrest.later, ?_⟩
      · rw [List.map_cons, hrest.sequences, List.length_cons, List.range'_succ]
        rfl
      · rw [hrest.count, List.length_cons]
        change c.emitted + 1 + pulses.length = _
        omega
      · rw [List.map_cons, List.pairwise_cons]
        refine ⟨fun time htime => ?_, hrest.increasing⟩
        obtain ⟨pulse, hpulse, rfl⟩ := List.mem_map.mp htime
        exact hlater.trans_le (hrest.from_next pulse hpulse).1
      · refine List.forall_mem_cons.mpr ⟨⟨le_refl _, hlater.trans_le hrest.later⟩, fun pulse hpulse => ?_⟩
        exact ⟨hlater.le.trans (hrest.from_next pulse hpulse).1, (hrest.from_next pulse hpulse).2⟩
      · intro pulse hpulse
        cases hpulses : pulses with
        | nil =>
          rw [hpulses] at hpulse
          rw [hrest.nothing hpulses]
          exact congrArg Prod.snd (Option.some.inj hpulse).symm
        | cons second others =>
          rw [hpulses, List.getLast?_cons_cons, ← hpulses] at hpulse
          exact hrest.final pulse hpulse

lemma emitted_emitUntil (h : c.Rounded) (untilShowNs : ℕ) (sink : ClockPulseSink) (maximum : ℕ) :
    Emitted c (c.emitUntil untilShowNs sink maximum).1 (c.emitUntil untilShowNs sink maximum).2 := by
  unfold emitUntil
  split_ifs
  · exact emitted_nil h
  · exact emitted_emitLoop maximum h

/-! ## Splitting a call -/

lemma emitLoop_split (hlimit : limit ≤ untilShowNs) (remaining : ℕ) : ∀ c : MidiClock24Ppqn,
    emitLoop untilShowNs sink remaining c =
      ((emitLoop untilShowNs sink (remaining - (emitLoop limit sink remaining c).2.length)
          (emitLoop limit sink remaining c).1).1,
        (emitLoop limit sink remaining c).2 ++
          (emitLoop untilShowNs sink (remaining - (emitLoop limit sink remaining c).2.length)
            (emitLoop limit sink remaining c).1).2) := by
  induction remaining with
  | zero => intro c; rfl
  | succ remaining ih =>
    intro c
    by_cases hstop : limit < c.nextShowNs ∨ sink (c.emitted + 1) c.nextShowNs = false
    · have hnothing : emitLoop limit sink (remaining + 1) c = (c, []) := if_pos hstop
      rw [hnothing]
      rfl
    · have hgoes : ¬(untilShowNs < c.nextShowNs ∨ sink (c.emitted + 1) c.nextShowNs = false) := by
        rintro (hover | hrefused)
        · exact hstop (.inl (hlimit.trans_lt hover))
        · exact hstop (.inr hrefused)
      have hpiece : emitLoop limit sink (remaining + 1) c = ((emitLoop limit sink remaining c.advance).1,
          (c.emitted + 1, c.nextShowNs) :: (emitLoop limit sink remaining c.advance).2) := if_neg hstop
      have hwhole : emitLoop untilShowNs sink (remaining + 1) c =
          ((emitLoop untilShowNs sink remaining c.advance).1,
            (c.emitted + 1, c.nextShowNs) :: (emitLoop untilShowNs sink remaining c.advance).2) := if_neg hgoes
      rw [hpiece, hwhole, ih c.advance, List.length_cons, Nat.add_sub_add_right, List.cons_append]

lemma emitLoop_more {maximum : ℕ} : ∀ {c : MidiClock24Ppqn}, remaining ≤ maximum →
    (emitLoop untilShowNs sink remaining c).2.length < remaining →
      emitLoop untilShowNs sink maximum c = emitLoop untilShowNs sink remaining c := by
  induction remaining generalizing maximum with
  | zero => intro c _ hless; exact absurd hless (Nat.not_lt_zero _)
  | succ remaining ih =>
    intro c hle hless
    obtain ⟨more, rfl⟩ : ∃ more, maximum = more + 1 := ⟨maximum - 1, by omega⟩
    unfold emitLoop at hless ⊢
    split_ifs with hstop
    · rfl
    · rw [if_neg hstop, List.length_cons] at hless
      rw [ih (by omega) (by omega)]

lemma emitLoop_flags : ∀ c : MidiClock24Ppqn,
    (emitLoop limit sink remaining c).1.configured = c.configured ∧
      (emitLoop limit sink remaining c).1.running = c.running := by
  induction remaining with
  | zero => intro c; exact ⟨rfl, rfl⟩
  | succ remaining ih =>
    intro c
    unfold emitLoop
    split_ifs
    · exact ⟨rfl, rfl⟩
    · exact ih c.advance

lemma emitUntil_split (hlimit : limit ≤ untilShowNs) (c : MidiClock24Ppqn) (maximum : ℕ) :
    c.emitUntil untilShowNs sink maximum =
      (((c.emitUntil limit sink maximum).1.emitUntil untilShowNs sink
          (maximum - (c.emitUntil limit sink maximum).2.length)).1,
        (c.emitUntil limit sink maximum).2 ++
          ((c.emitUntil limit sink maximum).1.emitUntil untilShowNs sink
            (maximum - (c.emitUntil limit sink maximum).2.length)).2) := by
  by_cases hoff : c.configured = false ∨ c.running = false
  · have hnothing (limit maximum : ℕ) : c.emitUntil limit sink maximum = (c, []) := if_pos hoff
    rw [hnothing, hnothing, hnothing]
    rfl
  · have hwhole (limit maximum : ℕ) : c.emitUntil limit sink maximum = emitLoop limit sink maximum c := if_neg hoff
    obtain ⟨hconfigured, hrunning⟩ := @emitLoop_flags limit sink maximum c
    have hon : ¬((emitLoop limit sink maximum c).1.configured = false ∨
        (emitLoop limit sink maximum c).1.running = false) := by rwa [hconfigured, hrunning]
    have hrest (maximum' : ℕ) : (emitLoop limit sink maximum c).1.emitUntil untilShowNs sink maximum' =
        emitLoop untilShowNs sink maximum' (emitLoop limit sink maximum c).1 := if_neg hon
    rw [hwhole, hwhole, hrest]
    exact emitLoop_split hlimit maximum c

lemma emitUntil_more {remaining maximum : ℕ} (hle : remaining ≤ maximum)
    (hless : (c.emitUntil untilShowNs sink remaining).2.length < remaining) :
    c.emitUntil untilShowNs sink maximum = c.emitUntil untilShowNs sink remaining := by
  unfold emitUntil at hless ⊢
  split_ifs with hoff
  · rfl
  · rw [if_neg hoff] at hless
    exact emitLoop_more remaining hle hless

end

/-- Calls of `emit_until` with one limit after the other, each with what is left of the maximum. -/
def emitPieces (sink : ClockPulseSink) : ℕ → List ℕ → MidiClock24Ppqn → MidiClock24Ppqn × List ClockPulse
  | _, [], c => (c, [])
  | maximum, limit :: limits, c =>
    let (next, pulses) := c.emitUntil limit sink maximum
    let (last, later) := emitPieces sink (maximum - pulses.length) limits next
    (last, pulses ++ later)

/-- Calls of `emit_until` with one limit after the other, each with the same maximum. -/
def emitEach (sink : ClockPulseSink) (maximum : ℕ) : List ℕ → MidiClock24Ppqn → MidiClock24Ppqn × List ClockPulse
  | [], c => (c, [])
  | limit :: limits, c =>
    let (next, pulses) := c.emitUntil limit sink maximum
    let (last, later) := emitEach sink maximum limits next
    (last, pulses ++ later)

section

variable {c : MidiClock24Ppqn} {untilShowNs : ℕ} {sink : ClockPulseSink}

/-- **One call or several**, when each has what is left of the maximum. -/
lemma emitPieces_eq (limits : List ℕ) : ∀ {maximum : ℕ} {c : MidiClock24Ppqn}, limits.Pairwise (· ≤ ·) →
    limits.getLast? = some untilShowNs → emitPieces sink maximum limits c = c.emitUntil untilShowNs sink maximum := by
  induction limits with
  | nil => intro maximum c _ hlast; exact absurd hlast (by simp)
  | cons limit limits ih =>
    intro maximum c hsorted hlast
    obtain ⟨hfirst, hrest⟩ := List.pairwise_cons.mp hsorted
    unfold emitPieces
    dsimp only
    cases hlimits : limits with
    | nil =>
      rw [hlimits] at hlast
      obtain rfl : limit = untilShowNs := Option.some.inj hlast
      unfold emitPieces
      rw [List.append_nil]
    | cons second others =>
      rw [hlimits, List.getLast?_cons_cons, ← hlimits] at hlast
      rw [← hlimits, ih hrest hlast]
      exact (emitUntil_split (hfirst untilShowNs (List.mem_of_getLast? hlast)) c maximum).symm

/-- **One call or several**, with the same maximum each, when the one call does not reach it. -/
lemma emitEach_eq {maximum : ℕ} (limits : List ℕ) : ∀ {c : MidiClock24Ppqn}, limits.Pairwise (· ≤ ·) →
    limits.getLast? = some untilShowNs → (c.emitUntil untilShowNs sink maximum).2.length < maximum →
      emitEach sink maximum limits c = c.emitUntil untilShowNs sink maximum := by
  induction limits with
  | nil => intro c _ hlast; exact absurd hlast (by simp)
  | cons limit limits ih =>
    intro c hsorted hlast hless
    obtain ⟨hfirst, hrest⟩ := List.pairwise_cons.mp hsorted
    unfold emitEach
    dsimp only
    cases hlimits : limits with
    | nil =>
      rw [hlimits] at hlast
      obtain rfl : limit = untilShowNs := Option.some.inj hlast
      unfold emitEach
      rw [List.append_nil]
    | cons second others =>
      rw [hlimits, List.getLast?_cons_cons, ← hlimits] at hlast
      have hle := hfirst untilShowNs (List.mem_of_getLast? hlast)
      have hsplit := @emitUntil_split untilShowNs limit sink hle c maximum
      rw [hsplit, List.length_append] at hless
      have hmore := @emitUntil_more (c.emitUntil limit sink maximum).1 untilShowNs sink
        (maximum - (c.emitUntil limit sink maximum).2.length) maximum (Nat.sub_le _ _) (by omega)
      rw [← hlimits, ih hrest hlast (by rw [hmore]; omega), hmore]
      exact hsplit.symm

end

/-! ## Runs from a start -/

/-- The pulses since the start lie behind the next one, in order. -/
structure Anchored (c : MidiClock24Ppqn) (past : List ClockPulse) : Prop where
  rounded : c.Rounded
  increasing : (past.map (·.2)).Pairwise (· < ·)
  behind : ∀ pulse ∈ past, pulse.2 ≤ c.lastPulseShowNs ∧ pulse.2 < c.nextShowNs
  final : ∀ pulse, past.getLast? = some pulse → pulse.2 = c.lastPulseShowNs

section

variable {c : MidiClock24Ppqn} {past : List ClockPulse}

/-- The tempo is not set at the time of the last of some pulses. -/
def MovesOn (c : MidiClock24Ppqn) (past : List ClockPulse) : MidiClockCall → Prop
  | .setTempo epoch bpm boundaryShowNs => (c.setTempo epoch bpm boundaryShowNs).2 = true →
      ∀ pulse, past.getLast? = some pulse → pulse.2 ≠ boundaryShowNs
  | _ => True

lemma time_le_final {pulses : List ClockPulse} {pulse final : ClockPulse}
    (hincreasing : (pulses.map (·.2)).Pairwise (· < ·)) (hlast : pulses.getLast? = some final)
    (hpulse : pulse ∈ pulses) : pulse.2 ≤ final.2 := by
  obtain ⟨init, rfl⟩ := List.getLast?_eq_some_iff.mp hlast
  rcases List.mem_append.mp hpulse with hbefore | hfinal
  · rw [List.map_append, List.pairwise_append] at hincreasing
    exact (hincreasing.2.2 _ (List.mem_map_of_mem hbefore) final.2 (by simp)).le
  · rw [List.mem_singleton.mp hfinal]

lemma anchored_emitUntil (h : Anchored c past) (untilShowNs : ℕ) (sink : ClockPulseSink) (maximum : ℕ) :
    Anchored (c.emitUntil untilShowNs sink maximum).1 (past ++ (c.emitUntil untilShowNs sink maximum).2) := by
  have hemitted := emitted_emitUntil h.rounded untilShowNs sink maximum
  generalize c.emitUntil untilShowNs sink maximum = outcome at hemitted
  obtain ⟨last, pulses⟩ := outcome
  cases hlast : pulses.getLast? with
  | none =>
    have hnothing := List.getLast?_eq_none_iff.mp hlast
    rw [hemitted.nothing hnothing, hnothing, List.append_nil]
    exact h
  | some final =>
    have hfinal := hemitted.final final hlast
    have hin := List.mem_of_getLast? hlast
    have hfrom := (hemitted.from_next final hin).1
    refine ⟨hemitted.rounded, ?_, fun pulse hpulse => ?_, fun pulse hpulse => ?_⟩
    · rw [List.map_append, List.pairwise_append]
      refine ⟨h.increasing, hemitted.increasing, fun time htime time' htime' => ?_⟩
      obtain ⟨pulse, hpulse, rfl⟩ := List.mem_map.mp htime
      obtain ⟨pulse', hpulse', rfl⟩ := List.mem_map.mp htime'
      exact (h.behind pulse hpulse).2.trans_le (hemitted.from_next pulse' hpulse').1
    · rcases List.mem_append.mp hpulse with hold | hnew
      · have hbehind := (h.behind pulse hold).2
        exact ⟨hfinal ▸ (hbehind.trans_le hfrom).le, hbehind.trans_le hemitted.later⟩
      · refine ⟨?_, (hemitted.from_next pulse hnew).2⟩
        rw [← hfinal]
        exact time_le_final hemitted.increasing hlast hnew
    · rw [List.getLast?_append_of_ne_nil _ (List.ne_nil_of_mem hin)] at hpulse
      exact hemitted.final pulse hpulse

lemma setTempo_cases (c : MidiClock24Ppqn) (epoch : ℕ) (bpm : ℚ) (boundaryShowNs : ℕ) :
    ((c.setTempo epoch bpm boundaryShowNs) = ({ c with rejected := c.rejected + 1 }, false)) ∨
    ((c.setTempo epoch bpm boundaryShowNs) = ({ c.anchor boundaryShowNs with bpm }, true) ∧
      validBpm bpm = true ∧ c.lastPulseShowNs ≤ boundaryShowNs) := by
  unfold setTempo
  split_ifs with hrefused
  · exact .inl rfl
  · simp only [not_or, Bool.not_eq_false, not_lt] at hrefused
    exact .inr ⟨rfl, hrefused.2.2.1, hrefused.2.2.2⟩

lemma rounded_setTempo (h : c.Rounded) (epoch : ℕ) (bpm : ℚ) (boundaryShowNs : ℕ) :
    (c.setTempo epoch bpm boundaryShowNs).1.Rounded := by
  rcases setTempo_cases c epoch bpm boundaryShowNs with hrefused | ⟨haccepted, hvalid, -⟩
  · rw [hrefused]
    exact ⟨h.tempo, h.nonneg, h.rounded⟩
  · rw [haccepted]
    have htempo : 20 ≤ bpm ∧ bpm ≤ 400 := of_decide_eq_true hvalid
    exact rounded_anchor (c := { c with bpm }) htempo boundaryShowNs

lemma anchored_setTempo (h : Anchored c past) (epoch : ℕ) (bpm : ℚ) (boundaryShowNs : ℕ)
    (hmoves : MovesOn c past (.setTempo epoch bpm boundaryShowNs)) :
    Anchored (c.setTempo epoch bpm boundaryShowNs).1 past := by
  have hrounded := rounded_setTempo h.rounded epoch bpm boundaryShowNs
  have hmoves : (c.setTempo epoch bpm boundaryShowNs).2 = true →
      ∀ pulse, past.getLast? = some pulse → pulse.2 ≠ boundaryShowNs := hmoves
  rcases setTempo_cases c epoch bpm boundaryShowNs with hrefused | ⟨haccepted, -, hlate⟩
  · rw [hrefused] at hrounded ⊢
    exact ⟨hrounded, h.increasing, h.behind, h.final⟩
  · rw [haccepted] at hrounded hmoves ⊢
    refine ⟨hrounded, h.increasing, fun pulse hpulse => ⟨(h.behind pulse hpulse).1, ?_⟩, h.final⟩
    cases hlast : past.getLast? with
    | none =>
      rw [List.getLast?_eq_none_iff.mp hlast] at hpulse
      cases hpulse
    | some final =>
      have hfinal := h.final final hlast
      have hapart := hmoves rfl final hlast
      have hbefore := (h.behind pulse hpulse).1
      change pulse.2 < boundaryShowNs
      omega

/-- **The step lemma.** -/
lemma anchored_call (h : Anchored c past) {call : MidiClockCall} (hbetween : call.between = true)
    (hmoves : MovesOn c past call) : Anchored (c.call call).1 (past ++ (c.call call).2) := by
  cases call with
  | setTempo epoch bpm boundaryShowNs =>
    exact (List.append_nil past).symm ▸ anchored_setTempo h epoch bpm boundaryShowNs hmoves
  | emitUntil untilShowNs sink maximum => exact anchored_emitUntil h untilShowNs sink maximum
  | configure | start | stop | observe => exact absurd hbetween (by simp [MidiClockCall.between])

variable (calls : List MidiClockCall)

/-- **The run lemma.** -/
lemma anchored_runCalls : ∀ {c : MidiClock24Ppqn} {past : List ClockPulse},
    Anchored c past → (∀ call ∈ calls, call.between = true) →
    (∀ before call later, calls = before ++ call :: later →
      MovesOn (c.runCalls before).1 (past ++ (c.runCalls before).2) call) →
    Anchored (c.runCalls calls).1 (past ++ (c.runCalls calls).2) := by
  induction calls with
  | nil => intro c past h _ _; exact (List.append_nil past).symm ▸ h
  | cons first calls ih =>
    intro c past h hbetween hmoves
    obtain ⟨hfirst, hrest⟩ := List.forall_mem_cons.mp hbetween
    have hstep := anchored_call h hfirst (by simpa [runCalls] using hmoves [] first calls rfl)
    have hrun := ih hstep hrest fun before call later hsplit => by
      have hmoves := hmoves (first :: before) call later (by rw [hsplit, List.cons_append])
      rw [runCalls, ← List.append_assoc] at hmoves
      exact hmoves
    rw [runCalls, ← List.append_assoc]
    exact hrun

lemma sequences_runCalls : ∀ {c : MidiClock24Ppqn}, c.Rounded →
    (∀ call ∈ calls, call.between = true) →
    (c.runCalls calls).2.map (·.1) = List.range' (c.emitted + 1) (c.runCalls calls).2.length := by
  induction calls with
  | nil => intro c _ _; rfl
  | cons first calls ih =>
    intro c h hbetween
    obtain ⟨hfirst, hrest⟩ := List.forall_mem_cons.mp hbetween
    rw [runCalls]
    cases first with
    | setTempo epoch bpm boundaryShowNs =>
      have hsame : (c.setTempo epoch bpm boundaryShowNs).1.emitted = c.emitted := by
        rcases setTempo_cases c epoch bpm boundaryShowNs with hrefused | ⟨haccepted, -, -⟩
        · rw [hrefused]
        · rw [haccepted]
          rfl
      have hrun := ih (rounded_setTempo h epoch bpm boundaryShowNs) hrest
      rw [hsame] at hrun
      exact hrun
    | emitUntil untilShowNs sink maximum =>
      have hemitted := emitted_emitUntil h untilShowNs sink maximum
      have hrun := ih hemitted.rounded hrest
      rw [hemitted.count] at hrun
      have hcall : c.call (.emitUntil untilShowNs sink maximum) = c.emitUntil untilShowNs sink maximum := rfl
      rw [hcall, List.map_append, hemitted.sequences, hrun, List.length_append, Nat.add_right_comm,
        List.range'_append_1]
    | configure | start | stop | observe => exact absurd hfirst (by simp [MidiClockCall.between])

lemma validTempo_measure (h : c.ValidTempo) (intervalNs : ℕ) : (c.measure intervalNs).ValidTempo := by
  obtain ⟨hlow, hhigh⟩ := h
  unfold measure ValidTempo
  dsimp only
  split_ifs with hvalid hfew
  · exact of_decide_eq_true (p := _ ∧ _) hvalid
  · have hmeasured : 20 ≤ 60000000000 / (intervalNs * 24 : ℚ) ∧ 60000000000 / (intervalNs * 24 : ℚ) ≤ 400 :=
      of_decide_eq_true hvalid
    constructor <;> linarith [hmeasured.1, hmeasured.2]
  · exact ⟨hlow, hhigh⟩

lemma bpm_emitLoop {untilShowNs : ℕ} {sink : ClockPulseSink} (remaining : ℕ) : ∀ c : MidiClock24Ppqn,
    (emitLoop untilShowNs sink remaining c).1.bpm = c.bpm := by
  induction remaining with
  | zero => intro c; rfl
  | succ remaining ih =>
    intro c
    unfold emitLoop
    split_ifs
    · rfl
    · exact ih c.advance

lemma validTempo_emitUntil {untilShowNs maximum : ℕ} {sink : ClockPulseSink} (h : c.ValidTempo) :
    (c.emitUntil untilShowNs sink maximum).1.ValidTempo := by
  unfold emitUntil
  split_ifs
  · exact h
  · unfold ValidTempo
    rw [bpm_emitLoop]
    exact h

lemma validTempo_call (h : c.ValidTempo) (call : MidiClockCall) : (c.call call).1.ValidTempo := by
  cases call with
  | configure epoch bpm boundaryShowNs =>
    unfold call configure
    dsimp only
    split_ifs with hrefused
    · exact h
    · have hvalid : validBpm bpm = true := by simpa using (not_or.mp hrefused).2
      have htempo : 20 ≤ bpm ∧ bpm ≤ 400 := of_decide_eq_true hvalid
      exact htempo
  | start epoch boundaryShowNs =>
    unfold call start
    dsimp only
    split_ifs <;> exact h
  | stop epoch =>
    unfold call stop
    dsimp only
    split_ifs <;> exact h
  | setTempo epoch bpm boundaryShowNs =>
    change (c.setTempo epoch bpm boundaryShowNs).1.ValidTempo
    rcases setTempo_cases c epoch bpm boundaryShowNs with hrefused | ⟨haccepted, hvalid, -⟩
    · rw [hrefused]
      exact h
    · rw [haccepted]
      have htempo : 20 ≤ bpm ∧ bpm ≤ 400 := of_decide_eq_true hvalid
      exact htempo
  | emitUntil untilShowNs sink maximum => exact validTempo_emitUntil h
  | observe epoch sequence showNs =>
    unfold call observe
    dsimp only
    split_ifs
    · exact h
    · exact validTempo_measure h _
    · exact h

lemma validTempo_runCalls : ∀ {c : MidiClock24Ppqn}, c.ValidTempo →
    (c.runCalls calls).1.ValidTempo := by
  induction calls with
  | nil => intro c h; exact h
  | cons first calls ih => intro c h; exact ih (validTempo_call h first)

end

def startedClock : List MidiClockCall := [.configure 1 120 0]

def openSink : ClockPulseSink := fun _ _ => true

end MidiClock24Ppqn

end StageForge
