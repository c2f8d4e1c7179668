import Mathlib.Data.UInt
import StageForge.Native.TransportClock

/-!
# Clock discipline

`ClockDiscipline` learns offset and rate of a source clock from pairs of timestamps and projects local
times onto it. Timestamps are 64-bit and saturate; offsets are in the range of a signed 64-bit number.
`RoundedFloats` adds `llround` to the two floating-point formats.
-/

namespace StageForge

structure RoundedFloats extends NativeFloats where
  /-- The nearest integer, halves away from zero. -/
  llround : double.Carrier → ℤ

/-- Arithmetic that rounds where it is told to only. -/
def RoundedFloats.rationals : RoundedFloats where
  toNativeFloats := .rationals
  llround := fun q : ℚ => if 0 ≤ q then ⌊q + 1 / 2⌋ else -⌊1 / 2 - q⌋

inductive ClockDisciplineState
  | freeRunning
  | locked
  | holdover
  deriving DecidableEq

structure ClockDisciplineSnapshot (S : RoundedFloats) where
  state : ClockDisciplineState
  offsetNs : ℤ
  driftPpm : S.Double
  sourceAgeNs : UInt64
  projectedTimeNs : UInt64
  observations : UInt64

structure ClockDiscipline (S : RoundedFloats) where
  state : ClockDisciplineState
  holdoverTimeoutNs : UInt64
  anchorLocalNs : UInt64
  anchorSourceNs : UInt64
  lastObservationLocalNs : UInt64
  previousLocalNs : UInt64
  previousSourceNs : UInt64
  driftPpm : S.Double
  observations : UInt64

namespace ClockDiscipline

variable {S : RoundedFloats}

/-- `signed_difference`, between the least and the greatest signed 64-bit number. -/
def signedDifference (a b : UInt64) : ℤ := if b ≤ a then min (a - b).toNat (2 ^ 63 - 1)
  else if (2 : ℕ) ^ 63 - 1 < (b - a).toNat then -2 ^ 63
  else -(b - a).toNat

def addSigned (base : UInt64) (delta : ℤ) : UInt64 := if 0 ≤ delta then
    if 2 ^ 64 - 1 - base.toNat < delta.toNat then UInt64.ofNat (2 ^ 64 - 1)
    else base + UInt64.ofNat delta.toNat
  else if base.toNat < (-delta).toNat then 0
  else base - UInt64.ofNat (-delta).toNat

def new (holdoverTimeoutNs : UInt64) : ClockDiscipline S where
  state := .freeRunning
  holdoverTimeoutNs
  anchorLocalNs := 0
  anchorSourceNs := 0
  lastObservationLocalNs := 0
  previousLocalNs := 0
  previousSourceNs := 0
  driftPpm := S.double.literal 0
  observations := 0

variable (c : ClockDiscipline S)

def reset : ClockDiscipline S := new c.holdoverTimeoutNs

def setHoldoverTimeout (timeoutNs : UInt64) : ClockDiscipline S :=
  { c with holdoverTimeoutNs := max 1 timeoutNs }

def projectUnchecked (localNs : UInt64) : UInt64 := if c.observations = 0 then localNs
  else
    let delta := signedDifference localNs c.anchorLocalNs
    let scaled := S.double.mul (S.ofInt delta)
      (S.double.add (S.double.literal 1) (S.double.div c.driftPpm (S.double.literal 1000000)))
    addSigned c.anchorSourceNs (S.llround scaled)

def clamp (value low high : S.Double) : S.Double := if S.double.less value low then low
  else if S.double.less high value then high
  else value

def learnDrift (localNs sourceNs : UInt64) : S.Double :=
  let localDelta := if c.previousLocalNs < localNs then localNs - c.previousLocalNs else 0
  if 0 < localDelta ∧ c.previousSourceNs ≤ sourceNs then
    let localDelta := S.ofInt localDelta.toNat
    let sourceDelta := S.ofInt (sourceNs - c.previousSourceNs).toNat
    let measuredPpm := S.double.mul
      (S.double.div (S.double.sub sourceDelta localDelta) localDelta) (S.double.literal 1000000)
    let clamped := clamp measuredPpm (S.double.literal (-500)) (S.double.literal 500)
    if c.observations < 2 then clamped
    else S.double.add (S.double.mul c.driftPpm (S.double.literal 0.90))
      (S.double.mul clamped (S.double.literal 0.10))
  else c.driftPpm

def observe (localNs sourceNs : UInt64) : ClockDiscipline S := if c.observations = 0 then
    { c with
      anchorLocalNs := localNs
      anchorSourceNs := sourceNs
      previousLocalNs := localNs
      previousSourceNs := sourceNs
      lastObservationLocalNs := localNs
      observations := 1
      state := .locked }
  else
    let predicted := c.projectUnchecked localNs
    let error := signedDifference sourceNs predicted
    let corrected := addSigned predicted
      (S.llround (S.double.mul (S.ofInt error) (S.double.literal 0.20)))
    { c with
      driftPpm := c.learnDrift localNs sourceNs
      anchorLocalNs := localNs
      anchorSourceNs := corrected
      previousLocalNs := localNs
      previousSourceNs := sourceNs
      lastObservationLocalNs := localNs
      observations := c.observations + 1
      state := .locked }

def updateState (localNs : UInt64) : ClockDiscipline S :=
  if c.observations = 0 then { c with state := .freeRunning }
  else
    let age := if c.lastObservationLocalNs ≤ localNs then localNs - c.lastObservationLocalNs else 0
    { c with state := if c.holdoverTimeoutNs < age then .holdover else .locked }

def snapshot (localNs : UInt64) : ClockDiscipline S × ClockDisciplineSnapshot S :=
  let c := c.updateState localNs
  let projected := c.projectUnchecked localNs
  (c,
    { state := c.state
      offsetNs := signedDifference projected localNs
      driftPpm := c.driftPpm
      sourceAgeNs :=
        if c.lastObservationLocalNs = 0 ∨ localNs < c.lastObservationLocalNs then 0
        else localNs - c.lastObservationLocalNs
      projectedTimeNs := projected
      observations := c.observations })

@[simp] lemma driftPpm_snapshot (localNs : UInt64) :
    (c.snapshot localNs).2.driftPpm = c.driftPpm := by
  rw [snapshot, updateState]
  split <;> rfl

end ClockDiscipline

end StageForge
