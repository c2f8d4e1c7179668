import Mathlib.Data.Rat.Floor

/-!
# The native transport clock

What `TransportClock` publishes and how each control call changes it. Readers see a published state
as a whole, so the two slots and their pins are one state here.
-/

namespace StageForge

/-! ## Floating point -/

structure FloatType where
  Carrier : Type
  literal : ℚ → Carrier
  finite : Carrier → Bool
  equal : Carrier → Carrier → Bool
  less : Carrier → Carrier → Bool
  add : Carrier → Carrier → Carrier
  sub : Carrier → Carrier → Carrier
  mul : Carrier → Carrier → Carrier
  div : Carrier → Carrier → Carrier
  abs : Carrier → Carrier

/-- `double` and `float`. -/
structure NativeFloats where
  double : FloatType
  single : FloatType
  toSingle : double.Carrier → single.Carrier
  toDouble : single.Carrier → double.Carrier
  ofInt : ℤ → double.Carrier

def FloatType.rationals : FloatType where
  Carrier := ℚ
  literal q := q
  finite _ := true
  equal a b := decide (a = b)
  less a b := decide (a < b)
  add a b := a + b
  sub a b := a - b
  mul a b := a * b
  div a b := a / b
  abs a := if a < 0 then -a else a

namespace NativeFloats

def rationals : NativeFloats where
  double := .rationals
  single := .rationals
  toSingle q := q
  toDouble q := q
  ofInt n := (n : ℚ)

abbrev Double (S : NativeFloats) : Type := S.double.Carrier

abbrev Single (S : NativeFloats) : Type := S.single.Carrier

end NativeFloats

/-! ## The clock -/

structure TransportClock (S : NativeFloats) where
  running : Bool
  elapsedSeconds : S.Double
  bpm : S.Double
  sampleRate : S.Double
  clockRate : S.Double
  startedAtNs : ℤ

namespace TransportClock

variable {S : NativeFloats}

def clamp (value low high : S.Double) : S.Double := if S.double.finite value = false then low
  else if S.double.less value low then low
  else if S.double.less high value then high
  else value

/-- A clock, made at `now`. -/
def start (sampleRate bpm : S.Double) (now : ℤ) : TransportClock S where
  running := false
  elapsedSeconds := S.double.literal 0
  bpm := clamp bpm (S.double.literal 30) (S.double.literal 300)
  sampleRate := clamp sampleRate (S.double.literal 8000) (S.double.literal 768000)
  clockRate := S.double.literal 1
  startedAtNs := now

variable (c : TransportClock S)

def showSeconds (atNs : ℤ) : S.Double := if c.running then
    let deltaNs := if c.startedAtNs < atNs then atNs - c.startedAtNs else 0
    S.double.add c.elapsedSeconds
      (S.double.mul (S.double.div (S.ofInt deltaNs) (S.double.literal 1000000000)) c.clockRate)
  else c.elapsedSeconds

def play (now : ℤ) : TransportClock S :=
  if c.running then c else { c with startedAtNs := now, running := true }

def pause (now : ℤ) : TransportClock S := if c.running then
    { c with elapsedSeconds := c.showSeconds now, startedAtNs := now, running := false }
  else c

def stop (now : ℤ) : TransportClock S :=
  { c with running := false, elapsedSeconds := S.double.literal 0, startedAtNs := now }

def rewind (now : ℤ) : TransportClock S :=
  { c with elapsedSeconds := S.double.literal 0, startedAtNs := now }

def setBpm (bpm : S.Double) : TransportClock S :=
  { c with bpm := clamp bpm (S.double.literal 30) (S.double.literal 300) }

def seekSeconds (seconds : S.Double) (now : ℤ) : TransportClock S := { c with
    elapsedSeconds := clamp seconds (S.double.literal 0) (S.double.literal 604800)
    startedAtNs := now }

end TransportClock

end StageForge
