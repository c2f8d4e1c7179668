import Mathlib.Data.UInt
import StageForge.Library.TransitionSystem

/-!
# The native guard of a session channel

`SessionChannelGuard` decides which frames of an authenticated session may reach the engine. It
knows the identity of the session, a key epoch, the capabilities that were negotiated and the highest
sequence number it has accepted. After a rotation it still takes frames of the replaced epoch, up to
a grace limit.
-/

namespace StageForge

/-! ## The guard -/

structure SessionFrameHeader where
  sessionIdHigh : UInt64 := 0
  sessionIdLow : UInt64 := 0
  keyEpoch : UInt64 := 0
  sequence : UInt64 := 0
  capabilityId : UInt64 := 0
  payloadSize : UInt32 := 0
  deriving DecidableEq

/-- What the guard knows about its session. -/
structure SessionChannelStatus where
  sessionIdHigh : UInt64 := 0
  sessionIdLow : UInt64 := 0
  keyEpoch : UInt64 := 0
  previousKeyEpoch : UInt64 := 0
  outboundSequence : UInt64 := 0
  inboundSequence : UInt64 := 0
  accepted : UInt64 := 0
  rejected : UInt64 := 0
  capabilityCount : UInt32 := 0
  authenticated : Bool := false
  confidential : Bool := false
  physicalOutputsArmed : Bool := false
  deriving DecidableEq

/-- The guard, for at most `N` capabilities. -/
structure SessionChannelGuard (N : ℕ) where
  capabilities : Vector UInt64 N := Vector.replicate N 0
  status : SessionChannelStatus := {}
  previousAcceptUntil : UInt64 := 0
  deriving DecidableEq

namespace SessionChannelGuard

variable {N : ℕ}

/-- Is this one of the first `capability_count` entries? -/
def allowed (g : SessionChannelGuard N) (id : UInt64) : Bool :=
  (g.capabilities.toList.take g.status.capabilityCount.toNat).contains id

/-- Write capabilities one after the other, up to the first that is 0. -/
def store (stored : Vector UInt64 N) : ℕ → List UInt64 → Vector UInt64 N × Bool
  | _, [] => (stored, true)
  | i, id :: ids => if id = 0 then (stored, false) else store (stored.setIfInBounds i id) (i + 1) ids

/-- The first line of `configure`: nothing is written then. -/
def Malformed (N : ℕ) (high low keyEpoch : UInt64) (ids : List UInt64) : Prop :=
  (high = 0 ∧ low = 0) ∨ keyEpoch = 0 ∨ ids.length = 0 ∨ N < ids.length

instance (high low keyEpoch : UInt64) (ids : List UInt64) :
    Decidable (Malformed N high low keyEpoch ids) :=
  inferInstanceAs (Decidable (_ ∨ _))

/-- Start a session. `none` is the null pointer. -/
def configure (g : SessionChannelGuard N) (high low keyEpoch : UInt64) :
    Option (List UInt64) → SessionChannelGuard N × Bool
  | none => (g, false)
  | some ids =>
    if Malformed N high low keyEpoch ids then (g, false)
    else
      let status : SessionChannelStatus :=
        { sessionIdHigh := high
          sessionIdLow := low
          keyEpoch := keyEpoch
          capabilityCount := UInt32.ofNat ids.length
          authenticated := true }
      let stored := store g.capabilities 0 ids
      ({ g with capabilities := stored.1, status := status }, stored.2)

def reject (g : SessionChannelGuard N) : SessionChannelGuard N :=
  { g with status := { g.status with rejected := g.status.rejected + 1 } }

/-- The checks that do not look at the key epoch. -/
def Admissible (g : SessionChannelGuard N) (frame : SessionFrameHeader) (verified : Bool) : Prop :=
  g.status.authenticated = true ∧ verified = true ∧
    frame.sessionIdHigh = g.status.sessionIdHigh ∧ frame.sessionIdLow = g.status.sessionIdLow ∧
    frame.payloadSize ≤ 4096 ∧ g.allowed frame.capabilityId = true ∧
    g.status.inboundSequence < frame.sequence

instance (g : SessionChannelGuard N) (frame : SessionFrameHeader) (verified : Bool) :
    Decidable (g.Admissible frame verified) :=
  inferInstanceAs (Decidable (_ ∧ _))

/-- The current key epoch, or the previous one up to the grace limit. -/
def EpochOk (g : SessionChannelGuard N) (frame : SessionFrameHeader) : Prop :=
  frame.keyEpoch = g.status.keyEpoch ∨
    (frame.keyEpoch = g.status.previousKeyEpoch ∧ frame.sequence ≤ g.previousAcceptUntil)

instance (g : SessionChannelGuard N) (frame : SessionFrameHeader) : Decidable (g.EpochOk frame) :=
  inferInstanceAs (Decidable (_ ∨ _))

def authorizeInbound (g : SessionChannelGuard N) (frame : SessionFrameHeader) (verified : Bool) :
    SessionChannelGuard N × Bool :=
  if ¬ g.Admissible frame verified then (g.reject, false)
  else if ¬ g.EpochOk frame then (g.reject, false)
  else
    ({ g with
        status := { g.status with
            inboundSequence := frame.sequence
            accepted := g.status.accepted + 1 } }, true)

def nextOutbound (g : SessionChannelGuard N) (capabilityId : UInt64) (payloadSize : UInt32) :
    SessionChannelGuard N × Option SessionFrameHeader :=
  if g.status.authenticated = true ∧ g.allowed capabilityId = true ∧ payloadSize ≤ 4096 then
    let sequence := g.status.outboundSequence + 1
    ({ g with status := { g.status with outboundSequence := sequence } }, some
        { sessionIdHigh := g.status.sessionIdHigh
          sessionIdLow := g.status.sessionIdLow
          keyEpoch := g.status.keyEpoch
          sequence := sequence
          capabilityId := capabilityId
          payloadSize := payloadSize })
  else (g.reject, none)

def rotate (g : SessionChannelGuard N) (newEpoch : UInt64) (graceFrames : UInt32) :
    SessionChannelGuard N × Bool :=
  if newEpoch ≤ g.status.keyEpoch then (g, false)
  else
    ({ g with
        status := { g.status with previousKeyEpoch := g.status.keyEpoch, keyEpoch := newEpoch }
        previousAcceptUntil :=
          g.status.inboundSequence + (if 1024 < graceFrames then 1024 else graceFrames).toUInt64 },
      true)

def restoreSequences (g : SessionChannelGuard N) (keyEpoch outbound inbound : UInt64)
    (checkpointAuthenticated : Bool) : SessionChannelGuard N × Bool :=
  if checkpointAuthenticated = false ∨ keyEpoch < g.status.keyEpoch ∨
      outbound < g.status.outboundSequence ∨ inbound < g.status.inboundSequence then
    (g, false)
  else
    ({ g with
        status := { g.status with
            keyEpoch := keyEpoch
            outboundSequence := outbound
            inboundSequence := inbound } }, true)

variable {g : SessionChannelGuard N} {high low keyEpoch newEpoch : UInt64} {ids : List UInt64}
  {frame : SessionFrameHeader} {verified : Bool}

lemma store_of_nonzero {ids : List UInt64} (h : ∀ id ∈ ids, id ≠ 0) (stored : Vector UInt64 N) (i : ℕ)
    (hfits : i + ids.length ≤ N) :
    (store stored i ids).2 = true ∧
      (store stored i ids).1.toList.take (i + ids.length) = stored.toList.take i ++ ids := by
  induction ids generalizing stored i with
  | nil => simp [store]
  | cons id ids ih =>
    obtain ⟨hid, hids⟩ := List.forall_mem_cons.mp h
    rw [List.length_cons] at hfits ⊢
    obtain ⟨hall, hwritten⟩ := ih hids (stored.setIfInBounds i id) (i + 1) (by omega)
    have hlength : i < stored.toList.length := by
      rw [Vector.length_toList]
      omega
    rw [store, if_neg hid]
    refine ⟨hall, ?_⟩
    rw [show i + (ids.length + 1) = i + 1 + ids.length by omega, hwritten,
      Vector.toList_setIfInBounds, List.take_add_one, List.take_set_of_le (le_refl i),
      List.getElem?_set_self hlength, Option.toList_some, List.append_assoc, List.singleton_append]

lemma store_of_zero (h : (0 : UInt64) ∈ ids) (stored : Vector UInt64 N) (i : ℕ) :
    (store stored i ids).2 = false := by
  induction ids generalizing stored i with
  | nil => exact absurd h List.not_mem_nil
  | cons id ids ih =>
    rw [store]
    split_ifs with hid
    · rfl
    · refine ih ?_ _ _
      rcases List.mem_cons.mp h with hzero | hmem
      · exact absurd hzero.symm hid
      · exact hmem

lemma configure_succeeds {ids : Option (List UInt64)}
    (h : (g.configure high low keyEpoch ids).2 = true) :
    ∃ l, ids = some l ∧ keyEpoch ≠ 0 ∧
      (g.configure high low keyEpoch ids).1.status.keyEpoch = keyEpoch ∧
      (g.configure high low keyEpoch ids).1.status.previousKeyEpoch = 0 ∧
      ∀ id, (g.configure high low keyEpoch ids).1.allowed id = true → id ∈ l := by
  cases ids with
  | none => simp [configure] at h
  | some l =>
    by_cases hmalformed : Malformed N high low keyEpoch l
    · simp [configure, hmalformed] at h
    · rw [configure, if_neg hmalformed] at h ⊢
      have hnonzero : ∀ id ∈ l, id ≠ 0 := by
        rintro id hmem rfl
        rw [store_of_zero hmem] at h
        cases h
      simp only [Malformed, not_or, not_lt] at hmalformed
      obtain ⟨-, hepoch, -, hfits⟩ := hmalformed
      refine ⟨l, rfl, hepoch, rfl, rfl, fun id hid => ?_⟩
      have hwritten := (store_of_nonzero hnonzero g.capabilities 0 (by omega)).2
      rw [Nat.zero_add, List.take_zero, List.nil_append] at hwritten
      have hcount : (UInt32.ofNat l.length).toNat ≤ l.length := by
        rw [UInt32.toNat_ofNat']
        exact Nat.mod_le _ _
      rw [allowed, List.contains_iff_mem] at hid
      rw [← hwritten]
      exact (List.take_subset_take_left _ hcount) hid

lemma configure_of_refused {ids : Option (List UInt64)}
    (h : ∀ l ∈ ids, Malformed N high low keyEpoch l ∨ (0 : UInt64) ∉ l)
    (hrefused : (g.configure high low keyEpoch ids).2 = false) :
    (g.configure high low keyEpoch ids).1 = g := by
  cases ids with
  | none => rfl
  | some l =>
    by_cases hmalformed : Malformed N high low keyEpoch l
    · rw [configure, if_pos hmalformed]
    · have hnonzero := (h l rfl).resolve_left hmalformed
      simp only [configure, if_neg hmalformed] at hrefused
      simp only [Malformed, not_or, not_lt] at hmalformed
      obtain ⟨-, -, -, hfits⟩ := hmalformed
      have hids : ∀ id ∈ l, id ≠ 0 := fun id hmem hzero => hnonzero (hzero ▸ hmem)
      have hall := (store_of_nonzero hids g.capabilities 0 (by omega)).1
      rw [hrefused] at hall
      cases hall

lemma authorizeInbound_accepts (h : (g.authorizeInbound frame verified).2 = true) :
    g.Admissible frame verified ∧ g.EpochOk frame := by
  unfold authorizeInbound at h
  split_ifs at h with hadmissible hepoch
  exact ⟨hadmissible, hepoch⟩

lemma authorizeInbound_frame (g : SessionChannelGuard N) (frame : SessionFrameHeader)
    (verified : Bool) :
    ∃ inbound accepted rejected, (g.authorizeInbound frame verified).1 = { g with
          status := { g.status with
              inboundSequence := inbound, accepted := accepted, rejected := rejected } } := by
  unfold authorizeInbound
  split_ifs
  · exact ⟨_, _, _, rfl⟩
  · exact ⟨_, _, _, rfl⟩
  · exact ⟨_, _, _, rfl⟩

lemma nextOutbound_frame (g : SessionChannelGuard N) (capabilityId : UInt64)
    (payloadSize : UInt32) :
    ∃ outbound rejected, (g.nextOutbound capabilityId payloadSize).1 = { g with
          status := { g.status with outboundSequence := outbound, rejected := rejected } } := by
  unfold nextOutbound
  split_ifs
  · exact ⟨_, _, rfl⟩
  · exact ⟨_, _, rfl⟩

lemma rotate_limit_le (inbound : UInt64) (graceFrames : UInt32) :
    (inbound + (if 1024 < graceFrames then 1024 else graceFrames).toUInt64).toNat ≤
      inbound.toNat + min graceFrames.toNat 1024 := by
  have hgrace : (if 1024 < graceFrames then 1024 else graceFrames).toUInt64.toNat =
      min graceFrames.toNat 1024 := by
    rw [UInt32.toNat_toUInt64]
    split_ifs with hlarge
    · have : 1024 < graceFrames.toNat := hlarge
      rw [min_eq_right (by omega)]
      rfl
    · have : graceFrames.toNat ≤ 1024 := not_lt.mp hlarge
      rw [min_eq_left this]
  rw [UInt64.toNat_add, hgrace]
  exact Nat.mod_le _ _

end SessionChannelGuard

/-! ## What a guard with separate sessions would remember -/

structure GuardRotation where
  replaced : UInt64
  entered : UInt64
  inbound : UInt64
  graceFrames : UInt32
  deriving DecidableEq

/-- The capabilities of the last successful configuration, and the last rotation since. -/
structure GuardHistory where
  capabilities : List UInt64 := []
  rotation : Option GuardRotation := none
  deriving DecidableEq

inductive GuardCall
  | configure (high low keyEpoch : UInt64) (ids : Option (List UInt64))
  | authorizeInbound (frame : SessionFrameHeader) (verified : Bool)
  | nextOutbound (capabilityId : UInt64) (payloadSize : UInt32)
  | rotate (newEpoch : UInt64) (graceFrames : UInt32)
  | restoreSequences (keyEpoch outbound inbound : UInt64) (checkpointAuthenticated : Bool)

structure GuardedSession (N : ℕ) where
  guard : SessionChannelGuard N := {}
  history : GuardHistory := {}
  deriving DecidableEq

namespace GuardCall

variable {N : ℕ}

def perform (g : SessionChannelGuard N) : GuardCall → SessionChannelGuard N
  | .configure high low keyEpoch ids => (g.configure high low keyEpoch ids).1
  | .authorizeInbound frame verified => (g.authorizeInbound frame verified).1
  | .nextOutbound capabilityId payloadSize => (g.nextOutbound capabilityId payloadSize).1
  | .rotate newEpoch graceFrames => (g.rotate newEpoch graceFrames).1
  | .restoreSequences keyEpoch outbound inbound authentic =>
    (g.restoreSequences keyEpoch outbound inbound authentic).1

def record (g : SessionChannelGuard N) (history : GuardHistory) : GuardCall → GuardHistory
  | .configure high low keyEpoch ids =>
    if (g.configure high low keyEpoch ids).2 = true then { capabilities := ids.getD [] }
    else history
  | .rotate newEpoch graceFrames =>
    if (g.rotate newEpoch graceFrames).2 = true then
      { history with
        rotation := some
          { replaced := g.status.keyEpoch
            entered := newEpoch
            inbound := g.status.inboundSequence
            graceFrames := graceFrames } }
    else history
  | .authorizeInbound .. | .nextOutbound .. | .restoreSequences .. => history

def step (s : GuardedSession N) (call : GuardCall) : Option (GuardedSession N) :=
  some { guard := call.perform s.guard, history := call.record s.guard s.history }

end GuardCall

namespace GuardedSession

variable {N : ℕ}

/-- The frame belongs to the epoch that the last rotation has replaced by the current one, and lies
in the window which that rotation has opened. -/
def InWindow (s : GuardedSession N) (frame : SessionFrameHeader) : Prop :=
  ∃ rotation ∈ s.history.rotation, rotation.entered = s.guard.status.keyEpoch ∧
    frame.keyEpoch = rotation.replaced ∧ frame.keyEpoch ≠ 0 ∧
    frame.sequence.toNat ≤ rotation.inbound.toNat + min rotation.graceFrames.toNat 1024

/-- A refused configuration changes nothing, and an accepted frame is in the scope of the session. -/
def InScope (s : GuardedSession N) : GuardCall → Prop
  | .configure high low keyEpoch ids =>
    (s.guard.configure high low keyEpoch ids).2 = false →
      (s.guard.configure high low keyEpoch ids).1 = s.guard
  | .authorizeInbound frame verified =>
    (s.guard.authorizeInbound frame verified).2 = true →
      frame.capabilityId ∈ s.history.capabilities ∧
        (frame.keyEpoch = s.guard.status.keyEpoch ∨ s.InWindow frame)
  | .nextOutbound .. | .rotate .. | .restoreSequences .. => True

instance (s : GuardedSession N) : (call : GuardCall) → Decidable (s.InScope call)
  | .configure .. => inferInstanceAs (Decidable (_ → _))
  | .authorizeInbound _ _ =>
    inferInstanceAs (Decidable (_ → _ ∧ (_ ∨ ∃ rotation ∈ s.history.rotation, _)))
  | .nextOutbound .. | .rotate .. | .restoreSequences .. => inferInstanceAs (Decidable True)

/-- The frame is let through because of a grace limit that has nothing to do with its epoch: that of
an earlier session, or that of a rotation before a restored checkpoint has raised the epoch. -/
def Stale (s : GuardedSession N) (frame : SessionFrameHeader) : Prop :=
  frame.keyEpoch ≠ s.guard.status.keyEpoch ∧ frame.keyEpoch = s.guard.status.previousKeyEpoch ∧
    frame.sequence ≤ s.guard.previousAcceptUntil ∧
    (frame.keyEpoch = 0 ∨
      ∃ rotation ∈ s.history.rotation, rotation.entered ≠ s.guard.status.keyEpoch)

instance (s : GuardedSession N) (frame : SessionFrameHeader) : Decidable (s.Stale frame) :=
  inferInstanceAs (Decidable (_ ∧ _))

/-- No configuration that is well formed lists capability 0, and no stale frame is verified. -/
def Clean (s : GuardedSession N) : GuardCall → Prop
  | .configure high low keyEpoch ids =>
    ∀ l ∈ ids, SessionChannelGuard.Malformed N high low keyEpoch l ∨ (0 : UInt64) ∉ l
  | .authorizeInbound frame verified => ¬ (s.guard.Admissible frame verified ∧ s.Stale frame)
  | .nextOutbound .. | .rotate .. | .restoreSequences .. => True

instance (s : GuardedSession N) : (call : GuardCall) → Decidable (s.Clean call)
  | .configure .. => inferInstanceAs (Decidable (∀ l ∈ _, _))
  | .authorizeInbound .. => inferInstanceAs (Decidable (¬ _))
  | .nextOutbound .. | .rotate .. | .restoreSequences .. => inferInstanceAs (Decidable True)

/-- What holds of an authenticated guard in a run of clean calls. -/
structure Scoped (s : GuardedSession N) : Prop where
  allowed : ∀ id, s.guard.allowed id = true → id ∈ s.history.capabilities
  epoch : s.guard.status.keyEpoch ≠ 0
  unrotated : s.history.rotation = none → s.guard.status.previousKeyEpoch = 0
  rotated : ∀ rotation ∈ s.history.rotation, s.guard.status.previousKeyEpoch = rotation.replaced ∧
    s.guard.previousAcceptUntil.toNat ≤ rotation.inbound.toNat + min rotation.graceFrames.toNat 1024

variable {s t : GuardedSession N} {call : GuardCall} {calls : List GuardCall}

open SessionChannelGuard

lemma Scoped.step (hscoped : s.guard.status.authenticated = true → s.Scoped) (hclean : s.Clean call)
    (hstep : GuardCall.step s call = some t) (hauthenticated : t.guard.status.authenticated = true) :
    t.Scoped := by
  cases hstep
  cases call with
  | configure high low keyEpoch ids =>
    simp only [GuardCall.perform, GuardCall.record] at hauthenticated ⊢
    by_cases hdone : (s.guard.configure high low keyEpoch ids).2 = true
    · obtain ⟨l, rfl, hepoch, hkey, hprevious, hallowed⟩ :=
        configure_succeeds hdone
      rw [if_pos hdone]
      exact
        { allowed := hallowed
          epoch := by rwa [hkey]
          unrotated := fun _ => hprevious
          rotated := fun rotation hrotation => absurd hrotation (by simp) }
    · have hsame := configure_of_refused hclean (Bool.eq_false_iff.mpr hdone)
      rw [hsame] at hauthenticated ⊢
      rw [if_neg hdone]
      exact hscoped hauthenticated
  | authorizeInbound frame verified =>
    obtain ⟨inbound, accepted, rejected, hguard⟩ :=
      authorizeInbound_frame s.guard frame verified
    simp only [GuardCall.perform, GuardCall.record, hguard] at hauthenticated ⊢
    obtain ⟨hallowed, hepoch, hunrotated, hrotated⟩ := hscoped hauthenticated
    exact ⟨hallowed, hepoch, hunrotated, hrotated⟩
  | nextOutbound capabilityId payloadSize =>
    obtain ⟨outbound, rejected, hguard⟩ :=
      nextOutbound_frame s.guard capabilityId payloadSize
    simp only [GuardCall.perform, GuardCall.record, hguard] at hauthenticated ⊢
    obtain ⟨hallowed, hepoch, hunrotated, hrotated⟩ := hscoped hauthenticated
    exact ⟨hallowed, hepoch, hunrotated, hrotated⟩
  | rotate newEpoch graceFrames =>
    simp only [GuardCall.perform, GuardCall.record, rotate]
      at hauthenticated ⊢
    by_cases hold : newEpoch ≤ s.guard.status.keyEpoch
    · simp only [if_pos hold] at hauthenticated ⊢
      exact hscoped hauthenticated
    · simp only [if_neg hold, if_true] at hauthenticated ⊢
      obtain ⟨hallowed, hepoch, -, -⟩ := hscoped hauthenticated
      refine ⟨hallowed, ?_, fun hnone => absurd hnone (by simp), fun rotation hrotation => ?_⟩
      · intro hzero
        have hnew : newEpoch = 0 := hzero
        rw [hnew] at hold
        exact hold UInt64.zero_le
      · cases hrotation
        exact ⟨rfl, rotate_limit_le _ _⟩
  | restoreSequences keyEpoch outbound inbound authentic =>
    simp only [GuardCall.perform, GuardCall.record, restoreSequences]
      at hauthenticated ⊢
    split_ifs at hauthenticated ⊢ with hrefused
    · exact hscoped hauthenticated
    · obtain ⟨hallowed, hepoch, hunrotated, hrotated⟩ := hscoped hauthenticated
      refine ⟨hallowed, fun hzero => ?_, hunrotated, hrotated⟩
      have hkey : keyEpoch = 0 := hzero
      rw [hkey] at hrefused
      have hpositive : 0 < s.guard.status.keyEpoch := UInt64.pos_iff_ne_zero.mpr hepoch
      exact hrefused (.inr (.inl hpositive))

lemma Scoped.inScope (hscoped : s.guard.status.authenticated = true → s.Scoped)
    (hclean : s.Clean call) : s.InScope call := by
  cases call with
  | configure high low keyEpoch ids => exact configure_of_refused hclean
  | authorizeInbound frame verified =>
    intro haccepted
    obtain ⟨hadmissible, hepoch⟩ := authorizeInbound_accepts haccepted
    have hinv := hscoped hadmissible.1
    refine ⟨hinv.allowed _ hadmissible.2.2.2.2.2.1, ?_⟩
    by_cases hcurrent : frame.keyEpoch = s.guard.status.keyEpoch
    · exact .inl hcurrent
    · right
      obtain ⟨hprevious, hlimit⟩ := hepoch.resolve_left hcurrent
      have hfresh : ¬ (frame.keyEpoch = 0 ∨
          ∃ rotation ∈ s.history.rotation, rotation.entered ≠ s.guard.status.keyEpoch) :=
        fun hstale => hclean ⟨hadmissible, hcurrent, hprevious, hlimit, hstale⟩
      push Not at hfresh
      obtain ⟨hnonzero, hentered⟩ := hfresh
      cases hrotation : s.history.rotation with
      | none => exact absurd (hprevious.trans (hinv.unrotated hrotation)) hnonzero
      | some rotation =>
        have hmem : rotation ∈ s.history.rotation := hrotation
        obtain ⟨hreplaced, hwindow⟩ := hinv.rotated rotation hmem
        refine ⟨rotation, hmem, hentered rotation hmem, hprevious.trans hreplaced, hnonzero, ?_⟩
        have hbelow : frame.sequence.toNat ≤ s.guard.previousAcceptUntil.toNat := hlimit
        omega
  | nextOutbound capabilityId payloadSize => trivial
  | rotate newEpoch graceFrames => trivial
  | restoreSequences keyEpoch outbound inbound authentic => trivial

end GuardedSession

section

open TransitionSystem

variable {N : ℕ} {t : GuardedSession N} {call : GuardCall} {calls : List GuardCall}

/-- **The scope of a session.** In a run of clean calls a configuration that is refused leaves the
guard as it was, and every accepted frame names a capability of the last successful configuration and
carries the current key epoch, or the one before it within the window of the last rotation. -/
theorem guard_scope (hrun : Reaches GuardCall.step GuardedSession.Clean {} calls t)
    (hclean : t.Clean call) : t.InScope call := by
  refine GuardedSession.Scoped.inScope (hrun.invariant
    (I := fun s => s.guard.status.authenticated = true → s.Scoped) ?_ ?_) hclean
  · intro hauthenticated
    cases hauthenticated
  · intro v b w hscoped hv hw
    exact GuardedSession.Scoped.step hscoped hv hw

/-- A frame of session `(1, 1)`. -/
def sessionFrame (keyEpoch sequence capabilityId : UInt64) : SessionFrameHeader :=
  { sessionIdHigh := 1, sessionIdLow := 1, keyEpoch := keyEpoch, sequence := sequence
    capabilityId := capabilityId }

theorem guard_scope_rotated :
    ∃ t : GuardedSession 64,
      t.guard.status.keyEpoch = 2 ∧ (t.guard.authorizeInbound (sessionFrame 1 3 5) true).2 = true ∧
        t.InScope (.authorizeInbound (sessionFrame 1 3 5) true) := by
  have hrun : Reaches GuardCall.step GuardedSession.Clean ({} : GuardedSession 64)
      [.configure 1 1 1 (some [5, 6]), .authorizeInbound (sessionFrame 1 1 5) true, .rotate 2 32] _ :=
    reaches_of_run rfl
  refine ⟨_, ?_, ?_, guard_scope hrun ?_⟩
  · rfl
  · decide +kernel
  · decide +kernel

/-- **What goes wrong.** A configuration that is refused replaces the session, and a frame with a
capability of the refused one is accepted; and after an earlier session has rotated, a frame of epoch
0 is accepted in the next one, which has not. -/
theorem guard_out_of_scope :
    (∃ (t : GuardedSession 64) (calls : List GuardCall), Reaches GuardCall.step Always {} calls t ∧
        ¬ t.InScope (.configure 1 1 2 (some [7, 0]))) ∧
    (∃ (t : GuardedSession 64) (calls : List GuardCall),
      Reaches GuardCall.step Always {} calls t ∧
        ¬ t.InScope (.authorizeInbound (sessionFrame 2 1 7) true)) ∧
    (∃ (t : GuardedSession 64) (calls : List GuardCall),
      Reaches GuardCall.step Always {} calls t ∧
        ¬ t.InScope (.authorizeInbound (sessionFrame 0 1 5) true)) := by
  refine ⟨⟨_, [.configure 1 1 1 (some [5, 6])], reaches_always_of_run rfl, ?_⟩,
    ⟨_, [.configure 1 1 1 (some [5, 6]), .configure 1 1 2 (some [7, 0])],
      reaches_always_of_run rfl, ?_⟩,
    ⟨_, [.configure 2 2 1 (some [5]), .rotate 2 32, .configure 1 1 1 (some [5])],
      reaches_always_of_run rfl, ?_⟩⟩
  · decide +kernel
  · decide +kernel
  · decide +kernel

end

end StageForge
