import Mathlib.Data.List.Nodup
import Mathlib.Data.Rat.Floor

/-!
# The MIDI learn router

`MidiLearnRouter` of `native/include/stageforge/midi_learn_router.hpp` turns messages of controls into actions.

Numbers of type `float` and `double` are exact.
-/

namespace StageForge

inductive MidiLearnMessage
  | note
  | controlChange
  | pitchBend
  | program
  deriving DecidableEq

inductive MidiMapBehavior
  | absolute
  | relative
  | trigger
  | toggle
  | gate
  deriving DecidableEq

inductive MidiMappedActionKind
  | automation
  | transportPlay
  | transportStop
  | transportTempo
  | sampleTrigger
  | loopToggle
  | loopClear
  deriving DecidableEq

structure MidiLearnBinding where
  mappingId : UInt64
  deviceId : UInt64
  targetId : UInt64
  resourceId : UInt64 := 0
  parameterId : UInt32 := 0
  channel : UInt8 := 0
  number : UInt8 := 0
  stepsPerBeat : UInt8 := 0
  message : MidiLearnMessage := .controlChange
  behavior : MidiMapBehavior := .absolute
  action : MidiMappedActionKind := .automation
  minimum : ℚ := 0
  maximum : ℚ := 1
  relativePosition : ℚ := 1 / 2
  keySync : Bool := false
  enabled : Bool := true
  toggleState : Bool := false
  deriving DecidableEq

structure MidiMappedAction where
  mappingId : UInt64
  targetId : UInt64
  resourceId : UInt64
  showTimeNs : ℕ
  parameterId : UInt32
  value : ℚ
  inputNote : ℕ := 0
  outputNote : ℕ := 0
  action : MidiMappedActionKind
  keySynced : Bool := false
  deriving DecidableEq

/-- The control of a binding: device, channel, message and number. -/
def MidiLearnBinding.source (b : MidiLearnBinding) : UInt64 × UInt8 × MidiLearnMessage × UInt8 :=
  (b.deviceId, b.channel, b.message, b.number)

/-- The bindings and the queue, each up to its capacity. -/
structure MidiLearnRouter where
  bindings : List MidiLearnBinding := []
  actions : List MidiMappedAction := []
  received : ℕ := 0
  matched : ℕ := 0
  dropped : ℕ := 0
  masterBpm : ℚ := 120
  keyRoot : ℕ := 0
  scaleMask : ℕ := 0x0AB5
  deriving DecidableEq

/-- The part of a message that a binding is looked up by, and its value. -/
structure MidiReading where
  message : MidiLearnMessage
  number : UInt8
  raw : ℕ

/-- A message with at most this value turns a relative control up. -/
def relativeUp : ℕ := 63

namespace MidiLearnRouter

/-! ## Bindings -/

def sameSource (a b : MidiLearnBinding) : Bool := decide (a.source = b.source)

def replacedBy (b entry : MidiLearnBinding) : Bool :=
  decide (entry.mappingId = b.mappingId) || sameSource entry b

/-- The loop of `upsert`: the first entry with the id or the control of the binding is overwritten. -/
def upsertIn (b : MidiLearnBinding) : List MidiLearnBinding → Option (List MidiLearnBinding)
  | [] => none
  | entry :: rest => if replacedBy b entry then some (b :: rest) else (upsertIn b rest).map (entry :: ·)

def upsert (bindingCapacity : ℕ) (r : MidiLearnRouter) (b : MidiLearnBinding) : MidiLearnRouter × Bool :=
  if b.mappingId = 0 ∨ b.deviceId = 0 ∨ b.targetId = 0 ∨ 15 < b.channel ∨ 127 < b.number then (r, false)
  else match upsertIn b r.bindings with
    | some bindings => ({ r with bindings }, true)
    | none =>
      if bindingCapacity ≤ r.bindings.length then (r, false)
      else ({ r with bindings := r.bindings ++ [b] }, true)

/-- The loop of `remove`: the last entry takes the place of the first one with the id. -/
def removeIn (mappingId : UInt64) : List MidiLearnBinding → Option (List MidiLearnBinding)
  | [] => none
  | entry :: rest =>
    if entry.mappingId = mappingId then
      match rest.getLast? with
      | none => some []
      | some last => some (last :: rest.dropLast)
    else (removeIn mappingId rest).map (entry :: ·)

def remove (r : MidiLearnRouter) (mappingId : UInt64) : MidiLearnRouter × Bool :=
  match removeIn mappingId r.bindings with
  | some bindings => ({ r with bindings }, true)
  | none => (r, false)

/-! ## Messages -/

/-- What `process` makes of a message. -/
def reading (status data1 data2 : UInt8) : Option MidiReading := let high := status &&& 0xF0
  if high = 0x90 ∧ 0 < data2 then some ⟨.note, data1, data2.toNat⟩
  else if high = 0x80 ∨ high = 0x90 then none
  else if high = 0xB0 then some ⟨.controlChange, data1, data2.toNat⟩
  else if high = 0xE0 then some ⟨.pitchBend, 0, data1.toNat ||| (data2.toNat <<< 7)⟩
  else if high = 0xC0 then some ⟨.program, data1, data1.toNat⟩
  else none

def quantize (masterBpm : ℚ) (showNs : ℕ) (steps : UInt8) : ℕ := if steps = 0 then showNs
  else
    let beat := ⌊60000000000 / masterBpm⌋.toNat
    let step := max 1 (beat / steps.toNat)
    (showNs + step - 1) / step * step

def inScale (keyRoot scaleMask : ℕ) (note : ℕ) : Bool := scaleMask.testBit ((note + 120 - keyRoot) % 12)

/-- `nearest_key_note`: the note below goes before the one above. -/
def nearestKeyNote (keyRoot scaleMask : ℕ) (note : ℕ) : ℕ :=
  ((List.range 12).findSome? fun distance =>
    if distance ≤ note ∧ inScale keyRoot scaleMask (note - distance) then some (note - distance)
    else if note + distance ≤ 127 ∧ inScale keyRoot scaleMask (note + distance) then some (note + distance)
    else none).getD note

def hears (device : UInt64) (status : UInt8) (m : MidiReading) (b : MidiLearnBinding) : Bool :=
  b.enabled && decide (b.source = (device, status &&& 0x0F, m.message, m.number))

/-- The binding after a message: a relative control moves, a toggle flips. -/
def moved (m : MidiReading) (b : MidiLearnBinding) : MidiLearnBinding := match b.behavior with
  | .relative =>
    let delta : ℤ := if m.raw ≤ relativeUp then m.raw else m.raw - 128
    { b with relativePosition := max 0 (min 1 (b.relativePosition + delta / 127)) }
  | .toggle => { b with toggleState := !b.toggleState }
  | _ => b

/-- The action of a binding, after it has moved. -/
def actionOf (r : MidiLearnRouter) (data1 : UInt8) (showNs : ℕ) (m : MidiReading) (b : MidiLearnBinding) :
    MidiMappedAction :=
  let normalized : ℚ := match b.behavior with
    | .relative => b.relativePosition
    | _ => if m.message = .pitchBend then m.raw / 16383 else m.raw / 127
  let value : ℚ := match b.behavior with
    | .toggle => if b.toggleState then 1 else 0
    | .trigger | .gate => 1
    | _ => b.minimum + (b.maximum - b.minimum) * normalized
  let synced := b.keySync && decide (m.message = .note)
  { mappingId := b.mappingId
    targetId := b.targetId
    resourceId := b.resourceId
    showTimeNs := quantize r.masterBpm showNs b.stepsPerBeat
    parameterId := b.parameterId
    value
    inputNote := if synced then data1.toNat else 0
    outputNote := if synced then nearestKeyNote r.keyRoot r.scaleMask data1.toNat else 0
    action := b.action
    keySynced := synced }

/-- `push`, and how `process` counts it. -/
def push (actionCapacity : ℕ) (r : MidiLearnRouter) (action : MidiMappedAction) : MidiLearnRouter :=
  if actionCapacity ≤ r.actions.length then { r with dropped := r.dropped + 1 }
  else { r with actions := r.actions ++ [action], matched := r.matched + 1 }

/-- `process`. What one binding does depends on no other, so the bindings are moved first and the actions pushed
in their order. -/
def process (actionCapacity : ℕ) (r : MidiLearnRouter) (device : UInt64) (status data1 data2 : UInt8)
    (showNs : ℕ) : MidiLearnRouter :=
  let r := { r with received := r.received + 1 }
  match reading status data1 data2 with
  | none => r
  | some m =>
    let bindings := r.bindings.map fun b => if hears device status m b then moved m b else b
    let actions := (r.bindings.filter (hears device status m)).map fun b =>
      r.actionOf data1 showNs m (moved m b)
    actions.foldl (push actionCapacity) { r with bindings }

def pop (r : MidiLearnRouter) : MidiLearnRouter × Option MidiMappedAction := match r.actions with
  | [] => (r, none)
  | action :: actions => ({ r with actions }, some action)

def configureMaster (r : MidiLearnRouter) (bpm : ℚ) (keyRoot scaleMask : ℕ) : MidiLearnRouter :=
  { r with
    masterBpm := max 30 (min 300 bpm)
    keyRoot := keyRoot % 12
    scaleMask := if scaleMask = 0 then 0x0FFF else scaleMask &&& 0x0FFF }

def clear (_ : MidiLearnRouter) : MidiLearnRouter := {}

/-! ## Distinct ids and controls -/

structure Unique (bindings : List MidiLearnBinding) : Prop where
  ids : (bindings.map (·.mappingId)).Nodup
  sources : (bindings.map (·.source)).Nodup

section

variable {bindings bindings' pre post : List MidiLearnBinding} {b entry : MidiLearnBinding} {mappingId : UInt64}

lemma Unique.perm (h : Unique bindings) (hperm : List.Perm bindings bindings') : Unique bindings' :=
  ⟨(hperm.map _).nodup_iff.mp h.ids, (hperm.map _).nodup_iff.mp h.sources⟩

lemma unique_cons : Unique (entry :: bindings) ↔
    (∀ other ∈ bindings, replacedBy entry other = false) ∧ Unique bindings := by
  have hreplaced (other : MidiLearnBinding) : replacedBy entry other = false ↔
      other.mappingId ≠ entry.mappingId ∧ other.source ≠ entry.source := by
    unfold replacedBy sameSource
    rw [Bool.or_eq_false_iff, decide_eq_false_iff_not, decide_eq_false_iff_not]
  constructor
  · rintro ⟨hids, hsources⟩
    rw [List.map_cons, List.nodup_cons] at hids hsources
    refine ⟨fun other hother => (hreplaced other).mpr ⟨fun hsame => ?_, fun hsame => ?_⟩, hids.2, hsources.2⟩
    · exact hids.1 (hsame ▸ List.mem_map_of_mem hother)
    · exact hsources.1 (hsame ▸ List.mem_map_of_mem hother)
  · rintro ⟨hother, hids, hsources⟩
    constructor
    · rw [List.map_cons, List.nodup_cons]
      refine ⟨fun hmem => ?_, hids⟩
      obtain ⟨other, hin, hsame⟩ := List.mem_map.mp hmem
      exact ((hreplaced other).mp (hother other hin)).1 hsame
    · rw [List.map_cons, List.nodup_cons]
      refine ⟨fun hmem => ?_, hsources⟩
      obtain ⟨other, hin, hsame⟩ := List.mem_map.mp hmem
      exact ((hreplaced other).mp (hother other hin)).2 hsame

lemma unique_middle : Unique (pre ++ entry :: post) ↔
    (∀ other ∈ pre ++ post, replacedBy entry other = false) ∧ Unique (pre ++ post) := by
  rw [← unique_cons]
  exact ⟨fun h => h.perm List.perm_middle, fun h => h.perm List.perm_middle.symm⟩

lemma upsertIn_cases (b : MidiLearnBinding) (bindings : List MidiLearnBinding) :
    (upsertIn b bindings = none ∧ ∀ entry ∈ bindings, replacedBy b entry = false) ∨
    ∃ pre entry post, bindings = pre ++ entry :: post ∧ (∀ other ∈ pre, replacedBy b other = false) ∧
      replacedBy b entry = true ∧ upsertIn b bindings = some (pre ++ b :: post) := by
  induction bindings with
  | nil => exact .inl ⟨rfl, by simp⟩
  | cons first rest ih =>
    by_cases hfirst : replacedBy b first = true
    · exact .inr ⟨[], first, rest, rfl, by simp, hfirst, by simp [upsertIn, hfirst]⟩
    · have hpast : upsertIn b (first :: rest) = (upsertIn b rest).map (first :: ·) := by
        rw [upsertIn, if_neg hfirst]
      have hfirst : replacedBy b first = false := by simpa using hfirst
      rcases ih with ⟨hnone, hall⟩ | ⟨pre, entry, post, rfl, hpre, hentry, hsome⟩
      · exact .inl ⟨by rw [hpast, hnone, Option.map_none], List.forall_mem_cons.mpr ⟨hfirst, hall⟩⟩
      · exact .inr ⟨first :: pre, entry, post, rfl, List.forall_mem_cons.mpr ⟨hfirst, hpre⟩, hentry,
          by rw [hpast, hsome, Option.map_some, List.cons_append]⟩

lemma removeIn_cases (mappingId : UInt64) (bindings : List MidiLearnBinding) :
    removeIn mappingId bindings = none ∨
    ∃ pre entry post left, bindings = pre ++ entry :: post ∧ entry.mappingId = mappingId ∧
      removeIn mappingId bindings = some (pre ++ left) ∧ List.Perm left post := by
  induction bindings with
  | nil => exact .inl rfl
  | cons first rest ih =>
    by_cases hfirst : first.mappingId = mappingId
    · refine .inr ⟨[], first, rest, ?_⟩
      unfold removeIn
      rw [if_pos hfirst]
      cases hlast : rest.getLast? with
      | none =>
        obtain rfl := List.getLast?_eq_none_iff.mp hlast
        exact ⟨[], rfl, hfirst, rfl, .refl _⟩
      | some last =>
        obtain ⟨init, rfl⟩ := List.getLast?_eq_some_iff.mp hlast
        refine ⟨last :: init, rfl, hfirst, ?_, List.perm_append_singleton last init |>.symm⟩
        simp
    · have hpast : removeIn mappingId (first :: rest) = (removeIn mappingId rest).map (first :: ·) := by
        rw [removeIn, if_neg hfirst]
      rcases ih with hnone | ⟨pre, entry, post, left, rfl, hentry, hsome, hperm⟩
      · exact .inl (by rw [hpast, hnone, Option.map_none])
      · exact .inr ⟨first :: pre, entry, post, left, rfl, hentry,
          by rw [hpast, hsome, Option.map_some, List.cons_append], hperm⟩

/-- What an `upsert` matches: entries with the id or the control of the binding. -/
def replaced (r : MidiLearnRouter) (b : MidiLearnBinding) : List MidiLearnBinding :=
  r.bindings.filter (replacedBy b)

variable {bindingCapacity : ℕ} {r : MidiLearnRouter}

lemma upsert_refused (h : (r.upsert bindingCapacity b).2 = false) :
    (r.upsert bindingCapacity b).1.bindings = r.bindings := by
  unfold upsert at h ⊢
  split
  · rfl
  · rename_i hvalid
    rw [if_neg hvalid] at h
    split
    · rename_i hsome
      rw [hsome] at h
      cases h
    · rename_i hnone
      rw [hnone] at h
      split
      · rfl
      · rename_i hroom
        simp [hroom] at h

/-- **When a binding keeps ids and controls distinct**: if it matches at most one entry. -/
lemma upsert_unique_iff (h : Unique r.bindings) (haccepted : (r.upsert bindingCapacity b).2 = true) :
    Unique (r.upsert bindingCapacity b).1.bindings ↔ (r.replaced b).length ≤ 1 := by
  unfold upsert at haccepted ⊢
  split at haccepted
  · cases haccepted
  rename_i hvalid
  rw [if_neg hvalid]
  unfold replaced
  rcases upsertIn_cases b r.bindings with ⟨hnone, hall⟩ | ⟨pre, entry, post, hsplit, hpre, hentry, hsome⟩
  · rw [hnone] at haccepted ⊢
    dsimp only at haccepted ⊢
    split at haccepted
    · cases haccepted
    rename_i hroom
    rw [if_neg hroom]
    have hnothing : r.bindings.filter (replacedBy b) = [] :=
      List.filter_eq_nil_iff.mpr fun other hother => by simp [hall other hother]
    have hunique : Unique (r.bindings ++ [b]) := by
      refine unique_middle.mpr ⟨fun other hother => ?_, ?_⟩
      · exact hall other (by simpa using hother)
      · simpa using h
    rw [hnothing]
    exact iff_of_true hunique (Nat.zero_le 1)
  · rw [hsome]
    rw [hsplit] at h
    have hrest : Unique (pre ++ post) := (unique_middle.mp h).2
    have hcount : (r.bindings.filter (replacedBy b)).length = (post.filter (replacedBy b)).length + 1 := by
      have hpre : pre.filter (replacedBy b) = [] :=
        List.filter_eq_nil_iff.mpr fun other hother => by simp [hpre other hother]
      rw [hsplit, List.filter_append, hpre, List.nil_append, List.filter_cons_of_pos hentry, List.length_cons]
    rw [hcount, unique_middle]
    constructor
    · rintro ⟨hother, -⟩
      have hpost : post.filter (replacedBy b) = [] :=
        List.filter_eq_nil_iff.mpr fun other hin => by simp [hother other (List.mem_append_right _ hin)]
      rw [hpost]
      exact le_refl 1
    · intro hone
      have hpost : post.filter (replacedBy b) = [] := List.length_eq_zero_iff.mp (by omega)
      refine ⟨fun other hin => ?_, hrest⟩
      rcases List.mem_append.mp hin with hin | hin
      · exact hpre other hin
      · simpa using List.filter_eq_nil_iff.mp hpost other hin

lemma remove_unique (h : Unique r.bindings) : Unique (r.remove mappingId).1.bindings := by
  unfold remove
  rcases removeIn_cases mappingId r.bindings with hnone | ⟨pre, entry, post, left, hsplit, -, hsome, hperm⟩
  · rw [hnone]
    exact h
  · rw [hsome]
    rw [hsplit] at h
    exact (unique_middle.mp h).2.perm (hperm.symm.append_left pre)

lemma removed_gone (h : Unique r.bindings) (hremoved : (r.remove mappingId).2 = true) :
    ∀ other ∈ (r.remove mappingId).1.bindings, other.mappingId ≠ mappingId := by
  unfold remove at hremoved ⊢
  rcases removeIn_cases mappingId r.bindings with hnone | ⟨pre, entry, post, left, hsplit, hentry, hsome, hperm⟩
  · rw [hnone] at hremoved
    cases hremoved
  · rw [hsome]
    rw [hsplit] at h
    intro other hother hsame
    have hin : other ∈ pre ++ post := by
      rcases List.mem_append.mp hother with hpre | hleft
      · exact List.mem_append_left _ hpre
      · exact List.mem_append_right _ (hperm.mem_iff.mp hleft)
    have hdistinct := (unique_middle.mp h).1 other hin
    unfold replacedBy at hdistinct
    simp [hsame, hentry] at hdistinct

end

/-! ## Messages and controls -/

section

variable {bindings : List MidiLearnBinding} {device : UInt64} {status : UInt8} {m : MidiReading}
  {actionCapacity : ℕ} {r : MidiLearnRouter}

lemma moved_keys (b : MidiLearnBinding) : (moved m b).mappingId = b.mappingId ∧ (moved m b).source = b.source := by
  unfold moved
  split <;> exact ⟨rfl, rfl⟩

lemma unique_moved (h : Unique bindings) (moves : MidiLearnBinding → Bool) :
    Unique (bindings.map fun b => if moves b then moved m b else b) := by
  have hkeys (b : MidiLearnBinding) : (if moves b then moved m b else b).mappingId = b.mappingId ∧
      (if moves b then moved m b else b).source = b.source := by
    split
    · exact moved_keys b
    · exact ⟨rfl, rfl⟩
  constructor
  · rw [List.map_map]
    exact (List.map_congr_left fun b _ => (hkeys b).1) ▸ h.ids
  · rw [List.map_map]
    exact (List.map_congr_left fun b _ => (hkeys b).2) ▸ h.sources

lemma hears_at_most_one (h : Unique bindings) : (bindings.filter (hears device status m)).length ≤ 1 := by
  have hsource (b : MidiLearnBinding) (hb : b ∈ bindings.filter (hears device status m)) :
      b.source = (device, status &&& 0x0F, m.message, m.number) := by
    have hhears := (List.mem_filter.mp hb).2
    exact of_decide_eq_true (Bool.and_eq_true_iff.mp hhears).2
  have hnodup : ((bindings.filter (hears device status m)).map (·.source)).Nodup :=
    h.sources.sublist (List.filter_sublist.map _)
  match hfilter : bindings.filter (hears device status m) with
  | [] => exact Nat.zero_le 1
  | [b] => exact le_refl 1
  | b :: c :: rest =>
    rw [hfilter] at hsource hnodup
    have hsame := (hsource b (by simp)).trans (hsource c (by simp)).symm
    simp [hsame] at hnodup

lemma length_foldl_push (actions : List MidiMappedAction) : ∀ r : MidiLearnRouter,
    (actions.foldl (push actionCapacity) r).actions.length ≤ r.actions.length + actions.length ∧
      (actions.foldl (push actionCapacity) r).bindings = r.bindings := by
  induction actions with
  | nil => intro r; exact ⟨le_refl _, rfl⟩
  | cons action actions ih =>
    intro r
    obtain ⟨hlength, hbindings⟩ := ih (push actionCapacity r action)
    have hpush : (push actionCapacity r action).actions.length ≤ r.actions.length + 1 ∧
        (push actionCapacity r action).bindings = r.bindings := by
      unfold push
      split
      · exact ⟨Nat.le_succ _, rfl⟩
      · exact ⟨by simp, rfl⟩
    rw [List.foldl_cons]
    refine ⟨?_, hbindings.trans hpush.2⟩
    rw [List.length_cons]
    omega

lemma process_unique (h : Unique r.bindings) (data1 data2 : UInt8) (showNs : ℕ) :
    Unique (r.process actionCapacity device status data1 data2 showNs).bindings := by
  unfold process
  split
  · exact h
  · rw [(length_foldl_push _ _).2]
    exact unique_moved h _

/-- **A message queues at most one action.** -/
lemma process_queues_one (h : Unique r.bindings) (data1 data2 : UInt8) (showNs : ℕ) :
    (r.process actionCapacity device status data1 data2 showNs).actions.length ≤ r.actions.length + 1 := by
  unfold process
  split
  · exact Nat.le_succ _
  · refine (length_foldl_push _ _).1.trans (Nat.add_le_add_left ?_ _)
    rw [List.length_map]
    exact hears_at_most_one h

end

end MidiLearnRouter

/-! ## Runs -/

inductive MidiLearnCall
  | upsert (b : MidiLearnBinding)
  | remove (mappingId : UInt64)
  | process (device : UInt64) (status data1 data2 : UInt8) (showNs : ℕ)
  | pop
  | configureMaster (bpm : ℚ) (keyRoot scaleMask : ℕ)
  | clear

namespace MidiLearnRouter

structure OneBinding (actionCapacity : ℕ) (r : MidiLearnRouter) : Prop where
  ids : (r.bindings.map (·.mappingId)).Nodup
  sources : (r.bindings.map (·.source)).Nodup
  queued : ∀ device status data1 data2 showNs,
    (r.process actionCapacity device status data1 data2 showNs).actions.length ≤ r.actions.length + 1
  removed : ∀ mappingId, (r.remove mappingId).2 = true →
    ∀ b ∈ (r.remove mappingId).1.bindings, b.mappingId ≠ mappingId

section

variable {bindingCapacity actionCapacity : ℕ} {r : MidiLearnRouter}

lemma oneBinding_iff : r.OneBinding actionCapacity ↔ Unique r.bindings := by
  constructor
  · exact fun h => ⟨h.ids, h.sources⟩
  · exact fun h => ⟨h.ids, h.sources, fun _ _ _ _ _ => process_queues_one h _ _ _, fun _ => removed_gone h⟩

variable (bindingCapacity actionCapacity) in
def call (r : MidiLearnRouter) : MidiLearnCall → MidiLearnRouter
  | .upsert b => (r.upsert bindingCapacity b).1
  | .remove mappingId => (r.remove mappingId).1
  | .process device status data1 data2 showNs => r.process actionCapacity device status data1 data2 showNs
  | .pop => r.pop.1
  | .configureMaster bpm keyRoot scaleMask => r.configureMaster bpm keyRoot scaleMask
  | .clear => r.clear

variable (bindingCapacity actionCapacity) in
def runCalls (r : MidiLearnRouter) (calls : List MidiLearnCall) : MidiLearnRouter :=
  calls.foldl (call bindingCapacity actionCapacity) r

variable (bindingCapacity) in
/-- The call is not that of a binding that is accepted and matches two entries. -/
def MatchesOne (r : MidiLearnRouter) : MidiLearnCall → Prop
  | .upsert b => (r.upsert bindingCapacity b).2 = true → (r.replaced b).length ≤ 1
  | _ => True

/-- **The step lemma.** -/
lemma call_unique_iff (h : Unique r.bindings) (c : MidiLearnCall) :
    Unique (r.call bindingCapacity actionCapacity c).bindings ↔ r.MatchesOne bindingCapacity c := by
  cases c with
  | upsert b =>
    unfold MatchesOne call
    cases haccepted : (r.upsert bindingCapacity b).2 with
    | true => exact (upsert_unique_iff h haccepted).trans ⟨fun hone _ => hone, fun hone => hone haccepted⟩
    | false =>
      rw [upsert_refused haccepted]
      exact iff_of_true h fun hyes => absurd (haccepted.symm.trans hyes) (by simp)
  | remove mappingId => exact iff_of_true (remove_unique h) trivial
  | process device status data1 data2 showNs => exact iff_of_true (process_unique h data1 data2 showNs) trivial
  | pop =>
    refine iff_of_true ?_ trivial
    unfold call pop
    dsimp only
    split <;> exact h
  | configureMaster bpm keyRoot scaleMask => exact iff_of_true h trivial
  | clear => exact iff_of_true ⟨List.nodup_nil, List.nodup_nil⟩ trivial

/-- **The run lemma.** -/
lemma run_unique {calls : List MidiLearnCall} (h : Unique r.bindings)
    (hmatches : ∀ before c later, calls = before ++ c :: later →
      (r.runCalls bindingCapacity actionCapacity before).MatchesOne bindingCapacity c) :
    Unique (r.runCalls bindingCapacity actionCapacity calls).bindings := by
  induction calls generalizing r with
  | nil => exact h
  | cons c calls ih =>
    refine ih ((call_unique_iff h c).mpr (hmatches [] c calls rfl)) fun before c' later hsplit => ?_
    exact hmatches (c :: before) c' later (by rw [hsplit, List.cons_append])

end

/-- **One binding for each control.** In each state of a run, ids and controls are distinct, a message queues at
most one action and what is removed is gone: exactly if no call of the run puts in a binding that matches two
entries. -/
theorem one_binding_iff (bindingCapacity actionCapacity : ℕ) (calls : List MidiLearnCall) :
    (∀ before later, calls = before ++ later →
      (runCalls bindingCapacity actionCapacity {} before).OneBinding actionCapacity) ↔
    ∀ before c later, calls = before ++ c :: later →
      (runCalls bindingCapacity actionCapacity {} before).MatchesOne bindingCapacity c := by
  have hempty : Unique ({} : MidiLearnRouter).bindings := ⟨List.nodup_nil, List.nodup_nil⟩
  constructor
  · intro hone before c later hsplit
    have hbefore := oneBinding_iff.mp (hone before (c :: later) hsplit)
    have hcalls : calls = before ++ [c] ++ later := by
      rw [hsplit, List.append_assoc, List.singleton_append]
    have hafter := oneBinding_iff.mp (hone (before ++ [c]) later hcalls)
    rw [runCalls, List.foldl_append] at hafter
    exact (call_unique_iff hbefore c).mp hafter
  · intro hmatches before later hsplit
    refine oneBinding_iff.mpr (run_unique hempty fun before' c later' hsplit' => ?_)
    exact hmatches before' c (later' ++ later) (by rw [hsplit, hsplit', List.append_assoc, List.cons_append])

/-- A control change of device one, as a binding with this id. -/
def controlBinding (mappingId : UInt64) (number : UInt8) : MidiLearnBinding :=
  { mappingId, deviceId := 1, targetId := 1, number }

/-- **A control is bound twice.** Two controls are bound. The first binding is put in anew for the control of the
second: both entries now have that control, and a message of it queues two actions. -/
theorem bound_twice : ¬∀ calls : List MidiLearnCall, (runCalls 128 256 {} calls).OneBinding 256 := by
  intro hall
  have hone := hall [.upsert (controlBinding 1 10), .upsert (controlBinding 2 20), .upsert (controlBinding 1 20)]
  exact absurd (hone.queued 1 0xB0 20 64 0) (by decide +kernel)

end MidiLearnRouter

end StageForge
