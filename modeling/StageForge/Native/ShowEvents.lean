import StageForge.Library.RecentRing
import StageForge.Library.SortedCells
import StageForge.Native.TransportClock

/-!
# Show events and their timeline

A `ShowEvent` is what a producer hands to the show loop: something to be done at a show time. The
timeline holds the events that wait for theirs, in a fixed array, ordered by show time, priority,
type and id (`later`).
-/

namespace StageForge

/-! ## Events -/

inductive ShowEventType
  | transport
  | midi
  | lighting
  | cue
  | automation
  | sampler
  deriving DecidableEq

def ShowEventType.code : ShowEventType → ℕ
  | transport => 0
  | midi => 1
  | lighting => 2
  | cue => 3
  | automation => 4
  | sampler => 5

/-- `sf_priority`. -/
inductive ShowPriority
  | critical
  | forShow
  | production
  | enhancement
  | visual
  | background
  deriving DecidableEq

def ShowPriority.code : ShowPriority → ℕ
  | critical => 0
  | forShow => 1
  | production => 2
  | enhancement => 3
  | visual => 4
  | background => 5

inductive ShowSamplerAction
  | trigger
  | stopSample
  | stopAll
  deriving DecidableEq

/-- `ShowEventPayload`, with the member in use. -/
inductive ShowEventPayload (S : NativeFloats)
  | transport (action : UInt32) (value : S.Double)
  | midi (status data1 data2 port : UInt8)
  | lighting (dmxUniverse channel : UInt16) (value : UInt8)
  | cue (cueId : UInt64)
  | automation (targetId parameterId : UInt64) (value : S.Single) (durationMs : UInt32)
  | sampler (sampleId : UInt64) (velocity : S.Single) (note : UInt8) (action : ShowSamplerAction)

structure ShowEvent (S : NativeFloats) where
  eventId : UInt64
  revision : UInt64
  showTimeNs : UInt64
  ownerId : UInt64
  priority : ShowPriority
  flags : UInt16
  payload : ShowEventPayload S

structure ReplayKey where
  type : ShowEventType
  eventId : UInt64
  deriving DecidableEq

def showEventDropIfLate : UInt16 := 4

def showEventAutomationReleaseOwner : UInt16 := 8

namespace ShowEvent

variable {S : NativeFloats}

def blank (S : NativeFloats) : ShowEvent S where
  eventId := 0
  revision := 0
  showTimeNs := 0
  ownerId := 0
  priority := .forShow
  flags := 0
  payload := .cue 0

variable (event : ShowEvent S)

def type : ShowEventType := match event.payload with
  | .transport .. => .transport
  | .midi .. => .midi
  | .lighting .. => .lighting
  | .cue .. => .cue
  | .automation .. => .automation
  | .sampler .. => .sampler

def key : ReplayKey := ⟨event.type, event.eventId⟩

/-- `show_event_is_valid`. -/
def isValid : Bool := if event.eventId = 0 then false
  else match event.payload with
    | .transport action _ => decide (action ≤ 5)
    | .midi status _ _ _ => decide (0x80 ≤ status)
    | .lighting _ channel _ => decide (1 ≤ channel) && decide (channel ≤ 512)
    | .cue cueId => decide (cueId ≠ 0)
    | .automation targetId parameterId _ _ => decide (targetId ≠ 0) && decide (parameterId ≠ 0)
    | .sampler sampleId _ _ action => decide (action = .stopAll) || decide (sampleId ≠ 0)

/-- The event is to be dropped when its time has passed. -/
def dropsIfLate : Bool := decide (event.flags &&& showEventDropIfLate ≠ 0)

def later (lhs rhs : ShowEvent S) : Bool :=
  if lhs.showTimeNs ≠ rhs.showTimeNs then decide (lhs.showTimeNs > rhs.showTimeNs)
  else if lhs.priority ≠ rhs.priority then decide (lhs.priority.code > rhs.priority.code)
  else if lhs.type ≠ rhs.type then decide (lhs.type.code > rhs.type.code)
  else decide (lhs.eventId > rhs.eventId)

/-- The place of an event in the order (show time, priority, type, id). -/
def rank : ℕ ×ₗ ℕ ×ₗ ℕ ×ₗ ℕ :=
  toLex (event.showTimeNs.toNat, toLex (event.priority.code, toLex (event.type.code,
    event.eventId.toNat)))

lemma type_code_inj {a b : ShowEventType} (h : a.code = b.code) : a = b := by
  cases a <;> cases b <;> first | rfl | simp [ShowEventType.code] at h

lemma priority_code_inj {a b : ShowPriority} (h : a.code = b.code) : a = b := by
  cases a <;> cases b <;> first | rfl | simp [ShowPriority.code] at h

/-- **The comparison of the source is the order of the ranks.** -/
lemma later_iff (lhs rhs : ShowEvent S) : later lhs rhs = true ↔ rank rhs < rank lhs := by
  unfold later rank
  simp only [Prod.Lex.toLex_lt_toLex, ← UInt64.lt_iff_toNat_lt, UInt64.toNat_inj]
  by_cases htime : lhs.showTimeNs = rhs.showTimeNs
  · by_cases hpriority : lhs.priority = rhs.priority
    · by_cases htype : lhs.type = rhs.type
      · simp [htime, hpriority, htype]
      · have hcode : rhs.type.code ≠ lhs.type.code := fun h => htype (type_code_inj h).symm
        simp [htime, hpriority, htype, hcode]
    · have hcode : rhs.priority.code ≠ lhs.priority.code :=
        fun h => hpriority (priority_code_inj h).symm
      simp [htime, hpriority, hcode]
  · simp [htime, Ne.symm htime]

lemma key_eq_of_rank_eq {a b : ShowEvent S} (h : a.rank = b.rank) : a.key = b.key := by
  unfold rank at h
  simp only [EmbeddingLike.apply_eq_iff_eq, Prod.mk.injEq] at h
  obtain ⟨-, -, htype, hid⟩ := h
  rw [key, key, type_code_inj htype, UInt64.toNat_inj.mp hid]

lemma showTimeNs_le_of_rank_le {a b : ShowEvent S} (h : a.rank ≤ b.rank) :
    a.showTimeNs ≤ b.showTimeNs := by
  unfold rank at h
  rw [Prod.Lex.toLex_le_toLex] at h
  rw [UInt64.le_iff_toNat_le]
  rcases h with hlt | ⟨heq, -⟩
  · exact hlt.le
  · exact heq.le

end ShowEvent

/-! ## The timeline -/

structure ShowTimeline (S : NativeFloats) (capacity : ℕ) where
  events : ℕ → ShowEvent S
  size : ℕ

namespace ShowTimeline

open SortedCells

variable {S : NativeFloats} {capacity : ℕ}

def empty : ShowTimeline S capacity where
  events _ := .blank S
  size := 0

variable (t : ShowTimeline S capacity)

/-- Put an event into its place; `none` if that is refused. -/
def schedule (event : ShowEvent S) : Option (ShowTimeline S capacity) :=
  if capacity ≤ t.size ∨ event.isValid = false then none
  else some {
    events := insert (fun other => other.later event) t.size event t.events
    size := t.size + 1 }

/-- Take out an event: those behind it move down. -/
def remove (index : ℕ) : ShowTimeline S capacity where
  events := lower (index + 1) (t.size - 1 - index) t.events
  size := t.size - 1

def popDue (showTimeNs : UInt64) : Option (ShowEvent S × ShowTimeline S capacity) :=
  if t.size = 0 ∨ (t.events 0).showTimeNs > showTimeNs then none
  else some (t.events 0, t.remove 0)

/-- Take out the first event with this key; `none` if there is none. -/
def cancel (key : ReplayKey) : Option (ShowEvent S × ShowTimeline S capacity) :=
  ((List.range t.size).find? fun index => decide ((t.events index).key = key)).map fun index =>
    (t.events index, t.remove index)

def nextShowTimeNs : UInt64 := if t.size ≠ 0 then (t.events 0).showTimeNs else 0

def contents : List (ShowEvent S) := taken t.events t.size

structure Kept (t : ShowTimeline S capacity) : Prop where
  few : t.size ≤ capacity
  sorted : t.contents.Pairwise fun a b => a.rank ≤ b.rank
  valid : ∀ event ∈ t.contents, event.isValid = true

variable {t} {event : ShowEvent S} {showTimeNs : UInt64} {key : ReplayKey}

lemma length_contents : t.contents.length = t.size := length_taken

/-- **An event is taken out** of what waits. -/
lemma contents_remove {index : ℕ} (h : index < t.size) :
    (t.remove index).contents = t.contents.eraseIdx index := taken_lower h

lemma kept_empty : (empty : ShowTimeline S capacity).Kept :=
  ⟨Nat.zero_le _, List.Pairwise.nil, by simp [contents, empty]⟩

lemma Kept.schedule_cases (h : t.Kept) (event : ShowEvent S) :
    ((capacity ≤ t.contents.length ∨ event.isValid = false) ∧ t.schedule event = none) ∨
    ∃ t', t.contents.length < capacity ∧ event.isValid = true ∧ t.schedule event = some t' ∧
      t'.contents.Perm (event :: t.contents) ∧ t'.Kept := by
  rw [length_contents]
  by_cases hrefused : capacity ≤ t.size ∨ event.isValid = false
  · exact .inl ⟨hrefused, if_pos hrefused⟩
  · right
    have heq : t.schedule event = some _ := if_neg hrefused
    rw [not_or, Bool.not_eq_false] at hrefused
    obtain ⟨hroom, hvalid⟩ := hrefused
    have hperm := perm_insert (fun other => other.later event) t.size event t.events
    refine ⟨_, by omega, hvalid, heq, hperm, Nat.lt_of_not_le hroom, ?_, ?_⟩
    · exact sorted_insert (fun other => ShowEvent.later_iff other event) h.sorted
    · intro other hother
      rcases List.mem_cons.mp (hperm.mem_iff.mp hother) with rfl | hold
      · exact hvalid
      · exact h.valid other hold

lemma Kept.of_sublist {t' : ShowTimeline S capacity} (h : t.Kept)
    (hsub : t'.contents.Sublist t.contents) : t'.Kept := by
  refine ⟨?_, h.sorted.sublist hsub, fun event hevent => h.valid event (hsub.subset hevent)⟩
  have hlength := hsub.length_le
  rw [length_contents, length_contents] at hlength
  exact hlength.trans h.few

lemma Kept.popDue_cases (h : t.Kept) (showTimeNs : UInt64) :
    ((∀ event ∈ t.contents, showTimeNs < event.showTimeNs) ∧ t.popDue showTimeNs = none) ∨
    ∃ event t', event.showTimeNs ≤ showTimeNs ∧ t.contents = event :: t'.contents ∧ t'.Kept ∧
      t.popDue showTimeNs = some (event, t') := by
  by_cases hnone : t.size = 0 ∨ (t.events 0).showTimeNs > showTimeNs
  · left
    refine ⟨?_, if_pos hnone⟩
    intro event hevent
    cases hsize : t.size with
    | zero => simp [contents, hsize] at hevent
    | succ n =>
      have hlate : showTimeNs < (t.events 0).showTimeNs := by
        rcases hnone with hzero | hlate
        · omega
        · exact hlate
      have hsorted := h.sorted
      rw [contents, hsize, taken_succ] at hevent hsorted
      rcases List.mem_cons.mp hevent with rfl | hrest
      · exact hlate
      · exact UInt64.lt_of_lt_of_le hlate
          (ShowEvent.showTimeNs_le_of_rank_le ((List.pairwise_cons.mp hsorted).1 event hrest))
  · right
    have heq : t.popDue showTimeNs = some _ := if_neg hnone
    rw [not_or] at hnone
    obtain ⟨hsize, hdue⟩ := hnone
    have hcontents : t.contents = t.events 0 :: (t.remove 0).contents := by
      obtain ⟨n, hn⟩ := Nat.exists_eq_succ_of_ne_zero hsize
      rw [contents_remove (Nat.pos_of_ne_zero hsize), contents, hn, Nat.succ_eq_add_one,
        taken_succ, List.eraseIdx_cons_zero]
    refine ⟨t.events 0, t.remove 0, UInt64.not_lt.mp hdue, hcontents, h.of_sublist ?_, heq⟩
    rw [hcontents]
    exact List.sublist_cons_self _ _

lemma Kept.cancel_cases (h : t.Kept) (key : ReplayKey) :
    ((∀ event ∈ t.contents, event.key ≠ key) ∧ t.cancel key = none) ∨
    ∃ event t', event.key = key ∧ t.contents.Perm (event :: t'.contents) ∧ t'.Kept ∧
      t.cancel key = some (event, t') := by
  unfold cancel
  cases hfind : (List.range t.size).find? fun index => decide ((t.events index).key = key) with
  | none =>
    refine .inl ⟨?_, rfl⟩
    intro event hevent
    obtain ⟨index, hindex, rfl⟩ := List.mem_map.mp hevent
    simpa using List.find?_eq_none.mp hfind index hindex
  | some index =>
    right
    have hkey : (t.events index).key = key := by simpa using List.find?_some hfind
    have hlt : index < t.size := List.mem_range.mp (List.mem_of_find?_eq_some hfind)
    have hget : index < t.contents.length := by rwa [length_contents]
    refine ⟨t.events index, t.remove index, hkey, ?_, h.of_sublist ?_, rfl⟩
    · have hevent : t.contents[index] = t.events index := getElem_taken hget
      rw [contents_remove hlt, ← hevent]
      exact (List.getElem_cons_eraseIdx_perm hget).symm
    · rw [contents_remove hlt]
      exact List.eraseIdx_sublist _ _

end ShowTimeline

end StageForge
