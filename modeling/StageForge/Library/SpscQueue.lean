import Mathlib

/-!
# A bounded queue with one producer and one consumer

A ring of `capacity` cells with two indices: the producer writes at `head`, the consumer reads at
`tail`, and one cell stays free so that a full queue differs from an empty one. The producer owns
`head` and the consumer `tail`, so a push falls into parts that the consumer may come between.
-/

universe u

structure SpscQueue (α : Type u) (capacity : ℕ) where
  storage : ℕ → α
  head : ℕ
  tail : ℕ

namespace SpscQueue

variable {α : Type u} {capacity : ℕ} {q : SpscQueue α capacity} {x : α}

def empty (blank : α) : SpscQueue α capacity where
  storage _ := blank
  head := 0
  tail := 0

/-- The index after `i`. -/
def increment (capacity i : ℕ) : ℕ := (i + 1) % capacity

def hasRoom (q : SpscQueue α capacity) : Bool := decide (increment capacity q.head ≠ q.tail)

def store (q : SpscQueue α capacity) (x : α) : SpscQueue α capacity :=
  { q with storage := Function.update q.storage q.head x }

def publish (q : SpscQueue α capacity) : SpscQueue α capacity :=
  { q with head := increment capacity q.head }

/-- Push `x`, with nobody in between. -/
def tryPush (q : SpscQueue α capacity) (x : α) : Option (SpscQueue α capacity) :=
  if q.hasRoom then some (q.store x).publish else none

def tryPop (q : SpscQueue α capacity) : Option (α × SpscQueue α capacity) :=
  if q.tail = q.head then none
  else some (q.storage q.tail, { q with tail := increment capacity q.tail })

def size (q : SpscQueue α capacity) : ℕ :=
  if q.tail ≤ q.head then q.head - q.tail else capacity - q.tail + q.head

def contents (q : SpscQueue α capacity) : List α :=
  (List.range q.size).map fun i => q.storage ((q.tail + i) % capacity)

structure Proper (q : SpscQueue α capacity) : Prop where
  head_lt : q.head < capacity
  tail_lt : q.tail < capacity

lemma mod_eq {i : ℕ} (h : i < capacity + capacity) :
    i % capacity = if i < capacity then i else i - capacity := by
  split_ifs with hlt
  · exact Nat.mod_eq_of_lt hlt
  · rw [Nat.mod_eq_sub_mod (by omega), Nat.mod_eq_of_lt (by omega)]

lemma increment_eq {i : ℕ} (h : i < capacity) :
    increment capacity i = if i + 1 < capacity then i + 1 else 0 := by
  rw [increment, mod_eq (by omega)]
  split_ifs <;> omega

lemma proper_empty (blank : α) (h : 0 < capacity) :
    (empty blank : SpscQueue α capacity).Proper := ⟨h, h⟩

@[simp] lemma contents_empty (blank : α) : (empty blank : SpscQueue α capacity).contents = [] := rfl

lemma length_contents : q.contents.length = q.size := by
  rw [contents, List.length_map, List.length_range]

lemma Proper.store (h : q.Proper) (x : α) : (q.store x).Proper := ⟨h.head_lt, h.tail_lt⟩

lemma Proper.publish (h : q.Proper) : q.publish.Proper := by
  have hpos : 0 < capacity := Nat.zero_lt_of_lt h.head_lt
  exact ⟨Nat.mod_lt _ hpos, h.tail_lt⟩

lemma Proper.slot_ne_head (h : q.Proper) {i : ℕ} (hi : i < q.size) :
    (q.tail + i) % capacity ≠ q.head := by
  have hhead := h.head_lt
  have htail := h.tail_lt
  unfold size at hi
  rw [mod_eq (by split_ifs at hi <;> omega)]
  split_ifs at hi ⊢ <;> omega

lemma Proper.slot_size (h : q.Proper) : (q.tail + q.size) % capacity = q.head := by
  have hhead := h.head_lt
  have htail := h.tail_lt
  unfold size
  rw [mod_eq (by split_ifs <;> omega)]
  split_ifs <;> omega

lemma Proper.contents_store (h : q.Proper) (x : α) : (q.store x).contents = q.contents := by
  have hsize : (q.store x).size = q.size := rfl
  unfold contents
  rw [hsize]
  refine List.map_congr_left ?_
  intro i hi
  exact Function.update_of_ne (h.slot_ne_head (List.mem_range.mp hi)) _ _

lemma Proper.size_publish (h : q.Proper) (hroom : q.hasRoom = true) :
    q.publish.size = q.size + 1 := by
  have hhead := h.head_lt
  have htail := h.tail_lt
  have hne : increment capacity q.head ≠ q.tail := of_decide_eq_true hroom
  have hmoved : q.publish.head = increment capacity q.head := rfl
  have hkept : q.publish.tail = q.tail := rfl
  unfold size
  rw [hmoved, hkept]
  rw [increment_eq hhead] at hne ⊢
  split_ifs at hne ⊢ <;> omega

/-- **Moving the head on** appends what stands there. -/
lemma Proper.contents_publish (h : q.Proper) (hroom : q.hasRoom = true) :
    q.publish.contents = q.contents ++ [q.storage q.head] := by
  unfold contents
  rw [h.size_publish hroom, List.range_succ, List.map_append, List.map_singleton]
  have hslot : (q.publish.tail + q.size) % capacity = q.head := h.slot_size
  rw [hslot]
  rfl

lemma Proper.tryPush_eq (h : q.Proper) {q' : SpscQueue α capacity} (hpush : q.tryPush x = some q') :
    q'.Proper ∧ q'.contents = q.contents ++ [x] := by
  unfold tryPush at hpush
  split_ifs at hpush with hroom
  cases hpush
  refine ⟨(h.store x).publish, ?_⟩
  rw [(h.store x).contents_publish hroom, h.contents_store]
  simp [SpscQueue.store]

lemma Proper.tryPush_eq_none (h : q.Proper) : q.tryPush x = none ↔ q.size + 1 = capacity := by
  have hhead := h.head_lt
  have htail := h.tail_lt
  unfold tryPush hasRoom size
  rw [increment_eq hhead]
  simp only [ne_eq, decide_not, Bool.not_eq_eq_eq_not, Bool.not_true, decide_eq_false_iff_not,
    ite_not]
  split_ifs <;> simp <;> omega

lemma size_eq_zero_iff (h : q.Proper) : q.size = 0 ↔ q.tail = q.head := by
  have htail := h.tail_lt
  unfold size
  split_ifs <;> omega

/-- **A pop takes the first value**, and finds none only in an empty queue. -/
lemma Proper.tryPop_cases (h : q.Proper) : (q.contents = [] ∧ q.tryPop = none) ∨
    ∃ x q', q.contents = x :: q'.contents ∧ q'.Proper ∧ q.tryPop = some (x, q') := by
  have hhead := h.head_lt
  have htail := h.tail_lt
  by_cases hempty : q.tail = q.head
  · left
    have hsize : q.size = 0 := (size_eq_zero_iff h).mpr hempty
    refine ⟨?_, if_pos hempty⟩
    rw [contents, hsize]
    rfl
  · right
    refine ⟨q.storage q.tail, { q with tail := increment capacity q.tail }, ?_,
      ⟨hhead, Nat.mod_lt _ (by omega)⟩, if_neg hempty⟩
    have hsize : q.size =
        ({ q with tail := increment capacity q.tail } : SpscQueue α capacity).size + 1 := by
      simp only [size]
      rw [increment_eq htail]
      split_ifs <;> omega
    unfold contents
    rw [hsize, List.range_succ_eq_map, List.map_cons, List.map_map, Nat.add_zero,
      Nat.mod_eq_of_lt htail]
    congr 1
    refine List.map_congr_left ?_
    intro i _
    have hslot : (increment capacity q.tail + i) % capacity = (q.tail + (i + 1)) % capacity := by
      rw [increment, Nat.mod_add_mod]
      congr 1
      omega
    simp only [Function.comp_apply, Nat.succ_eq_add_one, hslot]

lemma Proper.of_tryPop (h : q.Proper) {q' : SpscQueue α capacity} (hpop : q.tryPop = some (x, q')) :
    q'.storage = q.storage ∧ q'.head = q.head ∧ (q.hasRoom = true → q'.hasRoom = true) := by
  unfold tryPop at hpop
  split_ifs at hpop with hempty
  obtain ⟨-, rfl⟩ := Prod.mk.inj (Option.some.inj hpop)
  refine ⟨rfl, rfl, ?_⟩
  intro _
  have hhead := h.head_lt
  have htail := h.tail_lt
  have hne : increment capacity q.head ≠ increment capacity q.tail := by
    rw [increment_eq hhead, increment_eq htail]
    split_ifs <;> omega
  exact decide_eq_true hne

end SpscQueue
