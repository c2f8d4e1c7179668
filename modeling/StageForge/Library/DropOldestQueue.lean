import Mathlib.Data.List.Basic

/-!
# Queues that drop their oldest item

A queue with a capacity; an item that comes when it is full takes the place of the oldest one.
-/

universe u

structure DropOldestQueue (α : Type u) where
  queue : List α := []
  pushed : List α := []
  popped : List α := []
  dropped : ℕ := 0

namespace DropOldestQueue

variable {α : Type u} {capacity : ℕ} {q : DropOldestQueue α}

def push (capacity : ℕ) (q : DropOldestQueue α) (a : α) : DropOldestQueue α :=
  if q.queue.length < capacity then { q with queue := q.queue ++ [a], pushed := q.pushed ++ [a] }
  else { q with queue := q.queue.tail ++ [a], pushed := q.pushed ++ [a], dropped := q.dropped + 1 }

/-- Up to `n` items are popped. -/
def pop (q : DropOldestQueue α) (n : ℕ) : DropOldestQueue α :=
  { q with queue := q.queue.drop n, popped := q.popped ++ q.queue.take n }

/-- Each item that left the queue was popped or dropped; those that are queued came last. -/
def Accounted (q : DropOldestQueue α) : Prop :=
  ∃ gone : List (α × Bool), q.pushed = gone.map (·.1) ++ q.queue ∧
    q.popped = (gone.filter (·.2)).map (·.1) ∧ q.dropped = (gone.filter fun item => !item.2).length

lemma accounted_empty : Accounted ({} : DropOldestQueue α) := ⟨[], rfl, rfl, rfl⟩

lemma Accounted.push (h : q.Accounted) (hcapacity : 0 < capacity) (a : α) : (q.push capacity a).Accounted := by
  obtain ⟨gone, hpushed, hpopped, hdropped⟩ := h
  unfold DropOldestQueue.push
  split_ifs with hroom
  · refine ⟨gone, ?_, hpopped, hdropped⟩
    rw [hpushed, List.append_assoc]
  · cases hqueue : q.queue with
    | nil =>
      rw [hqueue] at hroom
      exact absurd hcapacity hroom
    | cons oldest rest =>
      refine ⟨gone ++ [(oldest, false)], ?_, ?_, ?_⟩
      · rw [hpushed, hqueue, List.tail_cons, List.map_append, List.map_singleton]
        simp
      · rw [hpopped, List.filter_append]
        simp
      · rw [hdropped, List.filter_append]
        simp

lemma Accounted.pop (h : q.Accounted) (n : ℕ) : (q.pop n).Accounted := by
  obtain ⟨gone, hpushed, hpopped, hdropped⟩ := h
  refine ⟨gone ++ (q.queue.take n).map fun a => (a, true), ?_, ?_, ?_⟩
  · change q.pushed = _ ++ q.queue.drop n
    rw [hpushed, List.map_append, List.map_map, List.append_assoc]
    congr 1
    exact ((congrArg (· ++ q.queue.drop n) (List.map_id _)).trans (List.take_append_drop n q.queue)).symm
  · change q.popped ++ q.queue.take n = _
    rw [hpopped, List.filter_append, List.map_append, List.filter_map]
    congr 1
    simp [Function.comp_def]
  · change q.dropped = _
    rw [hdropped, List.filter_append, List.filter_map]
    simp [Function.comp_def]

end DropOldestQueue
