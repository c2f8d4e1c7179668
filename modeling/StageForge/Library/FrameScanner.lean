import Mathlib.Data.List.Infix

/-!
# Frames in a stream of bytes

Frames of one size, all of which begin with the same bytes, in a stream that may have anything between
them. `scan` skips one byte where no frame starts and a whole frame where one does.
-/

universe u v

variable {β : Type u} {α : Type v}

/-- Frames of one size with the same first bytes. -/
structure Framing (β : Type u) (α : Type v) where
  magic : List β
  size : ℕ
  decode : List β → Option α
  magic_pos : 0 < magic.length
  magic_le : magic.length ≤ size
  magic_of_decode : ∀ {frame a}, decode frame = some a → magic <+: frame

namespace Framing

variable (F : Framing β α)

def frameAt (bytes : List β) : Option α :=
  if F.size ≤ bytes.length then F.decode (bytes.take F.size) else none

lemma size_pos : 0 < F.size := F.magic_pos.trans_le F.magic_le

def scan (bytes : List β) : List α := match bytes with
  | [] => []
  | b :: rest =>
    match F.frameAt (b :: rest) with
    | some a => a :: scan ((b :: rest).drop F.size)
    | none => scan rest
termination_by bytes.length
decreasing_by
  · have := F.size_pos
    simp only [List.length_drop, List.length_cons]
    omega
  · simp

variable {F} {bytes more : List β} {b : β} {a : α}

@[simp] lemma scan_nil : F.scan [] = [] := by rw [scan]

lemma frameAt_append (h : F.size ≤ bytes.length) : F.frameAt (bytes ++ more) = F.frameAt bytes := by
  rw [frameAt, frameAt, if_pos h, if_pos (by rw [List.length_append]; omega), List.take_append_of_le_length h]

lemma le_length_of_frameAt (h : F.frameAt bytes = some a) : F.size ≤ bytes.length := by
  rw [frameAt] at h
  split at h
  · assumption
  · cases h

lemma scan_of_frame (h : F.frameAt bytes = some a) :
    F.scan (bytes ++ more) = a :: F.scan (bytes.drop F.size ++ more) := by
  have hle := le_length_of_frameAt h
  have happend : F.frameAt (bytes ++ more) = some a := by rw [frameAt_append hle, h]
  have hdrop : (bytes ++ more).drop F.size = bytes.drop F.size ++ more := List.drop_append_of_le_length hle
  cases hbytes : bytes with
  | nil =>
    rw [hbytes] at hle
    exact absurd hle (not_le.mpr F.size_pos)
  | cons b rest =>
    rw [hbytes, List.cons_append] at happend hdrop
    rw [List.cons_append, scan, happend, hdrop]

lemma scan_of_no_frame (h : F.frameAt (b :: bytes) = none) : F.scan (b :: bytes) = F.scan bytes := by
  rw [scan, h]

lemma frameAt_of_not_magic (hlength : F.magic.length ≤ bytes.length) (h : ¬F.magic <+: bytes) :
    F.frameAt (bytes ++ more) = none := by
  cases hframe : F.frameAt (bytes ++ more) with
  | none => rfl
  | some a =>
    have hle := le_length_of_frameAt hframe
    rw [frameAt, if_pos hle] at hframe
    have hprefix := (F.magic_of_decode hframe).trans (List.take_prefix _ _)
    exact absurd (List.prefix_of_prefix_length_le hprefix (List.prefix_append _ _) hlength) h

lemma scan_of_short (h : bytes.length < F.size) : F.scan bytes = [] := by
  induction bytes with
  | nil => exact scan_nil
  | cons b bytes ih =>
    rw [scan_of_no_frame (if_neg (not_le.mpr h))]
    exact ih (lt_of_le_of_lt (by simp) h)

end Framing
