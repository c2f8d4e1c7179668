import Mathlib.Data.List.Induction
import Mathlib.Data.List.SplitLengths
import Mathlib.Tactic.Ring

/-!
# Byte strings

Unsigned integers in network byte order, hexadecimal texts, and strings that are cut into fields of
fixed widths.
-/

namespace Bytes

abbrev ByteString := List UInt8

/-! ## Numbers -/

/-- `int.to_bytes(k, "big")`, for a number that fits. -/
def bigEndian : ℕ → ℕ → ByteString
  | 0, _ => []
  | k + 1, n => bigEndian k (n / 256) ++ [UInt8.ofNat n]

/-- `int.from_bytes(b, "big")`. -/
def ofBigEndian (b : ByteString) : ℕ := b.foldl (fun n byte => 256 * n + byte.toNat) 0

@[simp] lemma length_bigEndian (k n : ℕ) : (bigEndian k n).length = k := by
  induction k generalizing n with
  | zero => rfl
  | succ k ih => rw [bigEndian, List.length_append, ih, List.length_singleton]

lemma ofBigEndian_bigEndian {k n : ℕ} (h : n < 256 ^ k) : ofBigEndian (bigEndian k n) = n := by
  induction k generalizing n with
  | zero =>
    rw [Nat.pow_zero] at h
    rw [Nat.lt_one_iff.mp h]
    rfl
  | succ k ih =>
    have hhigh : n / 256 < 256 ^ k := by
      rw [pow_succ] at h
      omega
    have hstep : ofBigEndian (bigEndian (k + 1) n) =
        256 * ofBigEndian (bigEndian k (n / 256)) + (UInt8.ofNat n).toNat := by
      rw [bigEndian, ofBigEndian, List.foldl_append]
      rfl
    rw [hstep, ih hhigh, UInt8.toNat_ofNat']
    omega

lemma ofBigEndian_lt (b : ByteString) : ofBigEndian b < 256 ^ b.length := by
  induction b using List.reverseRecOn with
  | nil => exact Nat.one_pos
  | append_singleton b byte ih =>
    have hstep : ofBigEndian (b ++ [byte]) = 256 * ofBigEndian b + byte.toNat := by
      rw [ofBigEndian, List.foldl_append]
      rfl
    have hbyte : byte.toNat < 256 := byte.toNat_lt
    rw [hstep, List.length_append, List.length_singleton, pow_succ]
    omega

lemma bigEndian_inj {k m n : ℕ} (hm : m < 256 ^ k) (hn : n < 256 ^ k)
    (h : bigEndian k m = bigEndian k n) : m = n := by
  rw [← ofBigEndian_bigEndian hm, h, ofBigEndian_bigEndian hn]

/-! ## Hexadecimal texts -/

def hexValue (c : Char) : Option ℕ := if '0' ≤ c ∧ c ≤ '9' then some (c.toNat - '0'.toNat)
  else if 'a' ≤ c ∧ c ≤ 'f' then some (c.toNat - 'a'.toNat + 10)
  else if 'A' ≤ c ∧ c ≤ 'F' then some (c.toNat - 'A'.toNat + 10)
  else none

def isSpace (c : Char) : Bool := c = ' ' || (9 ≤ c.toNat && c.toNat ≤ 13)

/-- `bytes.fromhex` of the characters of a text. -/
def ofHexDigits : List Char → Option ByteString
  | [] => some []
  | [c] => if isSpace c then some [] else none
  | c :: d :: rest =>
    if isSpace c then ofHexDigits (d :: rest)
    else
      match hexValue c, hexValue d, ofHexDigits rest with
      | some high, some low, some bytes => some (UInt8.ofNat (16 * high + low) :: bytes)
      | _, _, _ => none

/-- `bytes.fromhex`. -/
def ofHex (text : String) : Option ByteString := ofHexDigits text.toList

def hex (b : ByteString) : String := String.ofList (b.flatMap fun byte =>
    [Nat.digitChar (byte.toNat / 16), Nat.digitChar (byte.toNat % 16)])

example : ofHex "00 1f\tAb" = some [0, 31, 171] := by decide +kernel

/-! ## Fields of fixed widths -/

variable {α : Type}

lemma splitLengths_flatten {widths : List ℕ} {fields : List (List α)} (rest : List α)
    (h : fields.map List.length = widths) :
    widths.splitLengths (fields.flatten ++ rest) = fields := by
  induction fields generalizing widths with
  | nil =>
    obtain rfl := h
    rfl
  | cons field fields ih =>
    obtain rfl := h
    rw [List.map_cons, List.splitLengths_cons, List.flatten_cons, List.append_assoc,
      List.take_left, List.drop_left, ih rfl]

end Bytes
