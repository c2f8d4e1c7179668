import Mathlib.Data.Int.ConditionallyCompleteOrder
import Mathlib.Data.List.Infix
import Mathlib.Data.Rat.Floor
import Mathlib.Order.Interval.Set.ProjIcc

/-!
# Values of a Python program that reads JSON

The values `json.loads` can return, with the operations a program applies to a value before it
knows its type: truth, `str`, `int`, `float`, the lookup in an object. An operation that can raise
returns `Except Error`.
-/

namespace Python

inductive Number
  | finite (value : ℚ)
  | inf
  | negInf
  | nan
  deriving DecidableEq

inductive Error
  | typeError
  | attributeError
  | overflowError
  /-- A text that denotes no number, or a float without an integer value. -/
  | notANumber
  | osError
  | structError
  | zeroDivisionError
  | valueError (message : String)
  | keyError (key : String)
  | runtimeError (message : String)
  | permissionError (message : String)
  deriving DecidableEq

/-- A value of a JSON document. The entries of an object are in document order. -/
inductive Value
  | none
  | bool (b : Bool)
  | int (n : Int)
  | float (x : Number)
  | str (s : String)
  | list (items : List Value)
  | dict (entries : List (String × Value))

namespace Number

/-- `max(lo, min(hi, x))`, which takes nan for `hi`. -/
def clamp (lo hi : ℚ) : Number → ℚ
  | .finite q => max lo (min hi q)
  | .negInf => lo
  | _ => max lo hi

/-- `max(lo, x)`, which takes nan for `lo`. -/
def atLeast (lo : ℚ) : Number → Number
  | .finite q => .finite (max lo q)
  | .inf => .inf
  | _ => .finite lo

/-- `clamp` into an interval, as a value of the interval. -/
def within (lo hi : ℚ) (h : lo ≤ hi) : Number → Set.Icc lo hi
  | .finite q => Set.projIcc lo hi h q
  | .negInf => ⟨lo, le_refl lo, h⟩
  | _ => ⟨hi, h, le_refl hi⟩

/-- `q < x`. -/
def above (q : ℚ) : Number → Bool
  | .finite r => q < r
  | .inf => true
  | _ => false

end Number

def roundHalfEven (q : ℚ) : Int :=
  let below := ⌊q⌋
  if q - below < 1 / 2 then below
  else if 1 / 2 < q - below then below + 1
  else if below % 2 = 0 then below else below + 1

/-- `round(q, digits)`. -/
def round (q : ℚ) (digits : ℕ) : ℚ := roundHalfEven (q * 10 ^ digits) / 10 ^ digits

namespace Value

mutual

/-- Equality of values is decided along their structure. -/
def decEq : (v w : Value) → Decidable (v = w)
  | .none, .none => isTrue rfl
  | .bool a, .bool b => decidable_of_iff (a = b) (by simp)
  | .int a, .int b => decidable_of_iff (a = b) (by simp)
  | .float a, .float b => decidable_of_iff (a = b) (by simp)
  | .str a, .str b => decidable_of_iff (a = b) (by simp)
  | .list a, .list b =>
    match decEqItems a b with
    | isTrue h => isTrue (congrArg _ h)
    | isFalse h => isFalse fun heq => h (by injection heq)
  | .dict a, .dict b =>
    match decEqEntries a b with
    | isTrue h => isTrue (congrArg _ h)
    | isFalse h => isFalse fun heq => h (by injection heq)
  | .none, .bool _ | .none, .int _ | .none, .float _ | .none, .str _ | .none, .list _
  | .none, .dict _ | .bool _, .none | .bool _, .int _ | .bool _, .float _ | .bool _, .str _
  | .bool _, .list _ | .bool _, .dict _ | .int _, .none | .int _, .bool _ | .int _, .float _
  | .int _, .str _ | .int _, .list _ | .int _, .dict _ | .float _, .none | .float _, .bool _
  | .float _, .int _ | .float _, .str _ | .float _, .list _ | .float _, .dict _ | .str _, .none
  | .str _, .bool _ | .str _, .int _ | .str _, .float _ | .str _, .list _ | .str _, .dict _
  | .list _, .none | .list _, .bool _ | .list _, .int _ | .list _, .float _ | .list _, .str _
  | .list _, .dict _ | .dict _, .none | .dict _, .bool _ | .dict _, .int _ | .dict _, .float _
  | .dict _, .str _ | .dict _, .list _ => isFalse (by simp)

def decEqItems : (vs ws : List Value) → Decidable (vs = ws)
  | [], [] => isTrue rfl
  | [], _ :: _ => isFalse (by simp)
  | _ :: _, [] => isFalse (by simp)
  | v :: vs, w :: ws =>
    match decEq v w, decEqItems vs ws with
    | isTrue h, isTrue h' => isTrue (by rw [h, h'])
    | isFalse h, _ => isFalse fun heq => h (by injection heq)
    | _, isFalse h => isFalse fun heq => h (by injection heq)

def decEqEntries : (vs ws : List (String × Value)) → Decidable (vs = ws)
  | [], [] => isTrue rfl
  | [], _ :: _ => isFalse (by simp)
  | _ :: _, [] => isFalse (by simp)
  | (k, v) :: vs, (j, w) :: ws =>
    match decEq v w, decEqEntries vs ws, (inferInstance : Decidable (k = j)) with
    | isTrue h, isTrue h', isTrue hk => isTrue (by rw [h, h', hk])
    | isFalse h, _, _ => isFalse fun heq => h (by simp_all)
    | _, isFalse h, _ => isFalse fun heq => h (by simp_all)
    | _, _, isFalse h => isFalse fun heq => h (by simp_all)

end

instance : DecidableEq Value := decEq

/-! ## Truth, equality and lookup -/

def number? : Value → Option Number
  | .bool b => some (.finite (if b then 1 else 0))
  | .int n => some (.finite n)
  | .float x => some x
  | _ => Option.none

mutual

/-- `v == w`: numbers by value, objects without regard to order. -/
def same : Value → Value → Bool
  | .list vs, .list ws => sameItems vs ws
  | .dict vs, .dict ws => decide (vs.length = ws.length) && sameEntries vs ws
  | v, w =>
    match v.number?, w.number? with
    | some x, some y => decide (x = y ∧ x ≠ .nan)
    | Option.none, Option.none => decide (v = w)
    | _, _ => false

def sameItems : List Value → List Value → Bool
  | [], [] => true
  | v :: vs, w :: ws => same v w && sameItems vs ws
  | _, _ => false

def sameEntries : List (String × Value) → List (String × Value) → Bool
  | [], _ => true
  | (k, v) :: vs, ws => (ws.lookup k).any (same v) && sameEntries vs ws

end

/-- `bool(value)`. -/
def truthy : Value → Bool
  | .none => false
  | .bool b => b
  | .int n => n ≠ 0
  | .float (.finite q) => q ≠ 0
  | .float _ => true
  | .str s => s ≠ ""
  | .list items => items ≠ []
  | .dict entries => entries ≠ []

/-- The entries of an object; `value or {}` guarded by `isinstance(value, dict)`. -/
def entries : Value → List (String × Value)
  | .dict entries => entries
  | _ => []

/-- `isinstance(value, dict)`. -/
def isDict : Value → Bool
  | .dict _ => true
  | _ => false

def get? (v : Value) (key : String) : Option Value := v.entries.lookup key

end Value

/-! ## Objects -/

namespace Value

/-- `v or w`. -/
def orElse (v w : Value) : Value := if v.truthy then v else w

/-- `v.get(key, default)`. -/
def get (v : Value) (key : String) (fallback : Value) : Except Error Value := match v with
  | .dict entries => .ok ((entries.lookup key).getD fallback)
  | _ => .error .attributeError

/-- `v[key]`. -/
def item (v : Value) (key : String) : Except Error Value := match v with
  | .dict entries =>
    match entries.lookup key with
    | some w => .ok w
    | Option.none => .error (.keyError key)
  | _ => .error .typeError

/-- `key in v`. -/
def contains (v : Value) (key : String) : Except Error Bool := match v with
  | .dict entries => .ok (entries.lookup key).isSome
  | .list items => .ok (items.any (same (.str key)))
  | .str s => .ok (decide (key.toList <:+: s.toList))
  | _ => .error .typeError

/-- What `for x in v` goes through. -/
def iterate : Value → Except Error (List Value)
  | .list items => .ok items
  | .dict entries => .ok (entries.map fun e => .str e.1)
  | .str s => .ok (s.toList.map fun c => .str (String.ofList [c]))
  | _ => .error .typeError

end Value

/-- `d[key] = v`. -/
def setItem (key : String) (v : Value) : List (String × Value) → List (String × Value)
  | [] => [(key, v)]
  | (k, w) :: rest => if k = key then (k, v) :: rest else (k, w) :: setItem key v rest

/-- `{**d, **e}`. -/
def update (d e : List (String × Value)) : List (String × Value) :=
  e.foldl (fun d entry => setItem entry.1 entry.2 d) d

lemma lookup_setItem (key k : String) (v : Value) :
    ∀ d : List (String × Value), (setItem key v d).lookup k = if k = key then some v else d.lookup k
  | [] => by
    simp only [setItem, List.lookup_cons, List.lookup_nil]
    by_cases h : k = key
    · simp [h]
    · simp [h, beq_false_of_ne h]
  | (j, w) :: rest => by
    unfold setItem
    by_cases hj : j = key
    · subst hj
      simp only [if_true, List.lookup_cons]
      by_cases h : k = j
      · simp [h]
      · simp [h, beq_false_of_ne h]
    · rw [if_neg hj]
      simp only [List.lookup_cons, lookup_setItem key k v rest]
      by_cases h : k = j
      · have hk : k ≠ key := h ▸ hj
        simp [h, hj]
      · simp [beq_false_of_ne h]

/-! ## Texts -/

/-- The characters that `str.strip` removes. -/
def isSpace (c : Char) : Bool :=
  c.toNat ∈ [0x09, 0x0a, 0x0b, 0x0c, 0x0d, 0x1c, 0x1d, 0x1e, 0x1f, 0x20, 0x85, 0xa0, 0x1680,
    0x2000, 0x2001, 0x2002, 0x2003, 0x2004, 0x2005, 0x2006, 0x2007, 0x2008, 0x2009, 0x200a,
    0x2028, 0x2029, 0x202f, 0x205f, 0x3000]

/-- `s.strip()`. -/
def strip (s : String) : String :=
  String.ofList ((s.toList.dropWhile isSpace).reverse.dropWhile isSpace).reverse

/-- `s[:n]`. -/
def clip (n : ℕ) (s : String) : String := String.ofList (s.toList.take n)

/-- `any(c.isspace() for c in s)`. -/
def hasSpace (s : String) : Bool := s.toList.any isSpace

lemma dropWhile_eq_self_of_all {p : Char → Bool} {cs : List Char} (h : cs.any p = false) :
    cs.dropWhile p = cs := by
  cases cs with
  | nil => rfl
  | cons c rest =>
    have hc : p c = false := by
      simp only [List.any_cons, Bool.or_eq_false_iff] at h
      exact h.1
    rw [List.dropWhile_cons, hc]
    rfl

lemma strip_eq_self {s : String} (h : hasSpace s = false) : strip s = s := by
  have hreverse : s.toList.reverse.any isSpace = false := by
    rw [List.any_reverse]
    exact h
  unfold strip
  rw [dropWhile_eq_self_of_all h, dropWhile_eq_self_of_all hreverse, List.reverse_reverse,
    String.ofList_toList]

lemma clip_eq_self {n : ℕ} {s : String} (h : s.length ≤ n) : clip n s = s := by
  unfold clip
  rw [List.take_of_length_le h, String.ofList_toList]

lemma length_clip_le (n : ℕ) (s : String) : (clip n s).length ≤ n := by
  simp [clip]

/-- A text of at most `n` characters without white space; it may be empty. -/
abbrev Token (n : ℕ) := { s : String // hasSpace s = false ∧ s.length ≤ n }

/-- `s.strip()[:n]`, if that has no white space left. -/
def token? (n : ℕ) (s : String) : Option (Token n) :=
  if h : hasSpace (clip n (strip s)) = false then
    some ⟨clip n (strip s), h, length_clip_le n _⟩
  else none

/-- `s.lower()`, for comparison with ASCII words: the only characters whose lower case is ASCII
are the ASCII capitals and the Kelvin sign. -/
def lower (s : String) : String := s.map fun c => if c.toNat = 0x212a then 'k' else c.toLower

/-! ## Conversions -/

/-- What `except (TypeError, ValueError)` catches. -/
def Error.isValueError : Error → Bool
  | .typeError | .notANumber | .valueError _ => true
  | _ => false

/-- The value of a call, or the default where the call raises a type or value error. -/
def orDefault {α : Type} (fallback : α) : Except Error α → Except Error α
  | .ok a => .ok a
  | .error e => if e.isValueError then .ok fallback else .error e

lemma bind_eq_ok {α β : Type} {x : Except Error α} {f : α → Except Error β} {b : β} :
    (x >>= f) = .ok b ↔ ∃ a, x = .ok a ∧ f a = .ok b := by
  cases x with
  | error e => simp [bind, Except.bind]
  | ok a => simp [bind, Except.bind]

/-- A call for each item of a list returns if each of the calls does. -/
lemma exists_mapM_eq_ok {ε α β : Type} {f : α → Except ε β} {items : List α} :
    (∃ results, items.mapM f = .ok results) ↔ ∀ item ∈ items, ∃ result, f item = .ok result := by
  induction items with
  | nil => simp [pure, Except.pure]
  | cons item items ih =>
    rw [List.forall_mem_cons, ← ih, List.mapM_cons]
    cases f item with
    | error e => simp [bind, Except.bind]
    | ok result => cases items.mapM f <;> simp [bind, Except.bind, pure, Except.pure]

/-- How values other than texts print, and which numbers texts denote. -/
structure Conversions where
  print : Value → String
  parseInt : String → Option Int
  parseFloat : String → Option Number

namespace Conversions

variable (C : Conversions)

/-- `str(value)`. -/
def str : Value → String
  | .str s => s
  | v => C.print v

/-- `int(value)`. -/
def int : Value → Except Error Int
  | .bool b => .ok (if b then 1 else 0)
  | .int n => .ok n
  | .float (.finite q) => .ok (if 0 ≤ q then ⌊q⌋ else ⌈q⌉)
  | .float .nan => .error .notANumber
  | .float _ => .error .overflowError
  | .str s =>
    match if s = "" then none else C.parseInt s with
    | some n => .ok n
    | none => .error .notANumber
  | _ => .error .typeError

/-- The integers from here on are too large for a float. -/
def floatLimit : ℕ := 2 ^ 1024 - 2 ^ 970

/-- `float(value)`. -/
def float : Value → Except Error Number
  | .bool b => .ok (.finite (if b then 1 else 0))
  | .int n => if n.natAbs < floatLimit then .ok (.finite n) else .error .overflowError
  | .float x => .ok x
  | .str s =>
    match if s = "" then none else C.parseFloat s with
    | some x => .ok x
    | none => .error .notANumber
  | _ => .error .typeError

/-- `max(lo, min(hi, int(value)))`. -/
def intIn (lo hi : Int) (h : lo ≤ hi) (value : Value) : Except Error (Set.Icc lo hi) :=
  (C.int value).map (Set.projIcc lo hi h)

/-- `max(lo, min(hi, float(value)))`. -/
def floatIn (lo hi : ℚ) (h : lo ≤ hi) (value : Value) : Except Error (Set.Icc lo hi) :=
  (C.float value).map (Number.within lo hi h)

@[simp] lemma str_str (s : String) : C.str (.str s) = s := rfl

@[simp] lemma int_int (n : Int) : C.int (.int n) = .ok n := rfl

@[simp] lemma float_float (x : Number) : C.float (.float x) = .ok x := rfl

end Conversions

end Python
