import Mathlib.Data.List.Sort
import Mathlib.Tactic.IntervalCases
import StageForge.Library.PythonValue

/-!
# Canonical JSON

The text that `json.dumps` makes of a value with sorted keys, no blanks and no ASCII escapes, which
programs hash and sign.

`Value.canon` is the value with its keys in order. A lookup does not depend on that order
(`lookup_canonEntries`).
-/

namespace Python

-- A statement about the characters of a text is decided along the text, not over all characters.
attribute [local instance (high)] List.decidableBAll List.decidableBEx

/-! ## Keys in order -/

namespace Value

mutual

/-- The value with the keys of all its objects in order. -/
def canon : Value → Value
  | .list items => .list (canonItems items)
  | .dict entries => .dict ((canonEntries entries).insertionSort (·.1 ≤ ·.1))
  | .none => .none
  | .bool b => .bool b
  | .int n => .int n
  | .float x => .float x
  | .str s => .str s

def canonItems : List Value → List Value
  | [] => []
  | v :: vs => canon v :: canonItems vs

def canonEntries : List (String × Value) → List (String × Value)
  | [] => []
  | (k, v) :: rest => (k, canon v) :: canonEntries rest

end

lemma lookup_orderedInsert (key : String) (e : String × Value) : ∀ entries : List (String × Value),
      (entries.orderedInsert (·.1 ≤ ·.1) e).lookup key = (e :: entries).lookup key
  | [] => rfl
  | b :: rest => by
    rw [List.orderedInsert_cons]
    split
    · rfl
    · rename_i hlt
      have hne : b.1 ≠ e.1 := fun heq => hlt (heq ▸ String.le_refl _)
      have hrest := lookup_orderedInsert key e rest
      obtain ⟨bk, bv⟩ := b
      obtain ⟨ek, ev⟩ := e
      simp only [List.lookup_cons] at hrest ⊢
      rw [hrest]
      by_cases hb : key == bk
      · have hek : (key == ek) = false := by
          rw [beq_iff_eq.mp hb]
          exact beq_false_of_ne hne
        simp [hb, hek]
      · simp [hb]

/-- Sorting the entries of an object keeps what its keys stand for. -/
lemma lookup_insertionSort (key : String) : ∀ entries : List (String × Value),
      (entries.insertionSort (·.1 ≤ ·.1)).lookup key = entries.lookup key
  | [] => rfl
  | e :: rest => by
    obtain ⟨k, v⟩ := e
    rw [List.insertionSort_cons, lookup_orderedInsert]
    simp only [List.lookup_cons, lookup_insertionSort key rest]

lemma lookup_canonEntries (key : String) : ∀ entries : List (String × Value),
      (canonEntries entries).lookup key = (entries.lookup key).map canon
  | [] => rfl
  | (k, v) :: rest => by
    simp only [canonEntries, List.lookup_cons]
    cases key == k with
    | true => rfl
    | false => exact lookup_canonEntries key rest

/-- Objects that agree up to the order of their keys agree on each key. -/
lemma lookup_of_canon {es fs : List (String × Value)}
    (h : (Value.dict es).canon = (Value.dict fs).canon) (key : String) :
    (es.lookup key).map canon = (fs.lookup key).map canon := by
  simp only [canon, Value.dict.injEq] at h
  rw [← lookup_canonEntries, ← lookup_canonEntries, ← lookup_insertionSort,
    ← lookup_insertionSort key (canonEntries fs), h]

lemma canonEntries_eq_map (entries : List (String × Value)) :
    canonEntries entries = entries.map fun e => (e.1, e.2.canon) := by
  induction entries with
  | nil => rfl
  | cons e entries ih => rw [canonEntries, ih, List.map_cons]

/-- The order in which an object was written does not matter. -/
lemma canon_of_perm {es fs : List (String × Value)} (h : es.Perm fs) (hkeys : (es.map Prod.fst).Nodup) :
    (Value.dict es).canon = (Value.dict fs).canon := by
  have hes := List.perm_insertionSort (·.1 ≤ ·.1) (canonEntries es)
  have hfs := List.perm_insertionSort (·.1 ≤ ·.1) (canonEntries fs)
  have hperm : (canonEntries es).Perm (canonEntries fs) := by
    rw [canonEntries_eq_map, canonEntries_eq_map]
    exact h.map _
  have hnodup : ((canonEntries es).map Prod.fst).Nodup := by
    rw [canonEntries_eq_map, List.map_map]
    exact hkeys
  rw [canon, canon]
  congr 1
  refine (hes.trans (hperm.trans hfs.symm)).eq_of_pairwise (fun a b ha hb hab hba => ?_)
    (List.pairwise_insertionSort _ _) (List.pairwise_insertionSort _ _)
  exact List.inj_on_of_nodup_map hnodup (hes.mem_iff.mp ha) (hperm.mem_iff.mpr (hfs.mem_iff.mp hb))
    (String.le_antisymm hab hba)

lemma get?_of_canon {v w : Value} (h : v.canon = w.canon) (key : String) :
    (v.get? key).map canon = (w.get? key).map canon := by
  cases v <;> cases w <;> first
    | exact lookup_of_canon h key
    | rfl
    | exact absurd h (by simp [canon])

@[simp] lemma isDict_canon (v : Value) : v.canon.isDict = v.isDict := by
  cases v <;> rfl

end Value

@[simp] lemma Conversions.int_canon (C : Conversions) (v : Value) : C.int v.canon = C.int v := by
  cases v <;> rfl

/-- An integer field of an object does not depend on the order of keys. -/
lemma Conversions.int_get?_of_canon (C : Conversions) {v w : Value} (h : v.canon = w.canon)
    (key : String) (n : Int) :
    C.int ((v.get? key).getD (.int n)) = C.int ((w.get? key).getD (.int n)) := by
  have hfield := Value.get?_of_canon h key
  revert hfield
  cases v.get? key <;> cases w.get? key <;> intro hfield
  · rfl
  · cases hfield
  · cases hfield
  · rw [Option.getD_some, Option.getD_some, ← C.int_canon, Option.some.inj hfield, C.int_canon]

/-! ## The text -/

/-- How `float.__repr__` prints finite floats: with a point or an exponent, and different floats
differently. -/
structure FloatText where
  repr : ℚ → List Char
  numeric : ∀ q, ∀ c ∈ repr q, c.isDigit = true ∨ c ∈ ['-', '+', '.', 'e']
  fractional : ∀ q, '.' ∈ repr q ∨ 'e' ∈ repr q
  injective : Function.Injective repr

/-- `int.__repr__`. -/
def intText : Int → List Char
  | .ofNat n => Nat.toDigits 10 n
  | .negSucc n => '-' :: Nat.toDigits 10 (n + 1)

def hexDigit (n : ℕ) : Char := Nat.digitChar n

def escape (c : Char) : List Char := if c = '"' then ['\\', '"']
  else if c = '\\' then ['\\', '\\']
  else if c = '\n' then ['\\', 'n']
  else if c = '\r' then ['\\', 'r']
  else if c = '\t' then ['\\', 't']
  else if c.toNat = 8 then ['\\', 'b']
  else if c.toNat = 12 then ['\\', 'f']
  else if c.toNat < 32 then ['\\', 'u', '0', '0', hexDigit (c.toNat / 16), hexDigit (c.toNat % 16)]
  else [c]

def quote (s : String) : List Char := '"' :: (s.toList.flatMap escape ++ ['"'])

variable (F : FloatText)

def literals : List (Value × String) :=
  [(.none, "null"), (.bool true, "true"), (.bool false, "false"), (.float .inf, "Infinity"),
    (.float .negInf, "-Infinity"), (.float .nan, "NaN")]

def Value.isWord : Value → Bool
  | .str _ | .list _ | .dict _ => false
  | _ => true

def word : Value → List Char
  | .int n => intText n
  | .float (.finite q) => F.repr q
  | v => ((literals.lookup v).getD "").toList

mutual

/-- The text of a value in the order of its keys. -/
def text : Value → List Char
  | .str s => quote s
  | .list items => '[' :: textItems items
  | .dict entries => '{' :: textEntries entries
  | .none => word F .none
  | .bool b => word F (.bool b)
  | .int n => word F (.int n)
  | .float x => word F (.float x)

def textItems : List Value → List Char
  | [] => [']']
  | v :: vs => text v ++ textMoreItems vs

def textMoreItems : List Value → List Char
  | [] => [']']
  | v :: vs => ',' :: (text v ++ textMoreItems vs)

def textEntries : List (String × Value) → List Char
  | [] => ['}']
  | (k, v) :: rest => quote k ++ (':' :: (text v ++ textMoreEntries rest))

def textMoreEntries : List (String × Value) → List Char
  | [] => ['}']
  | (k, v) :: rest => ',' :: (quote k ++ (':' :: (text v ++ textMoreEntries rest)))

end

/-- `json.dumps(value, sort_keys=True, separators=(",", ":"), ensure_ascii=False)`. -/
def dumps (v : Value) : String := String.ofList (text F v.canon)

/-! ## Words -/

def delimiters : List Char := [',', ']', '}', '"', '[', '{']

def Delimited : List Char → Prop
  | [] => True
  | c :: _ => c ∈ delimiters

lemma words_inj : ∀ {a b r s : List Char}, (∀ c ∈ a, c ∉ delimiters) → (∀ c ∈ b, c ∉ delimiters) →
    Delimited r → Delimited s → a ++ r = b ++ s → a = b ∧ r = s
  | [], [], _, _, _, _, _, _, h => ⟨rfl, h⟩
  | [], c :: b, [], _, _, _, _, _, h => absurd h (by simp)
  | [], c :: b, d :: r, _, _, hb, hr, _, h => by
    obtain ⟨rfl, -⟩ := List.cons.inj h
    exact absurd hr (hb _ List.mem_cons_self)
  | c :: a, [], _, [], _, _, _, _, h => absurd h (by simp)
  | c :: a, [], _, d :: s, ha, _, _, hs, h => by
    obtain ⟨rfl, -⟩ := List.cons.inj h
    exact absurd hs (ha _ List.mem_cons_self)
  | c :: a, d :: b, _, _, ha, hb, hr, hs, h => by
    obtain ⟨rfl, htail⟩ := List.cons.inj h
    obtain ⟨rfl, hrest⟩ := words_inj (fun x hx => ha x (List.mem_cons_of_mem _ hx))
      (fun x hx => hb x (List.mem_cons_of_mem _ hx)) hr hs htail
    exact ⟨rfl, hrest⟩

lemma toDigits_injective : Function.Injective (Nat.toDigits 10) := fun n m h => by
  rw [← Nat.ofDigitChars_ten_toDigits (n := n), h, Nat.ofDigitChars_ten_toDigits]

lemma intText_numeric (n : Int) : ∀ c ∈ intText n, c.isDigit = true ∨ c = '-' := by
  intro c hc
  cases n with
  | ofNat n => exact .inl (Nat.isDigit_of_mem_toDigits (by omega) (by omega) hc)
  | negSucc n =>
    rcases List.mem_cons.mp hc with rfl | hc
    · exact .inr rfl
    · exact .inl (Nat.isDigit_of_mem_toDigits (by omega) (by omega) hc)

lemma minus_notMem_toDigits (n : ℕ) : '-' ∉ Nat.toDigits 10 n := fun h =>
  absurd (Nat.isDigit_of_mem_toDigits (by omega) (by omega) h) (by decide)

lemma intText_injective : Function.Injective intText := by
  intro n m h
  cases n with
  | ofNat n =>
    cases m with
    | ofNat m => rw [toDigits_injective h]
    | negSucc m =>
      refine absurd ?_ (minus_notMem_toDigits n)
      rw [show Nat.toDigits 10 n = '-' :: Nat.toDigits 10 (m + 1) from h]
      exact List.mem_cons_self
  | negSucc n =>
    cases m with
    | ofNat m =>
      refine absurd ?_ (minus_notMem_toDigits m)
      rw [show Nat.toDigits 10 m = '-' :: Nat.toDigits 10 (n + 1) from h.symm]
      exact List.mem_cons_self
    | negSucc m =>
      have hdigits := toDigits_injective (List.cons.inj h).2
      rw [Nat.succ.inj hdigits]

def IsNumeric (c : Char) : Prop := c.isDigit = true ∨ c ∈ ['-', '+', '.', 'e']

lemma not_delimiter_of_numeric {c : Char} (h : IsNumeric c) : c ∉ delimiters := by
  rcases h with h | h
  · intro hc
    simp only [delimiters, List.mem_cons, List.not_mem_nil, or_false] at hc
    rcases hc with rfl | rfl | rfl | rfl | rfl | rfl <;> exact absurd h (by decide)
  · simp only [List.mem_cons, List.not_mem_nil, or_false] at h
    rcases h with rfl | rfl | rfl | rfl <;> decide

variable {F}

variable {v : Value}

lemma word_cases (h : v.isWord = true) : (∃ n, v = .int n) ∨ (∃ q, v = .float (.finite q)) ∨
      ∃ s, (v, s) ∈ literals ∧ word F v = s.toList := by
  have hfixed : ∀ p ∈ literals, literals.lookup p.1 = some p.2 := by decide
  have hliteral : ∀ s, (v, s) ∈ literals → word F v = ((literals.lookup v).getD "").toList →
      ∃ s, (v, s) ∈ literals ∧ word F v = s.toList := fun s hs hword =>
    ⟨s, hs, by rw [hword, hfixed _ hs]; rfl⟩
  cases v with
  | int n => exact .inl ⟨n, rfl⟩
  | float x =>
    cases x with
    | finite q => exact .inr (.inl ⟨q, rfl⟩)
    | inf => exact .inr (.inr (hliteral "Infinity" (by decide) rfl))
    | negInf => exact .inr (.inr (hliteral "-Infinity" (by decide) rfl))
    | nan => exact .inr (.inr (hliteral "NaN" (by decide) rfl))
  | none => exact .inr (.inr (hliteral "null" (by decide) rfl))
  | bool b =>
    cases b with
    | true => exact .inr (.inr (hliteral "true" (by decide) rfl))
    | false => exact .inr (.inr (hliteral "false" (by decide) rfl))
  | str s => exact absurd h (by simp [Value.isWord])
  | list items => exact absurd h (by simp [Value.isWord])
  | dict entries => exact absurd h (by simp [Value.isWord])

lemma literal_letter : ∀ p ∈ literals, ∃ c ∈ p.2.toList, ¬ IsNumeric c := by
  unfold IsNumeric
  decide

lemma intText_isNumeric (n : Int) : ∀ c ∈ intText n, IsNumeric c := fun c hc =>
  (intText_numeric n c hc).imp id fun h => by simp [h]

lemma word_inj {v w : Value} (hv : v.isWord = true) (hw : w.isWord = true)
    (h : word F v = word F w) : v = w := by
  have hpoint : ∀ n q, intText n ≠ F.repr q := by
    intro n q heq
    rcases F.fractional q with hc | hc <;> rw [← heq] at hc <;>
      rcases intText_numeric n _ hc with hd | hd <;> exact absurd hd (by decide)
  have hfixed : ∀ p ∈ literals, ∀ text, (∀ c ∈ text, IsNumeric c) → p.2.toList ≠ text := by
    intro p hp text hnumeric heq
    obtain ⟨c, hc, hletter⟩ := literal_letter p hp
    exact hletter (hnumeric c (heq ▸ hc))
  have hsame : ∀ p ∈ literals, ∀ q ∈ literals, p.2.toList = q.2.toList → p.1 = q.1 := by decide
  rcases word_cases (F := F) hv with ⟨n, rfl⟩ | ⟨q, rfl⟩ | ⟨s, hs, hword⟩ <;>
    rcases word_cases (F := F) hw with ⟨m, rfl⟩ | ⟨r, rfl⟩ | ⟨t, ht, hword'⟩
  · rw [intText_injective h]
  · exact absurd h (hpoint n r)
  · exact absurd (hword' ▸ h).symm (hfixed _ ht _ (intText_isNumeric n))
  · exact absurd h.symm (hpoint m q)
  · rw [F.injective h]
  · exact absurd (hword' ▸ h).symm (hfixed _ ht _ (F.numeric q))
  · exact absurd (hword ▸ h) (hfixed _ hs _ (intText_isNumeric m))
  · exact absurd (hword ▸ h) (hfixed _ hs _ (F.numeric r))
  · exact hsame _ hs _ ht (hword ▸ hword' ▸ h)

lemma word_spec (h : v.isWord = true) : word F v ≠ [] ∧ ∀ c ∈ word F v, c ∉ delimiters := by
  rcases word_cases (F := F) h with ⟨n, rfl⟩ | ⟨q, rfl⟩ | ⟨s, hs, hword⟩
  · refine ⟨?_, fun c hc => not_delimiter_of_numeric (intText_isNumeric n c hc)⟩
    cases n with
    | ofNat n => exact Nat.toDigits_ne_nil
    | negSucc n => exact List.cons_ne_nil _ _
  · refine ⟨fun hnil => ?_, fun c hc => not_delimiter_of_numeric (F.numeric q c hc)⟩
    have hempty : F.repr q = [] := hnil
    have hc := F.fractional q
    rw [hempty] at hc
    simp at hc
  · have hall : ∀ p ∈ literals, p.2.toList ≠ [] ∧ ∀ c ∈ p.2.toList, c ∉ delimiters := by decide
    rw [hword]
    exact hall _ hs

/-! ## Texts in quotes -/

def hexValue (c : Char) : ℕ := if c.isDigit then c.toNat - 48 else c.toNat - 87

/-- Takes the first character off an escaped text. -/
def unescape : List Char → Option (Char × List Char)
  | '\\' :: 'n' :: r => some ('\n', r)
  | '\\' :: 'r' :: r => some ('\r', r)
  | '\\' :: 't' :: r => some ('\t', r)
  | '\\' :: 'b' :: r => some (Char.ofNat 8, r)
  | '\\' :: 'f' :: r => some (Char.ofNat 12, r)
  | '\\' :: 'u' :: '0' :: '0' :: a :: b :: r =>
    some (Char.ofNat (16 * hexValue a + hexValue b), r)
  | '\\' :: c :: r => some (c, r)
  | c :: r => some (c, r)
  | [] => none

lemma unescape_control (r : List Char) : ∀ n < 32, n ≠ 8 → n ≠ 12 → n ≠ 10 → n ≠ 13 → n ≠ 9 →
    unescape (['\\', 'u', '0', '0', hexDigit (n / 16), hexDigit (n % 16)] ++ r) =
      some (Char.ofNat n, r) := by
  intro n hn
  interval_cases n <;> intros <;> first | contradiction | rfl

lemma unescape_escape (c : Char) (r : List Char) : unescape (escape c ++ r) = some (c, r) := by
  have hnumber : ∀ {n : ℕ}, c.toNat = n → c = Char.ofNat n := fun h => by
    rw [← h, Char.ofNat_toNat]
  unfold escape
  split_ifs with hquote hback hn hr ht hb hf hcontrol
  · rw [hquote]; rfl
  · rw [hback]; rfl
  · rw [hn]; rfl
  · rw [hr]; rfl
  · rw [ht]; rfl
  · rw [hnumber hb]; rfl
  · rw [hnumber hf]; rfl
  · rw [unescape_control r c.toNat hcontrol hb hf (fun h => hn (hnumber h))
      (fun h => hr (hnumber h)) (fun h => ht (hnumber h)), Char.ofNat_toNat]
  · rw [List.singleton_append]
    unfold unescape
    split <;> simp_all

lemma escape_ne_quote (c : Char) (r : List Char) : ∀ s, escape c ++ r ≠ '"' :: s := by
  intro s
  unfold escape
  split_ifs <;> simp_all

lemma escaped_inj : ∀ {s t r r' : List Char},
    s.flatMap escape ++ '"' :: r = t.flatMap escape ++ '"' :: r' → s = t ∧ r = r'
  | [], [], _, _, h => ⟨rfl, (List.cons.inj h).2⟩
  | [], c :: t, r, r', h => by
    rw [List.flatMap_cons, List.append_assoc] at h
    exact absurd h.symm (escape_ne_quote c _ r)
  | c :: s, [], r, r', h => by
    rw [List.flatMap_cons, List.append_assoc] at h
    exact absurd h (escape_ne_quote c _ r')
  | c :: s, d :: t, r, r', h => by
    rw [List.flatMap_cons, List.append_assoc, List.flatMap_cons, List.append_assoc] at h
    have hhead := congrArg unescape h
    rw [unescape_escape, unescape_escape, Option.some.injEq, Prod.mk.injEq] at hhead
    obtain ⟨rfl, htail⟩ := hhead
    obtain ⟨rfl, hrest⟩ := escaped_inj htail
    exact ⟨rfl, hrest⟩

lemma quote_inj {s t : String} {r r' : List Char} (h : quote s ++ r = quote t ++ r') :
    s = t ∧ r = r' := by
  simp only [quote, List.cons_append, List.append_assoc, List.cons.injEq, true_and] at h
  obtain ⟨htext, hrest⟩ := escaped_inj h
  exact ⟨String.ext htext, hrest⟩

/-! ## Values -/

lemma text_of_isWord (h : v.isWord = true) : text F v = word F v := by
  cases v with
  | str s => exact absurd h (by simp [Value.isWord])
  | list items => exact absurd h (by simp [Value.isWord])
  | dict entries => exact absurd h (by simp [Value.isWord])
  | _ => rw [text]

lemma text_ne_delimiter (h : v.isWord = true) (r : List Char) {d : Char}
    (hd : d ∈ delimiters) (s : List Char) : text F v ++ r ≠ d :: s := by
  obtain ⟨hne, hword⟩ := word_spec (F := F) h
  rw [text_of_isWord h]
  cases htext : word F v with
  | nil => exact absurd htext hne
  | cons c rest =>
    intro heq
    obtain ⟨rfl, -⟩ := List.cons.inj heq
    exact hword c (htext ▸ List.mem_cons_self) hd

lemma text_inj_word {v w : Value} {r r' : List Char} (hv : v.isWord = true)
    (hr : Delimited r) (hr' : Delimited r') (h : text F v ++ r = text F w ++ r') :
    v = w ∧ r = r' := by
  by_cases hw : w.isWord = true
  · rw [text_of_isWord hv, text_of_isWord hw] at h
    obtain ⟨hword, hrest⟩ := words_inj (word_spec hv).2 (word_spec hw).2 hr hr' h
    exact ⟨word_inj hv hw hword, hrest⟩
  · refine absurd h ?_
    cases w with
    | str s =>
      rw [text, quote, List.cons_append]
      exact text_ne_delimiter hv r (by decide) _
    | list items =>
      rw [text, List.cons_append]
      exact text_ne_delimiter hv r (by decide) _
    | dict entries =>
      rw [text, List.cons_append]
      exact text_ne_delimiter hv r (by decide) _
    | _ => exact absurd rfl hw

lemma text_ne_close (v : Value) (r s : List Char) : text F v ++ r ≠ ']' :: s := by
  by_cases hv : v.isWord = true
  · exact text_ne_delimiter hv r (by decide) s
  · cases v with
    | str _ => simp [text, quote]
    | list _ => simp [text]
    | dict _ => simp [text]
    | _ => exact absurd rfl hv

lemma delimited_moreItems (vs : List Value) (r : List Char) :
    Delimited (textMoreItems F vs ++ r) := by
  cases vs <;> simp [textMoreItems, Delimited, delimiters]

lemma delimited_moreEntries (es : List (String × Value)) (r : List Char) :
    Delimited (textMoreEntries F es ++ r) := by
  rcases es with _ | ⟨⟨k, v⟩, rest⟩ <;> simp [textMoreEntries, Delimited, delimiters]

mutual

/-- **Texts end where a delimiter begins.** By recursion on the first value: words end there, and
everything else closes itself. -/
lemma text_inj : ∀ (v w : Value) {r r' : List Char}, Delimited r → Delimited r' →
    text F v ++ r = text F w ++ r' → v = w ∧ r = r'
  | .none, w, _, _, hr, hr', h => text_inj_word rfl hr hr' h
  | .bool _, w, _, _, hr, hr', h => text_inj_word rfl hr hr' h
  | .int _, w, _, _, hr, hr', h => text_inj_word rfl hr hr' h
  | .float _, w, _, _, hr, hr', h => text_inj_word rfl hr hr' h
  | .str s, .str t, _, _, _, _, h => by
    obtain ⟨rfl, hrest⟩ := quote_inj (by simpa only [text] using h)
    exact ⟨rfl, hrest⟩
  | .list vs, .list ws, _, _, _, _, h => by
    simp only [text, List.cons_append, List.cons.injEq, true_and] at h
    obtain ⟨rfl, hrest⟩ := textItems_inj vs ws h
    exact ⟨rfl, hrest⟩
  | .dict es, .dict fs, _, _, _, _, h => by
    simp only [text, List.cons_append, List.cons.injEq, true_and] at h
    obtain ⟨rfl, hrest⟩ := textEntries_inj es fs h
    exact ⟨rfl, hrest⟩
  | .str _, .none, _, _, hr, hr', h | .list _, .none, _, _, hr, hr', h
  | .dict _, .none, _, _, hr, hr', h | .str _, .bool _, _, _, hr, hr', h
  | .list _, .bool _, _, _, hr, hr', h | .dict _, .bool _, _, _, hr, hr', h
  | .str _, .int _, _, _, hr, hr', h | .list _, .int _, _, _, hr, hr', h
  | .dict _, .int _, _, _, hr, hr', h | .str _, .float _, _, _, hr, hr', h
  | .list _, .float _, _, _, hr, hr', h | .dict _, .float _, _, _, hr, hr', h =>
    (text_inj_word rfl hr' hr h.symm).imp Eq.symm Eq.symm
  | .str _, .list _, _, _, _, _, h | .str _, .dict _, _, _, _, _, h
  | .list _, .str _, _, _, _, _, h | .list _, .dict _, _, _, _, _, h
  | .dict _, .str _, _, _, _, _, h | .dict _, .list _, _, _, _, _, h =>
    absurd h (by simp [text, quote])

lemma textItems_inj : ∀ (vs ws : List Value) {r r' : List Char},
    textItems F vs ++ r = textItems F ws ++ r' → vs = ws ∧ r = r'
  | [], [], _, _, h => by simpa [textItems] using h
  | v :: vs, w :: ws, r, r', h => by
    simp only [textItems, List.append_assoc] at h
    obtain ⟨rfl, hmore⟩ := text_inj v w (delimited_moreItems vs r) (delimited_moreItems ws r') h
    obtain ⟨rfl, hrest⟩ := textMoreItems_inj vs ws hmore
    exact ⟨rfl, hrest⟩
  | [], w :: ws, r, r', h => by
    simp only [textItems, List.append_assoc] at h
    exact absurd h.symm (text_ne_close w _ r)
  | v :: vs, [], r, r', h => by
    simp only [textItems, List.append_assoc] at h
    exact absurd h (text_ne_close v _ r')

lemma textMoreItems_inj : ∀ (vs ws : List Value) {r r' : List Char},
    textMoreItems F vs ++ r = textMoreItems F ws ++ r' → vs = ws ∧ r = r'
  | [], [], _, _, h => by simpa [textMoreItems] using h
  | v :: vs, w :: ws, r, r', h => by
    simp only [textMoreItems, List.cons_append, List.append_assoc, List.cons.injEq, true_and] at h
    obtain ⟨rfl, hmore⟩ := text_inj v w (delimited_moreItems vs r) (delimited_moreItems ws r') h
    obtain ⟨rfl, hrest⟩ := textMoreItems_inj vs ws hmore
    exact ⟨rfl, hrest⟩
  | [], _ :: _, _, _, h | _ :: _, [], _, _, h => absurd h (by simp [textMoreItems])

lemma textEntries_inj : ∀ (es fs : List (String × Value)) {r r' : List Char},
    textEntries F es ++ r = textEntries F fs ++ r' → es = fs ∧ r = r'
  | [], [], _, _, h => by simpa [textEntries] using h
  | (k, v) :: es, (l, w) :: fs, r, r', h => by
    simp only [textEntries, List.append_assoc, List.cons_append] at h
    obtain ⟨rfl, hvalue⟩ := quote_inj h
    obtain ⟨rfl, hmore⟩ := text_inj v w (delimited_moreEntries es r)
      (delimited_moreEntries fs r') (List.cons.inj hvalue).2
    obtain ⟨rfl, hrest⟩ := textMoreEntries_inj es fs hmore
    exact ⟨rfl, hrest⟩
  | [], _ :: _, _, _, h | _ :: _, [], _, _, h => absurd h (by simp [textEntries, quote])

lemma textMoreEntries_inj : ∀ (es fs : List (String × Value)) {r r' : List Char},
    textMoreEntries F es ++ r = textMoreEntries F fs ++ r' → es = fs ∧ r = r'
  | [], [], _, _, h => by simpa [textMoreEntries] using h
  | (k, v) :: es, (l, w) :: fs, r, r', h => by
    simp only [textMoreEntries, List.append_assoc, List.cons_append, List.cons.injEq, true_and] at h
    obtain ⟨rfl, hvalue⟩ := quote_inj h
    obtain ⟨rfl, hmore⟩ := text_inj v w (delimited_moreEntries es r)
      (delimited_moreEntries fs r') (List.cons.inj hvalue).2
    obtain ⟨rfl, hrest⟩ := textMoreEntries_inj es fs hmore
    exact ⟨rfl, hrest⟩
  | [], _ :: _, _, _, h | _ :: _, [], _, _, h => absurd h (by simp [textMoreEntries])

end

lemma dumps_of_canon {v w : Value} (h : v.canon = w.canon) : dumps F v = dumps F w := by
  rw [dumps, dumps, h]

/-- **One text, one value**, up to the order of keys. -/
theorem dumps_inj {v w : Value} (h : dumps F v = dumps F w) : v.canon = w.canon := by
  have hend : Delimited [] := trivial
  have htext : text F v.canon ++ [] = text F w.canon ++ [] := by
    rw [dumps, dumps, String.ofList_inj] at h
    rw [h]
  exact (text_inj v.canon w.canon hend hend htext).1

/-- Floats printed as fractions: one way of printing with these laws. -/
def FloatText.fractions : FloatText where
  repr q := intText q.num ++ 'e' :: Nat.toDigits 10 q.den
  numeric q c hc := by
    rcases List.mem_append.mp hc with hc | hc
    · exact intText_isNumeric _ c hc
    · rcases List.mem_cons.mp hc with rfl | hc
      · exact .inr (by decide)
      · exact .inl (Nat.isDigit_of_mem_toDigits (by omega) (by omega) hc)
  fractional q := .inr (List.mem_append_right _ List.mem_cons_self)
  injective := by
    intro q r h
    have hnum : 'e' ∉ intText q.num := fun he => by
      rcases intText_numeric _ _ he with hc | hc <;> exact absurd hc (by decide)
    have hden : 'e' ∉ Nat.toDigits 10 q.den := fun he =>
      absurd (Nat.isDigit_of_mem_toDigits (by omega) (by omega) he) (by decide)
    obtain ⟨hnums, -, hdens⟩ := (List.append_cons_inj_of_notMem hnum hden).mp h
    exact Rat.ext (intText_injective hnums) (toDigits_injective hdens)

end Python
