import Mathlib.Data.List.TakeWhile
import StageForge.Library.CanonicalJson

/-!
# Reading JSON

`json.loads` on a text, by recursive descent. A word is what stands up to the next delimiter or blank;
it is a literal, an integer or a float, or the text is refused.

A lone surrogate is no character here, and a text that names one is refused.
-/

namespace Python

-- A statement about the characters of a text is decided along the text, not over all characters.
attribute [local instance (high)] List.decidableBAll

/-- How floats are read: those that are printed are read back. -/
structure FloatReader (F : FloatText) where
  /-- The float of a text that has the form of one. -/
  read : List Char → Option Number
  read_repr : ∀ q, read (F.repr q) = some (.finite q)

/-! ## Blanks and words -/

def isBlank (c : Char) : Bool := c = ' ' || c = '\t' || c = '\n' || c = '\r'

def skip (cs : List Char) : List Char := cs.dropWhile isBlank

def endsWord (c : Char) : Bool := decide (c ∈ delimiters) || c = ':' || isBlank c

def readNat (ds : List Char) : Option ℕ :=
  if Nat.toDigits 10 (Nat.ofDigitChars 10 ds 0) = ds then some (Nat.ofDigitChars 10 ds 0) else none

def readInt : List Char → Option Int
  | '-' :: ds => (readNat ds).map fun (n : ℕ) => -(n : Int)
  | ds => (readNat ds).map Int.ofNat

variable {F : FloatText} (R : FloatReader F)

def wordValue (w : List Char) : Option Value :=
  match literals.find? fun literal => literal.2.toList = w with
  | some literal => some literal.1
  | none =>
    match readInt w with
    | some n => some (.int n)
    | none => (R.read w).map Value.float

def readWord (cs : List Char) : Option (Value × List Char) :=
  (wordValue R (cs.takeWhile fun c => !endsWord c)).map fun v =>
    (v, cs.dropWhile fun c => !endsWord c)

/-! ## Texts -/

def escapes : List (Char × Char) :=
  [('"', '"'), ('\\', '\\'), ('/', '/'), ('b', Char.ofNat 8), ('f', Char.ofNat 12), ('n', '\n'),
    ('r', '\r'), ('t', '\t')]

def readHexDigit (c : Char) : Option ℕ := if c.isDigit then some (c.toNat - 48)
  else if 'a' ≤ c ∧ c ≤ 'f' then some (c.toNat - 87)
  else if 'A' ≤ c ∧ c ≤ 'F' then some (c.toNat - 55)
  else none

def readHex (a b c d : Char) : Option ℕ :=
  (readHexDigit a).bind fun a => (readHexDigit b).bind fun b => (readHexDigit c).bind fun c =>
    (readHexDigit d).map fun d => 4096 * a + 256 * b + 16 * c + d

def readLow (n : ℕ) : List Char → Option (Char × List Char)
  | '\\' :: 'u' :: a :: b :: c :: d :: r =>
    (readHex a b c d).bind fun m =>
      if n < 0xDC00 ∧ 0xDC00 ≤ m ∧ m < 0xE000 then
        some (Char.ofNat (0x10000 + (n - 0xD800) * 0x400 + (m - 0xDC00)), r)
      else none
  | _ => none

/-- What follows `\u`. -/
def readUnicode : List Char → Option (Char × List Char)
  | a :: b :: c :: d :: r =>
    (readHex a b c d).bind fun n =>
      if 0xD800 ≤ n ∧ n < 0xE000 then readLow n r else some (Char.ofNat n, r)
  | _ => none

def readEscape : List Char → Option (Char × List Char)
  | c :: r =>
    match escapes.lookup c with
    | some d => some (d, r)
    | none => if c = 'u' then readUnicode r else none
  | [] => none

def readChar : List Char → Option (Char × List Char)
  | c :: r => if c = '\\' then readEscape r else if c.toNat < 32 then none else some (c, r)
  | [] => none

/-- The rest of a text up to its closing quote. -/
def readText : ℕ → List Char → Option (List Char × List Char)
  | 0, _ => none
  | _ + 1, [] => none
  | n + 1, c :: r =>
    if c = '"' then some ([], r)
    else (readChar (c :: r)).bind fun p => (readText n p.2).map fun t => (p.1 :: t.1, t.2)

/-! ## Values -/

mutual

def readValue : ℕ → List Char → Option (Value × List Char)
  | n + 1, '"' :: r => (readText n r).map fun t => (.str (String.ofList t.1), t.2)
  | n + 1, '[' :: r =>
    match skip r with
    | ']' :: r => some (.list [], r)
    | r => (readItems n r).map fun t => (.list t.1, t.2)
  | n + 1, '{' :: r =>
    match skip r with
    | '}' :: r => some (.dict [], r)
    | r => (readEntries n r).map fun t => (.dict (update [] t.1), t.2)
  | _ + 1, cs => readWord R cs
  | 0, _ => none

def readItems : ℕ → List Char → Option (List Value × List Char)
  | n + 1, cs =>
    (readValue n cs).bind fun v =>
      match skip v.2 with
      | ']' :: r => some ([v.1], r)
      | ',' :: r => (readItems n (skip r)).map fun t => (v.1 :: t.1, t.2)
      | _ => none
  | 0, _ => none

def readEntries : ℕ → List Char → Option (List (String × Value) × List Char)
  | n + 1, '"' :: cs =>
    (readText n cs).bind fun k =>
      match skip k.2 with
      | ':' :: r =>
        (readValue n (skip r)).bind fun v =>
          match skip v.2 with
          | '}' :: r => some ([(String.ofList k.1, v.1)], r)
          | ',' :: r =>
            (readEntries n (skip r)).map fun t => ((String.ofList k.1, v.1) :: t.1, t.2)
          | _ => none
      | _ => none
  | _ + 1, _ => none
  | 0, _ => none

end

/-- `json.loads(text)`; none if it raises. -/
def loads (cs : List Char) : Option Value :=
  (readValue R (2 * cs.length + 1) (skip cs)).bind fun v => if skip v.2 = [] then some v.1 else none

/-! ## Words are read back -/

lemma readNat_toDigits (n : ℕ) : readNat (Nat.toDigits 10 n) = some n := by
  rw [readNat, Nat.ofDigitChars_ten_toDigits, if_pos rfl]

lemma readInt_intText (n : Int) : readInt (intText n) = some n := by
  cases n with
  | ofNat n =>
    have hdigits := readNat_toDigits n
    have hhead : ∀ ds, intText (.ofNat n) ≠ '-' :: ds := by
      intro ds h
      refine minus_notMem_toDigits n ?_
      rw [show Nat.toDigits 10 n = '-' :: ds from h]
      exact List.mem_cons_self
    unfold readInt
    split
    · rename_i ds h
      exact absurd h (hhead ds)
    · rw [show intText (.ofNat n) = Nat.toDigits 10 n from rfl, hdigits]
      rfl
  | negSucc n =>
    rw [intText, readInt, readNat_toDigits, Option.map_some]
    rfl

variable {w : List Char}

lemma readInt_numeric {n : Int} (h : readInt w = some n) : ∀ c ∈ w, c.isDigit = true ∨ c = '-' := by
  have hnat : ∀ {ds : List Char} {n : ℕ}, readNat ds = some n → ∀ c ∈ ds, c.isDigit = true := by
    intro ds n h c hc
    unfold readNat at h
    split_ifs at h with hform
    rw [← hform] at hc
    exact Nat.isDigit_of_mem_toDigits (by omega) (by omega) hc
  intro c hc
  unfold readInt at h
  split at h
  · obtain ⟨m, hm, -⟩ := Option.map_eq_some_iff.mp h
    rcases List.mem_cons.mp hc with rfl | hc
    · exact .inr rfl
    · exact .inl (hnat hm c hc)
  · obtain ⟨m, hm, -⟩ := Option.map_eq_some_iff.mp h
    exact .inl (hnat hm c hc)

lemma find?_literals_of_numeric (h : ∀ c ∈ w, IsNumeric c) :
    (literals.find? fun literal => literal.2.toList = w) = none := by
  rw [List.find?_eq_none]
  intro literal hmem hequal
  obtain ⟨c, hc, hletter⟩ := literal_letter literal hmem
  rw [of_decide_eq_true hequal] at hc
  exact hletter (h c hc)

lemma find?_literals : ∀ literal ∈ literals,
    (literals.find? fun other => other.2.toList = literal.2.toList) = some literal := by
  decide +kernel

variable {v : Value}

lemma wordValue_word (h : v.isWord = true) : wordValue R (word F v) = some v := by
  rcases word_cases (F := F) h with ⟨n, rfl⟩ | ⟨q, rfl⟩ | ⟨s, hs, hword⟩
  · rw [wordValue, word, find?_literals_of_numeric (intText_isNumeric n), readInt_intText]
  · have hint : readInt (F.repr q) = none := by
      cases hread : readInt (F.repr q) with
      | none => rfl
      | some n =>
        rcases F.fractional q with hc | hc
        · exact absurd (readInt_numeric hread _ hc) (by decide)
        · exact absurd (readInt_numeric hread _ hc) (by decide)
    rw [wordValue, word, find?_literals_of_numeric (F.numeric q), hint, R.read_repr]
    rfl
  · rw [wordValue, hword, find?_literals (v, s) hs]

lemma isWord_of_wordValue (h : wordValue R w = some v) : v.isWord = true := by
  have hliterals : ∀ literal ∈ literals, literal.1.isWord = true := by decide
  unfold wordValue at h
  split at h
  · rename_i literal hfind
    rw [← Option.some.inj h]
    exact hliterals literal (List.mem_of_find?_eq_some hfind)
  · split at h
    · rw [← Option.some.inj h]
      rfl
    · obtain ⟨x, -, rfl⟩ := Option.map_eq_some_iff.mp h
      rfl

lemma word_goesOn (h : v.isWord = true) : ∀ c ∈ word F v, endsWord c = false := by
  have hnumeric : ∀ c, IsNumeric c → endsWord c = false := by
    intro c hc
    have hdelimiter := not_delimiter_of_numeric hc
    have hother : c ≠ ':' ∧ isBlank c = false := by
      rcases hc with hc | hc
      · refine ⟨fun heq => by simp [heq] at hc, ?_⟩
        simp only [isBlank, Bool.or_eq_false_iff, decide_eq_false_iff_not]
        exact ⟨⟨⟨fun heq => by simp [heq] at hc, fun heq => by simp [heq] at hc⟩,
          fun heq => by simp [heq] at hc⟩, fun heq => by simp [heq] at hc⟩
      · simp only [List.mem_cons, List.not_mem_nil, or_false] at hc
        rcases hc with rfl | rfl | rfl | rfl
        all_goals decide
    simp [endsWord, hdelimiter, hother.1, hother.2]
  rcases word_cases (F := F) h with ⟨n, rfl⟩ | ⟨q, rfl⟩ | ⟨s, hs, hword⟩
  · exact fun c hc => hnumeric c (intText_isNumeric n c hc)
  · exact fun c hc => hnumeric c (F.numeric q c hc)
  · have hall : ∀ literal ∈ literals, ∀ c ∈ literal.2.toList, endsWord c = false := by
      decide +kernel
    rw [hword]
    exact hall _ hs

def Ends : List Char → Prop
  | [] => True
  | c :: _ => endsWord c = true

lemma ends_cons {c : Char} {r : List Char} (h : endsWord c = true) : Ends (c :: r) := h

lemma readWord_word (h : v.isWord = true) {r : List Char} (hr : Ends r) :
    readWord R (word F v ++ r) = some (v, r) := by
  have hword : ∀ c ∈ word F v, (!endsWord c) = true := fun c hc => by
    rw [word_goesOn h c hc]
    rfl
  have hrest : (r.takeWhile fun c => !endsWord c) = [] ∧
      (r.dropWhile fun c => !endsWord c) = r := by
    cases r with
    | nil => exact ⟨rfl, rfl⟩
    | cons c r =>
      have hc : endsWord c = true := hr
      simp [hc]
  rw [readWord, List.takeWhile_append_of_pos hword, List.dropWhile_append_of_pos hword, hrest.1,
    hrest.2, List.append_nil, wordValue_word R h]
  rfl

/-! ## Texts are read back -/

lemma readChar_control (r : List Char) : ∀ n < 32,
    readChar (['\\', 'u', '0', '0', hexDigit (n / 16), hexDigit (n % 16)] ++ r) =
      some (Char.ofNat n, r) := by
  intro n hn
  interval_cases n
  all_goals rfl

lemma readChar_escape (c : Char) (r : List Char) : readChar (escape c ++ r) = some (c, r) := by
  have hnumber : ∀ {n : ℕ}, c.toNat = n → c = Char.ofNat n := fun h => by
    rw [← h, Char.ofNat_toNat]
  unfold escape
  split_ifs with hquote hback hn hr ht hb hf hcontrol
  · rw [hquote]; rfl
  · rw [hback]; rfl
  · rw [hn]; rfl
  · rw [hr]; rfl
  · rw [ht]; rfl
  · rw [hnumber hb]; rfl
  · rw [hnumber hf]; rfl
  · rw [readChar_control r c.toNat hcontrol, Char.ofNat_toNat]
  · rw [List.singleton_append, readChar, if_neg hback, if_neg hcontrol]

lemma readText_escaped : ∀ (s : List Char) {n : ℕ} (r : List Char), s.length < n →
    readText n (s.flatMap escape ++ '"' :: r) = some (s, r)
  | [], n + 1, r, _ => rfl
  | c :: s, n + 1, r, h => by
    have hrest := readText_escaped s (n := n) r (by simpa using h)
    rw [List.flatMap_cons, List.append_assoc]
    have hchar := readChar_escape c (s.flatMap escape ++ '"' :: r)
    cases hescaped : escape c ++ (s.flatMap escape ++ '"' :: r) with
    | nil =>
      rw [hescaped] at hchar
      exact absurd hchar (by simp [readChar])
    | cons d t =>
      rw [hescaped] at hchar
      have hquote : d ≠ '"' := fun heq => escape_ne_quote c _ t (hescaped.trans (heq ▸ rfl))
      rw [readText, if_neg hquote, hchar, Option.bind_some, hrest, Option.map_some]

/-! ## Values are read back -/

namespace Value

mutual

/-- The keys of each object in the value differ, as those of a `dict` do. -/
def Distinct : Value → Prop
  | .list items => DistinctItems items
  | .dict entries => (entries.map Prod.fst).Nodup ∧ DistinctEntries entries
  | .none | .bool _ | .int _ | .float _ | .str _ => True

def DistinctItems : List Value → Prop
  | [] => True
  | v :: vs => Distinct v ∧ DistinctItems vs

def DistinctEntries : List (String × Value) → Prop
  | [] => True
  | (_, v) :: rest => Distinct v ∧ DistinctEntries rest

end

end Value

lemma setItem_of_new {key : String} {v : Value} : ∀ {d : List (String × Value)},
    key ∉ d.map Prod.fst → setItem key v d = d ++ [(key, v)]
  | [], _ => rfl
  | (k, w) :: rest, h => by
    rw [List.map_cons, List.mem_cons, not_or] at h
    rw [setItem, if_neg fun heq => h.1 heq.symm, setItem_of_new h.2, List.cons_append]

lemma update_of_nodup : ∀ {es d : List (String × Value)},
    (d.map Prod.fst ++ es.map Prod.fst).Nodup → update d es = d ++ es
  | [], d, _ => (List.append_nil d).symm
  | (k, v) :: es, d, h => by
    have hnew : k ∉ d.map Prod.fst := by
      intro hmem
      exact (List.nodup_append.mp h).2.2 k hmem k List.mem_cons_self rfl
    have hstep : update d ((k, v) :: es) = update (d ++ [(k, v)]) es := by
      rw [update, List.foldl_cons, setItem_of_new hnew]
      rfl
    rw [hstep, update_of_nodup (by simpa using h), List.append_assoc, List.singleton_append]

lemma skip_of_not_blank {c : Char} {r : List Char} (h : isBlank c = false) :
    skip (c :: r) = c :: r := by
  rw [skip, List.dropWhile_cons, h]
  rfl

lemma skip_text (v : Value) (r : List Char) : skip (text F v ++ r) = text F v ++ r := by
  by_cases hv : v.isWord = true
  · obtain ⟨hne, -⟩ := word_spec (F := F) hv
    rw [text_of_isWord hv]
    cases hword : word F v with
    | nil => exact absurd hword hne
    | cons c w =>
      have hc := word_goesOn hv c (hword ▸ List.mem_cons_self)
      simp only [endsWord, Bool.or_eq_false_iff] at hc
      exact skip_of_not_blank hc.2
  · cases v with
    | str s => rw [text]; exact skip_of_not_blank (by decide)
    | list items => rw [text]; exact skip_of_not_blank (by decide)
    | dict entries => rw [text]; exact skip_of_not_blank (by decide)
    | _ => exact absurd rfl hv

lemma length_le_flatMap_escape : ∀ s : List Char, s.length ≤ (s.flatMap escape).length
  | [] => le_refl _
  | c :: s => by
    have hpositive : 0 < (escape c).length := by
      unfold escape
      split_ifs
      all_goals simp
    have hrest := length_le_flatMap_escape s
    rw [List.flatMap_cons, List.length_append, List.length_cons]
    omega

lemma readText_quote (s : String) {n : ℕ} (r : List Char) (h : (quote s).length < n) :
    readText n ((s.toList.flatMap escape ++ ['"']) ++ r) = some (s.toList, r) := by
  have hlength := length_le_flatMap_escape s.toList
  rw [quote, List.length_cons, List.length_append] at h
  rw [List.append_assoc]
  exact readText_escaped s.toList r (by omega)

lemma readValue_word {v : Value} (h : v.isWord = true) {n : ℕ} {r : List Char} (hr : Ends r) :
    readValue R (n + 1) (text F v ++ r) = some (v, r) := by
  have hother : ∀ d ∈ delimiters, ∀ s, text F v ++ r ≠ d :: s := fun d hd s =>
    text_ne_delimiter h r hd s
  unfold readValue
  split
  · rename_i heq
    exact absurd heq (hother '"' (by decide) _)
  · rename_i heq
    exact absurd heq (hother '[' (by decide) _)
  · rename_i heq
    exact absurd heq (hother '{' (by decide) _)
  · rw [text_of_isWord h]
    exact readWord_word R h hr
  · contradiction

lemma ends_moreItems (vs : List Value) (r : List Char) : Ends (textMoreItems F vs ++ r) := by
  cases vs with
  | nil => exact (rfl : endsWord ']' = true)
  | cons v vs => exact (rfl : endsWord ',' = true)

open Value

mutual

/-- **The text of a value is read back.** By recursion on the value; two units of fuel for each
character are enough. -/
lemma readValue_text : ∀ (v : Value) {n : ℕ} {r : List Char}, v.Distinct →
    (v.isWord = true → Ends r) → 2 * (text F v).length < n →
      readValue R n (text F v ++ r) = some (v, r)
  | .none, n + 1, _, _, hr, _ => readValue_word R rfl (hr rfl)
  | .bool _, n + 1, _, _, hr, _ => readValue_word R rfl (hr rfl)
  | .int _, n + 1, _, _, hr, _ => readValue_word R rfl (hr rfl)
  | .float _, n + 1, _, _, hr, _ => readValue_word R rfl (hr rfl)
  | .str s, n + 1, r, _, _, hn => by
    have hquote : 2 ≤ (quote s).length := by simp [quote]
    rw [text] at hn
    rw [text, quote, List.cons_append, readValue, readText_quote s r (by omega), Option.map_some,
      String.ofList_toList]
  | .list [], n + 1, r, _, _, _ => by
    rw [text, textItems, List.cons_append, List.singleton_append, readValue,
      skip_of_not_blank (by decide)]
    rfl
  | .list (v :: vs), n + 1, r, hdistinct, _, hn => by
    have hitems := readItems_text v vs (n := n) (r := r) hdistinct
      (by rw [text, textItems, List.length_cons] at hn; omega)
    rw [text, textItems, List.cons_append, readValue, List.append_assoc, skip_text]
    split
    · rename_i heq
      exact absurd heq (text_ne_close v _ _)
    · rw [← List.append_assoc, hitems, Option.map_some]
  | .dict [], n + 1, r, _, _, _ => by
    rw [text, textEntries, List.cons_append, List.singleton_append, readValue,
      skip_of_not_blank (by decide)]
    rfl
  | .dict ((k, v) :: es), n + 1, r, hdistinct, _, hn => by
    have hentries := readEntries_text k v es (n := n) (r := r) hdistinct.2
      (by rw [text, textEntries, List.length_cons] at hn; omega)
    have hupdate : update [] ((k, v) :: es) = (k, v) :: es :=
      update_of_nodup (by simpa using hdistinct.1)
    have hskip : ∀ rest, skip (quote k ++ rest) = quote k ++ rest := fun rest =>
      skip_of_not_blank (by decide)
    rw [text, textEntries, List.cons_append, readValue, List.append_assoc, hskip]
    split
    · rename_i heq
      exact absurd heq (by simp [quote])
    · rw [← List.append_assoc, hentries, Option.map_some, hupdate]

lemma readItems_text : ∀ (v : Value) (vs : List Value) {n : ℕ} {r : List Char},
    DistinctItems (v :: vs) → 2 * (text F v ++ textMoreItems F vs).length ≤ n →
      readItems R n (text F v ++ textMoreItems F vs ++ r) = some (v :: vs, r)
  | v, [], n + 1, r, hdistinct, hn => by
    rw [textMoreItems, List.length_append, List.length_singleton] at hn
    rw [textMoreItems, List.append_assoc, List.singleton_append, readItems,
      readValue_text v hdistinct.1 (fun _ => ends_cons rfl) (by omega),
      Option.bind_some]
    rw [skip_of_not_blank (by decide)]
    rfl
  | v, w :: vs, n + 1, r, hdistinct, hn => by
    rw [textMoreItems, List.length_append, List.length_cons] at hn
    have hitems := readItems_text w vs (n := n) (r := r) hdistinct.2 (by omega)
    rw [List.append_assoc, readItems,
      readValue_text v hdistinct.1 (fun _ => ends_moreItems (w :: vs) r) (by omega),
      Option.bind_some]
    simp only [textMoreItems, List.cons_append]
    rw [skip_of_not_blank (by decide)]
    simp only
    rw [List.append_assoc, skip_text, ← List.append_assoc, hitems, Option.map_some]
  | v, vs, 0, r, _, hn => by
    have hempty : (text F v ++ textMoreItems F vs).length = 0 := by omega
    exact absurd hempty (by cases vs <;> simp [textMoreItems])

lemma readEntries_text : ∀ (k : String) (v : Value) (es : List (String × Value)) {n : ℕ}
    {r : List Char}, DistinctEntries ((k, v) :: es) →
      2 * (quote k ++ (':' :: (text F v ++ textMoreEntries F es))).length ≤ n →
        readEntries R n (quote k ++ (':' :: (text F v ++ textMoreEntries F es)) ++ r) =
          some ((k, v) :: es, r)
  | k, v, es, 0, r, _, hn => by
    have hempty : (quote k ++ (':' :: (text F v ++ textMoreEntries F es))).length = 0 := by omega
    exact absurd hempty (by simp [quote])
  | k, v, [], n + 1, r, hdistinct, hn => by
    simp only [textMoreEntries, List.length_append, List.length_cons, List.length_nil] at hn
    simp only [textMoreEntries, List.append_assoc, List.cons_append]
    rw [quote, List.cons_append, readEntries, readText_quote k _ (by omega), Option.bind_some]
    rw [skip_of_not_blank (by decide)]
    simp only
    rw [skip_text, readValue_text v hdistinct.1 (fun _ => ends_cons rfl) (by omega),
      Option.bind_some]
    simp only [List.nil_append]
    rw [skip_of_not_blank (by decide)]
    simp only
    rw [String.ofList_toList]
  | k, v, (l, w) :: es, n + 1, r, hdistinct, hn => by
    simp only [textMoreEntries, List.length_append, List.length_cons] at hn
    have hentries := readEntries_text l w es (n := n) (r := r) hdistinct.2
      (by simp only [List.length_append, List.length_cons]; omega)
    have hskip : ∀ rest, skip (quote l ++ rest) = quote l ++ rest := fun rest =>
      skip_of_not_blank (by decide)
    simp only [List.append_assoc, List.cons_append] at hentries
    simp only [textMoreEntries, List.append_assoc, List.cons_append]
    rw [quote, List.cons_append, readEntries, readText_quote k _ (by omega), Option.bind_some]
    rw [skip_of_not_blank (by decide)]
    simp only
    rw [skip_text, readValue_text v hdistinct.1 (fun _ => ends_cons rfl) (by omega),
      Option.bind_some]
    rw [skip_of_not_blank (by decide)]
    simp only
    rw [hskip, hentries, Option.map_some, String.ofList_toList]

end

lemma skip_blank_append {blanks : List Char} (h : skip blanks = []) (s : List Char) :
    skip (blanks ++ s) = skip s :=
  List.dropWhile_append_of_pos (List.dropWhile_eq_nil_iff.mp h)

/-- **The text of a value is read back**, whatever blanks stand around it. -/
theorem loads_text {v : Value} (hv : v.Distinct) {before after : List Char}
    (hbefore : skip before = []) (hafter : skip after = []) :
    loads R (before ++ (text F v ++ after)) = some v := by
  have hends : Ends after := by
    cases after with
    | nil => trivial
    | cons c rest =>
      have hblank := List.dropWhile_eq_nil_iff.mp hafter c List.mem_cons_self
      exact ends_cons (by simp [endsWord, hblank])
  have hread := readValue_text R v hv (fun _ => hends)
    (n := 2 * (before ++ (text F v ++ after)).length + 1)
    (by rw [List.length_append, List.length_append]; omega)
  rw [loads, skip_blank_append hbefore, skip_text, hread, Option.bind_some, if_pos hafter]

/-! ## Keys in order -/

namespace Value

lemma canonItems_eq_map : ∀ vs : List Value, canonItems vs = vs.map canon
  | [] => rfl
  | _ :: vs => by rw [canonItems, canonItems_eq_map vs, List.map_cons]

lemma distinctEntries_iff : ∀ {es : List (String × Value)},
    DistinctEntries es ↔ ∀ e ∈ es, Distinct e.2
  | [] => by simp [DistinctEntries]
  | (_, _) :: es => by rw [DistinctEntries, List.forall_mem_cons, distinctEntries_iff]

lemma keys_canonEntries (es : List (String × Value)) :
    (canonEntries es).map Prod.fst = es.map Prod.fst := by
  rw [canonEntries_eq_map, List.map_map]
  rfl

mutual

lemma distinct_canon : ∀ {v : Value}, v.Distinct → v.canon.Distinct
  | .none, _ | .bool _, _ | .int _, _ | .float _, _ | .str _, _ => trivial
  | .list _, h => distinctItems_canon h
  | .dict es, h => by
    have hperm := List.perm_insertionSort (·.1 ≤ ·.1) (canonEntries es)
    refine ⟨?_, ?_⟩
    · rw [(hperm.map Prod.fst).nodup_iff, keys_canonEntries]
      exact h.1
    · have hentries := distinctEntries_canon h.2
      rw [distinctEntries_iff] at hentries ⊢
      exact fun e he => hentries e (hperm.mem_iff.mp he)

lemma distinctItems_canon : ∀ {vs : List Value}, DistinctItems vs → DistinctItems (canonItems vs)
  | [], _ => trivial
  | _ :: _, h => ⟨distinct_canon h.1, distinctItems_canon h.2⟩

lemma distinctEntries_canon : ∀ {es : List (String × Value)},
    DistinctEntries es → DistinctEntries (canonEntries es)
  | [], _ => trivial
  | (_, _) :: _, h => ⟨distinct_canon h.1, distinctEntries_canon h.2⟩

end

instance : Std.Total fun a b : String × Value => a.1 ≤ b.1 := ⟨fun a b => String.le_total a.1 b.1⟩

instance : IsTrans (String × Value) fun a b => a.1 ≤ b.1 := ⟨fun _ _ _ => String.le_trans⟩

lemma insertionSort_canonEntries (es : List (String × Value)) :
    canonEntries (es.insertionSort (·.1 ≤ ·.1)) = (canonEntries es).insertionSort (·.1 ≤ ·.1) := by
  rw [canonEntries_eq_map, canonEntries_eq_map]
  exact List.map_insertionSort _ _ _ es fun _ _ _ _ => Iff.rfl

mutual

@[simp] lemma canon_canon : ∀ v : Value, v.canon.canon = v.canon
  | .none | .bool _ | .int _ | .float _ | .str _ => rfl
  | .list vs => by rw [canon, canon, canonItems_canonItems vs]
  | .dict es => by
    rw [canon, canon, insertionSort_canonEntries, canonEntries_canonEntries es,
      (List.pairwise_insertionSort _ _).insertionSort_eq]

lemma canonItems_canonItems : ∀ vs : List Value, canonItems (canonItems vs) = canonItems vs
  | [] => rfl
  | v :: vs => by rw [canonItems, canonItems, canon_canon v, canonItems_canonItems vs]

lemma canonEntries_canonEntries : ∀ es : List (String × Value),
    canonEntries (canonEntries es) = canonEntries es
  | [] => rfl
  | (k, v) :: es => by rw [canonEntries, canonEntries, canon_canon v, canonEntries_canonEntries es]

end

end Value

/-! ## No line breaks -/

lemma escape_printable (c : Char) : ∀ d ∈ escape c, 32 ≤ d.toNat := by
  have hcontrol : ∀ n < 32, ∀ d ∈ ['\\', 'u', '0', '0', hexDigit (n / 16), hexDigit (n % 16)],
      32 ≤ d.toNat := by decide
  unfold escape
  split_ifs with _ _ _ _ _ _ _ h
  · decide
  · decide
  · decide
  · decide
  · decide
  · decide
  · decide
  · exact hcontrol c.toNat h
  · intro d hd
    rw [List.mem_singleton.mp hd]
    omega

lemma quote_printable (s : String) : ∀ c ∈ quote s, 32 ≤ c.toNat := by
  intro c hc
  simp only [quote, List.mem_cons, List.mem_append, List.mem_flatMap, List.not_mem_nil,
    or_false] at hc
  rcases hc with rfl | ⟨d, -, hd⟩ | rfl
  · decide
  · exact escape_printable d c hd
  · decide

lemma word_printable {v : Value} (h : v.isWord = true) : ∀ c ∈ word F v, 32 ≤ c.toNat := by
  have hnumeric : ∀ c, IsNumeric c → 32 ≤ c.toNat := by
    intro c hc
    rcases hc with hc | hc
    · exact le_trans (by decide) (Char.isDigit_iff_toNat.mp hc).1
    · simp only [List.mem_cons, List.not_mem_nil, or_false] at hc
      rcases hc with rfl | rfl | rfl | rfl
      all_goals decide
  rcases word_cases (F := F) h with ⟨n, rfl⟩ | ⟨q, rfl⟩ | ⟨s, hs, hword⟩
  · exact fun c hc => hnumeric c (intText_isNumeric n c hc)
  · exact fun c hc => hnumeric c (F.numeric q c hc)
  · have hall : ∀ literal ∈ literals, ∀ c ∈ literal.2.toList, 32 ≤ c.toNat := by decide +kernel
    rw [hword]
    exact hall _ hs

mutual

lemma text_printable : ∀ v : Value, ∀ c ∈ text F v, 32 ≤ c.toNat
  | .none => by rw [text]; exact word_printable rfl
  | .bool _ => by rw [text]; exact word_printable rfl
  | .int _ => by rw [text]; exact word_printable rfl
  | .float _ => by rw [text]; exact word_printable rfl
  | .str s => by rw [text]; exact quote_printable s
  | .list [] => by rw [text, textItems]; decide
  | .list (v :: vs) => by
    intro c hc
    rw [text, textItems, List.mem_cons, List.mem_append] at hc
    rcases hc with rfl | hc | hc
    · decide
    · exact text_printable v c hc
    · exact textMoreItems_printable vs c hc
  | .dict [] => by rw [text, textEntries]; decide
  | .dict ((k, v) :: es) => by
    intro c hc
    rw [text, textEntries, List.mem_cons, List.mem_append, List.mem_cons, List.mem_append] at hc
    rcases hc with rfl | hc | rfl | hc | hc
    · decide
    · exact quote_printable k c hc
    · decide
    · exact text_printable v c hc
    · exact textMoreEntries_printable es c hc

lemma textMoreItems_printable : ∀ vs : List Value, ∀ c ∈ textMoreItems F vs, 32 ≤ c.toNat
  | [] => by rw [textMoreItems]; decide
  | v :: vs => by
    intro c hc
    rw [textMoreItems, List.mem_cons, List.mem_append] at hc
    rcases hc with rfl | hc | hc
    · decide
    · exact text_printable v c hc
    · exact textMoreItems_printable vs c hc

lemma textMoreEntries_printable : ∀ es : List (String × Value),
    ∀ c ∈ textMoreEntries F es, 32 ≤ c.toNat
  | [] => by rw [textMoreEntries]; decide
  | (k, v) :: es => by
    intro c hc
    rw [textMoreEntries, List.mem_cons, List.mem_append, List.mem_cons, List.mem_append] at hc
    rcases hc with rfl | hc | rfl | hc | hc
    · decide
    · exact quote_printable k c hc
    · decide
    · exact text_printable v c hc
    · exact textMoreEntries_printable es c hc

end

/-! ## What has been read does not depend on what follows -/

lemma skip_append {s : List Char} (h : skip s ≠ []) (q : List Char) :
    skip (s ++ q) = skip s ++ q := by
  induction s with
  | nil => exact absurd rfl h
  | cons d s ih =>
    cases hd : isBlank d with
    | true =>
      simp only [skip, List.cons_append, List.dropWhile_cons, hd, if_true] at h ih ⊢
      exact ih h
    | false =>
      simp only [skip, List.cons_append, List.dropWhile_cons, hd, Bool.false_eq_true, if_false]

variable {s r : List Char} {c : Char}

lemma readLow_append {n : ℕ} (h : readLow n s = some (c, r))
    (q : List Char) : readLow n (s ++ q) = some (c, r ++ q) := by
  unfold readLow at h
  split at h
  · rename_i a b c d rest
    obtain ⟨m, hm, hlow⟩ := Option.bind_eq_some_iff.mp h
    simp only [List.cons_append, readLow, hm, Option.bind_some]
    split_ifs at hlow ⊢ with hcond
    obtain ⟨rfl, rfl⟩ := Prod.mk.inj (Option.some.inj hlow)
    rfl
  · cases h

lemma readUnicode_append (h : readUnicode s = some (c, r))
    (q : List Char) : readUnicode (s ++ q) = some (c, r ++ q) := by
  unfold readUnicode at h
  split at h
  · rename_i a b c d rest
    obtain ⟨n, hn, hrest⟩ := Option.bind_eq_some_iff.mp h
    simp only [List.cons_append, readUnicode, hn, Option.bind_some]
    split_ifs at hrest ⊢ with hcond
    · exact readLow_append hrest q
    · obtain ⟨rfl, rfl⟩ := Prod.mk.inj (Option.some.inj hrest)
      rfl
  · cases h

lemma readEscape_append (h : readEscape s = some (c, r))
    (q : List Char) : readEscape (s ++ q) = some (c, r ++ q) := by
  cases s with
  | nil => exact absurd h (by simp [readEscape])
  | cons e s =>
    rw [List.cons_append]
    simp only [readEscape] at h ⊢
    cases hlookup : escapes.lookup e with
    | some d =>
      rw [hlookup] at h
      obtain ⟨rfl, rfl⟩ := Prod.mk.inj (Option.some.inj h)
      rfl
    | none =>
      rw [hlookup] at h
      simp only at h ⊢
      split_ifs at h ⊢ with hu
      exact readUnicode_append h q

lemma readChar_append (h : readChar s = some (c, r))
    (q : List Char) : readChar (s ++ q) = some (c, r ++ q) := by
  cases s with
  | nil => exact absurd h (by simp [readChar])
  | cons e s =>
    rw [List.cons_append]
    simp only [readChar] at h ⊢
    split_ifs at h ⊢ with hback hcontrol
    · exact readEscape_append h q
    · obtain ⟨rfl, rfl⟩ := Prod.mk.inj (Option.some.inj h)
      rfl

lemma readText_append : ∀ {n m : ℕ} {s t r : List Char}, readText n s = some (t, r) → n ≤ m →
    ∀ q, readText m (s ++ q) = some (t, r ++ q)
  | n + 1, m + 1, c :: s, t, r, h, hm, q => by
    have happend : ∀ {p}, readChar (c :: s) = some p →
        readChar (c :: (s ++ q)) = some (p.1, p.2 ++ q) := fun hp => readChar_append hp q
    rw [List.cons_append]
    unfold readText at h ⊢
    split_ifs at h ⊢ with hquote
    · obtain ⟨rfl, rfl⟩ := Prod.mk.inj (Option.some.inj h)
      rfl
    · obtain ⟨p, hp, hrest⟩ := Option.bind_eq_some_iff.mp h
      obtain ⟨u, hu, heq⟩ := Option.map_eq_some_iff.mp hrest
      obtain ⟨rfl, rfl⟩ := Prod.mk.inj heq
      rw [happend hp, Option.bind_some, readText_append hu (by omega) q, Option.map_some]
  | n + 1, _, [], _, _, h, _, _ => absurd h (by simp [readText])
  | 0, _, _, _, _, h, _, _ => absurd h (by simp [readText])

lemma readWord_append {v : Value} (h : readWord R s = some (v, r)) (hr : r ≠ [])
    (q : List Char) : readWord R (s ++ q) = some (v, r ++ q) := by
  obtain ⟨w, hw, heq⟩ := Option.map_eq_some_iff.mp h
  obtain ⟨rfl, rfl⟩ := Prod.mk.inj heq
  have hsplit : ∀ s : List Char, (s.dropWhile fun c => !endsWord c) ≠ [] →
      ((s ++ q).takeWhile fun c => !endsWord c) = (s.takeWhile fun c => !endsWord c) ∧
        ((s ++ q).dropWhile fun c => !endsWord c) = (s.dropWhile fun c => !endsWord c) ++ q := by
    intro s
    induction s with
    | nil => exact fun hne => absurd rfl hne
    | cons c s ih =>
      intro hne
      cases hc : endsWord c with
      | true => simp [hc]
      | false =>
        simp only [List.dropWhile_cons, hc, Bool.not_false, if_true] at hne
        simp [hc, ih hne]
  rw [readWord, (hsplit s hr).1, (hsplit s hr).2, hw, Option.map_some]

lemma readValue_array (n : ℕ) (s : List Char) : readValue R (n + 1) ('[' :: s) =
      if (skip s).head? = some ']' then some (.list [], (skip s).tail)
      else (readItems R n (skip s)).map fun t => (.list t.1, t.2) := by
  rw [readValue]
  cases skip s with
  | nil => rfl
  | cons c t =>
    by_cases hc : c = ']'
    · subst hc
      rfl
    · rw [if_neg (by simpa using hc)]
      split
      · rename_i heq
        exact absurd (List.cons.inj heq).1 hc
      · rfl

lemma readValue_object (n : ℕ) (s : List Char) : readValue R (n + 1) ('{' :: s) =
      if (skip s).head? = some '}' then some (.dict [], (skip s).tail)
      else (readEntries R n (skip s)).map fun t => (.dict (update [] t.1), t.2) := by
  rw [readValue]
  cases skip s with
  | nil => rfl
  | cons c t =>
    by_cases hc : c = '}'
    · subst hc
      rfl
    · rw [if_neg (by simpa using hc)]
      split
      · rename_i heq
        exact absurd (List.cons.inj heq).1 hc
      · rfl

lemma readValue_other (hquote : c ≠ '"') (harray : c ≠ '[') (hobject : c ≠ '{') (n : ℕ)
    (s : List Char) : readValue R (n + 1) (c :: s) = readWord R (c :: s) := by
  rw [readValue]
  · exact fun _ heq => hquote (List.cons.inj heq).1
  · exact fun _ heq => harray (List.cons.inj heq).1
  · exact fun _ heq => hobject (List.cons.inj heq).1

lemma readValue_nil {n : ℕ} {v : Value} {r : List Char} (h : readValue R n [] = some (v, r)) :
    r = [] := by
  cases n with
  | zero => exact absurd h (by simp [readValue])
  | succ n =>
    obtain ⟨w, -, heq⟩ := Option.map_eq_some_iff.mp h
    exact (Prod.mk.inj heq).2.symm

lemma readItems_nil (n : ℕ) : readItems R n [] = Option.none := by
  cases n with
  | zero => rfl
  | succ n =>
    rw [readItems, Option.bind_eq_none_iff]
    intro v hv
    rw [readValue_nil R (v := v.1) (r := v.2) hv]
    rfl

lemma readEntries_nil (n : ℕ) : readEntries R n [] = Option.none := by
  cases n with
  | zero => rfl
  | succ n => rfl

lemma ne_nil_of_skip {s t : List Char} (h : skip s = c :: t) : s ≠ [] := by
  rintro rfl
  exact absurd h (by simp [skip])

/-- What stands between brackets does not depend on what follows them. -/
lemma brackets_append {α : Type} {close : Char} {empty v : Value} {f : α → Value}
    {inner inner' : List Char → Option (α × List Char)} {s r q : List Char}
    (hnil : inner [] = Option.none)
    (hinner : ∀ {t r a}, inner t = some (a, r) → inner' (t ++ q) = some (a, r ++ q))
    (h : (if (skip s).head? = some close then some (empty, (skip s).tail)
      else (inner (skip s)).map fun t => (f t.1, t.2)) = some (v, r)) :
    (if (skip (s ++ q)).head? = some close then some (empty, (skip (s ++ q)).tail)
      else (inner' (skip (s ++ q))).map fun t => (f t.1, t.2)) = some (v, r ++ q) := by
  cases hskip : skip s with
  | nil =>
    rw [hskip, hnil] at h
    cases h
  | cons d t =>
    rw [hskip, List.head?_cons, List.tail_cons] at h
    rw [skip_append (hskip ▸ List.cons_ne_nil d t), hskip, List.cons_append, List.head?_cons,
      List.tail_cons]
    split_ifs at h ⊢ with hclose
    · obtain ⟨rfl, rfl⟩ := Prod.mk.inj (Option.some.inj h)
      rfl
    · obtain ⟨u, hu, heq⟩ := Option.map_eq_some_iff.mp h
      obtain ⟨rfl, rfl⟩ := Prod.mk.inj heq
      rw [← List.cons_append, hinner (a := u.1) (r := u.2) hu, Option.map_some]

mutual

/-- **What has been read does not depend on what follows**, unless it is a word. By induction on the
fuel: the values inside are followed by a delimiter. -/
lemma readValue_append : ∀ {n m : ℕ} {s r : List Char} {v : Value},
    readValue R n s = some (v, r) → (v.isWord = true → r ≠ []) → n ≤ m →
      ∀ q, readValue R m (s ++ q) = some (v, r ++ q)
  | 0, _, _, _, _, h, _, _, _ => absurd h (by simp [readValue])
  | n + 1, m + 1, [], r, v, h, hr, _, q => by
    obtain ⟨w, hw, heq⟩ := Option.map_eq_some_iff.mp h
    obtain ⟨rfl, rfl⟩ := Prod.mk.inj heq
    exact absurd rfl (hr (isWord_of_wordValue R hw))
  | n + 1, m + 1, c :: s, r, v, h, hr, hm, q => by
    have hfuel : n ≤ m := by omega
    rw [List.cons_append]
    by_cases hquote : c = '"'
    · subst hquote
      rw [readValue] at h ⊢
      obtain ⟨t, ht, heq⟩ := Option.map_eq_some_iff.mp h
      obtain ⟨rfl, rfl⟩ := Prod.mk.inj heq
      rw [readText_append (t := t.1) (r := t.2) ht hfuel q, Option.map_some]
    by_cases harray : c = '['
    · subst harray
      rw [readValue_array] at h ⊢
      exact brackets_append (readItems_nil R n) (fun ht => readItems_append ht hfuel q) h
    by_cases hobject : c = '{'
    · subst hobject
      rw [readValue_object] at h ⊢
      exact brackets_append (f := fun es => .dict (update [] es)) (readEntries_nil R n)
        (fun ht => readEntries_append ht hfuel q) h
    · rw [readValue_other R hquote harray hobject] at h ⊢
      obtain ⟨w, hw, heq⟩ := Option.map_eq_some_iff.mp h
      have hword : v.isWord = true := by
        rw [← (Prod.mk.inj heq).1]
        exact isWord_of_wordValue R hw
      exact readWord_append R h (hr hword) q

lemma readItems_append : ∀ {n m : ℕ} {s r : List Char} {vs : List Value},
    readItems R n s = some (vs, r) → n ≤ m → ∀ q, readItems R m (s ++ q) = some (vs, r ++ q)
  | 0, _, _, _, _, h, _, _ => absurd h (by simp [readItems])
  | n + 1, m + 1, s, r, vs, h, hm, q => by
    have hfuel : n ≤ m := by omega
    rw [readItems] at h ⊢
    obtain ⟨⟨v, t⟩, hv, hrest⟩ := Option.bind_eq_some_iff.mp h
    simp only at hrest
    split at hrest
    · rename_i hskip
      obtain ⟨rfl, rfl⟩ := Prod.mk.inj (Option.some.inj hrest)
      rw [readValue_append hv (fun _ => ne_nil_of_skip hskip) hfuel q, Option.bind_some]
      rw [skip_append (hskip ▸ List.cons_ne_nil _ _), hskip]
      rfl
    · rename_i u hskip
      obtain ⟨w, hw, heq⟩ := Option.map_eq_some_iff.mp hrest
      obtain ⟨rfl, rfl⟩ := Prod.mk.inj heq
      have hne : skip u ≠ [] := fun hnil => by
        rw [hnil, readItems_nil] at hw
        cases hw
      have hitems : readItems R m (skip u ++ q) = some (w.1, w.2 ++ q) := readItems_append hw hfuel q
      rw [readValue_append hv (fun _ => ne_nil_of_skip hskip) hfuel q, Option.bind_some]
      rw [skip_append (hskip ▸ List.cons_ne_nil _ _), hskip]
      simp only [List.cons_append]
      rw [skip_append hne, hitems, Option.map_some]
    · cases hrest

lemma readEntries_append : ∀ {n m : ℕ} {s r : List Char} {es : List (String × Value)},
    readEntries R n s = some (es, r) → n ≤ m → ∀ q, readEntries R m (s ++ q) = some (es, r ++ q)
  | 0, _, _, _, _, h, _, _ => absurd h (by simp [readEntries])
  | n + 1, m + 1, s, r, es, h, hm, q => by
    have hfuel : n ≤ m := by omega
    cases s with
    | nil => exact absurd h (by simp [readEntries])
    | cons c s =>
      have hquote : c = '"' := by
        by_contra hne
        rw [readEntries] at h
        · cases h
        · exact fun _ heq => hne (List.cons.inj heq).1
      subst hquote
      rw [List.cons_append]
      rw [readEntries] at h ⊢
      obtain ⟨⟨k, t⟩, hk, hrest⟩ := Option.bind_eq_some_iff.mp h
      rw [readText_append hk hfuel q, Option.bind_some]
      simp only at hrest ⊢
      split at hrest
      · rename_i u hcolon
        obtain ⟨⟨v, w⟩, hv, hrest⟩ := Option.bind_eq_some_iff.mp hrest
        have hvalue : w ≠ [] → readValue R m (skip (u ++ q)) = some (v, w ++ q) := by
          intro hw
          have hne : skip u ≠ [] := fun hnil => hw (readValue_nil R (hnil ▸ hv))
          rw [skip_append hne, readValue_append hv (fun _ => hw) hfuel q]
        rw [skip_append (hcolon ▸ List.cons_ne_nil _ _), hcolon]
        simp only [List.cons_append] at hrest ⊢
        split at hrest
        · rename_i hskip
          obtain ⟨rfl, rfl⟩ := Prod.mk.inj (Option.some.inj hrest)
          rw [hvalue (ne_nil_of_skip hskip), Option.bind_some]
          rw [skip_append (hskip ▸ List.cons_ne_nil _ _), hskip]
          rfl
        · rename_i x hskip
          obtain ⟨y, hy, heq⟩ := Option.map_eq_some_iff.mp hrest
          obtain ⟨rfl, rfl⟩ := Prod.mk.inj heq
          have hne : skip x ≠ [] := fun hnil => by
            rw [hnil, readEntries_nil] at hy
            cases hy
          have hentries : readEntries R m (skip x ++ q) = some (y.1, y.2 ++ q) :=
            readEntries_append hy hfuel q
          rw [hvalue (ne_nil_of_skip hskip), Option.bind_some]
          rw [skip_append (hskip ▸ List.cons_ne_nil _ _), hskip]
          simp only [List.cons_append]
          rw [skip_append hne, hentries, Option.map_some]
        · cases hrest
      · cases hrest

end

/-! ## Documents -/

variable {v : Value}

lemma loads_eq_some {s : List Char} (h : loads R s = some v) :
    ∃ r, readValue R (2 * s.length + 1) (skip s) = some (v, r) ∧ skip r = [] := by
  obtain ⟨w, hw, hrest⟩ := Option.bind_eq_some_iff.mp h
  split_ifs at hrest with hskip
  exact ⟨w.2, by rw [← Option.some.inj hrest, hw], hskip⟩

lemma not_loads_append {s q : List Char} {v w : Value} (hs : loads R s = some v)
    (hv : v.isWord = false) (hq : skip q ≠ []) : loads R (s ++ q) ≠ some w := by
  intro hw
  obtain ⟨r, hread, -⟩ := loads_eq_some R hs
  obtain ⟨t, hwhole, hskip⟩ := loads_eq_some R hw
  have hne : skip s ≠ [] := by
    intro hnil
    have hword : v.isWord = true := by
      rw [hnil] at hread
      obtain ⟨x, hx, heq⟩ := Option.map_eq_some_iff.mp hread
      rw [← (Prod.mk.inj heq).1]
      exact isWord_of_wordValue R hx
    simp [hv] at hword
  have hfuel : 2 * s.length + 1 ≤ 2 * (s ++ q).length + 1 := by rw [List.length_append]; omega
  have happend := readValue_append R hread (fun hword => absurd hword (by simp [hv])) hfuel q
  rw [skip_append hne, happend, Option.some.injEq, Prod.mk.injEq] at hwhole
  rw [← hwhole.2] at hskip
  have hall : ∀ c ∈ r ++ q, isBlank c = true := List.dropWhile_eq_nil_iff.mp hskip
  exact hq (List.dropWhile_eq_nil_iff.mpr fun c hc => hall c (List.mem_append_right r hc))

/-- **After an object nothing but blanks may follow.** -/
theorem loads_append {s q : List Char} (hs : loads R s = some v)
    (hv : v.isWord = false) (hq : skip q ≠ []) : loads R (s ++ q) = Option.none := by
  cases hloads : loads R (s ++ q) with
  | none => rfl
  | some w => exact absurd hloads (not_loads_append R hs hv hq)

lemma not_word_of_readValue {n : ℕ} {c : Char} {s r : List Char}
    (hc : c ∈ ['"', '[', '{']) (h : readValue R n (c :: s) = some (v, r)) : v.isWord = false := by
  cases n with
  | zero => exact absurd h (by simp [readValue])
  | succ n =>
    simp only [List.mem_cons, List.not_mem_nil, or_false] at hc
    rcases hc with rfl | rfl | rfl
    · rw [readValue] at h
      obtain ⟨t, -, heq⟩ := Option.map_eq_some_iff.mp h
      rw [← (Prod.mk.inj heq).1]
      rfl
    · rw [readValue_array] at h
      split_ifs at h
      · rw [← (Prod.mk.inj (Option.some.inj h)).1]
        rfl
      · obtain ⟨t, -, heq⟩ := Option.map_eq_some_iff.mp h
        rw [← (Prod.mk.inj heq).1]
        rfl
    · rw [readValue_object] at h
      split_ifs at h
      · rw [← (Prod.mk.inj (Option.some.inj h)).1]
        rfl
      · obtain ⟨t, -, heq⟩ := Option.map_eq_some_iff.mp h
        rw [← (Prod.mk.inj heq).1]
        rfl

lemma text_head (h : v.isWord = false) : ∃ c ∈ ['"', '[', '{'], ∃ t, text F v = c :: t := by
  cases v with
  | str s => exact ⟨'"', by decide, _, by rw [text, quote]⟩
  | list vs => exact ⟨'[', by decide, _, by rw [text]⟩
  | dict es => exact ⟨'{', by decide, _, by rw [text]⟩
  | _ => exact absurd h (by simp [isWord])

/-- **The beginning of a document is no document.** What is read of it is all of it. -/
theorem loads_of_prefix (hv : v.Distinct) (hword : v.isWord = false)
    {before p q : List Char} (hbefore : skip before = []) (h : p ++ q = text F v) (hp : p ≠ [])
    (hq : q ≠ []) : loads R (before ++ p) = Option.none := by
  cases hloads : loads R (before ++ p) with
  | none => rfl
  | some w =>
    exfalso
    obtain ⟨c, hc, t, htext⟩ := text_head (F := F) hword
    obtain ⟨p', rfl⟩ : ∃ p', p = c :: p' := by
      cases p with
      | nil => exact absurd rfl hp
      | cons d p' =>
        rw [htext, List.cons_append] at h
        exact ⟨p', by rw [(List.cons.inj h).1]⟩
    have hskip : skip (c :: p') = c :: p' := by
      refine skip_of_not_blank ?_
      simp only [List.mem_cons, List.not_mem_nil, or_false] at hc
      rcases hc with rfl | rfl | rfl
      all_goals decide
    obtain ⟨r, hread, -⟩ := loads_eq_some R hloads
    rw [skip_blank_append hbefore, hskip] at hread
    have happend := readValue_append R hread
      (fun hw => absurd hw (by simp [not_word_of_readValue R hc hread]))
      (by omega : _ ≤ 2 * (before ++ c :: p').length + 1 + 2 * (text F v).length) q
    have hwhole := readValue_text R v hv (r := [])
      (n := 2 * (before ++ c :: p').length + 1 + 2 * (text F v).length)
      (fun hw => absurd hw (by simp [hword])) (by omega)
    rw [List.append_nil] at hwhole
    rw [h, hwhole] at happend
    have hrest := (Prod.mk.inj (Option.some.inj happend)).2
    exact hq (List.append_eq_nil_iff.mp hrest.symm).2

lemma loads_of_word {s t : List Char} {c : Char} (hskip : skip s = c :: t)
    (hc : c ∉ ['"', '[', '{']) {d : Char} (hd : d ∈ t) (hends : endsWord d = true)
    (hblank : isBlank d = false) : loads R s = Option.none := by
  cases hloads : loads R s with
  | none => rfl
  | some v =>
    exfalso
    obtain ⟨r, hread, hrest⟩ := loads_eq_some R hloads
    simp only [List.mem_cons, List.not_mem_nil, or_false, not_or] at hc
    rw [hskip, readValue_other R hc.1 hc.2.1 hc.2.2] at hread
    obtain ⟨w, -, heq⟩ := Option.map_eq_some_iff.mp hread
    have hmem : d ∈ (c :: t).takeWhile (fun c => !endsWord c) ++
        (c :: t).dropWhile (fun c => !endsWord c) := by
      rw [List.takeWhile_append_dropWhile]
      exact List.mem_cons_of_mem c hd
    rw [(Prod.mk.inj heq).2] at hmem
    rcases List.mem_append.mp hmem with hword | hafter
    · have hall := List.all_eq_true.mp List.all_takeWhile d hword
      simp [hends] at hall
    · have hall := List.dropWhile_eq_nil_iff.mp hrest d hafter
      simp [hblank] at hall

def FloatReader.fractions : FloatReader FloatText.fractions where
  read w := match readInt (w.takeWhile (· ≠ 'e')), readNat ((w.dropWhile (· ≠ 'e')).drop 1) with
    | some n, some d => some (.finite (n / d))
    | _, _ => Option.none
  read_repr q := by
    have hnum : ∀ c ∈ intText q.num, (decide (c ≠ 'e')) = true := by
      intro c hc
      rcases intText_numeric _ c hc with hd | rfl
      · exact decide_eq_true fun heq => by simp [heq] at hd
      · decide
    have htake : (FloatText.fractions.repr q).takeWhile (· ≠ 'e') = intText q.num := by
      rw [FloatText.fractions, List.takeWhile_append_of_pos hnum]
      simp
    have hdrop : (FloatText.fractions.repr q).dropWhile (· ≠ 'e') =
        'e' :: Nat.toDigits 10 q.den := by
      rw [FloatText.fractions, List.dropWhile_append_of_pos hnum]
      simp
    rw [htake, hdrop, readInt_intText, List.drop_one, List.tail_cons, readNat_toDigits]
    simp only [Rat.num_div_den]

end Python
