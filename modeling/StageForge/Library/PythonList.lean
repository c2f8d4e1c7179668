import Mathlib
import StageForge.Library.PythonValue

/-!
# Lists of a Python program

Sorting and reading lists by keys, and texts that have been stripped.
-/

namespace Python

/-! ## Sorting -/

section

variable {α κ : Type} [LinearOrder κ] (key : α → κ)

/-- `sorted(items, key=…)`. -/
def sortOn (items : List α) : List α := items.insertionSort fun a b => key a ≤ key b

variable {key} {items : List α}

lemma sortOn_perm : (sortOn key items).Perm items := List.perm_insertionSort _ _

@[simp] lemma mem_sortOn {a : α} : a ∈ sortOn key items ↔ a ∈ items := sortOn_perm.mem_iff

lemma sortOn_pairwise : (sortOn key items).Pairwise fun a b => key a ≤ key b := by
  have : Std.Total fun a b : α => key a ≤ key b := ⟨fun a b => le_total (key a) (key b)⟩
  have : IsTrans α fun a b : α => key a ≤ key b := ⟨fun _ _ _ => le_trans⟩
  exact List.pairwise_insertionSort _ _

lemma sortOn_eq_self (h : items.Pairwise fun a b => key a ≤ key b) : sortOn key items = items :=
  h.insertionSort_eq

@[simp] lemma sortOn_sortOn : sortOn key (sortOn key items) = sortOn key items :=
  sortOn_eq_self sortOn_pairwise

omit [LinearOrder κ] in
/-- What goes with the keys is the same for lists with the same keys. -/
lemma map_eq_of_keys {β : Type} {g : α → β} : ∀ {xs ys : List α}, xs.map key = ys.map key →
    (∀ a ∈ xs, ∀ b ∈ ys, key a = key b → g a = g b) → xs.map g = ys.map g
  | [], [], _, _ => rfl
  | a :: xs, b :: ys, hkeys, hg => by
    rw [List.map_cons, List.map_cons, List.cons.injEq] at hkeys
    rw [List.map_cons, List.map_cons, hg a List.mem_cons_self b List.mem_cons_self hkeys.1,
      map_eq_of_keys hkeys.2 fun c hc d hd =>
        hg c (List.mem_cons_of_mem _ hc) d (List.mem_cons_of_mem _ hd)]

lemma map_sortOn_of_keys {β : Type} {g : α → β} {xs ys : List α}
    (hkeys : (xs.map key).Perm (ys.map key))
    (hg : ∀ a ∈ xs, ∀ b ∈ ys, key a = key b → g a = g b) :
    (sortOn key xs).map g = (sortOn key ys).map g := by
  have hsame : (sortOn key xs).map key = (sortOn key ys).map key := by
    refine List.Perm.eq_of_pairwise' (r := (· ≤ ·)) (List.pairwise_map.mpr sortOn_pairwise)
      (List.pairwise_map.mpr sortOn_pairwise) ?_
    exact (sortOn_perm.map key).trans (hkeys.trans (sortOn_perm.map key).symm)
  exact map_eq_of_keys hsame fun a ha b hb => hg a (mem_sortOn.mp ha) b (mem_sortOn.mp hb)

end

/-! ## The first one -/

section

variable {α : Type} {p : α → Bool}

/-- The first item with `p`, what is before it and what comes after it. -/
def splitFirst (p : α → Bool) : List α → Option (List α × α × List α)
  | [] => none
  | a :: items =>
    if p a then some ([], a, items)
    else (splitFirst p items).map fun (before, b, after) => (a :: before, b, after)

lemma splitFirst_eq_some {items before after : List α} {a : α}
    (h : splitFirst p items = some (before, a, after)) :
    items = before ++ a :: after ∧ p a = true ∧ ∀ b ∈ before, p b = false := by
  induction items generalizing before with
  | nil => exact absurd h (by simp [splitFirst])
  | cons b items ih =>
    rw [splitFirst] at h
    by_cases hb : p b = true
    · rw [if_pos hb] at h
      obtain ⟨rfl, rfl, rfl⟩ := by simpa using h
      exact ⟨rfl, hb, fun _ hmem => absurd hmem List.not_mem_nil⟩
    · rw [if_neg hb] at h
      obtain ⟨⟨before', a', after'⟩, hsplit, heq⟩ := Option.map_eq_some_iff.mp h
      obtain ⟨rfl, rfl, rfl⟩ := by simpa using heq
      obtain ⟨rfl, hp, hbefore⟩ := ih hsplit
      exact ⟨rfl, hp, List.forall_mem_cons.mpr ⟨Bool.eq_false_of_not_eq_true hb, hbefore⟩⟩

end

section

variable {α κ : Type} [DecidableEq κ] {key : α → κ}

/-- `d[key(a)] = a`, of the values of `d`. -/
def putByKey (key : α → κ) (kept : List α) (a : α) : List α :=
  if kept.any fun b => key b = key a then kept.map fun b => if key b = key a then a else b
  else kept ++ [a]

/-- `list({key(a): a for a in items}.values())`: at the first place of each key the last item with it. -/
def lastPerKey (key : α → κ) (items : List α) : List α := items.foldl (putByKey key) []

lemma mem_of_mem_putByKey {kept : List α} {a b : α} (h : b ∈ putByKey key kept a) :
    b ∈ kept ∨ b = a := by
  unfold putByKey at h
  split_ifs at h
  · obtain ⟨c, hc, heq⟩ := List.mem_map.mp h
    split_ifs at heq
    · exact Or.inr heq.symm
    · exact Or.inl (heq ▸ hc)
  · rcases List.mem_append.mp h with hmem | hmem
    · exact Or.inl hmem
    · exact Or.inr (List.mem_singleton.mp hmem)

lemma mem_of_mem_lastPerKey {items : List α} {b : α} (h : b ∈ lastPerKey key items) : b ∈ items := by
  have hfold : ∀ rest kept : List α, b ∈ rest.foldl (putByKey key) kept → b ∈ kept ∨ b ∈ rest := by
    intro rest
    induction rest with
    | nil => exact fun kept hmem => Or.inl hmem
    | cons a rest ih =>
      intro kept hmem
      rcases ih _ hmem with hmem | hmem
      · rcases mem_of_mem_putByKey hmem with hmem | rfl
        · exact Or.inl hmem
        · exact Or.inr List.mem_cons_self
      · exact Or.inr (List.mem_cons_of_mem _ hmem)
  exact (hfold items [] h).resolve_left List.not_mem_nil

end

/-! ## Reading one after the other -/

section

variable {α : Type} {read : List α → Value → Except Error α} {fits : List α → α → Prop}

variable {β γ : Type}

@[simp] lemma ok_bind (a : β) (f : β → Except Error γ) : (Except.ok a >>= f) = f a := rfl

lemma map_eq_ok {f : β → γ} {x : Except Error β} {c : γ} :
    x.map f = .ok c ↔ ∃ b, x = .ok b ∧ f b = c := by
  cases x with
  | error e => exact iff_of_false (by simp [Except.map]) (by simp)
  | ok b => simp [Except.map]

lemma mem_of_mapM_eq_ok {f : β → Except Error γ} {items : List β} {results : List γ}
    (h : items.mapM f = .ok results) :
    (∀ item ∈ items, ∃ result ∈ results, f item = .ok result) ∧
      ∀ result ∈ results, ∃ item ∈ items, f item = .ok result := by
  induction items generalizing results with
  | nil =>
    cases h
    exact ⟨fun _ hmem => absurd hmem List.not_mem_nil, fun _ hmem => absurd hmem List.not_mem_nil⟩
  | cons item items ih =>
    rw [List.mapM_cons] at h
    obtain ⟨result, hresult, h⟩ := bind_eq_ok.mp h
    obtain ⟨rest, hrest, h⟩ := bind_eq_ok.mp h
    cases h
    obtain ⟨hitems, hresults⟩ := ih hrest
    refine ⟨List.forall_mem_cons.mpr ⟨⟨result, List.mem_cons_self, hresult⟩, fun i hi => ?_⟩,
      List.forall_mem_cons.mpr ⟨⟨item, List.mem_cons_self, hresult⟩, fun r hr => ?_⟩⟩
    · obtain ⟨r, hr, hcall⟩ := hitems i hi
      exact ⟨r, List.mem_cons_of_mem _ hr, hcall⟩
    · obtain ⟨i, hi, hcall⟩ := hresults r hr
      exact ⟨i, List.mem_cons_of_mem _ hi, hcall⟩

/-- Each value is read beside the items before it, the last one first. -/
def readAll (read : List α → Value → Except Error α) : List α → List Value → Except Error (List α)
  | _, [] => .ok []
  | seen, value :: values => do
    let item ← read seen value
    let items ← readAll read (item :: seen) values
    return item :: items

def FitsAll (fits : List α → α → Prop) : List α → List α → Prop
  | _, [] => True
  | seen, item :: items => fits seen item ∧ FitsAll fits (item :: seen) items

lemma fitsAll_of_readAll (h : ∀ seen value item, read seen value = .ok item → fits seen item) :
    ∀ {values : List Value} {seen items : List α},
      readAll read seen values = .ok items → FitsAll fits seen items
  | [], _, items, hread => by
    cases hread
    trivial
  | value :: values, seen, items, hread => by
    obtain ⟨item, hitem, hread⟩ := bind_eq_ok.mp hread
    obtain ⟨rest, hrest, hread⟩ := bind_eq_ok.mp hread
    cases hread
    exact ⟨h seen value item hitem, fitsAll_of_readAll h hrest⟩

lemma FitsAll.forall_mem {p : α → Prop} (h : ∀ seen item, fits seen item → p item) :
    ∀ {items seen : List α}, FitsAll fits seen items → ∀ item ∈ items, p item
  | [], _, _ => fun _ hmem => absurd hmem List.not_mem_nil
  | _ :: _, seen, hfits =>
    List.forall_mem_cons.mpr ⟨h seen _ hfits.1, FitsAll.forall_mem h hfits.2⟩

lemma FitsAll.imp {fits' : List α → α → Prop} (h : ∀ seen item, fits seen item → fits' seen item) :
    ∀ {items seen : List α}, FitsAll fits seen items → FitsAll fits' seen items
  | [], _, _ => trivial
  | _ :: _, _, hfits => ⟨h _ _ hfits.1, hfits.2.imp h⟩

/-- An item that fits if it is like this and like that beside each before it. -/
lemma fitsAll_iff_pairwise {q : α → Prop} {r : α → α → Prop} :
    ∀ {items seen : List α}, FitsAll (fun seen a => q a ∧ ∀ b ∈ seen, r b a) seen items ↔
      (∀ a ∈ items, q a) ∧ (∀ a ∈ items, ∀ b ∈ seen, r b a) ∧ items.Pairwise r
  | [], seen => by simp [FitsAll]
  | item :: items, seen => by
    rw [FitsAll, fitsAll_iff_pairwise, List.pairwise_cons]
    simp only [List.forall_mem_cons]
    constructor
    · rintro ⟨⟨hq, hseen⟩, hall, hbefore, hpairwise⟩
      exact ⟨⟨hq, hall⟩, ⟨hseen, fun a ha => (hbefore a ha).2⟩,
        fun a ha => (hbefore a ha).1, hpairwise⟩
    · rintro ⟨⟨hq, hall⟩, ⟨hseen, hbefore⟩, hitem, hpairwise⟩
      exact ⟨⟨hq, hseen⟩, hall, fun a ha => ⟨hitem a ha, hbefore a ha⟩, hpairwise⟩

/-- **Reading back what has been written.** If the document of each item reads as the item, made tidy,
where that fits, then all of them do. -/
lemma readAll_map_iff {document : α → Value} {tidy : α → α} : ∀ {written seen items : List α},
      (∀ seen, ∀ item ∈ written, ∀ item',
        read seen (document item) = .ok item' ↔ item' = tidy item ∧ fits seen item') →
      (readAll read seen (written.map document) = .ok items ↔
        items = written.map tidy ∧ FitsAll fits seen items)
  | [], seen, items, _ => by
    constructor
    · intro hread
      cases hread
      exact ⟨rfl, trivial⟩
    · rintro ⟨rfl, -⟩
      rfl
  | item :: written, seen, items, h => by
    have hitem := fun seen => h seen item List.mem_cons_self
    have hrest := fun seen other hmem => h seen other (List.mem_cons_of_mem item hmem)
    rw [List.map_cons, readAll]
    constructor
    · intro hread
      obtain ⟨item', hitem', hread⟩ := bind_eq_ok.mp hread
      obtain ⟨items', hitems', hread⟩ := bind_eq_ok.mp hread
      cases hread
      obtain ⟨rfl, hfits⟩ := (hitem _ _).mp hitem'
      obtain ⟨rfl, hall⟩ := (readAll_map_iff hrest).mp hitems'
      exact ⟨rfl, hfits, hall⟩
    · rintro ⟨rfl, hfits, hall⟩
      rw [(hitem _ _).mpr ⟨rfl, hfits⟩]
      refine bind_eq_ok.mpr ⟨_, rfl, bind_eq_ok.mpr ⟨_, ?_, rfl⟩⟩
      exact (readAll_map_iff hrest).mpr ⟨rfl, hall⟩

/-- As many items are read as there are values, and each of them comes from one. -/
lemma length_of_readAll : ∀ {values : List Value} {seen items : List α},
      readAll read seen values = .ok items → items.length = values.length
  | [], _, items, h => by
    cases h
    rfl
  | value :: values, seen, items, h => by
    obtain ⟨item, -, h⟩ := bind_eq_ok.mp h
    obtain ⟨rest, hrest, h⟩ := bind_eq_ok.mp h
    cases h
    rw [List.length_cons, length_of_readAll hrest, List.length_cons]

lemma forall_of_readAll {p : α → Prop}
    (h : ∀ seen value item, read seen value = .ok item → p item) {values : List Value}
    {items : List α} (hread : readAll read [] values = .ok items) : ∀ item ∈ items, p item :=
  @FitsAll.forall_mem α (fun _ item => p item) p (fun _ _ hp => hp) items []
    (fitsAll_of_readAll h hread)

end

/-! ## Objects -/

/-- `{**raw, …}` keeps what is not written over. -/
def unwritten (keys : List String) (raw : List (String × Value)) : List (String × Value) :=
  raw.filter fun e => e.1 ∉ keys

variable {keys : List String}

lemma unwritten_cons_of_mem {k : String} (v : Value)
    (rest : List (String × Value)) (h : k ∈ keys) : unwritten keys ((k, v) :: rest) = unwritten keys rest :=
  List.filter_cons_of_neg (by simpa using h)

lemma unwritten_eq_self {extra : List (String × Value)}
    (h : ∀ e ∈ extra, e.1 ∉ keys) : unwritten keys extra = extra :=
  List.filter_eq_self.mpr fun e he => decide_eq_true (h e he)

lemma mem_unwritten {raw : List (String × Value)} {e : String × Value}
    (h : e ∈ unwritten keys raw) : e.1 ∉ keys :=
  of_decide_eq_true (List.mem_filter.mp h).2

lemma orElse_list (items : List Value) : (Value.list items).orElse (.list []) = .list items := by
  cases items <;> rfl

lemma orElse_dict (entries : List (String × Value)) :
    (Value.dict entries).orElse (.dict []) = .dict entries := by
  cases entries <;> rfl

/-! ## Texts -/

/-- `text or fallback`. -/
def textOrDefault (s fallback : String) : String := if s = "" then fallback else s

def named? {κ : Type} (names : List κ) (text : κ → String) (s : String) : Option κ :=
  names.find? fun name => text name = s

/-! ## Stripped texts -/

lemma strip_eq (s : String) :
    strip s = String.ofList ((s.toList.dropWhile isSpace).rdropWhile isSpace) := rfl

lemma length_strip_le (s : String) : (strip s).length ≤ s.length := by
  rw [strip_eq, String.length_ofList]
  exact ((List.rdropWhile_prefix isSpace _).length_le).trans
    (List.length_dropWhile_le isSpace s.toList)

/-- What is left at the front after the back is stripped was stripped already. -/
lemma dropWhile_rdropWhile {α : Type} {p : α → Bool} {l : List α} (h : l.dropWhile p = l) :
    (l.rdropWhile p).dropWhile p = l.rdropWhile p := by
  cases hl : l.rdropWhile p with
  | nil => rfl
  | cons a rest =>
    obtain ⟨tail, htail⟩ := List.rdropWhile_prefix p l
    rw [hl, List.cons_append] at htail
    have ha : ¬ p a = true := by
      intro ha
      have hlength := List.length_dropWhile_le p (rest ++ tail)
      rw [← htail, List.dropWhile_cons_of_pos ha] at h
      rw [h, List.length_cons] at hlength
      omega
    exact List.dropWhile_cons_of_neg ha

@[simp] lemma strip_strip (s : String) : strip (strip s) = strip s := by
  rw [strip_eq (strip s), strip_eq s, String.toList_ofList,
    dropWhile_rdropWhile (List.dropWhile_idempotent isSpace s.toList),
    List.rdropWhile_idempotent]

/-! ## Conversions for examples -/

/-- Texts print as themselves, no other value prints as anything, and no text denotes a number. -/
def plainConversions : Conversions where
  print _ := ""
  parseInt _ := none
  parseFloat _ := none

end Python
