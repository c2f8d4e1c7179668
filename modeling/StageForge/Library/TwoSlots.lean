import Mathlib

/-!
# Publication in two slots

A table is kept in two slots, one of which is active. A writer waits until nobody reads the other one, fills
it cell by cell, and makes it active. A reader loads the active slot, counts itself among its readers and
looks again; if the slot is still active it has pinned it, and else it goes back and begins anew.
-/

universe u v

namespace TwoSlots

variable {ι α τ ρ : Type}

/-- A write of a single cell: of the cell of the active slot, or of a value. -/
inductive CellWrite (ι α : Type)
  | copy (cell : ι)
  | put (cell : ι) (value : α)

/-- Write a cell of a table, beside the table that is active. -/
def CellWrite.run [DecidableEq ι] (old table : ι → α) : CellWrite ι α → ι → α
  | .copy cell => Function.update table cell (old cell)
  | .put cell value => Function.update table cell value

/-- Transactions, and the writes that carry them out, whatever the slot has held before. -/
structure Publication (ι α τ : Type) [DecidableEq ι] where
  program : τ → List (CellWrite ι α)
  apply : τ → (ι → α) → ι → α
  program_apply : ∀ tx old table, (program tx).foldl (CellWrite.run old) table = apply tx old

inductive Reader (ι α : Type)
  | idle
  | loaded (slot : Bool)
  | counted (slot : Bool)
  /-- The slot is no longer the active one. -/
  | failed (slot : Bool)
  /-- The table that was in the slot when it was pinned, and what has been read since. -/
  | pinned (slot : Bool) (table : ι → α) (reads : List (ι × α))

/-- The reader is counted among those of a slot. -/
def Reader.holds (slot : Bool) : Reader ι α → Bool
  | .counted s | .failed s | .pinned s _ _ => s = slot
  | _ => false

inductive Writer (ι α τ : Type)
  | idle
  | waiting (tx : τ) (next : Bool)
  | writing (tx : τ) (next : Bool) (rest : List (CellWrite ι α))

structure Core (ι α τ ρ : Type) where
  slots : Bool → ι → α
  readers : Bool → ℕ := fun _ => 0
  active : Bool := false
  threads : ρ → Reader ι α := fun _ => .idle
  writer : Writer ι α τ := .idle
  /-- The transactions that have been published. -/
  published : List τ := []

inductive ReaderAction (ι ρ : Type)
  /-- The next step of pinning a slot. -/
  | pin (r : ρ)
  | read (r : ρ) (cell : ι)
  | unpin (r : ρ)

def Writer.transaction : Writer ι α τ → Option τ
  | .idle => none
  | .waiting tx _ => some tx
  | .writing tx _ _ => some tx

section

variable [DecidableEq ι] [DecidableEq ρ]

namespace Core

def start (initial : ι → α) : Core ι α τ ρ := { slots := fun _ => initial }

def moveTo (k : Core ι α τ ρ) (r : ρ) (reader : Reader ι α) : Core ι α τ ρ :=
  { k with threads := Function.update k.threads r reader }

def count (k : Core ι α τ ρ) (slot : Bool) (n : ℕ) : Core ι α τ ρ :=
  { k with readers := Function.update k.readers slot n }

def pinStep (k : Core ι α τ ρ) (r : ρ) : Option (Core ι α τ ρ) := match k.threads r with
  | .idle => some (k.moveTo r (.loaded k.active))
  | .loaded slot => some ((k.count slot (k.readers slot + 1)).moveTo r (.counted slot))
  | .counted slot =>
    some (k.moveTo r (if k.active = slot then .pinned slot (k.slots slot) [] else .failed slot))
  | .failed slot => some ((k.count slot (k.readers slot - 1)).moveTo r .idle)
  | .pinned _ _ _ => none

def readStep (k : Core ι α τ ρ) (r : ρ) (cell : ι) : Option (Core ι α τ ρ) := match k.threads r with
  | .pinned slot table reads => some (k.moveTo r (.pinned slot table (reads ++ [(cell, k.slots slot cell)])))
  | _ => none

def unpinStep (k : Core ι α τ ρ) (r : ρ) : Option (Core ι α τ ρ) := match k.threads r with
  | .pinned slot _ _ => some ((k.count slot (k.readers slot - 1)).moveTo r .idle)
  | _ => none

def readerStep (k : Core ι α τ ρ) : ReaderAction ι ρ → Option (Core ι α τ ρ)
  | .pin r => k.pinStep r
  | .read r cell => k.readStep r cell
  | .unpin r => k.unpinStep r

variable (P : Publication ι α τ)

def beginStep (k : Core ι α τ ρ) (tx : τ) : Option (Core ι α τ ρ) := match k.writer with
  | .idle => some { k with writer := .waiting tx (!k.active) }
  | _ => none

/-- The writer looks for readers, writes one cell, or makes the slot active. -/
def writeStep (k : Core ι α τ ρ) : Option (Core ι α τ ρ) := match k.writer with
  | .idle => none
  | .waiting tx next =>
    if k.readers next = 0 then some { k with writer := .writing tx next (P.program tx) } else some k
  | .writing tx next (w :: rest) =>
    some { k with
      slots := Function.update k.slots next (w.run (k.slots (!next)) (k.slots next))
      writer := .writing tx next rest }
  | .writing tx next [] => some { k with active := next, writer := .idle, published := k.published ++ [tx] }

omit [DecidableEq ι] [DecidableEq ρ] in
@[simp] lemma count_readers (k : Core ι α τ ρ) (slot : Bool) (n : ℕ) :
    (k.count slot n).readers = Function.update k.readers slot n := rfl

end Core

def Publication.tableAfter (P : Publication ι α τ) (initial : ι → α) (log : List τ) : ι → α :=
  log.foldl (fun table tx => P.apply tx table) initial

end

/-! ## What holds between any two steps -/

section

variable [Fintype ρ]

/-- How many readers are counted among those of a slot. -/
def holders (threads : ρ → Reader ι α) (slot : Bool) : ℕ :=
  (Finset.univ.filter fun r => (threads r).holds slot = true).card

variable [DecidableEq ι] [DecidableEq ρ]

/-- The table is one that was published, or the first. -/
def Publication.IsPublished (P : Publication ι α τ) (initial : ι → α) (published : List τ)
    (table : ι → α) : Prop := ∃ log, log <+: published ∧ table = P.tableAfter initial log

structure Core.Inv (P : Publication ι α τ) (initial : ι → α) (k : Core ι α τ ρ) : Prop where
  readers : ∀ slot, k.readers slot = holders k.threads slot
  current : k.slots k.active = P.tableAfter initial k.published
  pinned : ∀ r slot table reads, k.threads r = .pinned slot table reads →
    k.slots slot = table ∧ P.IsPublished initial k.published table ∧ ∀ e ∈ reads, e.2 = table e.1
  waiting : ∀ tx next, k.writer = .waiting tx next → next = !k.active
  writing : ∀ tx next rest, k.writer = .writing tx next rest → next = !k.active ∧
    (∀ r table reads, k.threads r ≠ .pinned next table reads) ∧
      rest.foldl (CellWrite.run (k.slots k.active)) (k.slots next) = P.apply tx (k.slots k.active)

variable {P : Publication ι α τ} {initial : ι → α} {k k' : Core ι α τ ρ} {threads : ρ → Reader ι α} {r : ρ}
  {reader : Reader ι α} {slot : Bool} {log log' : List τ} {table : ι → α}

omit [DecidableEq ι] in
/-- A reader that moves is counted where it goes and no longer where it was. -/
lemma holders_update : holders (Function.update threads r reader) slot +
    (if (threads r).holds slot then 1 else 0) =
      holders threads slot + (if reader.holds slot then 1 else 0) := by
  have hsplit (f : ρ → Reader ι α) : holders f slot = (if (f r).holds slot then 1 else 0) +
        ∑ q ∈ Finset.univ.erase r, (if (f q).holds slot then 1 else 0) := by
    rw [holders, Finset.card_filter]
    exact (Finset.add_sum_erase _ (fun q => if (f q).holds slot then 1 else 0) (Finset.mem_univ r)).symm
  have hrest : ∑ q ∈ Finset.univ.erase r, (if (Function.update threads r reader q).holds slot then 1 else 0) =
      ∑ q ∈ Finset.univ.erase r, (if (threads q).holds slot then 1 else 0) := by
    refine Finset.sum_congr rfl fun q hq => ?_
    rw [Function.update_of_ne (Finset.ne_of_mem_erase hq)]
  rw [hsplit, hsplit threads, hrest, Function.update_self]
  omega

omit [DecidableEq ι] [DecidableEq ρ] in
lemma holders_pos (h : (threads r).holds slot = true) : 0 < holders threads slot :=
  Finset.card_pos.mpr ⟨r, Finset.mem_filter.mpr ⟨Finset.mem_univ r, h⟩⟩

lemma isPublished_append (h : P.IsPublished initial log table) : P.IsPublished initial (log ++ log') table := by
  obtain ⟨before, hprefix, heq⟩ := h
  exact ⟨before, hprefix.trans (List.prefix_append _ _), heq⟩

omit [DecidableEq ρ] in
lemma Core.inv_start (P : Publication ι α τ) (initial : ι → α) :
    (Core.start initial : Core ι α τ ρ).Inv P initial where
  readers slot := by simp [Core.start, holders, Reader.holds]
  current := rfl
  pinned r slot table reads h := by cases h
  waiting tx next h := by cases h
  writing tx next rest h := by cases h

lemma Core.Inv.moveTo (h : k.Inv P initial) {readers : Bool → ℕ}
    (hreaders : ∀ slot, readers slot + (if (k.threads r).holds slot then 1 else 0) =
      k.readers slot + (if reader.holds slot then 1 else 0))
    (hpinned : ∀ slot table reads, reader = .pinned slot table reads →
      (slot = k.active ∨ ∃ t l, k.threads r = .pinned slot t l) ∧ k.slots slot = table ∧
        P.IsPublished initial k.published table ∧ ∀ e ∈ reads, e.2 = table e.1) :
    ({ k with readers := readers, threads := Function.update k.threads r reader } : Core ι α τ ρ).Inv P initial where
  readers slot := by
    have hupdate := @holders_update _ _ _ _ _ k.threads r reader slot
    have hcount := hreaders slot
    rw [h.readers slot] at hcount
    change readers slot = holders (Function.update k.threads r reader) slot
    omega
  current := h.current
  pinned q slot table reads hq := by
    by_cases heq : q = r
    · subst heq
      change Function.update k.threads q reader q = _ at hq
      rw [Function.update_self] at hq
      exact (hpinned slot table reads hq).2
    · change Function.update k.threads r reader q = _ at hq
      rw [Function.update_of_ne heq] at hq
      exact h.pinned q slot table reads hq
  waiting := h.waiting
  writing tx next rest hw := by
    obtain ⟨hnext, hnobody, hfold⟩ := h.writing tx next rest hw
    refine ⟨hnext, fun q table reads hq => ?_, hfold⟩
    change Function.update k.threads r reader q = _ at hq
    by_cases heq : q = r
    · subst heq
      rw [Function.update_self] at hq
      rcases (hpinned next table reads hq).1 with hactive | ⟨t, l, hbefore⟩
      · rw [hactive] at hnext
        exact absurd hnext (by cases k.active <;> decide)
      · exact hnobody q t l hbefore
    · rw [Function.update_of_ne heq] at hq
      exact hnobody q table reads hq

lemma Core.Inv.letGo (h : k.Inv P initial) {slot : Bool}
    (hat : ∀ other, (k.threads r).holds other = decide (slot = other)) :
    ((k.count slot (k.readers slot - 1)).moveTo r .idle).Inv P initial := by
  refine h.moveTo (fun other => ?_) (fun slot' table reads heq => by cases heq)
  have hpos : 0 < k.readers slot := by
    rw [h.readers]
    exact holders_pos (r := r) (by rw [hat]; simp)
  rw [hat]
  by_cases heq : other = slot
  · subst heq
    simp only [Core.count_readers, Function.update_self, Reader.holds, decide_true, if_true]
    simp only [Bool.false_eq_true, if_false]
    omega
  · simp [Reader.holds, Function.update_of_ne heq, Ne.symm heq]

lemma Core.Inv.pin (h : k.Inv P initial) (hstep : k.pinStep r = some k') : k'.Inv P initial := by
  unfold pinStep at hstep
  cases hat : k.threads r with
  | idle =>
    rw [hat] at hstep
    cases hstep
    refine h.moveTo (fun slot => ?_) (fun slot table reads heq => by cases heq)
    rw [hat]
    rfl
  | loaded slot =>
    rw [hat] at hstep
    cases hstep
    refine h.moveTo (fun other => ?_) (fun slot table reads heq => by cases heq)
    rw [hat]
    by_cases heq : other = slot
    · subst heq
      simp [Reader.holds]
    · simp [Reader.holds, Function.update_of_ne heq, Ne.symm heq]
  | counted slot =>
    rw [hat] at hstep
    cases hstep
    by_cases hactive : k.active = slot
    · rw [if_pos hactive]
      refine h.moveTo (fun other => ?_) (fun slot' table reads heq => ?_)
      · rw [hat]
        rfl
      · cases heq
        refine ⟨Or.inl hactive.symm, rfl, ⟨k.published, List.prefix_refl _, ?_⟩, fun e he => ?_⟩
        · rw [← hactive]
          exact h.current
        · exact absurd he List.not_mem_nil
    · rw [if_neg hactive]
      refine h.moveTo (fun other => ?_) (fun slot' table reads heq => by cases heq)
      rw [hat]
      rfl
  | failed slot =>
    rw [hat] at hstep
    cases hstep
    exact h.letGo fun other => by rw [hat]; rfl
  | pinned slot table reads =>
    rw [hat] at hstep
    cases hstep

lemma Core.Inv.read (h : k.Inv P initial) {cell : ι} (hstep : k.readStep r cell = some k') :
    k'.Inv P initial := by
  unfold readStep at hstep
  cases hat : k.threads r with
  | pinned slot table reads =>
    rw [hat] at hstep
    cases hstep
    obtain ⟨hslot, hpublished, hreads⟩ := h.pinned r slot table reads hat
    refine h.moveTo (fun other => ?_) (fun slot' table' reads' heq => ?_)
    · rw [hat]
      rfl
    · cases heq
      refine ⟨Or.inr ⟨table, reads, hat⟩, hslot, hpublished, fun e he => ?_⟩
      rcases List.mem_append.mp he with hold | hnew
      · exact hreads e hold
      · rw [List.mem_singleton.mp hnew, hslot]
  | _ =>
    rw [hat] at hstep
    cases hstep

lemma Core.Inv.unpin (h : k.Inv P initial) (hstep : k.unpinStep r = some k') : k'.Inv P initial := by
  unfold unpinStep at hstep
  cases hat : k.threads r with
  | pinned slot table reads =>
    rw [hat] at hstep
    cases hstep
    exact h.letGo fun other => by rw [hat]; rfl
  | _ =>
    rw [hat] at hstep
    cases hstep

omit [DecidableEq ρ] in
lemma Core.Inv.begin (h : k.Inv P initial) {tx : τ} (hstep : k.beginStep tx = some k') :
    k'.Inv P initial := by
  unfold beginStep at hstep
  split at hstep
  · cases hstep
    refine { h with waiting := fun tx' next heq => ?_, writing := fun tx' next rest heq => by cases heq }
    cases heq
    rfl
  · cases hstep

omit [DecidableEq ρ] in
/-- A step of the writer: nobody has pinned the slot that it fills. -/
lemma Core.Inv.write (h : k.Inv P initial) (hstep : k.writeStep P = some k') : k'.Inv P initial := by
  unfold writeStep at hstep
  cases hat : k.writer with
  | idle =>
    rw [hat] at hstep
    cases hstep
  | waiting tx next =>
    rw [hat] at hstep
    dsimp only at hstep
    split at hstep
    · next hzero =>
        cases hstep
        refine { h with
          waiting := fun tx' next' heq => by cases heq
          writing := fun tx' next' rest heq => ?_ }
        cases heq
        refine ⟨h.waiting tx next hat, fun r table reads hr => ?_, P.program_apply tx _ _⟩
        have hpos := @holders_pos _ _ _ _ k.threads r next (by
          rw [hr]
          simp [Reader.holds])
        rw [← h.readers, hzero] at hpos
        exact absurd hpos (lt_irrefl 0)
    · cases hstep
      exact h
  | writing tx next rest =>
    obtain ⟨hnext, hnobody, hfold⟩ := h.writing tx next rest hat
    have hne : k.active ≠ next := by
      rw [hnext]
      cases k.active <;> decide
    have hother : (!next) = k.active := by
      rw [hnext, Bool.not_not]
    cases rest with
    | cons w rest =>
      rw [hat] at hstep
      cases hstep
      have hactive : Function.update k.slots next (w.run (k.slots (!next)) (k.slots next)) k.active =
          k.slots k.active := Function.update_of_ne hne _ _
      refine { h with
        current := hactive.trans h.current
        pinned := fun r slot table reads hr => ?_
        waiting := fun tx' next' heq => by cases heq
        writing := fun tx' next' rest' heq => ?_ }
      · obtain ⟨hslot, hrest⟩ := h.pinned r slot table reads hr
        refine ⟨?_, hrest⟩
        have hslotne : slot ≠ next := by
          rintro rfl
          exact hnobody r table reads hr
        exact (Function.update_of_ne hslotne _ _).trans hslot
      · cases heq
        refine ⟨hnext, hnobody, ?_⟩
        change List.foldl (CellWrite.run (Function.update k.slots next _ k.active))
          (Function.update k.slots next _ next) rest = P.apply tx (Function.update k.slots next _ k.active)
        rw [hactive, Function.update_self, hother]
        exact hfold
    | nil =>
      rw [hat] at hstep
      cases hstep
      refine { h with
        current := ?_
        pinned := fun r slot table reads hr => ?_
        waiting := fun tx' next' heq => by cases heq
        writing := fun tx' next' rest' heq => by cases heq }
      · rw [Publication.tableAfter, List.foldl_append]
        have hcurrent := h.current
        rw [Publication.tableAfter] at hcurrent
        rw [List.foldl_cons, List.foldl_nil, ← hcurrent]
        exact hfold
      · obtain ⟨hslot, hpublished, hreads⟩ := h.pinned r slot table reads hr
        exact ⟨hslot, isPublished_append hpublished, hreads⟩

theorem Core.Inv.readerStep (h : k.Inv P initial) {action : ReaderAction ι ρ}
    (hstep : k.readerStep action = some k') : k'.Inv P initial := by
  cases action with
  | pin r => exact h.pin hstep
  | read r cell => exact h.read hstep
  | unpin r => exact h.unpin hstep

omit [Fintype ρ] [DecidableEq ι] in
lemma Core.readerStep_writer {action : ReaderAction ι ρ} (hstep : k.readerStep action = some k') :
    k'.writer = k.writer ∧ k'.published = k.published := by
  cases action with
  | pin r =>
    change k.pinStep r = some k' at hstep
    unfold pinStep at hstep
    split at hstep <;> cases hstep <;> exact ⟨rfl, rfl⟩
  | read r cell =>
    change k.readStep r cell = some k' at hstep
    unfold readStep at hstep
    split at hstep <;> cases hstep
    exact ⟨rfl, rfl⟩
  | unpin r =>
    change k.unpinStep r = some k' at hstep
    unfold unpinStep at hstep
    split at hstep <;> cases hstep
    exact ⟨rfl, rfl⟩

omit [DecidableEq ρ] [Fintype ρ] [DecidableEq ι] in
lemma Core.beginStep_writer {tx : τ} (hstep : k.beginStep tx = some k') :
    k'.writer.transaction = some tx ∧ k'.published = k.published := by
  unfold beginStep at hstep
  split at hstep
  · cases hstep
    exact ⟨rfl, rfl⟩
  · cases hstep

omit [DecidableEq ρ] [Fintype ρ] in
lemma Core.writeStep_writer {tx : τ} (hwriter : k.writer.transaction = some tx)
    (hstep : k.writeStep P = some k') :
    k'.writer.transaction = some tx ∧ k'.published = k.published ∨
      k'.writer = .idle ∧ k'.published = k.published ++ [tx] := by
  unfold writeStep at hstep
  split at hstep
  · cases hstep
  · next tx' next hat =>
      rw [hat] at hwriter
      cases hwriter
      split at hstep
      · cases hstep
        exact Or.inl ⟨rfl, rfl⟩
      · cases hstep
        exact Or.inl ⟨congrArg Writer.transaction hat, rfl⟩
  · next tx' next w rest hat =>
      rw [hat] at hwriter
      cases hwriter
      cases hstep
      exact Or.inl ⟨rfl, rfl⟩
  · next tx' next hat =>
      rw [hat] at hwriter
      cases hwriter
      cases hstep
      exact Or.inr ⟨rfl, rfl⟩

end

/-! ## How tables are written -/

section

variable [DecidableEq ι] {cells : List ι}

/-- A table after some writes, the last one of a cell being the one that counts. -/
def applyWrites (writes : List (ι × α)) (table : ι → α) : ι → α :=
  fun cell => (writes.reverse.lookup cell).getD (table cell)

lemma run_copies (old : ι → α) : ∀ (cells : List ι) (table : ι → α),
    (cells.map CellWrite.copy).foldl (CellWrite.run old) table =
      fun cell => if cell ∈ cells then old cell else table cell
  | [], table => by simp
  | i :: cells, table => by
    rw [List.map_cons, List.foldl_cons, run_copies old cells]
    funext cell
    by_cases heq : cell = i
    · subst heq
      simp [CellWrite.run]
    · simp [CellWrite.run, heq]

lemma run_puts (old : ι → α) : ∀ (writes : List (ι × α)) (table : ι → α),
    (writes.map fun w => CellWrite.put w.1 w.2).foldl (CellWrite.run old) table = applyWrites writes table
  | [], table => rfl
  | (i, v) :: writes, table => by
    rw [List.map_cons, List.foldl_cons, run_puts old writes]
    funext cell
    unfold applyWrites
    rw [List.reverse_cons, List.lookup_append]
    cases writes.reverse.lookup cell with
    | some value => rfl
    | none =>
      by_cases heq : cell = i
      · subst heq
        simp [CellWrite.run]
      · have hne : (cell == i) = false := by simpa using heq
        simp [CellWrite.run, List.lookup_cons, heq, hne]

lemma lookup_map_pair {content : ι → α} {cell : ι} : ∀ {cells : List ι}, cell ∈ cells →
    (cells.map fun i => (i, content i)).lookup cell = some (content cell)
  | i :: cells, h => by
    by_cases heq : cell = i
    · subst heq
      simp
    · have hne : (cell == i) = false := by simpa using heq
      have hrest := @lookup_map_pair content _ _ ((List.mem_cons.mp h).resolve_left heq)
      rw [List.map_cons, List.lookup_cons, hne]
      exact hrest

/-- Copy every cell of the active table and write some of them anew. -/
def Publication.ofWrites (cells : List ι) (hcells : ∀ i, i ∈ cells) (writes : τ → List (ι × α)) :
    Publication ι α τ where
  program tx := cells.map .copy ++ (writes tx).map fun w => .put w.1 w.2
  apply tx := applyWrites (writes tx)
  program_apply tx old table := by
    rw [List.foldl_append, run_copies, run_puts]
    simp [hcells]

def Publication.replace (cells : List ι) (hcells : ∀ i, i ∈ cells) (content : τ → ι → α) :
    Publication ι α τ where
  program tx := (cells.map fun i => (i, content tx i)).map fun w => .put w.1 w.2
  apply tx _ := content tx
  program_apply tx old table := by
    rw [run_puts]
    funext cell
    unfold applyWrites
    rw [← List.map_reverse, lookup_map_pair (List.mem_reverse.mpr (hcells cell))]
    rfl

lemma tableAfter_replace {hcells : ∀ i, i ∈ cells} {content : τ → ι → α} {initial table : ι → α} {published : List τ}
    (h : (Publication.replace cells hcells content).IsPublished initial published table) :
    table = initial ∨ ∃ tx ∈ published, table = content tx := by
  obtain ⟨log, hprefix, rfl⟩ := h
  rcases List.eq_nil_or_concat log with rfl | ⟨before, tx, rfl⟩
  · exact Or.inl rfl
  · refine Or.inr ⟨tx, hprefix.subset (by simp), ?_⟩
    rw [Publication.tableAfter, List.concat_eq_append, List.foldl_append]
    rfl

end

end TwoSlots
