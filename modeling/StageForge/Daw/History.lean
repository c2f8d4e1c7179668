import StageForge.Daw.Edits

/-!
# Undo and redo

A store keeps the session in one file and the sessions before and after it in another. An edit saves the
session that it makes and remembers the one before; undo and redo save a remembered session under a new
revision.
-/

namespace StageForge

open Python

/-! ## The abstract machine -/

/-- A value with what it was before, the last one first, and what undo has taken back. -/
structure UndoStack (α : Type) where
  current : α
  undo : List α
  redo : List α

inductive HistoryCall (ε : Type)
  | edit (e : ε)
  | undo
  | redo

namespace UndoStack

variable {α ε : Type} (depth : ℕ) (apply : ε → α → Option α)

/-- An edit pushes the old value and forgets what was taken back; at most `depth` values are kept. -/
def step (s : UndoStack α) : HistoryCall ε → Option (UndoStack α)
  | .edit e => (apply e s.current).map fun a => ⟨a, (s.current :: s.undo).take depth, []⟩
  | .undo =>
    match s.undo with
    | [] => none
    | a :: rest => some ⟨a, rest, (s.current :: s.redo).take depth⟩
  | .redo =>
    match s.redo with
    | [] => none
    | a :: rest => some ⟨a, (s.current :: s.undo).take depth, rest⟩

def run (s : UndoStack α) : List (HistoryCall ε) → Option (UndoStack α)
  | [] => some s
  | call :: calls => (s.step depth apply call).bind fun s' => run s' calls

end UndoStack

/-! ## The store -/

/-- How many sessions are remembered on each side. -/
def historyDepth : ℕ := 100

abbrev DawCall := HistoryCall DawEdit

/-- What `_history` returns: documents of sessions, the last one last. -/
structure DawHistory where
  undo : List Value
  redo : List Value

def DawHistory.document (h : DawHistory) : Value :=
  .dict [("undo", .list h.undo), ("redo", .list h.redo)]

/-- The session file and the history file. -/
structure DawSessionStore where
  sessionFile : Option Value
  historyFile : Option Value

/-- `pop()`. -/
def pop? (values : List Value) : Option (List Value × Value) := match values.reverse with
  | [] => none
  | value :: rest => some (rest.reverse, value)

namespace DawSessionStore

variable (C : Conversions) (store : DawSessionStore)

def load : Except Error DawSession := match store.sessionFile with
  | none => normalizeSession C (.dict [("sessionId", .str "default"), ("tracks", .list [])])
  | some value => normalizeSession C value

def save (value : Value) : DawSessionStore × Except Error DawSession :=
  match normalizeSession C value with
  | .error e => (store, .error e)
  | .ok result =>
    match store.load C with
    | .error e => (store, .error e)
    | .ok current =>
      if result.revision ≤ current.revision then
        (store, .error (.valueError "DAW session revision must advance"))
      else ({ store with sessionFile := some result.document }, .ok result)

/-- `_history`. -/
def readHistory : Except Error DawHistory := match store.historyFile with
  | none => .ok ⟨[], []⟩
  | some value => do
    let undo ← (← value.get "undo" (.list [])).iterate
    let redo ← (← value.get "redo" (.list [])).iterate
    return ⟨undo.rtake historyDepth, redo.rtake historyDepth⟩

/-- A value is saved, and then the history is written; if it cannot be saved, nothing is. -/
def saveBoth (value : Value) (history : DawHistory) : DawSessionStore × Except Error DawSession :=
  match store.save C value with
  | (store', .error e) => (store', .error e)
  | (store', .ok saved) => ({ store' with historyFile := some history.document }, .ok saved)

def commitEdit (before after : DawSession) : DawSessionStore × Except Error DawSession :=
  match store.readHistory with
  | .error e => (store, .error e)
  | .ok history =>
    store.saveBoth C ({ after with revision := before.revision + 1 } : DawSession).document
      ⟨(history.undo ++ [before.document]).rtake historyDepth, []⟩

/-- `edit`, `marker_edit` and `automation_edit`. -/
def edit (e : DawEdit) : DawSessionStore × Except Error DawSession := match store.load C with
  | .error e => (store, .error e)
  | .ok before =>
    if e.expects before.revision = false then
      (store, .error (.valueError
        (e.noun ++ " edit expected revision " ++ toString before.revision)))
    else
      match e.apply C before with
      | .error e => (store, .error e)
      | .ok after => store.commitEdit C before after

/-- `restored["revision"] = revision`. -/
def withRevision (revision : Int) : Value → Except Error Value
  | .dict entries => .ok (.dict (setItem "revision" (.int revision) entries))
  | _ => .error .typeError

/-- `_restore`: the last value of one side is saved, and the session before goes to the other side. -/
def restore (message : String) (source target : List Value)
    (history : List Value → List Value → DawHistory) :
    DawSessionStore × Except Error DawSession :=
  match pop? source with
  | none => (store, .error (.valueError message))
  | some (rest, restored) =>
    match store.load C with
    | .error e => (store, .error e)
    | .ok current =>
      match withRevision (current.revision + 1) restored with
      | .error e => (store, .error e)
      | .ok restored => store.saveBoth C restored (history rest (target ++ [current.document]))

def call : DawCall → DawSessionStore × Except Error DawSession
  | .edit e => store.edit C e
  | .undo =>
    match store.readHistory with
    | .error e => (store, .error e)
    | .ok history =>
      store.restore C "nothing to undo" history.undo history.redo fun undo redo => ⟨undo, redo⟩
  | .redo =>
    match store.readHistory with
    | .error e => (store, .error e)
    | .ok history =>
      store.restore C "nothing to redo" history.redo history.undo fun redo undo => ⟨undo, redo⟩

def after (store : DawSessionStore) : List DawCall → DawSessionStore
  | [] => store
  | call :: calls => after (store.call C call).1 calls

def succeeded (store : DawSessionStore) : List DawCall → List DawCall
  | [] => []
  | call :: calls =>
    match store.call C call with
    | (store', .ok _) => call :: succeeded store' calls
    | (store', .error _) => succeeded store' calls

end DawSessionStore

/-! ## Sessions up to their revision -/

namespace DawSession

def revised (s : DawSession) (revision : Int) : DawSession := { s with revision := revision }

/-- What is left of a session without its revision. -/
def content (s : DawSession) : DawSession := s.revised 0

/-- What an edit makes of a session: the result, normalised. -/
def edited (C : Conversions) (e : DawEdit) (s : DawSession) : Option DawSession :=
  ((e.apply C s).bind fun after => normalizeSession C after.document).toOption

variable {C : Conversions} {s s' : DawSession}

lemma document_revised (s : DawSession) (revision : Int) :
    DawSessionStore.withRevision revision s.document = .ok (s.revised revision).document := by
  simp [DawSessionStore.withRevision, document, setItem, revised]

lemma sound_revised (h : s.Sound) {revision : Int} (hrevision : 0 ≤ revision) :
    (s.revised revision).Sound :=
  ⟨h.sessionId_le, hrevision, h.tempo_ne, h.tempo_le, h.markers_le, h.markers, h.tracks_le,
    h.tracks, h.extra⟩

lemma normalize_revised (h : s.Sound) {revision : Int} (hrevision : 0 ≤ revision)
    (hread : normalizeSession C s.document = .ok s') :
    normalizeSession C (s.revised revision).document = .ok (s'.revised revision) := by
  obtain ⟨rfl, hdistinct⟩ := (normalizeSession_document h).mp hread
  exact (normalizeSession_document (sound_revised h hrevision)).mpr
    ⟨rfl, hdistinct.markers, hdistinct.tracks⟩

lemma normal_revised (h : s.Normal C) {revision : Int} (hrevision : 0 ≤ revision) :
    (s.revised revision).Normal C :=
  normalize_revised (normalizeSession_sound h) hrevision h

lemma apply_revised (e : DawEdit) (s : DawSession) (revision : Int) :
    e.apply C (s.revised revision) = (e.apply C s).map fun after => after.revised revision := by
  cases e with
  | clip operation =>
    rw [DawEdit.apply, DawEdit.apply]
    cases h : editTracks C operation s.tracks <;> simp [Except.map, revised, h]
  | marker operation =>
    rw [DawEdit.apply, DawEdit.apply]
    cases h : editMarkers C operation s.markers <;> simp [Except.map, revised, h]
  | automation operation =>
    rw [DawEdit.apply, DawEdit.apply]
    cases h : editAutomation C operation s.tracks <;> simp [Except.map, revised, h]

lemma edited_eq_some {e : DawEdit} {s' : DawSession} : s.edited C e = some s' ↔
      ∃ after, e.apply C s = .ok after ∧ normalizeSession C after.document = .ok s' := by
  rw [edited]
  cases h : e.apply C s with
  | error e => simp [Except.bind, Except.toOption]
  | ok after =>
    cases h' : normalizeSession C after.document with
    | error e => simp [Except.bind, Except.toOption, h']
    | ok s' => simp [Except.bind, Except.toOption, h']

end DawSession

/-! ## The files hold the state of the machine -/

/-- A document of a normal session with the content. -/
def HoldsContent (C : Conversions) (value : Value) (content : DawSession) : Prop :=
  ∃ s : DawSession, s.Normal C ∧ value = s.document ∧ s.content = content

/-- Documents for the contents, the last one for the first. -/
def HoldsStack (C : Conversions) (values : List Value) (contents : List DawSession) : Prop :=
  List.Forall₂ (HoldsContent C) values.reverse contents

/-- The two files hold the state of the abstract machine. -/
structure Represents (C : Conversions) (store : DawSessionStore) (h : UndoStack DawSession) : Prop where
  session : ∃ s, store.load C = .ok s ∧ s.Normal C ∧ s.content = h.current
  history : ∃ kept, store.readHistory = .ok kept ∧ HoldsStack C kept.undo h.undo ∧
    HoldsStack C kept.redo h.redo

variable {C : Conversions} {store : DawSessionStore} {h : UndoStack DawSession}

variable {value : Value}

lemma pop?_eq_some {values rest : List Value} :
    pop? values = some (rest, value) ↔ values = rest ++ [value] := by
  unfold pop?
  cases hreverse : values.reverse with
  | nil =>
    obtain rfl := List.reverse_eq_nil_iff.mp hreverse
    simp
  | cons last before =>
    obtain rfl := List.reverse_eq_cons_iff.mp hreverse
    constructor
    · intro heq
      obtain ⟨rfl, rfl⟩ := by simpa using heq
      rfl
    · intro heq
      obtain ⟨rfl, hlast⟩ := List.append_inj' heq rfl
      obtain rfl := List.singleton_inj.mp hlast
      rfl

variable {values : List Value} {contents : List DawSession}

lemma holdsStack_push {content : DawSession} (hstack : HoldsStack C values contents)
    (hvalue : HoldsContent C value content) :
    HoldsStack C ((values ++ [value]).rtake historyDepth)
      ((content :: contents).take historyDepth) := by
  rw [HoldsStack, List.rtake_eq_reverse_take_reverse, List.reverse_reverse, List.reverse_append,
    List.reverse_singleton, List.singleton_append]
  exact List.forall₂_take historyDepth (List.Forall₂.cons hvalue hstack)

lemma holdsStack_take {n : ℕ} (hstack : HoldsStack C values contents) :
    HoldsStack C (values.rtake n) (contents.take n) := by
  rw [HoldsStack, List.rtake_eq_reverse_take_reverse, List.reverse_reverse]
  exact List.forall₂_take n hstack

lemma holdsStack_of_length {n : ℕ}
    (hlength : contents.length ≤ n) (hstack : HoldsStack C values contents) :
    HoldsStack C (values.rtake n) contents := by
  have htaken := holdsStack_take (n := n) hstack
  rwa [List.take_of_length_le hlength] at htaken

open DawSessionStore

lemma readHistory_length {kept : DawHistory} (h : store.readHistory = .ok kept) :
    kept.undo.length ≤ historyDepth ∧ kept.redo.length ≤ historyDepth := by
  unfold readHistory at h
  split at h
  · cases h
    exact ⟨Nat.zero_le _, Nat.zero_le _⟩
  · obtain ⟨undoValue, -, h⟩ := bind_eq_ok.mp h
    obtain ⟨undo, -, h⟩ := bind_eq_ok.mp h
    obtain ⟨redoValue, -, h⟩ := bind_eq_ok.mp h
    obtain ⟨redo, -, h⟩ := bind_eq_ok.mp h
    cases h
    simp only [List.rtake_eq_reverse_take_reverse, List.length_reverse]
    exact ⟨List.length_take_le _ _, List.length_take_le _ _⟩

lemma readHistory_document (sessionFile : Option Value) (history : DawHistory) :
    (⟨sessionFile, some history.document⟩ : DawSessionStore).readHistory =
      .ok ⟨history.undo.rtake historyDepth, history.redo.rtake historyDepth⟩ := rfl

variable {s : DawSession}

lemma saveBoth_eq (hload : store.load C = .ok s) {history : DawHistory}
    (hadvance : ∀ r, normalizeSession C value = .ok r → s.revision < r.revision) :
    store.saveBoth C value history = match normalizeSession C value with
      | .error e => (store, .error e)
      | .ok r => (⟨some r.document, some history.document⟩, .ok r) := by
  rw [saveBoth, save, hload]
  cases hread : normalizeSession C value with
  | error e => rfl
  | ok r =>
    dsimp only
    rw [if_neg (not_le.mpr (hadvance r hread))]

structure Simulates (C : Conversions) (store : DawSessionStore) (h : UndoStack DawSession)
    (call : DawCall) : Prop where
  /-- It succeeds if the machine can do it and an edit expects the revision that there is. -/
  succeeds : (∃ s, (store.call C call).2 = .ok s) ↔
    (∀ e, call = .edit e → ∀ s, store.load C = .ok s → e.expects s.revision = true) ∧
      (h.step historyDepth (DawSession.edited C) call).isSome
  /-- If it raises, neither file has changed. -/
  failure : ∀ e, (store.call C call).2 = .error e → (store.call C call).1 = store
  /-- Else the machine has made the same step, what is returned is the session that is stored, and its
  revision is higher than before. -/
  success : ∀ s, (store.call C call).2 = .ok s →
    (∃ h', h.step historyDepth (DawSession.edited C) call = some h' ∧
      Represents C (store.call C call).1 h') ∧
    (store.call C call).1.load C = .ok s ∧ ∀ old, store.load C = .ok old → old.revision < s.revision

variable {call : DawCall}

open DawSession

lemma simulates_of_refused {e : Error} (hcall : store.call C call = (store, .error e))
    (hrefused : (∀ e, call = .edit e → ∀ s, store.load C = .ok s → e.expects s.revision = true) →
      h.step historyDepth (edited C) call = none) : Simulates C store h call := by
  refine ⟨iff_of_false ?_ ?_, fun e' _ => ?_, fun s hs => ?_⟩
  · rintro ⟨s, hs⟩
    rw [hcall] at hs
    cases hs
  · rintro ⟨hexpected, hsome⟩
    rw [hrefused hexpected] at hsome
    cases hsome
  · rw [hcall]
  · rw [hcall] at hs
    cases hs

lemma simulates_of_accepted {store' : DawSessionStore} {s r : DawSession}
    {h' : UndoStack DawSession} (hload : store.load C = .ok s)
    (hexpected : ∀ e, call = .edit e → e.expects s.revision = true)
    (hcall : store.call C call = (store', .ok r))
    (hstep : h.step historyDepth (edited C) call = some h')
    (hrep : Represents C store' h') (hload' : store'.load C = .ok r)
    (hadvance : s.revision < r.revision) : Simulates C store h call := by
  refine ⟨iff_of_true ⟨r, by rw [hcall]⟩ ⟨fun e he s' hs' => ?_, by rw [hstep]; rfl⟩, fun e he => ?_,
    fun r' hr' => ?_⟩
  · obtain rfl := Except.ok.inj (hload.symm.trans hs')
    exact hexpected e he
  · rw [hcall] at he
    cases he
  · rw [hcall] at hr' ⊢
    cases hr'
    refine ⟨⟨h', hstep, hrep⟩, hload', fun old hold => ?_⟩
    obtain rfl := Except.ok.inj (hload.symm.trans hold)
    exact hadvance

/-- A call that saves a sound session under the next revision is in step with the machine, if that
goes on with the same session. -/
lemma simulates_of_saves (target : DawSession)
    (history : DawHistory) (next : DawSession → UndoStack DawSession) (hload : store.load C = .ok s)
    (hrevision : 0 ≤ s.revision) (hsound : target.Sound)
    (hexpected : ∀ e, call = .edit e → e.expects s.revision = true)
    (hcall : store.call C call =
      store.saveBoth C (target.revised (s.revision + 1)).document history)
    (hstep : h.step historyDepth (edited C) call =
      (normalizeSession C (target.revised 0).document).toOption.map next)
    (hnext : ∀ r, normalizeSession C (target.revised 0).document = .ok r →
      (next r).current = r ∧ HoldsStack C (history.undo.rtake historyDepth) (next r).undo ∧
        HoldsStack C (history.redo.rtake historyDepth) (next r).redo) :
    Simulates C store h call := by
  have hnonneg : 0 ≤ s.revision + 1 := by omega
  have hsound' := sound_revised hsound hnonneg
  have hadvance : ∀ r, normalizeSession C (target.revised (s.revision + 1)).document = .ok r →
      s.revision < r.revision := by
    intro r hread
    obtain ⟨rfl, -⟩ := (normalizeSession_document hsound').mp hread
    exact lt_add_one s.revision
  rw [saveBoth_eq hload hadvance] at hcall
  cases hread : normalizeSession C (target.revised (s.revision + 1)).document with
  | error e =>
    rw [hread] at hcall
    refine simulates_of_refused hcall fun _ => ?_
    rw [hstep]
    cases hread' : normalizeSession C (target.revised 0).document with
    | error e' => rfl
    | ok r =>
      have hread'' := normalize_revised (sound_revised hsound le_rfl) hnonneg hread'
      rw [show (target.revised 0).revised (s.revision + 1) =
        target.revised (s.revision + 1) from rfl, hread] at hread''
      cases hread''
  | ok r =>
    rw [hread] at hcall
    have hread' : normalizeSession C (target.revised 0).document = .ok (r.revised 0) :=
      normalize_revised hsound' le_rfl hread
    have hnormal := (normal_of_document hsound' hread).1
    obtain ⟨hcurrent, hundo, hredo⟩ := hnext _ hread'
    rw [hread'] at hstep
    refine simulates_of_accepted hload hexpected hcall hstep ?_ hnormal (hadvance r hread)
    exact ⟨⟨r, hnormal, hnormal, hcurrent.symm⟩, ⟨_, readHistory_document _ _, hundo, hredo⟩⟩

lemma simulates_of_restores {message : String}
    {source target : List Value} {history : List Value → List Value → DawHistory}
    (next : DawSession → List DawSession → UndoStack DawSession)
    (hload : store.load C = .ok s) (hnormal : s.Normal C)
    (hrestores : ∀ e, call ≠ .edit e)
    (hcall : store.call C call = store.restore C message source target history)
    (hnone : contents = [] → h.step historyDepth (edited C) call = none)
    (hsome : ∀ a rest, contents = a :: rest →
      h.step historyDepth (edited C) call = some (next a rest))
    (hsource : HoldsStack C source contents) (hlength : source.length ≤ historyDepth)
    (hnext : ∀ a rest values, HoldsStack C (values.rtake historyDepth) rest →
      (next a rest).current = a ∧
        HoldsStack C ((history values (target ++ [s.document])).undo.rtake historyDepth)
          (next a rest).undo ∧
        HoldsStack C ((history values (target ++ [s.document])).redo.rtake historyDepth)
          (next a rest).redo) : Simulates C store h call := by
  have hsound := normalizeSession_sound hnormal
  cases hpop : pop? source with
  | none =>
    have hempty : contents = [] := by
      have hnil : source.reverse = [] := by
        unfold pop? at hpop
        split at hpop
        · assumption
        · cases hpop
      rw [HoldsStack, hnil] at hsource
      exact List.forall₂_nil_left_iff.mp hsource
    refine simulates_of_refused (e := .valueError message) ?_ fun _ => ?_
    · rw [hcall, restore, hpop]
    · exact hnone hempty
  | some popped =>
    obtain ⟨values, value⟩ := popped
    obtain rfl := pop?_eq_some.mp hpop
    rw [HoldsStack, List.reverse_append, List.reverse_singleton, List.singleton_append] at hsource
    obtain ⟨a, rest, ⟨t, htNormal, rfl, hta⟩, hrest, rfl⟩ := List.forall₂_cons_left_iff.mp hsource
    have hread : normalizeSession C (t.revised 0).document = .ok (t.revised 0) :=
      normal_revised htNormal le_rfl
    refine simulates_of_saves t (history values (target ++ [s.document])) (fun _ => next a rest)
      hload hsound.revision_nonneg (normalizeSession_sound htNormal)
      (fun e he => absurd he (hrestores e)) ?_ ?_ fun r hr => ?_
    · rw [hcall, restore, hpop]
      rw [hload]
      dsimp only
      rw [document_revised]
    · rw [hsome a rest rfl, hread]
      rfl
    · have hshort : rest.length ≤ historyDepth := by
        rw [← hrest.length_eq, List.length_reverse]
        rw [List.length_append] at hlength
        omega
      obtain ⟨hcurrent, hundo, hredo⟩ := hnext a rest values (holdsStack_of_length hshort hrest)
      obtain rfl := Except.ok.inj (hread.symm.trans hr)
      exact ⟨hcurrent.trans hta.symm, hundo, hredo⟩

/-! ## One call -/

/-- **One call is a step of the machine, or changes nothing.** -/
theorem call_simulates (hrep : Represents C store h) (call : DawCall) : Simulates C store h call := by
  obtain ⟨s, hload, hnormal, hcurrent⟩ := hrep.session
  obtain ⟨kept, hkept, hundo, hredo⟩ := hrep.history
  have hsound := normalizeSession_sound hnormal
  obtain ⟨hundoLength, hredoLength⟩ := readHistory_length hkept
  have hheld : HoldsContent C s.document h.current := ⟨s, hnormal, rfl, hcurrent⟩
  cases call with
  | edit e =>
    by_cases hexpects : e.expects s.revision = false
    · refine simulates_of_refused (e := .valueError
        (e.noun ++ " edit expected revision " ++ toString s.revision)) ?_ fun hexpected => ?_
      · rw [call, edit, hload]
        exact if_pos hexpects
      · rw [hexpected e rfl s hload] at hexpects
        cases hexpects
    · have happly := apply_revised (C := C) e s 0
      cases hafter : e.apply C s with
      | error err =>
        rw [hafter] at happly
        refine simulates_of_refused (e := err) ?_ fun _ => ?_
        · rw [call, edit, hload]
          dsimp only
          rw [if_neg hexpects, hafter]
        · rw [UndoStack.step, ← hcurrent, content, edited, happly]
          rfl
      | ok after =>
        rw [hafter] at happly
        refine simulates_of_saves after ⟨(kept.undo ++ [s.document]).rtake historyDepth, []⟩
          (fun r => ⟨r, (h.current :: h.undo).take historyDepth, []⟩) hload hsound.revision_nonneg (DawEdit.sound_apply hsound hafter) ?_ ?_ ?_ ?_
        · rintro e' heq
          obtain rfl := HistoryCall.edit.inj heq
          exact Bool.eq_true_of_not_eq_false hexpects
        · rw [call, edit, hload]
          dsimp only
          rw [if_neg hexpects, hafter]
          dsimp only
          rw [commitEdit, hkept]
          rfl
        · rw [UndoStack.step, ← hcurrent, content, edited, happly]
          rfl
        · refine fun r _ => ⟨rfl, ?_, List.Forall₂.nil⟩
          have hpushed := holdsStack_take (n := historyDepth) (holdsStack_push hundo hheld)
          rwa [List.take_take, min_self] at hpushed
  | undo =>
    have hcall : store.call C .undo = store.restore C "nothing to undo" kept.undo kept.redo
        fun undo redo => ⟨undo, redo⟩ := by rw [call, hkept]
    have hpushed := holdsStack_push hredo hheld
    refine simulates_of_restores
      (fun a rest => ⟨a, rest, (h.current :: h.redo).take historyDepth⟩) hload hnormal
      (fun _ heq => by cases heq) hcall (fun heq => by rw [UndoStack.step, heq])
      (fun a rest heq => by rw [UndoStack.step, heq]) hundo hundoLength
      fun a rest values hvalues => ⟨rfl, hvalues, hpushed⟩
  | redo =>
    have hcall : store.call C .redo = store.restore C "nothing to redo" kept.redo kept.undo
        fun redo undo => ⟨undo, redo⟩ := by rw [call, hkept]
    have hpushed := holdsStack_push hundo hheld
    refine simulates_of_restores
      (fun a rest => ⟨a, (h.current :: h.undo).take historyDepth, rest⟩) hload hnormal
      (fun _ heq => by cases heq) hcall (fun heq => by rw [UndoStack.step, heq])
      (fun a rest heq => by rw [UndoStack.step, heq]) hredo hredoLength
      fun a rest values hvalues => ⟨rfl, hpushed, hvalues⟩

/-! ## Runs -/

/-- The files of a store whose sessions are normal. -/
structure DawSessionStore.Kept (C : Conversions) (store : DawSessionStore) : Prop where
  session : ∀ value ∈ store.sessionFile, ∃ s : DawSession, s.Normal C ∧ value = s.document
  history : ∀ value ∈ store.historyFile, ∃ undo redo : List DawSession,
    (∀ s ∈ undo ++ redo, s.Normal C) ∧
      value = (DawHistory.mk (undo.map DawSession.document) (redo.map DawSession.document)).document

def emptySession : DawSession where
  minimumReaderSchemaVersion := 1
  sessionId := "default"
  revision := 0
  tempoMap := [defaultTempo]
  markers := []
  tracks := []
  extra := []

lemma normal_emptySession : emptySession.Normal C := by
  refine normal_iff.mpr ⟨⟨by decide, le_refl 0, List.cons_ne_nil _ _, by decide,
    Nat.zero_le _, ?_, Nat.zero_le _, ?_, ?_⟩, rfl, ⟨trivial, trivial⟩⟩
  all_goals exact fun _ hmem => absurd hmem List.not_mem_nil

lemma load_none (historyFile : Option Value) : load C ⟨none, historyFile⟩ = .ok emptySession := by
  have hid : clip 128 "default" = "default" := by decide
  rw [load, normalizeSession]
  simp [objectOf, listOfAtMost, readAll, Value.orElse, Value.truthy, Value.iterate, hid,
    unwritten, sessionKeys, maxTempos, emptySession, sortOn, pure, Except.pure]

lemma holdsStack_documents {sessions : List DawSession} (h : ∀ s ∈ sessions, s.Normal C) :
    HoldsStack C ((sessions.map document).rtake historyDepth)
      ((sessions.reverse.map content).take historyDepth) := by
  refine holdsStack_take ?_
  rw [HoldsStack, ← List.map_reverse, List.forall₂_map_left_iff, List.forall₂_map_right_iff,
    List.forall₂_same]
  exact fun s hs => ⟨s, h s (List.mem_reverse.mp hs), rfl, rfl⟩

lemma exists_represents (hkept : store.Kept C) : ∃ h, Represents C store h := by
  obtain ⟨sessionFile, historyFile⟩ := store
  have hsession : ∃ s, load C ⟨sessionFile, historyFile⟩ = .ok s ∧ s.Normal C := by
    cases sessionFile with
    | none => exact ⟨emptySession, load_none historyFile, normal_emptySession⟩
    | some value =>
      obtain ⟨s, hs, rfl⟩ := hkept.session value rfl
      exact ⟨s, hs, hs⟩
  obtain ⟨s, hload, hnormal⟩ := hsession
  cases historyFile with
  | none =>
    exact ⟨⟨s.content, [], []⟩, ⟨s, hload, hnormal, rfl⟩,
      ⟨_, rfl, List.Forall₂.nil, List.Forall₂.nil⟩⟩
  | some value =>
    obtain ⟨undo, redo, hall, rfl⟩ := hkept.history value rfl
    have hundo := holdsStack_documents fun s hs => hall s (List.mem_append_left redo hs)
    have hredo := holdsStack_documents fun s hs => hall s (List.mem_append_right undo hs)
    exact ⟨⟨s.content, _, _⟩, ⟨s, hload, hnormal, rfl⟩, ⟨_, readHistory_document _ _, hundo, hredo⟩⟩

lemma run_simulates (calls : List DawCall) :
    ∀ {store : DawSessionStore} {h : UndoStack DawSession}, Represents C store h →
      ∃ final, h.run historyDepth (edited C) (store.succeeded C calls) = some final ∧
        Represents C (store.after C calls) final := by
  induction calls with
  | nil => exact fun {_ h} hrep => ⟨h, rfl, hrep⟩
  | cons call calls ih =>
    intro store h hrep
    have hcall := call_simulates hrep call
    cases hresult : store.call C call with
    | mk store' result =>
      cases result with
      | error e =>
        have hsame := hcall.failure e (by rw [hresult])
        rw [hresult] at hsame
        obtain rfl : store' = store := hsame
        rw [succeeded, after, hresult]
        exact ih hrep
      | ok s =>
        obtain ⟨⟨h', hstep, hrep'⟩, -, -⟩ := hcall.success s (by rw [hresult])
        rw [hresult] at hrep'
        obtain ⟨final, hrun, hfinal⟩ := ih hrep'
        rw [succeeded, after, hresult]
        refine ⟨final, ?_, hfinal⟩
        rw [UndoStack.run, hstep]
        exact hrun

/-- **Undo is a bounded linear history.** After every run of calls on a store of normal sessions, the
files hold what the machine has after the calls that have succeeded, and each call on them is in step
with it: it raises and changes nothing, or makes the machine's step and raises the revision. -/
theorem history_is_linear (hkept : store.Kept C) (calls : List DawCall) :
    ∃ start final, Represents C store start ∧
      start.run historyDepth (DawSession.edited C) (store.succeeded C calls) = some final ∧
      Represents C (store.after C calls) final ∧
      ∀ call, Simulates C (store.after C calls) final call := by
  obtain ⟨start, hstart⟩ := exists_represents hkept
  obtain ⟨final, hrun, hfinal⟩ := run_simulates calls hstart
  exact ⟨start, final, hstart, hrun, hfinal, call_simulates hfinal⟩

/-- A marker is added to the session of a new store, taken back and put back. -/
def markerCalls : List DawCall :=
  [.edit (.marker [("expectedRevision", .int 0), ("action", .str "add"), ("markerId", .str "m"),
      ("frame", .int 480)]), .undo, .redo]

theorem history_is_linear_marker :
    (DawSessionStore.succeeded plainConversions ⟨none, none⟩ markerCalls).length = 3 ∧
      ∃ start final, Represents plainConversions ⟨none, none⟩ start ∧
        start.run historyDepth (DawSession.edited plainConversions)
          (DawSessionStore.succeeded plainConversions ⟨none, none⟩ markerCalls) = some final ∧
        Represents plainConversions (DawSessionStore.after plainConversions ⟨none, none⟩ markerCalls)
          final ∧
        ∀ call, Simulates plainConversions
          (DawSessionStore.after plainConversions ⟨none, none⟩ markerCalls) final call := by
  refine ⟨by decide +kernel, history_is_linear ⟨fun _ h => ?_, fun _ h => ?_⟩ markerCalls⟩
  · cases h
  · cases h

end StageForge
