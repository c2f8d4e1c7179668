import StageForge.Adaptation.Manager
import StageForge.Library.TransitionSystem

/-!
# The life cycle of a venue adaptation

Proposed and validated transactions may go back and forth; a pending commit ends by being committed or
rolled back, and a committed transaction by being rolled back.
-/

namespace StageForge

open Python TransitionSystem

namespace VenueAdaptationManager

variable {S : AdaptationSetup} {m m' : VenueAdaptationManager} {tx tx' : AdaptationTransaction}
  {id j : String} {expected : Option ℤ}

/-! ## What the operations write -/

def get? (m : VenueAdaptationManager) (id : String) : Option AdaptationTransaction :=
  m.transactions.find? id

/-- One transaction was stored, and the others are as before. -/
def Wrote (m m' : VenueAdaptationManager) (tx' : AdaptationTransaction) : Prop :=
  ∀ j, m'.get? j = if tx'.transactionId = j then some tx' else m.get? j

lemma id_of_get? (h : m.get? id = some tx) : tx.transactionId = id := (Table.find?_eq_some.mp h).2

lemma wrote_store (m : VenueAdaptationManager) (tx' : AdaptationTransaction) :
    Wrote m (m.store tx').touch tx' := fun _ => Table.find?_put

lemma Wrote.trans {m'' : VenueAdaptationManager} {tx'' : AdaptationTransaction}
    (h : Wrote m m' tx') (h' : Wrote m' m'' tx'')
    (hid : tx''.transactionId = tx'.transactionId) : Wrote m m'' tx'' := by
  intro j
  rw [h' j]
  split_ifs with hj
  · rfl
  · rw [h j, if_neg (hid ▸ hj)]

lemma Wrote.self (h : Wrote m m' tx') : m'.get? tx'.transactionId = some tx' := by
  rw [h, if_pos rfl]

lemma Wrote.other (h : Wrote m m' tx') (hj : tx'.transactionId ≠ j) : m'.get? j = m.get? j := by
  rw [h, if_neg hj]

lemma Wrote.mem (h : Wrote m m' tx') (hmem : tx ∈ m'.transactions.rows) :
    tx = tx' ∨ (tx.transactionId ≠ tx'.transactionId ∧ tx ∈ m.transactions.rows) := by
  have hget : m'.get? tx.transactionId = some tx := Table.find?_eq_some.mpr ⟨hmem, rfl⟩
  rw [h] at hget
  split_ifs at hget with hid
  · exact .inl (Option.some.inj hget).symm
  · exact .inr ⟨fun heq => hid heq.symm, (Table.find?_eq_some.mp hget).1⟩

lemma get?_of_access (h : m.access id expected = .ok tx) : m.get? id = some tx := by
  simp only [access, bind_eq_ok] at h
  obtain ⟨-, -, h⟩ := h
  cases hfind : m.transactions.find? id with
  | none =>
    rw [hfind] at h
    cases h
  | some found =>
    rw [hfind] at h
    obtain ⟨-, -, h⟩ := bind_eq_ok.mp h
    rw [get?, hfind, Except.ok.inj h]

/-- A transaction was changed, and neither its id nor the layer before it. -/
structure Changed (m m' : VenueAdaptationManager) (tx tx' : AdaptationTransaction) : Prop where
  found : m.get? tx'.transactionId = some tx
  wrote : Wrote m m' tx'
  previousActive : tx'.previousActive = tx.previousActive
  reader : tx'.minimumReaderSchemaVersion = tx.minimumReaderSchemaVersion

lemma get?_self (h : m.get? id = some tx) : m.get? tx.transactionId = some tx := by
  rw [id_of_get? h, h]

lemma changed_store (h : m.get? tx.transactionId = some tx)
    (hid : tx'.transactionId = tx.transactionId)
    (hprevious : tx'.previousActive = tx.previousActive)
    (hreader : tx'.minimumReaderSchemaVersion = tx.minimumReaderSchemaVersion) :
    Changed m (m.store tx').touch tx tx' where
  found := hid ▸ h
  wrote := wrote_store m tx'
  previousActive := hprevious
  reader := hreader

lemma changed_restore (layer : Option PatchLayer) (h : m.get? tx.transactionId = some tx)
    (hid : tx'.transactionId = tx.transactionId)
    (hprevious : tx'.previousActive = tx.previousActive)
    (hreader : tx'.minimumReaderSchemaVersion = tx.minimumReaderSchemaVersion) :
    Changed m ({ m with active := layer }.store tx').touch tx tx' where
  found := hid ▸ h
  wrote := fun _ => Table.find?_put
  previousActive := hprevious
  reader := hreader

lemma buildTransaction_eq_ok {plan : Entries} {requirements : List Value} {live : Bool}
    {venue previous : Option String}
    (h : S.buildTransaction id plan requirements live venue previous = .ok tx) :
    tx.transactionId = id ∧ tx.status = .proposed ∧ tx.previousActive = none ∧
      tx.minimumReaderSchemaVersion = 1 := by
  simp only [AdaptationSetup.buildTransaction, bind_eq_ok] at h
  obtain ⟨mappings, -, blockers, -, unmapped, -, h⟩ := h
  cases h
  exact ⟨rfl, rfl, rfl, rfl⟩

/-- The commit of a transaction: the layer becomes active, and the one before is remembered. -/
structure Committed (m m' : VenueAdaptationManager) (tx tx' : AdaptationTransaction)
    (layer : PatchLayer) : Prop where
  found : m.get? tx'.transactionId = some tx
  wrote : Wrote m m' tx'
  status : tx'.status = .committed
  previousActive : tx'.previousActive = m.active
  active : m'.active = some layer
  names : layer.transactionId = tx'.transactionId
  patchRevision : layer.patchRevision = (m.active.map PatchLayer.patchRevision).getD 0 + 1
  reader : tx'.minimumReaderSchemaVersion = tx.minimumReaderSchemaVersion

lemma committed_commitLocked (h : m.get? tx.transactionId = some tx) (showSeconds : Number)
    (boundary : CommitBoundary) (now : String) :
    Committed m (m.commitLocked tx showSeconds boundary now).1 tx
      (m.committedTransaction tx boundary now) (m.nextLayer tx showSeconds now) where
  found := h
  wrote := fun _ => Table.find?_put
  status := rfl
  previousActive := rfl
  active := rfl
  names := rfl
  patchRevision := rfl
  reader := rfl

lemma Committed.after {m'' : VenueAdaptationManager} {stored : AdaptationTransaction}
    {layer : PatchLayer} (h : Committed m' m'' stored tx' layer) (hstored : Wrote m m' stored)
    (hid : tx'.transactionId = stored.transactionId) (hfound : m.get? tx'.transactionId = some tx)
    (hactive : m'.active = m.active)
    (hreader : stored.minimumReaderSchemaVersion = tx.minimumReaderSchemaVersion) :
    Committed m m'' tx tx' layer where
  found := hfound
  wrote := hstored.trans h.wrote hid
  status := h.status
  previousActive := h.previousActive.trans hactive
  active := h.active
  names := h.names
  patchRevision := hactive ▸ h.patchRevision
  reader := h.reader.trans hreader

/-- What the checks of `schedule_commit` have found. -/
structure Admitted (m : VenueAdaptationManager) (a : ScheduleArguments)
    (tx : AdaptationTransaction) : Prop where
  admitted : ∃ request, m.admitCommit a = .ok (tx, some request)
  access : m.access a.id a.expected = .ok tx
  valid : tx.validation.valid = true
  uncommitted : tx.status ≠ .committed
  alone : ∀ j other, m.get? j = some other → other.status = .pendingCommit → j = a.id

lemma admitted_of_admitCommit {a : ScheduleArguments} {request : CommitRequest}
    (h : m.admitCommit a = .ok (tx, some request)) : Admitted m a tx := by
  have hallowed := h
  simp only [admitCommit, bind_eq_ok] at h
  obtain ⟨mode, -, tx', haccess, h⟩ := h
  split_ifs at h with hinvalid hcommitted
  · exact absurd h (by simp [pure, Except.pure])
  · split at h
    · cases h
    · rename_i hnone
      obtain ⟨request', -, h⟩ := bind_eq_ok.mp h
      obtain ⟨rfl, -⟩ := Prod.mk.inj (Except.ok.inj h)
      refine ⟨⟨request, hallowed⟩, haccess, Bool.eq_true_of_not_eq_false hinvalid, hcommitted,
        fun j other hj hpending => ?_⟩
      by_contra hne
      obtain ⟨hmem, rfl⟩ := Table.find?_eq_some.mp hj
      exact List.find?_eq_none.mp hnone other hmem (by simp [hpending, hne])

/-! ## Calls and their effects -/

end VenueAdaptationManager

/-- The operations; the id of a proposal is drawn at random, and `now` is what the clock says. -/
inductive AdaptationCall
  | propose (id : String) (plan : Entries) (requirements : List Value) (useLocalDiscovery : Bool)
      (showVenue : String) (expected : Option ℤ)
  | validate (id : String) (plan : Entries) (requirements : List Value) (expected : Option ℤ)
  | scheduleCommit (a : VenueAdaptationManager.ScheduleArguments) (now : String)
  | tick (showSeconds : Number) (now : String)
  | triggerCue (cueId : String) (showSeconds : Number) (expected : Option ℤ) (now : String)
  | rollback (id : String) (showSeconds : Number) (requestedBy : String) (expected : Option ℤ)

/-- A commit: the layer that became active, and the one that was active before. -/
structure LayerCommit where
  before : Option PatchLayer
  layer : PatchLayer
  deriving DecidableEq

namespace VenueAdaptationManager

/-- The commits of `commitAll`. -/
def commitsAll (boundary : AdaptationTransaction → CommitBoundary) (showSeconds : Number)
    (now : String) : List AdaptationTransaction → VenueAdaptationManager → List LayerCommit
  | [], _ => []
  | tx :: due, m =>
    { before := m.active, layer := m.nextLayer tx showSeconds now } ::
      commitsAll boundary showSeconds now due (m.commitLocked tx showSeconds (boundary tx) now).1

end VenueAdaptationManager

namespace AdaptationCall

open VenueAdaptationManager

variable (S : AdaptationSetup) (m : VenueAdaptationManager)

def perform : AdaptationCall → VenueAdaptationManager
  | .propose id plan requirements useLocalDiscovery showVenue expected =>
    (m.propose S id plan requirements useLocalDiscovery showVenue expected).1
  | .validate id plan requirements expected => (m.validate S id plan requirements expected).1
  | .scheduleCommit a now => (m.scheduleCommit a now).1
  | .tick showSeconds now => (m.tick showSeconds now).1
  | .triggerCue cueId showSeconds expected now => (m.triggerCue cueId showSeconds expected now).1
  | .rollback id showSeconds requestedBy expected =>
    (m.rollback id showSeconds requestedBy expected).1

def Drawable : AdaptationCall → Prop
  | .propose id .. => m.get? id = none
  | _ => True

instance : (call : AdaptationCall) → Decidable (Drawable m call)
  | .propose .. => inferInstanceAs (Decidable (_ = _))
  | .validate .. | .scheduleCommit .. | .tick .. | .triggerCue .. | .rollback .. =>
    inferInstanceAs (Decidable True)

def step (call : AdaptationCall) : Option VenueAdaptationManager :=
  if Drawable m call then some (call.perform S m) else none

def commits : AdaptationCall → List LayerCommit
  | .scheduleCommit a now =>
    match m.admitCommit a with
    | .ok (tx, some request) =>
      if request.mode = .immediate then
        [{ before := m.active, layer := m.nextLayer tx a.showSeconds now }]
      else []
    | _ => []
  | .tick showSeconds now =>
    commitsAll (fun tx => .bar (tx.commit.bind CommitRequest.targetShowSeconds)
      (roundSeconds showSeconds)) showSeconds now (m.dueAtBar showSeconds) m
  | .triggerCue cueId showSeconds expected now =>
    let cueId := clip 128 (strip cueId)
    if cueId = "" then []
    else
      match m.checkRevision expected with
      | .error _ => []
      | .ok () =>
        commitsAll (fun _ => .cue cueId (m.cueSequence + 1)) showSeconds now (m.dueAtCue cueId) m
  | .propose .. | .validate .. | .rollback .. => []

/-- What a call can do, and the commits that belong to it. -/
inductive Effect (m' : VenueAdaptationManager) : AdaptationCall → List LayerCommit → Prop
  | idle {call : AdaptationCall} (transactions : m'.transactions = m.transactions)
      (active : m'.active = m.active) : Effect m' call []
  | proposed {call : AdaptationCall} {tx' : AdaptationTransaction}
      (fresh : m.get? tx'.transactionId = none) (wrote : Wrote m m' tx')
      (status : tx'.status = .proposed) (reader : tx'.minimumReaderSchemaVersion = 1)
      (active : m'.active = m.active) : Effect m' call []
  | validated {id : String} {plan : Entries} {requirements : List Value} {expected : Option ℤ}
      {tx tx' : AdaptationTransaction} {blockers : List Value}
      (access : m.access id expected = .ok tx)
      (found : findBlockers S tx plan requirements = .ok blockers) (changed : Changed m m' tx tx')
      (status : tx'.status = .validated ∨ tx'.status = .proposed) (active : m'.active = m.active) :
      Effect m' (.validate id plan requirements expected) []
  | scheduled {a : ScheduleArguments} {now : String} {tx tx' : AdaptationTransaction}
      (admitted : Admitted m a tx) (changed : Changed m m' tx tx')
      (status : tx'.status = .pendingCommit) (active : m'.active = m.active) :
      Effect m' (.scheduleCommit a now) []
  | committed {a : ScheduleArguments} {now : String} {tx tx' : AdaptationTransaction}
      {layer : PatchLayer} (admitted : Admitted m a tx) (committed : Committed m m' tx tx' layer) :
      Effect m' (.scheduleCommit a now) [{ before := m.active, layer := layer }]
  | reached {call : AdaptationCall} {tx tx' : AdaptationTransaction} {layer : PatchLayer}
      (pending : tx.status = .pendingCommit) (committed : Committed m m' tx tx' layer) :
      Effect m' call [{ before := m.active, layer := layer }]
  | cancelled {call : AdaptationCall} {tx tx' : AdaptationTransaction}
      (pending : tx.status = .pendingCommit) (changed : Changed m m' tx tx')
      (status : tx'.status = .rolledBack) (active : m'.active = m.active) : Effect m' call []
  | restored {id : String} {showSeconds : Number} {requestedBy : String} {expected : Option ℤ}
      {tx tx' : AdaptationTransaction} (access : m.access id expected = .ok tx)
      (committed : tx.status = .committed)
      (named : m.active.map PatchLayer.transactionId = some tx'.transactionId)
      (changed : Changed m m' tx tx') (status : tx'.status = .rolledBack)
      (active : m'.active = tx.previousActive) :
      Effect m' (.rollback id showSeconds requestedBy expected) []

end AdaptationCall

/-! ## One pending commit -/

namespace VenueAdaptationManager

variable {m : VenueAdaptationManager} {tx : AdaptationTransaction}

/-- At most one transaction waits for its commit. -/
def PendingUnique (m : VenueAdaptationManager) : Prop :=
  ∀ tx ∈ m.transactions.rows, ∀ tx' ∈ m.transactions.rows,
    tx.status = .pendingCommit → tx'.status = .pendingCommit → tx = tx'

lemma eq_nil_or_singleton {α : Type} {l : List α} (h : l.Nodup)
    (hone : ∀ a ∈ l, ∀ b ∈ l, a = b) : l = [] ∨ ∃ a, l = [a] := by
  match l with
  | [] => exact .inl rfl
  | [a] => exact .inr ⟨a, rfl⟩
  | a :: b :: l =>
    have hab : a = b := hone a (by simp) b (by simp)
    exact absurd hab (by simpa using fun heq : a = b => (List.nodup_cons.mp h).1 (by simp [heq]))

lemma nodup_rows (m : VenueAdaptationManager) : m.transactions.rows.Nodup :=
  m.transactions.nodup.of_map

lemma dueAtBar_cases (h : PendingUnique m) (showSeconds : Number) : m.dueAtBar showSeconds = [] ∨
      ∃ tx, m.dueAtBar showSeconds = [tx] ∧ tx ∈ m.transactions.rows ∧
        tx.status = .pendingCommit := by
  have hpending : ∀ tx ∈ m.dueAtBar showSeconds,
      tx ∈ m.transactions.rows ∧ tx.status = .pendingCommit := by
    intro tx htx
    rw [dueAtBar, List.mem_insertionSort, List.mem_filter] at htx
    exact ⟨htx.1, (of_decide_eq_true htx.2).1⟩
  have hnodup : (m.dueAtBar showSeconds).Nodup :=
    (List.perm_insertionSort _ _).nodup_iff.mpr (m.nodup_rows.filter _)
  obtain hnil | ⟨tx, htx⟩ := eq_nil_or_singleton hnodup fun tx htx tx' htx' =>
    h tx (hpending tx htx).1 tx' (hpending tx' htx').1 (hpending tx htx).2 (hpending tx' htx').2
  · exact .inl hnil
  · exact .inr ⟨tx, htx, hpending tx (by simp [htx])⟩

lemma dueAtCue_cases (h : PendingUnique m) (cueId : String) : m.dueAtCue cueId = [] ∨
      ∃ tx, m.dueAtCue cueId = [tx] ∧ tx ∈ m.transactions.rows ∧ tx.status = .pendingCommit := by
  have hpending : ∀ tx ∈ m.dueAtCue cueId,
      tx ∈ m.transactions.rows ∧ tx.status = .pendingCommit := by
    intro tx htx
    rw [dueAtCue, List.mem_filter] at htx
    exact ⟨htx.1, (of_decide_eq_true htx.2).1⟩
  have hnodup : (m.dueAtCue cueId).Nodup := m.nodup_rows.filter _
  obtain hnil | ⟨tx, htx⟩ := eq_nil_or_singleton hnodup fun tx htx tx' htx' =>
    h tx (hpending tx htx).1 tx' (hpending tx' htx').1 (hpending tx htx).2 (hpending tx' htx').2
  · exact .inl hnil
  · exact .inr ⟨tx, htx, hpending tx (by simp [htx])⟩

lemma get?_of_mem (h : tx ∈ m.transactions.rows) : m.get? tx.transactionId = some tx :=
  Table.find?_eq_some.mpr ⟨h, rfl⟩

open AdaptationCall (Effect commits)

variable (S : AdaptationSetup)

lemma effect_propose (id : String) (plan : Entries) (requirements : List Value)
    (useLocalDiscovery : Bool) (showVenue : String) (expected : Option ℤ)
    (hfresh : m.get? id = none) :
    Effect S m (m.propose S id plan requirements useLocalDiscovery showVenue expected).1
      (.propose id plan requirements useLocalDiscovery showVenue expected) [] := by
  unfold propose
  simp only
  split
  · exact .idle rfl rfl
  · rename_i tx' hbuild
    obtain ⟨hid, hstatus, -, hreader⟩ := buildTransaction_eq_ok hbuild
    split
    · exact .idle rfl rfl
    · exact .proposed (hid ▸ hfresh) (wrote_store m tx') hstatus hreader rfl

lemma effect_validate (m : VenueAdaptationManager) (id : String) (plan : Entries)
    (requirements : List Value) (expected : Option ℤ) :
    Effect S m (m.validate S id plan requirements expected).1
      (.validate id plan requirements expected) [] := by
  unfold validate
  split
  · exact .idle rfl rfl
  · rename_i tx haccess
    split
    · exact .idle rfl rfl
    · rename_i blockers hblockers
      refine .validated haccess hblockers
        (changed_store (get?_self (get?_of_access haccess)) rfl rfl rfl) ?_ rfl
      split_ifs
      · exact .inl rfl
      · exact .inr rfl

lemma effect_scheduleCommit (m : VenueAdaptationManager) (a : ScheduleArguments) (now : String) :
    Effect S m (m.scheduleCommit a now).1 (.scheduleCommit a now)
      (commits m (.scheduleCommit a now)) := by
  cases hallowed : m.admitCommit a with
  | error e =>
    simp only [scheduleCommit, commits, hallowed]
    exact .idle rfl rfl
  | ok admitted =>
    obtain ⟨tx, request⟩ := admitted
    cases request with
    | none =>
      simp only [scheduleCommit, commits, hallowed]
      exact .idle rfl rfl
    | some request =>
      have hadmitted := admitted_of_admitCommit hallowed
      have hfound := get?_self (get?_of_access hadmitted.access)
      by_cases himmediate : request.mode = .immediate
      · simp only [scheduleCommit, commits, hallowed, if_pos himmediate]
        have hstored := wrote_store m
          { tx with commit := some request, status := AdaptationStatus.validated }
        have hcommitted := committed_commitLocked hstored.self a.showSeconds .immediate now
        exact .committed hadmitted (hcommitted.after hstored rfl hfound rfl rfl)
      · simp only [scheduleCommit, commits, hallowed, if_neg himmediate]
        exact .scheduled hadmitted (changed_store hfound rfl rfl rfl) rfl rfl

lemma effect_tick (hunique : PendingUnique m) (showSeconds : Number) (now : String) :
    Effect S m (m.tick showSeconds now).1 (.tick showSeconds now)
      (commits m (.tick showSeconds now)) := by
  obtain hnil | ⟨tx, hdue, hmem, hpending⟩ := dueAtBar_cases hunique showSeconds
  · simp only [tick, commits, hnil, commitAll, commitsAll]
    exact .idle rfl rfl
  · simp only [tick, commits, hdue, commitAll, commitsAll]
    exact .reached hpending (committed_commitLocked (get?_of_mem hmem) showSeconds _ now)

lemma effect_triggerCue (hunique : PendingUnique m) (cueId : String) (showSeconds : Number)
    (expected : Option ℤ) (now : String) :
    Effect S m (m.triggerCue cueId showSeconds expected now).1
      (.triggerCue cueId showSeconds expected now)
      (commits m (.triggerCue cueId showSeconds expected now)) := by
  by_cases hcue : clip 128 (strip cueId) = ""
  · simp only [triggerCue, commits, if_pos hcue]
    exact .idle rfl rfl
  cases hcheck : m.checkRevision expected with
  | error e =>
    simp only [triggerCue, commits, if_neg hcue, hcheck]
    exact .idle rfl rfl
  | ok _ =>
    simp only [triggerCue, commits, if_neg hcue, hcheck]
    obtain hnil | ⟨tx, hdue, hmem, hpending⟩ := dueAtCue_cases hunique (clip 128 (strip cueId))
    · have hnil' := hnil
      unfold dueAtCue at hnil hnil' ⊢
      simp only [hnil, commitsAll]
      exact .idle rfl rfl
    · have hdue' := hdue
      unfold dueAtCue at hdue hdue' ⊢
      simp only [hdue, commitAll, commitsAll]
      have hcommitted := committed_commitLocked (get?_of_mem hmem) showSeconds
        (.cue (clip 128 (strip cueId)) (m.cueSequence + 1)) now
      exact .reached hpending
        { found := hcommitted.found
          wrote := hcommitted.wrote
          status := rfl
          previousActive := rfl
          active := rfl
          names := rfl
          patchRevision := rfl
          reader := rfl }

lemma effect_rollback (m : VenueAdaptationManager) (id : String) (showSeconds : Number)
    (requestedBy : String) (expected : Option ℤ) :
    Effect S m (m.rollback id showSeconds requestedBy expected).1
      (.rollback id showSeconds requestedBy expected) [] := by
  unfold rollback
  split
  · exact .idle rfl rfl
  · rename_i tx haccess
    have hfound := get?_of_access haccess
    have hid := id_of_get? hfound
    split_ifs with hpending hcommitted hactive
    · exact .cancelled hpending (changed_store (get?_self hfound) rfl rfl rfl) rfl rfl
    · exact .idle rfl rfl
    · exact .idle rfl rfl
    · refine .restored haccess (not_not.mp hcommitted) ?_
        (changed_restore tx.previousActive (get?_self hfound) rfl rfl rfl) rfl rfl
      rw [not_not.mp hactive, hid]

end VenueAdaptationManager

namespace AdaptationCall

open VenueAdaptationManager

variable (S : AdaptationSetup) {m : VenueAdaptationManager}

theorem effect (hunique : PendingUnique m) (call : AdaptationCall) (hdraw : Drawable m call) :
    Effect S m (call.perform S m) call (call.commits m) := by
  cases call with
  | propose id plan requirements useLocalDiscovery showVenue expected =>
    exact effect_propose S id plan requirements useLocalDiscovery showVenue expected hdraw
  | validate id plan requirements expected => exact effect_validate S m id plan requirements expected
  | scheduleCommit a now => exact effect_scheduleCommit S m a now
  | tick showSeconds now => exact effect_tick S hunique showSeconds now
  | triggerCue cueId showSeconds expected now =>
    exact effect_triggerCue S hunique cueId showSeconds expected now
  | rollback id showSeconds requestedBy expected =>
    exact effect_rollback S m id showSeconds requestedBy expected

variable {m' : VenueAdaptationManager}

lemma pendingUnique_of_wrote {tx' : AdaptationTransaction}
    (hunique : PendingUnique m) (hwrote : Wrote m m' tx') (hstatus : tx'.status ≠ .pendingCommit) :
    PendingUnique m' := by
  intro tx₁ h₁ tx₂ h₂ hp₁ hp₂
  rcases hwrote.mem h₁ with rfl | ⟨-, h₁⟩
  · exact absurd hp₁ hstatus
  rcases hwrote.mem h₂ with rfl | ⟨-, h₂⟩
  · exact absurd hp₂ hstatus
  exact hunique tx₁ h₁ tx₂ h₂ hp₁ hp₂

lemma pendingUnique_effect {call : AdaptationCall}
    {made : List LayerCommit} (hunique : PendingUnique m) (h : Effect S m m' call made) :
    PendingUnique m' := by
  cases h with
  | idle transactions active =>
    intro tx₁ h₁ tx₂ h₂
    rw [transactions] at h₁ h₂
    exact hunique tx₁ h₁ tx₂ h₂
  | proposed fresh wrote status reader active =>
    exact pendingUnique_of_wrote hunique wrote (by simp [status])
  | validated access found changed status active =>
    exact pendingUnique_of_wrote hunique changed.wrote (by rcases status with h | h <;> simp [h])
  | scheduled admitted changed status active =>
    rename_i a now tx tx'
    have hid : tx'.transactionId = a.id := by
      rw [← id_of_get? changed.found, id_of_get? (get?_of_access admitted.access)]
    intro tx₁ h₁ tx₂ h₂ hp₁ hp₂
    rcases changed.wrote.mem h₁ with rfl | ⟨hne₁, h₁⟩
    · rcases changed.wrote.mem h₂ with rfl | ⟨hne₂, h₂⟩
      · rfl
      · exact absurd ((admitted.alone _ tx₂ (get?_of_mem h₂) hp₂).trans hid.symm) hne₂
    · exact absurd ((admitted.alone _ tx₁ (get?_of_mem h₁) hp₁).trans hid.symm) hne₁
  | committed admitted committed =>
    exact pendingUnique_of_wrote hunique committed.wrote (by simp [committed.status])
  | reached pending committed =>
    exact pendingUnique_of_wrote hunique committed.wrote (by simp [committed.status])
  | cancelled pending changed status active =>
    exact pendingUnique_of_wrote hunique changed.wrote (by simp [status])
  | restored access committed named changed status active =>
    exact pendingUnique_of_wrote hunique changed.wrote (by simp [status])

lemma effect_of_step {call : AdaptationCall}
    (hunique : PendingUnique m) (h : step S m call = some m') :
    Effect S m m' call (call.commits m) := by
  unfold step at h
  split_ifs at h with hdraw
  rw [← Option.some.inj h]
  exact effect S hunique call hdraw

lemma pendingUnique_init : PendingUnique {} := fun _ h => absurd h List.not_mem_nil

/-- **One pending commit.** In every run at most one commit is pending. -/
theorem pending_unique {ok : VenueAdaptationManager → AdaptationCall → Prop}
    {calls : List AdaptationCall} (h : Reaches (step S) ok {} calls m) : PendingUnique m :=
  h.invariant (I := PendingUnique) pendingUnique_init fun _ _ _ hunique _ hstep =>
    pendingUnique_effect S hunique (effect_of_step S hunique hstep)

end AdaptationCall

/-! ## The life cycle -/

def AdaptationStatus.LeadsTo : AdaptationStatus → AdaptationStatus → Prop
  | .rolledBack, s => s = .rolledBack
  | .committed, s => s = .committed ∨ s = .rolledBack
  | .pendingCommit, s => s = .pendingCommit ∨ s = .committed ∨ s = .rolledBack
  | .proposed, _ | .validated, _ => True

lemma AdaptationStatus.leadsTo_self (s : AdaptationStatus) : s.LeadsTo s := by
  cases s <;> simp [LeadsTo]

/-- A transaction that has not been scheduled yet. -/
def AdaptationStatus.Open (s : AdaptationStatus) : Prop := s = .proposed ∨ s = .validated

instance (s : AdaptationStatus) : Decidable s.Open := inferInstanceAs (Decidable (_ ∨ _))

namespace AdaptationCall

open VenueAdaptationManager

variable (S : AdaptationSetup) {m m' : VenueAdaptationManager}

/-- The call does not validate a transaction that has been scheduled, and does not schedule one that
has been rolled back. -/
def Clean (m : VenueAdaptationManager) : AdaptationCall → Prop
  | .validate id plan requirements expected =>
    ∀ tx ∈ (m.access id expected).toOption,
      (findBlockers S tx plan requirements).isOk = true → tx.status.Open
  | .scheduleCommit a _ =>
    ∀ admitted ∈ (m.admitCommit a).toOption,
      admitted.2.isSome = true → admitted.1.status ≠ .rolledBack
  | .propose .. | .tick .. | .triggerCue .. | .rollback .. => True

instance (m : VenueAdaptationManager) : (call : AdaptationCall) → Decidable (Clean S m call)
  | .validate .. | .scheduleCommit .. =>
    inferInstanceAs (Decidable (∀ found ∈ Except.toOption _, _ = true → _))
  | .propose .. | .tick .. | .triggerCue .. | .rollback .. => inferInstanceAs (Decidable True)

/-- The layers under the active one, each the one that its commit has replaced, down to none. -/
def Stacked (m : VenueAdaptationManager) : List String → Option PatchLayer → Prop
  | [], layer => layer = none
  | id :: rest, layer =>
    layer.map PatchLayer.transactionId = some id ∧ id ∉ rest ∧
      ∃ tx, m.get? id = some tx ∧ tx.status = .committed ∧ Stacked m rest tx.previousActive

variable {ids : List String} {layer : Option PatchLayer}

lemma stacked_congr (h : ∀ id ∈ ids, m'.get? id = m.get? id) (hstacked : Stacked m ids layer) :
    Stacked m' ids layer := by
  induction ids generalizing layer with
  | nil => exact hstacked
  | cons id rest ih =>
    obtain ⟨hid, hnew, tx, hfound, hcommitted, hrest⟩ := hstacked
    obtain ⟨hsame, hsames⟩ := List.forall_mem_cons.mp h
    exact ⟨hid, hnew, tx, hsame ▸ hfound, hcommitted, ih hsames hrest⟩

variable {id : String}

lemma committed_of_stacked (hstacked : Stacked m ids layer) (h : id ∈ ids) :
    ∃ tx, m.get? id = some tx ∧ tx.status = .committed := by
  induction ids generalizing layer with
  | nil => exact absurd h List.not_mem_nil
  | cons first rest ih =>
    obtain ⟨-, -, tx, hfound, hcommitted, hrest⟩ := hstacked
    rcases List.mem_cons.mp h with rfl | hmem
    · exact ⟨tx, hfound, hcommitted⟩
    · exact ih hrest hmem

variable {tx tx' : AdaptationTransaction}

lemma stacked_of_wrote (hstacked : Stacked m ids layer) (hwrote : Wrote m m' tx')
    (hfound : m.get? tx'.transactionId = some tx) (hstatus : tx.status ≠ .committed) :
    tx'.transactionId ∉ ids ∧ Stacked m' ids layer := by
  have hnew : tx'.transactionId ∉ ids := by
    intro hmem
    obtain ⟨found, hget, hcommitted⟩ := committed_of_stacked hstacked hmem
    obtain rfl := Option.some.inj (hfound.symm.trans hget)
    exact hstatus hcommitted
  exact ⟨hnew, stacked_congr (fun id hid => hwrote.other fun heq => hnew (heq ▸ hid)) hstacked⟩

lemma stacked_of_committed
    {layer : PatchLayer} (hstacked : Stacked m ids m.active) (h : Committed m m' tx tx' layer)
    (hstatus : tx.status ≠ .committed) : ∃ ids, Stacked m' ids m'.active := by
  obtain ⟨hnew, hbelow⟩ := stacked_of_wrote hstacked h.wrote h.found hstatus
  refine ⟨tx'.transactionId :: ids, ?_, hnew, tx', h.wrote.self, h.status, ?_⟩
  · rw [h.active, Option.map_some, h.names]
  · rw [h.previousActive]
    exact hbelow

/-- What holds in every state of a clean run. -/
structure Ordered (m : VenueAdaptationManager) : Prop where
  unique : PendingUnique m
  readable : ∀ id tx, m.get? id = some tx → tx.minimumReaderSchemaVersion = 1
  stacked : ∃ ids, Stacked m ids m.active

lemma ordered_init : Ordered {} where
  unique := pendingUnique_init
  readable := fun _ _ h => absurd (Table.find?_eq_some.mp h).1 List.not_mem_nil
  stacked := ⟨[], rfl⟩

variable {S}

variable {tx : AdaptationTransaction}

lemma not_rolledBack_of_clean {a : ScheduleArguments} {now : String}
    (hclean : Clean S m (.scheduleCommit a now)) (h : Admitted m a tx) :
    tx.status ≠ .rolledBack := by
  obtain ⟨request, hallowed⟩ := h.admitted
  exact hclean (tx, some request) (by simp [hallowed, Except.toOption]) rfl

lemma open_of_clean {plan : Entries} {requirements : List Value}
    {expected : Option ℤ} {blockers : List Value}
    (hclean : Clean S m (.validate id plan requirements expected))
    (haccess : m.access id expected = .ok tx)
    (hfound : findBlockers S tx plan requirements = .ok blockers) : tx.status.Open :=
  hclean tx (by simp [haccess, Except.toOption]) (by simp [hfound, Except.isOk, Except.toBool])

lemma leadsTo_of_wrote (hwrote : Wrote m m' tx')
    (hfound : m.get? tx'.transactionId = some tx) (h : tx.status.LeadsTo tx'.status)
    {found : AdaptationTransaction} (hget : m.get? id = some found) :
    ∃ found', m'.get? id = some found' ∧ found.status.LeadsTo found'.status := by
  by_cases hid : tx'.transactionId = id
  · subst hid
    obtain rfl := Option.some.inj (hfound.symm.trans hget)
    exact ⟨tx', hwrote.self, h⟩
  · exact ⟨found, (hwrote.other hid).trans hget, found.status.leadsTo_self⟩

lemma leadsTo_of_open {s t : AdaptationStatus} (h : s.Open) : s.LeadsTo t := by
  rcases h with rfl | rfl
  · exact trivial
  · exact trivial

lemma not_committed_of_open {s : AdaptationStatus} (h : s.Open) : s ≠ .committed := by
  rcases h with rfl | rfl
  · simp
  · simp

lemma leadsTo_of_admitted {s t : AdaptationStatus} (hcommitted : s ≠ .committed)
    (hrolled : s ≠ .rolledBack) (ht : t = .pendingCommit ∨ t = .committed) : s.LeadsTo t := by
  cases s with
  | proposed => exact trivial
  | validated => exact trivial
  | pendingCommit => exact ht.imp_right .inl
  | committed => exact absurd rfl hcommitted
  | rolledBack => exact absurd rfl hrolled

variable {call : AdaptationCall} {made : List LayerCommit}

lemma leadsTo_of_effect (hclean : Clean S m call) (h : Effect S m m' call made)
    {found : AdaptationTransaction} (hget : m.get? id = some found) :
    ∃ found', m'.get? id = some found' ∧ found.status.LeadsTo found'.status := by
  cases h with
  | idle transactions active =>
    refine ⟨found, ?_, found.status.leadsTo_self⟩
    rw [get?, transactions]
    exact hget
  | proposed fresh wrote status reader active =>
    rename_i tx'
    have hother : tx'.transactionId ≠ id := by
      rintro rfl
      exact absurd (fresh.symm.trans hget) (by simp)
    exact ⟨found, (wrote.other hother).trans hget, found.status.leadsTo_self⟩
  | validated access blockersFound changed status active =>
    exact leadsTo_of_wrote changed.wrote changed.found
      (leadsTo_of_open (open_of_clean hclean access blockersFound)) hget
  | scheduled admitted changed status active =>
    exact leadsTo_of_wrote changed.wrote changed.found
      (leadsTo_of_admitted admitted.uncommitted (not_rolledBack_of_clean hclean admitted)
        (.inl status)) hget
  | committed admitted committed =>
    exact leadsTo_of_wrote committed.wrote committed.found
      (leadsTo_of_admitted admitted.uncommitted (not_rolledBack_of_clean hclean admitted)
        (.inr committed.status)) hget
  | reached pending committed =>
    exact leadsTo_of_wrote committed.wrote committed.found
      (by rw [pending, committed.status]; exact .inr (.inl rfl)) hget
  | cancelled pending changed status active =>
    exact leadsTo_of_wrote changed.wrote changed.found
      (by rw [pending, status]; exact .inr (.inr rfl)) hget
  | restored access committed named changed status active =>
    exact leadsTo_of_wrote changed.wrote changed.found
      (by rw [committed, status]; exact .inr rfl) hget

lemma stacked_effect (hclean : Clean S m call)
    (h : Effect S m m' call made) (hstacked : ∃ ids, Stacked m ids m.active) :
    ∃ ids, Stacked m' ids m'.active := by
  obtain ⟨ids, hstacked⟩ := hstacked
  cases h with
  | idle transactions active =>
    refine ⟨ids, active ▸ stacked_congr (fun id _ => ?_) hstacked⟩
    rw [get?, get?, transactions]
  | proposed fresh wrote status reader active =>
    refine ⟨ids, active ▸ stacked_congr (fun id hid => wrote.other ?_) hstacked⟩
    rintro rfl
    obtain ⟨tx, hget, -⟩ := committed_of_stacked hstacked hid
    exact absurd (fresh.symm.trans hget) (by simp)
  | validated access blockersFound changed status active =>
    have hopen := open_of_clean hclean access blockersFound
    exact ⟨ids, active ▸
      (stacked_of_wrote hstacked changed.wrote changed.found (not_committed_of_open hopen)).2⟩
  | scheduled admitted changed status active =>
    exact ⟨ids, active ▸
      (stacked_of_wrote hstacked changed.wrote changed.found admitted.uncommitted).2⟩
  | committed admitted committed =>
    exact stacked_of_committed hstacked committed admitted.uncommitted
  | reached pending committed =>
    exact stacked_of_committed hstacked committed (by simp [pending])
  | cancelled pending changed status active =>
    exact ⟨ids, active ▸
      (stacked_of_wrote hstacked changed.wrote changed.found (by simp [pending])).2⟩
  | restored access committed named changed status active =>
    rename_i tx tx'
    cases ids with
    | nil =>
      rw [show m.active = none from hstacked] at named
      cases named
    | cons id rest =>
      obtain ⟨hid, hnew, found, hget, -, hrest⟩ := hstacked
      obtain rfl := Option.some.inj (named.symm.trans hid)
      obtain rfl := Option.some.inj (changed.found.symm.trans hget)
      exact ⟨rest, active ▸
        stacked_congr (fun id hid => changed.wrote.other fun heq => hnew (heq ▸ hid)) hrest⟩

lemma readable_effect (h : Effect S m m' call made)
    (hreadable : ∀ id tx, m.get? id = some tx → tx.minimumReaderSchemaVersion = 1) :
    ∀ id tx, m'.get? id = some tx → tx.minimumReaderSchemaVersion = 1 := by
  have hstored : ∀ {tx'}, Wrote m m' tx' → tx'.minimumReaderSchemaVersion = 1 →
      ∀ id tx, m'.get? id = some tx → tx.minimumReaderSchemaVersion = 1 := by
    intro tx' hwrote hreader id tx hget
    rw [hwrote] at hget
    split_ifs at hget
    · rw [← Option.some.inj hget, hreader]
    · exact hreadable id tx hget
  cases h with
  | idle transactions active =>
    intro id tx hget
    rw [get?, transactions] at hget
    exact hreadable id tx hget
  | proposed fresh wrote status reader active => exact hstored wrote reader
  | validated access found changed status active =>
    exact hstored changed.wrote (changed.reader.trans (hreadable _ _ changed.found))
  | scheduled admitted changed status active =>
    exact hstored changed.wrote (changed.reader.trans (hreadable _ _ changed.found))
  | committed admitted committed =>
    exact hstored committed.wrote (committed.reader.trans (hreadable _ _ committed.found))
  | reached pending committed =>
    exact hstored committed.wrote (committed.reader.trans (hreadable _ _ committed.found))
  | cancelled pending changed status active =>
    exact hstored changed.wrote (changed.reader.trans (hreadable _ _ changed.found))
  | restored access committed named changed status active =>
    exact hstored changed.wrote (changed.reader.trans (hreadable _ _ changed.found))

lemma ordered_step (h : Ordered m) (hclean : Clean S m call)
    (hstep : step S m call = some m') : Ordered m' := by
  have heffect := effect_of_step S h.unique hstep
  exact
    { unique := pendingUnique_effect S h.unique heffect
      readable := readable_effect heffect h.readable
      stacked := stacked_effect hclean heffect h.stacked }

lemma rollback_active (hget : m.get? id = some tx)
    (hreader : tx.minimumReaderSchemaVersion = 1) (hcommitted : tx.status = .committed)
    (hactive : m.active.map PatchLayer.transactionId = some id) (showSeconds : Number)
    (requestedBy : String) :
    ∃ tx', (m.rollback id showSeconds requestedBy none).2 = .ok tx' ∧ tx'.status = .rolledBack := by
  have haccess : m.access id none = .ok tx := by
    have hfind : m.transactions.find? id = some tx := hget
    simp only [access, checkRevision, hfind, assertReaderSafe, hreader, max_self]
    rfl
  have hwaiting : tx.status ≠ .pendingCommit := by simp [hcommitted]
  simp only [VenueAdaptationManager.rollback, haccess, if_neg hwaiting, if_neg (not_not.mpr hcommitted),
    if_neg (not_not.mpr hactive)]
  exact ⟨_, rfl, rfl⟩

/-- The statuses and the active layer are as the life cycle has them, and each call that may follow
moves every transaction as it allows. -/
structure Alive (S : AdaptationSetup) (m : VenueAdaptationManager) : Prop where
  pending : PendingUnique m
  active : ∀ layer ∈ m.active, ∃ tx, m.get? layer.transactionId = some tx ∧ tx.status = .committed ∧
      ∀ showSeconds requestedBy, ∃ tx',
        (m.rollback layer.transactionId showSeconds requestedBy none).2 = .ok tx' ∧
          tx'.status = .rolledBack
  leadsTo : ∀ call m', Clean S m call → step S m call = some m' → ∀ id tx, m.get? id = some tx →
    ∃ tx', m'.get? id = some tx' ∧ tx.status.LeadsTo tx'.status

/-- **The life cycle of a venue adaptation.** In every run in which no validation succeeds for a
transaction that has been scheduled, and no rolled-back transaction is scheduled, at most one commit
is pending, the transaction of the active layer is committed and can be rolled back, and every status
moves as it may. -/
theorem life_cycle {calls : List AdaptationCall} (h : Reaches (step S) (Clean S) {} calls m) :
    Alive S m := by
  have hordered : Ordered m := h.invariant (I := Ordered) ordered_init fun _ _ _ => ordered_step
  refine ⟨hordered.unique, fun layer hlayer => ?_, fun call m' hclean hstep id tx hget => ?_⟩
  · obtain ⟨ids, hstacked⟩ := hordered.stacked
    rw [Option.mem_def] at hlayer
    cases ids with
    | nil => exact absurd (hlayer.symm.trans hstacked) (by simp)
    | cons id rest =>
      obtain ⟨hid, -, tx, hget, hcommitted, -⟩ := hstacked
      rw [hlayer, Option.map_some, Option.some.injEq] at hid
      subst hid
      refine ⟨tx, hget, hcommitted, fun showSeconds requestedBy => ?_⟩
      exact rollback_active hget (hordered.readable _ _ hget) hcommitted
        (by rw [hlayer, Option.map_some]) showSeconds requestedBy
  · exact leadsTo_of_effect hclean (effect_of_step S hordered.unique hstep) hget

def exampleVenuePlan : Entries := [("compatible", .bool true), ("readiness", .str "ready")]

/-- The fingerprints of no requirements and of the venue plan. -/
def exampleVenue : AdaptationSetup where
  conversions := ⟨fun _ => "None", fun _ => none, fun _ => none⟩
  fingerprint value := if value = .list [] then
      "sha256:4f53cda18c2baa0c0354bb5f9a3ecbe5ed12ab4d8e11ba873c2f11161202b945"
    else if value = .dict (["venue", "grade", "readiness", "devicePlan", "blockers",
        "unmappedRequired", "discoveryWarnings"].map fun key =>
          (key, AdaptationSetup.field exampleVenuePlan key)) then
      "sha256:00a700f1e3c1726f7540eb637cbfb63f40cc3ea385ade48d1a45be9dc5ed163c"
    else ""

/-- A transaction that is proposed, validated and committed at once. -/
def committedAtOnce (id : String) : List AdaptationCall :=
  [.propose id exampleVenuePlan [] false "" none, .validate id exampleVenuePlan [] none,
    .scheduleCommit
      { id := id, mode := "immediate", showSeconds := .finite 1, bpm := .finite 120, cueId := ""
        requestedBy := "operator", expected := none } "2025-01-01T00:00:00Z"]

theorem life_cycle_committed : ∃ m, Alive exampleVenue m ∧
      m.active.map PatchLayer.transactionId = some "adapt-0123456789abcdef" := by
  have hrun : (run (fun m call => if Clean exampleVenue m call then step exampleVenue m call
      else none) {} (committedAtOnce "adapt-0123456789abcdef")).map
        (fun m => m.active.map PatchLayer.transactionId) =
      some (some "adapt-0123456789abcdef") := by
    decide +kernel
  obtain ⟨m, hm, hactive⟩ := Option.map_eq_some_iff.mp hrun
  exact ⟨m, life_cycle (reaches_of_run hm), hactive⟩

def committedAtCue (id : String) : AdaptationCall := .scheduleCommit
    { id := id, mode := "cue", showSeconds := .finite 3, bpm := .finite 120, cueId := "chorus"
      requestedBy := "operator", expected := none } "2025-01-01T00:00:01Z"

theorem pending_unique_cue : ∃ calls m, Reaches (step exampleVenue) Always {} calls m ∧ PendingUnique m ∧
    (m.get? "adapt-0123456789abcdef").map AdaptationTransaction.status = some .pendingCommit := by
  obtain ⟨m, hm, hpending⟩ := @reaches_always_of_any _ _ (step exampleVenue) {}
    ((committedAtOnce "adapt-0123456789abcdef").take 2 ++ [committedAtCue "adapt-0123456789abcdef"])
    (fun m => (m.get? "adapt-0123456789abcdef").map AdaptationTransaction.status = some .pendingCommit) _
    (by decide +kernel)
  exact ⟨_, m, hm, pending_unique exampleVenue hm, hpending⟩

/-- **What goes wrong.** A committed transaction that is validated again is not committed any more;
its layer stays active and cannot be rolled back. One that has been rolled back is scheduled again. -/
theorem life_cycle_fails : (∃ calls m, Reaches (step exampleVenue) Always {} calls m ∧
      (m.active.bind fun layer => m.get? layer.transactionId).map AdaptationTransaction.status =
        some .proposed ∧
      (m.rollback "adapt-0123456789abcdef" (.finite 2) "operator" none).2.isOk = false) ∧
    (∃ calls m, Reaches (step exampleVenue) Always {} calls m ∧
      (m.get? "adapt-0123456789abcdef").map AdaptationTransaction.status = some .rolledBack ∧
      (((committedAtCue "adapt-0123456789abcdef").perform exampleVenue m).get?
        "adapt-0123456789abcdef").map AdaptationTransaction.status = some .pendingCommit) := by
  constructor
  · refine ⟨committedAtOnce "adapt-0123456789abcdef" ++
      [.validate "adapt-0123456789abcdef" exampleVenuePlan [] none], reaches_always_of_any ?_⟩
    decide +kernel
  · refine ⟨committedAtOnce "adapt-0123456789abcdef" ++
      [.rollback "adapt-0123456789abcdef" (.finite 2) "operator" none], reaches_always_of_any ?_⟩
    decide +kernel

end AdaptationCall

end StageForge
