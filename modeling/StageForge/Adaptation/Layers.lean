import StageForge.Adaptation.LifeCycle

/-!
# The numbers of patch layers, and what a rollback restores

Every commit makes a layer active and numbers it: the number of the layer before it, plus 1. A
rollback makes the layer before the commit active again, with its number.
-/

namespace StageForge

open Python TransitionSystem AdaptationCall VenueAdaptationManager

/-- The manager, its commits so far, the last first, and whether one of them has been undone. -/
structure LayerHistory where
  manager : VenueAdaptationManager := {}
  commits : List LayerCommit := []
  undone : Bool := false
  deriving DecidableEq

namespace LayerHistory

variable (S : AdaptationSetup)

/-- The call is the rollback of the active transaction, which has a status. -/
def RollsBack (m : VenueAdaptationManager) (status : AdaptationStatus) : AdaptationCall → Prop
  | .rollback id _ _ expected =>
    m.active.map PatchLayer.transactionId = some id ∧
      ∃ tx ∈ (m.access id expected).toOption, tx.status = status
  | .propose .. | .validate .. | .scheduleCommit .. | .tick .. | .triggerCue .. => False

instance (m : VenueAdaptationManager) (status : AdaptationStatus) :
    (call : AdaptationCall) → Decidable (RollsBack m status call)
  | .rollback .. => inferInstanceAs (Decidable (_ ∧ ∃ tx ∈ Except.toOption _, _ = _))
  | .propose .. | .validate .. | .scheduleCommit .. | .tick .. | .triggerCue .. =>
    inferInstanceAs (Decidable False)

def step (s : LayerHistory) (call : AdaptationCall) : Option LayerHistory :=
  (AdaptationCall.step S s.manager call).map fun m =>
    { manager := m
      commits := (call.commits s.manager).reverse ++ s.commits
      undone := s.undone || decide (RollsBack s.manager .committed call) }

def lastCommit (s : LayerHistory) (id : String) : Option LayerCommit :=
  s.commits.find? fun commit => commit.layer.transactionId = id

def currentRevision (m : VenueAdaptationManager) : ℤ :=
  (m.active.map PatchLayer.patchRevision).getD 0

/-- Nothing is committed once a commit has been undone, and a commit that still waits is not
cancelled while its transaction is the active one. -/
def Clean (s : LayerHistory) (call : AdaptationCall) : Prop :=
  (s.undone = true → call.commits s.manager = []) ∧ ¬ RollsBack s.manager .pendingCommit call

instance (s : LayerHistory) (call : AdaptationCall) : Decidable (Clean s call) :=
  inferInstanceAs (Decidable ((_ → _ = _) ∧ ¬ _))

/-- What holds in every run: each committed transaction remembers what its last commit has replaced. -/
structure Remembered (s : LayerHistory) : Prop where
  unique : PendingUnique s.manager
  previous : ∀ id tx, s.manager.get? id = some tx → tx.status = .committed →
    (s.lastCommit id).map LayerCommit.before = some tx.previousActive

variable {S} {s s' : LayerHistory} {call : AdaptationCall}

lemma remembered_init : Remembered {} where
  unique := pendingUnique_init
  previous := fun _ _ h => absurd (Table.find?_eq_some.mp h).1 List.not_mem_nil

lemma effect_of_step (hunique : PendingUnique s.manager) (h : step S s call = some s') :
    Effect S s.manager s'.manager call (call.commits s.manager) ∧
      s'.commits = (call.commits s.manager).reverse ++ s.commits ∧
      s'.undone = (s.undone || decide (RollsBack s.manager .committed call)) := by
  obtain ⟨m, hm, rfl⟩ := Option.map_eq_some_iff.mp h
  exact ⟨AdaptationCall.effect_of_step S hunique hm, rfl, rfl⟩

lemma previous_of_wrote {tx' : AdaptationTransaction} (h : Remembered s)
    (hwrote : Wrote s.manager s'.manager tx') (hcommits : s'.commits = s.commits)
    (hstatus : tx'.status ≠ .committed) (id : String) (tx : AdaptationTransaction)
    (hget : s'.manager.get? id = some tx) (hcommitted : tx.status = .committed) :
    (s'.lastCommit id).map LayerCommit.before = some tx.previousActive := by
  rw [hwrote] at hget
  split_ifs at hget
  · rw [Option.some.inj hget] at hstatus
    exact absurd hcommitted hstatus
  · rw [lastCommit, hcommits]
    exact h.previous id tx hget hcommitted

variable {tx tx' : AdaptationTransaction}

lemma previous_of_committed {layer : PatchLayer}
    (h : Remembered s) (hcommit : Committed s.manager s'.manager tx tx' layer)
    (hcommits : s'.commits = { before := s.manager.active, layer := layer } :: s.commits)
    (id : String) (found : AdaptationTransaction) (hget : s'.manager.get? id = some found)
    (hcommitted : found.status = .committed) :
    (s'.lastCommit id).map LayerCommit.before = some found.previousActive := by
  rw [hcommit.wrote] at hget
  rw [lastCommit, hcommits]
  split_ifs at hget with hid
  · cases hget
    rw [List.find?_cons_of_pos (by simpa [hcommit.names] using hid), Option.map_some,
      hcommit.previousActive]
  · rw [List.find?_cons_of_neg (by simpa [hcommit.names] using hid)]
    exact h.previous id found hget hcommitted

lemma remembered_step (h : Remembered s) (hstep : step S s call = some s') : Remembered s' := by
  obtain ⟨heffect, hcommits, -⟩ := effect_of_step h.unique hstep
  refine ⟨pendingUnique_effect S h.unique heffect, ?_⟩
  generalize call.commits s.manager = made at heffect hcommits
  cases heffect with
  | idle transactions active =>
    intro id tx hget hcommitted
    rw [get?, transactions] at hget
    rw [lastCommit, hcommits]
    exact h.previous id tx hget hcommitted
  | proposed fresh wrote status reader active =>
    exact previous_of_wrote h wrote hcommits (by simp [status])
  | validated access found changed status active =>
    exact previous_of_wrote h changed.wrote hcommits (by rcases status with h | h <;> simp [h])
  | scheduled admitted changed status active =>
    exact previous_of_wrote h changed.wrote hcommits (by simp [status])
  | committed admitted committed => exact previous_of_committed h committed hcommits
  | reached pending committed => exact previous_of_committed h committed hcommits
  | cancelled pending changed status active =>
    exact previous_of_wrote h changed.wrote hcommits (by simp [status])
  | restored access committed named changed status active =>
    exact previous_of_wrote h changed.wrote hcommits (by simp [status])

lemma remembered_of_reaches {ok : LayerHistory → AdaptationCall → Prop}
    {calls : List AdaptationCall} (h : Reaches (step S) ok {} calls s) : Remembered s :=
  h.invariant (I := Remembered) remembered_init fun _ _ _ hremembered _ hstep =>
    remembered_step hremembered hstep

/-- In every run, the rollback of a committed transaction gives back the layer that its last commit
has replaced. -/
theorem rollback_restores (h : Remembered s) {id : String} {showSeconds : Number}
    {requestedBy : String} {expected : Option ℤ}
    (haccess : s.manager.access id expected = .ok tx) (hwaiting : tx.status ≠ .pendingCommit)
    (hrolled : (s.manager.rollback id showSeconds requestedBy expected).2 = .ok tx') :
    ∃ commit, s.lastCommit id = some commit ∧
      (s.manager.rollback id showSeconds requestedBy expected).1.active = commit.before := by
  simp only [VenueAdaptationManager.rollback, haccess, if_neg hwaiting] at hrolled ⊢
  split_ifs at hrolled ⊢ with hcommitted hactive
  obtain ⟨commit, hlast, hbefore⟩ :=
    Option.map_eq_some_iff.mp (h.previous id tx (get?_of_access haccess) (not_not.mp hcommitted))
  exact ⟨commit, hlast, hbefore.symm⟩

/-- What holds in every clean run: the numbers differ, and until a commit is undone that of the
active layer is the largest. -/
structure Numbered (s : LayerHistory) : Prop where
  nodup : (s.commits.map fun commit => commit.layer.patchRevision).Nodup
  below : s.undone = false →
    ∀ commit ∈ s.commits, commit.layer.patchRevision ≤ currentRevision s.manager

lemma numbered_init : Numbered {} where
  nodup := List.nodup_nil
  below := fun _ _ h => absurd h List.not_mem_nil

lemma Numbered.same (h : Numbered s) (hcommits : s'.commits = s.commits)
    (hundone : s'.undone = false → s.undone = false)
    (hactive : s'.manager.active = s.manager.active) : Numbered s' where
  nodup := hcommits ▸ h.nodup
  below := by
    intro hnot
    rw [hcommits, currentRevision, hactive]
    exact h.below (hundone hnot)

lemma Numbered.commit {layer : PatchLayer} (h : Numbered s)
    (hnot : s.undone = false) (hcommit : Committed s.manager s'.manager tx tx' layer)
    (hcommits : s'.commits = { before := s.manager.active, layer := layer } :: s.commits) :
    Numbered s' := by
  have hnumber : layer.patchRevision = currentRevision s.manager + 1 := hcommit.patchRevision
  have hcurrent : currentRevision s'.manager = layer.patchRevision := by
    rw [currentRevision, hcommit.active, Option.map_some, Option.getD_some]
  constructor
  · rw [hcommits, List.map_cons, List.nodup_cons]
    refine ⟨fun hmem => ?_, h.nodup⟩
    obtain ⟨commit, hcommit, hequal⟩ := List.mem_map.mp hmem
    have hsame : commit.layer.patchRevision = layer.patchRevision := hequal
    have hbelow := h.below hnot commit hcommit
    omega
  · intro _ commit hmem
    rw [hcommits, List.mem_cons] at hmem
    rcases hmem with rfl | hmem
    · exact hcurrent.ge
    · have hbelow := h.below hnot commit hmem
      omega

lemma numbered_step (h : Numbered s) (hremembered : Remembered s) (hclean : Clean s call)
    (hstep : step S s call = some s') : Numbered s' := by
  obtain ⟨heffect, hcommits, hundone⟩ := effect_of_step hremembered.unique hstep
  have hstill : s'.undone = false → s.undone = false := by
    intro hnot
    rw [hundone, Bool.or_eq_false_iff] at hnot
    exact hnot.1
  have hnone := hclean.1
  generalize call.commits s.manager = made at heffect hcommits hnone
  cases heffect with
  | idle transactions active => exact h.same hcommits hstill active
  | proposed fresh wrote status reader active => exact h.same hcommits hstill active
  | validated access found changed status active => exact h.same hcommits hstill active
  | scheduled admitted changed status active => exact h.same hcommits hstill active
  | committed admitted committed =>
    have hnot : s.undone = false := Bool.eq_false_iff.mpr fun hdone => by simpa using hnone hdone
    exact h.commit hnot committed hcommits
  | reached pending committed =>
    have hnot : s.undone = false := Bool.eq_false_iff.mpr fun hdone => by simpa using hnone hdone
    exact h.commit hnot committed hcommits
  | cancelled pending changed status active => exact h.same hcommits hstill active
  | restored access committed named changed status active =>
    rename_i id showSeconds requestedBy expected tx tx'
    have hid : tx'.transactionId = id := by
      rw [← id_of_get? changed.found, id_of_get? (get?_of_access access)]
    have hundoes : RollsBack s.manager .committed (.rollback id showSeconds requestedBy expected) :=
      ⟨hid ▸ named, tx, by simp [access, Except.toOption], committed⟩
    refine ⟨hcommits ▸ h.nodup, fun hnot => ?_⟩
    rw [hundone, decide_eq_true hundoes, Bool.or_true] at hnot
    cases hnot

/-- **Layers and rollbacks.** In every run in which nothing is committed after a committed
transaction has been rolled back, and in which no active transaction is cancelled while it waits for
another commit, no two layers carry the same number, and the rollback of the active transaction
restores the layer that was active before its last commit. -/
theorem layers_nest {calls : List AdaptationCall} (h : Reaches (step S) Clean {} calls s) :
    (s.commits.map fun commit => commit.layer.patchRevision).Nodup ∧
      ∀ id showSeconds requestedBy expected tx',
        s.manager.active.map PatchLayer.transactionId = some id →
        Clean s (.rollback id showSeconds requestedBy expected) →
        (s.manager.rollback id showSeconds requestedBy expected).2 = .ok tx' →
          ∃ commit, s.lastCommit id = some commit ∧
            (s.manager.rollback id showSeconds requestedBy expected).1.active = commit.before := by
  have hremembered := remembered_of_reaches h
  have hboth := h.assuming (I := Remembered) remembered_init fun _ _ _ hremembered _ hstep =>
    remembered_step hremembered hstep
  have hnumbered : Numbered s :=
    hboth.invariant (I := Numbered) numbered_init fun _ _ _ hnumbered hok hstep =>
      numbered_step hnumbered hok.2 hok.1 hstep
  refine ⟨hnumbered.nodup, fun id showSeconds requestedBy expected tx' hactive hclean hrolled => ?_⟩
  cases haccess : s.manager.access id expected with
  | error e =>
    simp only [VenueAdaptationManager.rollback, haccess] at hrolled
    cases hrolled
  | ok tx =>
    have hwaiting : tx.status ≠ .pendingCommit := fun hpending =>
      hclean.2 ⟨hactive, tx, by simp [haccess, Except.toOption], hpending⟩
    exact rollback_restores hremembered haccess hwaiting hrolled

theorem layers_nest_twice :
    ∃ s : LayerHistory, (s.commits.map fun commit => commit.layer.patchRevision) = [2, 1] ∧
      (s.commits.map fun commit => commit.layer.patchRevision).Nodup ∧
      ∃ commit, s.lastCommit "adapt-fedcba9876543210" = some commit ∧
        (s.manager.rollback "adapt-fedcba9876543210" (.finite 2) "operator" none).1.active =
          commit.before := by
  have hrun : ((run (fun s call => if Clean s call then step exampleVenue s call else none) {}
      (committedAtOnce "adapt-0123456789abcdef" ++ committedAtOnce "adapt-fedcba9876543210")).map
        fun s => (s.commits.map (fun commit => commit.layer.patchRevision),
          s.manager.active.map PatchLayer.transactionId,
          decide (Clean s (.rollback "adapt-fedcba9876543210" (.finite 2) "operator" none)),
          (s.manager.rollback "adapt-fedcba9876543210" (.finite 2) "operator" none).2.isOk)) =
      some ([2, 1], some "adapt-fedcba9876543210", true, true) := by
    decide +kernel
  obtain ⟨s, hs, hall⟩ := Option.map_eq_some_iff.mp hrun
  simp only [Prod.mk.injEq] at hall
  obtain ⟨hcommits, hactive, hclean, hrolled⟩ := hall
  have hnested := layers_nest (reaches_of_run hs)
  cases hresult : (s.manager.rollback "adapt-fedcba9876543210" (.finite 2) "operator" none).2 with
  | error e => simp [hresult, Except.isOk, Except.toBool] at hrolled
  | ok tx' => exact ⟨s, hcommits, hnested.1, hnested.2 _ _ _ _ tx' hactive (of_decide_eq_true hclean) hresult⟩

/-- **What goes wrong.** Two different layers carry number 1, after the first has been rolled
back. -/
theorem layers_share_number : ∃ calls s, Reaches (step exampleVenue) Always {} calls s ∧
      (s.commits.map fun commit => (commit.layer.transactionId, commit.layer.patchRevision)) =
        [("adapt-fedcba9876543210", 1), ("adapt-0123456789abcdef", 1)] := by
  refine ⟨committedAtOnce "adapt-0123456789abcdef" ++
    [.rollback "adapt-0123456789abcdef" (.finite 2) "operator" none] ++
      committedAtOnce "adapt-fedcba9876543210", reaches_always_of_any ?_⟩
  decide +kernel

end LayerHistory

end StageForge
