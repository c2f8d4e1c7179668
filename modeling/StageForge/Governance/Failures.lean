import StageForge.Governance.Votes

/-!
# Failed governance updates

Whether a call that raises leaves the records as they were.
-/

namespace StageForge

open Python TransitionSystem

variable {S : GovernanceSetup} {st st' : Governance} {env : Surroundings}

namespace Governance

/-- Proposals, invitations, votes and revision are the same. -/
def SameRecords (st st' : Governance) : Prop :=
  st'.proposals = st.proposals ∧ st'.invitations = st.invitations ∧ st'.votes = st.votes ∧
    st'.revision = st.revision

instance (st st' : Governance) : Decidable (st.SameRecords st') := by
  unfold SameRecords
  infer_instance

def CleanFailure {α : Type} (st : Governance) (r : Attempt α) : Prop :=
  ∀ e, r.2 = .error e → st.SameRecords r.1

/-- A proposal keeps its wording unless its version changes. -/
def KeepsWording (st st' : Governance) : Prop :=
  ∀ p ∈ st.proposals.rows, ∀ p' ∈ st'.proposals.rows, p'.id = p.id → p'.version = p.version →
    p'.wording = p.wording

lemma CleanFailure.of_ok {α : Type} {r : Attempt α} {a : α} (h : r.2 = .ok a) :
    st.CleanFailure r := fun e he => by simp [h] at he

lemma not_clean_of_revision {α : Type} {r : Attempt α} (e : Error) (h : r.2 = .error e)
    (hrevision : r.1.revision ≠ st.revision) : ¬ st.CleanFailure r :=
  fun hclean => hrevision (hclean e h).2.2.2

lemma keepsWording_of_same (h : st.SameRecords st') : st.KeepsWording st' := by
  intro p hp p' hp' hid _
  rw [h.1] at hp'
  rw [Table.eq_of_mem hp' hp hid]

lemma keepsWording_of_one {p : Proposal} (hp : p ∈ st.proposals.rows)
    (h : ∀ q ∈ st'.proposals.rows, (q.id = p.id ∧ (q.version ≠ p.version ∨ q.wording = p.wording)) ∨
      q ∈ st.proposals.rows) : st.KeepsWording st' := by
  intro q hq q' hq' hid hversion
  rcases h q' hq' with ⟨hid', hkept⟩ | hold
  · obtain rfl : q = p := Table.eq_of_mem hq hp (hid.symm.trans hid')
    exact hkept.resolve_left fun hne => hne hversion
  · rw [Table.eq_of_mem hold hq hid]

/-! ## When an update fails too late -/

def requestedStatus (S : GovernanceSetup) (data : List (String × Value)) : Option ProposalStatus :=
  (data.lookup "status").bind fun raw =>
    proposalStatus? (lower (strip (S.conversions.str raw)))

/-- The data asks for another status than the proposal has. -/
def StatusChanges (S : GovernanceSetup) (data : List (String × Value)) (p : Proposal) : Prop :=
  ∃ status ∈ requestedStatus S data, status ≠ p.status

/-- The data has a change that `_change_record` refuses. -/
def MalformedChange (S : GovernanceSetup) (data : List (String × Value)) : Prop :=
  ∃ raw ∈ data.lookup "change", (changeRecord S raw).isOk = false

end Governance

/-- A save of the publication fails, so that it raises. -/
def RecordAttempt.Raises (attempt : RecordAttempt) : Prop := attempt.pendingSaved = false ∨
    (attempt.rescueSaved = false ∧ (attempt.reference = none ∨ attempt.referenceSaved = false))

lemma publish_error_iff (evidence : PublicEvidence) {attempt : RecordAttempt} :
    (∃ e, (evidence.publish attempt).2 = .error e) ↔ attempt.Raises := by
  unfold PublicEvidence.publish RecordAttempt.Raises
  cases attempt.pendingSaved with
  | false => simp
  | true => cases attempt.reference <;> cases attempt.referenceSaved <;>
      cases attempt.rescueSaved <;> simp

namespace Governance

/-- `update_proposal` passes its tests and fails after its first assignment: the change is malformed
and the status or a text has been assigned another value, or there is something to save and a save
fails. -/
def LateUpdateFailure (S : GovernanceSetup) (env : Surroundings) (reference : Option String)
    (proposalId : String) (data : List (String × Value)) (st : Governance) : Prop :=
  ∃ p ∈ st.proposals.find? proposalId,
    (updateGuard S p data).isOk = true ∧ (st.updateStatus S env reference data p).isOk = true ∧
      ((MalformedChange S data ∧ (StatusChanges S data p ∨ assignTexts S data p ≠ p)) ∨
        (¬ MalformedChange S data ∧ (StatusChanges S data p ∨ material data = true) ∧
          (env.saved = false ∨
            (material data = true ∧ S.publicRecordRequired = true ∧ env.publication.Raises))))

def activeAccount (st : Governance) (userId : String) : Bool :=
  ((st.accounts.find? userId).filter (·.active)).isSome

/-- `issue_vote_emails` has inserted an invitation when it comes to an account that is not there or
not active, or it prepares them all and the save fails. -/
def LateIssueFailure (env : Surroundings) (proposalId : String) (users : List String)
    (st : Governance) : Prop :=
  (∃ p ∈ st.proposals.find? proposalId, p.status = .open) ∧
    ((∃ first rest, users = first :: rest ∧ st.activeAccount first = true ∧
        ∃ userId ∈ rest, st.activeAccount userId = false) ∨
      ((∀ userId ∈ users, st.activeAccount userId = true) ∧ env.saved = false))

/-! ## Updates -/

lemma updateStatus_restated {reference : Option String} {data : List (String × Value)}
    {p restated : Proposal} {tally : Option Tally}
    (h : st.updateStatus S env reference data p = .ok (restated, tally)) :
    restated.version = p.version ∧ (StatusChanges S data p ↔ restated.status ≠ p.status) ∧
      (restated.status = p.status → restated = p) := by
  unfold updateStatus at h
  unfold StatusChanges requestedStatus
  split at h
  · rename_i hnone
    obtain ⟨rfl, -⟩ := Prod.mk.inj (Except.ok.inj h)
    simp [hnone]
  · rename_i raw hraw
    split at h
    · cases h
    · rename_i status htext
      have hrequest : StatusChanges S data p ↔ status ≠ p.status := by
        simp [StatusChanges, requestedStatus, hraw, htext]
      simp only at h
      split_ifs at h with hclose hadopt hready hrequired
      · split at h
        · cases h
        · obtain ⟨rfl, -⟩ := Prod.mk.inj (Except.ok.inj h)
          refine ⟨rfl, ?_, fun heq => absurd heq.symm hadopt.2⟩
          simp [hraw, htext, hadopt.1, Ne.symm hadopt.2]
      · obtain ⟨rfl, -⟩ := Prod.mk.inj (Except.ok.inj h)
        refine ⟨rfl, ?_, fun heq => absurd heq.symm hadopt.2⟩
        simp [hraw, htext, hadopt.1, Ne.symm hadopt.2]
      · obtain ⟨rfl, -⟩ := Prod.mk.inj (Except.ok.inj h)
        refine ⟨rfl, by simp [hraw, htext], fun heq => ?_⟩
        have heq : status = p.status := heq
        rw [heq]

lemma assignTexts_spec (data : List (String × Value)) {p restated : Proposal}
    (h : restated.status = p.status → restated = p) :
    (assignTexts S data restated).id = restated.id ∧
      (assignTexts S data restated = p ↔ restated.status = p.status ∧ assignTexts S data p = p) := by
  refine ⟨rfl, fun heq => ?_, fun ⟨hstatus, htexts⟩ => by rw [h hstatus, htexts]⟩
  have hstatus : restated.status = p.status := congrArg (·.status) heq
  exact ⟨hstatus, h hstatus ▸ heq⟩

lemma updateWording_cases (env : Surroundings) (data : List (String × Value)) (p : Proposal) :
    (MalformedChange S data ∧ ∃ e, updateWording S env data p = (assignTexts S data p, .error e)) ∨
      (¬ MalformedChange S data ∧ ∃ p', updateWording S env data p = (p', .ok ()) ∧
        p'.id = p.id ∧ p'.version = p.version + 1) := by
  unfold updateWording MalformedChange
  cases hraw : data.lookup "change" with
  | none => exact .inr ⟨by simp, _, rfl, rfl, rfl⟩
  | some raw =>
    simp only
    cases hchange : changeRecord S raw with
    | error e => exact .inl ⟨⟨raw, rfl, by rw [hchange]; rfl⟩, e, rfl⟩
    | ok change =>
      refine .inr ⟨?_, _, rfl, rfl, rfl⟩
      rintro ⟨raw', hraw', hbad⟩
      cases hraw'
      simp [hchange, Except.isOk, Except.toBool] at hbad

lemma commitProposal_clean {p p' : Proposal} (hp : p ∈ st.proposals.rows)
    (hid : p'.id = p.id) (hversion : p'.version = p.version + 1)
    (hst : st'.proposals = st.proposals.put p') (hrevision : st'.revision = st.revision) :
    let r : Attempt Proposal := match st'.changed env.saved with
      | (st, .error e) => (st, .error e)
      | (st, .ok ()) => st.publishProposal S env p'
    (st.CleanFailure r ∧ st.KeepsWording r.1) ↔
      ¬ (env.saved = false ∨ (S.publicRecordRequired = true ∧ env.publication.Raises)) := by
  intro r
  have hput : ∀ q ∈ (st.proposals.put p').rows,
      (q.id = p.id ∧ (q.version ≠ p.version ∨ q.wording = p.wording)) ∨ q ∈ st.proposals.rows := by
    intro q hq
    rcases Table.mem_put.mp hq with rfl | ⟨-, hold⟩
    · exact .inl ⟨hid, .inl (by omega)⟩
    · exact .inr hold
  cases hsaved : env.saved with
  | false =>
    have hr : r = ({ st' with revision := st'.revision + 1 }, .error .osError) := by
      simp [r, changed, hsaved]
    simp only [true_or, not_true_eq_false, iff_false]
    refine fun h => not_clean_of_revision (r := r) .osError ?_ ?_ h.1
    · rw [hr]
    · simp [hr, hrevision]
  | true =>
    have hr : r = publishProposal S env p' { st' with revision := st'.revision + 1 } := by
      simp [r, changed, hsaved]
    cases hrequired : S.publicRecordRequired with
    | false =>
      have hr : r = ({ st' with revision := st'.revision + 1 }, .ok p') := by
        simp [hr, publishProposal, hrequired]
      refine iff_of_true ⟨.of_ok (congrArg Prod.snd hr), ?_⟩ (by simp)
      rw [hr]
      exact keepsWording_of_one hp (hst ▸ hput)
    | true =>
      simp only [Bool.true_eq_false, true_and, false_or]
      rw [← publish_error_iff p'.evidence]
      cases hpublish : p'.evidence.publish env.publication with
      | mk evidence result =>
        let published : Proposal := { p' with evidence := evidence }
        have hr : r = (({ st' with revision := st'.revision + 1 } : Governance).setProposal
            published, result.map fun _ => published) := by
          simp [hr, publishProposal, hrequired, hpublish, published]
        cases result with
        | error e =>
          refine iff_of_false (fun h => ?_) (fun h => h ⟨e, rfl⟩)
          refine not_clean_of_revision (r := r) e ?_ ?_ h.1
          · rw [hr]
            rfl
          · simp [hr, setProposal, hrevision]
        | ok _ =>
          refine iff_of_true ⟨.of_ok (congrArg Prod.snd hr), ?_⟩ (by simp)
          rw [hr]
          refine keepsWording_of_one hp fun q hq => ?_
          rcases Table.mem_put.mp hq with rfl | ⟨-, hold⟩
          · exact .inl ⟨hid, .inl (by simp [published, hversion])⟩
          · exact hput q (hst ▸ hold)

/-- `update_proposal` leaves something behind a failure, or rewords a version, if and only if it
fails too late. -/
lemma updateProposal_clean_iff (reference : Option String) (proposalId : String)
    (data : List (String × Value)) :
    (st.CleanFailure (st.updateProposal S env reference proposalId data) ∧
        st.KeepsWording (st.updateProposal S env reference proposalId data).1) ↔
      ¬ st.LateUpdateFailure S env reference proposalId data := by
  have hearly : ∀ e : Error, st.CleanFailure ((st, .error e) : Attempt Proposal) ∧
      st.KeepsWording st := fun e =>
    ⟨fun _ _ => ⟨rfl, rfl, rfl, rfl⟩, keepsWording_of_same ⟨rfl, rfl, rfl, rfl⟩⟩
  unfold updateProposal LateUpdateFailure
  cases hp : st.proposals.find? proposalId with
  | none => exact iff_of_true (hearly _) (by simp)
  | some p =>
    obtain ⟨hmem, hid⟩ := Table.find?_eq_some.mp hp
    simp only [Option.mem_def, Option.some.injEq, exists_eq_left']
    cases hguard : updateGuard S p data with
    | error e => exact iff_of_true (hearly e) (by simp [Except.isOk, Except.toBool])
    | ok _ =>
      cases hupdate : st.updateStatus S env reference data p with
      | error e => exact iff_of_true (hearly e) (by simp [Except.isOk, Except.toBool])
      | ok outcome =>
        obtain ⟨restated, tally⟩ := outcome
        obtain ⟨hrid, hrwording, -⟩ := updateStatus_spec hupdate
        obtain ⟨hrversion, hchanges, hsame⟩ := updateStatus_restated hupdate
        obtain ⟨hwid, hworded⟩ := assignTexts_spec (S := S) data hsame
        simp only [Except.isOk, Except.toBool, true_and]
        rw [hchanges]
        cases hmaterial : material data with
        | true =>
          simp only [if_true]
          rcases updateWording_cases (S := S) env data restated with
            ⟨hbad, e, hresult⟩ | ⟨hgood, p', hresult, hpid, hpversion⟩
          · rw [hresult]
            have hput : st.proposals.put (assignTexts S data restated) = st.proposals ↔
                restated.status = p.status ∧ assignTexts S data p = p :=
              (Table.put_eq_self_iff hmem (hwid.trans hrid)).trans hworded
            simp only [hbad, not_true_eq_false, false_and, or_false, true_and, not_or, not_not]
            rw [← hput]
            refine ⟨fun h => (h.1 e rfl).1, fun h => ⟨fun _ _ => ⟨h, rfl, rfl, rfl⟩, ?_⟩⟩
            exact keepsWording_of_same ⟨h, rfl, rfl, rfl⟩
          · rw [hresult]
            let stored : Governance := { st with
              ratifications := (tally.map fun t : Tally =>
                ⟨proposalId, t.wording, t.totalRawVotes⟩).toList ++ st.ratifications }
            have hstored : (stored.setProposal p').proposals = st.proposals.put p' := rfl
            refine (commitProposal_clean hmem (hpid.trans hrid)
              (hpversion.trans (congrArg (· + 1) hrversion)) hstored rfl).trans (not_congr ?_)
            simp [hgood]
        | false =>
          have hgood : ¬ MalformedChange S data := by
            rintro ⟨raw, hraw, -⟩
            simp [material, hasKey, Option.mem_def.mp hraw] at hmaterial
          simp only [Bool.false_eq_true, if_false, hgood, false_and, not_false_eq_true,
            true_and, false_or, or_false]
          split
          · rename_i hne
            cases hsaved : env.saved with
            | false =>
              refine iff_of_false (fun h => ?_) (by simp [hne])
              refine not_clean_of_revision .osError ?_ ?_ h.1
              · simp [changed, Except.map]
              · simp [changed, setProposal]
            | true =>
              refine iff_of_true ⟨.of_ok (by simp [changed, Except.map]; rfl), ?_⟩ (by simp)
              refine keepsWording_of_one hmem fun q hq => ?_
              rcases Table.mem_put.mp hq with rfl | ⟨-, hold⟩
              · exact .inl ⟨hrid, .inr hrwording⟩
              · exact .inr hold
          · rename_i heq
            refine iff_of_true ⟨.of_ok rfl, ?_⟩ (by simp [not_not.mp heq])
            exact keepsWording_of_same ⟨rfl, rfl, rfl, rfl⟩

/-! ## Invitations -/

/-- The preparation of invitations: it returns if every account is active, keeps accounts and
revision, and keeps every invitation it has inserted. -/
lemma prepareInvitations_spec (p : Proposal) (hours : Int) :
    ∀ (users : List (String × InvitationDraw)) (st : Governance),
      ((∃ e, (st.prepareInvitations S p hours users).2 = .error e) ↔
          ∃ userId ∈ users.map (·.1), st.activeAccount userId = false) ∧
        (st.prepareInvitations S p hours users).1.revision = st.revision ∧
        ∀ id ∈ st.invitations.keys, id ∈ (st.prepareInvitations S p hours users).1.invitations.keys
  | [], st => ⟨by simp [prepareInvitations], rfl, fun _ h => h⟩
  | (userId, draw) :: rest, st => by
    unfold prepareInvitations
    cases haccount : (st.accounts.find? userId).filter (·.active) with
    | none =>
      have hinactive : st.activeAccount userId = false := by simp [activeAccount, haccount]
      refine ⟨iff_of_true ⟨_, rfl⟩ ⟨userId, by simp, hinactive⟩, rfl, fun _ h => h⟩
    | some account =>
      have hactive : st.activeAccount userId = true := by simp [activeAccount, haccount]
      let i := preparedInvitation S p hours account draw
      let next : Governance := { st.setInvitation i with
        outbox := st.outbox ++ [draw.invitationId] }
      obtain ⟨herror, hrevision, hkeys⟩ := prepareInvitations_spec p hours rest next
      refine ⟨herror.trans ?_, hrevision, fun id hid => hkeys id ?_⟩
      · have hsame : ∀ u, next.activeAccount u = st.activeAccount u := fun _ => rfl
        simp [hsame, hactive]
      · obtain ⟨row, hrow, rfl⟩ := List.mem_map.mp hid
        by_cases hk : row.id = i.id
        · rw [hk]
          exact Table.mem_keys_of_mem mem_setInvitation
        · exact Table.mem_keys_of_mem (Table.mem_put.mpr (.inr ⟨hk, hrow⟩))

lemma invitations_prepare_ne (p : Proposal) (hours : Int) {userId : String}
    {draw : InvitationDraw} (rest : List (String × InvitationDraw)) (hactive : st.activeAccount userId = true)
    (hnew : draw.invitationId ∉ st.invitations.keys) :
    (st.prepareInvitations S p hours ((userId, draw) :: rest)).1.invitations ≠ st.invitations := by
  intro hsame
  refine hnew (hsame ▸ ?_)
  unfold prepareInvitations
  cases haccount : (st.accounts.find? userId).filter (·.active) with
  | none => simp [activeAccount, haccount] at hactive
  | some account =>
    refine (prepareInvitations_spec (S := S) p hours rest _).2.2 _ ?_
    exact Table.mem_keys_of_mem (mem_setInvitation (i := preparedInvitation S p hours account draw))

/-- `issue_vote_emails` leaves something behind a failure of its preparation if and only if it fails
too late. -/
lemma issueVoteEmails_clean_iff (proposalId : String) (users : List (String × InvitationDraw))
    (windowHours : Option Int) (hfresh : st.FreshDraws S (users.map (·.2))) :
    st.CleanFailure (st.issueVoteEmails S env proposalId users windowHours) ↔
      ¬ st.LateIssueFailure env proposalId (users.map (·.1)) := by
  have hearly : ∀ e : Error, st.CleanFailure ((st, .error e) : Attempt Unit) :=
    fun _ _ _ => ⟨rfl, rfl, rfl, rfl⟩
  unfold issueVoteEmails LateIssueFailure
  cases hp : st.proposals.find? proposalId with
  | none => exact iff_of_true (hearly _) (by simp)
  | some p =>
    simp only [Option.mem_def, Option.some.injEq, exists_eq_left']
    by_cases hopen : p.status = .open
    swap
    · simp only [hopen, ne_eq, not_false_eq_true, if_true, false_and]
      exact iff_of_true (hearly _) trivial
    simp only [hopen, ne_eq, not_true_eq_false, if_false, true_and]
    obtain ⟨herror, hrevision, -⟩ := prepareInvitations_spec (S := S) p
      (max 1 (min 8760 (windowHours.getD st.policy.defaultVoteWindowHours))) users st
    cases hprepared : st.prepareInvitations S p
      (max 1 (min 8760 (windowHours.getD st.policy.defaultVoteWindowHours))) users with
    | mk prepared result =>
      rw [hprepared] at herror hrevision
      cases result with
      | ok _ =>
        have hall : ∀ userId ∈ users.map (·.1), st.activeAccount userId = true := by
          intro userId hmem
          by_contra hinactive
          obtain ⟨e, he⟩ := herror.mpr ⟨userId, hmem, by simpa using hinactive⟩
          simp at he
        cases hsaved : env.saved with
        | true =>
          refine iff_of_true (.of_ok (by simp [changed]; rfl)) ?_
          rintro (⟨first, rest, heq, -, userId, hmem, hinactive⟩ | ⟨-, hfalse⟩)
          · rw [hall userId (heq ▸ List.mem_cons_of_mem _ hmem)] at hinactive
            cases hinactive
          · cases hfalse
        | false =>
          refine iff_of_false (fun h => ?_) (fun h => h (.inr ⟨hall, rfl⟩))
          refine not_clean_of_revision .osError ?_ ?_ h
          · simp [changed]
          · have hrevision : prepared.revision = st.revision := hrevision
            simp [changed, hrevision]
      | error e =>
        obtain ⟨bad, hbad, hinactive⟩ := herror.mp ⟨e, rfl⟩
        have hnotall : ¬ ∀ userId ∈ users.map (·.1), st.activeAccount userId = true :=
          fun hall => by simp [hall bad hbad] at hinactive
        simp only [hnotall, false_and, or_false]
        cases users with
        | nil => simp at hbad
        | cons user rest =>
          obtain ⟨userId, draw⟩ := user
          cases hfirst : st.activeAccount userId with
          | true =>
            have hne := invitations_prepare_ne (S := S) p
              (max 1 (min 8760 (windowHours.getD st.policy.defaultVoteWindowHours)))
              rest hfirst (hfresh.1 draw List.mem_cons_self)
            rw [hprepared] at hne
            refine iff_of_false (fun h => hne (h e rfl).2.1) fun h => h ?_
            refine ⟨userId, rest.map (·.1), rfl, hfirst, bad, ?_, hinactive⟩
            rcases List.mem_cons.mp hbad with rfl | hmem
            · simp [hfirst] at hinactive
            · exact hmem
          | false =>
            have haccount : (st.accounts.find? userId).filter (·.active) = none :=
              Option.isNone_iff_eq_none.mp (Option.isSome_eq_false_iff.mp hfirst)
            obtain ⟨rfl, -⟩ : st = prepared ∧ _ := by
              simpa [prepareInvitations, haccount] using hprepared
            refine iff_of_true (hearly e) ?_
            rintro ⟨first, rest', heq, hactive, -⟩
            obtain ⟨rfl, -⟩ := List.cons.inj heq
            simp [hfirst] at hactive

end Governance

/-- A new title and a change that is no object. -/
def malformedUpdate : List (String × Value) := [("title", .str "Loud hours"), ("change", .int 1)]

end StageForge
