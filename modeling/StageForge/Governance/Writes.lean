import StageForge.Governance.Operations

/-!
# Community governance: what the operations write

Every operation changes the state by a sequence of single writes. `Write` lists them, each with
what the operations establish before they make it; `writes_of_step` is the only result that goes
through the bodies, and an invariant of the whole system needs one case for each kind of write.
-/

namespace StageForge

open Python TransitionSystem

inductive Write (S : GovernanceSetup) (K : Prop) (st : Governance) : Governance → Prop
  | policy (policy : CommunityPolicy) (hvotes : 1 ≤ policy.minRawVotes) :
      Write S K st { st with policy := policy }
  | accounts (accounts : Table Account.id) : Write S K st { st with accounts := accounts }
  | revision : Write S K st { st with revision := st.revision + 1 }
  | outbox (outbox : List String) : Write S K st { st with outbox := outbox }
  /-- `create_proposal` inserts an open proposal under a new id. -/
  | create (p : Proposal) (hnew : p.id ∉ st.proposals.keys) (hopen : p.status = .open) :
      Write S K st (st.setProposal p)
  /-- The evidence of a proposal, or the mark that its change is applied. -/
  | annotate (p p' : Proposal) (hp : p ∈ st.proposals.rows) (hid : p'.id = p.id)
      (hstatus : p'.status = p.status) (hwording : p'.wording = p.wording) :
      Write S K st (st.setProposal p')
  /-- `update_proposal` revises a proposal that is not adopted, and does not adopt it. -/
  | revise (p p' : Proposal) (hp : p ∈ st.proposals.rows) (hid : p'.id = p.id)
      (hstatus : p'.status ≠ .adopted) : Write S K st (st.setProposal p')
  /-- `update_proposal` adopts a proposal on a binding tally. -/
  | adopt (p p' : Proposal) (now : Int) (hp : p ∈ st.proposals.rows) (hid : p'.id = p.id)
      (hready : (st.proposalTally S p now).bindingChangeReady = true)
      (hwording : K → p'.wording = p.wording) :
      Write S K st ({ st with
        ratifications := ⟨p.id, p.wording, (st.proposalTally S p now).totalRawVotes⟩ ::
          st.ratifications }.setProposal p')
  /-- `issue_vote_emails` inserts an invitation with a fresh id and a fresh token. -/
  | invite (i : Invitation) (token : String) (hnew : i.id ∉ st.invitations.keys)
      (hhash : i.tokenHash = S.sha256 token)
      (hfresh : i.tokenHash ∉ st.invitations.rows.map (·.tokenHash))
      (hstatus : i.status = .pendingSend) (hhours : 1 ≤ i.windowHours)
      (hunsent : i.sentAt = none ∧ i.expiresAt = none) :
      Write S K st (st.setInvitation i)
  /-- An invitation changes its status or its evidence; one that is sent gets its window. -/
  | progress (i i' : Invitation) (hi : i ∈ st.invitations.rows) (hid : i'.id = i.id)
      (hballot : i'.proposalId = i.proposalId ∧ i'.proposalVersion = i.proposalVersion ∧
        i'.userId = i.userId ∧ i'.tokenHash = i.tokenHash ∧ i'.windowHours = i.windowHours)
      (hsent : i'.status = .sent →
        (i.status = .sent ∧ i'.sentAt = i.sentAt ∧ i'.expiresAt = i.expiresAt) ∨
        ∃ t, i'.sentAt = some t ∧ i'.expiresAt = some (t + i.windowHours * hourMicros))
      (hother : i'.status ≠ .sent → (i'.sentAt = i.sentAt ∧ i'.expiresAt = i.expiresAt) ∧
        (i'.status = .deliveryFailed ∨ i.status = .sent ∨ i'.status = i.status)) :
      Write S K st (st.setInvitation i')
  /-- A vote under its id, which no vote has. -/
  | vote (v : Vote) (hnew : v.id ∉ st.votes.keys)
      (hid : v.id = voteId v.proposalId v.userId v.proposalVersion) :
      Write S K st (st.setVote v)
  | annotateVote (v : Vote) (evidence : PublicEvidence) (hv : v ∈ st.votes.rows) :
      Write S K st (st.setVote { v with evidence := evidence })

inductive Writes (S : GovernanceSetup) (K : Prop) (st : Governance) : Governance → Prop
  | refl : Writes S K st st
  | snoc {st' st'' : Governance} : Writes S K st st' → Write S K st' st'' → Writes S K st st''

variable {S : GovernanceSetup} {K : Prop} {st st' st'' : Governance} {env : Surroundings}

namespace Writes

lemma single (h : Write S K st st') : Writes S K st st' := .snoc .refl h

lemma trans (h : Writes S K st st') (h' : Writes S K st' st'') : Writes S K st st'' := by
  induction h' with
  | refl => exact h
  | snoc _ hw ih => exact .snoc ih hw

lemma invariant {I : Governance → Prop} (hwrite : ∀ t u, I t → Write S K t u → I u)
    (h : Writes S K st st') (h0 : I st) : I st' := by
  induction h with
  | refl => exact h0
  | snoc _ hw ih => exact hwrite _ _ ih hw

end Writes

/-! ## Policy and accounts -/

namespace Governance

lemma changed_writes (h : Writes S K st st') (saved : Bool) :
    Writes S K st (st'.changed saved).1 := h.snoc .revision

variable {data : List (String × Value)}

lemma minRawVotes_patched {C : Conversions} {policy known : CommunityPolicy}
    (h : policy.patched C data = .ok known) :
    1 ≤ known.minRawVotes := by
  simp only [CommunityPolicy.patched, bind_eq_ok] at h
  obtain ⟨_, -, _, -, n, -, _, -, _, -, _, -, hknown⟩ := h
  cases hknown
  exact le_max_left 1 n

lemma patchPolicy_writes (data : List (String × Value)) :
    Writes S K st (st.patchPolicy S env data).1 := by
  unfold patchPolicy
  cases hknown : st.policy.patched S.conversions data with
  | error e => exact .refl
  | ok known =>
    simp only
    split_ifs
    · exact changed_writes (.single (.policy known (minRawVotes_patched hknown))) _
    · exact .refl

lemma upsertAccount_writes (data : List (String × Value)) :
    Writes S K st (st.upsertAccount S env data).1 := by
  unfold upsertAccount
  simp only
  split
  · exact .refl
  · exact changed_writes (.single (.accounts _)) env.saved

lemma revokeAccountSessions_writes (accountId : String) :
    Writes S K st (st.revokeAccountSessions env accountId).1 := by
  unfold revokeAccountSessions
  cases st.accounts.find? (strip accountId) with
  | none => exact .refl
  | some account => exact changed_writes (.single (.accounts _)) _

/-! ## Proposals -/

variable {p : Proposal}

lemma mem_setProposal : p ∈ (st.setProposal p).proposals.rows := Table.mem_put.mpr (.inl rfl)

lemma publishProposal_writes (h : Writes S K st st')
    (hp : p ∈ st'.proposals.rows) : Writes S K st (st'.publishProposal S env p).1 := by
  unfold publishProposal
  split
  · exact h.snoc (.annotate p _ hp rfl rfl rfl)
  · exact h

lemma commitProposal_writes (h : Writes S K st st') (hp : p ∈ st'.proposals.rows) :
    Writes S K st (match st'.changed env.saved with
      | (st, .error e) => ((st, .error e) : Attempt Proposal)
      | (st, .ok ()) => st.publishProposal S env p).1 := by
  cases env.saved with
  | false => exact h.snoc .revision
  | true => exact publishProposal_writes (h.snoc .revision) hp

lemma createProposal_writes (draw : String) (data : List (String × Value)) :
    Writes S K st (st.createProposal S env draw data).1 := by
  unfold createProposal
  simp only
  split
  · exact .refl
  · split
    · exact .refl
    · rename_i hnew
      split
      · exact .refl
      · exact commitProposal_writes (.single (.create _ hnew rfl)) mem_setProposal

def RequestsAdoption (S : GovernanceSetup) (data : List (String × Value)) : Prop :=
  ∃ raw ∈ data.lookup "status",
    proposalStatus? (lower (strip (S.conversions.str raw))) = some .adopted

/-- What the status part of `update_proposal` makes of a proposal: it keeps everything but the
status and the reference of the ratification, and adopts on a binding tally only. -/
lemma updateStatus_spec {reference : Option String} {p restated : Proposal} {tally : Option Tally}
    (h : st.updateStatus S env reference data p = .ok (restated, tally)) :
    restated.id = p.id ∧ restated.wording = p.wording ∧ ((tally = none ∧ restated = p) ∨
        (tally = none ∧ restated.status ≠ .adopted ∧ ∃ raw ∈ data.lookup "status",
          proposalStatus? (lower (strip (S.conversions.str raw))) = some restated.status) ∨
        (RequestsAdoption S data ∧ p.status ≠ .adopted ∧ restated.status = .adopted ∧
          (st.proposalTally S p env.now).bindingChangeReady = true ∧
          tally = some (st.proposalTally S p env.now))) := by
  unfold updateStatus at h
  split at h
  · obtain ⟨rfl, rfl⟩ := Prod.mk.inj (Except.ok.inj h)
    exact ⟨rfl, rfl, .inl ⟨rfl, rfl⟩⟩
  · rename_i raw hraw
    split at h
    · cases h
    · rename_i status htext
      have hrequest : status = .adopted → RequestsAdoption S data := by
        rintro rfl
        exact ⟨raw, hraw, htext⟩
      simp only at h
      split_ifs at h with hclose hadopt hready hrequired
      · split at h
        · cases h
        · obtain ⟨rfl, rfl⟩ := Prod.mk.inj (Except.ok.inj h)
          exact ⟨rfl, rfl, .inr (.inr ⟨hrequest hadopt.1, hadopt.2, rfl, hready, rfl⟩)⟩
      · obtain ⟨rfl, rfl⟩ := Prod.mk.inj (Except.ok.inj h)
        exact ⟨rfl, rfl, .inr (.inr ⟨hrequest hadopt.1, hadopt.2, rfl, hready, rfl⟩)⟩
      · obtain ⟨rfl, rfl⟩ := Prod.mk.inj (Except.ok.inj h)
        refine ⟨rfl, rfl, ?_⟩
        by_cases hstatus : status = p.status
        · exact .inl ⟨rfl, by rw [hstatus]⟩
        · refine .inr (.inl ⟨rfl, fun hs => ?_, raw, hraw, htext⟩)
          by_cases hp : p.status = .adopted
          · exact hstatus (hs.trans hp.symm)
          · exact hadopt ⟨hs, hp⟩

lemma updateWording_spec (env : Surroundings) (data : List (String × Value)) (p : Proposal) :
    (updateWording S env data p).1.id = p.id ∧ (updateWording S env data p).1.status = p.status := by
  unfold updateWording
  split
  · exact ⟨rfl, rfl⟩
  · split
    · exact ⟨rfl, rfl⟩
    · exact ⟨rfl, rfl⟩

lemma guard_of_adopted (hguard : updateGuard S p data = .ok ()) (hp : p.status = .adopted) :
    material data = false ∧ ∀ raw ∈ data.lookup "status",
      lower (strip (S.conversions.str raw)) = "adopted" := by
  have hno : ∀ e : Error, (Except.error e : Except Error Unit) ≠ .ok () := by simp
  constructor
  · rw [← Bool.not_eq_true]
    intro hm
    simp only [updateGuard, hp, hm, true_or, and_self, if_true] at hguard
    split at hguard <;> exact hno _ hguard
  · intro raw hraw
    by_contra htext
    have hkey : hasKey data "status" = true := by simp [hasKey, Option.mem_def.mp hraw]
    simp only [updateGuard, hp, hkey, Option.mem_def.mp hraw, Option.getD_some, or_true, and_self,
      if_true, ne_eq, htext, not_false_eq_true] at hguard
    split at hguard <;> exact hno _ hguard

/-- The call asks for an adoption and names a new wording or change at the same time. -/
def AdoptsReworded (S : GovernanceSetup) (st : Governance) (proposalId : String)
    (data : List (String × Value)) : Prop :=
  material data = true ∧ RequestsAdoption S data ∧
    ∃ p ∈ st.proposals.find? proposalId, p.status ≠ .adopted

variable {proposalId : String}

lemma setUpdated_writes {reference : Option String}
    {p p' restated : Proposal} {tally : Option Tally}
    (hp : st.proposals.find? proposalId = some p) (hopen : p.status ≠ .adopted)
    (hupdate : st.updateStatus S env reference data p = .ok (restated, tally))
    (hid : p'.id = p.id) (hstatus : p'.status = restated.status)
    (hwording : material data = false → p'.wording = p.wording) :
    Writes S (¬ AdoptsReworded S st proposalId data) st ({ st with
        ratifications := (tally.map fun t : Tally =>
          Ratification.mk proposalId t.wording t.totalRawVotes).toList ++
            st.ratifications }.setProposal p') := by
  obtain ⟨hmem, hkey⟩ := Table.find?_eq_some.mp hp
  obtain ⟨-, -, ⟨rfl, hsame⟩ | ⟨rfl, hnot, -⟩ | ⟨hrequest, -, -, hready, rfl⟩⟩ :=
    updateStatus_spec hupdate
  · exact .single (.revise p p' hmem hid (by rw [hstatus, hsame]; exact hopen))
  · exact .single (.revise p p' hmem hid (by rw [hstatus]; exact hnot))
  · rw [← hkey]
    refine .single (.adopt p p' env.now hmem hid hready fun hok => hwording ?_)
    rw [← Bool.not_eq_true]
    exact fun hm => hok ⟨hm, hrequest, p, by rw [hkey]; exact hp, hopen⟩

lemma updateProposal_writes (reference : Option String) (proposalId : String)
    (data : List (String × Value)) :
    Writes S (¬ AdoptsReworded S st proposalId data) st
      (st.updateProposal S env reference proposalId data).1 := by
  unfold updateProposal
  cases hp : st.proposals.find? proposalId with
  | none => exact .refl
  | some p =>
    simp only
    cases hguard : updateGuard S p data with
    | error e => exact .refl
    | ok _ =>
      cases hupdate : st.updateStatus S env reference data p with
      | error e => exact .refl
      | ok outcome =>
        obtain ⟨restated, tally⟩ := outcome
        obtain ⟨hid, hwording, hcases⟩ := updateStatus_spec hupdate
        obtain ⟨hwid, hwstatus⟩ := updateWording_spec (S := S) env data restated
        simp only
        split
        · rename_i hmaterial
          have hopen : p.status ≠ .adopted := fun hadopted =>
            absurd hmaterial (by simp [(guard_of_adopted hguard hadopted).1])
          have hset := setUpdated_writes hp hopen hupdate (hwid.trans hid) hwstatus
            fun h => absurd hmaterial (by simp [h])
          cases hworded : updateWording S env data restated with
          | mk reworded result =>
            rw [hworded] at hset
            cases result with
            | error e => exact hset
            | ok _ => exact commitProposal_writes hset mem_setProposal
        · split
          · rename_i hchange
            have hopen : p.status ≠ .adopted := by
              intro hadopted
              rcases hcases with ⟨-, rfl⟩ | ⟨-, hnot, raw, hraw, htext⟩ | ⟨-, hopen, -⟩
              · exact hchange rfl
              · rw [(guard_of_adopted hguard hadopted).2 raw hraw] at htext
                exact hnot (Option.some.inj htext).symm
              · exact hopen hadopted
            exact changed_writes
              (setUpdated_writes hp hopen hupdate hid rfl fun _ => hwording) env.saved
          · rename_i hsame
            rcases hcases with ⟨rfl, -⟩ | ⟨rfl, -⟩ | ⟨-, hopen, hadopted, -⟩
            · exact .refl
            · exact .refl
            · exact absurd (not_not.mp hsame ▸ hadopted) hopen

/-! ## Invitations -/

variable {i : Invitation}

lemma mem_setInvitation : i ∈ (st.setInvitation i).invitations.rows := Table.mem_put.mpr (.inl rfl)

lemma freshDraws_tail {draw : InvitationDraw} {draws : List InvitationDraw}
    {outbox : List String} (h : st.FreshDraws S (draw :: draws)) (hid : i.id = draw.invitationId)
    (hhash : i.tokenHash = S.sha256 draw.token) :
    ({ st.setInvitation i with outbox := outbox } : Governance).FreshDraws S draws := by
  obtain ⟨hids, hidsNodup, hhashes, hhashesNodup⟩ := h
  rw [List.map_cons, List.nodup_cons] at hidsNodup hhashesNodup
  have hnew : i.id ∉ st.invitations.keys := hid ▸ hids draw List.mem_cons_self
  have hrows : (st.invitations.put i).rows = st.invitations.rows ++ [i] :=
    Table.rows_put_of_new hnew
  refine ⟨fun d hd hmem => ?_, hidsNodup.2, fun d hd hmem => ?_, hhashesNodup.2⟩
  · have hmem : d.invitationId ∈ (st.invitations.put i).rows.map (·.id) := hmem
    rw [hrows, List.map_append, List.mem_append, List.map_singleton, List.mem_singleton, hid]
      at hmem
    rcases hmem with hmem | heq
    · exact hids d (List.mem_cons_of_mem _ hd) hmem
    · exact hidsNodup.1 (List.mem_map.mpr ⟨d, hd, heq⟩)
  · have hmem : S.sha256 d.token ∈ (st.invitations.put i).rows.map (·.tokenHash) := hmem
    rw [hrows, List.map_append, List.mem_append, List.map_singleton, List.mem_singleton, hhash]
      at hmem
    rcases hmem with hmem | heq
    · exact hhashes d (List.mem_cons_of_mem _ hd) hmem
    · exact hhashesNodup.1 (List.mem_map.mpr ⟨d, hd, heq⟩)

lemma prepareInvitations_writes (p : Proposal) {hours : Int} (hhours : 1 ≤ hours) :
    ∀ {users : List (String × InvitationDraw)} {st : Governance},
      st.FreshDraws S (users.map (·.2)) → Writes S K st (st.prepareInvitations S p hours users).1
  | [], _, _ => .refl
  | (userId, draw) :: rest, st, h => by
    unfold prepareInvitations
    split
    · exact .refl
    · rename_i account _
      have hfresh := h.1 draw List.mem_cons_self
      have hhash := h.2.2.1 draw List.mem_cons_self
      have hinvite := Writes.single (S := S) (K := K)
        (.invite (preparedInvitation S p hours account draw) draw.token hfresh rfl hhash rfl hhours
          ⟨rfl, rfl⟩)
      refine (hinvite.snoc (.outbox _)).trans (prepareInvitations_writes p hhours ?_)
      exact freshDraws_tail h rfl rfl

lemma issueVoteEmails_writes {users : List (String × InvitationDraw)}
    {windowHours : Option Int} (h : st.FreshDraws S (users.map (·.2))) :
    Writes S K st (st.issueVoteEmails S env proposalId users windowHours).1 := by
  unfold issueVoteEmails
  cases st.proposals.find? proposalId with
  | none => exact .refl
  | some p =>
    simp only
    split
    · exact .refl
    · have hhours : 1 ≤ max 1 (min 8760 (windowHours.getD st.policy.defaultVoteWindowHours)) :=
        le_max_left _ _
      have hprepare := prepareInvitations_writes (S := S) (K := K) p hhours h
      cases hprepared : st.prepareInvitations S p _ users with
      | mk prepared result =>
        rw [hprepared] at hprepare
        cases result with
        | error e => exact hprepare.snoc (.outbox _)
        | ok _ =>
          simp only [changed]
          cases env.saved with
          | false => exact (hprepare.snoc .revision).snoc (.outbox _)
          | true => exact hprepare.snoc .revision

lemma progress_write {i i' : Invitation} (hi : i ∈ st.invitations.rows)
    (h : ∃ status evidence votedAt, i' = { i with
      status := status, evidence := evidence, votedAt := votedAt } ∧
        (status = .deliveryFailed ∨ i.status = .sent ∨ status = i.status)) :
    Write S K st (st.setInvitation i') := by
  obtain ⟨status, evidence, votedAt, rfl, hstatus⟩ := h
  refine .progress i _ hi rfl ⟨rfl, rfl, rfl, rfl, rfl⟩ (fun hs => .inl ⟨?_, rfl, rfl⟩)
    fun _ => ⟨⟨rfl, rfl⟩, hstatus⟩
  have hs : status = .sent := hs
  rcases hstatus with hfailed | hsent | hsame
  · exact absurd (hfailed.symm.trans hs) (by simp)
  · exact hsent
  · exact hsame ▸ hs

lemma publishInvitation_writes (attempt : RecordAttempt)
    (h : Writes S K st st') (hi : i ∈ st'.invitations.rows) :
    Writes S K st (st'.publishInvitation S attempt i).1 := by
  unfold publishInvitation
  split
  · exact h.snoc (progress_write hi ⟨i.status, _, i.votedAt, rfl, .inr (.inr rfl)⟩)
  · exact h

lemma deliveryFailed_writes {invitationId : String} (h : Writes S K st st') :
    Writes S K st (st'.deliveryFailed S env invitationId).1 := by
  unfold deliveryFailed
  cases hi : st'.invitations.find? invitationId with
  | none => exact h
  | some i =>
    have hmem := (Table.find?_eq_some.mp hi).1
    have hset := h.snoc (progress_write (S := S) (K := K) hmem
      ⟨.deliveryFailed, i.evidence, i.votedAt, rfl, .inl rfl⟩)
    simp only [changed]
    cases env.saved with
    | false => exact hset.snoc .revision
    | true => exact publishInvitation_writes _ (hset.snoc .revision) mem_setInvitation

lemma deliver_writes {failure : Surroundings} (accepted : Bool) (invitationId : String) :
    Writes S K st (st.deliver S env failure accepted invitationId).1 := by
  have hout : Writes S K st { st with outbox := st.outbox.erase invitationId } :=
    .single (.outbox _)
  unfold deliver
  simp only
  cases hi : st.invitations.find? invitationId with
  | none => exact hout
  | some i =>
    have hmem := (Table.find?_eq_some.mp hi).1
    simp only
    split
    · exact deliveryFailed_writes hout
    · have hsent := hout.snoc (.progress (S := S) (K := K) i { i with
          status := .sent
          sentAt := some env.now
          expiresAt := some (env.now + i.windowHours * hourMicros) }
        hmem rfl ⟨rfl, rfl, rfl, rfl, rfl⟩ (fun _ => .inr ⟨env.now, rfl, rfl⟩) (absurd rfl))
      simp only [changed]
      cases env.saved with
      | false => exact deliveryFailed_writes (hsent.snoc .revision)
      | true =>
        have hpublish := publishInvitation_writes env.publication
          (hsent.snoc .revision) mem_setInvitation
        simp only [if_true]
        split
        · rename_i hresult
          rw [hresult] at hpublish
          exact deliveryFailed_writes hpublish
        · rename_i hresult
          rw [hresult] at hpublish
          exact hpublish

/-! ## Votes -/

/-- An invitation that may vote, as `cast_vote` and `cast_account_vote` find it: it has been sent,
its window is open, and its proposal is open and still at the version of the invitation. -/
structure OpenBallot (st : Governance) (now : Int) (i : Invitation) : Prop where
  stored : i ∈ st.invitations.rows
  window : i.windowOpen now = true
  «open» : ∃ p ∈ st.proposals.find? i.proposalId, p.version = i.proposalVersion ∧ p.status = .open

lemma OpenBallot.sent {now : Int} (hballot : OpenBallot st now i) : i.status = .sent := by
  have hwindow := hballot.window
  unfold Invitation.windowOpen at hwindow
  simp only [Bool.and_eq_true, decide_eq_true_eq] at hwindow
  exact hwindow.1.1

/-- What the tests of `cast_vote` come to: they raise, possibly after the invitation was marked as
expired, or they leave the state alone and return an open ballot with the hash of the token. -/
lemma ballotOfToken_spec {token : String} {user : Option String} {allowTokenOnly : Bool}
    {result : Except Error Invitation}
    (h : st.ballotOfToken S env token user allowTokenOnly = (st', result)) :
    Writes S K st st' ∧ ∀ i, result = .ok i → st' = st ∧ OpenBallot st env.now i ∧
        st.invitations.rows.find? (·.tokenHash = S.sha256 token) = some i := by
  have hraise : ∀ e : Error, (st, (.error e : Except Error Invitation)) = (st', result) →
      Writes S K st st' ∧ ∀ i, result = .ok i → st' = st ∧ OpenBallot st env.now i ∧
        st.invitations.rows.find? (·.tokenHash = S.sha256 token) = some i := by
    intro e heq
    obtain ⟨rfl, rfl⟩ := Prod.mk.inj heq
    exact ⟨.refl, by simp⟩
  unfold ballotOfToken at h
  cases hi : st.invitations.rows.find? (·.tokenHash = S.sha256 token) with
  | none =>
    rw [hi] at h
    simpa [hi] using hraise _ h
  | some i =>
    have hmem := List.mem_of_find?_eq_some hi
    rw [hi] at h hraise
    simp only at h
    split at h
    · exact hraise _ h
    split at h
    · exact hraise _ h
    rename_i hsent
    split at h
    · exact hraise _ h
    rename_i p hp
    split at h
    · exact hraise _ h
    rename_i hversion
    split at h
    · exact hraise _ h
    rename_i hopen
    split at h
    · have hexpired := Writes.single (progress_write (S := S) (K := K) hmem
        ⟨.expired, i.evidence, i.votedAt, rfl, .inr (.inl (not_not.mp hsent))⟩)
      simp only [changed] at h
      cases henv : env.saved <;> rw [henv] at h <;> obtain ⟨rfl, rfl⟩ := Prod.mk.inj h <;>
        exact ⟨hexpired.snoc .revision, by simp⟩
    rename_i hwindow
    split at h
    · exact hraise _ h
    obtain ⟨rfl, rfl⟩ := Prod.mk.inj h
    refine ⟨.refl, fun j hj => ?_⟩
    cases hj
    exact ⟨rfl, ⟨hmem, by simpa using hwindow, p, hp, not_not.mp hversion, not_not.mp hopen⟩, rfl⟩

lemma ballotOfAccount_spec {now : Int} {proposalId accountId : String}
    (h : st.ballotOfAccount now proposalId accountId = .ok i) :
    OpenBallot st now i ∧ i.userId = accountId := by
  unfold ballotOfAccount at h
  split at h
  · cases h
  · split at h
    · cases h
    · rename_i p hp
      obtain ⟨hfind, hopen⟩ := Option.filter_eq_some_iff.mp hp
      split at h
      · cases h
      · rename_i found hfound
        obtain rfl := Except.ok.inj h
        have hmem : found ∈ (st.invitationsTo p).filter fun j =>
            j.userId = accountId ∧ j.windowOpen now := by rw [hfound]; exact List.mem_singleton_self _
        simp only [invitationsTo, List.mem_filter, decide_eq_true_eq] at hmem
        obtain ⟨⟨hstored, hproposal, hversion⟩, huser, hwindow⟩ := hmem
        refine ⟨⟨hstored, hwindow, p, ?_, hversion.symm, of_decide_eq_true hopen⟩, huser⟩
        rw [hproposal, (Table.find?_eq_some.mp hfind).2]
        exact hfind
      · cases h

lemma recordVote_writes {choice : Choice} (hballot : OpenBallot st env.now i) :
    Writes S K st (st.recordVote S env choice i).1 := by
  unfold recordVote
  simp only
  split
  · exact .refl
  · rename_i hnew
    have hvote := Writes.single (S := S) (K := K) (.vote (newVote env choice i) hnew rfl)
    have hused := (hvote.snoc (progress_write hballot.stored
      ⟨.voted, i.evidence, some env.now, rfl, .inr (.inl hballot.sent)⟩)).snoc .revision
    have hstored : newVote env choice i ∈ (st.setVote (newVote env choice i)).votes.rows :=
      Table.mem_put.mpr (.inl rfl)
    simp only [changed]
    cases env.saved with
    | false => exact hused
    | true =>
      simp only [if_true]
      split
      · exact hused.snoc (.annotateVote _ _ hstored)
      · exact hused

lemma castVote_writes (token choice : String) (user : Option String) (allowTokenOnly : Bool) :
    Writes S K st (st.castVote S env token choice user allowTokenOnly).1 := by
  unfold castVote
  cases choice? (lower (strip choice)) with
  | none => exact .refl
  | some c =>
    cases hballot : st.ballotOfToken S env token user allowTokenOnly with
    | mk st' result =>
      obtain ⟨hwrites, hspec⟩ := ballotOfToken_spec (K := K) hballot
      cases result with
      | error e => exact hwrites
      | ok i =>
        obtain ⟨rfl, hopen, -⟩ := hspec i rfl
        exact recordVote_writes hopen

lemma castAccountVote_writes (proposalId choice accountId : String) :
    Writes S K st (st.castAccountVote S env proposalId choice accountId).1 := by
  unfold castAccountVote
  cases choice? (lower (strip choice)) with
  | none => exact .refl
  | some c =>
    cases hballot : st.ballotOfAccount env.now proposalId (strip accountId) with
    | error e => exact .refl
    | ok i => exact recordVote_writes (ballotOfAccount_spec hballot).1

/-! ## Adopted changes and the public record -/

lemma markApplied_writes {change : ChangeRecord} (h : Writes S K st st') :
    Writes S K st (st'.markApplied env proposalId change).1 := by
  unfold markApplied
  cases hp : st'.proposals.find? proposalId with
  | none => exact h
  | some p =>
    have hmem := (Table.find?_eq_some.mp hp).1
    let applied := { p with appliedAt := some env.now, appliedChangeHash := some change.hash }
    exact changed_writes (h.snoc (.annotate p applied hmem rfl rfl rfl)) env.saved

lemma markChangeApplied_writes (proposalId : String) :
    Writes S K st (st.markChangeApplied env proposalId).1 := by
  unfold markChangeApplied
  cases st.adoptedChange proposalId with
  | error e => exact .refl
  | ok adopted => exact markApplied_writes .refl

lemma applyRatifiedGovernancePolicy_writes (policySaved : Bool) (proposalId : String) :
    Writes S K st (st.applyRatifiedGovernancePolicy S env policySaved proposalId).1 := by
  unfold applyRatifiedGovernancePolicy
  cases st.adoptedChange proposalId with
  | error e => exact .refl
  | ok adopted =>
    simp only
    split
    · exact .refl
    · have hpatch : Writes S K st
          (st.patchPolicy S { env with saved := policySaved } adopted.2.payload).1 :=
        patchPolicy_writes adopted.2.payload
      split
      · rename_i hresult
        rw [hresult] at hpatch
        exact hpatch
      · rename_i hresult
        rw [hresult] at hpatch
        exact markApplied_writes hpatch

lemma publishRecord_writes {attempt : RecordAttempt} (key : RecordKey) :
    Writes S K st (st.publishRecord attempt key).1 := by
  cases key with
  | proposal id =>
    simp only [publishRecord]
    cases hp : st.proposals.find? id with
    | none => exact .refl
    | some p =>
      simp only
      split
      · exact .refl
      · exact .single (.annotate p _ (Table.find?_eq_some.mp hp).1 rfl rfl rfl)
  | invitation id =>
    simp only [publishRecord]
    cases hi : st.invitations.find? id with
    | none => exact .refl
    | some i =>
      simp only
      split
      · exact .refl
      · exact .single (progress_write (Table.find?_eq_some.mp hi).1
          ⟨i.status, _, i.votedAt, rfl, .inr (.inr rfl)⟩)
  | vote id =>
    simp only [publishRecord]
    cases hv : st.votes.find? id with
    | none => exact .refl
    | some v =>
      simp only
      split
      · exact .refl
      · exact .single (.annotateVote v _ (Table.find?_eq_some.mp hv).1)

lemma publishRecords_writes {attempts : RecordKey → RecordAttempt} (keys : List RecordKey) :
    ∀ {st : Governance}, Writes S K st (st.publishRecords attempts keys).1 := by
  induction keys with
  | nil => exact .refl
  | cons key keys ih =>
    intro st
    have hone : Writes S K st (st.publishRecord (attempts key) key).1 := publishRecord_writes key
    unfold publishRecords
    split
    · rename_i hresult
      rw [hresult] at hone
      exact hone
    · rename_i hresult
      rw [hresult] at hone
      exact hone.trans ih

lemma reconcilePublicRecord_writes {attempts : RecordKey → RecordAttempt}
    (proposalId : Option String) :
    Writes S K st (st.reconcilePublicRecord S attempts proposalId).1 := by
  unfold reconcilePublicRecord
  split
  · exact .refl
  · cases proposalId with
    | none => exact publishRecords_writes _
    | some id =>
      simp only
      split
      · exact publishRecords_writes _
      · exact .refl

end Governance

/-! ## Steps -/

/-- The step does not adopt a proposal whose wording or change it replaces. -/
def AdoptsAsVoted (S : GovernanceSetup) (st : Governance) : GovernanceAction → Prop
  | .updateProposal _ _ proposalId data => ¬ Governance.AdoptsReworded S st proposalId data
  | _ => True

open Governance

/-- **Every step is a sequence of writes.** -/
lemma writes_of_step {a : GovernanceAction} (h : st.step S a = some st') :
    Writes S (AdoptsAsVoted S st a) st st' := by
  cases a with
  | patchPolicy env data =>
    obtain rfl := Option.some.inj h
    exact patchPolicy_writes data
  | upsertAccount env data =>
    obtain rfl := Option.some.inj h
    exact upsertAccount_writes data
  | revokeAccountSessions env accountId =>
    obtain rfl := Option.some.inj h
    exact revokeAccountSessions_writes accountId
  | createProposal env draw data =>
    obtain rfl := Option.some.inj h
    exact createProposal_writes draw data
  | updateProposal env reference proposalId data =>
    obtain rfl := Option.some.inj h
    exact updateProposal_writes reference proposalId data
  | issueVoteEmails env proposalId users windowHours =>
    simp only [step, Option.ite_none_right_eq_some, Option.some.injEq] at h
    obtain ⟨hfresh, rfl⟩ := h
    exact issueVoteEmails_writes hfresh
  | deliver env failure accepted invitationId =>
    simp only [step, Option.ite_none_right_eq_some, Option.some.injEq] at h
    obtain ⟨-, rfl⟩ := h
    exact deliver_writes accepted invitationId
  | castVote env token choice user allowTokenOnly =>
    obtain rfl := Option.some.inj h
    exact castVote_writes token choice user allowTokenOnly
  | castAccountVote env proposalId choice accountId =>
    obtain rfl := Option.some.inj h
    exact castAccountVote_writes proposalId choice accountId
  | markChangeApplied env proposalId =>
    obtain rfl := Option.some.inj h
    exact markChangeApplied_writes proposalId
  | applyRatifiedGovernancePolicy env policySaved proposalId =>
    obtain rfl := Option.some.inj h
    exact applyRatifiedGovernancePolicy_writes policySaved proposalId
  | reconcilePublicRecord attempts proposalId =>
    obtain rfl := Option.some.inj h
    exact reconcilePublicRecord_writes proposalId

end StageForge
