import StageForge.Library.Table
import StageForge.Library.PythonValue

/-!
# Community governance: the state

The data of `CommunityGovernance` in `backend/community_governance.py`, and what is computed from it
without changing it: the hype of a proposal and the tally of its votes.

Times are integers, in microseconds as a `datetime` has them; ratios and vote units are exact. The
records are kept under their ids in insertion order; a table cannot hold two records of one id. A governance state
read back from its file is a state that was saved, so a restart adds no state of its own.
-/

namespace StageForge

open Python

/-! ## Records -/

/-- What lies outside: how JSON values convert, SHA-256 of a text, the hash of a change record, and
whether a public record is configured. -/
structure GovernanceSetup where
  conversions : Conversions
  sha256 : String → String
  changeHash : String → List (String × Value) → String
  publicRecordRequired : Bool := false

/-- The policy. `hypeStartValue` and `hypeDayOne` are constants; keys that no method reads are in
`others`. -/
structure CommunityPolicy where
  hypeZeroDay : Int := 365
  defaultVoteWindowHours : Int := 168
  minRawVotes : Int := 3
  minApprovalRatio : ℚ := 3 / 5
  minDurableVoteUnits : Number := .finite 3
  requireAllIssuedWindowsClosedForBinding : Bool := true
  requireAuthenticatedAccount : Bool := true
  urgentProvisionalMaxDays : Int := 30
  others : Dict String Value := Table.empty
  deriving DecidableEq

structure Account where
  id : String
  email : String
  displayName : String
  active : Bool
  authGeneration : Int := 1
  deriving DecidableEq

/-- The evidence of a record in the public record: `publicRecordPending`, `publicRecordRef`. -/
structure PublicEvidence where
  pending : Bool := false
  ref : Option String := none
  deriving DecidableEq

/-- The record is not in the public record yet. -/
def PublicEvidence.missing (evidence : PublicEvidence) : Bool :=
  evidence.pending || evidence.ref.all (· = "")

/-- What `_change_record` makes of a change. -/
structure ChangeRecord where
  kind : String
  payload : List (String × Value)
  hash : String
  deriving DecidableEq

inductive ProposalStatus
  | «open»
  | closed
  | adopted
  | rejected
  | superseded
  deriving DecidableEq

structure Proposal where
  id : String
  version : ℕ := 1
  title : String
  description : String
  scope : String
  createdAt : Int
  status : ProposalStatus := .open
  provisional : Bool := false
  provisionalExpiresAt : Option Int := none
  change : Option ChangeRecord := none
  appliedAt : Option Int := none
  appliedChangeHash : Option String := none
  updatedAt : Option Int := none
  evidence : PublicEvidence := {}
  ratificationRecordRef : Option String := none
  deriving DecidableEq

inductive InvitationStatus
  | pendingSend
  | sent
  | deliveryFailed
  | voted
  | expired
  deriving DecidableEq

structure Invitation where
  id : String
  proposalId : String
  proposalVersion : ℕ
  userId : String
  status : InvitationStatus := .pendingSend
  windowHours : Int
  sentAt : Option Int := none
  expiresAt : Option Int := none
  tokenHash : String
  votedAt : Option Int := none
  evidence : PublicEvidence := {}
  deriving DecidableEq

inductive Choice
  | yes
  | no
  | abstain
  deriving DecidableEq

structure Vote where
  id : String
  proposalId : String
  proposalVersion : ℕ
  invitationId : String
  userId : String
  choice : Choice
  castAt : Int
  evidence : PublicEvidence := {}
  deriving DecidableEq

/-- What voters were asked about: the wording, the change and the version of a proposal. -/
structure Wording where
  title : String
  description : String
  scope : String
  change : Option ChangeRecord
  version : ℕ
  deriving DecidableEq

def Proposal.wording (p : Proposal) : Wording :=
  ⟨p.title, p.description, p.scope, p.change, p.version⟩

/-- History: a tally that was binding-ready when `update_proposal` asked for it in order to adopt the
proposal, with the wording it judged and the number of votes on it. -/
structure Ratification where
  proposalId : String
  wording : Wording
  totalRawVotes : ℕ
  deriving DecidableEq

/-- The state of `CommunityGovernance`. `outbox` holds the invitations that `issue_vote_emails` has
prepared and not yet sent; `ratifications` is a history variable. -/
structure Governance where
  policy : CommunityPolicy := {}
  accounts : Table Account.id := .empty
  proposals : Table Proposal.id := .empty
  invitations : Table Invitation.id := .empty
  votes : Table Vote.id := .empty
  revision : ℕ := 1
  outbox : List String := []
  ratifications : List Ratification := []
  deriving DecidableEq

/-! ## Hype and tally -/

def dayMicros : ℚ := 86400000000

def hourMicros : Int := 3600000000

def hypeValue (createdAt now zeroDay : Int) : ℚ :=
  let elapsedDays := max 0 ((now - createdAt : Int) / dayMicros)
  if elapsedDays ≤ 1 then 1
  else
    let span := max 1 ((zeroDay - 1 : Int) : ℚ)
    Python.round (max 0 (min 1 (1 - (elapsedDays - 1) / span))) 9

/-- What `proposal_tally` reports. -/
structure Tally where
  wording : Wording
  rawVotes : Choice → ℕ
  totalRawVotes : ℕ
  approvalRatio : ℚ
  totalDurableVoteUnits : ℚ
  activeVotingWindows : ℕ
  allIssuedWindowsClosed : Bool
  bindingBlockers : List String

def Tally.bindingChangeReady (tally : Tally) : Bool := tally.bindingBlockers.isEmpty

def Invitation.windowOpen (invitation : Invitation) (now : Int) : Bool :=
  decide (invitation.status = .sent) &&
    invitation.sentAt.any (· ≤ now) && invitation.expiresAt.any (now ≤ ·)

/-- The invitation is used up, or its window is over. -/
def Invitation.closed (invitation : Invitation) (now : Int) : Bool :=
  decide (invitation.status = .voted ∨ invitation.status = .expired) ||
    invitation.expiresAt.any (· < now)

namespace Governance

/-- The votes on the current version of a proposal. -/
def votesOn (st : Governance) (proposal : Proposal) : List Vote := st.votes.rows.filter fun vote =>
    vote.proposalId = proposal.id ∧ vote.proposalVersion = proposal.version

/-- The invitations to vote on the current version of a proposal. -/
def invitationsTo (st : Governance) (proposal : Proposal) : List Invitation :=
  st.invitations.rows.filter fun invitation =>
    invitation.proposalId = proposal.id ∧ invitation.proposalVersion = proposal.version

def proposalTally (S : GovernanceSetup) (st : Governance) (proposal : Proposal) (now : Int) : Tally :=
  let votes := st.votesOn proposal
  let invitations := st.invitationsTo proposal
  let raw (choice : Choice) : ℕ := (votes.filter (·.choice = choice)).length
  let hype := hypeValue proposal.createdAt now st.policy.hypeZeroDay
  let durable := Python.round (1 - hype) 9
  let units (choice : Choice) : ℚ := Python.round (raw choice * durable) 6
  let decisive := raw .yes + raw .no
  let approvalRatio : ℚ := if decisive = 0 then 0 else raw .yes / decisive
  let totalDurable := Python.round (units .yes + units .no + units .abstain) 6
  let activeWindows := (invitations.filter (·.windowOpen now)).length
  let allClosed := !invitations.isEmpty && activeWindows = 0 && invitations.all (·.closed now)
  let blockers := (if S.publicRecordRequired then
      (if proposal.evidence.missing then
        ["proposal version is missing Public Record evidence"] else []) ++
      (if invitations.any (·.evidence.missing) then
        ["one or more vote invitations are missing Public Record evidence"] else []) ++
      (if votes.any (·.evidence.missing) then
        ["one or more ballots are missing Public Record evidence"] else [])
    else []) ++
    (if (votes.length : Int) < st.policy.minRawVotes then
      ["raw participation minimum not reached"] else []) ++
    (if decisive = 0 ∨ approvalRatio < st.policy.minApprovalRatio then
      ["approval ratio minimum not reached"] else []) ++
    (if st.policy.minDurableVoteUnits.above totalDurable then
      ["durable vote-unit minimum not reached while proposal hype remains"] else []) ++
    (if st.policy.requireAllIssuedWindowsClosedForBinding ∧ ¬ allClosed then
      ["issued voting windows are still open"] else [])
  { wording := proposal.wording
    rawVotes := raw
    totalRawVotes := votes.length
    approvalRatio := approvalRatio
    totalDurableVoteUnits := totalDurable
    activeVotingWindows := activeWindows
    allIssuedWindowsClosed := allClosed
    bindingBlockers := blockers }

lemma minRawVotes_le_of_ready {S : GovernanceSetup} {st : Governance} {proposal : Proposal}
    {now : Int} (h : (st.proposalTally S proposal now).bindingChangeReady = true) :
    st.policy.minRawVotes ≤ (st.proposalTally S proposal now).totalRawVotes := by
  by_contra hfew
  have hfew : ((st.votesOn proposal).length : Int) < st.policy.minRawVotes := not_le.mp hfew
  simp [Tally.bindingChangeReady, proposalTally, hfew] at h

end Governance

end StageForge
