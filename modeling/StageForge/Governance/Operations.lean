import StageForge.Library.TransitionSystem
import StageForge.Governance.State

/-!
# Community governance: the operations

The methods of `CommunityGovernance` that change its state. A method may change the state and then
raise, so each body returns the state it leaves beside what it returns or raises.
-/

namespace StageForge

open Python

/-- The state a call leaves, and what it returns or raises. -/
abbrev Attempt (α : Type) := Governance × Except Error α

/-! ## Outside of a call -/

/-- How one attempt to publish a record goes: the saves before and after, the reference that the
public record returns unless it raises, and the save after a failure. -/
structure RecordAttempt where
  pendingSaved : Bool := true
  reference : Option String := none
  referenceSaved : Bool := true
  rescueSaved : Bool := true
  deriving DecidableEq

/-- What a call meets: the time, whether the save of `_changed` succeeds, and how the publication of
its record goes. -/
structure Surroundings where
  now : Int
  saved : Bool := true
  publication : RecordAttempt := {}
  deriving DecidableEq

/-- What `secrets` draws for one invitation: `secrets.token_hex(8)` with its prefix, and the
token. -/
structure InvitationDraw where
  invitationId : String
  token : String
  deriving DecidableEq

/-- `_record_proposal_version`, `_record_invitation` and `_record_vote`, on the evidence of their
record: whether it was published, or the error of a save. -/
def PublicEvidence.publish (evidence : PublicEvidence) (attempt : RecordAttempt) :
    PublicEvidence × Except Error Bool :=
  let pending := { evidence with pending := true }
  if ¬ attempt.pendingSaved then (pending, .error .osError)
  else
    match attempt.reference with
    | some ref =>
      let published : PublicEvidence := { pending := false, ref := some ref }
      if attempt.referenceSaved then (published, .ok true)
      else if attempt.rescueSaved then (published, .ok false)
      else (published, .error .osError)
    | none =>
      if attempt.rescueSaved then (pending, .ok false) else (pending, .error .osError)

/-! ## Arguments -/

section

variable (C : Conversions) (data : List (String × Value))

/-- `key in data`. -/
def hasKey (key : String) : Bool := (data.lookup key).isSome

/-- `any(key in data for key in ('title', 'description', 'scope', 'change'))`: the data makes a new
version. -/
def material : Bool := ["title", "description", "scope", "change"].any (hasKey data)

/-- `str(data.get(key, default)).strip()[:limit]`. -/
def boundedText (key default : String) (limit : ℕ) : String :=
  clip limit (strip (C.str ((data.lookup key).getD (.str default))))

/-- `int(known.get(key))`, where `known` is the policy with `data` over it. -/
def patchedInt (key : String) (current : Int) : Except Error Int := match data.lookup key with
  | none => .ok current
  | some v => C.int v

def patchedFloat (key : String) (current : Number) : Except Error Number :=
  match data.lookup key with
  | none => .ok current
  | some v => C.float v

def patchedBool (key : String) (current : Bool) : Bool := match data.lookup key with
  | none => current
  | some v => v.truthy

end

/-- The keys of the policy that a method reads or sets. -/
def policyKeys : List String :=
  ["hypeStartValue", "hypeDayOne", "hypeZeroDay", "defaultVoteWindowHours", "minRawVotes",
    "minApprovalRatio", "minDurableVoteUnits", "requireAllIssuedWindowsClosedForBinding",
    "requireAuthenticatedAccount", "urgentProvisionalMaxDays"]

/-- The policy that `patch_policy` computes. -/
def CommunityPolicy.patched (C : Conversions) (policy : CommunityPolicy)
    (data : List (String × Value)) : Except Error CommunityPolicy := do
  let hypeZeroDay ← patchedInt C data "hypeZeroDay" policy.hypeZeroDay
  let windowHours ← patchedInt C data "defaultVoteWindowHours" policy.defaultVoteWindowHours
  let minRawVotes ← patchedInt C data "minRawVotes" policy.minRawVotes
  let minApprovalRatio ← patchedFloat C data "minApprovalRatio" (.finite policy.minApprovalRatio)
  let minUnits ← patchedFloat C data "minDurableVoteUnits" policy.minDurableVoteUnits
  let urgentDays ← patchedInt C data "urgentProvisionalMaxDays" policy.urgentProvisionalMaxDays
  return {
    hypeZeroDay := max 2 (min 3650 hypeZeroDay)
    defaultVoteWindowHours := max 1 (min 8760 windowHours)
    minRawVotes := max 1 minRawVotes
    minApprovalRatio := minApprovalRatio.clamp (1 / 2) 1
    minDurableVoteUnits := minUnits.atLeast 0
    requireAllIssuedWindowsClosedForBinding :=
      patchedBool data "requireAllIssuedWindowsClosedForBinding"
        policy.requireAllIssuedWindowsClosedForBinding
    requireAuthenticatedAccount :=
      patchedBool data "requireAuthenticatedAccount" policy.requireAuthenticatedAccount
    urgentProvisionalMaxDays := max 1 (min 365 urgentDays)
    others := (data.filter fun entry => entry.1 ∉ policyKeys).foldl
      (fun others entry => others.set entry.1 entry.2) policy.others }

/-- `known != self.policy`. -/
def CommunityPolicy.differs (policy known : CommunityPolicy) : Bool :=
  decide ({ known with others := Table.empty } ≠ { policy with others := Table.empty }) ||
    !Value.same (.dict known.others.rows) (.dict policy.others.rows)

def changeRecord (S : GovernanceSetup) : Value → Except Error (Option ChangeRecord)
  | .none => .ok none
  | .dict entries =>
    let kind := boundedText S.conversions entries "kind" "" 128
    match entries.lookup "payload" with
    | some (.dict payload) =>
      if kind = "" then .error (.valueError "proposal change requires kind and object payload")
      else .ok (some { kind := kind, payload := payload, hash := S.changeHash kind payload })
    | _ => .error (.valueError "proposal change requires kind and object payload")
  | _ => .error (.valueError "proposal change must be an object")

/-- The text of a status, stripped and in lower case. -/
def proposalStatus? : String → Option ProposalStatus
  | "open" => some .open
  | "closed" => some .closed
  | "adopted" => some .adopted
  | "rejected" => some .rejected
  | "superseded" => some .superseded
  | _ => none

/-- The text of a choice, stripped and in lower case. -/
def choice? : String → Option Choice
  | "yes" => some .yes
  | "no" => some .no
  | "abstain" => some .abstain
  | _ => none

def voteId (proposalId userId : String) (version : ℕ) : String :=
  "vote-" ++ proposalId ++ "-" ++ userId ++ "-v" ++ toString version

namespace Governance

/-! ## Writes -/

def setProposal (st : Governance) (proposal : Proposal) : Governance :=
  { st with proposals := st.proposals.put proposal }

def setInvitation (st : Governance) (invitation : Invitation) : Governance :=
  { st with invitations := st.invitations.put invitation }

def setVote (st : Governance) (vote : Vote) : Governance := { st with votes := st.votes.put vote }

/-- `_changed`: a new revision, and a save that may raise. -/
def changed (st : Governance) (saved : Bool) : Attempt Unit :=
  ({ st with revision := st.revision + 1 }, if saved then .ok () else .error .osError)

/-! ## Policy and accounts -/

def patchPolicy (S : GovernanceSetup) (env : Surroundings) (data : List (String × Value))
    (st : Governance) : Attempt Unit :=
  match st.policy.patched S.conversions data with
  | .error e => (st, .error e)
  | .ok known =>
    if st.policy.differs known then { st with policy := known }.changed env.saved
    else (st, .ok ())

def upsertAccount (S : GovernanceSetup) (env : Surroundings) (data : List (String × Value))
    (st : Governance) : Attempt Account :=
  let id := boundedText S.conversions data "id" "" 128
  let email := boundedText S.conversions data "email" "" 320
  if id = "" ∨ '@' ∉ email.toList then
    (st, .error (.valueError "account id and valid email are required"))
  else
    let existing := st.accounts.find? id
    let displayName := boundedText S.conversions data "displayName"
      ((existing.map (·.displayName)).getD "") 160
    let active := patchedBool data "active" ((existing.map (·.active)).getD true)
    let generation := max 1 ((existing.map (·.authGeneration)).getD 1)
    let moved := existing.any fun old => email ≠ old.email ∨ active ≠ old.active
    let account : Account :=
      ⟨id, email, displayName, active, if moved then generation + 1 else generation⟩
    let (st, result) := { st with accounts := st.accounts.put account }.changed env.saved
    (st, result.map fun _ => account)

def revokeAccountSessions (env : Surroundings) (accountId : String) (st : Governance) :
    Attempt Unit :=
  match st.accounts.find? (strip accountId) with
  | none => (st, .error (.keyError (strip accountId)))
  | some account =>
    let account := { account with authGeneration := max 1 account.authGeneration + 1 }
    { st with accounts := st.accounts.put account }.changed env.saved

/-! ## Proposals -/

/-- The end of `create_proposal` and `update_proposal`: the version is published if a public record
is configured. -/
def publishProposal (S : GovernanceSetup) (env : Surroundings) (proposal : Proposal)
    (st : Governance) : Attempt Proposal :=
  if S.publicRecordRequired then
    let (evidence, result) := proposal.evidence.publish env.publication
    let proposal := { proposal with evidence := evidence }
    (st.setProposal proposal, result.map fun _ => proposal)
  else (st, .ok proposal)

/-- The id of a new proposal: `draw` is what `create_proposal` draws for data without one. -/
def newProposalId (S : GovernanceSetup) (draw : String) (data : List (String × Value)) : String :=
  let given := (data.lookup "id").getD .none
  clip 160 (strip (if given.truthy then S.conversions.str given else draw))

def createProposal (S : GovernanceSetup) (env : Surroundings) (draw : String)
    (data : List (String × Value)) (st : Governance) : Attempt Proposal :=
  let id := newProposalId S draw data
  let title := boundedText S.conversions data "title" "" 240
  let provisional := ((data.lookup "provisional").getD .none).truthy
  if title = "" then (st, .error (.valueError "proposal title is required"))
  else if id ∈ st.proposals.keys then (st, .error (.valueError "proposal id already exists"))
  else
    match changeRecord S ((data.lookup "change").getD .none) with
    | .error e => (st, .error e)
    | .ok change =>
      let proposal : Proposal :=
        { id := id
          title := title
          description := boundedText S.conversions data "description" "" 4000
          scope := boundedText S.conversions data "scope" "platform-change" 80
          createdAt := env.now
          provisional := provisional
          provisionalExpiresAt :=
            if provisional then some (env.now + st.policy.urgentProvisionalMaxDays * 24 * hourMicros)
            else none
          change := change }
      match (st.setProposal proposal).changed env.saved with
      | (st, .error e) => (st, .error e)
      | (st, .ok ()) => st.publishProposal S env proposal

/-- The tests of `update_proposal` on the proposal as it stands. -/
def updateGuard (S : GovernanceSetup) (proposal : Proposal) (data : List (String × Value)) :
    Except Error Unit :=
  if S.publicRecordRequired ∧ proposal.evidence.pending ∧
      (material data ∨ hasKey data "status") then
    .error (.runtimeError
      "proposal public-record evidence is pending; reconcile before further mutation")
  else if proposal.status = .adopted ∧ (material data ∨ hasKey data "status") then
    let requested := lower (strip
      (S.conversions.str ((data.lookup "status").getD (.str "adopted"))))
    if material data ∨ requested ≠ "adopted" then
      .error (.valueError "adopted proposal is immutable; supersede it with a new proposal")
    else .ok ()
  else .ok ()

/-- A voting window of the current version is open. -/
def activeWindow (st : Governance) (proposal : Proposal) (now : Int) : Bool :=
  (st.invitationsTo proposal).any fun invitation =>
    invitation.status = .sent ∧ invitation.expiresAt.any (now ≤ ·)

/-- The status part of `update_proposal`: the proposal with its new status, and the tally it was
adopted on. `reference` is what the public record answers to the ratification. -/
def updateStatus (S : GovernanceSetup) (env : Surroundings) (reference : Option String)
    (data : List (String × Value)) (proposal : Proposal) (st : Governance) :
    Except Error (Proposal × Option Tally) :=
  match data.lookup "status" with
  | none => .ok (proposal, none)
  | some raw =>
    match proposalStatus? (lower (strip (S.conversions.str raw))) with
    | none => .error (.valueError "invalid proposal status")
    | some status =>
      if status ≠ proposal.status ∧ status ∈ [.closed, .rejected, .superseded] ∧
          st.activeWindow proposal env.now then
        .error (.valueError "proposal status cannot close while emailed voting windows are active")
      else if status = .adopted ∧ proposal.status ≠ .adopted then
        let tally := st.proposalTally S proposal env.now
        if ¬ tally.bindingChangeReady then
          .error (.valueError
            ("proposal cannot be adopted until community vote is binding-ready: " ++
              "; ".intercalate tally.bindingBlockers))
        else if S.publicRecordRequired then
          match reference with
          | none => .error (.runtimeError "the public record refused the ratification")
          | some ref =>
            .ok ({ proposal with status := .adopted, ratificationRecordRef := some ref },
              some tally)
        else .ok ({ proposal with status := .adopted }, some tally)
      else .ok ({ proposal with status := status }, none)

/-- The texts that `update_proposal` assigns. -/
def assignTexts (S : GovernanceSetup) (data : List (String × Value)) (proposal : Proposal) :
    Proposal :=
  let text (key current : String) (limit : ℕ) : String :=
    if hasKey data key then boundedText S.conversions data key "" limit else current
  { proposal with
    title := text "title" proposal.title 240
    description := text "description" proposal.description 4000
    scope := text "scope" proposal.scope 80 }

/-- The wording part of `update_proposal`: the texts are assigned before the change is validated. -/
def updateWording (S : GovernanceSetup) (env : Surroundings) (data : List (String × Value))
    (proposal : Proposal) : Proposal × Except Error Unit :=
  let worded := assignTexts S data proposal
  let next (p : Proposal) : Proposal :=
    { p with version := p.version + 1, updatedAt := some env.now }
  match data.lookup "change" with
  | none => (next worded, .ok ())
  | some raw =>
    match changeRecord S raw with
    | .error e => (worded, .error e)
    | .ok change => (next { worded with change := change, appliedAt := none }, .ok ())

def updateProposal (S : GovernanceSetup) (env : Surroundings) (reference : Option String)
    (proposalId : String) (data : List (String × Value)) (st : Governance) : Attempt Proposal :=
  match st.proposals.find? proposalId with
  | none => (st, .error (.keyError proposalId))
  | some proposal =>
    match updateGuard S proposal data with
    | .error e => (st, .error e)
    | .ok () =>
      match st.updateStatus S env reference data proposal with
      | .error e => (st, .error e)
      | .ok (restated, tally) =>
        let st := { st with
          ratifications := (tally.map fun t =>
            Ratification.mk proposalId t.wording t.totalRawVotes).toList ++ st.ratifications }
        if material data then
          match updateWording S env data restated with
          | (reworded, .error e) => (st.setProposal reworded, .error e)
          | (reworded, .ok ()) =>
            match (st.setProposal reworded).changed env.saved with
            | (st, .error e) => (st, .error e)
            | (st, .ok ()) => st.publishProposal S env reworded
        else if restated.status ≠ proposal.status then
          let (st, result) := (st.setProposal restated).changed env.saved
          (st, result.map fun _ => restated)
        else (st, .ok proposal)

/-! ## Invitations -/

def preparedInvitation (S : GovernanceSetup) (proposal : Proposal) (hours : Int) (account : Account)
    (draw : InvitationDraw) : Invitation :=
  { id := draw.invitationId
    proposalId := proposal.id
    proposalVersion := proposal.version
    userId := account.id
    windowHours := hours
    tokenHash := S.sha256 draw.token }

/-- The loop of `issue_vote_emails` that prepares the invitations: it inserts each one as soon as
its account is found. -/
def prepareInvitations (S : GovernanceSetup) (proposal : Proposal) (hours : Int) :
    List (String × InvitationDraw) → Governance → Attempt Unit
  | [], st => (st, .ok ())
  | (userId, draw) :: rest, st =>
    match (st.accounts.find? userId).filter (·.active) with
    | none => (st, .error (.valueError s!"active user account not found: {userId}"))
    | some account =>
      let invitation := preparedInvitation S proposal hours account draw
      prepareInvitations S proposal hours rest
        { st.setInvitation invitation with outbox := st.outbox ++ [draw.invitationId] }

/-- `issue_vote_emails` up to the end of its first section under the lock. Only what this section
completes is sent. -/
def issueVoteEmails (S : GovernanceSetup) (env : Surroundings) (proposalId : String)
    (users : List (String × InvitationDraw)) (windowHours : Option Int) (st : Governance) :
    Attempt Unit :=
  match st.proposals.find? proposalId with
  | none => (st, .error (.keyError proposalId))
  | some proposal =>
    if proposal.status ≠ .open then
      (st, .error (.valueError "proposal is not open for voting"))
    else
      let hours := max 1 (min 8760 (windowHours.getD st.policy.defaultVoteWindowHours))
      match st.prepareInvitations S proposal hours users with
      | (prepared, .error e) => ({ prepared with outbox := st.outbox }, .error e)
      | (prepared, .ok ()) =>
        match prepared.changed env.saved with
        | (prepared, .error e) => ({ prepared with outbox := st.outbox }, .error e)
        | (prepared, .ok ()) => (prepared, .ok ())

/-- `_record_invitation` within the sending of an invitation. -/
def publishInvitation (S : GovernanceSetup) (attempt : RecordAttempt) (invitation : Invitation)
    (st : Governance) : Attempt Unit :=
  if S.publicRecordRequired then
    let (evidence, result) := invitation.evidence.publish attempt
    (st.setInvitation { invitation with evidence := evidence }, result.map fun _ => ())
  else (st, .ok ())

/-- The sending of an invitation failed, or what follows a sending did. -/
def deliveryFailed (S : GovernanceSetup) (env : Surroundings) (invitationId : String)
    (st : Governance) : Attempt Unit :=
  match st.invitations.find? invitationId with
  | none => (st, .error (.keyError invitationId))
  | some current =>
    let failed := { current with status := .deliveryFailed }
    match (st.setInvitation failed).changed env.saved with
    | (st, .error e) => (st, .error e)
    | (st, .ok ()) => st.publishInvitation S env.publication failed

/-- One turn of the second loop of `issue_vote_emails`: the mail is accepted or not, the invitation
is marked as sent, and any exception on the way marks it as failed. `failure` is what the handler
of the exception meets. -/
def deliver (S : GovernanceSetup) (env failure : Surroundings) (accepted : Bool)
    (invitationId : String) (st : Governance) : Attempt Unit :=
  let st := { st with outbox := st.outbox.erase invitationId }
  match st.invitations.find? invitationId with
  | none => (st, .error (.keyError invitationId))
  | some current =>
    if ¬ accepted then st.deliveryFailed S failure invitationId
    else
      let sent := { current with
        status := .sent
        sentAt := some env.now
        expiresAt := some (env.now + current.windowHours * hourMicros) }
      match (st.setInvitation sent).changed env.saved with
      | (st, .error _) => st.deliveryFailed S failure invitationId
      | (st, .ok ()) =>
        match st.publishInvitation S env.publication sent with
        | (st, .error _) => st.deliveryFailed S failure invitationId
        | (st, .ok ()) => (st, .ok ())

/-! ## Votes -/

/-- The tests of `cast_vote` before the id of the vote: the invitation that may vote. -/
def ballotOfToken (S : GovernanceSetup) (env : Surroundings) (token : String)
    (authenticatedUserId : Option String) (allowTokenOnly : Bool) (st : Governance) :
    Attempt Invitation :=
  match st.invitations.rows.find? (·.tokenHash = S.sha256 token) with
  | none => (st, .error (.permissionError "invalid vote credential"))
  | some invitation =>
    if invitation.status = .voted then
      (st, .error (.permissionError "vote credential has already been used"))
    else if invitation.status ≠ .sent then
      (st, .error (.permissionError "vote invitation is not active"))
    else
      match st.proposals.find? invitation.proposalId with
      | none =>
        (st, .error (.permissionError "proposal version changed after this email was issued"))
      | some proposal =>
        if proposal.version ≠ invitation.proposalVersion then
          (st, .error (.permissionError "proposal version changed after this email was issued"))
        else if proposal.status ≠ .open then
          (st, .error (.permissionError "proposal is no longer open"))
        else if ¬ invitation.windowOpen env.now then
          match (st.setInvitation { invitation with status := .expired }).changed env.saved with
          | (st, .error e) => (st, .error e)
          | (st, .ok ()) => (st, .error (.permissionError "voting window has expired"))
        else if st.policy.requireAuthenticatedAccount ∧ ¬ allowTokenOnly ∧
            authenticatedUserId ≠ some invitation.userId then
          (st, .error (.permissionError
            "authenticated user account does not match the emailed invitation"))
        else (st, .ok invitation)

/-- The tests of `cast_account_vote` before the id of the vote. -/
def ballotOfAccount (now : Int) (proposalId accountId : String) (st : Governance) :
    Except Error Invitation :=
  match (st.accounts.find? accountId).filter (·.active) with
  | none => .error (.permissionError "active community account not found")
  | some _ =>
    match (st.proposals.find? proposalId).filter (·.status = .open) with
    | none => .error (.permissionError "proposal is not open")
    | some proposal =>
      match (st.invitationsTo proposal).filter fun invitation =>
        invitation.userId = accountId ∧ invitation.windowOpen now with
      | [] => .error (.permissionError
          "no active voting invitation exists for this account and proposal version")
      | [invitation] => .ok invitation
      | _ => .error (.permissionError
          "multiple active voting invitations exist for this account and proposal version")

def newVote (env : Surroundings) (choice : Choice) (invitation : Invitation) : Vote :=
  { id := voteId invitation.proposalId invitation.userId invitation.proposalVersion
    proposalId := invitation.proposalId
    proposalVersion := invitation.proposalVersion
    invitationId := invitation.id
    userId := invitation.userId
    choice := choice
    castAt := env.now }

/-- The end of `cast_vote` and `cast_account_vote`: the vote under its id. -/
def recordVote (S : GovernanceSetup) (env : Surroundings) (choice : Choice)
    (invitation : Invitation) (st : Governance) : Attempt Vote :=
  let vote := newVote env choice invitation
  if vote.id ∈ st.votes.keys then
    (st, .error (.permissionError "this account already voted on this proposal version"))
  else
    let used := { invitation with status := .voted, votedAt := some env.now }
    match ((st.setVote vote).setInvitation used).changed env.saved with
    | (st, .error e) => (st, .error e)
    | (st, .ok ()) =>
      if S.publicRecordRequired then
        let (evidence, result) := vote.evidence.publish env.publication
        let vote := { vote with evidence := evidence }
        (st.setVote vote, result.map fun _ => vote)
      else (st, .ok vote)

def castVote (S : GovernanceSetup) (env : Surroundings) (token choice : String)
    (authenticatedUserId : Option String) (allowTokenOnly : Bool) (st : Governance) :
    Attempt Vote :=
  match choice? (lower (strip choice)) with
  | none => (st, .error (.valueError "choice must be yes, no, or abstain"))
  | some choice =>
    match st.ballotOfToken S env token authenticatedUserId allowTokenOnly with
    | (st, .error e) => (st, .error e)
    | (st, .ok invitation) => st.recordVote S env choice invitation

def castAccountVote (S : GovernanceSetup) (env : Surroundings) (proposalId choice accountId : String)
    (st : Governance) : Attempt Vote :=
  match choice? (lower (strip choice)) with
  | none => (st, .error (.valueError "choice must be yes, no, or abstain"))
  | some choice =>
    match st.ballotOfAccount env.now proposalId (strip accountId) with
    | .error e => (st, .error e)
    | .ok invitation => st.recordVote S env choice invitation

/-! ## Adopted changes -/

/-- `adopted_change`: the version and the change. -/
def adoptedChange (proposalId : String) (st : Governance) : Except Error (ℕ × ChangeRecord) :=
  match st.proposals.find? proposalId with
  | none => .error (.keyError proposalId)
  | some proposal =>
    if proposal.status ≠ .adopted then .error (.valueError "proposal is not adopted")
    else if proposal.appliedAt.isSome then
      .error (.valueError "proposal change has already been applied")
    else
      match proposal.change with
      | none => .error (.valueError "proposal has no executable change payload")
      | some change => .ok (proposal.version, change)

/-- `mark_change_applied`, once `adopted_change` has returned the change. -/
def markApplied (env : Surroundings) (proposalId : String) (change : ChangeRecord)
    (st : Governance) : Attempt Unit :=
  match st.proposals.find? proposalId with
  | none => (st, .error (.keyError proposalId))
  | some proposal =>
    (st.setProposal { proposal with
      appliedAt := some env.now, appliedChangeHash := some change.hash }).changed env.saved

def markChangeApplied (env : Surroundings) (proposalId : String) (st : Governance) : Attempt Unit :=
  match st.adoptedChange proposalId with
  | .error e => (st, .error e)
  | .ok (_, change) => st.markApplied env proposalId change

/-- `apply_ratified_governance_policy`. `policySaved` says whether the save of `patch_policy`
succeeds. -/
def applyRatifiedGovernancePolicy (S : GovernanceSetup) (env : Surroundings) (policySaved : Bool)
    (proposalId : String) (st : Governance) : Attempt Unit :=
  match st.adoptedChange proposalId with
  | .error e => (st, .error e)
  | .ok (_, change) =>
    if change.kind ≠ "community-governance-policy" then
      (st, .error (.valueError "proposal does not contain a community-governance-policy change"))
    else
      match st.patchPolicy S { env with saved := policySaved } change.payload with
      | (st, .error e) => (st, .error e)
      | (st, .ok ()) => st.markApplied env proposalId change

/-! ## The public record -/

end Governance

/-- A record that `reconcile_public_record` may publish. -/
inductive RecordKey
  | proposal (id : String)
  | invitation (id : String)
  | vote (id : String)
  deriving DecidableEq

namespace Governance

/-- The records that `reconcile_public_record` visits, in its order: each chosen proposal, and the
invitations and votes of its current version. -/
def reconciled (st : Governance) (proposalId : Option String) : List RecordKey :=
  let chosen := st.proposals.rows.filter fun p => proposalId.all (p.id = ·)
  chosen.flatMap fun p =>
    [.proposal p.id] ++ (st.invitationsTo p).map (.invitation ·.id) ++
      (st.votesOn p).map (.vote ·.id)

/-- One visit of `reconcile_public_record`: the record is published if its evidence is missing. -/
def publishRecord (st : Governance) (attempt : RecordAttempt) : RecordKey → Attempt Unit
  | .proposal id =>
    match st.proposals.find? id with
    | none => (st, .ok ())
    | some p =>
      if ¬ p.evidence.missing then (st, .ok ())
      else
        let (evidence, result) := p.evidence.publish attempt
        (st.setProposal { p with evidence := evidence }, result.map fun _ => ())
  | .invitation id =>
    match st.invitations.find? id with
    | none => (st, .ok ())
    | some i =>
      if ¬ i.evidence.missing then (st, .ok ())
      else
        let (evidence, result) := i.evidence.publish attempt
        (st.setInvitation { i with evidence := evidence }, result.map fun _ => ())
  | .vote id =>
    match st.votes.find? id with
    | none => (st, .ok ())
    | some v =>
      if ¬ v.evidence.missing then (st, .ok ())
      else
        let (evidence, result) := v.evidence.publish attempt
        (st.setVote { v with evidence := evidence }, result.map fun _ => ())

/-- The visits of `reconcile_public_record` up to the first that raises. -/
def publishRecords (attempts : RecordKey → RecordAttempt) : List RecordKey → Governance →
    Attempt Unit
  | [], st => (st, .ok ())
  | key :: keys, st =>
    match st.publishRecord (attempts key) key with
    | (st, .error e) => (st, .error e)
    | (st, .ok ()) => publishRecords attempts keys st

def reconcilePublicRecord (S : GovernanceSetup) (attempts : RecordKey → RecordAttempt)
    (proposalId : Option String) (st : Governance) : Attempt Unit :=
  if ¬ S.publicRecordRequired then (st, .ok ())
  else
    match proposalId with
    | some id =>
      if id ∈ st.proposals.keys then publishRecords attempts (st.reconciled (some id)) st
      else (st, .error (.keyError id))
    | none => publishRecords attempts (st.reconciled none) st

end Governance

/-! ## Steps -/

/-- A call of a method that changes the state, with what it meets outside. -/
inductive GovernanceAction
  | patchPolicy (env : Surroundings) (data : List (String × Value))
  | upsertAccount (env : Surroundings) (data : List (String × Value))
  | revokeAccountSessions (env : Surroundings) (accountId : String)
  | createProposal (env : Surroundings) (draw : String) (data : List (String × Value))
  | updateProposal (env : Surroundings) (reference : Option String) (proposalId : String)
      (data : List (String × Value))
  | issueVoteEmails (env : Surroundings) (proposalId : String)
      (users : List (String × InvitationDraw)) (windowHours : Option Int)
  | deliver (env failure : Surroundings) (accepted : Bool) (invitationId : String)
  | castVote (env : Surroundings) (token choice : String) (authenticatedUserId : Option String)
      (allowTokenOnly : Bool)
  | castAccountVote (env : Surroundings) (proposalId choice accountId : String)
  | markChangeApplied (env : Surroundings) (proposalId : String)
  | applyRatifiedGovernancePolicy (env : Surroundings) (policySaved : Bool) (proposalId : String)
  | reconcilePublicRecord (attempts : RecordKey → RecordAttempt) (proposalId : Option String)

namespace Governance

/-- What `secrets` draws is not in use: no invitation has one of the ids or one of the tokens, and
the draws differ. -/
def FreshDraws (S : GovernanceSetup) (st : Governance) (draws : List InvitationDraw) : Prop :=
  (∀ draw ∈ draws, draw.invitationId ∉ st.invitations.keys) ∧
  (draws.map (·.invitationId)).Nodup ∧
  (∀ draw ∈ draws, S.sha256 draw.token ∉ st.invitations.rows.map (·.tokenHash)) ∧
  (draws.map fun draw => S.sha256 draw.token).Nodup

instance (S : GovernanceSetup) (st : Governance) (draws : List InvitationDraw) :
    Decidable (st.FreshDraws S draws) := by
  unfold FreshDraws
  infer_instance

def step (S : GovernanceSetup) (st : Governance) : GovernanceAction → Option Governance
  | .patchPolicy env data => some (st.patchPolicy S env data).1
  | .upsertAccount env data => some (st.upsertAccount S env data).1
  | .revokeAccountSessions env accountId => some (st.revokeAccountSessions env accountId).1
  | .createProposal env draw data => some (st.createProposal S env draw data).1
  | .updateProposal env reference proposalId data =>
    some (st.updateProposal S env reference proposalId data).1
  | .issueVoteEmails env proposalId users windowHours =>
    if st.FreshDraws S (users.map (·.2)) then
      some (st.issueVoteEmails S env proposalId users windowHours).1
    else none
  | .deliver env failure accepted invitationId =>
    if invitationId ∈ st.outbox then some (st.deliver S env failure accepted invitationId).1
    else none
  | .castVote env token choice user allowTokenOnly =>
    some (st.castVote S env token choice user allowTokenOnly).1
  | .castAccountVote env proposalId choice accountId =>
    some (st.castAccountVote S env proposalId choice accountId).1
  | .markChangeApplied env proposalId => some (st.markChangeApplied env proposalId).1
  | .applyRatifiedGovernancePolicy env policySaved proposalId =>
    some (st.applyRatifiedGovernancePolicy S env policySaved proposalId).1
  | .reconcilePublicRecord attempts proposalId =>
    some (st.reconcilePublicRecord S attempts proposalId).1

end Governance

end StageForge
