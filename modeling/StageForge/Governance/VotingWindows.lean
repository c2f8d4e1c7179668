import StageForge.Governance.Durability
import StageForge.Governance.Votes

/-!
# Voting windows that never opened

An invitation gets its voting window when its mail is sent. `proposal_tally` wants the end of every window to be
past, and an invitation without a window has no end that could be.
-/

namespace StageForge

open Python TransitionSystem

variable {S : GovernanceSetup} {st st' : Governance} {p : Proposal} {now : Int}

/-- The mail of the invitation was sent, so that it has a window. -/
def Invitation.wasSent (i : Invitation) : Bool := i.sentAt.isSome

/-- The invitation was voted on, or its window is over. -/
def Invitation.settled (i : Invitation) (now : Int) : Bool :=
  decide (i.status = .voted) || i.expiresAt.any (· < now)

structure Windowed (i : Invitation) : Prop where
  both : i.sentAt.isSome = i.expiresAt.isSome
  used : i.status = .sent ∨ i.status = .voted ∨ i.status = .expired → i.sentAt.isSome = true

namespace Windowed

variable {i i' : Invitation}

lemma of_invite (hstatus : i.status = .pendingSend) (hunsent : i.sentAt = none ∧ i.expiresAt = none) :
    Windowed i where
  both := by rw [hunsent.1, hunsent.2]
  used := by simp [hstatus]

lemma of_progress (h : Windowed i)
    (hsent : i'.status = .sent → (i.status = .sent ∧ i'.sentAt = i.sentAt ∧ i'.expiresAt = i.expiresAt) ∨
      ∃ t, i'.sentAt = some t ∧ i'.expiresAt = some (t + i.windowHours * hourMicros))
    (hother : i'.status ≠ .sent → (i'.sentAt = i.sentAt ∧ i'.expiresAt = i.expiresAt) ∧
      (i'.status = .deliveryFailed ∨ i.status = .sent ∨ i'.status = i.status)) :
    Windowed i' := by
  by_cases hs : i'.status = .sent
  · rcases hsent hs with ⟨hold, hsentAt, hexpiresAt⟩ | ⟨t, hsentAt, hexpiresAt⟩
    · constructor
      · rw [hsentAt, hexpiresAt, h.both]
      · intro _
        rw [hsentAt]
        exact h.used (.inl hold)
    · constructor
      · rw [hsentAt, hexpiresAt]
        rfl
      · intro _
        rw [hsentAt]
        rfl
  · obtain ⟨⟨hsentAt, hexpiresAt⟩, hstatus⟩ := hother hs
    constructor
    · rw [hsentAt, hexpiresAt, h.both]
    · intro hused
      rw [hsentAt]
      rcases hstatus with hfailed | hold | hsame
      · simp [hfailed] at hused
      · exact h.used (.inl hold)
      · exact h.used (hsame ▸ hused)

end Windowed

def Governance.AllWindowed (st : Governance) : Prop := ∀ i ∈ st.invitations.rows, Windowed i

/-- **The write lemma.** -/
lemma allWindowed_write {K : Prop} (hinv : st.AllWindowed) (hw : Write S K st st') : st'.AllWindowed := by
  cases hw with
  | policy | accounts | revision | outbox | create | annotate | revise | adopt | vote | annotateVote =>
    exact hinv
  | invite i token hnew hhash hfresh hstatus hhours hunsent =>
    intro j hj
    rcases Table.mem_put.mp hj with rfl | ⟨-, hold⟩
    · exact .of_invite hstatus hunsent
    · exact hinv j hold
  | progress i i' hi hid hballot hsent hother =>
    intro j hj
    rcases Table.mem_put.mp hj with rfl | ⟨-, hold⟩
    · exact (hinv i hi).of_progress hsent hother
    · exact hinv j hold

lemma windowed_of_reaches {as : List GovernanceAction}
    (h : Reaches (Governance.step S) Always {} as st) : st.AllWindowed := by
  have hstart : Governance.AllWindowed {} := by
    intro i hi
    simp [Table.empty] at hi
  exact h.invariant hstart fun t a u hinv _ hs =>
    (writes_of_step hs).invariant (fun _ _ => allWindowed_write) hinv

lemma wasSent_of_closed {i : Invitation} (h : Windowed i) (hclosed : i.closed now = true) : i.wasSent = true := by
  rcases Bool.or_eq_true_iff.mp hclosed with hused | hover
  · exact h.used (.inr (of_decide_eq_true hused))
  · obtain ⟨expiresAt, hexpires, -⟩ := (Option.any_eq_true _ _).mp hover
    unfold Invitation.wasSent
    rw [h.both, hexpires]
    rfl

lemma closed_of_settled {i : Invitation} (h : i.settled now = true) : i.closed now = true := by
  rcases Bool.or_eq_true_iff.mp h with hvoted | hover
  · exact Bool.or_eq_true_iff.mpr (.inl (decide_eq_true (.inl (of_decide_eq_true hvoted))))
  · exact Bool.or_eq_true_iff.mpr (.inr hover)

lemma closed_iff_of_allWindowed (hinv : st.AllWindowed) (hsome : ∃ i ∈ st.invitationsTo p, i.wasSent = true)
    (hover : ∀ i ∈ st.invitationsTo p, i.wasSent = true → i.settled now = true) :
    (st.proposalTally S p now).allIssuedWindowsClosed = true ↔ ∀ i ∈ st.invitationsTo p, i.wasSent = true := by
  rw [Governance.allIssuedWindowsClosed_iff]
  constructor
  · rintro ⟨-, hclosed⟩ i hi
    exact wasSent_of_closed (hinv i (List.mem_filter.mp hi).1) (hclosed i hi)
  · intro hall
    obtain ⟨i, hi, -⟩ := hsome
    exact ⟨List.ne_nil_of_mem hi, fun j hj => closed_of_settled (hover j hj (hall j hj))⟩

/-- **When all windows count as closed.** In every reachable state in which at least one invitation to the proposal
was sent, and each one that was sent is voted on or over, all windows count as closed exactly if every invitation
was sent. -/
theorem windows_closed_iff_all_sent {as : List GovernanceAction}
    (h : Reaches (Governance.step S) Always {} as st) (p : Proposal) (now : Int)
    (hsome : ∃ i ∈ st.invitationsTo p, i.wasSent = true)
    (hover : ∀ i ∈ st.invitationsTo p, i.wasSent = true → i.settled now = true) :
    (st.proposalTally S p now).allIssuedWindowsClosed = true ↔ ∀ i ∈ st.invitationsTo p, i.wasSent = true :=
  closed_iff_of_allWindowed (windowed_of_reaches h) hsome hover

/-! ## A mail that fails -/

/-- Two accounts are asked about a proposal; the mail to the first is accepted, and that to the second if `accepted`
says so. The first one votes. -/
def askedTwo (accepted : Bool) : List GovernanceAction :=
  [.upsertAccount ⟨0, true, {}⟩ [("id", .str "ann"), ("email", .str "ann@example.org")],
    .upsertAccount ⟨0, true, {}⟩ [("id", .str "bob"), ("email", .str "bob@example.org")],
    .createProposal ⟨0, true, {}⟩ "proposal-0" [("id", .str "p"), ("title", .str "Quiet hours")],
    .issueVoteEmails ⟨10, true, {}⟩ "p"
      [("ann", ⟨"invite-a", "token-a"⟩), ("bob", ⟨"invite-b", "token-b"⟩)] (some 1),
    .deliver ⟨20, true, {}⟩ ⟨20, true, {}⟩ true "invite-a",
    .deliver ⟨20, true, {}⟩ ⟨20, true, {}⟩ accepted "invite-b",
    .castVote ⟨30, true, {}⟩ "token-a" "yes" (some "ann") false]

def askedProposal : Proposal :=
  ⟨"p", 1, "Quiet hours", "", "platform-change", 0, .open, false, none, none, none, none, none, {}, none⟩

/-- The invitations of the run that were sent are settled at the given time, there is one, and all of them were
sent if `allSent` says so. -/
def Governance.AskedSettled (st : Governance) (allSent : Bool) (now : Int) : Prop :=
  (∃ i ∈ st.invitationsTo askedProposal, i.wasSent = true) ∧
    (∀ i ∈ st.invitationsTo askedProposal, i.wasSent = true → i.settled now = true) ∧
    (st.invitationsTo askedProposal).all (·.wasSent) = allSent

instance (st : Governance) (allSent : Bool) (now : Int) : Decidable (st.AskedSettled allSent now) := by
  unfold Governance.AskedSettled
  infer_instance

theorem windows_closed_iff_all_sent_asked :
    ∃ st, Reaches (Governance.step exampleGovernance) Always {} (askedTwo true) st ∧
      (st.proposalTally exampleGovernance askedProposal 3600000030).allIssuedWindowsClosed = true := by
  have hrun : (run (Governance.step exampleGovernance) {} (askedTwo true)).any
      (fun st => st.AskedSettled true 3600000030) = true := by decide +kernel
  obtain ⟨st, hst, hsettled⟩ := (Option.any_eq_true _ _).mp hrun
  obtain ⟨hsome, hover, hall⟩ := of_decide_eq_true hsettled
  refine ⟨st, reaches_always_of_run hst, ?_⟩
  exact (windows_closed_iff_all_sent (reaches_always_of_run hst) askedProposal _ hsome hover).mpr
    (List.all_eq_true.mp hall)

/-- Of the invitations some were sent and some not, and all that were sent are voted on. -/
def Governance.AskedInPart (st : Governance) : Prop :=
  (∃ i ∈ st.invitationsTo askedProposal, i.wasSent = true) ∧
    (∀ i ∈ st.invitationsTo askedProposal, i.wasSent = true → i.status = .voted) ∧
    ¬∀ i ∈ st.invitationsTo askedProposal, i.wasSent = true

instance (st : Governance) : Decidable st.AskedInPart := by
  unfold Governance.AskedInPart
  infer_instance

/-- **A mail that fails blocks the proposal.** The mail to the second account was not accepted. The one invitation
that was sent is voted on; but not all windows count as closed, at any time. -/
theorem unsent_blocks :
    ∃ st, Reaches (Governance.step exampleGovernance) Always {} (askedTwo false) st ∧
      (∃ i ∈ st.invitationsTo askedProposal, i.wasSent = true) ∧ ∀ now,
        (∀ i ∈ st.invitationsTo askedProposal, i.wasSent = true → i.settled now = true) ∧
        (st.proposalTally exampleGovernance askedProposal now).allIssuedWindowsClosed = false := by
  have hrun : (run (Governance.step exampleGovernance) {} (askedTwo false)).any
      (fun st => st.AskedInPart) = true := by decide +kernel
  obtain ⟨st, hst, hpart⟩ := (Option.any_eq_true _ _).mp hrun
  obtain ⟨hsome, hvoted, hunsent⟩ := of_decide_eq_true hpart
  refine ⟨st, reaches_always_of_run hst, hsome, fun now => ?_⟩
  have hsettled : ∀ i ∈ st.invitationsTo askedProposal, i.wasSent = true → i.settled now = true := by
    intro i hi hsent
    unfold Invitation.settled
    rw [hvoted i hi hsent]
    rfl
  refine ⟨hsettled, ?_⟩
  have hiff := @closed_iff_of_allWindowed exampleGovernance st askedProposal now
    (windowed_of_reaches (reaches_always_of_run hst)) hsome hsettled
  exact Bool.eq_false_iff.mpr fun hclosed => hunsent (hiff.mp hclosed)

end StageForge
