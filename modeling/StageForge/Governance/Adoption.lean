import StageForge.Governance.Writes

/-!
# Adopted means voted

What an adopted proposal says is what its voters were asked: the wording, change and version that
`proposal_tally` found binding when `update_proposal` adopted it.
-/

namespace StageForge

open Python TransitionSystem

variable {S : GovernanceSetup} {st st' : Governance}

namespace Governance

/-- A tally found this wording of the proposal binding, on at least one vote, when it was adopted. -/
def Ratified (st : Governance) (proposalId : String) (wording : Wording) : Prop :=
  ∃ r ∈ st.ratifications, r.proposalId = proposalId ∧ r.wording = wording ∧ 1 ≤ r.totalRawVotes

instance (st : Governance) (proposalId : String) (wording : Wording) :
    Decidable (st.Ratified proposalId wording) := by
  unfold Ratified
  infer_instance

/-- Adopted means voted: every adopted proposal reads as it was ratified, and the changes that
`adopted_change` returns and `apply_ratified_governance_policy` applies are ratified ones. -/
structure AdoptedMeansVoted (S : GovernanceSetup) (st : Governance) : Prop where
  ratified : ∀ p ∈ st.proposals.rows, p.status = .adopted → st.Ratified p.id p.wording
  returned : ∀ proposalId version change, st.adoptedChange proposalId = .ok (version, change) →
    ∃ w, st.Ratified proposalId w ∧ w.version = version ∧ w.change = some change
  applied : ∀ env policySaved proposalId,
    let st' := (st.applyRatifiedGovernancePolicy S env policySaved proposalId).1
    st'.policy ≠ st.policy → ∃ w change, st.Ratified proposalId w ∧ w.change = some change ∧
      st.policy.patched S.conversions change.payload = .ok st'.policy

/-- What carries the law from step to step: a vote is always asked for, and adopted proposals are
ratified. -/
structure AdoptionInvariant (st : Governance) : Prop where
  votes : 1 ≤ st.policy.minRawVotes
  ratified : ∀ p ∈ st.proposals.rows, p.status = .adopted → st.Ratified p.id p.wording

/-- A proposal that is stored over a ratified one, or that is not adopted, leaves all adopted
proposals ratified. -/
lemma ratified_setProposal {p : Proposal} (hinv : AdoptionInvariant st)
    (hp : p.status = .adopted → st.Ratified p.id p.wording) :
    AdoptionInvariant (st.setProposal p) where
  votes := hinv.votes
  ratified := by
    intro q hq hadopted
    rcases Table.mem_put.mp hq with rfl | ⟨-, hold⟩
    · exact hp hadopted
    · exact hinv.ratified q hold hadopted

/-- **The write lemma.** -/
lemma adoptionInvariant_write (hinv : AdoptionInvariant st) (hw : Write S True st st') :
    AdoptionInvariant st' := by
  cases hw with
  | policy policy hvotes => exact ⟨hvotes, hinv.ratified⟩
  | accounts => exact ⟨hinv.votes, hinv.ratified⟩
  | revision => exact ⟨hinv.votes, hinv.ratified⟩
  | outbox => exact ⟨hinv.votes, hinv.ratified⟩
  | create p hnew hopen => exact ratified_setProposal hinv fun h => by simp [hopen] at h
  | annotate p p' hp hid hstatus hwording =>
    refine ratified_setProposal hinv fun h => ?_
    rw [hid, hwording]
    exact hinv.ratified p hp (hstatus ▸ h)
  | revise p p' hp hid hstatus => exact ratified_setProposal hinv fun h => absurd h hstatus
  | adopt p p' now hp hid hready hwording =>
    have hvotes : 1 ≤ (st.proposalTally S p now).totalRawVotes := by
      have hmin := hinv.votes
      have hcount := minRawVotes_le_of_ready hready
      omega
    refine ratified_setProposal ⟨hinv.votes, fun q hq hadopted => ?_⟩ fun _ => ?_
    · obtain ⟨r, hr, hratified⟩ := hinv.ratified q hq hadopted
      exact ⟨r, List.mem_cons_of_mem _ hr, hratified⟩
    · exact ⟨_, List.mem_cons_self, hid.symm, (hwording trivial).symm, hvotes⟩
  | invite => exact ⟨hinv.votes, hinv.ratified⟩
  | progress => exact ⟨hinv.votes, hinv.ratified⟩
  | vote => exact ⟨hinv.votes, hinv.ratified⟩
  | annotateVote => exact ⟨hinv.votes, hinv.ratified⟩

variable {proposalId : String}

lemma adoptedChange_spec {version : ℕ} {change : ChangeRecord}
    (h : st.adoptedChange proposalId = .ok (version, change)) :
    ∃ p ∈ st.proposals.rows, p.id = proposalId ∧ p.status = .adopted ∧
      p.version = version ∧ p.change = some change := by
  unfold adoptedChange at h
  split at h
  · cases h
  · rename_i p hp
    obtain ⟨hmem, hid⟩ := Table.find?_eq_some.mp hp
    split_ifs at h with hadopted happlied
    split at h
    · cases h
    · rename_i change' hchange
      obtain ⟨rfl, rfl⟩ := Prod.mk.inj (Except.ok.inj h)
      exact ⟨p, hmem, hid, not_not.mp hadopted, rfl, hchange⟩

variable {env : Surroundings}

lemma policy_patchPolicy {data : List (String × Value)}
    (h : (st.patchPolicy S env data).1.policy ≠ st.policy) :
    st.policy.patched S.conversions data = .ok (st.patchPolicy S env data).1.policy := by
  unfold patchPolicy at h ⊢
  cases hknown : st.policy.patched S.conversions data with
  | error e =>
    rw [hknown] at h
    exact absurd rfl h
  | ok known =>
    rw [hknown] at h
    simp only at h ⊢
    split_ifs at h ⊢
    · rfl
    · exact absurd rfl h

lemma policy_markApplied {change : ChangeRecord} :
    (st.markApplied env proposalId change).1.policy = st.policy := by
  unfold markApplied
  cases st.proposals.find? proposalId <;> rfl

lemma policy_applyRatified {policySaved : Bool}
    (h : (st.applyRatifiedGovernancePolicy S env policySaved proposalId).1.policy ≠ st.policy) :
    ∃ version change, st.adoptedChange proposalId = .ok (version, change) ∧
      st.policy.patched S.conversions change.payload =
        .ok (st.applyRatifiedGovernancePolicy S env policySaved proposalId).1.policy := by
  unfold applyRatifiedGovernancePolicy at h ⊢
  cases hadopted : st.adoptedChange proposalId with
  | error e =>
    rw [hadopted] at h
    exact absurd rfl h
  | ok adopted =>
    obtain ⟨version, change⟩ := adopted
    rw [hadopted] at h
    simp only at h ⊢
    refine ⟨version, change, rfl, ?_⟩
    split_ifs at h ⊢
    · exact absurd rfl h
    · let granted : Surroundings := { env with saved := policySaved }
      have hpatch : (st.patchPolicy S granted change.payload).1.policy ≠ st.policy →
          st.policy.patched S.conversions change.payload =
            .ok (st.patchPolicy S granted change.payload).1.policy := policy_patchPolicy
      cases hresult : st.patchPolicy S { env with saved := policySaved } change.payload with
      | mk patched result =>
        rw [hresult] at h hpatch
        cases result with
        | error e => exact hpatch h
        | ok _ =>
          rw [policy_markApplied] at h ⊢
          exact hpatch h

lemma AdoptionInvariant.adoptedMeansVoted (hinv : AdoptionInvariant st) :
    AdoptedMeansVoted S st where
  ratified := hinv.ratified
  returned := by
    intro proposalId version change h
    obtain ⟨p, hp, rfl, hadopted, rfl, hchange⟩ := adoptedChange_spec h
    exact ⟨p.wording, hinv.ratified p hp hadopted, rfl, hchange⟩
  applied := by
    intro env policySaved proposalId st' hpolicy
    obtain ⟨version, change, hadopted, hpatched⟩ := policy_applyRatified hpolicy
    obtain ⟨p, hp, rfl, hstatus, -, hchange⟩ := adoptedChange_spec hadopted
    exact ⟨p.wording, change, hinv.ratified p hp hstatus, hchange, hpatched⟩

end Governance

/-- **Adopted means voted.** In every run in which no call adopts a proposal and replaces its
wording or change at the same time, adopted proposals read as the binding tally judged them, and
only changes that were voted on are returned and applied. -/
theorem adopted_means_voted {as : List GovernanceAction}
    (h : Reaches (Governance.step S) (AdoptsAsVoted S) {} as st) : st.AdoptedMeansVoted S := by
  have hstart : Governance.AdoptionInvariant {} := ⟨by decide, by simp [Table.empty]⟩
  refine (h.invariant hstart fun t a u hinv hok hs => ?_).adoptedMeansVoted
  have hwrites := writes_of_step hs
  rw [eq_true hok] at hwrites
  exact hwrites.invariant (fun _ _ => Governance.adoptionInvariant_write) hinv

/-! ## A small community -/

/-- The digests of the texts that the runs below hash. -/
def exampleDigests : List (String × String) :=
  [("token-a", "a70bf50e531ce1a817561f2f5d5b6645d4e806becf58ccc5e8cf6b8045a090a8"),
    ("token-b", "49e2bb7eab54cf09b409ffafd3fa8a8a955a60eb972faacaefbed3dbd3207132")]

/-- The hashes of the changes with an empty payload and with a payload of one vote. -/
def exampleChangeHash (payload : List (String × Value)) : String :=
  if payload = [] then "97731f271d58095662078f13d9f3799e0f018717294eac67a1c7d801b93155cd"
  else "dcb6d4456aa292bf0e314d27b718b27804bdba69d3ea6c861fe0cdbe6c7b2a80"

def exampleGovernance : GovernanceSetup where
  conversions := ⟨fun _ => "None", fun _ => none, fun _ => none⟩
  sha256 := fun text => (exampleDigests.lookup text).getD ""
  changeHash := fun _ payload => exampleChangeHash payload

def policyChange (payload : List (String × Value)) : Value :=
  .dict [("kind", .str "community-governance-policy"), ("payload", .dict payload)]

/-- One vote is enough, at any age of the proposal. -/
def easyPolicy : List (String × Value) := [("minRawVotes", .int 1), ("minDurableVoteUnits", .int 0)]

/-- A proposal with an empty change is put to the vote of one account, which approves. -/
def approvedProposal : List GovernanceAction := [.patchPolicy ⟨0, true, {}⟩ easyPolicy,
    .upsertAccount ⟨0, true, {}⟩ [("id", .str "ann"), ("email", .str "ann@example.org")],
    .createProposal ⟨0, true, {}⟩ "proposal-0"
      [("id", .str "p"), ("title", .str "Quiet hours"), ("change", policyChange [])],
    .issueVoteEmails ⟨10, true, {}⟩ "p" [("ann", ⟨"invite-a", "token-a"⟩)] (some 1),
    .deliver ⟨20, true, {}⟩ ⟨20, true, {}⟩ true "invite-a",
    .castVote ⟨30, true, {}⟩ "token-a" "yes" (some "ann") false]

def plainAdoption : List GovernanceAction :=
  approvedProposal ++ [.updateProposal ⟨40, true, {}⟩ none "p" [("status", .str "adopted")]]

instance (S : GovernanceSetup) (st : Governance) (a : GovernanceAction) :
    Decidable (AdoptsAsVoted S st a) := by
  cases a <;> unfold AdoptsAsVoted <;> try unfold Governance.AdoptsReworded Governance.RequestsAdoption
  all_goals infer_instance

theorem adopted_means_voted_plainAdoption :
    ∃ st, Reaches (Governance.step exampleGovernance) (AdoptsAsVoted exampleGovernance) {}
        plainAdoption st ∧
      (st.adoptedChange "p").isOk = true ∧ st.AdoptedMeansVoted exampleGovernance := by
  have hrun : (run (fun st a => if AdoptsAsVoted exampleGovernance st a then
      Governance.step exampleGovernance st a else none) {} plainAdoption).any
        (fun st => (st.adoptedChange "p").isOk) = true := by decide +kernel
  obtain ⟨st, hst, hok⟩ := (Option.any_eq_true _ _).mp hrun
  exact ⟨st, reaches_of_run hst, hok, adopted_means_voted (reaches_of_run hst)⟩

/-- The call that adopts the proposal brings another change with it. -/
def rewordedAdoption : List GovernanceAction :=
  approvedProposal ++ [.updateProposal ⟨40, true, {}⟩ none "p"
    [("status", .str "adopted"), ("change", policyChange [("minRawVotes", .int 1)])]]

/-- **A change nobody voted on is adopted.** -/
theorem adopted_unvoted :
    ∃ st, Reaches (Governance.step exampleGovernance) Always {} rewordedAdoption st ∧
      ¬ st.AdoptedMeansVoted exampleGovernance := by
  have hrun : (run (Governance.step exampleGovernance) {} rewordedAdoption).any
      (fun st => st.proposals.rows.any fun p =>
        p.status = .adopted ∧ ¬ st.Ratified p.id p.wording) = true := by decide +kernel
  obtain ⟨st, hst, hlost⟩ := (Option.any_eq_true _ _).mp hrun
  refine ⟨st, reaches_always_of_run hst, fun hvoted => ?_⟩
  obtain ⟨p, hp, hunvoted⟩ := List.any_eq_true.mp hlost
  obtain ⟨hadopted, hno⟩ := of_decide_eq_true hunvoted
  exact hno (hvoted.ratified p hp hadopted)

end StageForge
