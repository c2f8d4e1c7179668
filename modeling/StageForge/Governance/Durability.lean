import StageForge.Governance.State
import StageForge.Library.Rounding

/-!
# Hype and durable votes over time

A proposal loses its hype with age, and its votes become durable. The age counts for all choices alike.
-/

namespace StageForge

open Python

/-! ## Hype -/

section

variable {createdAt t₁ t₂ zeroDay : Int}

lemma hypeValue_nonneg : 0 ≤ hypeValue createdAt t₁ zeroDay := by
  unfold hypeValue
  dsimp only
  split_ifs
  · exact zero_le_one
  · exact round_nonneg (le_max_left _ _)

lemma hypeValue_le_one : hypeValue createdAt t₁ zeroDay ≤ 1 := by
  unfold hypeValue
  dsimp only
  split_ifs
  · exact le_refl 1
  · exact round_le_one (max_le zero_le_one (min_le_left _ _))

/-- **Hype only falls.** -/
lemma hypeValue_antitone (h : t₁ ≤ t₂) :
    hypeValue createdAt t₂ zeroDay ≤ hypeValue createdAt t₁ zeroDay := by
  have hage : max 0 (((t₁ - createdAt : Int) : ℚ) / dayMicros) ≤
      max 0 (((t₂ - createdAt : Int) : ℚ) / dayMicros) := by
    refine max_le_max_left _ (div_le_div_of_nonneg_right ?_ (by norm_num [dayMicros]))
    exact_mod_cast sub_le_sub_right h createdAt
  by_cases hold : max 0 (((t₁ - createdAt : Int) : ℚ) / dayMicros) ≤ 1
  · refine hypeValue_le_one.trans_eq ?_
    unfold hypeValue
    rw [if_pos hold]
  · have hlater : ¬max 0 (((t₂ - createdAt : Int) : ℚ) / dayMicros) ≤ 1 := fun hle => hold (hage.trans hle)
    unfold hypeValue
    rw [if_neg hold, if_neg hlater]
    refine round_mono (max_le_max_left _ (min_le_min_left _ ?_))
    gcongr

def durableFraction (createdAt now zeroDay : Int) : ℚ := round (1 - hypeValue createdAt now zeroDay) 9

lemma durableFraction_nonneg : 0 ≤ durableFraction createdAt t₁ zeroDay :=
  round_nonneg (sub_nonneg.mpr hypeValue_le_one)

lemma durableFraction_le_one : durableFraction createdAt t₁ zeroDay ≤ 1 :=
  round_le_one (sub_le_self 1 hypeValue_nonneg)

lemma durableFraction_monotone (h : t₁ ≤ t₂) :
    durableFraction createdAt t₁ zeroDay ≤ durableFraction createdAt t₂ zeroDay :=
  round_mono (sub_le_sub_left (hypeValue_antitone h) 1)

end

/-! ## Votes -/

def durableUnits (durable : ℚ) (rawVotes : ℕ) : ℚ := round (rawVotes * durable) 6

lemma durableUnits_mono {durable durable' : ℚ} (h : durable ≤ durable') (rawVotes : ℕ) :
    durableUnits durable rawVotes ≤ durableUnits durable' rawVotes :=
  round_mono (by gcongr)

namespace Governance

variable {S : GovernanceSetup} {st : Governance} {p : Proposal} {t₁ t₂ : Int}

/-- `durableVoteUnits` of a tally. -/
def durableVoteUnits (S : GovernanceSetup) (st : Governance) (p : Proposal) (now : Int) (choice : Choice) : ℚ :=
  durableUnits (durableFraction p.createdAt now st.policy.hypeZeroDay) ((st.proposalTally S p now).rawVotes choice)

lemma totalDurableVoteUnits_eq (now : Int) : (st.proposalTally S p now).totalDurableVoteUnits =
    round (st.durableVoteUnits S p now .yes + st.durableVoteUnits S p now .no +
      st.durableVoteUnits S p now .abstain) 6 := rfl

lemma totalDurableVoteUnits_monotone (h : t₁ ≤ t₂) : (st.proposalTally S p t₁).totalDurableVoteUnits ≤
    (st.proposalTally S p t₂).totalDurableVoteUnits := by
  have hunits (choice : Choice) : st.durableVoteUnits S p t₁ choice ≤ st.durableVoteUnits S p t₂ choice :=
    durableUnits_mono (durableFraction_monotone h) _
  rw [totalDurableVoteUnits_eq, totalDurableVoteUnits_eq]
  exact round_mono (add_le_add (add_le_add (hunits _) (hunits _)) (hunits _))

/-! ## Windows -/

lemma closed_later {i : Invitation} (h : t₁ ≤ t₂) (hclosed : i.closed t₁ = true) : i.closed t₂ = true := by
  rcases Bool.or_eq_true_iff.mp hclosed with hused | hover
  · exact Bool.or_eq_true_iff.mpr (Or.inl hused)
  · refine Bool.or_eq_true_iff.mpr (Or.inr ?_)
    obtain ⟨expiresAt, hexpires, hpast⟩ := (Option.any_eq_true _ _).mp hover
    exact (Option.any_eq_true _ _).mpr ⟨expiresAt, hexpires,
      decide_eq_true ((of_decide_eq_true hpast).trans_le h)⟩

lemma not_open_of_closed {i : Invitation} (hclosed : i.closed t₁ = true) : i.windowOpen t₁ = false := by
  by_contra hopen
  have hopen : i.windowOpen t₁ = true := by simpa using hopen
  unfold Invitation.windowOpen at hopen
  simp only [Bool.and_eq_true, decide_eq_true_eq] at hopen
  obtain ⟨⟨hsent, -⟩, hbefore⟩ := hopen
  rcases Bool.or_eq_true_iff.mp hclosed with hused | hover
  · rw [hsent] at hused
    exact absurd hused (by decide)
  · obtain ⟨expiresAt, hexpires, hpast⟩ := (Option.any_eq_true _ _).mp hover
    rw [hexpires] at hbefore
    exact absurd (of_decide_eq_true hpast) (not_lt.mpr (of_decide_eq_true hbefore))

lemma allIssuedWindowsClosed_iff (now : Int) : (st.proposalTally S p now).allIssuedWindowsClosed = true ↔
    st.invitationsTo p ≠ [] ∧ ∀ i ∈ st.invitationsTo p, i.closed now = true := by
  have hreads : (st.proposalTally S p now).allIssuedWindowsClosed =
      (!(st.invitationsTo p).isEmpty && decide (((st.invitationsTo p).filter (·.windowOpen now)).length = 0) &&
        (st.invitationsTo p).all (·.closed now)) := rfl
  rw [hreads]
  simp only [Bool.and_eq_true, Bool.not_eq_true', List.isEmpty_eq_false_iff, decide_eq_true_eq,
    List.all_eq_true, List.length_eq_zero_iff, List.filter_eq_nil_iff]
  constructor
  · rintro ⟨⟨hsome, -⟩, hclosed⟩
    exact ⟨hsome, hclosed⟩
  · rintro ⟨hsome, hclosed⟩
    exact ⟨⟨hsome, fun i hi => by simp [not_open_of_closed (hclosed i hi)]⟩, hclosed⟩

lemma allIssuedWindowsClosed_later (h : t₁ ≤ t₂)
    (hclosed : (st.proposalTally S p t₁).allIssuedWindowsClosed = true) :
    (st.proposalTally S p t₂).allIssuedWindowsClosed = true := by
  obtain ⟨hsome, hall⟩ := (allIssuedWindowsClosed_iff t₁).mp hclosed
  exact (allIssuedWindowsClosed_iff t₂).mpr ⟨hsome, fun i hi => closed_later h (hall i hi)⟩

/-! ## Readiness -/

lemma bindingBlockers_eq : ∃ fixed : List String, ∀ now, (st.proposalTally S p now).bindingBlockers =
    fixed ++
      (if st.policy.minDurableVoteUnits.above (st.proposalTally S p now).totalDurableVoteUnits then
        ["durable vote-unit minimum not reached while proposal hype remains"] else []) ++
      (if st.policy.requireAllIssuedWindowsClosedForBinding ∧
          ¬(st.proposalTally S p now).allIssuedWindowsClosed then
        ["issued voting windows are still open"] else []) :=
  ⟨_, fun _ => rfl⟩

lemma not_above_of_le {x : Number} {u v : ℚ} (h : u ≤ v) (hx : x.above u = false) : x.above v = false := by
  cases x with
  | finite r =>
    simp only [Number.above, decide_eq_false_iff_not, not_lt] at hx ⊢
    exact hx.trans h
  | inf => exact hx
  | negInf => exact hx
  | nan => exact hx

lemma bindingChangeReady_later (h : t₁ ≤ t₂) (hready : (st.proposalTally S p t₁).bindingChangeReady = true) :
    (st.proposalTally S p t₂).bindingChangeReady = true := by
  have hunits := not_above_of_le (x := st.policy.minDurableVoteUnits) (@totalDurableVoteUnits_monotone S st p t₁ t₂ h)
  have hclosed := @allIssuedWindowsClosed_later S st p t₁ t₂ h
  obtain ⟨fixed, hblockers⟩ := @bindingBlockers_eq S st p
  simp only [Tally.bindingChangeReady, List.isEmpty_iff, hblockers, List.append_eq_nil_iff] at hready ⊢
  obtain ⟨⟨hfixed, hdurable⟩, hwindows⟩ := hready
  refine ⟨⟨hfixed, ?_⟩, ?_⟩
  · have hreached : ¬st.policy.minDurableVoteUnits.above
        (st.proposalTally S p t₁).totalDurableVoteUnits = true := by
      intro habove
      simp [habove] at hdurable
    rw [hunits (by simpa using hreached)]
    rfl
  · refine if_neg fun hboth => ?_
    obtain ⟨hrequired, hopen⟩ := hboth
    have hclosed₁ : (st.proposalTally S p t₁).allIssuedWindowsClosed = true := by
      by_contra hopen₁
      simp [hrequired, hopen₁] at hwindows
    exact hopen (hclosed hclosed₁)

/-! ## What the age of a proposal does -/

lemma durableVoteUnits_error (now : Int) (choice : Choice) :
    |st.durableVoteUnits S p now choice - (st.proposalTally S p now).rawVotes choice *
      durableFraction p.createdAt now st.policy.hypeZeroDay| ≤ 1 / 2000000 := by
  refine (round_error _ 6).trans_eq ?_
  norm_num

lemma durableVoteUnits_monotone {a b : Choice} {now : Int}
    (h : (st.proposalTally S p now).rawVotes a ≤ (st.proposalTally S p now).rawVotes b) :
    st.durableVoteUnits S p now a ≤ st.durableVoteUnits S p now b := by
  have hcast : ((st.proposalTally S p now).rawVotes a : ℚ) ≤ (st.proposalTally S p now).rawVotes b := by
    exact_mod_cast h
  exact round_mono (mul_le_mul_of_nonneg_right hcast durableFraction_nonneg)

/-- **Hype takes no side.** It lies between zero and one and only falls; each choice has its votes times the one
durable fraction, up to the rounding to six decimals, and votes and approval are those of every age; and what is
ready for a binding change stays so. -/
theorem hype_is_neutral (S : GovernanceSetup) (st : Governance) (p : Proposal) (t₁ t₂ : Int) (h : t₁ ≤ t₂) :
    (0 ≤ hypeValue p.createdAt t₂ st.policy.hypeZeroDay ∧
      hypeValue p.createdAt t₂ st.policy.hypeZeroDay ≤ hypeValue p.createdAt t₁ st.policy.hypeZeroDay ∧
      hypeValue p.createdAt t₁ st.policy.hypeZeroDay ≤ 1) ∧
    (∀ now, ∃ factor : ℚ, 0 ≤ factor ∧ factor ≤ 1 ∧ (∀ choice,
      |st.durableVoteUnits S p now choice - (st.proposalTally S p now).rawVotes choice * factor| ≤ 1 / 2000000) ∧
      ∀ a b, (st.proposalTally S p now).rawVotes a ≤ (st.proposalTally S p now).rawVotes b →
        st.durableVoteUnits S p now a ≤ st.durableVoteUnits S p now b) ∧
    ((st.proposalTally S p t₂).rawVotes = (st.proposalTally S p t₁).rawVotes ∧
      (st.proposalTally S p t₂).approvalRatio = (st.proposalTally S p t₁).approvalRatio) ∧
    ((st.proposalTally S p t₁).bindingChangeReady = true →
      (st.proposalTally S p t₂).bindingChangeReady = true) := by
  refine ⟨⟨hypeValue_nonneg, hypeValue_antitone h, hypeValue_le_one⟩, fun now => ?_, ⟨rfl, rfl⟩,
    bindingChangeReady_later h⟩
  exact ⟨durableFraction p.createdAt now st.policy.hypeZeroDay, durableFraction_nonneg, durableFraction_le_one,
    durableVoteUnits_error now, fun a b => durableVoteUnits_monotone⟩

/-- A proposal with one vote for it and two against it. -/
def hypedProposal : Proposal := ⟨"p", 1, "Title", "Text", "", 0, .open, false, none, none, none, none, none, {}, none⟩

def hypedVote (id : String) (choice : Choice) : Vote := ⟨id, "p", 1, id, id, choice, 0, {}⟩

def hypedVotes : Governance :=
  { proposals := ⟨[hypedProposal], List.pairwise_singleton ..⟩
    votes := ⟨[hypedVote "a" .yes, hypedVote "b" .no, hypedVote "c" .no], by decide⟩ }

def hypedSetup : GovernanceSetup := ⟨⟨fun _ => "", fun _ => none, fun _ => none⟩, id, fun _ _ => "", false⟩

theorem hype_is_neutral_witness : (0 : Int) ≤ 86400000000 ∧
    hypeValue 0 86400000000 365 ≤ hypeValue 0 0 365 :=
  ⟨by decide, (hype_is_neutral hypedSetup hypedVotes hypedProposal 0 86400000000 (by decide)).1.2.1⟩

/-- **Rounded units are not in the proportion of the votes.** Some fifteen seconds after the first day half a
millionth of the votes is durable: the vote for the proposal has no unit and the two against it have one. -/
theorem units_not_proportional : ¬∀ (S : GovernanceSetup) (st : Governance) (p : Proposal) (now : Int),
    ∃ factor : ℚ, ∀ choice,
      st.durableVoteUnits S p now choice = (st.proposalTally S p now).rawVotes choice * factor := by
  intro hall
  obtain ⟨factor, hfactor⟩ := hall hypedSetup hypedVotes hypedProposal 86415724800
  have hyes : hypedVotes.durableVoteUnits hypedSetup hypedProposal 86415724800 .yes = 0 := by
    decide +kernel
  have hno : hypedVotes.durableVoteUnits hypedSetup hypedProposal 86415724800 .no = 1 / 1000000 := by
    decide +kernel
  have hzero : factor = 0 := by
    have hone : (hypedVotes.proposalTally hypedSetup hypedProposal 86415724800).rawVotes .yes = 1 := by decide +kernel
    simpa [hyes, hone] using (hfactor .yes).symm
  have hnone := hfactor .no
  rw [hno, hzero, mul_zero] at hnone
  norm_num at hnone

end Governance

end StageForge
