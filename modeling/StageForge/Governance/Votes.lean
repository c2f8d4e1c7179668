import StageForge.Governance.Adoption

/-!
# One account, one vote

Votes are kept under a text made of the proposal's id, the account's id and the version. From such
a text the version can be read back, since nothing after its last `v` is a `v`; of the two ids only
what they are together, with the hyphen between them (`voteId_inj`).
-/

namespace StageForge

open Python TransitionSystem

variable {S : GovernanceSetup} {st st' : Governance}

/-! ## The ids of votes -/

lemma eq_of_last {α : Type} {a : α} :
    ∀ {after after' before before' : List α}, a ∉ after → a ∉ after' →
      after ++ a :: before = after' ++ a :: before' → after = after' ∧ before = before'
  | [], [], _, _, _, _, h => ⟨rfl, (List.cons.inj h).2⟩
  | [], b :: after', _, _, _, hno, h => absurd (List.cons.inj h).1 fun hab =>
    hno (hab ▸ List.mem_cons_self)
  | b :: after, [], _, _, hno, _, h => absurd (List.cons.inj h).1 fun hab =>
    hno (hab ▸ List.mem_cons_self)
  | b :: after, b' :: after', _, _, hno, hno', h => by
    obtain ⟨rfl, hrest⟩ := List.cons.inj h
    obtain ⟨rfl, hbefore⟩ := eq_of_last (fun hm => hno (List.mem_cons_of_mem _ hm))
      (fun hm => hno' (List.mem_cons_of_mem _ hm)) hrest
    exact ⟨rfl, hbefore⟩

lemma v_notMem_digits (n : ℕ) : 'v' ∉ Nat.toDigits 10 n := fun h =>
  absurd (Nat.isDigit_of_mem_toDigits (by omega) (by omega) h) (by decide)

lemma toDigits_inj {n m : ℕ} (h : Nat.toDigits 10 n = Nat.toDigits 10 m) : n = m := by
  rw [← Nat.ofDigitChars_ten_toDigits (n := n), h, Nat.ofDigitChars_ten_toDigits]

lemma toList_voteId (p a : String) (n : ℕ) : (voteId p a n).toList =
      "vote-".toList ++ (p ++ "-" ++ a).toList ++ '-' :: 'v' :: Nat.toDigits 10 n := by
  simp [voteId, String.toList_append]

/-- **What the id of a vote tells**: the version, and the two ids with a hyphen between them. -/
lemma voteId_inj {p p' a a' : String} {n n' : ℕ} :
    voteId p a n = voteId p' a' n' ↔ p ++ "-" ++ a = p' ++ "-" ++ a' ∧ n = n' := by
  constructor
  · intro h
    have hreverse : (voteId p a n).toList.reverse = (voteId p' a' n').toList.reverse := by rw [h]
    rw [toList_voteId, toList_voteId] at hreverse
    simp only [List.reverse_append, List.reverse_cons, List.append_assoc, List.cons_append,
      List.nil_append] at hreverse
    have hno : ∀ m : ℕ, 'v' ∉ (Nat.toDigits 10 m).reverse := fun m hm =>
      v_notMem_digits m (List.mem_reverse.mp hm)
    obtain ⟨hdigits, hbefore⟩ := eq_of_last (hno n) (hno n') hreverse
    refine ⟨?_, toDigits_inj (List.reverse_injective hdigits)⟩
    have hids := List.append_cancel_right (List.cons.inj hbefore).2
    exact String.toList_inj.mp (List.reverse_injective hids)
  · rintro ⟨hids, rfl⟩
    refine String.toList_inj.mp ?_
    rw [toList_voteId, toList_voteId, hids]

/-! ## What holds of the ballots -/

namespace Governance

/-- What the ballots keep: votes lie under the text of their fields, invitations have windows, and
the tokens of invitations can be told apart by their hashes. -/
structure BallotInvariant (S : GovernanceSetup) (st : Governance) : Prop where
  voteIds : ∀ v ∈ st.votes.rows, v.id = voteId v.proposalId v.userId v.proposalVersion
  hours : ∀ i ∈ st.invitations.rows, 1 ≤ i.windowHours
  windows : ∀ i ∈ st.invitations.rows, i.status = .sent →
    ∃ s e, i.sentAt = some s ∧ i.expiresAt = some e ∧ s ≤ e
  tokens : ∀ i ∈ st.invitations.rows, ∃ token, i.tokenHash = S.sha256 token
  hashes : (st.invitations.rows.map (·.tokenHash)).Nodup

lemma ballotInvariant_progress {i i' : Invitation} (hinv : BallotInvariant S st)
    (hi : i ∈ st.invitations.rows) (hid : i'.id = i.id) (hhash : i'.tokenHash = i.tokenHash)
    (hhours : i'.windowHours = i.windowHours)
    (hwindow : i'.status = .sent → ∃ s e, i'.sentAt = some s ∧ i'.expiresAt = some e ∧ s ≤ e) :
    BallotInvariant S (st.setInvitation i') where
  voteIds := hinv.voteIds
  hours := by
    intro j hj
    rcases Table.mem_put.mp hj with rfl | ⟨-, hold⟩
    · exact hhours ▸ hinv.hours i hi
    · exact hinv.hours j hold
  windows := by
    intro j hj
    rcases Table.mem_put.mp hj with rfl | ⟨-, hold⟩
    · exact hwindow
    · exact hinv.windows j hold
  tokens := by
    intro j hj
    rcases Table.mem_put.mp hj with rfl | ⟨-, hold⟩
    · exact hhash ▸ hinv.tokens i hi
    · exact hinv.tokens j hold
  hashes := by
    have hsame : ((st.invitations.put i').rows.map (·.tokenHash)) =
        st.invitations.rows.map (·.tokenHash) :=
      Table.map_put_of_mem hi hid hhash
    exact hsame ▸ hinv.hashes

/-- **The write lemma.** -/
lemma ballotInvariant_write {K : Prop} (hinv : BallotInvariant S st) (hw : Write S K st st') :
    BallotInvariant S st' := by
  cases hw with
  | policy | accounts | revision | outbox | create | annotate | revise | adopt =>
    exact ⟨hinv.voteIds, hinv.hours, hinv.windows, hinv.tokens, hinv.hashes⟩
  | invite i token hnew hhash hfresh hstatus hhours _ =>
    have hrows : (st.invitations.put i).rows = st.invitations.rows ++ [i] :=
      Table.rows_put_of_new hnew
    refine ⟨hinv.voteIds, ?_, ?_, ?_, ?_⟩
    · intro j hj
      rcases Table.mem_put.mp hj with rfl | ⟨-, hold⟩
      · exact hhours
      · exact hinv.hours j hold
    · intro j hj hsent
      rcases Table.mem_put.mp hj with rfl | ⟨-, hold⟩
      · simp [hstatus] at hsent
      · exact hinv.windows j hold hsent
    · intro j hj
      rcases Table.mem_put.mp hj with rfl | ⟨-, hold⟩
      · exact ⟨token, hhash⟩
      · exact hinv.tokens j hold
    · have hmap : (st.setInvitation i).invitations.rows.map (·.tokenHash) =
          st.invitations.rows.map (·.tokenHash) ++ [i.tokenHash] := by
        change (st.invitations.put i).rows.map _ = _
        rw [hrows, List.map_append, List.map_singleton]
      rw [hmap]
      exact List.Nodup.append hinv.hashes (by simp) (by simpa using hfresh)
  | progress i i' hi hid hballot hsent _ =>
    obtain ⟨-, -, -, hhash, hhours⟩ := hballot
    refine ballotInvariant_progress hinv hi hid hhash hhours fun hs => ?_
    rcases hsent hs with ⟨hold, hsentAt, hexpiresAt⟩ | ⟨t, hsentAt, hexpiresAt⟩
    · rw [hsentAt, hexpiresAt]
      exact hinv.windows i hi hold
    · refine ⟨t, _, hsentAt, hexpiresAt, ?_⟩
      have hpos := hinv.hours i hi
      unfold hourMicros
      omega
  | vote v hnew hid =>
    refine ⟨fun w hw => ?_, hinv.hours, hinv.windows, hinv.tokens, hinv.hashes⟩
    rcases Table.mem_put.mp hw with rfl | ⟨-, hold⟩
    · exact hid
    · exact hinv.voteIds w hold
  | annotateVote v evidence hv =>
    refine ⟨fun w hw => ?_, hinv.hours, hinv.windows, hinv.tokens, hinv.hashes⟩
    rcases Table.mem_put.mp hw with rfl | ⟨-, hold⟩
    · exact hinv.voteIds v hv
    · exact hinv.voteIds w hold

end Governance

/-! ## Refusals -/

/-- Whose vote on what: the proposal, the account and the version. -/
def Vote.subject (v : Vote) : String × String × ℕ := (v.proposalId, v.userId, v.proposalVersion)

def Invitation.subject (i : Invitation) : String × String × ℕ :=
  (i.proposalId, i.userId, i.proposalVersion)

def alreadyVoted : Error := .permissionError "this account already voted on this proposal version"

namespace Governance

/-- At most one vote of an account on a version of a proposal. -/
def OneVote (st : Governance) : Prop := (st.votes.rows.map Vote.subject).Nodup

/-- The account has voted on the version of the proposal to which the invitation invites it. -/
def HasVote (st : Governance) (i : Invitation) : Prop := ∃ v ∈ st.votes.rows, v.subject = i.subject

/-- A vote on an open invitation is refused as a second one only where it is one. -/
def NoInterference (S : GovernanceSetup) (st : Governance) : Prop :=
  ∀ (env : Surroundings) (choice : String) (i : Invitation), (∀ token user allowTokenOnly,
      (st.ballotOfToken S env token user allowTokenOnly).2 = .ok i →
      (st.castVote S env token choice user allowTokenOnly).2 = .error alreadyVoted →
      st.HasVote i) ∧
    ∀ proposalId accountId, st.ballotOfAccount env.now proposalId (strip accountId) = .ok i →
      (st.castAccountVote S env proposalId choice accountId).2 = .error alreadyVoted →
      st.HasVote i

/-- A vote and an open invitation of the same version have different ids that read alike when they
are joined with a hyphen. -/
def IdsCollide (st : Governance) : Prop := ∃ i ∈ st.invitations.rows, ∃ v ∈ st.votes.rows,
    i.status = .sent ∧
    (∃ p ∈ st.proposals.find? i.proposalId, p.version = i.proposalVersion ∧ p.status = .open) ∧
    v.proposalVersion = i.proposalVersion ∧
    (v.proposalId, v.userId) ≠ (i.proposalId, i.userId) ∧
    v.proposalId ++ "-" ++ v.userId = i.proposalId ++ "-" ++ i.userId

lemma publish_error {evidence : PublicEvidence} {attempt : RecordAttempt} {e : Error}
    (h : (evidence.publish attempt).2 = .error e) : e = .osError := by
  unfold PublicEvidence.publish at h
  simp only at h
  split at h
  · exact (Except.error.inj h).symm
  · split at h <;> split_ifs at h <;> exact (Except.error.inj h).symm

variable {env : Surroundings} {i : Invitation}

lemma recordVote_refused {choice : Choice} :
    (st.recordVote S env choice i).2 = .error alreadyVoted ↔
      voteId i.proposalId i.userId i.proposalVersion ∈ st.votes.keys := by
  by_cases hid : (newVote env choice i).id ∈ st.votes.keys
  · have hid' : voteId i.proposalId i.userId i.proposalVersion ∈ st.votes.keys := hid
    simp [recordVote, hid, hid', alreadyVoted]
  · have hid' : voteId i.proposalId i.userId i.proposalVersion ∉ st.votes.keys := hid
    simp only [recordVote, hid, hid', if_false, iff_false]
    intro hrefused
    cases henv : env.saved with
    | false =>
      rw [changed, henv] at hrefused
      exact absurd hrefused (by simp [alreadyVoted])
    | true =>
      rw [changed, henv] at hrefused
      simp only [if_true] at hrefused
      split at hrefused
      · cases hpublish : (newVote env choice i).evidence.publish env.publication with
        | mk evidence result =>
          rw [hpublish] at hrefused
          cases result with
          | ok _ => exact absurd hrefused (by simp [Except.map])
          | error e =>
            obtain rfl : e = .osError := publish_error (congrArg Prod.snd hpublish)
            exact absurd hrefused (by simp [Except.map, alreadyVoted])
      · cases hrefused

lemma vote_of_taken {p a : String} {n : ℕ} (hinv : BallotInvariant S st)
    (h : voteId p a n ∈ st.votes.keys) :
    ∃ v ∈ st.votes.rows, v.proposalId ++ "-" ++ v.userId = p ++ "-" ++ a ∧
      v.proposalVersion = n := by
  obtain ⟨v, hv, hid⟩ := List.mem_map.mp h
  rw [hinv.voteIds v hv] at hid
  exact ⟨v, hv, voteId_inj.mp hid⟩

lemma hasVote_or_collide {choice : Choice}
    (hinv : BallotInvariant S st) (hopen : OpenBallot st env.now i)
    (hrefused : (st.recordVote S env choice i).2 = .error alreadyVoted) :
    st.HasVote i ∨ st.IdsCollide := by
  obtain ⟨v, hv, hids, hversion⟩ := vote_of_taken hinv (recordVote_refused.mp hrefused)
  by_cases hsame : (v.proposalId, v.userId) = (i.proposalId, i.userId)
  · obtain ⟨hp, ha⟩ := Prod.mk.inj hsame
    exact .inl ⟨v, hv, by rw [Vote.subject, Invitation.subject, hp, ha, hversion]⟩
  · have hsent : i.status = .sent := by
      have hwindow := hopen.window
      simp only [Invitation.windowOpen, Bool.and_eq_true, decide_eq_true_eq] at hwindow
      exact hwindow.1.1
    exact .inr ⟨i, hopen.stored, v, hv, hsent, hopen.open, hversion, hsame, hids⟩

lemma ballotOfToken_of_open {token : String}
    (hinv : BallotInvariant S st) (hopen : OpenBallot st env.now i)
    (htoken : i.tokenHash = S.sha256 token) :
    st.ballotOfToken S env token (some i.userId) false = (st, .ok i) := by
  have hfind : st.invitations.rows.find? (·.tokenHash = S.sha256 token) = some i := by
    cases hj : st.invitations.rows.find? (·.tokenHash = S.sha256 token) with
    | none => exact absurd (decide_eq_true htoken) (List.find?_eq_none.mp hj i hopen.stored)
    | some j =>
      have hhash : j.tokenHash = i.tokenHash := by
        rw [htoken]
        simpa using List.find?_some hj
      rw [List.inj_on_of_nodup_map hinv.hashes (List.mem_of_find?_eq_some hj) hopen.stored hhash]
  obtain ⟨p, hp, hversion, hstatus⟩ := hopen.open
  have hsent : i.status = .sent := by
    have hwindow := hopen.window
    simp only [Invitation.windowOpen, Bool.and_eq_true, decide_eq_true_eq] at hwindow
    exact hwindow.1.1
  unfold ballotOfToken
  simp [hfind, hsent, Option.mem_def.mp hp, hversion, hstatus, hopen.window]

lemma oneVote (hinv : BallotInvariant S st) : st.OneVote := by
  refine List.Nodup.of_map (fun subject => voteId subject.1 subject.2.1 subject.2.2) ?_
  rw [List.map_map]
  have hids : st.votes.rows.map (fun v => voteId v.proposalId v.userId v.proposalVersion) =
      st.votes.rows.map Vote.id :=
    List.map_congr_left fun v hv => (hinv.voteIds v hv).symm
  exact (hids ▸ st.votes.nodup : (st.votes.rows.map fun v =>
    voteId v.proposalId v.userId v.proposalVersion).Nodup)

lemma noInterference_iff (hinv : BallotInvariant S st) : st.NoInterference S ↔ ¬ st.IdsCollide := by
  constructor
  · rintro hno ⟨i, hi, v, hv, hsent, hopen, hversion, hne, hids⟩
    obtain ⟨s, e, hs, he, hle⟩ := hinv.windows i hi hsent
    obtain ⟨token, htoken⟩ := hinv.tokens i hi
    let env : Surroundings := { now := s }
    have hballot : OpenBallot st env.now i :=
      ⟨hi, by simp [Invitation.windowOpen, hsent, hs, he, env, hle], hopen⟩
    have hfound := ballotOfToken_of_open hinv hballot htoken
    have hid : v.id = voteId i.proposalId i.userId i.proposalVersion := by
      rw [hinv.voteIds v hv]
      exact voteId_inj.mpr ⟨hids, hversion⟩
    have hrefused : (st.castVote S env token "yes" (some i.userId) false).2 =
        .error alreadyVoted := by
      have hchoice : choice? (lower (strip "yes")) = some .yes := by decide +kernel
      simp only [castVote, hchoice, hfound]
      exact recordVote_refused.mpr (hid ▸ Table.mem_keys_of_mem hv)
    obtain ⟨w, hw, hsubject⟩ :=
      (hno env "yes" i).1 token (some i.userId) false (by rw [hfound]) hrefused
    obtain ⟨hp, ha, hn⟩ : w.proposalId = i.proposalId ∧ w.userId = i.userId ∧
        w.proposalVersion = i.proposalVersion := by
      simpa [Vote.subject, Invitation.subject] using hsubject
    have hsame : w = v := Table.eq_of_mem hw hv (by rw [hinv.voteIds w hw, hid, hp, ha, hn])
    exact hne (by rw [← hsame, hp, ha])
  · intro hno env choice i
    constructor
    · intro token user allowTokenOnly hballot hrefused
      cases hresult : st.ballotOfToken S env token user allowTokenOnly with
      | mk st' result =>
        rw [hresult] at hballot
        obtain rfl : result = .ok i := hballot
        obtain ⟨rfl, hopen, -⟩ := (ballotOfToken_spec (K := True) hresult).2 i rfl
        unfold castVote at hrefused
        cases hchoice : choice? (lower (strip choice)) with
        | none => simp [hchoice, alreadyVoted] at hrefused
        | some c =>
          simp only [hchoice, hresult] at hrefused
          exact (hasVote_or_collide hinv hopen hrefused).resolve_right hno
    · intro proposalId accountId hballot hrefused
      unfold castAccountVote at hrefused
      cases hchoice : choice? (lower (strip choice)) with
      | none => simp [hchoice, alreadyVoted] at hrefused
      | some c =>
        simp only [hchoice, hballot] at hrefused
        exact (hasVote_or_collide hinv (ballotOfAccount_spec hballot).1 hrefused).resolve_right hno

end Governance

lemma ballotInvariant_of_reaches {as : List GovernanceAction}
    (h : Reaches (Governance.step S) Always {} as st) : st.BallotInvariant S := by
  have hstart : Governance.BallotInvariant S {} := by
    constructor <;> simp [Table.empty]
  exact h.invariant hstart fun t a u hinv _ hs =>
    (writes_of_step hs).invariant (fun _ _ => Governance.ballotInvariant_write) hinv

/-- **One account, one vote.** In every reachable state an account has at most one vote on a
version of a proposal, and votes do not interfere exactly if no vote shares its joined ids with an
open invitation of other ids. -/
theorem one_account_one_vote {as : List GovernanceAction}
    (h : Reaches (Governance.step S) Always {} as st) :
    st.OneVote ∧ (st.NoInterference S ↔ ¬ st.IdsCollide) := by
  have hinv := ballotInvariant_of_reaches h
  exact ⟨Governance.oneVote hinv, Governance.noInterference_iff hinv⟩

theorem one_account_one_vote_approvedProposal :
    ∃ st, Reaches (Governance.step exampleGovernance) Always {} approvedProposal st ∧
      st.votes.rows.length = 1 ∧ st.OneVote ∧
      (st.NoInterference exampleGovernance ↔ ¬ st.IdsCollide) := by
  have hrun : (run (Governance.step exampleGovernance) {} approvedProposal).any
      (fun st => st.votes.rows.length = 1) = true := by decide +kernel
  obtain ⟨st, hst, hvotes⟩ := (Option.any_eq_true _ _).mp hrun
  exact ⟨st, reaches_always_of_run hst, of_decide_eq_true hvotes,
    one_account_one_vote (reaches_always_of_run hst)⟩

/-! ## Ids that collide -/

instance (st : Governance) : Decidable st.IdsCollide := by
  unfold Governance.IdsCollide
  infer_instance

/-- An account, a proposal, and an invitation of the account to vote on the proposal. -/
def invited (account proposal : String) (draw : InvitationDraw) : List GovernanceAction :=
  [.upsertAccount ⟨0, true, {}⟩ [("id", .str account), ("email", .str "voter@example.org")],
    .createProposal ⟨0, true, {}⟩ "proposal-0" [("id", .str proposal), ("title", .str "Lights")],
    .issueVoteEmails ⟨10, true, {}⟩ proposal [(account, draw)] (some 1),
    .deliver ⟨20, true, {}⟩ ⟨20, true, {}⟩ true draw.invitationId]

/-- Account `c` votes on proposal `a-b` while `b-c` is invited to vote on `a`. -/
def hyphenatedIds : List GovernanceAction :=
  invited "c" "a-b" ⟨"invite-a", "token-a"⟩ ++ invited "b-c" "a" ⟨"invite-b", "token-b"⟩ ++
    [.castVote ⟨30, true, {}⟩ "token-a" "yes" (some "c") false]

/-- **A vote stands in the way of another account's.** -/
theorem ids_collide : ∃ st, Reaches (Governance.step exampleGovernance) Always {} hyphenatedIds st ∧
      ¬ st.NoInterference exampleGovernance := by
  have hrun : (run (Governance.step exampleGovernance) {} hyphenatedIds).any
      (fun st => st.IdsCollide) = true := by decide +kernel
  obtain ⟨st, hst, hcollide⟩ := (Option.any_eq_true _ _).mp hrun
  have hinv := ballotInvariant_of_reaches (reaches_always_of_run hst)
  exact ⟨st, reaches_always_of_run hst, fun hno =>
    (Governance.noInterference_iff hinv).mp hno (of_decide_eq_true hcollide)⟩

end StageForge
