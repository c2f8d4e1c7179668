import StageForge.Library.KeyedLists
import StageForge.Library.OrderedDict
import StageForge.Library.TransitionSystem

/-!
# Streaming sample banks

`StreamingSampleBanks.trigger` looks the action id up, starts the clip and records the id. The lock is taken for
each of these by itself, and what lies between them reads files.
-/

namespace StageForge

open TransitionSystem Python

/-- What `trigger` reads of an entry of a bank. -/
structure SampleBankEntry where
  clipId : String
  contentHash : String
  loop : Bool

structure SampleBank where
  bankId : String
  generation : ℕ
  entries : List SampleBankEntry

/-- What `trigger` returns of a start: the result of `start_clip`, and the bank and the slot. -/
structure BankResponse (ρ : Type) where
  result : ρ
  bankId : String
  bankGeneration : ℕ
  slot : Int
  deriving DecidableEq

/-- Where a call of `trigger` is. Between `start` and what follows are the files and the producer. -/
inductive TriggerStage (ρ : Type)
  | check
  | lookup
  | start (bank : SampleBank) (entry : SampleBankEntry)
  | count
  | record (response : BankResponse ρ)
  | returned (response : BankResponse ρ) (deduplicated : Bool)
  | raised

structure TriggerCall (ρ : Type) where
  bankId : String
  slot : Int
  actionId : String
  stage : TriggerStage ρ := .check

/-- What a call finds when it reads the media and starts the clip: no file, or its digest and what `start_clip`
returns, if it returns. -/
inductive MediaOutcome (ρ : Type)
  | missing
  | found (digest : String) (result : Option ρ)

/-- The banks, the ids of the actions, the calls, and the starts that succeeded, each with its action id. -/
structure StreamingSampleBanks (ρ : Type) where
  banks : List SampleBank := []
  generation : ℕ := 0
  triggers : ℕ := 0
  failures : ℕ := 0
  actionIds : List (String × BankResponse ρ) := []
  calls : List (TriggerCall ρ) := []
  starts : List (String × BankResponse ρ) := []

inductive BankAction (ρ : Type)
  | replace (bankId : String) (entries : List SampleBankEntry)
  | call (bankId : String) (slot : Int) (actionId : String)
  | turn (k : ℕ) (media : MediaOutcome ρ)

variable {ρ : Type}

/-- The id as `trigger` uses it. -/
@[irreducible] def normalActionId (actionId : String) : String := clip 128 (strip actionId)

def TriggerCall.key (c : TriggerCall ρ) : String := normalActionId c.actionId

/-- The action id of a call that begins, unless it is empty. -/
def BankAction.key? : BankAction ρ → Option String
  | .call _ _ actionId => if normalActionId actionId = "" then none else some (normalActionId actionId)
  | _ => none

namespace StreamingSampleBanks

/-- `replace`, of entries that have been read. -/
def replace (s : StreamingSampleBanks ρ) (bankId : String) (entries : List SampleBankEntry) :
    StreamingSampleBanks ρ :=
  let bankId := clip 128 (strip bankId)
  if bankId = "" ∨ entries = [] ∨ 64 < entries.length then s
  else if (∀ bank ∈ s.banks, bank.bankId ≠ bankId) ∧ 16 ≤ s.banks.length then s
  else { s with
    generation := s.generation + 1
    banks := putByKey SampleBank.bankId s.banks ⟨bankId, s.generation + 1, entries⟩ }

def move (s : StreamingSampleBanks ρ) (k : ℕ) (c : TriggerCall ρ) (stage : TriggerStage ρ) :
    StreamingSampleBanks ρ :=
  { s with calls := s.calls.set k { c with stage } }

/-- `popitem(last=False)` until 256 entries are left. -/
@[irreducible] def recordId (ids : List (String × BankResponse ρ)) (id : String) (response : BankResponse ρ) :
    List (String × BankResponse ρ) :=
  OrderedDict.trim 256 (if id = "" then ids else putByKey Prod.fst ids (id, response))

/-- The last section: the response is recorded, and returned. -/
def record (s : StreamingSampleBanks ρ) (k : ℕ) (c : TriggerCall ρ) (response : BankResponse ρ) :
    StreamingSampleBanks ρ :=
  { s.move k c (.returned response false) with
    triggers := s.triggers + 1
    actionIds := recordId s.actionIds c.key response }

def afterCheck (s : StreamingSampleBanks ρ) (c : TriggerCall ρ) : TriggerStage ρ :=
  match if c.key = "" then none else OrderedDict.get? s.actionIds c.key with
  | some response => .returned response true
  | none => .lookup

def afterLookup (s : StreamingSampleBanks ρ) (c : TriggerCall ρ) : TriggerStage ρ :=
  match s.banks.find? fun bank => bank.bankId = c.bankId with
  | none => .raised
  | some bank => if c.slot < 0 then .raised else (bank.entries[c.slot.toNat]?).elim .raised (.start bank)

/-- `trigger`: the next section of a call. -/
def turn (s : StreamingSampleBanks ρ) (k : ℕ) (c : TriggerCall ρ) (media : MediaOutcome ρ) :
    Option (StreamingSampleBanks ρ) :=
  match c.stage with
  | .check => some (s.move k c (s.afterCheck c))
  | .lookup => some (s.move k c (s.afterLookup c))
  | .start bank entry =>
    match media with
    | .missing => some (s.move k c .raised)
    | .found digest result =>
      if digest ≠ entry.contentHash then some (s.move k c .raised)
      else match result with
        | none => some (s.move k c .count)
        | some result =>
          let response := ⟨result, bank.bankId, bank.generation, c.slot⟩
          some { s.move k c (.record response) with starts := s.starts ++ [(c.key, response)] }
  | .count => some { s.move k c .raised with failures := s.failures + 1 }
  | .record response => some (s.record k c response)
  | .returned _ _ => none
  | .raised => none

def step (s : StreamingSampleBanks ρ) : BankAction ρ → Option (StreamingSampleBanks ρ)
  | .replace bankId entries => some (s.replace bankId entries)
  | .call bankId slot actionId => some { s with calls := s.calls ++ [{ bankId, slot, actionId }] }
  | .turn k media => s.calls[k]?.bind fun c => s.turn k c media

end StreamingSampleBanks

/-- The stages from which a start may still be recorded. -/
def TriggerStage.mayRecord : TriggerStage ρ → Bool
  | .lookup | .start _ _ | .record _ => true
  | _ => false

def TriggerStage.isCheck : TriggerStage ρ → Bool
  | .check => true
  | _ => false

/-- The call has made its check and has not failed. -/
def TriggerCall.MayRecord (c : TriggerCall ρ) : Prop := c.stage.mayRecord = true

def TriggerCall.Reports (c : TriggerCall ρ) (response : BankResponse ρ) : Prop :=
  c.stage = .record response ∨ ∃ deduplicated, c.stage = .returned response deduplicated

namespace StreamingSampleBanks

variable {s after : StreamingSampleBanks ρ} {k : ℕ} {c : TriggerCall ρ}

/-- The turn is a check that is made while another call with the same id may still record its start. -/
def overlapping (s : StreamingSampleBanks ρ) : BankAction ρ → Bool
  | .turn k _ => s.calls[k]?.any fun c => c.stage.isCheck && decide (c.key ≠ "") &&
      s.calls.any fun d => decide (d.key = c.key) && d.stage.mayRecord
  | _ => false

/-- What holds as long as no check overlaps; `keys` are the ids that have been used. -/
structure Kept (s : StreamingSampleBanks ρ) (keys : List String) : Prop where
  nodup : ((s.starts.map Prod.fst).filter (· ≠ "")).Nodup
  distinct : (s.actionIds.map Prod.fst).Nodup
  recorded : ∀ e ∈ s.actionIds, e ∈ s.starts ∧ e.1 ∈ keys
  started : ∀ e ∈ s.starts, e.1 ≠ "" → e ∈ s.actionIds ∨
    ∃ (k : ℕ) (c : TriggerCall ρ), s.calls[k]? = some c ∧ c.key = e.1 ∧ c.stage = .record e.2
  used : ∀ (k : ℕ) (c : TriggerCall ρ), s.calls[k]? = some c → c.key ≠ "" → c.key ∈ keys
  alone : ∀ (j k : ℕ) (c d : TriggerCall ρ), s.calls[j]? = some c → s.calls[k]? = some d → c.key ≠ "" → d.key = c.key →
    c.MayRecord → d.MayRecord → j = k
  fresh : ∀ (k : ℕ) (c : TriggerCall ρ), s.calls[k]? = some c → c.key ≠ "" → c.MayRecord → c.key ∉ s.actionIds.map Prod.fst
  reports : ∀ (k : ℕ) (c : TriggerCall ρ), s.calls[k]? = some c → c.key ≠ "" → ∀ response, c.Reports response →
    (c.key, response) ∈ s.starts

variable {keys : List String} {stage : TriggerStage ρ} {action : BankAction ρ}

lemma calls_set {calls : List (TriggerCall ρ)} {d e : TriggerCall ρ} {j k : ℕ}
    (h : (calls.set k e)[j]? = some d) : (j = k ∧ d = e) ∨ (j ≠ k ∧ calls[j]? = some d) := by
  by_cases hj : j = k
  · subst hj
    obtain ⟨hlt, heq⟩ := List.getElem?_eq_some_iff.mp h
    exact .inl ⟨rfl, heq.symm.trans (List.getElem_set_self hlt)⟩
  · rw [List.getElem?_set_ne (Ne.symm hj)] at h
    exact .inr ⟨hj, h⟩

/-- **A call goes on**, with the start that it now is to record, or the record that it makes. -/
lemma Kept.moves (h : s.Kept keys) (hk : s.calls[k]? = some c) {extra recorded : List (String × BankResponse ρ)}
    (hcalls : after.calls = s.calls.set k { c with stage })
    (hstarts : after.starts = s.starts ++ extra) (hids : after.actionIds = s.actionIds ++ recorded)
    (hnodup : ((after.starts.map Prod.fst).filter (· ≠ "")).Nodup)
    (hdistinct : (after.actionIds.map Prod.fst).Nodup)
    (hextra : ∀ e ∈ extra, e.1 = c.key ∧ stage = .record e.2)
    (hrecorded : ∀ e ∈ recorded, e.1 = c.key ∧ c.key ≠ "" ∧ c.stage = .record e.2)
    (hstays : c.key ≠ "" → ∀ response, c.stage = .record response → (c.key, response) ∈ recorded)
    (hmay : c.key ≠ "" → ({ c with stage } : TriggerCall ρ).MayRecord → recorded = [] ∧ (c.MayRecord ∨
      c.key ∉ s.actionIds.map Prod.fst ∧ ∀ (j : ℕ) (d : TriggerCall ρ), s.calls[j]? = some d → d.key = c.key → ¬d.MayRecord))
    (hreports : c.key ≠ "" → ∀ response, ({ c with stage } : TriggerCall ρ).Reports response →
      (c.key, response) ∈ after.starts) : after.Kept keys := by
  have hmayRecord : ∀ e ∈ recorded, c.MayRecord := fun e he => by
    rw [TriggerCall.MayRecord, (hrecorded e he).2.2]
    trivial
  refine ⟨hnodup, hdistinct, ?_, ?_, ?_, ?_, ?_, ?_⟩
  · intro e he
    rw [hids] at he
    rw [hstarts]
    rcases List.mem_append.mp he with hold | hnew
    · exact ⟨List.mem_append_left _ (h.recorded e hold).1, (h.recorded e hold).2⟩
    · obtain ⟨hkey, hne, hrecord⟩ := hrecorded e hnew
      refine ⟨List.mem_append_left _ ?_, hkey ▸ h.used k c hk hne⟩
      exact (Prod.ext hkey rfl : e = (c.key, e.2)) ▸ h.reports k c hk hne _ (.inl hrecord)
  · intro e he hne
    rw [hids, hcalls]
    rw [hstarts] at he
    rcases List.mem_append.mp he with hold | hnew
    · rcases h.started e hold hne with hin | ⟨j, d, hd, hkey, hrecord⟩
      · exact .inl (List.mem_append_left _ hin)
      · by_cases hj : j = k
        · subst hj
          cases hk.symm.trans hd
          refine .inl (List.mem_append_right _ ?_)
          exact (Prod.ext hkey.symm rfl : e = (c.key, e.2)) ▸ hstays (hkey ▸ hne) _ hrecord
        · exact .inr ⟨j, d, (List.getElem?_set_ne (Ne.symm hj)).trans hd, hkey, hrecord⟩
    · exact .inr ⟨k, _, List.getElem?_set_self (List.getElem?_eq_some_iff.mp hk).1, (hextra e hnew).1.symm, (hextra e hnew).2⟩
  · intro j d hd hne
    rw [hcalls] at hd
    rcases calls_set hd with ⟨rfl, rfl⟩ | ⟨-, hd⟩
    · exact h.used j c hk hne
    · exact h.used j d hd hne
  · have hone : ∀ (j : ℕ) (d : TriggerCall ρ), j ≠ k → s.calls[j]? = some d → c.key ≠ "" → d.key = c.key → d.MayRecord →
        ¬({ c with stage } : TriggerCall ρ).MayRecord := by
      intro j d hj hd hne hkey hd' hmoved
      rcases (hmay hne hmoved).2 with hc | ⟨-, hnone⟩
      · exact hj (h.alone k j c d hk hd hne hkey hc hd').symm
      · exact hnone j d hd hkey hd'
    intro i j d e hd he hne hkey hd' he'
    rw [hcalls] at hd he
    rcases calls_set hd with ⟨rfl, rfl⟩ | ⟨hi, hold⟩
    · rcases calls_set he with ⟨rfl, rfl⟩ | ⟨hj, hother⟩
      · rfl
      · exact absurd hd' (hone j e hj hother hne hkey he')
    · rcases calls_set he with ⟨rfl, rfl⟩ | ⟨-, hother⟩
      · exact absurd he' (hone i d hi hold (fun hempty => hne (hkey.symm.trans hempty)) hkey.symm hd')
      · exact h.alone i j d e hold hother hne hkey hd' he'
  · intro j d hd hne hd'
    rw [hcalls] at hd
    rw [hids, List.map_append, List.mem_append]
    rintro (hold | hnew)
    · rcases calls_set hd with ⟨rfl, rfl⟩ | ⟨-, hd⟩
      · exact (hmay hne hd').2.elim (fun hc => h.fresh j c hk hne hc hold) fun hnone => hnone.1 hold
      · exact h.fresh j d hd hne hd' hold
    · obtain ⟨e, he, hkey⟩ := List.mem_map.mp hnew
      rcases calls_set hd with ⟨rfl, rfl⟩ | ⟨hj, hd⟩
      · rw [(hmay hne hd').1] at he
        cases he
      · have hsame : d.key = c.key := hkey.symm.trans (hrecorded e he).1
        exact hj (h.alone k j c d hk hd (hsame ▸ hne) hsame (hmayRecord e he) hd').symm
  · intro j d hd hne response hresponse
    rw [hcalls] at hd
    rcases calls_set hd with ⟨rfl, rfl⟩ | ⟨-, hd⟩
    · exact hreports hne response hresponse
    · rw [hstarts]
      exact List.mem_append_left _ (h.reports j d hd hne response hresponse)

lemma Kept.move (h : s.Kept keys) (hk : s.calls[k]? = some c)
    (hcalls : after.calls = s.calls.set k { c with stage })
    (hstarts : after.starts = s.starts) (hids : after.actionIds = s.actionIds)
    (hstays : ∀ response, c.stage ≠ .record response)
    (hmay : c.key ≠ "" → ({ c with stage } : TriggerCall ρ).MayRecord → c.MayRecord ∨
      c.key ∉ s.actionIds.map Prod.fst ∧ ∀ (j : ℕ) (d : TriggerCall ρ), s.calls[j]? = some d → d.key = c.key → ¬d.MayRecord)
    (hreports : c.key ≠ "" → ∀ response, ({ c with stage } : TriggerCall ρ).Reports response →
      (c.key, response) ∈ s.starts) : after.Kept keys :=
  h.moves hk hcalls (hstarts.trans (List.append_nil _).symm : after.starts = s.starts ++ [])
    (hids.trans (List.append_nil _).symm : after.actionIds = s.actionIds ++ []) (hstarts ▸ h.nodup) (hids ▸ h.distinct)
    (fun _ he => nomatch he) (fun _ he => nomatch he) (fun _ _ hrecord => absurd hrecord (hstays _))
    (fun hne hmoved => ⟨rfl, hmay hne hmoved⟩) (hstarts ▸ hreports)

lemma Kept.fails (h : s.Kept keys) (hk : s.calls[k]? = some c)
    (hcalls : after.calls = s.calls.set k { c with stage })
    (hstarts : after.starts = s.starts) (hids : after.actionIds = s.actionIds)
    (hstays : ∀ response, c.stage ≠ .record response) (hfailed : stage = .raised ∨ stage = .count) :
    after.Kept keys := by
  refine h.move hk hcalls hstarts hids hstays (fun _ hmoved => ?_) (fun _ response hresponse => ?_)
  · rcases hfailed with rfl | rfl <;> exact absurd hmoved Bool.false_ne_true
  · rcases hfailed with rfl | rfl <;> obtain hrecord | ⟨_, hreturned⟩ := hresponse
    all_goals first
      | cases hrecord
      | cases hreturned

lemma Kept.not_started (h : s.Kept keys) (hk : s.calls[k]? = some c) (hne : c.key ≠ "")
    {bank : SampleBank} {entry : SampleBankEntry} (hstage : c.stage = .start bank entry) :
    c.key ∉ s.starts.map Prod.fst := by
  have hmay : c.MayRecord := by
    rw [TriggerCall.MayRecord, hstage]
    trivial
  intro hmem
  obtain ⟨e, he, hkey⟩ := List.mem_map.mp hmem
  rcases h.started e he (by rwa [hkey]) with hrecorded | ⟨j, d, hd, hdkey, hrecord⟩
  · exact h.fresh k c hk hne hmay (hkey ▸ List.mem_map_of_mem hrecorded)
  · have hd' : d.MayRecord := by
      rw [TriggerCall.MayRecord, hrecord]
      trivial
    obtain rfl := h.alone k j c d hk hd hne (hdkey.trans hkey) hmay hd'
    cases hk.symm.trans hd
    cases hstage.symm.trans hrecord

lemma Kept.trim_eq (h : s.Kept keys) (hfew : keys.dedup.length ≤ 256) {recorded : List (String × BankResponse ρ)}
    (hdistinct : ((s.actionIds ++ recorded).map Prod.fst).Nodup) (hused : ∀ e ∈ recorded, e.1 ∈ keys) :
    OrderedDict.trim 256 (s.actionIds ++ recorded) = s.actionIds ++ recorded := by
  have hsub : (s.actionIds ++ recorded).map Prod.fst ⊆ keys.dedup := by
    intro id hid
    obtain ⟨e, he, rfl⟩ := List.mem_map.mp hid
    exact List.mem_dedup.mpr ((List.mem_append.mp he).elim (fun hold => (h.recorded e hold).2) (hused e))
  have hle := (List.subperm_of_subset hdistinct hsub).length_le
  rw [List.length_map] at hle
  rw [OrderedDict.trim, Nat.sub_eq_zero_of_le (hle.trans hfew), List.drop_zero]

/-- **A start succeeds.** -/
lemma Kept.starting (h : s.Kept keys) (hk : s.calls[k]? = some c) {bank : SampleBank} {entry : SampleBankEntry}
    (hstage : c.stage = .start bank entry) {response : BankResponse ρ}
    (hcalls : after.calls = s.calls.set k { c with stage := .record response })
    (hstarts : after.starts = s.starts ++ [(c.key, response)]) (hids : after.actionIds = s.actionIds) :
    after.Kept keys := by
  have hmay : c.MayRecord := by
    rw [TriggerCall.MayRecord, hstage]
    trivial
  refine h.moves hk hcalls hstarts (hids.trans (List.append_nil _).symm : after.actionIds = s.actionIds ++ []) ?_
    (hids ▸ h.distinct) ?_ (fun _ he => nomatch he) ?_ (fun _ _ => ⟨rfl, .inl hmay⟩) ?_
  · rw [hstarts, List.map_append, List.filter_append]
    refine h.nodup.append ((List.nodup_singleton _).filter _) fun id hold hnew => ?_
    obtain ⟨hid, hne⟩ := List.mem_filter.mp hnew
    obtain rfl := List.mem_singleton.mp hid
    exact h.not_started hk (of_decide_eq_true hne) hstage (List.mem_of_mem_filter hold)
  · intro e he
    obtain rfl := List.mem_singleton.mp he
    exact ⟨rfl, rfl⟩
  · intro _ recorded hrecord
    cases hstage.symm.trans hrecord
  · rw [hstarts]
    rintro - response' (hrecord | ⟨_, hreturned⟩)
    · cases hrecord
      exact List.mem_append_right _ (List.mem_singleton_self _)
    · cases hreturned

lemma Kept.recordId_eq (h : s.Kept keys) (hfew : keys.dedup.length ≤ 256) (hk : s.calls[k]? = some c)
    (hmay : c.MayRecord) (response : BankResponse ρ) :
    recordId s.actionIds c.key response =
      s.actionIds ++ if c.key = "" then [] else [(c.key, response)] := by
  by_cases hempty : c.key = ""
  · unfold recordId
    rw [if_pos hempty, if_pos hempty]
    have htrim : OrderedDict.trim 256 (s.actionIds ++ []) = s.actionIds ++ [] :=
      h.trim_eq hfew (by simpa using h.distinct) fun _ he => nomatch he
    rwa [List.append_nil] at htrim ⊢
  · have hnew := h.fresh k c hk hempty hmay
    have hput : putByKey Prod.fst s.actionIds (c.key, response) = s.actionIds ++ [(c.key, response)] := by
      refine if_neg fun hany => hnew ?_
      obtain ⟨e, he, hkey⟩ := List.any_eq_true.mp hany
      exact List.mem_map.mpr ⟨e, he, of_decide_eq_true hkey⟩
    unfold recordId
    rw [if_neg hempty, if_neg hempty, hput]
    refine h.trim_eq hfew ?_ fun e he => List.mem_singleton.mp he ▸ h.used k c hk hempty
    rw [List.map_append]
    exact h.distinct.append (List.nodup_singleton _) fun id hid hlast =>
      hnew ((List.mem_singleton.mp hlast : id = c.key) ▸ hid)

/-- **A start is recorded.** -/
lemma Kept.recording (h : s.Kept keys) (hfew : keys.dedup.length ≤ 256) (hk : s.calls[k]? = some c)
    {response : BankResponse ρ} (hstage : c.stage = .record response) :
    (s.record k c response).Kept keys := by
  have hmay : c.MayRecord := by
    rw [TriggerCall.MayRecord, hstage]
    trivial
  have hids : (s.record k c response).actionIds = _ := h.recordId_eq hfew hk hmay response
  have hstarts : (s.record k c response).starts = s.starts ++ [] := (List.append_nil _).symm
  refine h.moves hk rfl hstarts hids
    h.nodup ?_ (fun _ he => nomatch he) (fun e he => ?_) ?_ (fun _ hmoved => absurd hmoved Bool.false_ne_true) ?_
  · rw [hids]
    split
    · rw [List.append_nil]
      exact h.distinct
    · next hne =>
      rw [List.map_append]
      exact h.distinct.append (List.nodup_singleton _) fun id hid hlast =>
        h.fresh k c hk hne hmay ((List.mem_singleton.mp hlast : id = c.key) ▸ hid)
  · split at he
    · cases he
    · next hne =>
      obtain rfl := List.mem_singleton.mp he
      exact ⟨rfl, hne, hstage⟩
  · intro hne response' hrecord
    cases hstage.symm.trans hrecord
    rw [if_neg hne]
    exact List.mem_singleton_self _
  · rintro hne response' (hrecord | ⟨_, hreturned⟩)
    · cases hrecord
    · cases hreturned
      exact h.reports k c hk hne _ (.inl hstage)

lemma afterCheck_cases (s : StreamingSampleBanks ρ) (c : TriggerCall ρ) :
    (s.afterCheck c = .lookup ∧ (c.key ≠ "" → c.key ∉ s.actionIds.map Prod.fst)) ∨
      ∃ response, s.afterCheck c = .returned response true ∧ (c.key, response) ∈ s.actionIds := by
  rw [afterCheck]
  by_cases hempty : c.key = ""
  · rw [if_pos hempty]
    exact .inl ⟨rfl, absurd hempty⟩
  rw [if_neg hempty]
  cases hget : OrderedDict.get? s.actionIds c.key with
  | none => exact .inl ⟨rfl, fun _ => OrderedDict.get?_eq_none_iff.mp hget⟩
  | some response =>
    obtain ⟨e, he, rfl⟩ := Option.map_eq_some_iff.mp hget
    have hkey : e.1 = c.key := by simpa using List.find?_some he
    exact .inr ⟨e.2, rfl, hkey ▸ List.mem_of_find?_eq_some he⟩

lemma afterLookup_cases (s : StreamingSampleBanks ρ) (c : TriggerCall ρ) :
    s.afterLookup c = .raised ∨ ∃ bank entry, s.afterLookup c = .start bank entry := by
  rw [afterLookup]
  cases s.banks.find? fun bank => bank.bankId = c.bankId with
  | none => exact .inl rfl
  | some bank =>
    dsimp only
    split
    · exact .inl rfl
    · cases bank.entries[c.slot.toNat]? with
      | none => exact .inl rfl
      | some entry => exact .inr ⟨bank, entry, rfl⟩

/-- **The turn of a call.** -/
lemma Kept.turn (h : s.Kept keys) (hfew : keys.dedup.length ≤ 256) (hk : s.calls[k]? = some c)
    {media : MediaOutcome ρ} (halone : s.overlapping (.turn k media) = false)
    (hstep : s.turn k c media = some after) : after.Kept keys := by
  rw [StreamingSampleBanks.turn] at hstep
  cases hstage : c.stage with
  | check =>
    simp only [hstage] at hstep
    cases hstep
    have hstays : ∀ response, c.stage ≠ .record response := by simp [hstage]
    rcases s.afterCheck_cases c with ⟨hnext, hnew⟩ | ⟨response, hnext, hin⟩ <;> rw [hnext]
    · refine h.move hk rfl rfl rfl hstays (fun hne _ => .inr ⟨hnew hne, fun j d hd hkey hd' => ?_⟩) ?_
      · rw [overlapping, hk, Option.any_some, hstage] at halone
        refine absurd halone (Bool.not_eq_false _ ▸ ?_)
        rw [Bool.and_eq_true, Bool.and_eq_true, List.any_eq_true]
        exact ⟨⟨rfl, decide_eq_true hne⟩, d, List.mem_of_getElem? hd, by simp [hkey, show d.stage.mayRecord = true from hd']⟩
      · rintro - response (hrecord | ⟨_, hreturned⟩)
        · cases hrecord
        · cases hreturned
    · refine h.move hk rfl rfl rfl hstays (fun _ hmoved => absurd hmoved Bool.false_ne_true) ?_
      rintro - response' (hrecord | ⟨_, hreturned⟩)
      · cases hrecord
      · cases hreturned
        exact (h.recorded _ hin).1
  | lookup =>
    simp only [hstage] at hstep
    cases hstep
    have hstays : ∀ response, c.stage ≠ .record response := by simp [hstage]
    rcases s.afterLookup_cases c with hnext | ⟨bank, entry, hnext⟩ <;> rw [hnext]
    · exact h.fails hk rfl rfl rfl hstays (.inl rfl)
    · refine h.move hk rfl rfl rfl hstays (fun _ _ => .inl ?_) ?_
      · rw [TriggerCall.MayRecord, hstage]
        trivial
      · rintro - response (hrecord | ⟨_, hreturned⟩)
        · cases hrecord
        · cases hreturned
  | start bank entry =>
    have hstays : ∀ response, c.stage ≠ .record response := by simp [hstage]
    simp only [hstage] at hstep
    split at hstep
    · cases hstep
      exact h.fails hk rfl rfl rfl hstays (.inl rfl)
    · split at hstep
      · cases hstep
        exact h.fails hk rfl rfl rfl hstays (.inl rfl)
      · split at hstep
        · cases hstep
          exact h.fails hk rfl rfl rfl hstays (.inr rfl)
        · next result =>
          cases hstep
          exact h.starting hk hstage rfl rfl rfl
  | count =>
    simp only [hstage] at hstep
    cases hstep
    exact h.fails hk rfl rfl rfl (by simp [hstage]) (.inl rfl)
  | record response =>
    simp only [hstage] at hstep
    cases hstep
    exact h.recording hfew hk hstage
  | returned response deduplicated =>
    simp only [hstage] at hstep
    cases hstep
  | raised =>
    simp only [hstage] at hstep
    cases hstep

lemma replace_eq (s : StreamingSampleBanks ρ) (bankId : String) (entries : List SampleBankEntry) :
    ∃ banks generation, s.replace bankId entries = { s with banks, generation } := by
  unfold StreamingSampleBanks.replace
  dsimp only
  split_ifs
  · exact ⟨s.banks, s.generation, rfl⟩
  · exact ⟨s.banks, s.generation, rfl⟩
  · exact ⟨_, _, rfl⟩

/-- **The step lemma.** -/
lemma Kept.step (h : s.Kept keys) (hfew : keys.dedup.length ≤ 256) (halone : s.overlapping action = false)
    (hstep : s.step action = some after) : after.Kept (keys ++ action.key?.toList) := by
  have hgrown : s.Kept (keys ++ action.key?.toList) := { h with
      recorded := fun e he => ⟨(h.recorded e he).1, List.mem_append_left _ (h.recorded e he).2⟩
      used := fun k c hk hne => List.mem_append_left _ (h.used k c hk hne) }
  cases action with
  | replace bankId entries =>
    obtain ⟨banks, generation, hreplace⟩ := s.replace_eq bankId entries
    rw [StreamingSampleBanks.step, hreplace, Option.some.injEq] at hstep
    subst hstep
    exact { hgrown with }
  | call bankId slot actionId =>
    cases hstep
    have hcases : ∀ {j : ℕ} {d : TriggerCall ρ}, (s.calls ++ [⟨bankId, slot, actionId, .check⟩])[j]? = some d →
        s.calls[j]? = some d ∨ d = ⟨bankId, slot, actionId, .check⟩ := by
      intro j d hd
      rw [List.getElem?_append] at hd
      split_ifs at hd
      · exact .inl hd
      · exact .inr (List.mem_singleton.mp (List.mem_of_getElem? hd))
    refine { hgrown with started := ?_, used := ?_, alone := ?_, fresh := ?_, reports := ?_ }
    · intro e he hne
      refine (hgrown.started e he hne).imp_right ?_
      rintro ⟨j, d, hd, hrecord⟩
      exact ⟨j, d, List.getElem?_append_left (List.getElem?_eq_some_iff.mp hd).1 ▸ hd, hrecord⟩
    · intro j d hd hne
      rcases hcases hd with hold | rfl
      · exact hgrown.used j d hold hne
      · rw [TriggerCall.key] at hne ⊢
        rw [BankAction.key?, if_neg hne]
        exact List.mem_append_right _ (List.mem_singleton_self _)
    · intro i j d e hd he hne hkey hd' he'
      rcases hcases hd with hold | rfl
      · rcases hcases he with hother | rfl
        · exact h.alone i j d e hold hother hne hkey hd' he'
        · exact absurd he' Bool.false_ne_true
      · exact absurd hd' Bool.false_ne_true
    · intro j d hd hne hd'
      rcases hcases hd with hold | rfl
      · exact h.fresh j d hold hne hd'
      · exact absurd hd' Bool.false_ne_true
    · intro j d hd hne response hreports
      rcases hcases hd with hold | rfl
      · exact h.reports j d hold hne response hreports
      · rcases hreports with hrecord | ⟨_, hreturned⟩
        · cases hrecord
        · cases hreturned
  | turn k media =>
    obtain ⟨c, hk, hturn⟩ := Option.bind_eq_some_iff.mp hstep
    have hnone : (BankAction.turn k media).key? = none := rfl
    rw [hnone, Option.toList_none, List.append_nil]
    exact h.turn hfew hk halone hturn

lemma kept_initial : ({} : StreamingSampleBanks ρ).Kept [] where
  nodup := List.nodup_nil
  distinct := List.nodup_nil
  recorded := fun _ he => nomatch he
  started := fun _ he => nomatch he
  used := fun _ _ hk => nomatch hk
  alone := fun _ _ _ _ hk => nomatch hk
  fresh := fun _ _ hk => nomatch hk
  reports := fun _ _ hk => nomatch hk

/-- **The run lemma.** -/
lemma kept_of_reaches {actions : List (BankAction ρ)}
    (h : Reaches step (fun s action => s.overlapping action = false) {} actions s) :
    (actions.filterMap BankAction.key?).dedup.length ≤ 256 →
      s.Kept (actions.filterMap BankAction.key?) := by
  induction h with
  | refl => exact fun _ => kept_initial
  | @snoc actions t u action _ halone hstep ih =>
    intro hfew
    rw [List.filterMap_append] at hfew ⊢
    have hbefore : (actions.filterMap BankAction.key?).dedup.length ≤ 256 := by
      refine le_trans ?_ hfew
      exact (List.subperm_of_subset (List.nodup_dedup _) fun id hid =>
        List.mem_dedup.mpr (List.mem_append_left _ (List.mem_dedup.mp hid))).length_le
    have hkept := (ih hbefore).step hbefore halone hstep
    cases hkey : action.key? <;> simpa [hkey] using hkept

/-- **One action id starts one voice.** In every run in which no check overlaps and at most 256 ids are used, a
clip is started at most once for each id, and every call with the id that returns reports that start. -/
theorem one_start_per_id {actions : List (BankAction ρ)}
    (h : Reaches step (fun s action => s.overlapping action = false) {} actions s)
    (hfew : (actions.filterMap BankAction.key?).dedup.length ≤ 256) {id : String} (hid : id ≠ "") :
    (s.starts.filter fun e => e.1 = id).length ≤ 1 ∧
      ∀ (k : ℕ) (c : TriggerCall ρ) response deduplicated, s.calls[k]? = some c → c.key = id →
        c.stage = .returned response deduplicated → (s.starts.filter fun e => e.1 = id) = [(id, response)] := by
  have hkept := kept_of_reaches h hfew
  have hone : (s.starts.filter fun e => e.1 = id).length ≤ 1 := by
    have hcount := List.nodup_iff_count_le_one.mp hkept.nodup id
    rw [List.count_filter (by simpa using hid), List.count_eq_countP, List.countP_map,
      List.countP_eq_length_filter] at hcount
    exact hcount
  refine ⟨hone, fun k c response deduplicated hk hkey hstage => ?_⟩
  have hmem := hkept.reports k c hk (hkey ▸ hid) response (.inr ⟨deduplicated, hstage⟩)
  rw [hkey] at hmem
  have hin : (id, response) ∈ s.starts.filter fun e => e.1 = id :=
    List.mem_filter.mpr ⟨hmem, decide_eq_true rfl⟩
  obtain ⟨e, he⟩ := List.length_eq_one_iff.mp (le_antisymm hone (List.length_pos_of_mem hin))
  rw [he] at hin ⊢
  rw [List.mem_singleton.mp hin]

/-- A bank with one entry, and two calls of the action `go`. -/
def exampleCalls (turns : List ℕ) : List (BankAction ℕ) :=
  [.replace "show" [⟨"clip", "digest", false⟩], .call "show" 0 "go", .call "show" 0 " go "] ++
    turns.map fun k => .turn k (.found "digest" (some k))

theorem one_start_per_id_retry : ∃ s : StreamingSampleBanks ℕ,
    s.starts.filter (fun e => e.1 = "go") = [("go", ⟨0, "show", 1, 0⟩)] := by
  have hrun : (run (fun s action => if s.overlapping action = false then s.step action else none)
      ({} : StreamingSampleBanks ℕ) (exampleCalls [0, 0, 0, 0, 1])).any
        (fun s => s.calls.any fun c => decide (c.key = "go") && match c.stage with
          | .returned response true => decide (response = ⟨0, "show", 1, 0⟩)
          | _ => false) = true := by
    decide +kernel
  obtain ⟨s, hs, hstate⟩ := (Option.any_eq_true _ _).mp hrun
  obtain ⟨c, hc, hcall⟩ := List.any_eq_true.mp hstate
  obtain ⟨k, hk⟩ := List.mem_iff_getElem?.mp hc
  rw [Bool.and_eq_true, decide_eq_true_eq] at hcall
  split at hcall
  · next response hstage =>
    obtain rfl := of_decide_eq_true hcall.2
    exact ⟨s, (one_start_per_id (reaches_of_run hs) (by decide +kernel) (show "go" ≠ "" by decide)).2 k c _ _ hk
      hcall.1 hstage⟩
  · cases hcall.2

/-- **Two voices for one id.** Both calls make their check before either has recorded its start. -/
theorem id_started_twice : ∃ s : StreamingSampleBanks ℕ,
    Reaches step Always {} (exampleCalls [0, 1, 0, 1, 0, 1, 0, 1]) s ∧
      (s.starts.filter fun e => e.1 = "go").length = 2 :=
  reaches_always_of_any (by decide +kernel)

end StreamingSampleBanks

end StageForge
