import StageForge.Native.ShowEventRuns

/-!
# The show execution loop

One thread owns the dispatcher. Other threads have it drain up to a show time, or cancel an event,
through **one request slot**: a client waits until no request is pending and places its own; the owner
copies it, executes it, and writes the results and the flags; the client waits until the flag says
completed, and then reads the result, without the lock.

A request has a ticket: its place among those placed.
-/

namespace StageForge

open TransitionSystem

/-- `ControlRequest`; no request is `none`. -/
inductive ControlRequest
  | drain (showTimeNs : UInt64)
  | cancel (key : ReplayKey)

structure ControlAnswer where
  count : UInt64
  success : Bool

inductive ControlReply
  | count (count : UInt64)
  | success (success : Bool)
  deriving DecidableEq

/-- `drain_until` returns the count and `cancel` the success. -/
def ControlAnswer.reply (answer : ControlAnswer) : ControlRequest → ControlReply
  | .drain _ => .count answer.count
  | .cancel _ => .success answer.success

inductive ClientStage
  | idle
  | calling (request : ControlRequest)
  | waiting (request : ControlRequest) (ticket : ℕ)
  | reading (request : ControlRequest) (ticket : ℕ)

/-- Where the owner is in `process_request`. -/
inductive OwnerStage
  | idle
  | picked (request : Option ControlRequest)
  | computed (answer : ControlAnswer)

structure ShowExecutionLoop (Client : Type) (S : NativeFloats)
    (ingressCapacity timelineCapacity replayCapacity : ℕ) where
  dispatcher : ShowEventDispatcher S ingressCapacity timelineCapacity replayCapacity
  request : Option ControlRequest
  requestPending : Bool
  requestCompleted : Bool
  result : ControlAnswer
  owner : OwnerStage
  clients : Client → ClientStage
  /-- The requests placed so far. -/
  placed : List (Client × ControlRequest)
  /-- The requests executed so far, with what came of them. -/
  executed : List (Option ControlRequest × ControlAnswer)
  /-- What the calls have returned, with the tickets of their requests. -/
  returned : List (Client × ℕ × ControlReply)

inductive LoopAction (Client : Type) (S : NativeFloats)
    (ingressCapacity timelineCapacity replayCapacity : ℕ)
  | call (client : Client) (request : ControlRequest)
  | place (client : Client)
  | observe (client : Client)
  | read (client : Client)
  | pick
  | execute (sink : ShowEventSink S) (fuel : ℕ)
  | complete
  | elsewhere (dispatcher : ShowEventDispatcher S ingressCapacity timelineCapacity replayCapacity)

variable {Client : Type} [DecidableEq Client] {S : NativeFloats}
  {ingressCapacity timelineCapacity replayCapacity : ℕ} [NeZero replayCapacity]

def ShowEventDispatcher.serve
    (d : ShowEventDispatcher S ingressCapacity timelineCapacity replayCapacity)
    (sink : ShowEventSink S) (fuel : ℕ) : Option ControlRequest →
    Option (ShowEventDispatcher S ingressCapacity timelineCapacity replayCapacity × ControlAnswer)
  | none => some (d, ⟨0, false⟩)
  | some (.drain showTimeNs) => (d.dispatchDue showTimeNs sink fuel).map fun out =>
    (out.1, ⟨UInt64.ofNat (out.2.countP fun note => decide (note.fate = .dispatched)), true⟩)
  | some (.cancel key) =>
    let out := d.cancel key
    some (out.1, ⟨0, out.2.any fun note => decide (note.fate = .cancelled)⟩)

namespace ShowExecutionLoop

def start (dispatcher : ShowEventDispatcher S ingressCapacity timelineCapacity replayCapacity) :
    ShowExecutionLoop Client S ingressCapacity timelineCapacity replayCapacity where
  dispatcher := dispatcher
  request := none
  requestPending := false
  requestCompleted := false
  result := ⟨0, false⟩
  owner := .idle
  clients _ := .idle
  placed := []
  executed := []
  returned := []

variable (s : ShowExecutionLoop Client S ingressCapacity timelineCapacity replayCapacity)

def move (client : Client) (stage : ClientStage) :
    ShowExecutionLoop Client S ingressCapacity timelineCapacity replayCapacity :=
  { s with clients := Function.update s.clients client stage }

def step : LoopAction Client S ingressCapacity timelineCapacity replayCapacity →
    Option (ShowExecutionLoop Client S ingressCapacity timelineCapacity replayCapacity)
  | .call client request =>
    match s.clients client with
    | .idle => some (s.move client (.calling request))
    | _ => none
  | .place client =>
    match s.clients client with
    | .calling request =>
      if s.requestPending then none
      else some { s.move client (.waiting request s.placed.length) with
        request := some request
        requestPending := true
        requestCompleted := false
        placed := s.placed ++ [(client, request)] }
    | _ => none
  | .observe client =>
    match s.clients client with
    | .waiting request ticket =>
      if s.requestCompleted then some (s.move client (.reading request ticket)) else none
    | _ => none
  | .read client =>
    match s.clients client with
    | .reading request ticket =>
      some { s.move client .idle with
        returned := s.returned ++ [(client, ticket, s.result.reply request)] }
    | _ => none
  | .pick =>
    match s.owner with
    | .idle => if s.requestPending then some { s with owner := .picked s.request } else none
    | _ => none
  | .execute sink fuel =>
    match s.owner with
    | .picked request => (s.dispatcher.serve sink fuel request).map fun out =>
      { s with
        dispatcher := out.1
        owner := .computed out.2
        executed := s.executed ++ [(request, out.2)] }
    | _ => none
  | .complete =>
    match s.owner with
    | .computed answer => some { s with
        result := answer
        requestCompleted := true
        requestPending := false
        owner := .idle }
    | _ => none
  | .elsewhere dispatcher => some { s with dispatcher := dispatcher }

/-! ## Every request is executed once -/

def answered : ℕ := match s.owner with
  | .computed _ => s.executed.length - 1
  | _ => s.executed.length

def newest : Option ControlRequest := s.placed.getLast?.map Prod.snd

/-- What the slot and the flags have to do with the requests. -/
def OwnerKept : Prop := match s.owner with
  | .idle =>
    (s.requestPending = true → s.requestCompleted = false ∧ s.request = s.newest ∧
      s.placed.length = s.executed.length + 1) ∧
    (s.requestPending = false → s.placed.length = s.executed.length)
  | .picked request => s.requestPending = true ∧ s.requestCompleted = false ∧ request = s.newest ∧
      s.placed.length = s.executed.length + 1
  | .computed answer => s.requestPending = true ∧ s.requestCompleted = false ∧
      s.placed.length = s.executed.length ∧ s.executed.getLast?.map Prod.snd = some answer

def ClientKept (client : Client) : Prop := match s.clients client with
  | .waiting request ticket => s.placed[ticket]? = some (client, request)
  | .reading request ticket => s.placed[ticket]? = some (client, request) ∧ ticket < s.answered
  | _ => True

/-- The executed requests are the placed ones, the newest one perhaps missing. -/
structure ExecutedOnce : Prop where
  inOrder : s.executed.map Prod.fst <+: s.placed.map (some ∘ Prod.snd)
  allButOne : s.placed.length ≤ s.executed.length + 1
  returned : ∀ r ∈ s.returned, r.2.1 < s.executed.length

structure Kept : Prop where
  owner : s.OwnerKept
  clients : ∀ client, s.ClientKept client
  inOrder : s.executed.map Prod.fst <+: s.placed.map (some ∘ Prod.snd)
  returned : ∀ r ∈ s.returned, r.2.1 < s.answered

variable {s} {t : ShowExecutionLoop Client S ingressCapacity timelineCapacity replayCapacity}

omit [DecidableEq Client] [NeZero replayCapacity] in
lemma answered_le : s.answered ≤ s.executed.length := by
  unfold answered
  split <;> omega

omit [DecidableEq Client] [NeZero replayCapacity] in
lemma Kept.of_completed (h : s.Kept) (hcompleted : s.requestCompleted = true) :
    s.answered = s.placed.length := by
  have howner := h.owner
  unfold OwnerKept at howner
  unfold answered
  cases hstage : s.owner with
  | idle =>
    simp only [hstage] at howner ⊢
    cases hpending : s.requestPending with
    | true => exact absurd hcompleted (by simp [(howner.1 hpending).1])
    | false => exact (howner.2 hpending).symm
  | picked request =>
    simp only [hstage] at howner
    exact absurd hcompleted (by simp [howner.2.1])
  | computed answer =>
    simp only [hstage] at howner
    exact absurd hcompleted (by simp [howner.2.1])

variable {client : Client}

omit [NeZero replayCapacity] in
lemma clientKept_move {stage : ClientStage}
    (h : ∀ other, s.ClientKept other) (hstage : (s.move client stage).ClientKept client) :
    ∀ other, (s.move client stage).ClientKept other := by
  intro other
  by_cases hother : other = client
  · exact hother ▸ hstage
  · have hsame : (s.move client stage).clients other = s.clients other :=
      Function.update_of_ne hother _ _
    have hkept := h other
    unfold ClientKept at hkept ⊢
    rw [hsame]
    exact hkept

omit [NeZero replayCapacity] in
@[simp] lemma clients_move (client : Client) (stage : ClientStage) :
    (s.move client stage).clients client = stage := Function.update_self _ _ _

omit [DecidableEq Client] [NeZero replayCapacity] in
lemma ClientKept.mono (h : s.ClientKept client)
    (hclient : t.clients client = s.clients client) (hplaced : s.placed <+: t.placed)
    (hanswered : s.answered ≤ t.answered) : t.ClientKept client := by
  obtain ⟨more, hmore⟩ := hplaced
  have hget : ∀ {ticket : ℕ} {x}, s.placed[ticket]? = some x → t.placed[ticket]? = some x := by
    intro ticket x hx
    obtain ⟨hlt, -⟩ := List.getElem?_eq_some_iff.mp hx
    rw [← hmore, List.getElem?_append_left hlt, hx]
  unfold ClientKept at h ⊢
  rw [hclient]
  cases hstage : s.clients client with
  | idle => trivial
  | calling request => trivial
  | waiting request ticket =>
    simp only [hstage] at h
    exact hget h
  | reading request ticket =>
    simp only [hstage] at h
    exact ⟨hget h.1, by omega⟩

omit [NeZero replayCapacity] in
lemma Kept.call (h : s.Kept) (client : Client) (request : ControlRequest) :
    (s.move client (.calling request)).Kept := by
  refine ⟨h.owner, clientKept_move h.clients ?_, h.inOrder, h.returned⟩
  unfold ClientKept
  rw [clients_move]
  trivial

variable {request : ControlRequest}

omit [NeZero replayCapacity] in
lemma Kept.place (h : s.Kept) (hpending : s.requestPending = false) :
    { s.move client (.waiting request s.placed.length) with
      request := some request
      requestPending := true
      requestCompleted := false
      placed := s.placed ++ [(client, request)] }.Kept := by
  have howner := h.owner
  refine ⟨?_, ?_, ?_, h.returned⟩
  · unfold OwnerKept at howner ⊢
    simp only [move]
    cases hstage : s.owner with
    | idle =>
      simp only [hstage] at howner ⊢
      refine ⟨fun _ => ⟨trivial, ?_, ?_⟩, by simp⟩
      · simp [newest]
      · rw [List.length_append, howner.2 hpending, List.length_singleton]
    | picked picked =>
      simp only [hstage, hpending] at howner
      exact absurd howner.1 (by simp)
    | computed answer =>
      simp only [hstage, hpending] at howner
      exact absurd howner.1 (by simp)
  · intro other
    by_cases hother : other = client
    · subst hother
      unfold ClientKept
      simp [move]
    · refine (h.clients other).mono ?_ (List.prefix_append _ _) le_rfl
      exact Function.update_of_ne hother _ _
  · simp only [move, List.map_append]
    exact h.inOrder.trans (List.prefix_append _ _)

variable {ticket : ℕ}

omit [NeZero replayCapacity] in
lemma Kept.observe (h : s.Kept)
    (hclient : s.clients client = .waiting request ticket) (hcompleted : s.requestCompleted = true) :
    (s.move client (.reading request ticket)).Kept := by
  refine ⟨h.owner, clientKept_move h.clients ?_, h.inOrder, h.returned⟩
  have hknown := h.clients client
  unfold ClientKept at hknown ⊢
  simp only [hclient] at hknown
  rw [clients_move]
  obtain ⟨hlt, -⟩ := List.getElem?_eq_some_iff.mp hknown
  have hanswered : (s.move client (.reading request ticket)).answered = s.placed.length :=
    h.of_completed hcompleted
  exact ⟨hknown, by rw [hanswered]; exact hlt⟩

omit [NeZero replayCapacity] in
lemma Kept.read (h : s.Kept)
    (hclient : s.clients client = .reading request ticket) (reply : ControlReply) :
    { s.move client .idle with returned := s.returned ++ [(client, ticket, reply)] }.Kept := by
  have hknown := h.clients client
  unfold ClientKept at hknown
  simp only [hclient] at hknown
  refine ⟨h.owner, ?_, h.inOrder, ?_⟩
  · have hidle : (s.move client .idle).ClientKept client := by
      unfold ClientKept
      rw [clients_move]
      trivial
    exact clientKept_move h.clients hidle
  · intro r hr
    rcases List.mem_append.mp hr with hold | hnew
    · exact h.returned r hold
    · obtain rfl := List.mem_singleton.mp hnew
      exact hknown.2

omit [DecidableEq Client] [NeZero replayCapacity] in
lemma Kept.pick (h : s.Kept) (hstage : s.owner = .idle) (hpending : s.requestPending = true) :
    { s with owner := .picked s.request }.Kept := by
  have howner := h.owner
  have hanswered : s.answered = s.executed.length := by
    unfold answered
    rw [hstage]
  unfold OwnerKept at howner
  simp only [hstage] at howner
  obtain ⟨hcompleted, hrequest, hlength⟩ := howner.1 hpending
  refine ⟨⟨hpending, hcompleted, hrequest, hlength⟩, ?_, h.inOrder, ?_⟩
  · exact fun client => (h.clients client).mono rfl (List.prefix_refl _) (by rw [hanswered]; rfl)
  · intro r hr
    have hreturned := h.returned r hr
    rw [hanswered] at hreturned
    exact hreturned

omit [DecidableEq Client] [NeZero replayCapacity] in
/-- **The owner executes the newest request**, and it is the next one. -/
lemma Kept.execute (h : s.Kept) {request : Option ControlRequest} (hstage : s.owner = .picked request)
    (dispatcher : ShowEventDispatcher S ingressCapacity timelineCapacity replayCapacity)
    (answer : ControlAnswer) :
    { s with
      dispatcher := dispatcher
      owner := .computed answer
      executed := s.executed ++ [(request, answer)] }.Kept := by
  have howner := h.owner
  have hanswered : s.answered = s.executed.length := by
    unfold answered
    rw [hstage]
  have hafter : answered { s with
        dispatcher := dispatcher
        owner := .computed answer
        executed := s.executed ++ [(request, answer)] } = s.executed.length := by
    simp [answered]
  unfold OwnerKept at howner
  simp only [hstage] at howner
  obtain ⟨hpending, hcompleted, hrequest, hlength⟩ := howner
  refine ⟨⟨hpending, hcompleted, ?_, ?_⟩, ?_, ?_, ?_⟩
  · rw [hlength, List.length_append, List.length_singleton]
  · simp
  · exact fun client => (h.clients client).mono rfl (List.prefix_refl _) (by rw [hanswered, hafter])
  · obtain ⟨rest, hrest⟩ := h.inOrder
    have hone : rest.length = 1 := by
      have hlengths := congrArg List.length hrest
      simp only [List.length_append, List.length_map] at hlengths
      omega
    obtain ⟨last, rfl⟩ := List.length_eq_one_iff.mp hone
    have hlast : some last = (s.placed.map (some ∘ Prod.snd)).getLast? := by
      rw [← hrest, List.getLast?_concat]
    rw [List.getLast?_map] at hlast
    have hsame : request = last := by
      rw [hrequest, newest]
      cases hplaced : s.placed.getLast? with
      | none => simp [hplaced] at hlast
      | some entry =>
        rw [hplaced] at hlast
        exact (Option.some.inj hlast).symm
    rw [List.map_append, List.map_singleton, hsame, hrest]
  · intro r hr
    have hreturned := h.returned r hr
    rw [hanswered] at hreturned
    rw [hafter]
    exact hreturned

omit [DecidableEq Client] [NeZero replayCapacity] in
lemma Kept.complete (h : s.Kept) {answer : ControlAnswer} (hstage : s.owner = .computed answer) :
    { s with
      result := answer
      requestCompleted := true
      requestPending := false
      owner := .idle }.Kept := by
  have howner := h.owner
  unfold OwnerKept at howner
  simp only [hstage] at howner
  refine ⟨⟨by simp, fun _ => howner.2.2.1⟩, ?_, h.inOrder, ?_⟩
  · exact fun client => (h.clients client).mono rfl (List.prefix_refl _) answered_le
  · intro r hr
    exact (h.returned r hr).trans_le answered_le

variable {a : LoopAction Client S ingressCapacity timelineCapacity replayCapacity}

/-- **Every step keeps this.** -/
lemma Kept.of_step (h : s.Kept) (hstep : s.step a = some t) : t.Kept := by
  cases a with
  | call client request =>
    simp only [step] at hstep
    split at hstep
    · exact Option.some.inj hstep ▸ h.call client request
    · cases hstep
  | place client =>
    simp only [step] at hstep
    split at hstep
    · split_ifs at hstep with hpending
      exact Option.some.inj hstep ▸ h.place (by simpa using hpending)
    · cases hstep
  | observe client =>
    simp only [step] at hstep
    split at hstep
    · rename_i hclient
      split_ifs at hstep with hcompleted
      exact Option.some.inj hstep ▸ h.observe hclient hcompleted
    · cases hstep
  | read client =>
    simp only [step] at hstep
    split at hstep
    · rename_i hclient
      exact Option.some.inj hstep ▸ h.read hclient _
    · cases hstep
  | pick =>
    simp only [step] at hstep
    split at hstep
    · rename_i hstage
      split_ifs at hstep with hpending
      exact Option.some.inj hstep ▸ h.pick hstage hpending
    · cases hstep
  | execute sink fuel =>
    simp only [step] at hstep
    split at hstep
    · rename_i hstage
      obtain ⟨out, -, rfl⟩ := Option.map_eq_some_iff.mp hstep
      exact h.execute hstage out.1 out.2
    · cases hstep
  | complete =>
    simp only [step] at hstep
    split at hstep
    · rename_i hstage
      exact Option.some.inj hstep ▸ h.complete hstage
    · cases hstep
  | elsewhere dispatcher =>
    cases hstep
    exact ⟨h.owner, h.clients, h.inOrder, h.returned⟩

omit [DecidableEq Client] [NeZero replayCapacity] in
lemma kept_start (d : ShowEventDispatcher S ingressCapacity timelineCapacity replayCapacity) :
    (start d : ShowExecutionLoop Client S ingressCapacity timelineCapacity replayCapacity).Kept :=
  ⟨⟨by simp [start], fun _ => rfl⟩, fun _ => trivial, List.nil_prefix, by simp [start]⟩

omit [DecidableEq Client] [NeZero replayCapacity] in
lemma Kept.executedOnce (h : s.Kept) : s.ExecutedOnce := by
  refine ⟨h.inOrder, ?_, fun r hr => (h.returned r hr).trans_le answered_le⟩
  have howner := h.owner
  unfold OwnerKept at howner
  cases hstage : s.owner with
  | idle =>
    simp only [hstage] at howner
    cases hpending : s.requestPending with
    | true => exact (howner.1 hpending).2.2.le
    | false => exact (howner.2 hpending).le.trans (Nat.le_succ _)
  | picked request =>
    simp only [hstage] at howner
    exact howner.2.2.2.le
  | computed answer =>
    simp only [hstage] at howner
    exact howner.2.2.1.le.trans (Nat.le_succ _)

lemma kept_of_reaches {d : ShowEventDispatcher S ingressCapacity timelineCapacity replayCapacity}
    {actions : List (LoopAction Client S ingressCapacity timelineCapacity replayCapacity)}
    (hrun : Reaches step Always (start d) actions s) : s.Kept :=
  hrun.invariant (kept_start d) fun _ _ _ h _ hstep => h.of_step hstep

/-- **In every run, requests are executed once**, in the order in which they were placed, and before
their calls return. -/
theorem requests_executed_once
    {d : ShowEventDispatcher S ingressCapacity timelineCapacity replayCapacity}
    {actions : List (LoopAction Client S ingressCapacity timelineCapacity replayCapacity)}
    (hrun : Reaches step Always (start d) actions s) : s.ExecutedOnce :=
  (kept_of_reaches hrun).executedOnce

/-! ## Who reads whose answer -/

/-- The client's request has been completed, and the client has not read the result. -/
def Unread (s : ShowExecutionLoop Client S ingressCapacity timelineCapacity replayCapacity)
    (client : Client) : Prop :=
  match s.clients client with
  | .waiting _ ticket => ticket < s.answered
  | .reading _ _ => True
  | _ => False

/-- The owner completes a request only while no client has an answer left to read. -/
def CompletesRead (s : ShowExecutionLoop Client S ingressCapacity timelineCapacity replayCapacity) :
    LoopAction Client S ingressCapacity timelineCapacity replayCapacity → Prop
  | .complete => ∀ client, ¬ s.Unread client
  | _ => True

omit [DecidableEq Client] [NeZero replayCapacity] in
lemma completesRead_of_ne (h : a ≠ .complete) : s.CompletesRead a := by
  cases a <;> trivial

/-- Every call returned what was computed for its request. -/
def OwnAnswers (s : ShowExecutionLoop Client S ingressCapacity timelineCapacity replayCapacity) :
    Prop :=
  ∀ r ∈ s.returned, ∃ request answer, s.placed[r.2.1]? = some (r.1, request) ∧
    s.executed[r.2.1]? = some (some request, answer) ∧ r.2.2 = answer.reply request

/-- An answer that a client has left to read is the latest. -/
def LatestKept (s : ShowExecutionLoop Client S ingressCapacity timelineCapacity replayCapacity)
    (client : Client) : Prop :=
  match s.clients client with
  | .waiting _ ticket => ticket < s.answered → ticket + 1 = s.answered
  | .reading _ ticket => ticket + 1 = s.answered
  | _ => True

/-- What holds while answers are read in time. -/
structure ReadInTime (s : ShowExecutionLoop Client S ingressCapacity timelineCapacity replayCapacity) :
    Prop where
  result : ∀ n entry, n + 1 = s.answered → s.executed[n]? = some entry → s.result = entry.2
  latest : ∀ client, s.LatestKept client
  own : s.OwnAnswers

omit [DecidableEq Client] [NeZero replayCapacity] in
lemma OwnAnswers.mono (h : s.OwnAnswers) (hplaced : s.placed <+: t.placed)
    (hexecuted : s.executed <+: t.executed) (hreturned : t.returned = s.returned) : t.OwnAnswers := by
  intro r hr
  rw [hreturned] at hr
  obtain ⟨request, answer, hrequest, hanswer, hreply⟩ := h r hr
  obtain ⟨later, hlater⟩ := hplaced
  obtain ⟨more, hmore⟩ := hexecuted
  have hlt := (List.getElem?_eq_some_iff.mp hrequest).1
  have hlt' := (List.getElem?_eq_some_iff.mp hanswer).1
  refine ⟨request, answer, ?_, ?_, hreply⟩
  · rw [← hlater, List.getElem?_append_left hlt, hrequest]
  · rw [← hmore, List.getElem?_append_left hlt', hanswer]

omit [NeZero replayCapacity] in
lemma latestKept_update {stage : ClientStage}
    (h : ∀ other, s.LatestKept other) (hclients : t.clients = Function.update s.clients client stage)
    (hanswered : t.answered = s.answered) (hstage : t.LatestKept client) :
    ∀ other, t.LatestKept other := by
  intro other
  by_cases hother : other = client
  · exact hother ▸ hstage
  · have hkept := h other
    unfold LatestKept at hkept ⊢
    rw [hclients, Function.update_of_ne hother, hanswered]
    exact hkept

omit [DecidableEq Client] [NeZero replayCapacity] in
lemma Kept.executed_of_placed (h : s.Kept)
    (hplaced : s.placed[ticket]? = some (client, request)) (hlt : ticket < s.executed.length) :
    ∃ answer, s.executed[ticket]? = some (some request, answer) := by
  obtain ⟨more, hmore⟩ := h.inOrder
  have hget : (s.placed.map (some ∘ Prod.snd))[ticket]? = some (some request) := by
    rw [List.getElem?_map, hplaced]
    rfl
  rw [← hmore, List.getElem?_append_left (by simpa using hlt), List.getElem?_map] at hget
  obtain ⟨entry, hentry, hsame⟩ := Option.map_eq_some_iff.mp hget
  obtain ⟨executed, answer⟩ := entry
  obtain rfl : executed = some request := hsame
  exact ⟨answer, hentry⟩

omit [NeZero replayCapacity] in
/-- **A client reads its own answer**, for it is the latest. -/
lemma ReadInTime.read (h : s.ReadInTime) (hkept : s.Kept)
    (hclient : s.clients client = .reading request ticket) :
    { s.move client .idle with
      returned := s.returned ++ [(client, ticket, s.result.reply request)] }.ReadInTime := by
  have hknown := hkept.clients client
  have hlatest := h.latest client
  unfold ClientKept at hknown
  unfold LatestKept at hlatest
  simp only [hclient] at hknown hlatest
  refine ⟨h.result, latestKept_update h.latest rfl rfl ?_, ?_⟩
  · unfold LatestKept
    simp [move]
  · intro r hr
    rcases List.mem_append.mp hr with hold | hnew
    · exact h.own r hold
    · obtain rfl := List.mem_singleton.mp hnew
      obtain ⟨answer, hanswer⟩ := hkept.executed_of_placed hknown.1 (hknown.2.trans_le answered_le)
      refine ⟨request, answer, hknown.1, hanswer, ?_⟩
      rw [h.result ticket _ hlatest hanswer]

omit [DecidableEq Client] [NeZero replayCapacity] in
lemma ReadInTime.complete (h : s.ReadInTime) (hkept : s.Kept) {answer : ControlAnswer}
    (hstage : s.owner = .computed answer) (hread : ∀ client, ¬ s.Unread client) :
    { s with
      result := answer
      requestCompleted := true
      requestPending := false
      owner := .idle }.ReadInTime := by
  have howner := hkept.owner
  have hanswered : s.answered = s.executed.length - 1 := by
    unfold answered
    rw [hstage]
  unfold OwnerKept at howner
  simp only [hstage] at howner
  obtain ⟨-, -, -, hlast⟩ := howner
  obtain ⟨entry, hentry, rfl⟩ := Option.map_eq_some_iff.mp hlast
  obtain ⟨older, holder⟩ := List.getLast?_eq_some_iff.mp hentry
  have hlength : s.executed.length = s.answered + 1 := by
    rw [hanswered, holder]
    simp
  refine ⟨?_, ?_, h.own⟩
  · intro n other hn hother
    have hn' : n + 1 = s.executed.length := hn
    rw [List.getLast?_eq_getElem?, ← hn', Nat.add_sub_cancel] at hentry
    have hother' : s.executed[n]? = some other := hother
    rw [hentry, Option.some.injEq] at hother'
    rw [hother']
  · intro client
    have hunread := hread client
    have hlatest := h.latest client
    unfold Unread at hunread
    unfold LatestKept at hlatest ⊢
    cases hclient : s.clients client with
    | idle => trivial
    | calling request => trivial
    | waiting request ticket =>
      simp only [hclient] at hunread ⊢
      intro hlt
      have hlt' : ticket < s.executed.length := hlt
      have hgoal : ticket + 1 = s.executed.length := by omega
      exact hgoal
    | reading request ticket =>
      simp only [hclient] at hunread
      exact absurd trivial hunread

omit [DecidableEq Client] [NeZero replayCapacity] in
lemma ReadInTime.congr (h : s.ReadInTime) (hresult : t.result = s.result)
    (hclients : t.clients = s.clients) (hanswered : t.answered = s.answered)
    (hplaced : s.placed <+: t.placed) (hexecuted : s.executed <+: t.executed)
    (hreturned : t.returned = s.returned) : t.ReadInTime := by
  refine ⟨?_, ?_, h.own.mono hplaced hexecuted hreturned⟩
  · intro n entry hn hentry
    rw [hanswered] at hn
    obtain ⟨more, hmore⟩ := hexecuted
    have hlt : n < s.executed.length := by
      have hle := answered_le (s := s)
      omega
    rw [← hmore, List.getElem?_append_left hlt] at hentry
    rw [hresult]
    exact h.result n entry hn hentry
  · intro client
    have hlatest := h.latest client
    unfold LatestKept at hlatest ⊢
    rw [hclients, hanswered]
    exact hlatest

/-- **Every step that meets the condition keeps this.** -/
lemma ReadInTime.of_step
    (h : s.ReadInTime) (hkept : s.Kept) (hread : s.CompletesRead a) (hstep : s.step a = some t) :
    t.ReadInTime := by
  cases a with
  | call client request =>
    simp only [step] at hstep
    split at hstep
    · cases hstep
      refine ⟨h.result, latestKept_update h.latest rfl rfl ?_, h.own⟩
      simp [LatestKept]
    · cases hstep
  | place client =>
    simp only [step] at hstep
    split at hstep
    · rename_i request hclient
      split_ifs at hstep with hpending
      cases hstep
      refine ⟨h.result, latestKept_update h.latest rfl rfl ?_,
        h.own.mono (List.prefix_append _ _) (List.prefix_refl _) rfl⟩
      have hle : s.answered ≤ s.placed.length := by
        have hexecuted := hkept.inOrder.length_le
        rw [List.length_map, List.length_map] at hexecuted
        exact answered_le.trans hexecuted
      unfold LatestKept
      simp only [move, Function.update_self]
      intro hlt
      exact absurd hle (Nat.not_le.mpr hlt)
    · cases hstep
  | observe client =>
    simp only [step] at hstep
    split at hstep
    · rename_i request ticket hclient
      split_ifs at hstep with hcompleted
      cases hstep
      refine ⟨h.result, latestKept_update h.latest rfl rfl ?_, h.own⟩
      have hlatest := h.latest client
      have hobserved := (hkept.observe hclient hcompleted).clients client
      unfold LatestKept at hlatest ⊢
      unfold ClientKept at hobserved
      simp only [hclient] at hlatest
      rw [clients_move] at hobserved ⊢
      exact hlatest hobserved.2
    · cases hstep
  | read client =>
    simp only [step] at hstep
    split at hstep
    · rename_i hclient
      exact Option.some.inj hstep ▸ h.read hkept hclient
    · cases hstep
  | pick =>
    simp only [step] at hstep
    split at hstep
    · rename_i hstage
      split_ifs at hstep with hpending
      cases hstep
      refine h.congr rfl rfl ?_ (List.prefix_refl _) (List.prefix_refl _) rfl
      simp [answered, hstage]
    · exact absurd hstep (by simp)
  | execute sink fuel =>
    simp only [step] at hstep
    split at hstep
    · rename_i hstage
      obtain ⟨out, -, rfl⟩ := Option.map_eq_some_iff.mp hstep
      refine h.congr rfl rfl ?_ (List.prefix_refl _) (List.prefix_append _ _) rfl
      simp [answered, hstage]
    · exact absurd hstep (by simp)
  | complete =>
    simp only [step] at hstep
    split at hstep
    · rename_i hstage
      exact Option.some.inj hstep ▸ h.complete hkept hstage hread
    · exact absurd hstep (by simp)
  | elsewhere dispatcher =>
    cases hstep
    exact h.congr rfl rfl rfl (List.prefix_refl _) (List.prefix_refl _) rfl

end ShowExecutionLoop

open ShowExecutionLoop

/-- **Each request gets its own answer**, as long as the owner completes a request only while no client
has an answer left to read: requests are executed once, and every call returns what was computed for
its request. -/
theorem own_answers {d : ShowEventDispatcher S ingressCapacity timelineCapacity replayCapacity}
    {actions : List (LoopAction Client S ingressCapacity timelineCapacity replayCapacity)}
    {s : ShowExecutionLoop Client S ingressCapacity timelineCapacity replayCapacity}
    (hrun : Reaches step CompletesRead (start d) actions s) : s.ExecutedOnce ∧ s.OwnAnswers := by
  have hboth : s.Kept ∧ s.ReadInTime := by
    refine hrun.invariant (I := fun s => s.Kept ∧ s.ReadInTime) ?_ ?_
    · refine ⟨kept_start d, ?_, fun _ => trivial, by simp [OwnAnswers, start]⟩
      intro n entry hn
      exact absurd hn (by simp [answered, start])
    · rintro v a w ⟨hkept, hread⟩ hok hstep
      exact ⟨hkept.of_step hstep, hread.of_step hkept hok hstep⟩
  exact ⟨hboth.1.executedOnce, hboth.2.own⟩

/-! ## A run in which a client reads another's answer -/

def cueDispatcher : ShowEventDispatcher .rationals 2 4 2 :=
  (ShowEventDispatcher.start.scheduleOwned { ShowEvent.blank .rationals with
    eventId := 1
    showTimeNs := 1000
    payload := .cue 1 }).1

def takingSink : ShowEventSink .rationals := fun _ _ _ => .done true

/-- One client drains, and one cancels before the first has looked. -/
def crossedRun : List (LoopAction Bool .rationals 2 4 2) :=
  [.call true (.drain 1000), .place true, .pick, .execute takingSink 2, .complete,
    .call false (.cancel ⟨.cue, 7⟩), .place false, .pick, .execute takingSink 2, .complete,
    .observe true, .read true]

/-- **An answer is overwritten.** The drain dispatched one event, and its call returns the count of the
request that was completed after it. -/
theorem answer_overwritten :
    ∃ s, Reaches step Always (start cueDispatcher) crossedRun s ∧ ¬ s.OwnAnswers := by
  have hrun : Reaches step Always (start cueDispatcher) crossedRun _ := reaches_always_of_run rfl
  refine ⟨_, hrun, ?_⟩
  intro hown
  obtain ⟨request, answer, hplaced, hexecuted, hreply⟩ := hown _ List.mem_cons_self
  have hdrained : some (some request, answer) = some (some (ControlRequest.drain 1000), ⟨1, true⟩) :=
    hexecuted.symm.trans rfl
  obtain ⟨hrequest, rfl⟩ := Prod.mk.inj (Option.some.inj hdrained)
  cases hrequest
  exact absurd hreply (by decide +kernel)

theorem requests_executed_once_crossed :
    ∃ s, Reaches step Always (start cueDispatcher) crossedRun s ∧ s.ExecutedOnce := by
  have hrun : Reaches step Always (start cueDispatcher) crossedRun _ := reaches_always_of_run rfl
  exact ⟨_, hrun, requests_executed_once hrun⟩

/-- The first client looks before the second request is completed. -/
def orderlyRun : List (LoopAction Bool .rationals 2 4 2) :=
  [.call true (.drain 1000), .place true, .pick, .execute takingSink 2, .complete, .observe true,
    .call false (.cancel ⟨.cue, 7⟩), .place false, .read true]

theorem own_answers_orderly :
    ∃ s, Reaches step CompletesRead (start cueDispatcher) orderlyRun s ∧ s.ExecutedOnce ∧
      s.OwnAnswers := by
  have hbefore : Reaches step CompletesRead (start cueDispatcher) (orderlyRun.take 4) _ :=
    (((Reaches.refl.snoc trivial rfl).snoc trivial rfl).snoc trivial rfl).snoc trivial rfl
  have hcompleted := hbefore.snoc (a := .complete) (by
    rintro (_ | _) hunread
    · exact hunread
    · exact absurd hunread (Nat.lt_irrefl 0)) rfl
  have hobserved := hcompleted.snoc (a := .observe true) (completesRead_of_ne (by simp)) rfl
  have hcalled := hobserved.snoc (a := .call false (.cancel ⟨.cue, 7⟩))
    (completesRead_of_ne (by simp)) rfl
  have hplaced := hcalled.snoc (a := .place false) (completesRead_of_ne (by simp)) rfl
  have hrun := hplaced.snoc (a := .read true) (completesRead_of_ne (by simp)) rfl
  exact ⟨_, hrun, own_answers hrun⟩

end StageForge
