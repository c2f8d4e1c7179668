import StageForge.Library.TransitionSystem
import StageForge.Witness.QuorumClient

/-!
# Nodes, witnesses and the network between them

The deployment around `backend/witness.py`: any number of nodes, each with one
`WitnessQuorumClient`, over one set of witnesses with a majority quorum. All clocks are one clock
that never goes back.

* A request stays in `requests` for ever once it is sent, so a witness may serve it at any later
  moment, in any order, long after the client has timed out, and even again.
* A response is heard only by the client that is waiting for exactly that request; a response that
  is never heard is a timeout.
* The internal steps of one client operation (`begin…`, `ask`, `hear` or `noAnswer` for each
  witness, `finish`) interleave with everything else.

`reports` is a history variable: the lease epochs that clients have reported, newest first.
-/

namespace StageForge

/-! ## Deployment -/

/-- A set of witnesses and the nodes' configurations over it. Every client's list names the same
witnesses, and any two nodes' quorums together are more than all of them. -/
structure Deployment where
  witnesses : List String
  witnesses_nodup : witnesses.Nodup
  config : String → ClientConfig
  urls_perm : ∀ n, (config n).urls.Perm witnesses
  majority : ∀ a b, witnesses.length < (config a).quorumSize + (config b).quorumSize
  fenceDigest : TransferPayload → String

/-! ## The network -/

/-- What is shared: the clock, the witnesses, and everything that was ever sent. -/
structure Network where
  now : Int
  stores : String → WitnessLeaseStore
  requests : List Request
  responses : List Response

namespace Network

/-- Witnesses that have seen nothing, at `now` milliseconds of Unix time. -/
def start (now : ℕ) : Network := ⟨now, fun _ => .empty, [], []⟩

/-- The record of cluster `c` at the witness `url`. -/
def lease (net : Network) (url c : String) : Lease := (net.stores url).lease c

def tick (net : Network) (ms : ℕ) : Network := { net with now := net.now + ms }

def fresh (net : Network) (url : String) (payload : Payload) : Request :=
  ⟨url, net.requests.length, payload⟩

def send (net : Network) (request : Request) : Network :=
  { net with requests := net.requests ++ [request] }

/-- The witness a request is addressed to serves it. -/
def serve (net : Network) (request : Request) : Network :=
  match (net.stores request.url).serve net.now request.payload with
  | none => net
  | some (answer, store) =>
    { net with
      stores := fun url => if url = request.url then store else net.stores url
      responses := net.responses ++ [⟨request, answer⟩] }

variable (net : Network)

@[simp] lemma lease_tick (ms : ℕ) (url c : String) :
    (net.tick ms).lease url c = net.lease url c := rfl
@[simp] lemma lease_send (r : Request) (url c : String) :
    (net.send r).lease url c = net.lease url c := rfl
@[simp] lemma now_send (r : Request) : (net.send r).now = net.now := rfl
@[simp] lemma requests_tick (ms : ℕ) : (net.tick ms).requests = net.requests := rfl
@[simp] lemma now_tick (ms : ℕ) : (net.tick ms).now = net.now + ms := rfl

/-- **Everything serving a request can do**: nothing, or answer it and leave every other witness
alone. -/
theorem serve_cases (r : Request) : net.serve r = net ∨ ∃ answer store,
      (net.stores r.url).serve net.now r.payload = some (answer, store) ∧
      net.serve r = { net with
        stores := fun url => if url = r.url then store else net.stores url
        responses := net.responses ++ [⟨r, answer⟩] } := by
  unfold serve
  cases hs : (net.stores r.url).serve net.now r.payload with
  | none => exact Or.inl rfl
  | some result => exact Or.inr ⟨result.1, result.2, rfl, rfl⟩

@[simp] lemma now_serve (r : Request) : (net.serve r).now = net.now := by
  rcases net.serve_cases r with h | ⟨_, _, -, h⟩ <;> rw [h]

@[simp] lemma requests_serve (r : Request) :
    (net.serve r).requests = net.requests := by
  rcases net.serve_cases r with h | ⟨_, _, -, h⟩ <;> rw [h]

/-- Serving a request takes each record at each witness through one step of the store, the step of
the call that the request makes. -/
lemma serve_lease (r : Request) (url c : String) :
    (net.serve r).lease url c = net.lease url c ∨
      url = r.url ∧ ∃ call, r.payload.storeCall = some call ∧
        Lease.Step net.now c call (net.lease url c) ((net.serve r).lease url c) := by
  rcases net.serve_cases r with h | ⟨answer, store, hs, h⟩
  · exact Or.inl (by rw [h])
  · by_cases hurl : url = r.url
    · subst hurl
      rcases WitnessLeaseStore.serve_store hs with ⟨-, hstore⟩ | ⟨call, hcall, hstore⟩
      · left
        simp [h, lease, hstore]
      · right
        refine ⟨rfl, call, hcall, ?_⟩
        have hstep := (net.stores r.url).exec_step net.now call c
        simpa [h, lease, hstore] using hstep
    · left
      simp [h, lease, hurl]

end Network

/-! ## The clients' events -/

/-- A step of one client. `hear j` takes the `j`-th response off the wire; `noAnswer` is a timeout,
an HTTP error, or an answer that a check turned away; `abandon` is an exception that leaves the
operation without a result. -/
inductive ClientEvent
  | beginAcquire
  | beginTransfer (target : String) (sourceEpoch targetEpoch transactionId : Int)
  | beginRecover (recoveryId : String)
  | hear (j : ℕ)
  | noAnswer (error : String)
  | finish
  | abandon
  | restart
  deriving DecidableEq

def PendingCall.record (call : PendingCall) (result : WitnessResult) : PendingCall := { call with
    remaining := call.remaining.tail
    outstanding := none
    results := call.results ++ [result] }

/-- The end of the operation, when every witness was asked. -/
def WitnessQuorumClient.finishCall (cfg : ClientConfig) (nodeId : String) (now : Int)
    (call : PendingCall) (client : WitnessQuorumClient) : WitnessQuorumClient :=
  match call.operation with
  | .acquire => client.finishAcquire cfg nodeId now call.results
  | .transfer _ => client.finishTransfer now call.results
  | .recover payload => client.finishRecover cfg payload now call.results

/-- What an event does to the client of node `n`; `none` when the event is not possible. -/
def Deployment.handle (D : Deployment) (net : Network) (n : String) (client : WitnessQuorumClient) :
    ClientEvent → Option WitnessQuorumClient
  | .beginAcquire => if client.call = none then some (client.beginAcquire (D.config n)) else none
  | .beginTransfer target se te tx =>
    if client.call = none then some (client.beginTransfer (D.config n) n target se te tx)
    else none
  | .beginRecover recoveryId =>
    if client.call = none then some (client.beginRecover (D.config n) n recoveryId D.fenceDigest)
    else none
  | .hear j =>
    match client.call, net.responses[j]? with
    | some call, some response =>
      if call.outstanding = some response.request then
        let result := readAnswer (D.config n) n response.request.url response.request.payload
          response.answer
        some { client with call := some (call.record result) }
      else none
    | _, _ => none
  | .noAnswer error =>
    match client.call with
    | some call =>
      match call.remaining with
      | url :: _ => some { client with call := some (call.record (failed url error)) }
      | [] => none
    | none => none
  | .finish =>
    match client.call with
    | some call =>
      if call.remaining = [] then some (client.finishCall (D.config n) n net.now call) else none
    | none => none
  | .abandon => some { client with call := none }
  | .restart => some (client.restart (D.config n))

/-- The request a client sends next: to the witness whose turn it is, with usable keys, and not
while it waits for an answer. -/
def Deployment.nextRequest (D : Deployment) (net : Network) (n : String)
    (client : WitnessQuorumClient) : Option (PendingCall × Request) :=
  match client.call with
  | some call =>
    match call.remaining, call.outstanding with
    | url :: _, none =>
      if (D.config n).keys then
        some (call, net.fresh url (WitnessQuorumClient.payload (D.config n) n call.operation))
      else none
    | _, _ => none
  | none => none

/-! ## The whole system -/

/-- A lease epoch that a client reported when an acquisition completed a quorum. -/
structure EpochReport where
  nodeId : String
  leaseEpoch : Int
  deriving DecidableEq

/-- The network, every node's client, and the reports so far. -/
structure ClusterState where
  net : Network
  clients : String → WitnessQuorumClient
  reports : List EpochReport

inductive Action
  | tick (ms : ℕ)
  | client (n : String) (event : ClientEvent)
  | ask (n : String)
  | deliver (i : ℕ)
  deriving DecidableEq

namespace ClusterState

def start (now : ℕ) : ClusterState := ⟨.start now, fun _ => {}, []⟩

def setClient (st : ClusterState) (n : String) (client : WitnessQuorumClient) : ClusterState :=
  { st with clients := fun m => if m = n then client else st.clients m }

variable (st : ClusterState)

@[simp] lemma setClient_self (n : String) (client : WitnessQuorumClient) :
    (st.setClient n client).clients n = client := by simp [setClient]

lemma setClient_ne {n m : String} (client : WitnessQuorumClient) (h : m ≠ n) :
    (st.setClient n client).clients m = st.clients m := by simp [setClient, h]

@[simp] lemma net_setClient (n : String) (client : WitnessQuorumClient) :
    (st.setClient n client).net = st.net := rfl

/-- The results with which node `n` completes an acquisition by this event: all witnesses are
asked and a quorum granted. -/
def completes (D : Deployment) (st : ClusterState) (n : String) (event : ClientEvent) :
    Option (List WitnessResult) :=
  match event, (st.clients n).call with
  | .finish, some call =>
    if call.operation = .acquire ∧ call.remaining = [] ∧
        WitnessQuorumClient.QuorumReached (D.config n).quorumSize
          (WitnessQuorumClient.liveGrants n st.net.now call.results) then
      some call.results
    else none
  | _, _ => none

end ClusterState

/-- One step of the system; `none` when the action is not possible. -/
def Deployment.step (D : Deployment) (st : ClusterState) : Action → Option ClusterState
  | .tick ms => some { st with net := st.net.tick ms }
  | .client n event =>
    match D.handle st.net n (st.clients n) event with
    | none => none
    | some client =>
      let reported := if (st.completes D n event).isSome then [⟨n, client.leaseEpoch⟩] else []
      some { st.setClient n client with reports := reported ++ st.reports }
  | .ask n =>
    match D.nextRequest st.net n (st.clients n) with
    | none => none
    | some (call, request) =>
      some { st.setClient n
        { st.clients n with call := some { call with outstanding := some request } } with
        net := st.net.send request }
  | .deliver i =>
    match st.net.requests[i]? with
    | none => none
    | some request => some { st with net := st.net.serve request }

/-- **Everything one step can do.** -/
theorem Deployment.step_cases {D : Deployment} {st st' : ClusterState} {a : Action}
    (h : D.step st a = some st') :
    (∃ ms, a = .tick ms ∧ st' = { st with net := st.net.tick ms }) ∨
      (∃ n event client, a = .client n event ∧
        D.handle st.net n (st.clients n) event = some client ∧
        st' = { st.setClient n client with
          reports := (if (st.completes D n event).isSome then [⟨n, client.leaseEpoch⟩] else []) ++
            st.reports }) ∨
      (∃ n call request, a = .ask n ∧ D.nextRequest st.net n (st.clients n) = some (call, request) ∧
        st' = { st.setClient n
          { st.clients n with call := some { call with outstanding := some request } } with
          net := st.net.send request }) ∨
      (∃ i request, a = .deliver i ∧ st.net.requests[i]? = some request ∧
        st' = { st with net := st.net.serve request }) := by
  cases a with
  | tick ms =>
    simp only [step, Option.some.injEq] at h
    exact Or.inl ⟨ms, rfl, h.symm⟩
  | client n event =>
    simp only [step] at h
    split at h
    · exact absurd h (by simp)
    · rename_i client hc
      exact Or.inr (Or.inl ⟨n, event, client, rfl, hc, by simpa using h.symm⟩)
  | ask n =>
    simp only [step] at h
    split at h
    · exact absurd h (by simp)
    · rename_i call request hr
      exact Or.inr (Or.inr (Or.inl ⟨n, call, request, rfl, hr, by simpa using h.symm⟩))
  | deliver i =>
    simp only [step] at h
    split at h
    · exact absurd h (by simp)
    · rename_i request hr
      exact Or.inr (Or.inr (Or.inr ⟨i, request, rfl, hr, by simpa using h.symm⟩))

lemma Deployment.nextRequest_eq_some {D : Deployment} {net : Network} {n : String}
    {client : WitnessQuorumClient} {call : PendingCall} {request : Request}
    (h : D.nextRequest net n client = some (call, request)) :
    client.call = some call ∧ ∃ url rest, call.remaining = url :: rest ∧
      request = net.fresh url (WitnessQuorumClient.payload (D.config n) n call.operation) := by
  unfold nextRequest at h
  cases hc : client.call with
  | none => simp [hc] at h
  | some call' =>
    simp only [hc] at h
    split at h
    · rename_i url rest hrem hout
      split at h
      · simp only [Option.some.injEq, Prod.mk.injEq] at h
        obtain ⟨rfl, rfl⟩ := h
        exact ⟨rfl, url, rest, hrem, rfl⟩
      · exact absurd h (by simp)
    · exact absurd h (by simp)

end StageForge
