import StageForge.Library.PythonList
import StageForge.Show.Technology

/-!
# The host of an isolated plugin

`IsolatedPluginHost` of `backend/plugin_host.py`: a request goes to a process of its own as a line of JSON,
and the answer comes back as one. A failure bypasses the plugin, so that a block leaves as it came.
-/

namespace StageForge

open Python

/-! ## What a call meets -/

inductive HostError
  | python (e : Error)
  | timeoutError
  | brokenPipeError
  | timeoutExpired
  deriving DecidableEq

/-- What becomes of a call: a write into a full pipe does not come back. -/
inductive HostOutcome (α : Type)
  | returned (a : α)
  | raised (e : HostError)
  | stuck

/-- `RuntimeError`, `TimeoutError`, `ValueError` with its subclasses, and `KeyError`. -/
def HostError.caught : HostError → Bool
  | .python (.runtimeError _) | .python (.valueError _) | .python .notANumber | .python (.keyError _)
  | .timeoutError => true
  | _ => false

/-- What the process does with a request. -/
inductive Behaviour
  | exited
  /-- It has closed its end of the pipe. -/
  | brokenPipe
  /-- It does not read, and the request does not fit the pipe. -/
  | unread
  /-- It does not answer in time; `reaped` says whether it is gone a second after it is killed. -/
  | silent (reaped : Bool)
  | endOfFile
  | line (text : String)

/-- How the host reads an answer and converts its samples; `json.loads` fails with a message. -/
structure HostSetup where
  conversions : Conversions
  loads : String → Except String Value

structure PluginManifest where
  pluginId : String
  format : String

structure IsolatedPluginHost where
  manifest : PluginManifest
  process : Bool := false
  bypassed : Bool := true
  failures : ℕ := 0
  timeouts : ℕ := 0
  disconnects : ℕ := 0
  hostErrors : ℕ := 0
  invalidResponses : ℕ := 0
  lastError : Option String := none
  requests : ℕ := 0
  nextRequestId : ℕ := 1
  starts : ℕ := 0
  closes : ℕ := 0
  forcedKills : ℕ := 0
  processBlocks : ℕ := 0
  processedSamples : ℕ := 0
  latencyFrames : Option Int := none
  processSupported : Bool := false

inductive FailureKind
  | timeout
  | disconnect
  | host
  | invalid
  deriving DecidableEq

namespace IsolatedPluginHost

def failure (h : IsolatedPluginHost) (kind : FailureKind) (message : String) : IsolatedPluginHost :=
  { h with
    failures := h.failures + 1
    bypassed := true
    lastError := some (clip 512 message)
    timeouts := h.timeouts + if kind = .timeout then 1 else 0
    disconnects := h.disconnects + if kind = .disconnect then 1 else 0
    hostErrors := h.hostErrors + if kind = .host then 1 else 0
    invalidResponses := h.invalidResponses + if kind = .invalid then 1 else 0 }

def fail (h : IsolatedPluginHost) (kind : FailureKind) (message : String) (e : String → Error) :
    HostOutcome Entries × IsolatedPluginHost :=
  (.raised (.python (e message)), h.failure kind message)

variable (S : HostSetup)

def answer (h : IsolatedPluginHost) (requestId : ℕ) (text : String) :
    HostOutcome Entries × IsolatedPluginHost :=
  match S.loads text with
  | .error message => h.fail .invalid message .valueError
  | .ok (.dict entries) =>
    if (Entries.get entries "requestId" .none).same (.int requestId) = false then
      h.fail .invalid "plugin host response correlation mismatch" .valueError
    else if (Entries.get entries "ok" .none).truthy = false then
      h.fail .host (S.conversions.str (Entries.get entries "error" (.str "plugin host error"))) .runtimeError
    else (.returned entries, h)
  | .ok _ => h.fail .invalid "plugin host response must be an object" .valueError

def sent (h : IsolatedPluginHost) : IsolatedPluginHost :=
  { h with requests := h.requests + 1, nextRequestId := h.nextRequestId + 1 }

def request (h : IsolatedPluginHost) (behaviour : Behaviour) : HostOutcome Entries × IsolatedPluginHost :=
  if h.process = false then h.sent.fail .disconnect "plugin host unavailable" .runtimeError
  else
    match behaviour with
    | .exited => h.sent.fail .disconnect "plugin host unavailable" .runtimeError
    | .brokenPipe => (.raised .brokenPipeError, h.sent)
    | .unread => (.stuck, h.sent)
    | .silent reaped =>
      (.raised (if reaped then .timeoutError else .timeoutExpired),
        { h.sent.failure .timeout "plugin host watchdog timeout" with forcedKills := h.forcedKills + 1 })
    | .endOfFile => h.sent.fail .disconnect "plugin host disconnected" .runtimeError
    | .line text => answer S h.sent h.nextRequestId text

def isFinite : Number → Bool
  | .finite _ => true
  | _ => false

def readSamples (entries : Entries) : Except Error (List Number) :=
  match entries.lookup "samples" with
  | none => .error (.keyError "samples")
  | some value => do
    let items ← value.iterate
    items.mapM S.conversions.float

/-- What `process_block` does with the samples of a plugin that is not bypassed. -/
def runBlock (h : IsolatedPluginHost) (samples : List Number) (behaviour : Behaviour) :
    HostOutcome (List Number) × IsolatedPluginHost :=
  match request S h behaviour with
  | (.stuck, h') => (.stuck, h')
  | (.raised e, h') => (.raised e, h')
  | (.returned entries, h') =>
    match readSamples S entries with
    | .error e => (.raised (.python e), h')
    | .ok result =>
      if result.length ≠ samples.length ∨ result.any (fun x => !isFinite x) then
        (.raised (.python (.valueError "plugin output block is invalid")),
          h'.failure .invalid "plugin output block is invalid")
      else
        (.returned result, { h' with
          processBlocks := h'.processBlocks + 1
          processedSamples := h'.processedSamples + result.length })

def processBlock (h : IsolatedPluginHost) (samples : List Number) (behaviour : Behaviour) :
    HostOutcome (List Number) × IsolatedPluginHost :=
  if h.bypassed then (.returned samples, h)
  else if 4096 < samples.length then
    (.raised (.python (.valueError "plugin block exceeds 4096 samples")), h)
  else if samples.any fun x => !isFinite x then
    (.raised (.python (.valueError "plugin input samples must be finite")), h)
  else
    match runBlock S h samples behaviour with
    | (.raised e, h') => if e.caught then (.returned samples, { h' with bypassed := true }) else (.raised e, h')
    | outcome => outcome

/-- `close`; `reaped` and `reapedAfterKill` say whether the process is gone within a second. -/
def close (h : IsolatedPluginHost) (reaped reapedAfterKill : Bool) : HostOutcome Unit × IsolatedPluginHost :=
  let gone := { h with process := false, bypassed := true, latencyFrames := none, processSupported := false }
  if h.process = false then (.returned (), gone)
  else if reaped then (.returned (), { gone with closes := h.closes + 1 })
  else if reapedAfterKill then
    (.returned (), { gone with closes := h.closes + 1, forcedKills := h.forcedKills + 1 })
  else (.raised .timeoutExpired, { gone with forcedKills := h.forcedKills + 1 })

/-- The handshake: the frames of latency, if the answer is the one that the manifest asks for. -/
def handshake (manifest : PluginManifest) (result : Entries) : Option Int :=
  match Entries.get result "active" .none, Entries.get result "protocolVersion" .none,
      Entries.get result "supportsProcess" .none, Entries.get result "latencyFrames" .none with
  | .bool true, .int 1, .bool true, .int latency =>
    if (Entries.get result "pluginId" .none).same (.str manifest.pluginId) = true ∧
        (Entries.get result "format" .none).same (.str manifest.format) = true ∧
        0 ≤ latency ∧ latency ≤ 65536 then some latency
    else none
  | _, _, _, _ => none

/-- What a start meets: whether the old process is gone, whether the new one can be launched, what that
does with the handshake, and whether it is gone when the handshake fails. -/
structure Launch where
  closed : Bool × Bool
  launched : Except Error Unit
  behaviour : Behaviour
  abandoned : Bool × Bool

def abandon (h : IsolatedPluginHost) (gone : Bool × Bool) (e : HostError) :
    HostOutcome Unit × IsolatedPluginHost :=
  match h.close gone.1 gone.2 with
  | (.returned _, h') => (.raised e, h')
  | outcome => outcome

def start (h : IsolatedPluginHost) (l : Launch) : HostOutcome Unit × IsolatedPluginHost :=
  match h.close l.closed.1 l.closed.2 with
  | (.returned _, closed) =>
    match l.launched with
    | .error e => closed.abandon l.abandoned (.python e)
    | .ok _ =>
      match request S { closed with process := true, starts := closed.starts + 1 } l.behaviour with
      | (.stuck, h') => (.stuck, h')
      | (.raised e, h') => h'.abandon l.abandoned e
      | (.returned result, h') =>
        match handshake h'.manifest result with
        | some latency =>
          (.returned (), { h' with
            latencyFrames := some latency, processSupported := true, bypassed := false })
        | none =>
          (h'.failure .invalid "plugin adapter handshake mismatch").abandon l.abandoned
            (.python (.valueError "plugin adapter handshake mismatch"))
  | outcome => outcome

end IsolatedPluginHost

/-! ## Failure becomes bypass -/

inductive HostCall
  | processBlock (samples : List Number) (behaviour : Behaviour)
  | start (launch : IsolatedPluginHost.Launch)
  | close (reaped reapedAfterKill : Bool)

open IsolatedPluginHost

section

variable (S : HostSetup)

def IsolatedPluginHost.after (h : IsolatedPluginHost) : HostCall → IsolatedPluginHost
  | .processBlock samples behaviour => (processBlock S h samples behaviour).2
  | .start launch => (start S h launch).2
  | .close reaped reapedAfterKill => (h.close reaped reapedAfterKill).2

/-- The host after some calls, none of which is a start that succeeds. -/
inductive WithoutStart : IsolatedPluginHost → List HostCall → IsolatedPluginHost → Prop
  | nil (h : IsolatedPluginHost) : WithoutStart h [] h
  | cons {h h' : IsolatedPluginHost} {call : HostCall} {calls : List HostCall}
      (hcall : ∀ launch, call = .start launch → (start S h launch).1 ≠ .returned ())
      (hrest : WithoutStart (h.after S call) calls h') : WithoutStart h (call :: calls) h'

/-- From now on every block leaves as it came, until a start succeeds. -/
def StaysBypassed (h : IsolatedPluginHost) : Prop :=
  ∀ calls h', WithoutStart S h calls h' → ∀ samples behaviour,
    (processBlock S h' samples behaviour).1 = .returned samples

/-- A block comes back from the plugin, with as many samples, all finite; or it leaves as it came, and does
so from now on. -/
def FailureIsBypass (h : IsolatedPluginHost) (samples : List Number) (behaviour : Behaviour) : Prop :=
  ∃ result h', processBlock S h samples behaviour = (.returned result, h') ∧
    ((h'.bypassed = false ∧ result.length = samples.length ∧ result.all isFinite = true ∧
        ∃ text entries, behaviour = .line text ∧ S.loads text = .ok (.dict entries) ∧
          readSamples S entries = .ok result) ∨
      (result = samples ∧ h'.bypassed = true ∧ StaysBypassed S h'))

/-- A value that `float` takes for no number, nor for a text of one: `null`, an array, an object, or an
integer that is too large. -/
def Unconvertible : Value → Bool
  | .none | .list _ | .dict _ => true
  | .int n => decide (Conversions.floatLimit ≤ n.natAbs)
  | _ => false

/-- The samples of an answer can be gone through, and a text that is no number comes before each of them that
is unconvertible. -/
def SamplesContained (value : Value) : Prop := ∃ items, value.iterate = .ok items ∧
    ∀ before item rest, items = before ++ item :: rest → Unconvertible item = true →
      ∃ text, Value.str text ∈ before ∧ S.conversions.float (.str text) = .error .notANumber

/-- The condition: the request can be written, a process that is killed is gone in time, and the samples of
an answer that is accepted are contained. -/
def Behaviour.Contained (requestId : ℕ) : Behaviour → Prop
  | .exited => True
  | .brokenPipe => False
  | .unread => False
  | .silent reaped => reaped = true
  | .endOfFile => True
  | .line text =>
    ∀ entries value, S.loads text = .ok (.dict entries) →
      (Entries.get entries "requestId" .none).same (.int requestId) = true →
      (Entries.get entries "ok" .none).truthy = true →
      entries.lookup "samples" = some value → SamplesContained S value

end

/-! ## A plugin that is bypassed -/

section

variable {S : HostSetup} {h h' : IsolatedPluginHost} {behaviour : Behaviour} {samples : List Number}

lemma close_bypassed (h : IsolatedPluginHost) (reaped reapedAfterKill : Bool) :
    (h.close reaped reapedAfterKill).2.bypassed = true := by
  unfold IsolatedPluginHost.close
  split
  · rfl
  · split
    · rfl
    · split <;> rfl

lemma abandon_bypassed (h : IsolatedPluginHost) (gone : Bool × Bool) (e : HostError) :
    (h.abandon gone e).2.bypassed = true := by
  have hclose := close_bypassed h gone.1 gone.2
  unfold abandon
  split
  · next heq =>
      rw [heq] at hclose
      exact hclose
  · exact hclose

lemma answer_bypassed (hb : h.bypassed = true) (requestId : ℕ) (text : String) :
    (answer S h requestId text).2.bypassed = true := by
  unfold answer
  split
  · rfl
  · split
    · rfl
    · split
      · rfl
      · exact hb
  · rfl

lemma request_bypassed (hb : h.bypassed = true) : (request S h behaviour).2.bypassed = true := by
  unfold request
  split
  · rfl
  · cases behaviour with
    | exited => rfl
    | brokenPipe => exact hb
    | unread => exact hb
    | silent reaped => rfl
    | endOfFile => rfl
    | line text => exact answer_bypassed (h := h.sent) hb _ text

/-- A start has succeeded, or the plugin is bypassed. -/
def StartSettled (r : HostOutcome Unit × IsolatedPluginHost) : Prop := r.1 = .returned () ∨ r.2.bypassed = true

/-- **Only a start that succeeds ends the bypass.** -/
lemma settled_of_start (h : IsolatedPluginHost) (launch : Launch) : StartSettled (start S h launch) := by
  unfold start
  cases hclosed : h.close launch.closed.1 launch.closed.2 with
  | mk outcome closed =>
    have hclose : closed.bypassed = true := by
      have hclose := close_bypassed h launch.closed.1 launch.closed.2
      rwa [hclosed] at hclose
    cases outcome with
    | raised e => exact Or.inr hclose
    | stuck => exact Or.inr hclose
    | returned =>
      cases launch.launched with
      | error e => exact Or.inr (abandon_bypassed _ _ _)
      | ok =>
        dsimp only
        cases hrequest : request S { closed with process := true, starts := closed.starts + 1 }
            launch.behaviour with
        | mk answered h' =>
          have hbypassed : h'.bypassed = true := by
            have hbypassed := @request_bypassed S
              { closed with process := true, starts := closed.starts + 1 } launch.behaviour hclose
            rwa [hrequest] at hbypassed
          cases answered with
          | stuck => exact Or.inr hbypassed
          | raised e => exact Or.inr (abandon_bypassed _ _ _)
          | returned result =>
            dsimp only
            cases handshake h'.manifest result with
            | some latency => exact Or.inl rfl
            | none => exact Or.inr (abandon_bypassed _ _ _)

lemma after_bypassed (hb : h.bypassed = true) {call : HostCall}
    (hcall : ∀ launch, call = .start launch → (start S h launch).1 ≠ .returned ()) :
    (h.after S call).bypassed = true := by
  cases call with
  | processBlock samples behaviour =>
    rw [IsolatedPluginHost.after, processBlock, if_pos hb]
    exact hb
  | start launch => exact (settled_of_start h launch).resolve_left (hcall launch rfl)
  | close reaped reapedAfterKill => exact close_bypassed h reaped reapedAfterKill

/-- **A plugin that is bypassed stays so until a start succeeds.** By induction on the calls. -/
lemma bypassed_stays (hb : h.bypassed = true) : StaysBypassed S h := by
  intro calls h' hrun samples behaviour
  induction hrun with
  | nil h => rw [processBlock, if_pos hb]
  | cons hcall _ ih => exact ih (after_bypassed hb hcall)

end

/-! ## What the samples of an answer raise -/

section

variable {S : HostSetup} {items : List Value} {value item : Value} {e : Error}

lemma mapM_eq_error {α β : Type} {f : α → Except Error β} {as : List α} :
    as.mapM f = .error e ↔ ∃ before a rest, as = before ++ a :: rest ∧
      (∀ b ∈ before, ∃ r, f b = .ok r) ∧ f a = .error e := by
  induction as with
  | nil => exact iff_of_false (by simp [pure, Except.pure]) (by simp)
  | cons a as ih =>
    rw [List.mapM_cons]
    cases hfirst : f a with
    | error e' =>
      constructor
      · intro heq
        have heq' : e' = e := Except.error.inj heq
        exact ⟨[], a, as, rfl, by simp, by rw [hfirst, heq']⟩
      · rintro ⟨before, b, rest, heq, hbefore, hb⟩
        cases before with
        | nil =>
          obtain ⟨rfl, rfl⟩ := List.cons.inj heq
          rw [hfirst] at hb
          rw [Except.error.inj hb]
          rfl
        | cons c before =>
          obtain ⟨rfl, rfl⟩ := List.cons.inj heq
          obtain ⟨r, hr⟩ := hbefore a List.mem_cons_self
          rw [hfirst] at hr
          cases hr
    | ok r =>
      have hrest : (do let r ← Except.ok r; let rs ← as.mapM f; pure (r :: rs) : Except Error (List β)) =
          .error e ↔ as.mapM f = .error e := by
        cases as.mapM f with
        | error e' => exact Iff.rfl
        | ok rs => exact iff_of_false (by simp [bind, Except.bind, pure, Except.pure]) (by simp)
      rw [hrest, ih]
      constructor
      · rintro ⟨before, b, rest, rfl, hbefore, hb⟩
        refine ⟨a :: before, b, rest, rfl, ?_, hb⟩
        rw [List.forall_mem_cons]
        exact ⟨⟨r, hfirst⟩, hbefore⟩
      · rintro ⟨before, b, rest, heq, hbefore, hb⟩
        cases before with
        | nil =>
          obtain ⟨rfl, rfl⟩ := List.cons.inj heq
          rw [hfirst] at hb
          cases hb
        | cons c before =>
          obtain ⟨rfl, rfl⟩ := List.cons.inj heq
          exact ⟨before, b, rest, rfl, fun d hd => hbefore d (List.mem_cons_of_mem _ hd), hb⟩

lemma unconvertible_int {n : Int} :
    Unconvertible (.int n) = true ↔ Conversions.floatLimit ≤ n.natAbs := by
  rw [Unconvertible, decide_eq_true_eq]

lemma float_int_of_large {n : Int} (h : Conversions.floatLimit ≤ n.natAbs) :
    S.conversions.float (.int n) = .error .overflowError := by
  rw [Conversions.float, if_neg (not_lt.mpr h)]

lemma float_cases (item : Value) : (∃ x, S.conversions.float item = .ok x) ∨
      (∃ text, item = .str text ∧ S.conversions.float item = .error .notANumber) ∨
      (Unconvertible item = true ∧
        ∃ e, S.conversions.float item = .error e ∧ (HostError.python e).caught = false) := by
  cases item with
  | none => exact Or.inr (Or.inr ⟨rfl, _, rfl, rfl⟩)
  | bool b => exact Or.inl ⟨_, rfl⟩
  | int n =>
    by_cases hlarge : n.natAbs < Conversions.floatLimit
    · refine Or.inl ⟨.finite n, ?_⟩
      rw [Conversions.float, if_pos hlarge]
    · exact Or.inr (Or.inr ⟨unconvertible_int.mpr (not_lt.mp hlarge), .overflowError,
        float_int_of_large (not_lt.mp hlarge), rfl⟩)
  | float x => exact Or.inl ⟨_, rfl⟩
  | str s =>
    rw [Conversions.float]
    cases hparse : (if s = "" then none else S.conversions.parseFloat s) with
    | none => exact Or.inr (Or.inl ⟨s, rfl, rfl⟩)
    | some x => exact Or.inl ⟨x, rfl⟩
  | list items => exact Or.inr (Or.inr ⟨rfl, _, rfl, rfl⟩)
  | dict entries => exact Or.inr (Or.inr ⟨rfl, _, rfl, rfl⟩)

lemma float_of_unconvertible (h : Unconvertible item = true) :
    ∃ e, S.conversions.float item = .error e ∧ (HostError.python e).caught = false := by
  cases item with
  | none => exact ⟨_, rfl, rfl⟩
  | bool b => cases h
  | int n => exact ⟨.overflowError, float_int_of_large (unconvertible_int.mp h), rfl⟩
  | float x => cases h
  | str s => cases h
  | list items => exact ⟨_, rfl, rfl⟩
  | dict entries => exact ⟨_, rfl, rfl⟩

/-- **Samples that are contained raise only what is caught, and no others do.** -/
lemma samplesContained_iff :
    SamplesContained S value ↔ ∀ e, (do let items ← value.iterate; items.mapM S.conversions.float) = .error e →
      (HostError.python e).caught = true := by
  cases hiterate : value.iterate with
  | error e =>
    have htype : e = .typeError := by
      cases value <;> cases hiterate <;> rfl
    constructor
    · rintro ⟨items, hitems, -⟩
      rw [hiterate] at hitems
      cases hitems
    · intro h
      have hcaught := h e rfl
      rw [htype] at hcaught
      cases hcaught
  | ok items =>
    constructor
    · rintro ⟨_, hitems, hcontained⟩ e he
      obtain rfl : items = _ := Except.ok.inj (hiterate.symm.trans hitems)
      obtain ⟨before, item, rest, heq, hbefore, hitem⟩ := mapM_eq_error.mp he
      rcases float_cases (S := S) item with ⟨x, hx⟩ | ⟨text, -, hx⟩ | ⟨hunconvertible, -⟩
      · rw [hitem] at hx
        cases hx
      · rw [Except.error.inj (hitem.symm.trans hx)]
        rfl
      · obtain ⟨text, hmem, htext⟩ := hcontained before item rest heq hunconvertible
        obtain ⟨r, hr⟩ := hbefore _ hmem
        rw [htext] at hr
        cases hr
    · intro h
      refine ⟨items, hiterate, fun before item rest heq hunconvertible => ?_⟩
      obtain ⟨e, he, huncaught⟩ := float_of_unconvertible (S := S) hunconvertible
      by_cases hbefore : ∀ b ∈ before, ∃ r, S.conversions.float b = .ok r
      · have hcaught := h e (mapM_eq_error.mpr ⟨before, item, rest, heq, hbefore, he⟩)
        rw [huncaught] at hcaught
        cases hcaught
      · -- the first item that raises stands before, and what it raises is caught
        have hfails : ∃ e', before.mapM S.conversions.float = .error e' := by
          cases hmap : before.mapM S.conversions.float with
          | error e' => exact ⟨e', rfl⟩
          | ok rs => exact absurd (exists_mapM_eq_ok.mp ⟨rs, hmap⟩) hbefore
        obtain ⟨e', he'⟩ := hfails
        obtain ⟨first, b, others, hsplit, hfirst, hb⟩ := mapM_eq_error.mp he'
        have hcaught := h e' (mapM_eq_error.mpr
          ⟨first, b, others ++ item :: rest, by rw [heq, hsplit]; simp, hfirst, hb⟩)
        have hmem : b ∈ before := by
          rw [hsplit]
          simp
        rcases float_cases (S := S) b with ⟨x, hx⟩ | ⟨text, rfl, hx⟩ | ⟨-, e'', hx, hnot⟩
        · rw [hb] at hx
          cases hx
        · exact ⟨text, hmem, hx⟩
        · rw [Except.error.inj (hb.symm.trans hx), hnot] at hcaught
          cases hcaught

end

/-! ## A block -/

section

variable {S : HostSetup} {h h' : IsolatedPluginHost} {behaviour : Behaviour} {samples : List Number}

structure IsolatedPluginHost.Started (h : IsolatedPluginHost) : Prop where
  process : h.process = true
  bypassed : h.bypassed = false

structure AcceptedBlock (samples : List Number) : Prop where
  length_le : samples.length ≤ 4096
  finite : samples.all isFinite = true

lemma processBlock_eq (hs : h.Started) (hsamples : AcceptedBlock samples) :
    processBlock S h samples behaviour = match runBlock S h samples behaviour with
      | (.raised e, h') =>
        if e.caught then (.returned samples, { h' with bypassed := true }) else (.raised e, h')
      | outcome => outcome := by
  have hfinite : ¬(samples.any fun x => !isFinite x) = true := by
    rw [List.any_eq_true]
    rintro ⟨x, hx, hnot⟩
    rw [List.all_eq_true.mp hsamples.finite x hx] at hnot
    cases hnot
  rw [processBlock, if_neg (by rw [hs.bypassed]; simp), if_neg (not_lt.mpr hsamples.length_le),
    if_neg hfinite]

lemma failureIsBypass_of_raised (hs : h.Started) (hsamples : AcceptedBlock samples) {e : HostError}
    (hrun : runBlock S h samples behaviour = (.raised e, h')) :
    FailureIsBypass S h samples behaviour ↔ e.caught = true := by
  have hblock := @processBlock_eq S _ behaviour _ hs hsamples
  rw [hrun] at hblock
  dsimp only at hblock
  constructor
  · rintro ⟨result, h'', hresult, -⟩
    rw [hblock] at hresult
    by_contra hnot
    rw [if_neg hnot] at hresult
    cases hresult
  · intro hcaught
    rw [if_pos hcaught] at hblock
    exact ⟨samples, _, hblock, Or.inr ⟨rfl, rfl, bypassed_stays rfl⟩⟩

lemma not_failureIsBypass_of_stuck (hs : h.Started) (hsamples : AcceptedBlock samples)
    (hrun : runBlock S h samples behaviour = (.stuck, h')) : ¬FailureIsBypass S h samples behaviour := by
  have hblock := @processBlock_eq S _ behaviour _ hs hsamples
  rw [hrun] at hblock
  rintro ⟨result, h'', hresult, -⟩
  rw [hblock] at hresult
  cases hresult

lemma runBlock_of_raised {e : HostError} (hrequest : request S h behaviour = (.raised e, h')) :
    runBlock S h samples behaviour = (.raised e, h') := by
  rw [runBlock, hrequest]

lemma failureIsBypass_of_fail (hs : h.Started) (hsamples : AcceptedBlock samples) {kind : FailureKind}
    {message : String} {e : String → Error} (hrequest : request S h behaviour = h'.fail kind message e)
    (hcaught : (HostError.python (e message)).caught = true) : FailureIsBypass S h samples behaviour :=
  (failureIsBypass_of_raised hs hsamples (runBlock_of_raised hrequest)).mpr hcaught

lemma request_line (hs : h.Started) (text : String) :
    request S h (.line text) = answer S h.sent h.nextRequestId text := by
  rw [request, if_neg (by rw [hs.process]; simp)]

lemma failureIsBypass_of_answer (hs : h.Started) (hsamples : AcceptedBlock samples) {text : String}
    {entries : Entries} (hloads : S.loads text = .ok (.dict entries))
    (hrequest : request S h (.line text) = (.returned entries, h.sent)) :
    FailureIsBypass S h samples (.line text) ↔
      ∀ value, entries.lookup "samples" = some value → SamplesContained S value := by
  have hrun : runBlock S h samples (.line text) = match readSamples S entries with
      | .error e => (.raised (.python e), h.sent)
      | .ok result =>
        if result.length ≠ samples.length ∨ result.any (fun x => !isFinite x) then
          (.raised (.python (.valueError "plugin output block is invalid")),
            h.sent.failure .invalid "plugin output block is invalid")
        else
          (.returned result, { h.sent with
            processBlocks := h.sent.processBlocks + 1
            processedSamples := h.sent.processedSamples + result.length }) := by
    rw [runBlock, hrequest]
  cases hread : readSamples S entries with
  | error e =>
    rw [hread] at hrun
    rw [failureIsBypass_of_raised hs hsamples hrun]
    cases hlookup : entries.lookup "samples" with
    | none =>
      rw [readSamples, hlookup] at hread
      rw [← Except.error.inj hread]
      exact iff_of_true rfl (by simp)
    | some value =>
      rw [readSamples, hlookup] at hread
      constructor
      · intro hcaught value' heq
        rw [← Option.some.inj heq, samplesContained_iff]
        intro e' he'
        rw [← Except.error.inj (hread.symm.trans he')]
        exact hcaught
      · exact fun hcontained => samplesContained_iff.mp (hcontained value rfl) e hread
  | ok result =>
    rw [hread] at hrun
    dsimp only at hrun
    have hcontained : ∀ value, entries.lookup "samples" = some value → SamplesContained S value := by
      intro value hlookup
      rw [readSamples, hlookup] at hread
      rw [samplesContained_iff]
      intro e he
      cases hread.symm.trans he
    refine iff_of_true ?_ hcontained
    by_cases hinvalid : result.length ≠ samples.length ∨ result.any (fun x => !isFinite x)
    · rw [if_pos hinvalid] at hrun
      exact (failureIsBypass_of_raised hs hsamples hrun).mpr rfl
    · rw [if_neg hinvalid] at hrun
      rw [not_or, not_not] at hinvalid
      have hblock := @processBlock_eq S _ (.line text) _ hs hsamples
      rw [hrun] at hblock
      refine ⟨result, _, hblock, Or.inl ⟨hs.bypassed, hinvalid.1, ?_, text, entries, rfl, hloads, hread⟩⟩
      rw [List.all_eq_true]
      intro x hx
      by_contra hnot
      exact hinvalid.2 (List.any_eq_true.mpr ⟨x, hx, by simpa using hnot⟩)

lemma failureIsBypass_line (hs : h.Started) (hsamples : AcceptedBlock samples) (text : String) :
    FailureIsBypass S h samples (.line text) ↔ (Behaviour.line text).Contained S h.nextRequestId := by
  have hrequest := request_line (S := S) hs text
  have hfail {kind : FailureKind} {message : String} {e : String → Error}
      (heq : request S h (.line text) = h.sent.fail kind message e)
      (hcaught : (HostError.python (e message)).caught = true) :
      FailureIsBypass S h samples (.line text) := failureIsBypass_of_fail hs hsamples heq hcaught
  rw [answer] at hrequest
  cases hloads : S.loads text with
  | error message =>
    rw [hloads] at hrequest
    refine iff_of_true (hfail hrequest rfl) fun entries value heq => ?_
    rw [hloads] at heq
    cases heq
  | ok decoded =>
    rw [hloads] at hrequest
    by_cases hdict : ∃ entries, decoded = .dict entries
    · obtain ⟨entries, rfl⟩ := hdict
      dsimp only at hrequest
      have hsame : ∀ entries', S.loads text = .ok (.dict entries') → entries' = entries := by
        intro entries' heq
        exact Value.dict.inj (Except.ok.inj (heq.symm.trans hloads))
      by_cases hid : (Entries.get entries "requestId" .none).same (.int h.nextRequestId) = false
      · rw [if_pos hid] at hrequest
        refine iff_of_true (hfail hrequest rfl) fun entries' value heq hid' => ?_
        rw [hsame entries' heq, hid] at hid'
        cases hid'
      · rw [if_neg hid] at hrequest
        by_cases hok : (Entries.get entries "ok" .none).truthy = false
        · rw [if_pos hok] at hrequest
          refine iff_of_true (hfail hrequest rfl) fun entries' value heq _ hok' => ?_
          rw [hsame entries' heq, hok] at hok'
          cases hok'
        · rw [if_neg hok] at hrequest
          rw [failureIsBypass_of_answer hs hsamples hloads hrequest]
          constructor
          · intro hall entries' value heq _ _ hlookup
            rw [hsame entries' heq] at hlookup
            exact hall value hlookup
          · intro hall value hlookup
            exact hall entries value hloads (by simpa using hid) (by simpa using hok) hlookup
    · have hnot : ∀ entries, decoded ≠ .dict entries := fun entries heq => hdict ⟨entries, heq⟩
      refine iff_of_true (@hfail .invalid "plugin host response must be an object" .valueError ?_ rfl)
        fun entries value heq => ?_
      · rw [hrequest]
        cases decoded with
        | dict entries => exact absurd rfl (hnot entries)
        | _ => rfl
      · exact absurd (Except.ok.inj (hloads.symm.trans heq)) (hnot entries)

/-- **A block leaves as it should, and so do all after it, exactly where the behaviour is contained.** -/
theorem failure_is_bypass_iff (hs : h.Started) (hsamples : AcceptedBlock samples) :
    FailureIsBypass S h samples behaviour ↔ behaviour.Contained S h.nextRequestId := by
  have hprocess : ¬h.process = false := by
    rw [hs.process]
    simp
  cases behaviour with
  | exited =>
    refine iff_of_true (@failureIsBypass_of_fail _ _ h.sent _ _ hs hsamples .disconnect "plugin host unavailable"
      .runtimeError ?_ rfl) trivial
    rw [request, if_neg hprocess]
  | brokenPipe =>
    refine iff_of_false (fun hsafe => ?_) id
    have hcaught := (failureIsBypass_of_raised hs hsamples (runBlock_of_raised
      (show request S h .brokenPipe = (.raised .brokenPipeError, h.sent) from if_neg hprocess))).mp hsafe
    cases hcaught
  | unread =>
    refine iff_of_false (@not_failureIsBypass_of_stuck _ _ h.sent _ _ hs hsamples ?_) id
    rw [runBlock, show request S h .unread = (.stuck, h.sent) from if_neg hprocess]
  | silent reaped =>
    have hraised := @failureIsBypass_of_raised S _ _ (.silent reaped) _ hs hsamples _
      (runBlock_of_raised (if_neg hprocess))
    rw [hraised]
    cases reaped <;> exact Iff.rfl
  | endOfFile =>
    refine iff_of_true (@failureIsBypass_of_fail _ _ h.sent _ _ hs hsamples .disconnect "plugin host disconnected"
      .runtimeError ?_ rfl) trivial
    rw [request, if_neg hprocess]
  | line text => exact failureIsBypass_line hs hsamples text

def gainHost : IsolatedPluginHost where
  manifest := ⟨"gain", "builtin"⟩
  process := true
  bypassed := false
  requests := 1
  nextRequestId := 2
  starts := 1
  latencyFrames := some 0
  processSupported := true

/-- Answers that say that there are no samples. -/
def nullSamples : HostSetup where
  conversions := plainConversions
  loads _ := .ok (.dict [("ok", .bool true), ("requestId", .int 2), ("samples", .none)])

lemma gainHost_started : gainHost.Started := ⟨rfl, rfl⟩

lemma acceptedBlock_silence : AcceptedBlock [.finite 0] := ⟨by decide, by decide⟩

theorem null_samples_escape : ¬FailureIsBypass nullSamples gainHost [.finite 0]
      (.line "\x7b\"ok\":true,\"requestId\":2,\"samples\":null\x7d") := by
  rintro ⟨result, h', hresult, -⟩
  cases hresult

theorem failure_is_bypass_iff_exited : gainHost.Started ∧ AcceptedBlock [.finite 0] ∧
      (FailureIsBypass nullSamples gainHost [.finite 0] .exited ↔
        Behaviour.exited.Contained nullSamples 2) :=
  ⟨gainHost_started, acceptedBlock_silence, failure_is_bypass_iff gainHost_started acceptedBlock_silence⟩

end

end StageForge
