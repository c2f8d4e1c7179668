import StageForge.Show.Snapshot

/-!
# Calls and the simpler patches

A mutator of `ShowState` checks a revision, then validates and assigns one field after the other on
the live state, and if it reports changes it touches its resources and records an event; at last it
returns a snapshot. A `Call` says what is particular about one of them; `Call.act` is what they
share. Its items work on one part of the content (`Focus`), and what they have assigned stays
assigned if a later one is rejected.
-/

namespace StageForge

open Python Script

/-! ## Calls -/

/-- A part of the content that can be read and replaced. -/
structure Focus (α : Type) where
  get : Content → α
  set : α → Content → Content
  get_set : ∀ a c, get (set a c) = a
  set_get : ∀ c, set (get c) c = c

lemma Content.eta (c : Content) :
    { transport := c.transport, song := c.song, system := c.system, audio := c.audio,
      lighting := c.lighting, handoff := c.handoff, technology := c.technology,
      players := c.players, midiBindings := c.midiBindings, midi := c.midi,
      notationRegistry := c.notationRegistry } = c := rfl

/-- The value that a call works on, with the changes it reports so far. -/
structure Draft (α : Type) where
  value : α
  changes : List String

namespace Draft

variable {α : Type}

def assign (d : Draft α) (value : α) (change : String) : Draft α :=
  { value, changes := d.changes ++ [change] }

/-- Assign a value and report the change if it is one. -/
def assignNew [DecidableEq α] (d : Draft α) (value : α) (change : String) : Draft α :=
  if value = d.value then d else d.assign value change

end Draft

/-- A mutator. `touches` are the resources that are touched, none if nothing is reported. -/
structure Call where
  State : Type
  key : ResourceKey
  focus : Focus State
  items : Content → List (Item Error (Draft State))
  touches : Draft State → List ResourceKey
  notice : Draft State → Content → Except Error Live.Notice
  extensions : Bool := false

namespace Call

/-- What the call has assigned when it ends or is rejected. -/
def outcome (call : Call) (c : Content) : Draft call.State × Except Error Unit :=
  run (call.items c) { value := call.focus.get c, changes := [] }

/-- The content with what the call has assigned. -/
def after (call : Call) (c : Content) : Content := call.focus.set (call.outcome c).1.value c

def written (call : Call) (s : Live) : Live := { s with toContent := call.after s.toContent }

/-- The resources that the call touches if it is accepted. -/
def touched (call : Call) (c : Content) : List ResourceKey := call.touches (call.outcome c).1

/-- The call up to the snapshot that it returns. -/
def act (call : Call) (clocks : Clocks) (expected expectedResource : Option Int) (s : Live) :
    Live × Except Failure Unit :=
  match s.checkRevision expected expectedResource call.key with
  | .error failure => (s, .error failure)
  | .ok _ =>
    match (call.outcome s.toContent).2 with
    | .error e => (call.written s, .error (.raised e))
    | .ok _ =>
      if call.touched s.toContent = [] then (call.written s, .ok ())
      else
        let t := (call.written s).touch (call.touched s.toContent)
        match call.notice (call.outcome s.toContent).1 t.toContent with
        | .error e => (t, .error (.raised e))
        | .ok notice => (t.record clocks notice, .ok ())

def perform (call : Call) (clocks : Clocks) (expected expectedResource : Option Int)
    (s : ShowState) : ShowState × Except Failure Entries :=
  let acted := call.act clocks expected expectedResource s.toLive
  let t : ShowState := { s with toLive := acted.1 }
  match acted.2 with
  | .error failure => (t, .error failure)
  | .ok _ => t.answer { notes := false, extensions := call.extensions } clocks.snapshot

/-! ### The five ways a call can go -/

variable {call : Call} {clocks : Clocks} {expected expectedResource : Option Int} {s : ShowState}

lemma perform_of_conflict {failure : Failure}
    (hcheck : s.checkRevision expected expectedResource call.key = .error failure) :
    call.perform clocks expected expectedResource s = (s, .error failure) := by
  simp only [perform, act, hcheck]

lemma perform_of_rejected {e : Error}
    (hcheck : s.checkRevision expected expectedResource call.key = .ok ())
    (hout : (call.outcome s.toContent).2 = .error e) :
    call.perform clocks expected expectedResource s =
      ({ s with toLive := call.written s.toLive }, .error (.raised e)) := by
  simp only [perform, act, hcheck, hout]

lemma perform_of_idle (hcheck : s.checkRevision expected expectedResource call.key = .ok ())
    (hout : (call.outcome s.toContent).2 = .ok ()) (htouched : call.touched s.toContent = []) :
    call.perform clocks expected expectedResource s =
      ShowState.answer { s with toLive := call.written s.toLive }
        { notes := false, extensions := call.extensions } clocks.snapshot := by
  simp only [perform, act, hcheck, hout, htouched, if_true]

lemma perform_of_unnoticed {e : Error}
    (hcheck : s.checkRevision expected expectedResource call.key = .ok ())
    (hout : (call.outcome s.toContent).2 = .ok ()) (htouched : call.touched s.toContent ≠ [])
    (hnotice : call.notice (call.outcome s.toContent).1 (call.written s.toLive).toContent =
      .error e) :
    call.perform clocks expected expectedResource s =
      ({ s with toLive := (call.written s.toLive).touch (call.touched s.toContent) },
        .error (.raised e)) := by
  have hcontent : ((call.written s.toLive).touch (call.touched s.toContent)).toContent =
      (call.written s.toLive).toContent := rfl
  simp only [perform, act, hcheck, hout, htouched, if_false, hcontent, hnotice]

lemma perform_of_noticed {notice : Live.Notice}
    (hcheck : s.checkRevision expected expectedResource call.key = .ok ())
    (hout : (call.outcome s.toContent).2 = .ok ()) (htouched : call.touched s.toContent ≠ [])
    (hnotice : call.notice (call.outcome s.toContent).1 (call.written s.toLive).toContent =
      .ok notice) :
    call.perform clocks expected expectedResource s = ShowState.answer { s with
          toLive := ((call.written s.toLive).touch (call.touched s.toContent)).record clocks
            notice }
        { notes := false, extensions := call.extensions } clocks.snapshot := by
  have hcontent : ((call.written s.toLive).touch (call.touched s.toContent)).toContent =
      (call.written s.toLive).toContent := rfl
  simp only [perform, act, hcheck, hout, htouched, if_false, hcontent, hnotice]

/-- **What a call that returns has done.** -/
lemma perform_returns {doc : Entries}
    (h : (call.perform clocks expected expectedResource s).2 = .ok doc) :
    s.checkRevision expected expectedResource call.key = .ok () ∧
      (call.outcome s.toContent).2 = .ok () ∧
      (call.touched s.toContent = [] ∧
          (call.perform clocks expected expectedResource s).1.toLive = call.written s.toLive ∨
        call.touched s.toContent ≠ [] ∧ ∃ notice,
          (call.perform clocks expected expectedResource s).1.toLive =
            ((call.written s.toLive).touch (call.touched s.toContent)).record clocks notice) := by
  cases hcheck : s.checkRevision expected expectedResource call.key with
  | error failure => simp [perform_of_conflict hcheck] at h
  | ok _ =>
    cases hout : (call.outcome s.toContent).2 with
    | error e => simp [perform_of_rejected hcheck hout] at h
    | ok _ =>
      refine ⟨rfl, rfl, ?_⟩
      by_cases htouched : call.touched s.toContent = []
      · rw [perform_of_idle hcheck hout htouched]
        exact .inl ⟨htouched, rfl⟩
      · cases hnotice : call.notice (call.outcome s.toContent).1
            (call.written s.toLive).toContent with
        | error e => simp [perform_of_unnoticed hcheck hout htouched hnotice] at h
        | ok notice =>
          rw [perform_of_noticed hcheck hout htouched hnotice]
          exact .inr ⟨htouched, notice, rfl⟩

end Call

/-- A resource is touched if any change is reported. -/
def touchIfChanged {α : Type} (key : ResourceKey) (d : Draft α) : List ResourceKey :=
  if d.changes = [] then [] else [key]

/-- The notice of a patch: its changes, as a text and as a list. -/
def changesNotice {α : Type} (category lead : String) (d : Draft α) (_ : Content) :
    Except Error Live.Notice :=
  .ok { category, text := lead ++ ", ".intercalate d.changes,
        payload := [("changes", .list (d.changes.map .str))] }

/-- A type or value error becomes a value error with a message. -/
def orRaise {α : Type} (message : String) : Except Error α → Except Error α
  | .ok a => .ok a
  | .error e => if e.isValueError then .error (.valueError message) else .error e

/-- `if key in data: …` for data that is an object. -/
def onField {α : Type} (data : Entries) (key : String) (f : Value → Draft α → Except Error (Draft α)) :
    Item Error (Draft α) := fun d =>
  match data.lookup key with
  | some value => f value d
  | none => .ok d

variable (P : Platform)

/-! ## Transport -/

def transportFocus : Focus Transport where
  get c := c.transport
  set a c := { c with transport := a }
  get_set _ _ := rfl
  set_get _ := rfl

/-- What an action does to the transport, with the name of the action; `None` for no action. -/
def transportAction (now : ℚ) (action : String) (d : Draft Transport) :
    Except Error (Draft Transport) :=
  let transport := d.value
  if action = "play" then
    .ok (if transport.running then d
      else d.assign { transport with running := true, startedAt := now } "Play")
  else if action = "pause" then
    .ok (if transport.running then
        d.assign { transport with elapsed := transport.clockSeconds now, running := false } "Pause"
      else d)
  else if action = "stop" then
    .ok (d.assign { running := false, elapsed := 0, startedAt := now } "Stop")
  else if action = "rewind" then
    .ok (d.assign { transport with elapsed := 0, startedAt := now } "Rewind")
  else .error (.valueError "action must be play, pause, stop, or rewind")

/-- `transport`. -/
def transportCall (clocks : Clocks) (action : String) : Call where
  State := Transport
  key := .transport
  focus := transportFocus
  items _ := [transportAction clocks.now (strip (lower action))]
  touches := touchIfChanged .transport
  notice d _ := .ok
    { category := "transport", text := ", ".intercalate d.changes,
      payload := [("action", .str (strip (lower action)))] }

/-! ## Song and system -/

def songFocus : Focus Song where
  get c := c.song
  set a c := { c with song := a }
  get_set _ _ := rfl
  set_get _ := rfl

def patchShow (data : Entries) : Call where
  State := Song
  key := .show
  focus := songFocus
  items _ := [onField data "bpm" fun value d => do
        let bpm ← P.floatIn 30 300 le_tempo value
        return d.assign { d.value with bpm } ("BPM " ++ P.formatG bpm),
      onField data "key" fun value d =>
        let key := strip (P.str value)
        .ok (if key = "" then d
          else d.assign { d.value with key := clip 12 key } ("key " ++ clip 12 key))]
  touches := touchIfChanged .show
  notice := changesNotice "show" "Updated "

def systemFocus : Focus System where
  get c := c.system
  set a c := { c with system := a }
  get_set _ _ := rfl
  set_get _ := rfl

/-- `str(value).strip()[:80] or current`. -/
def textOr (current : String) (value : Value) : String :=
  if clippedText P.toConversions 80 value = "" then current
  else clippedText P.toConversions 80 value

def patchSystem (data : Entries) : Call where
  State := System
  key := .system
  focus := systemFocus
  items _ := [onField data "capacity" fun value d => do
        let capacity ← P.floatIn 0 100 le_percent value
        return d.assign { d.value with capacity } ("capacity " ++ P.formatG capacity ++ "%"),
      onField data "mode" fun value d =>
        match SystemMode.ofText? (strip (lower (P.str value))) with
        | some mode => .ok (d.assign { d.value with mode } ("mode " ++ mode.text))
        | none =>
          .error (.valueError "mode must be one of ['audio', 'full', 'reduced', 'safe']"),
      onField data "venue" fun value d =>
        let venue := textOr P d.value.venue value
        .ok (d.assign { d.value with venue } ("venue " ++ venue)),
      onField data "productionManager" fun value d =>
        let productionManager := textOr P d.value.productionManager value
        .ok (d.assign { d.value with productionManager } ("manager " ++ productionManager))]
  touches := touchIfChanged .system
  notice := changesNotice "system" "Updated "

/-! ## Lighting network -/

def lightingFocus : Focus Lighting where
  get c := c.lighting
  set a c := { c with lighting := a }
  get_set _ _ := rfl
  set_get _ := rfl

/-- The integer that a lighting field is to have. -/
def lightingNumber (name : String) (lo hi : Int) (value : Value) :
    Except Error (Set.Icc lo hi) := do
  let n ← orRaise ("lighting " ++ name ++ " must be an integer") (P.int value)
  if h : lo ≤ n ∧ n ≤ hi then return ⟨n, h⟩
  else throw (.valueError
    ("lighting " ++ name ++ " must be " ++ toString lo ++ ".." ++ toString hi))

/-- The target that a text gives: empty or the address of one host. -/
def unicastTarget (target : String) : Except Error String := if target = "" then .ok target
  else match ipv4? target with
    | some octets =>
      if isUnicast octets then .ok target
      else .error (.valueError "lighting target must be unicast IPv4")
    | none => .error (.valueError "lighting target must be an IPv4 address")

def patchLightingNetwork (data : Entries) : Call where
  State := Lighting
  key := .lightingNetwork
  focus := lightingFocus
  items _ := [onField data "protocol" fun value d =>
        match LightingProtocol.ofText? (lower (strip (P.str value))) with
        | none => .error (.valueError "lighting protocol must be artnet or sacn")
        | some protocol =>
          if protocol = d.value.protocol then .ok d
          else
            let d' := d.assign { d.value with protocol } "protocol"
            if data.lookup "port" = none ∧ d.value.port = d.value.protocol.defaultPort then
              .ok (d'.assign { d'.value with port := protocol.defaultPort } "port")
            else .ok d',
      onField data "target" fun value d => do
        let target ← unicastTarget (clippedText P.toConversions 64 value)
        return d.assignNew { d.value with target } "target",
      onField data "port" fun value d => do
        let port ← lightingNumber P "port" 1 65535 value
        return d.assignNew { d.value with port } "port",
      onField data "universeBase" fun value d => do
        let universeBase ← lightingNumber P "universeBase" 1 63984 value
        return d.assignNew { d.value with universeBase } "universeBase"]
  touches := touchIfChanged .lightingNetwork
  notice := changesNotice "lighting" "Lighting network desired state updated: "

/-! ## MIDI bindings -/

def bindingsFocus : Focus (Dict String String) where
  get c := c.midiBindings
  set a c := { c with midiBindings := a }
  get_set _ _ := rfl
  set_get _ := rfl

def playerName (c : Content) (playerId : String) : String :=
  ((c.players.find? playerId).map Player.name).getD ""

def bindMidiDevice (deviceId playerId : String) : Call where
  State := Dict String String
  key := .midiBindings
  focus := bindingsFocus
  items c := [fun d =>
    match token? 96 deviceId with
    | none => .error (.valueError "MIDI device id must be a non-empty token")
    | some device =>
      if device.val = "" then .error (.valueError "MIDI device id must be a non-empty token")
      else if c.players.find? playerId = none then .error (.keyError playerId)
      else if d.value.get? device.val = some playerId then .ok d
      else .ok (d.assign (d.value.set device.val playerId) device.val)]
  touches := touchIfChanged .midiBindings
  notice d c := .ok
    { category := "midi",
      text := "MIDI device " ++ d.changes.headD "" ++ " bound to " ++ playerName c playerId,
      payload := [("deviceId", .str (d.changes.headD "")), ("playerId", .str playerId)] }

def unbindMidiDevice (deviceId : String) : Call where
  State := Dict String String
  key := .midiBindings
  focus := bindingsFocus
  items _ := [fun d =>
    match d.value.get? (clip 96 (strip deviceId)) with
    | none => .ok d
    | some previous => .ok (d.assign (d.value.erase (clip 96 (strip deviceId))) previous)]
  touches := touchIfChanged .midiBindings
  notice d _ := .ok
    { category := "midi", text := "MIDI device " ++ clip 96 (strip deviceId) ++ " unbound",
      payload := [("deviceId", .str (clip 96 (strip deviceId))),
        ("playerId", .str (d.changes.headD ""))] }

end StageForge
