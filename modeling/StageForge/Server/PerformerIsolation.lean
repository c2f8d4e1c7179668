import StageForge.Midi.BadEvents

/-!
# What a performer may change

`authorize_control_request` of `backend/http_authorization.py` looks at the route of a request only. The player
routes of `backend/dev_server.py` pass its body on, and a MIDI message goes to the mapping engine as well.
-/

namespace StageForge

open Python Script

/-! ## Authorization -/

inductive HttpRole
  | observer
  | performer
  | operator
  | authority
  | admin
  deriving DecidableEq

structure UserRecord where
  roles : List HttpRole
  players : List String
  deriving DecidableEq

structure AuthorizationDecision where
  allowed : Bool
  actor : Option String
  roles : List HttpRole
  action : String
  target : Option String
  reason : String
  deriving DecidableEq

/-- `text.startswith(lead)`. -/
def startsWith (lead text : String) : Bool := lead.toList.isPrefixOf text.toList

/-- `text.endswith(tail)`. -/
def endsWith (tail text : String) : Bool := tail.toList.isSuffixOf text.toList

/-- `text.strip("/")`. -/
def stripSlashes (text : List Char) : List Char :=
  ((text.dropWhile fun c => c = '/').reverse.dropWhile fun c => c = '/').reverse

def mutatingMethods : List String := ["POST", "PATCH", "PUT", "DELETE"]

def specializedExact : List (String × String) :=
  [("POST", "/api/v1/handoff/execution/shadow"), ("POST", "/api/v1/handoff/execution/live"),
    ("POST", "/api/v1/venue/reconciliation/report"), ("POST", "/api/v1/le-uwb/observations/uwb"),
    ("POST", "/api/v1/le-uwb/observations/le"), ("POST", "/api/v1/venue/profile"),
    ("POST", "/api/v1/replication/apply"), ("POST", "/api/v1/handoff/planned/peer-ready"),
    ("POST", "/api/v1/community/accounts"), ("POST", "/api/v1/community/proposals"),
    ("POST", "/api/v1/community/vote"), ("POST", "/api/v1/community/session"),
    ("POST", "/api/v1/community/session/revoke"), ("POST", "/api/v1/community/public-record/reconcile"),
    ("POST", "/api/v1/public-record/witness"), ("POST", "/api/v1/technology/conformance-receipt"),
    ("PATCH", "/api/v1/community/policy")]

def authorityExact : List String :=
  ["/api/v1/witness/recover", "/api/v1/node/role", "/api/v1/failover/promote"]

def authorityPrefixes : List String := ["/api/v1/handoff/planned/", "/api/v1/venue/authority/"]

def playerSuffixActions : List (String × String) :=
  [("/monitor", "player.monitor.write"), ("/midi/input", "player.midi.write"),
    ("/notation/note", "player.notation.write"), ("/notation/clear", "player.notation.write"),
    ("/notation/settings", "player.notation.write")]

def apiPrefix : String := "/api/v1/"

def playersPrefix : String := "/api/v1/players/"

def playerAction (path : String) : Option (String × String) := if startsWith playersPrefix path then
    let tail := path.toList.drop playersPrefix.toList.length
    playerSuffixActions.findSome? fun entry =>
      if entry.1.toList.isSuffixOf tail then
        let player := stripSlashes (tail.take (tail.length - entry.1.toList.length))
        if player ≠ [] ∧ '/' ∉ player then some (entry.2, String.ofList player) else none
      else none
  else none

/-- `classify_control_action`: the action, its target, and whether authority is needed. -/
def classifyControlAction (path : String) : String × Option String × Bool :=
  let tail := path.toList.drop apiPrefix.toList.length
  match playerAction path with
  | some (action, player) => (action, some player, false)
  | none =>
    if path ∈ authorityExact ∨ authorityPrefixes.any (startsWith · path) then
      ("authority." ++ String.ofList (tail.map fun c => if c = '/' then '.' else c), none, true)
    else if path = "/api/v1/handoff" then ("authority.handoff.policy", none, true)
    else if startsWith apiPrefix path then
      (textOrElse (String.ofList (tail.takeWhile fun c => c ≠ '/')) "api" ++ ".control", none, false)
    else ("http.control", none, false)

/-- What the record of a user says about an action. -/
def UserRecord.decide (record : UserRecord) (actor action : String) (target : Option String)
    (authoritySensitive : Bool) : AuthorizationDecision :=
  let decision := fun allowed reason =>
    { allowed, actor := some actor, roles := record.roles, action, target, reason : AuthorizationDecision }
  if .admin ∈ record.roles then decision true "admin-role"
  else if authoritySensitive then
    if .authority ∈ record.roles then decision true "authority-role" else decision false "authority-role-required"
  else
    match target with
    | some player =>
      if .operator ∈ record.roles then decision true "operator-role"
      else if .performer ∈ record.roles ∧ player ∈ record.players then decision true "assigned-performer"
      else decision false "player-control-not-authorized"
    | none =>
      if .operator ∈ record.roles then decision true "operator-role" else decision false "operator-role-required"

section

variable (upper : String → String)

def specializedAuthorizationRoute (method path : String) : Bool :=
  (upper method, path) ∈ specializedExact ∨
    (upper method ∈ mutatingMethods ∧ startsWith "/api/v1/community/proposals/" path)

/-- `authorize_control_request`, for the users of a policy; `upper` is the method of texts. -/
def authorizeControlRequest (policy : Option (Dict String UserRecord)) (actor : Option String)
    (method path : String) : Option AuthorizationDecision :=
  match policy with
  | none => none
  | some users =>
    if upper method ∉ mutatingMethods ∨ ¬startsWith apiPrefix path then none
    else if specializedAuthorizationRoute upper (upper method) path then none
    else
      let (action, target, authoritySensitive) := classifyControlAction path
      let decision := fun actor reason =>
        { allowed := false, actor, roles := [], action, target, reason : AuthorizationDecision }
      match actor with
      | none => some (decision none "authenticated-user-required")
      | some name =>
        if name = "" then some (decision none "authenticated-user-required")
        else
          match users.get? name with
          | none => some (decision actor "user-not-authorized")
          | some record => some (record.decide name action target authoritySensitive)

variable {upper}

lemma UserRecord.decide_performer {record : UserRecord} {actor action : String} {target : Option String}
    {authoritySensitive : Bool}
    (h : (record.decide actor action target authoritySensitive).reason = "assigned-performer") :
    ∃ player, target = some player ∧ player ∈ record.players := by
  cases target with
  | none =>
    unfold UserRecord.decide at h
    split_ifs at h <;> simp at h
  | some player =>
    refine ⟨player, rfl, ?_⟩
    unfold UserRecord.decide at h
    dsimp only at h
    split_ifs at h with _ _ _ _ hperformer <;> simp at h
    exact hperformer.2

lemma playerAction_of_target {path player : String} (h : (classifyControlAction path).2.1 = some player) :
    ∃ action, playerAction path = some (action, player) := by
  unfold classifyControlAction at h
  cases haction : playerAction path with
  | some entry =>
    rw [haction] at h
    obtain ⟨action, target⟩ := entry
    cases h
    exact ⟨action, rfl⟩
  | none =>
    rw [haction] at h
    split_ifs at h

lemma assigned_of_performer {users : Dict String UserRecord} {actor method path : String} {record : UserRecord}
    {decision : AuthorizationDecision} (hrecord : users.get? actor = some record)
    (h : authorizeControlRequest upper (some users) (some actor) method path = some decision)
    (hreason : decision.reason = "assigned-performer") :
    ∃ action player, playerAction path = some (action, player) ∧ player ∈ record.players := by
  unfold authorizeControlRequest at h
  dsimp only at h
  split_ifs at h
  · cases h
    exact absurd hreason (by simp)
  · rw [hrecord] at h
    cases h
    obtain ⟨player, htarget, hassigned⟩ := UserRecord.decide_performer hreason
    obtain ⟨action, haction⟩ := playerAction_of_target htarget
    exact ⟨action, player, haction, hassigned⟩

end

/-! ## Player routes -/

inductive PlayerOperation
  | midiInput
  | notationNote
  | notationClear
  | notationSettings
  | monitor
  deriving DecidableEq

def playerRoutes : List (String × String × PlayerOperation) :=
  [("POST", "/midi/input", .midiInput), ("POST", "/notation/note", .notationNote),
    ("POST", "/notation/clear", .notationClear), ("PATCH", "/notation/settings", .notationSettings),
    ("PATCH", "/monitor", .monitor)]

/-- `path[len(prefix):-len(suffix)].strip("/")`. -/
def playerBetween (path tail : String) : String := String.ofList (stripSlashes
    ((path.toList.take (path.toList.length - tail.toList.length)).drop playersPrefix.toList.length))

/-- The route of a player that serves the request; without a player there is none. -/
def playerRoute (method path : String) : Option (PlayerOperation × String) :=
  (playerRoutes.find? fun route =>
    route.1 = method ∧ startsWith playersPrefix path ∧ endsWith route.2.1 path).bind fun route =>
      if playerBetween path route.2.1 = "" then none else some (route.2.2, playerBetween path route.2.1)

lemma playerRoute_player {method path action target player : String} {operation : PlayerOperation}
    (haction : playerAction path = some (action, target))
    (hroute : playerRoute method path = some (operation, player)) : player = target := by
  unfold playerAction at haction
  split_ifs at haction
  obtain ⟨entry, hentry, htarget⟩ := List.exists_of_findSome?_eq_some haction
  dsimp only at htarget
  split_ifs at htarget with htail
  obtain rfl := (Prod.mk.inj (Option.some.inj htarget)).2
  obtain ⟨route, hfind, hroute⟩ := Option.bind_eq_some_iff.mp hroute
  split_ifs at hroute
  obtain rfl := (Prod.mk.inj (Option.some.inj hroute)).2
  have hends : route.2.1.toList <:+ path.toList := by
    have hfound := List.find?_some hfind
    simp only [decide_eq_true_eq] at hfound
    exact List.isSuffixOf_iff_suffix.mp hfound.2.2
  have hsuffix : entry.1.toList <:+ path.toList :=
    (List.isSuffixOf_iff_suffix.mp htail).trans (List.drop_suffix _ _)
  -- no end of a path is the end of another one
  have hone : ∀ entry ∈ playerSuffixActions, ∀ route ∈ playerRoutes,
      entry.1.toList <:+ route.2.1.toList ∨ route.2.1.toList <:+ entry.1.toList → entry.1 = route.2.1 := by
    decide
  have hsame := hone entry hentry route (List.mem_of_find?_eq_some hfind)
    (List.suffix_or_suffix_of_suffix hsuffix hends)
  unfold playerBetween
  rw [← hsame, List.drop_take, List.length_drop, Nat.sub_right_comm]

structure PlayerRequest where
  method : String
  path : String
  body : Entries
  expected : Option Int := none
  expectedResource : Option Int := none

/-! ## The mapping engine and a free body -/

namespace MidiMappingEngine

/-- `_message`, as `observe` reads it from a body. -/
def messageOf (C : Conversions) (body : Entries) : Except Error MidiBytes := do
  let status ← C.int (body.get "status" (.int 0))
  let data1 ← C.int (body.get "data1" (.int 0))
  let data2 ← C.int (body.get "data2" (.int 0))
  if ¬(0 ≤ status ∧ status ≤ 255 ∧ 0 ≤ data1 ∧ data1 ≤ 127 ∧ 0 ≤ data2 ∧ data2 ≤ 127) then
    throw (.valueError "MIDI bytes out of range")
  return { status := status.toNat, data1 := data1.toNat, data2 := data2.toNat }

/-- The time of the message: that of the transport if the body names none. -/
def secondsOf (C : Conversions) (transportSeconds : ℚ) (body : Entries) : Except Error (WithTop ℚ) :=
  match body.lookup "showTimeSeconds" with
  | none => .ok (max 0 transportSeconds : ℚ)
  | some value => (C.float value).map nonnegative

/-- The mapping cannot say when its action is due. -/
def untimed (transport : MappingTransport) (seconds : Except Error (WithTop ℚ)) (mapping : MidiMapping) :
    Option Error :=
  match seconds with
  | .error e => some e
  | .ok ⊤ => if 0 < beatFraction (transport.division mapping) then some .overflowError else none
  | .ok _ => none

/-- The mappings one after another, until one that responds raises. -/
def actAll (power : ℚ → ℚ → ℚ) (transport : MappingTransport) (seconds : Except Error (WithTop ℚ))
    (e : MappingEvent) : List MidiMapping → MidiMappingEngine → MidiMappingEngine × Except Error Unit
  | [], m => (m, .ok ())
  | mapping :: mappings, m =>
    match (if responds e mapping then untimed transport seconds mapping else none) with
    | some error => (m.move e mapping, .error error)
    | none => actAll power transport seconds e mappings (m.act power transport e mapping)

/-- `observe`, of a body that a client has sent. -/
def observeBody (C : Conversions) (power : ℚ → ℚ → ℚ) (transport : MappingTransport) (transportSeconds : ℚ)
    (m : MidiMappingEngine) (body : Entries) : MidiMappingEngine × Except Error Unit :=
  match messageOf C body with
  | .error error => (m, .error error)
  | .ok bytes =>
    let seconds := secondsOf C transportSeconds body
    let e : MappingEvent :=
      { deviceId := clip 96 (C.str (body.get "deviceId" (.str "direct"))), bytes
        seconds := seconds.toOption.getD 0 }
    let learned := m.learn e
    match actAll power transport seconds e learned.mappings learned with
    | (mapped, .error error) => (mapped, .error error)
    | (mapped, .ok ()) => ({ mapped with pending := lastOf 1024 mapped.pending }, .ok ())

end MidiMappingEngine

section

variable (P : Platform) (power : ℚ → ℚ → ℚ)

namespace MidiNode

/-- `ingest_midi` of the runtime: the state takes the message, the engine observes it, and what is due is
executed. -/
def ingestBody (n : MidiNode) (clocks later : Clocks) (playerId : String) (body : Entries)
    (expected expectedResource : Option Int) : MidiNode × Except Failure Unit :=
  match n.call P clocks (.ingestMidi playerId body) expected expectedResource with
  | (t, .error failure) => (t, .error failure)
  | (t, .ok _) =>
    let seconds := t.state.shownSeconds clocks.snapshot
    match t.engine.observeBody P.toConversions power t.state.mappingTransport seconds body with
    | (engine, .error error) => ({ t with engine }, .error (.raised error))
    | (engine, .ok ()) =>
      executeActions P later (engine.drainDue seconds).1 { t with engine := (engine.drainDue seconds).2 }

def playerOperation (n : MidiNode) (clocks later : Clocks) (request : PlayerRequest) (playerId : String) :
    PlayerOperation → MidiNode × Except Failure Unit
  | .midiInput =>
    n.ingestBody P power clocks later playerId request.body request.expected request.expectedResource
  | .notationNote =>
    (n.call P clocks (.notationNote playerId request.body) request.expected request.expectedResource).map id
      (Except.map fun _ => ())
  | .notationClear =>
    (n.call P clocks (.clearNotation playerId) request.expected request.expectedResource).map id
      (Except.map fun _ => ())
  | .notationSettings =>
    (n.call P clocks (.patchNotationSettings playerId request.body) request.expected
      request.expectedResource).map id (Except.map fun _ => ())
  | .monitor =>
    (n.call P clocks (.patchMonitor playerId request.body) request.expected request.expectedResource).map id
      (Except.map fun _ => ())

/-- A request through the routes of the players. -/
def carryOut (n : MidiNode) (clocks later : Clocks) (request : PlayerRequest) : MidiNode :=
  match playerRoute request.method request.path with
  | none => n
  | some (operation, playerId) =>
    match n.playerOperation P power clocks later request playerId operation with
    | (t, .error _) => t
    | (t, .ok ()) => t.settle n.state.revision

/-- The state does not take the message, or the engine cannot observe it; or what is then due does nothing to the
show. -/
def Ineffective (n : MidiNode) (clocks : Clocks) (playerId : String) (body : Entries)
    (expected expectedResource : Option Int) : Prop :=
  let seconds := n.state.shownSeconds clocks.snapshot
  let observed := n.engine.observeBody P.toConversions power n.state.mappingTransport seconds body
  (∃ failure, ((ingestMidi P clocks playerId body).perform clocks expected expectedResource n.state).2 =
    .error failure) ∨
  (∃ error, observed.2 = .error error) ∨
  recordedActions n.state.transport.running (observed.1.drainDue seconds).1 = 0

/-- If the request is a MIDI message, it does nothing to the show. -/
def Harmless (n : MidiNode) (clocks : Clocks) (request : PlayerRequest) : Prop :=
  ∀ playerId, playerRoute request.method request.path = some (.midiInput, playerId) →
    n.Ineffective P power clocks playerId request.body request.expected request.expectedResource

end MidiNode

end

/-! ## What belongs to players -/

/-- No resource but those of the players has changed or got another revision. -/
def KeepsOthers (players : List String) (s t : ShowState) : Prop :=
  ∀ key, key ∉ players.flatMap ResourceKey.ofPlayer →
    SameResource s.toContent t.toContent key ∧ t.resourceRevision key = s.resourceRevision key

namespace Call

variable {call : Call} {clocks : Clocks} {expected expectedResource : Option Int} {s : ShowState}

lemma perform_content :
    (call.perform clocks expected expectedResource s).1.toContent = s.toContent ∨
      (call.perform clocks expected expectedResource s).1.toContent = call.after s.toContent := by
  rcases @perform_cases clocks call expected expectedResource s with hsame | hwritten | htouched | ⟨notice, hnoticed⟩
  · exact Or.inl (by rw [hsame])
  · exact Or.inr (by rw [hwritten]; rfl)
  · exact Or.inr (by rw [htouched]; rfl)
  · exact Or.inr (by rw [hnoticed]; rfl)

lemma perform_untouched {key : ResourceKey} (hkey : key ∉ call.touched s.toContent) :
    (call.perform clocks expected expectedResource s).1.resourceRevision key = s.resourceRevision key := by
  have htouch : ((call.written s.toLive).touch (call.touched s.toContent)).resourceRevision key =
      s.resourceRevision key := by
    rw [Live.resourceRevision_touch, if_neg hkey, add_zero]
    rfl
  rcases @perform_cases clocks call expected expectedResource s with hsame | hwritten | htouched | ⟨notice, hnoticed⟩
  · rw [hsame]
  · rw [hwritten]
    rfl
  · rw [htouched]
    exact htouch
  · rw [hnoticed]
    exact htouch

lemma readable_of_returns {doc : Entries} (h : (call.perform clocks expected expectedResource s).2 = .ok doc) :
    (call.perform clocks expected expectedResource s).1.notationRegistry.Readable := by
  unfold perform at h ⊢
  dsimp only at h ⊢
  cases hacted : (call.act clocks expected expectedResource s.toLive).2 with
  | error failure =>
    rw [hacted] at h
    cases h
  | ok _ =>
    rw [hacted] at h
    exact ShowState.answer_ok_iff.mp ⟨doc, h⟩

variable (call) in
/-- The call works on the resources of a player, whether it is accepted or not. -/
structure Confined (playerId : String) (c : Content) : Prop where
  same : ∀ key ∉ ResourceKey.ofPlayer playerId, SameResource c (call.after c) key
  touched : ∀ key ∈ call.touched c, key ∈ ResourceKey.ofPlayer playerId

lemma Confined.keepsOthers {players : List String} {playerId : String} (h : call.Confined playerId s.toContent)
    (hplayer : playerId ∈ players) :
    KeepsOthers players s (call.perform clocks expected expectedResource s).1 := by
  intro key hkey
  have hother : key ∉ ResourceKey.ofPlayer playerId := fun hmem =>
    hkey (List.mem_flatMap.mpr ⟨playerId, hplayer, hmem⟩)
  refine ⟨?_, perform_untouched fun hmem => hother (h.touched key hmem)⟩
  rcases @perform_content call clocks expected expectedResource s with heq | heq
  · rw [heq]
    exact SameResource.refl _ _
  · rw [heq]
    exact h.same key hother

end Call

/-! ## The calls about a player -/

section

variable {P : Platform} {clocks : Clocks} {c : Content} {playerId : String} {data : Entries} {key : ResourceKey}

lemma touchIfChanged_subset {α : Type} {d : Draft α} {other : ResourceKey} (h : other ∈ touchIfChanged key d) :
    other = key := by
  unfold touchIfChanged at h
  split_ifs at h
  · exact absurd h List.not_mem_nil
  · exact List.mem_singleton.mp h

lemma confined_patchMonitor : (patchMonitor P playerId data).Confined playerId c where
  same key hkey := by
    refine @sameResource_players c key playerId _ ?_ fun heq => hkey (heq ▸ List.mem_cons_self)
    refine run_invariant (I := fun d : Draft (Table Player.id) =>
      ∀ id ≠ playerId, d.value.find? id = c.players.find? id) (fun item hitem d d' hd hok id hne => ?_) fun _ _ => rfl
    rcases List.mem_cons.mp hitem with rfl | hitem
    · rw [(playerItem_ok hok).1, hd id hne]
    · obtain ⟨patch, -, rfl⟩ := List.mem_map.mp hitem
      unfold monitorItem at hok
      cases hplayer : d.value.find? playerId with
      | none =>
        rw [hplayer] at hok
        cases hok
      | some player =>
        rw [hplayer] at hok
        dsimp only at hok
        cases hmonitor : patch player.monitor with
        | error e =>
          rw [hmonitor] at hok
          cases hok
        | ok monitor =>
          rw [hmonitor] at hok
          cases hok
          have hid : player.id = playerId := (Table.find?_eq_some.mp hplayer).2
          rw [Table.find?_put, if_neg fun heq => hne (heq.symm.trans hid)]
          exact hd id hne
  touched key hkey := by
    rw [List.mem_singleton.mp hkey]
    exact List.mem_cons_self

def OtherParts (playerId : String) (c : Content) (registry : NotationRegistry) : Prop :=
  ∀ id ≠ playerId, registry.part id = c.notationRegistry.part id

variable {registry : NotationRegistry}

lemma OtherParts.ensure (h : OtherParts playerId c registry) :
    OtherParts playerId c (registry.ensure playerId) := fun id hne => by
  rw [NotationRegistry.part_ensure, h id hne]

lemma OtherParts.set (h : OtherParts playerId c registry) (part : NotationPart) :
    OtherParts playerId c (registry.set playerId part) := fun id hne => by
  rw [NotationRegistry.part_set, if_neg (Ne.symm hne), h id hne]

lemma mem_ofPlayer_part : ResourceKey.notationPart playerId ∈ ResourceKey.ofPlayer playerId :=
  List.mem_cons_of_mem _ (List.mem_cons_of_mem _ List.mem_cons_self)

lemma sameResource_otherParts (h : OtherParts playerId c registry)
    (hkey : key ∉ ResourceKey.ofPlayer playerId) : SameResource c { c with notationRegistry := registry } key :=
  sameResource_registry h fun heq => hkey (heq ▸ mem_ofPlayer_part)

lemma otherParts_ensureItem {d d' : Draft NotationRegistry} (hd : OtherParts playerId c d.value)
    (hok : ensureItem playerId d = .ok d') : OtherParts playerId c d'.value := by
  cases hok
  exact hd.ensure

lemma otherParts_run {items : List (Item Error (Draft NotationRegistry))}
    (hitems : ∀ item ∈ items, ∀ d d', OtherParts playerId c d.value → item d = .ok d' →
      OtherParts playerId c d'.value) :
    OtherParts playerId c
      (run (playerItem c playerId :: items) { value := c.notationRegistry, changes := [] }).1.value := by
  refine run_invariant (I := fun d : Draft NotationRegistry => OtherParts playerId c d.value)
    (fun item hitem d d' hd hok => ?_) fun _ _ => rfl
  rcases List.mem_cons.mp hitem with rfl | hitem
  · rw [(playerItem_ok hok).1]
    exact hd
  · exact hitems item hitem d d' hd hok

lemma confined_patchNotationSettings : (patchNotationSettings P playerId data).Confined playerId c where
  same key hkey := by
    refine sameResource_otherParts (otherParts_run fun item hitem d d' hd hok => ?_) hkey
    rcases List.mem_cons.mp hitem with rfl | hitem
    · exact otherParts_ensureItem hd hok
    · obtain ⟨patch, -, rfl⟩ := List.mem_map.mp hitem
      unfold settingsItem at hok
      dsimp only at hok
      cases hsettings : patch (d.value.part playerId).settings with
      | error e =>
        rw [hsettings] at hok
        cases hok
      | ok settings =>
        rw [hsettings] at hok
        cases hok
        exact hd.set _
  touched key hkey := by
    rw [List.mem_singleton.mp hkey]
    exact mem_ofPlayer_part

lemma confined_notationNote : (notationNote P clocks playerId data).Confined playerId c where
  same key hkey := by
    refine sameResource_otherParts (otherParts_run fun item hitem d d' hd hok => ?_) hkey
    rcases List.mem_cons.mp hitem with rfl | hitem
    · exact otherParts_ensureItem hd hok
    · obtain rfl := List.mem_singleton.mp hitem
      obtain ⟨_, -, hok⟩ := bind_eq_ok.mp hok
      split_ifs at hok
      · obtain ⟨note, -, hok⟩ := bind_eq_ok.mp hok
        obtain ⟨seconds, -, hok⟩ := bind_eq_ok.mp hok
        obtain ⟨played, -, hok⟩ := bind_eq_ok.mp hok
        cases hok
        exact hd.set _
      · cases hok
        exact hd
  touched key hkey := by
    rw [touchIfChanged_subset hkey]
    exact mem_ofPlayer_part

lemma confined_clearNotation : (clearNotation playerId).Confined playerId c where
  same key hkey := by
    refine sameResource_otherParts (otherParts_run fun item hitem d d' hd hok => ?_) hkey
    obtain rfl := List.mem_singleton.mp hitem
    cases hok
    exact hd.set _
  touched key hkey := by
    rw [List.mem_singleton.mp hkey]
    exact mem_ofPlayer_part

/-- The journal has no message of another player that it has not had. -/
def OtherMessages (playerId : String) (c : Content) (journal : MidiJournal) : Prop :=
  ∀ id ≠ playerId, journal.messagesOf id ⊆ c.midi.messagesOf id

lemma OtherMessages.take {journal : MidiJournal} {entry : Entries} (h : OtherMessages playerId c journal)
    (hentry : entry.lookup "playerId" = some (.str playerId)) : OtherMessages playerId c (journal.take entry) := by
  intro id hne m hm
  obtain ⟨hmem, hplayer⟩ := List.mem_filter.mp hm
  rcases MidiJournal.of_mem_take hmem with hold | hnew
  · exact h id hne (List.mem_filter.mpr ⟨hold, hplayer⟩)
  · rw [hnew, hentry] at hplayer
    exact absurd (by simpa using hplayer : playerId = id) (Ne.symm hne)

lemma sameResource_journal {journal : MidiJournal}
    (hjournal : OtherMessages playerId c journal) (hregistry : OtherParts playerId c registry)
    (hkey : key ∉ ResourceKey.ofPlayer playerId) :
    SameResource c { c with midi := journal, notationRegistry := registry } key := by
  cases key with
  | midi id => exact hjournal id fun heq => hkey (heq ▸ List.mem_cons_of_mem _ List.mem_cons_self)
  | notationPart id => exact hregistry id fun heq => hkey (heq ▸ mem_ofPlayer_part)
  | _ => simp [SameResource]

lemma confined_ingestMidi : (ingestMidi P clocks playerId data).Confined playerId c where
  same key hkey := by
    have hboth : OtherMessages playerId c ((ingestMidi P clocks playerId data).outcome c).1.value.1 ∧
        OtherParts playerId c ((ingestMidi P clocks playerId data).outcome c).1.value.2 := by
      refine run_invariant (I := fun d : Draft (MidiJournal × NotationRegistry) =>
        OtherMessages playerId c d.value.1 ∧ OtherParts playerId c d.value.2)
        (fun item hitem d d' hd hok => ?_) ⟨fun _ _ => List.Subset.refl _, fun _ _ => rfl⟩
      rcases List.mem_cons.mp hitem with rfl | hitem
      · rw [(playerItem_ok hok).1]
        exact hd
      · cases hmessage : midiMessage P.toConversions data (c.transport.clockSeconds clocks.now) with
        | error e =>
          rw [hmessage] at hitem
          obtain rfl := List.mem_singleton.mp hitem
          cases hok
        | ok m =>
          rw [hmessage] at hitem
          rcases List.mem_cons.mp hitem with rfl | hitem
          · cases hok
            split_ifs
            · exact hd
            · exact ⟨hd.1, hd.2.ensure⟩
          · rcases List.mem_cons.mp hitem with rfl | hitem
            · unfold observeItem at hok
              cases haction : m.action? with
              | none =>
                rw [haction] at hok
                cases hok
                exact hd
              | some action =>
                rw [haction] at hok
                obtain ⟨_, -, hok⟩ := bind_eq_ok.mp hok
                by_cases henabled : (d.value.2.part playerId).settings.enabled = true
                · rw [if_neg (not_not.mpr henabled)] at hok
                  obtain ⟨played, -, hok⟩ := bind_eq_ok.mp hok
                  cases hok
                  exact ⟨hd.1, hd.2.set _⟩
                · rw [if_pos henabled] at hok
                  cases hok
                  exact hd
            · obtain rfl := List.mem_singleton.mp hitem
              cases hok
              exact ⟨hd.1.take rfl, hd.2⟩
    exact sameResource_journal hboth.1 hboth.2 hkey
  touched key hkey := by
    rcases List.mem_cons.mp hkey with rfl | hkey
    · exact List.mem_cons_of_mem _ List.mem_cons_self
    · split_ifs at hkey
      · exact absurd hkey List.not_mem_nil
      · rw [List.mem_singleton.mp hkey]
        exact mem_ofPlayer_part

end

/-! ## What the actions do to the revisions -/

section

variable {P : Platform} {power : ℚ → ℚ → ℚ} {clocks later : Clocks} {n u : MidiNode}

/-- The revisions of the transport and of the show, beyond the global one. -/
def ShowState.sharedRevisions (s : ShowState) : Int :=
  s.resourceRevision .transport + s.resourceRevision .show - s.revision

lemma touchIfChanged_cases {α : Type} (key : ResourceKey) (d : Draft α) :
    touchIfChanged key d = [] ∨ touchIfChanged key d = [key] := by
  unfold touchIfChanged
  split_ifs
  · exact Or.inl rfl
  · exact Or.inr rfl

lemma Call.perform_shared {call : Call} {expected expectedResource : Option Int} {s : ShowState} {key : ResourceKey}
    {doc : Entries} (hkey : key = .transport ∨ key = .show)
    (htouched : call.touched s.toContent = [] ∨ call.touched s.toContent = [key])
    (h : (call.perform clocks expected expectedResource s).2 = .ok doc) :
    (call.perform clocks expected expectedResource s).1.sharedRevisions = s.sharedRevisions := by
  obtain ⟨-, hresource, hrevision⟩ := Call.perform_returns_revisions h
  have htransport := hresource .transport
  have hshow := hresource .show
  unfold ShowState.sharedRevisions
  rcases htouched with htouched | htouched
  · simp only [htouched, List.not_mem_nil, if_false, if_true] at htransport hshow hrevision
    omega
  · rcases hkey with rfl | rfl
    · simp [htouched] at htransport hshow hrevision
      omega
    · simp [htouched] at htransport hshow hrevision
      omega

namespace MidiNode

lemma call_shared {operation : Mutator} {key : ResourceKey} (hkey : key = .transport ∨ key = .show)
    (htouched : (operation.call P clocks).touched n.state.toContent = [] ∨
      (operation.call P clocks).touched n.state.toContent = [key])
    (h : (n.call P clocks operation none none).map id (Except.map fun _ => ()) = (u, .ok ())) :
    u.state.sharedRevisions = n.state.sharedRevisions := by
  obtain ⟨rfl, hok⟩ := Prod.mk.inj h
  cases hdoc : ((operation.call P clocks).perform clocks none none n.state).2 with
  | error failure =>
    rw [hdoc] at hok
    cases hok
  | ok doc => exact Call.perform_shared hkey htouched hdoc

lemma executeAction_shared {a : MappedAction} (h : n.executeAction P clocks a = (u, .ok ())) :
    u.state.sharedRevisions = n.state.sharedRevisions := by
  unfold executeAction at h
  split_ifs at h
  · exact @call_shared P clocks n u (.transport "play") .transport (.inl rfl) (touchIfChanged_cases _ _) h
  · exact @call_shared P clocks n u (.transport "stop") .transport (.inl rfl) (touchIfChanged_cases _ _) h
  · exact @call_shared P clocks n u (.patchShow _) .show (.inr rfl) (touchIfChanged_cases _ _) h
  · obtain rfl := (Prod.mk.inj h).1
    rfl

lemma executeActions_shared : ∀ (actions : List MappedAction) {n : MidiNode},
    n.executeActions P clocks actions = (u, .ok ()) → u.state.sharedRevisions = n.state.sharedRevisions
  | [], n, h => by
    obtain rfl := (Prod.mk.inj h).1
    rfl
  | a :: actions, n, h => by
    unfold executeActions at h
    cases hone : n.executeAction P clocks a with
    | mk t result =>
      rw [hone] at h
      cases result with
      | error failure => cases h
      | ok _ => exact (executeActions_shared actions h).trans (executeAction_shared hone)

end MidiNode

end

/-! ## Requests of performers -/

section

variable {P : Platform} {power : ℚ → ℚ → ℚ} {clocks later : Clocks} {n : MidiNode} {players : List String}
  {playerId : String}

lemma KeepsOthers.refl (s : ShowState) : KeepsOthers players s s := fun _ _ => ⟨SameResource.refl _ _, rfl⟩

lemma transport_not_mem : ResourceKey.transport ∉ players.flatMap ResourceKey.ofPlayer := by
  simp [ResourceKey.ofPlayer]

lemma show_not_mem : ResourceKey.show ∉ players.flatMap ResourceKey.ofPlayer := by
  simp [ResourceKey.ofPlayer]

namespace MidiNode

lemma settle_state (n : MidiNode) (beforeRevision : Int) : (n.settle beforeRevision).state = n.state := by
  unfold settle
  split <;> rfl

/-- **A MIDI message keeps what is not the player's** unless it makes actions on the show due. -/
lemma ingestBody_keeps_iff {body : Entries} {expected expectedResource : Option Int} (hplayer : playerId ∈ players) :
    KeepsOthers players n.state (n.ingestBody P power clocks later playerId body expected expectedResource).1.state ↔
      n.Ineffective P power clocks playerId body expected expectedResource := by
  obtain ⟨s, hs⟩ : ∃ s, s = ((ingestMidi P clocks playerId body).perform clocks expected expectedResource
    n.state).1 := ⟨_, rfl⟩
  have hkeeps : KeepsOthers players n.state s := hs ▸ confined_ingestMidi.keepsOthers hplayer
  have hcall : (n.call P clocks (.ingestMidi playerId body) expected expectedResource) =
      (n.become s, ((ingestMidi P clocks playerId body).perform clocks expected expectedResource n.state).2) :=
    hs ▸ rfl
  unfold ingestBody Ineffective
  rw [hcall]
  cases hdoc : ((ingestMidi P clocks playerId body).perform clocks expected expectedResource n.state).2 with
  | error failure => exact iff_of_true hkeeps (Or.inl ⟨failure, rfl⟩)
  | ok doc =>
    have hreadable : s.notationRegistry.Readable := by
      rw [hs]
      exact Call.readable_of_returns hdoc
    obtain ⟨⟨hrunning, hclock⟩, htransport⟩ := hkeeps .transport transport_not_mem
    obtain ⟨hsong, hshow⟩ := hkeeps .show show_not_mem
    have hseconds : s.shownSeconds clocks.snapshot = n.state.shownSeconds clocks.snapshot := by
      unfold Content.shownSeconds
      rw [hclock]
    have hmapping : s.mappingTransport = n.state.mappingTransport := by
      unfold Content.mappingTransport
      rw [hrunning, hsong]
    obtain ⟨t, ht, hstate, hengine⟩ : ∃ t, n.become s = t ∧ t.state = s ∧ t.engine = n.engine := ⟨_, rfl, rfl, rfl⟩
    rw [ht]
    dsimp only
    rw [hengine, hstate, hseconds, hmapping]
    cases hobserved : n.engine.observeBody P.toConversions power n.state.mappingTransport
        (n.state.shownSeconds clocks.snapshot) body with
    | mk engine result =>
      cases result with
      | error error => exact iff_of_true hkeeps (Or.inr (Or.inl ⟨error, rfl⟩))
      | ok _ =>
        dsimp only
        obtain ⟨u, new, hu, hsince, hcount, hsame⟩ := @executeActions_executes P later
          (engine.drainDue (n.state.shownSeconds clocks.snapshot)).1
          { t with engine := (engine.drainDue (n.state.shownSeconds clocks.snapshot)).2 } (hstate ▸ hreadable)
        have hshared := executeActions_shared _ hu
        have hrevision := hsince.revision
        rw [hstate] at hu hcount hsame hshared hrevision
        rw [hu, ← hrunning, ← hcount]
        constructor
        · intro hall
          change KeepsOthers players n.state u.state at hall
          refine Or.inr (Or.inr ?_)
          -- the revisions of the transport and the show have stayed, and so the global one has
          have htransport' := (hall .transport transport_not_mem).2
          have hshow' := (hall .show show_not_mem).2
          unfold ShowState.sharedRevisions at hshared
          omega
        · rintro (⟨failure, hfailure⟩ | ⟨error, herror⟩ | hnone)
          · cases hfailure
          · cases herror
          · rw [hsame (List.length_eq_zero_iff.mp hnone)]
            exact hkeeps

end MidiNode

end

/-! ### A message that is mapped to the transport -/

def performerPolicy : Dict String UserRecord := Dict.set .empty "ada" { roles := [.performer], players := ["alex"] }

def knobRequest : PlayerRequest :=
  { method := "POST", path := "/api/v1/players/alex/midi/input", body := turnedKnob.data }

def mappedNode : MidiNode := { newNode with
    engine := { mappings := [{
          mappingId := "map-1"
          source := { deviceId := "pad", channel := 0, message := .cc, number := 1 }
          target := { targetId := "transport.play", kind := .trigger }
          behavior := "trigger"
          quantize := "off" }] } }

end StageForge
